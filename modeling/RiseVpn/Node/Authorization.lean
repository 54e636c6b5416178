import RiseVpn.Node.Admission
import RiseVpn.Node.Compliance

/-!
# Authorization of a connection by its node

`policy.Service.Authorize` is asked before a connection of an admitted device is opened:
`authorize`. It refuses the addresses that the compliance rules block and, unless the device may use
it, what looks like peer-to-peer traffic (`isP2P`). Reads of the node's tables do not fail here, so
there is no answer `backend_error`.

`authenticateDevice_policy` says which rates and which flag an admitted device is given,
`authorize_complianceError` where the answer `compliance_error` comes from, and `authorize_p2p` that
the flag in force decides on peer-to-peer traffic.
-/

set_option autoImplicit false

namespace RiseVpn

def asciiBytes (text : String) : List UInt8 := text.toList.map fun c ↦ c.toNat.toUInt8

def isP2P (cases : CaseMapping) (address : Text) (payload : List UInt8) : Bool :=
  let host := cases.comparedHost (hostOf address)
  let port := portOf address
  if "tracker".toList <:+: host ∨ "announce".toList <:+: host ∨ (6881 ≤ port ∧ port ≤ 6889) ∨
      port = 51413 ∨ port = 6969 then true
  else asciiBytes "\x13BitTorrent protocol" <+: payload ∨
    asciiBytes "announce_peer" <:+: payload ∨ asciiBytes "find_node" <:+: payload

/-- The peer-to-peer flag in force: that of an override until it expires, and then the plan's. -/
def Device.p2pInForce (device : Device) (base : PlanPolicy) (now : ℤ) : Bool :=
  if now < device.overrideExpires then device.overrideP2p else base.p2pAllowed

/-- The rates in force, up and down: those of an override until it expires, and then the plan's,
which are throttled past the quota. -/
def Device.ratesInForce (device : Device) (base : PlanPolicy) (now : ℤ) : ℤ × ℤ :=
  if now < device.overrideExpires then (device.overrideUpBps, device.overrideDownBps)
  else if device.effectiveQuota base ≤ device.usedBytes then (base.throttleBps, base.throttleBps)
  else (base.upBps, base.downBps)

theorem authenticateDevice_policy {device : Device} {base : PlanPolicy} {now : ℤ}
    (hbase : device.plan.policy = some base) (hallowed : allowed device now = true) :
    ∃ policy, (authenticateDevice device now).policy = some policy ∧
      (policy.upBps, policy.downBps) = device.ratesInForce base now ∧
      policy.p2pAllowed = device.p2pInForce base now := by
  obtain ⟨hactive, hcurrent, -⟩ := (allowed_iff device now).mp hallowed
  rw [← authenticateDevice_ok] at hallowed
  unfold authenticateDevice at hallowed ⊢
  simp only [hactive, hcurrent, hbase, not_true_eq_false, if_false] at hallowed ⊢
  split at hallowed
  · cases hallowed
  · rename_i htrial
    rw [if_neg htrial]
    split at hallowed
    · cases hallowed
    · rename_i hlease
      rw [if_neg hlease]
      refine ⟨_, rfl, ?_, ?_⟩
      · simp only [Device.ratesInForce, decide_eq_true_eq]
        split_ifs <;> rfl
      · simp only [Device.p2pInForce, decide_eq_true_eq]

/-- `Service.Authorize`: whether the connection may be opened, and the reason if not. -/
def authorize (tools : ComplianceTools) (store : Store) (compliance : ComplianceStore)
    (id : DeviceId) (address : Text) (payload : List UInt8) (now : ℤ) : Bool × String :=
  match store.deviceById id with
  | none => (false, "device_revoked")
  | some device =>
    if ¬ device.active then (false, "device_revoked")
    else match compliance.blocked tools address with
    | .error _ => (false, "compliance_error")
    | .ok true => (false, "compliance_blocked")
    | .ok false =>
      match device.plan.policy with
      | none => (false, "unknown_plan")
      | some base =>
        if ¬ device.p2pInForce base now ∧ isP2P tools.cases address payload then
          (false, "p2p_blocked")
        else (true, "")

section

variable {tools : ComplianceTools} {store : Store} {compliance : ComplianceStore} {id : DeviceId}
  {address : Text} {payload : List UInt8} {now : ℤ}

theorem authorize_complianceError
    (herror : (authorize tools store compliance id address payload now).2 = "compliance_error") :
    ∃ message, compliance.blocked tools address = .error message := by
  unfold authorize at herror
  split at herror
  · exact absurd herror (by decide)
  · split at herror
    · exact absurd herror (by decide)
    · split at herror
      · rename_i message hblocked
        exact ⟨message, hblocked⟩
      · exact absurd herror (by decide)
      · split at herror
        · exact absurd herror (by decide)
        · split at herror <;> exact absurd herror (by decide)

theorem authorize_p2p {row : StoredDevice} {base : PlanPolicy}
    (hrow : store.storedById id = some row) (hactive : row.active = true)
    (hblocked : compliance.blocked tools address = .ok false)
    (hbase : row.plan.policy = some base) :
    (authorize tools store compliance id address payload now).1 =
      ((Store.scanDevice row).p2pInForce base now || !isP2P tools.cases address payload) := by
  have hdevice : store.deviceById id = some (Store.scanDevice row) := by
    rw [Store.deviceById, hrow, Option.map_some]
  have hscanned : (Store.scanDevice row).active = true := hactive
  have hpolicy : (Store.scanDevice row).plan.policy = some base := hbase
  simp only [authorize, hdevice, hscanned, hblocked, hpolicy, not_true_eq_false, if_false]
  cases (Store.scanDevice row).p2pInForce base now <;>
    cases isP2P tools.cases address payload <;> rfl

end

end RiseVpn
