import RiseVpn.Node.Store

/-!
# Admission of a device by its node

`authenticate` is the gate of the Hysteria server (`policy.Service.Authenticate`), `allowed` the
gate of the Xray server (`Manager.allowed`). Both read one row of the device table and the time; the
part of `authenticate` behind the lookup is `authenticateDevice`.

`authenticateDevice_ok` says that the two gates admit the same rows, and `allowed_iff` in which
rows: an active device of a known plan inside its subscription, which past its quota is admitted
unless it is a trial and before it is admitted unless a lease is present and expired or used up.
`gates_agree` is the agreement of the two servers on the credentials of the table.
-/

set_option autoImplicit false

namespace RiseVpn

structure SessionPolicy where
  upBps : ℤ
  downBps : ℤ
  priority : ℤ
  p2pAllowed : Bool
  deviceId : DeviceId
  throttled : Bool
  compliance : Bool

structure AuthDecision where
  ok : Bool
  id : DeviceId := ""
  policy : Option SessionPolicy := none
  reason : String := ""

/-- The quota both gates compare usage with: a non-positive one stands for the plan's. -/
def Device.effectiveQuota (device : Device) (base : PlanPolicy) : ℤ :=
  if device.quotaBytes ≤ 0 then base.quotaBytes else device.quotaBytes

/-- `Service.Authenticate` behind the lookup of the credential. -/
def authenticateDevice (device : Device) (now : ℤ) : AuthDecision :=
  if ¬ device.active then { ok := false, reason := "device_revoked" }
  else if ¬ now < device.subscriptionEnds then { ok := false, reason := "subscription_expired" }
  else match device.plan.policy with
  | none => { ok := false, reason := "unknown_plan" }
  | some base =>
    let exhausted : Bool := device.effectiveQuota base ≤ device.usedBytes
    if device.plan = .code .trial ∧ exhausted then
      { ok := false, reason := "trial_quota_exhausted" }
    else if ¬ exhausted ∧ 0 < device.leaseBytes ∧
        (¬ now < device.leaseExpires ∨ device.leaseBytes ≤ device.usedBytes) then
      { ok := false, reason := "quota_lease_exhausted" }
    else
      let overridden : Bool := now < device.overrideExpires
      { ok := true
        id := device.id
        policy := some
          { upBps := if overridden then device.overrideUpBps
              else if exhausted then base.throttleBps else base.upBps
            downBps := if overridden then device.overrideDownBps
              else if exhausted then base.throttleBps else base.downBps
            priority := base.priority
            p2pAllowed := if overridden then device.overrideP2p else base.p2pAllowed
            deviceId := device.id
            throttled := exhausted
            compliance := true } }

/-- `Service.Authenticate`. `hash` is `security.Hash`. -/
def authenticate (hash : String → String) (store : Store) (credential : String) (now : ℤ) :
    AuthDecision :=
  if credential = "" then { ok := false, reason := "missing_credential" }
  else match store.deviceByCredentialHash (hash credential) with
  | none => { ok := false, reason := "invalid_credential" }
  | some device => authenticateDevice device now

def allowed (device : Device) (now : ℤ) : Bool :=
  if ¬ device.active ∨ ¬ now < device.subscriptionEnds then false
  else match device.plan.policy with
  | none => false
  | some base =>
    let exhausted : Bool := device.effectiveQuota base ≤ device.usedBytes
    if device.plan = .code .trial ∧ exhausted then false
    else exhausted || decide (device.leaseBytes ≤ 0) ||
      (decide (now < device.leaseExpires) && decide (device.usedBytes < device.leaseBytes))

theorem allowed_iff (device : Device) (now : ℤ) :
    allowed device now = true ↔ device.active = true ∧ now < device.subscriptionEnds ∧
      ∃ base, device.plan.policy = some base ∧
        ((device.effectiveQuota base ≤ device.usedBytes ∧ device.plan ≠ .code .trial) ∨
          (device.usedBytes < device.effectiveQuota base ∧
            (device.leaseBytes ≤ 0 ∨
              (now < device.leaseExpires ∧ device.usedBytes < device.leaseBytes)))) := by
  unfold allowed
  by_cases hactive : device.active = true
  · by_cases hcurrent : now < device.subscriptionEnds
    · cases hpolicy : device.plan.policy with
      | none => simp [hactive, hcurrent]
      | some base =>
        by_cases hexhausted : device.effectiveQuota base ≤ device.usedBytes
        · simp [hactive, hcurrent, hexhausted, Int.not_lt.mpr hexhausted]
        · simp [hactive, hcurrent, hexhausted, Int.not_le.mp hexhausted]
    · simp [hcurrent]
  · simp [hactive]

theorem allowed_paid_iff {device : Device} {base : PlanPolicy} (hactive : device.active = true)
    (hbase : device.plan.policy = some base) (hpaid : device.plan ≠ .code .trial) (now : ℤ) :
    allowed device now = true ↔ now < device.subscriptionEnds ∧
      (device.effectiveQuota base ≤ device.usedBytes ∨ device.leaseBytes ≤ 0 ∨
        (now < device.leaseExpires ∧ device.usedBytes < device.leaseBytes)) := by
  rw [allowed_iff]
  constructor
  · rintro ⟨-, hcurrent, found, hfound, hcase⟩
    obtain rfl := Option.mem_unique hfound hbase
    refine ⟨hcurrent, ?_⟩
    rcases hcase with ⟨hexhausted, -⟩ | ⟨-, hlease⟩
    · exact .inl hexhausted
    · exact .inr hlease
  · rintro ⟨hcurrent, hcase⟩
    refine ⟨hactive, hcurrent, base, hbase, ?_⟩
    rcases le_or_gt (device.effectiveQuota base) device.usedBytes with hexhausted | hleft
    · exact .inl ⟨hexhausted, hpaid⟩
    · exact .inr ⟨hleft, hcase.resolve_left (Int.not_le.mpr hleft)⟩

theorem authenticateDevice_ok (device : Device) (now : ℤ) :
    (authenticateDevice device now).ok = allowed device now := by
  unfold authenticateDevice allowed
  by_cases hactive : device.active = true
  · by_cases hcurrent : now < device.subscriptionEnds
    · cases hpolicy : device.plan.policy with
      | none => simp [hactive, hcurrent]
      | some base =>
        by_cases hexhausted : device.effectiveQuota base ≤ device.usedBytes
        · by_cases htrial : device.plan = .code .trial <;>
            simp [hactive, hcurrent, hexhausted, htrial]
        · by_cases hpresent : 0 < device.leaseBytes
          · by_cases hcurrentLease : now < device.leaseExpires <;>
              by_cases hunused : device.leaseBytes ≤ device.usedBytes <;>
              simp [hactive, hcurrent, hexhausted, hpresent, hcurrentLease, hunused,
                Int.not_le.mpr hpresent, Int.not_le.mp]
          · simp [hactive, hcurrent, hexhausted, hpresent, Int.not_lt.mp hpresent]
    · simp [hactive, hcurrent]
  · simp [hactive]

variable {now : ℤ} {credential : String} {hash : String → String} {store : Store}

theorem authenticateDevice_id {device : Device} (hok : (authenticateDevice device now).ok = true) :
    (authenticateDevice device now).id = device.id := by
  unfold authenticateDevice at hok ⊢
  by_cases hactive : device.active = true
  · by_cases hcurrent : now < device.subscriptionEnds
    · cases hpolicy : device.plan.policy with
      | none => simp [hactive, hcurrent, hpolicy] at hok
      | some base =>
        simp only [hactive, hcurrent, hpolicy, not_true_eq_false, if_false] at hok ⊢
        split at hok
        · cases hok
        · rename_i htrial
          rw [if_neg htrial]
          split at hok
          · cases hok
          · rename_i hlease
            rw [if_neg hlease]
    · simp [hactive, hcurrent] at hok
  · simp [hactive] at hok

theorem authenticate_of_stored {id : DeviceId} {row : StoredDevice} (hcredential : credential ≠ "")
    (hrow : store.storedById id = some row) (hhash : row.credentialHash = hash credential)
    (now : ℤ) :
    authenticate hash store credential now = authenticateDevice (Store.scanDevice row) now := by
  rw [authenticate, if_neg hcredential, ← hhash, Store.deviceByCredentialHash_of_stored hrow]

theorem authenticate_admitted (hok : (authenticate hash store credential now).ok = true) :
    ∃ row, store.storedById (authenticate hash store credential now).id = some row ∧
      authenticate hash store credential now =
        authenticateDevice (Store.scanDevice row) now := by
  unfold authenticate at hok ⊢
  by_cases hempty : credential = ""
  · simp [hempty] at hok
  · rw [if_neg hempty] at hok ⊢
    cases hfound : store.deviceByCredentialHash (hash credential) with
    | none =>
      rw [hfound] at hok
      cases hok
    | some device =>
      simp only [hfound] at hok ⊢
      obtain ⟨row, hrow, rfl⟩ := Option.map_eq_some_iff.mp hfound
      refine ⟨row, ?_, rfl⟩
      rw [authenticateDevice_id hok]
      exact (KeyedTable.lookup_eq_some_iff store.devices.ids_nodup).mpr
        ⟨KeyedTable.lookup_some_mem hrow, rfl⟩

theorem authenticate_ok (hok : (authenticate hash store credential now).ok = true) :
    ∃ row, store.storedById (authenticate hash store credential now).id = some row ∧
      allowed (Store.scanDevice row) now = true := by
  obtain ⟨row, hrow, hsame⟩ := authenticate_admitted hok
  refine ⟨row, hrow, ?_⟩
  rw [← authenticateDevice_ok, ← hsame]
  exact hok

/-- Assumes: a row of the table, and a credential whose hash is stored in it. The gate of the
Hysteria server admits the credential exactly when that of the Xray server admits the row. -/
theorem gates_agree {hash : String → String} {store : Store} {credential : String} {id : DeviceId}
    {row : StoredDevice} (hcredential : credential ≠ "") (hrow : store.storedById id = some row)
    (hhash : row.credentialHash = hash credential) (now : ℤ) :
    (authenticate hash store credential now).ok = true ↔
      allowed (Store.scanDevice row) now = true := by
  rw [authenticate_of_stored hcredential hrow hhash, authenticateDevice_ok]

def throttledRow : StoredDevice where
  deviceId := "device"
  credentialHash := "hash"
  plan := .code .lite
  active := true
  subscriptionEnds := 100
  periodEnds := 100
  quotaBytes := -1
  usedBytes := 150000000000
  leaseBytes := 1000000000
  leaseExpires := 10
  overrideUpBps := 0
  overrideDownBps := 0
  overrideP2p := false
  overrideExpires := 0

def throttledStore : Store where
  state := fun _ ↦ none
  devices := ⟨[throttledRow], List.nodup_singleton _, List.nodup_singleton _⟩
  usageEvents := []
  lastUsageId := 0

theorem gates_agree_throttled :
    throttledStore.storedById "device" = some throttledRow ∧
      (authenticate id throttledStore "hash" (ofUnix 50)).ok = true := by
  have hrow : throttledStore.storedById "device" = some throttledRow := rfl
  exact ⟨hrow, (gates_agree (by decide) hrow rfl (ofUnix 50)).mpr (by decide)⟩

end RiseVpn
