import RiseVpn.Library.GuardedRun
import RiseVpn.Node.DeviceCommands
import RiseVpn.Node.XrayManager

/-!
# The users of Xray and the device table

A node with its Xray manager as one system: control messages, the usage that the two collectors
count, the passage of time, runs of `Manager.Reconcile`, restarts of the node process, which empty
the manager's memory, and whatever else becomes of the users that Xray holds.

After a run of `Reconcile` the users of the inbound are to be the devices that
`Service.Authenticate` admits (`InStep`). The manager leaves blocked devices out, and a device stays
blocked until its next upsert, so the two agree as long as no blocked device is admissible:
`Refused` is this invariant. A `session.kick` of an admissible device breaks it, and so does usage
that takes a blocked device, refused for its lease, to the end of a paid quota, where it is admitted
again at the throttled rate. `Unblocking` is the condition on the steps that leaves these out,
`membership_in_step` the result, and `kicked_device_stays_out` a run outside the condition.
-/

set_option autoImplicit false

namespace RiseVpn

open KeyedTable GuardedRun

/-! ### The calls of the client -/

inductive ManagerCall
  | upsert (device : Device)
  | revoke (id : DeviceId)
  | kick (id : DeviceId)

section

variable (vlessId : String → Option String)

def XrayManager.call (answers : Bool) (manager : XrayManager) (now : ℤ) :
    ManagerCall → XrayManager × Except String Unit
  | .upsert device => manager.upsert vlessId answers device now
  | .revoke id => manager.revoke answers id
  | .kick id => manager.kick answers id

def XrayManager.provisioner (answers : Bool) (manager : XrayManager) (now : ℤ) : Provisioner where
  upsert := fun device ↦ (manager.upsert vlessId answers device now).2
  revoke := fun id ↦ (manager.revoke answers id).2
  kick := fun id ↦ (manager.kick answers id).2

/-- The call of the manager that `Client.handle` makes. An upsert and a lease get there when they
would succeed without a provisioner. -/
def managerCall (client : Integrations) (store : Store) (message : Message) (now : ℤ) :
    Option ManagerCall :=
  match message with
  | .deviceUpsert data =>
    match handle { client with provisioner := none } store message now with
    | (next, .ok ()) => (next.deviceById data.deviceId).map .upsert
    | (_, .error _) => none
  | .quotaLease lease =>
    match handle { client with provisioner := none } store message now with
    | (_, .ok ()) =>
      (store.deviceById lease.deviceId).map fun found ↦ .upsert (found.withLease lease)
    | (_, .error _) => none
  | .deviceRevoke data => some (.revoke data.deviceId)
  | .sessionKick data => if data.deviceId = "" then none else some (.kick data.deviceId)
  | _ => none

/-! ### The node -/

structure XrayNode where
  store : Store
  xray : XrayManager
  clock : ℤ

def XrayNode.initial (state : String → Option String) (inbound : Inbound) (clock : ℤ) :
    XrayNode where
  store := ⟨state, ⟨[], List.nodup_nil, List.nodup_nil⟩, [], 0⟩
  xray := ⟨∅, inbound⟩
  clock := clock

/-- What happens on a node. `answers` says whether Xray answers the calls of the step. -/
inductive XrayEvent
  | tick (elapsed : ℕ)
  | message (message : Message) (answers : Bool)
  | hysteriaUsage (id : DeviceId) (txBytes rxBytes : ℤ)
  | xrayUsage (id : DeviceId) (uplink downlink : ℤ) (answers : Bool)
  | reconcile (users : List DeviceId) (additions : List Device)
  | restart
  /-- Xray restarts, or a call or a run of `Reconcile` breaks off half-way. -/
  | inbound (inbound : Inbound)

/-- `Store.Devices`. No caller depends on its order. -/
def Store.allDevices (store : Store) : List Device := store.devices.rows.map Store.scanDevice

/-- `Client.handle` with the manager as its provisioner. -/
def XrayNode.handle (client : Integrations) (node : XrayNode) (message : Message) (answers : Bool) :
    XrayNode :=
  let integrations := { client with
    provisioner := some (node.xray.provisioner vlessId answers node.clock) }
  { node with
    store := (RiseVpn.handle integrations node.store message node.clock).1
    xray := match managerCall client node.store message node.clock with
      | none => node.xray
      | some call => (node.xray.call vlessId answers node.clock call).1 }

/-- The round of `Collector.Collect` for one device. The kick of an exhausted device goes to the
Hysteria server. -/
def XrayNode.hysteriaUsage (node : XrayNode) (id : DeviceId) (txBytes rxBytes : ℤ) : XrayNode :=
  if txBytes < 0 ∨ rxBytes < 0 then node
  else match node.store.addUsage id txBytes rxBytes node.clock with
  | .error _ => node
  | .ok (_, store) => { node with store }

/-- The round of `Manager.CollectUsage` for one device. -/
def XrayNode.xrayUsage (node : XrayNode) (id : DeviceId) (uplink downlink : ℤ) (answers : Bool) :
    XrayNode :=
  if ¬ (0 < uplink ∨ 0 < downlink) then node
  else match node.store.addUsage id uplink downlink node.clock with
  | .error _ => node
  | .ok (_, store) =>
    match store.deviceById id with
    | none => { node with store }
    | some updated =>
      if ¬ allowed updated node.clock then
        { node with store, xray := (node.xray.revoke answers id).1 }
      else { node with store }

def XrayNode.step (client : Integrations) (node : XrayNode) : XrayEvent → Option XrayNode
  | .tick elapsed => some { node with clock := node.clock + elapsed }
  | .message message answers => some (node.handle vlessId client message answers)
  | .hysteriaUsage id txBytes rxBytes => some (node.hysteriaUsage id txBytes rxBytes)
  | .xrayUsage id uplink downlink answers => some (node.xrayUsage id uplink downlink answers)
  | .reconcile users additions =>
    if node.xray.Iterates node.store.allDevices node.clock users additions then
      some { node with
        xray := (node.xray.reconcile vlessId node.store.allDevices node.clock users additions).1 }
    else none
  | .restart => some { node with xray := { node.xray with blocked := ∅ } }
  | .inbound inbound => some { node with xray := { node.xray with inbound } }

/-! ### The property and the condition -/

/-- The users of Xray are the devices whose credentials `Service.Authenticate` admits, each with the
VLESS id of its credential. -/
structure InStep (hash : String → String) (node : XrayNode) : Prop where
  admitted : ∀ id row credential, node.store.storedById id = some row → credential ≠ "" →
    row.credentialHash = hash credential →
    (node.xray.inbound.account id ≠ none ↔
      (authenticate hash node.store credential node.clock).ok = true)
  account : ∀ id row vless, node.store.storedById id = some row →
    node.xray.inbound.account id = some vless → vlessId row.credentialHash = some vless
  absent : ∀ id, node.store.storedById id = none → node.xray.inbound.account id = none

def XrayNode.Refuses (node : XrayNode) (id : DeviceId) : Prop :=
  ∀ row ∈ node.store.storedById id, allowed (Store.scanDevice row) node.clock = false

def XrayNode.StaysRefused (node : XrayNode) (id : DeviceId) (bytes : ℤ) : Prop :=
  id ∈ node.xray.blocked → ∀ row ∈ node.store.storedById id,
    allowed (Store.scanDevice (Store.countedRow bytes row)) node.clock = false

/-- The condition on a step: a device that is kicked is one that the node refuses, usage brings no
blocked device to the end of its quota, and the credential hash of an upsert is a digest. -/
def Unblocking (node : XrayNode) : XrayEvent → XrayNode → Prop
  | .message (.sessionKick data) _, _ => data.deviceId = "" ∨ node.Refuses data.deviceId
  | .message (.deviceUpsert data) _, _ => vlessId data.credentialHash ≠ none
  | .hysteriaUsage id txBytes rxBytes, _ => node.StaysRefused id (txBytes + rxBytes)
  | .xrayUsage id uplink downlink _, _ => node.StaysRefused id (uplink + downlink)
  | _, _ => True

structure Refused (node : XrayNode) : Prop where
  blocked : ∀ id ∈ node.xray.blocked, node.Refuses id
  digests : ∀ id row, node.store.storedById id = some row → vlessId row.credentialHash ≠ none

end

section Steps

variable {vlessId : String → Option String} {client : Integrations} {hash : String → String}
  {node next : XrayNode} {id : DeviceId} {answers : Bool} {store : Store}

/-! ### Rows -/

theorem allowed_antitone {device : Device} {now later : ℤ} (hlater : now ≤ later)
    (hrefused : allowed device now = false) : allowed device later = false := by
  rw [← Bool.not_eq_true] at hrefused ⊢
  intro hallowed
  apply hrefused
  rw [allowed_iff] at hallowed ⊢
  obtain ⟨hactive, hcurrent, base, hbase, hquota⟩ := hallowed
  refine ⟨hactive, hlater.trans_lt hcurrent, base, hbase, hquota.imp_right fun hlease ↦ ?_⟩
  exact ⟨hlease.1, hlease.2.imp_right fun hleft ↦ ⟨hlater.trans_lt hleft.1, hleft.2⟩⟩

theorem allowed_of_inactive {device : Device} (hinactive : device.active = false) (now : ℤ) :
    allowed device now = false := by
  simp [allowed, hinactive]

theorem allowed_overriddenRow (up down : ℤ) (p2p : Bool) (expires : ℤ) (row : StoredDevice)
    (now : ℤ) :
    allowed (Store.scanDevice (Store.overriddenRow up down p2p expires row)) now =
      allowed (Store.scanDevice row) now := rfl

/-! ### Messages -/

theorem managerCall_deviceUpsert (client : Integrations) (store : Store) (data : DeviceUpsert)
    (now : ℤ) (provisioner : Option Provisioner) :
    ((handle { client with provisioner } store (.deviceUpsert data) now).1 = store ∧
        managerCall client store (.deviceUpsert data) now = none) ∨
      ∃ device, device.id = data.deviceId ∧
        managerCall client store (.deviceUpsert data) now = some (.upsert device) := by
  simp only [managerCall, handle, handleDeviceUpsert]
  split
  · exact .inl ⟨rfl, rfl⟩
  · split
    · exact .inl ⟨rfl, rfl⟩
    · split
      · exact .inl ⟨rfl, rfl⟩
      · rename_i written hwritten
        have hstored : written.storedById data.deviceId = _ :=
          Store.storedById_upsertDevice hwritten
        have hfound : ∃ device, written.deviceById data.deviceId = some device ∧
            device.id = data.deviceId := by
          rw [Store.deviceById, hstored]
          exact ⟨_, rfl, Store.storedById_id hstored⟩
        obtain ⟨device, hdevice, hid⟩ := hfound
        refine .inr ⟨device, hid, ?_⟩
        simp only [hdevice, Integrations.provision, Option.map_some]

theorem managerCall_quotaLease (client : Integrations) (store : Store) (lease : QuotaLease)
    (now : ℤ) (provisioner : Option Provisioner) :
    ((handle { client with provisioner } store (.quotaLease lease) now).1 = store ∧
        managerCall client store (.quotaLease lease) now = none) ∨
      ∃ device, device.id = lease.deviceId ∧
        managerCall client store (.quotaLease lease) now = some (.upsert device) := by
  have hcheck : store.checkLease { client with provisioner := none } lease now =
      store.checkLease { client with provisioner } lease now := rfl
  simp only [managerCall, handle, handleQuotaLease, hcheck]
  split
  · exact .inl ⟨rfl, rfl⟩
  · split
    · exact .inl ⟨rfl, rfl⟩
    · rename_i found hfound
      obtain ⟨row, hrow, rfl⟩ := Option.map_eq_some_iff.mp hfound
      split
      · exact .inl ⟨rfl, rfl⟩
      · refine .inr ⟨(Store.scanDevice row).withLease lease, Store.storedById_id hrow, ?_⟩
        simp only [Integrations.provision, Store.deviceById, hrow, Option.map_some]

theorem Refused.of_unblocked {message : Message} (hrefused : Refused vlessId node)
    (hwrites : message.WritesTo id)
    (hcall : (node.handle vlessId client message answers).store = node.store ∧
        managerCall client node.store message node.clock = none ∨
      ∃ device, device.id = id ∧
        managerCall client node.store message node.clock = some (.upsert device)) :
    ∀ other ∈ (node.handle vlessId client message answers).xray.blocked,
      (node.handle vlessId client message answers).Refuses other := by
  intro other hother row hrow
  rcases hcall with ⟨hstore, hnone⟩ | ⟨device, rfl, hcall⟩
  · rw [hstore] at hrow
    simp only [XrayNode.handle, hnone] at hother
    exact hrefused.blocked other hother row hrow
  · simp only [XrayNode.handle, hcall, XrayManager.call, XrayManager.blocked_upsert] at hother
    obtain ⟨hne, hblocked⟩ := Finset.mem_erase.mp hother
    have hold : node.store.storedById other = some row :=
      (others_handle hwrites hne).symm.trans hrow
    exact hrefused.blocked other hblocked row hold

theorem Refused.of_silent {message : Message} (hrefused : Refused vlessId node)
    (hcall : managerCall client node.store message node.clock = none)
    (hrows : ∀ other row', (node.handle vlessId client message answers).store.storedById other =
      some row' → ∃ row, node.store.storedById other = some row ∧
        allowed (Store.scanDevice row') node.clock = allowed (Store.scanDevice row) node.clock) :
    ∀ other ∈ (node.handle vlessId client message answers).xray.blocked,
      (node.handle vlessId client message answers).Refuses other := by
  intro other hother row' hrow'
  simp only [XrayNode.handle, hcall] at hother
  obtain ⟨row, hrow, hsame⟩ := hrows other row' hrow'
  exact hsame.trans (hrefused.blocked other hother row hrow)

section

variable (hrefused : Refused vlessId node) (message : Message)
  (hcondition : Unblocking vlessId node (.message message answers) next)

include hrefused hcondition

theorem Refused.blocked_handle :
    ∀ other ∈ (node.handle vlessId client message answers).xray.blocked,
      (node.handle vlessId client message answers).Refuses other := by
  cases message with
  | deviceUpsert data =>
    exact hrefused.of_unblocked rfl (managerCall_deviceUpsert client node.store data node.clock _)
  | quotaLease lease =>
    exact hrefused.of_unblocked rfl (managerCall_quotaLease client node.store lease node.clock _)
  | deviceRevoke data =>
    intro other hother row hrow
    have hinsert : other ∈ insert data.deviceId node.xray.blocked := by
      rw [← XrayManager.blocked_revoke answers]
      exact hother
    have hstored : (node.store.revokeDevice data.deviceId).storedById other = some row := hrow
    by_cases hsame : other = data.deviceId
    · rw [hsame, storedById_revokeDevice] at hstored
      obtain ⟨old, -, rfl⟩ := Option.map_eq_some_iff.mp hstored
      exact allowed_of_inactive rfl node.clock
    · rw [(revokeDevice_onlyDevice node.store data.deviceId).others other hsame] at hstored
      exact hrefused.blocked other ((Finset.mem_insert.mp hinsert).resolve_left hsame) row hstored
  | sessionKick data =>
    intro other hother
    change node.Refuses other
    simp only [XrayNode.handle, managerCall] at hother
    split_ifs at hother with hempty
    · exact hrefused.blocked other hother
    · have hinsert : other ∈ insert data.deviceId node.xray.blocked := by
        rw [← XrayManager.blocked_revoke answers]
        exact hother
      rcases Finset.mem_insert.mp hinsert with rfl | hblocked
      · exact hcondition.resolve_left hempty
      · exact hrefused.blocked other hblocked
  | policyOverride data =>
    refine hrefused.of_silent rfl fun other row' hrow' ↦ ?_
    simp only [XrayNode.handle, RiseVpn.handle] at hrow'
    split_ifs at hrow' with hinvalid
    · exact ⟨row', hrow', rfl⟩
    · by_cases hsame : other = data.deviceId
      · rw [hsame, storedById_applyPolicyOverride] at hrow'
        obtain ⟨row, hrow, rfl⟩ := Option.map_eq_some_iff.mp hrow'
        exact ⟨row, hsame ▸ hrow, allowed_overriddenRow _ _ _ _ row node.clock⟩
      · rw [(applyPolicyOverride_onlyDevice ..).others other hsame] at hrow'
        exact ⟨row', hrow', rfl⟩
  | complianceFeed | usageAck | certificateRotate | other | malformed =>
    refine hrefused.of_silent rfl fun other row' hrow' ↦ ⟨row', ?_, rfl⟩
    rw [← hrow']
    exact (storedById_handle_other id).symm

theorem Refused.digests_handle {row' : StoredDevice}
    (hrow' : (node.handle vlessId client message answers).store.storedById id = some row') :
    vlessId row'.credentialHash ≠ none := by
  simp only [XrayNode.handle] at hrow'
  by_cases hwrites : message.WritesTo id
  · rcases storedById_handle_cases _ node.store node.clock hwrites with ⟨hsame, -⟩ | heffect
    · exact hrefused.digests id row' (hsame.symm.trans hrow')
    · rcases upserted_rowEffect (heffect.symm.trans hrow') with
        ⟨old, hold, -, hhash⟩ | ⟨data, rfl, -, hhash⟩
      · rw [hhash]
        exact hrefused.digests id old hold
      · rw [hhash]
        exact hcondition
  · rw [storedById_handle_other hwrites] at hrow'
    exact hrefused.digests id row' hrow'

end

/-! ### Usage -/

section

variable (hrefused : Refused vlessId node)

include hrefused

theorem Refused.addUsage {txBytes rxBytes used : ℤ}
    (hstays : node.StaysRefused id (txBytes + rxBytes))
    (hstore : node.store.addUsage id txBytes rxBytes node.clock = .ok (used, store)) :
    Refused vlessId { node with store } where
  blocked := by
    intro other hother row hrow
    change store.storedById other = some row at hrow
    rw [Store.storedById_addUsage hstore] at hrow
    split_ifs at hrow with hsame
    · obtain ⟨old, hold, rfl⟩ := Option.map_eq_some_iff.mp hrow
      exact hstays (hsame ▸ hother) old hold
    · exact hrefused.blocked other hother row hrow
  digests := by
    intro other row hrow
    rw [Store.storedById_addUsage hstore] at hrow
    split_ifs at hrow with hsame
    · obtain ⟨old, hold, rfl⟩ := Option.map_eq_some_iff.mp hrow
      exact hrefused.digests id old hold
    · exact hrefused.digests other row hrow

theorem Refused.revoke (answers : Bool) (hid : node.Refuses id) :
    Refused vlessId { node with xray := (node.xray.revoke answers id).1 } where
  blocked := by
    intro other hother
    change other ∈ (node.xray.revoke answers id).1.blocked at hother
    rw [XrayManager.blocked_revoke] at hother
    rcases Finset.mem_insert.mp hother with rfl | hblocked
    · exact hid
    · exact hrefused.blocked other hblocked
  digests := hrefused.digests

theorem Refused.hysteriaUsage {txBytes rxBytes : ℤ}
    (hstays : node.StaysRefused id (txBytes + rxBytes)) :
    Refused vlessId (node.hysteriaUsage id txBytes rxBytes) := by
  unfold XrayNode.hysteriaUsage
  split_ifs
  · exact hrefused
  · split
    · exact hrefused
    · rename_i hstore
      exact hrefused.addUsage hstays hstore

theorem Refused.xrayUsage {uplink downlink : ℤ} (hstays : node.StaysRefused id (uplink + downlink))
    (answers : Bool) : Refused vlessId (node.xrayUsage id uplink downlink answers) := by
  unfold XrayNode.xrayUsage
  split_ifs
  · split
    · exact hrefused
    · rename_i hstore
      have hcounted := hrefused.addUsage hstays hstore
      split
      · exact hcounted
      · rename_i updated hupdated
        split_ifs with hallowed
        · exact hcounted
        · refine hcounted.revoke answers fun row hrow ↦ ?_
          obtain ⟨found, hfound, rfl⟩ := Option.map_eq_some_iff.mp hupdated
          obtain rfl := Option.mem_unique hfound hrow
          exact Bool.not_eq_true _ ▸ hallowed
  · exact hrefused

/-! ### The run -/

theorem Refused.step {event : XrayEvent} (hcondition : Unblocking vlessId node event next)
    (hstep : node.step vlessId client event = some next) : Refused vlessId next := by
  cases event with
  | tick elapsed =>
    cases hstep
    refine ⟨fun id hid row hrow ↦ ?_, hrefused.digests⟩
    have hlater : node.clock ≤ node.clock + elapsed := by omega
    exact allowed_antitone hlater (hrefused.blocked id hid row hrow)
  | message message answers =>
    cases hstep
    exact ⟨hrefused.blocked_handle message hcondition,
      fun id row ↦ hrefused.digests_handle message hcondition⟩
  | hysteriaUsage id txBytes rxBytes =>
    cases hstep
    exact hrefused.hysteriaUsage hcondition
  | xrayUsage id uplink downlink answers =>
    cases hstep
    exact hrefused.xrayUsage hcondition answers
  | reconcile users additions =>
    obtain ⟨-, hnext⟩ := Option.ite_none_right_eq_some.mp hstep
    cases hnext
    refine ⟨fun id hid ↦ hrefused.blocked id ?_, hrefused.digests⟩
    rwa [← XrayManager.blocked_reconcile vlessId]
  | restart =>
    cases hstep
    exact ⟨fun id hid ↦ absurd hid (Finset.notMem_empty id), hrefused.digests⟩
  | inbound inbound =>
    cases hstep
    exact ⟨hrefused.blocked, hrefused.digests⟩

end

theorem refused_of_reachable {state : String → Option String} {inbound : Inbound} {clock : ℤ}
    (hreach : ReachableUnder (XrayNode.step vlessId client) (Unblocking vlessId)
      (XrayNode.initial state inbound clock) node) : Refused vlessId node := by
  refine hreach.invariant (Refused vlessId) ⟨?_, ?_⟩ fun _ _ _ h ↦ h.step
  · exact fun id hid ↦ absurd hid (Finset.notMem_empty id)
  · exact fun id row hrow ↦ nomatch hrow

/-! ### What `Reconcile` wants -/

theorem lookup_allDevices (store : Store) (id : DeviceId) :
    lookup Device.id id store.allDevices = store.deviceById id := by
  rw [lookup, Store.allDevices, List.find?_map]
  rfl

theorem nodup_allDevices (store : Store) : (store.allDevices.map Device.id).Nodup := by
  rw [Store.allDevices, List.map_map]
  exact store.devices.ids_nodup

theorem wanted_of_absent (habsent : node.store.storedById id = none) :
    XrayManager.wanted vlessId (node.xray.desired node.store.allDevices node.clock) id = none := by
  have hnone : lookup Device.id id node.store.allDevices = none := by
    rw [lookup_allDevices, Store.deviceById, habsent, Option.map_none]
  have hdesired :
      lookup Device.id id (node.xray.desired node.store.allDevices node.clock) = none := by
    rw [lookup_eq_none_iff] at hnone ⊢
    exact fun device hdevice ↦ hnone device (List.mem_of_mem_filter hdevice)
  rw [XrayManager.wanted, hdesired, Option.bind_none]

theorem wanted_of_stored {row : StoredDevice} (hrefused : Refused vlessId node)
    (hrow : node.store.storedById id = some row) :
    XrayManager.wanted vlessId (node.xray.desired node.store.allDevices node.clock) id =
      if allowed (Store.scanDevice row) node.clock then vlessId row.credentialHash else none := by
  have hnodup : ((node.xray.desired node.store.allDevices node.clock).map Device.id).Nodup :=
    (List.filter_sublist.map Device.id).nodup (nodup_allDevices node.store)
  have hfound : lookup Device.id id node.store.allDevices = some (Store.scanDevice row) := by
    rw [lookup_allDevices, Store.deviceById, hrow, Option.map_some]
  obtain ⟨hmem, hid⟩ := (lookup_eq_some_iff (nodup_allDevices node.store)).mp hfound
  split_ifs with hallowed
  · have hfree : (Store.scanDevice row).id ∉ node.xray.blocked := by
      intro hblocked
      rw [hrefused.blocked _ (hid ▸ hblocked) row hrow] at hallowed
      cases hallowed
    have hdesired : lookup Device.id id (node.xray.desired node.store.allDevices node.clock) =
        some (Store.scanDevice row) :=
      (lookup_eq_some_iff hnodup).mpr
        ⟨List.mem_filter.mpr ⟨hmem, by simp [hallowed, hfree]⟩, hid⟩
    rw [XrayManager.wanted, hdesired, Option.bind_some]
    rfl
  · have hdesired :
        lookup Device.id id (node.xray.desired node.store.allDevices node.clock) = none := by
      rw [lookup_eq_none_iff]
      intro device hdevice hsame
      obtain ⟨hin, hpasses⟩ := List.mem_filter.mp hdevice
      have hlookup : lookup Device.id id node.store.allDevices = some device :=
        (lookup_eq_some_iff (nodup_allDevices node.store)).mpr ⟨hin, hsame⟩
      obtain rfl := Option.mem_unique hfound hlookup
      exact hallowed (Bool.and_eq_true_iff.mp hpasses).1
    rw [XrayManager.wanted, hdesired, Option.bind_none]

/-- Assumes: a node that was reached by steps that meet the condition, and a run of `Reconcile`
whose calls all succeed. It ends without an error, and the users of Xray are then the devices that
the Hysteria server admits. -/
theorem membership_in_step {state : String → Option String} {inbound : Inbound} {clock : ℤ}
    (hreach : ReachableUnder (XrayNode.step vlessId client) (Unblocking vlessId)
      (XrayNode.initial state inbound clock) node)
    {users : List DeviceId} {additions : List Device}
    (horder : node.xray.Iterates node.store.allDevices node.clock users additions) :
    ∃ next, node.step vlessId client (.reconcile users additions) = some next ∧
      (node.xray.reconcile vlessId node.store.allDevices node.clock users additions).2 = .ok () ∧
      InStep vlessId hash next := by
  have hrefused := refused_of_reachable hreach
  have hdigests : ∀ device ∈ node.xray.desired node.store.allDevices node.clock,
      vlessId device.credentialHash ≠ none := by
    intro device hdevice
    obtain ⟨row, hrow, rfl⟩ := List.mem_map.mp (List.mem_of_mem_filter hdevice)
    exact hrefused.digests row.deviceId row
      ((lookup_eq_some_iff node.store.devices.ids_nodup).mpr ⟨hrow, rfl⟩)
  obtain ⟨after, hreconcile, haccounts⟩ :=
    XrayManager.reconcile_ok (nodup_allDevices node.store) hdigests horder
  refine ⟨{ node with xray := { node.xray with inbound := after } }, ?_, ?_, ?_, ?_, ?_⟩
  · simp only [XrayNode.step, if_pos horder, hreconcile]
  · rw [hreconcile]
  · intro id row credential hrow hcredential hhash
    rw [authenticate_of_stored hcredential hrow hhash, authenticateDevice_ok, haccounts,
      wanted_of_stored hrefused hrow]
    have hdigest := hrefused.digests id row hrow
    split_ifs with hallowed
    · simp [hallowed, hdigest]
    · simp [hallowed]
  · intro id row vless hrow haccount
    change after.account id = some vless at haccount
    rw [haccounts, wanted_of_stored hrefused hrow] at haccount
    exact (Option.ite_none_right_eq_some.mp haccount).2
  · intro id habsent
    exact (haccounts id).trans (wanted_of_absent habsent)

end Steps

/-! ### Runs -/

def soloXrayUpsert : DeviceUpsert where
  deviceId := "device"
  credentialHash := "hash"
  plan := .code .lite
  active := true
  subscriptionEnds := ofUnix 100
  periodEnds := ofUnix 100
  quotaBytes := 0

def soloXrayRef : DeviceRef := ⟨"device", "reason"⟩

def soloXrayNode : XrayNode := XrayNode.initial soloStore.state ⟨[], List.nodup_nil⟩ 0

def returnedXrayNode : XrayNode :=
  let served := soloXrayNode.handle some soloIntegrations (.deviceUpsert soloXrayUpsert) true
  let revoked := served.handle some soloIntegrations (.deviceRevoke soloXrayRef) true
  let returned := revoked.handle some soloIntegrations (.deviceUpsert soloXrayUpsert) true
  { returned with xray := { returned.xray with inbound := ⟨[], List.nodup_nil⟩ } }

theorem membership_in_step_returned :
    ∃ next, returnedXrayNode.step some soloIntegrations
        (.reconcile [] returnedXrayNode.store.allDevices) = some next ∧
      InStep some id next ∧ next.xray.inbound.account "device" = some "hash" := by
  have hruns : RunMeets (XrayNode.step some soloIntegrations) (Unblocking some) soloXrayNode
      [.message (.deviceUpsert soloXrayUpsert) true, .message (.deviceRevoke soloXrayRef) true,
        .message (.deviceUpsert soloXrayUpsert) true, .inbound ⟨[], List.nodup_nil⟩]
      returnedXrayNode :=
    ⟨_, rfl, nofun, _, rfl, trivial, _, rfl, nofun, _, rfl, trivial, rfl⟩
  have horder : returnedXrayNode.xray.Iterates returnedXrayNode.store.allDevices
      returnedXrayNode.clock [] returnedXrayNode.store.allDevices := by decide
  obtain ⟨next, hnext, -, hinStep⟩ :=
    membership_in_step (reachableUnder_of_runMeets hruns) horder
  refine ⟨next, hnext, hinStep, ?_⟩
  cases hnext
  decide

/-- A counterexample: a device is served and kicked. The Hysteria server admits it, and `Reconcile`
leaves it out. -/
theorem kicked_device_stays_out :
    ∃ node, run (XrayNode.step some soloIntegrations) soloXrayNode
        [.message (.deviceUpsert soloXrayUpsert) true, .message (.sessionKick soloXrayRef) true,
          .reconcile [] []] = some node ∧
      (authenticate id node.store "hash" node.clock).ok = true ∧
      node.xray.inbound.account "device" = none :=
  ⟨_, rfl, by decide, by decide⟩

end RiseVpn
