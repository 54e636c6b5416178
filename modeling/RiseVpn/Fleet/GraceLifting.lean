import RiseVpn.Fleet.PeriodDelivery
import RiseVpn.Node.Authorization

/-!
# The end of the grace restrictions

A subscription in grace is restricted by an override that the lifecycle worker sends to the nodes of
its devices. The user then buys a plan, `provisionUserDevices` sends the devices, and a node handles
what is queued. A `device.upsert` brings the plan, the new end and the quota; it leaves the columns
of the override, which is in force until it expires.

`Uniform` is what every reachable system has: the upserts carry one end for the subscription and the
period, and an override has the rates of the grace. `plan_restored_iff` says when a device is given
the rates and the peer-to-peer flag of the bought plan: when the call for the device was made, which
needs quota left for a lease, and the override has expired. `override_outlives_purchase` is a
purchase after which the device stays restricted.
-/

set_option autoImplicit false

namespace RiseVpn.Fleet

open Control GuardedRun

/-! ### What every system has -/

def UniformMessage : Message → Prop
  | .deviceUpsert data => data.periodEnds = data.subscriptionEnds
  | .policyOverride data => data.upBps = 1000000 ∧ data.downBps = 1000000
  | _ => True

/-- A row has one end, and an override, if there was one, has the rates of the grace. -/
structure UniformRow (row : StoredDevice) : Prop where
  ends : row.periodEnds = row.subscriptionEnds
  override : row.overrideExpires = 0 ∨ row.overrideUpBps = 1000000 ∧ row.overrideDownBps = 1000000

def UniformStore (store : Store) : Prop :=
  ∀ id row, store.storedById id = some row → UniformRow row

structure Uniform (world : World) : Prop where
  queued : ∀ command ∈ world.db.commands, UniformMessage command.message
  selected : ∀ row ∈ world.selected, UniformMessage row.2
  stored : ∀ node, UniformStore (world.stores node)

section Uniform

variable {environment : Environment} {integrations : Integrations} {db : Database}
  {world next : World} {store : Store}

theorem uniform_upsertMessage (id : DeviceId) (device : DeviceRow) (row : Subscription) :
    UniformMessage (upsertMessage id device row) := rfl

theorem uniform_queued {request : Request} {message : Message}
    (hqueued : QueuedBy environment db request message) : UniformMessage message := by
  cases hqueued with
  | upsert => exact uniform_upsertMessage _ _ _
  | override hup hdown => exact ⟨hup, hdown⟩
  | lease | ended | exhausted | revoke => trivial

theorem uniform_rowEffect {message : Message} (hmessage : UniformMessage message)
    {row : Option StoredDevice} (hrow : ∀ old ∈ row, UniformRow old) {row' : StoredDevice}
    (heffect : rowEffect message row = some row') : UniformRow row' := by
  cases message with
  | deviceUpsert data =>
    have hends : unix data.periodEnds = unix data.subscriptionEnds := congrArg unix hmessage
    cases row with
    | none =>
      cases heffect
      exact ⟨hends, .inl rfl⟩
    | some old =>
      cases heffect
      exact ⟨hends, (hrow old rfl).override⟩
  | quotaLease | deviceRevoke =>
    obtain ⟨old, hold, rfl⟩ := Option.map_eq_some_iff.mp heffect
    exact ⟨(hrow old hold).ends, (hrow old hold).override⟩
  | policyOverride data =>
    obtain ⟨old, hold, rfl⟩ := Option.map_eq_some_iff.mp heffect
    exact ⟨(hrow old hold).ends, .inr hmessage⟩
  | _ => exact hrow row' heffect

theorem UniformStore.handle (hstore : UniformStore store) {message : Message}
    (hmessage : UniformMessage message) (now : ℤ) :
    UniformStore (RiseVpn.handle integrations store message now).1 := by
  intro id row hrow
  by_cases hwrites : message.WritesTo id
  · rcases storedById_handle_cases integrations store now hwrites with ⟨hsame, -⟩ | heffect
    · exact hstore id row (hsame ▸ hrow)
    · exact uniform_rowEffect hmessage (fun old hold ↦ hstore id old hold) (heffect ▸ hrow)
  · exact hstore id row (storedById_handle_other hwrites ▸ hrow)

theorem UniformStore.addUsage (hstore : UniformStore store) {device : DeviceId}
    {txBytes rxBytes now used : ℤ} {after : Store}
    (hafter : store.addUsage device txBytes rxBytes now = .ok (used, after)) :
    UniformStore after := by
  intro id row hrow
  rw [Store.storedById_addUsage hafter] at hrow
  split_ifs at hrow with hsame
  · obtain ⟨old, hold, rfl⟩ := Option.map_eq_some_iff.mp hrow
    exact ⟨(hstore device old hold).ends, (hstore device old hold).override⟩
  · exact hstore id row hrow

theorem Uniform.setStore (huniform : Uniform world) {node : NodeId} (hstore : UniformStore store) :
    Uniform (world.setStore node store) := by
  refine ⟨huniform.queued, huniform.selected, ?_⟩
  exact (Function.forall_update_iff _ fun _ ↦ UniformStore).mpr
    ⟨hstore, fun other _ ↦ huniform.stored other⟩

theorem Uniform.step (huniform : Uniform world) {event : WorldEvent}
    (hstep : world.step environment integrations event = some next) : Uniform next := by
  cases World.stepped hstep with
  | ticked elapsed => exact ⟨huniform.queued, huniform.selected, huniform.stored⟩
  | transacted hontime hrun =>
    refine ⟨fun command hcommand ↦ ?_, huniform.selected, huniform.stored⟩
    rcases mem_queue_program hrun hcommand with hold | hnew
    · exact huniform.queued command hold
    · exact uniform_queued hnew
  | selected node blocked =>
    refine ⟨huniform.queued, fun row hrow ↦ ?_, huniform.stored⟩
    rcases List.mem_append.mp hrow with hold | hnew
    · exact huniform.selected row hold
    · obtain ⟨message, hmessage, rfl⟩ := List.mem_map.mp hnew
      obtain ⟨_, _, _, _, -, -, -, -, rfl⟩ := mem_deviceResync hmessage
      exact uniform_upsertMessage _ _ _
  | @inserted row hselected =>
    refine ⟨fun command hcommand ↦ ?_,
      fun other hother ↦ huniform.selected other (List.mem_of_mem_erase hother), huniform.stored⟩
    rcases mem_enqueue hcommand with hold | ⟨sent, hsent, hmessage⟩
    · exact huniform.queued command hold
    · rw [hmessage, List.mem_singleton.mp hsent]
      exact huniform.selected row hselected
  | @handled command hcommand =>
    have hstored : UniformStore (RiseVpn.handle integrations (world.stores command.nodeId)
        command.message world.clock).1 :=
      (huniform.stored command.nodeId).handle (huniform.queued command hcommand) world.clock
    have hhandled : Uniform (world.setStore command.nodeId _) := huniform.setStore hstored
    exact ⟨hhandled.queued, hhandled.selected, hhandled.stored⟩
  | @counted node device txBytes rxBytes used store hstore =>
    exact huniform.setStore ((huniform.stored node).addUsage hstore)

theorem uniform_of_reachable {users : List UserId} {devices : DeviceId → Option DeviceRow}
    {assignments : DeviceId → Option NodeId} {states : NodeId → String → Option String} {clock : ℤ}
    (hreach : Reachable (World.step environment integrations)
      (.initial (.fresh users devices assignments) clock states) world) : Uniform world := by
  refine hreach.invariant Uniform ⟨?_, ?_, ?_⟩ ?_
  · exact fun command hcommand ↦ absurd hcommand List.not_mem_nil
  · exact fun row hrow ↦ absurd hrow List.not_mem_nil
  · intro node id row hrow
    cases hrow
  · exact fun _ _ _ huniform hstep ↦ huniform.step hstep

end Uniform

/-! ### Commands that are handled one after the other -/

section Handled

variable {integrations : Integrations} {id : DeviceId} {store last : Store}
  {first second order : List (Command × ℤ)}

theorem handledBy_append : HandledBy integrations id store (first ++ second) last ↔
    ∃ middle, HandledBy integrations id store first middle ∧
      HandledBy integrations id middle second last := by
  induction first generalizing store with
  | nil => simp [HandledBy]
  | cons handled rest ih => simp only [List.cons_append, HandledBy, ih, and_assoc, exists_and_left]

theorem HandledBy.invariant (hhandled : HandledBy integrations id store order last)
    (holds : Store → Prop)
    (hkept : ∀ handled ∈ order, ∀ state, holds state →
      holds (handle integrations state handled.1.message handled.2).1)
    (hstart : holds store) : holds last := by
  induction order generalizing store with
  | nil =>
    cases hhandled
    exact hstart
  | cons handled rest ih =>
    obtain ⟨hfirst, hrest⟩ := List.forall_mem_cons.mp hkept
    exact ih hhandled.2 hrest (hfirst store hstart)

end Handled

/-! ### The commands of the calls -/

/-- A command that a loop over calls has queued: the upsert of a call that it has made, or a lease
of a call. -/
inductive Supplied (environment : Environment) (db : Database) (calls : List ProvisionDevice)
    (command : Command) : Prop
  | upsert {id : DeviceId} {user : UserId} {device : DeviceRow} {row : Subscription}
      (hmade : CallMade environment db calls id command.nodeId)
      (howner : environment.directory.owner id = some user) (hdevice : db.devices id = some device)
      (hrow : db.subscriptions user = some row)
      (hmessage : command.message = upsertMessage id device row)
  | lease {call : ProvisionDevice} {key : String} {grant : ℤ} (hcall : call ∈ calls)
      (hgrant : 0 < grant)
      (hmessage : command.message = .quotaLease (issuedLease environment key call grant))

section Calls

variable {environment : Environment} {db next : Database} {call : ProvisionDevice}
  {calls : List ProvisionDevice} {command : Command}

theorem Provisioned.supplied (hcall : Provisioned environment call db next)
    (hfirst : Provisionable environment db call) (calls : List ProvisionDevice) :
    ∃ later, next.commands = db.commands ++ later ∧
      (∀ command ∈ later, Supplied environment db (call :: calls) command) ∧
      ∃ command ∈ later, Sends call.deviceId command ∧ command.nodeId = call.nodeId := by
  have hmade : CallMade environment db (call :: calls) call.deviceId call.nodeId :=
    callMade_cons.mpr ⟨hfirst, .inl ⟨rfl, rfl⟩⟩
  cases hcall with
  | refreshed howner hdevice hrow =>
    refine ⟨_, rfl, fun command hcommand ↦ ?_, _, List.mem_cons_self, ⟨_, rfl, rfl⟩, rfl⟩
    obtain rfl := List.mem_singleton.mp hcommand
    exact .upsert hmade howner hdevice hrow rfl
  | @leased key user device row grant _ howner hdevice hrow _ _ hgrant hsome =>
    refine ⟨_, rfl, fun command hcommand ↦ ?_, _, List.mem_cons_self, ⟨_, rfl, rfl⟩, rfl⟩
    have hnonneg := reservableBytes_nonneg row.remaining
      (reservedBytes call.txNow (db.leases call.deviceId)) 1000000000
    rcases List.mem_pair.mp hcommand with rfl | rfl
    · exact .upsert hmade howner hdevice hrow rfl
    · exact .lease List.mem_cons_self (by omega) rfl

theorem Supplied.cons (hcall : Provisioned environment call db next)
    (hfirst : Provisionable environment db call)
    (hothers : call.deviceId ∉ calls.map ProvisionDevice.deviceId)
    (hsupplied : Supplied environment next calls command) :
    Supplied environment db (call :: calls) command := by
  have hsame : next.subscriptions = db.subscriptions ∧ next.devices = db.devices := by
    cases hcall <;> exact ⟨rfl, rfl⟩
  cases hsupplied with
  | upsert hmade howner hdevice hrow hmessage =>
    rw [hsame.1] at hrow
    rw [hsame.2] at hdevice
    refine .upsert (callMade_cons.mpr ⟨hfirst, .inr ?_⟩) howner hdevice hrow hmessage
    exact (hcall.callMade_iff hothers).mp hmade
  | lease hmem hgrant hmessage => exact .lease (List.mem_cons_of_mem _ hmem) hgrant hmessage

theorem provisionAll_supplied (hnodup : (calls.map ProvisionDevice.deviceId).Nodup)
    (db : Database) :
    ∃ later, (provisionAll environment calls db).1.commands = db.commands ++ later ∧
      (∀ command ∈ later, Supplied environment db calls command) ∧
      ∀ id node, CallMade environment db calls id node →
        ∃ command ∈ later, Sends id command ∧ command.nodeId = node := by
  induction calls generalizing db with
  | nil =>
    refine ⟨[], (List.append_nil _).symm, fun _ hnone ↦ absurd hnone List.not_mem_nil, ?_⟩
    rintro id node ⟨front, made, rest, hcalls, -⟩
    exact absurd hcalls (by simp)
  | cons call calls ih =>
    obtain ⟨hothers, hrest⟩ := List.nodup_cons.mp hnodup
    unfold provisionAll
    split
    · rename_i failure hrun
      refine ⟨[], (List.append_nil _).symm, fun _ hnone ↦ absurd hnone List.not_mem_nil, ?_⟩
      intro id node hmade
      obtain ⟨next, hnext⟩ := provision_ok_iff.mpr (callMade_cons.mp hmade).1
      cases hrun.symm.trans hnext
    · rename_i next hrun
      have hcall := run_provisionDevice hrun
      have hfirst := provision_ok_iff.mp ⟨next, hrun⟩
      obtain ⟨first, hnext, hsupplied, command, hcommand, hsends⟩ :=
        Provisioned.supplied hcall hfirst calls
      obtain ⟨later, hlater, hmore, hqueued⟩ := ih hrest next
      refine ⟨first ++ later, ?_, ?_, ?_⟩
      · rw [hlater, hnext, List.append_assoc]
      · intro other hother
        rcases List.mem_append.mp hother with hold | hnew
        · exact hsupplied other hold
        · exact (hmore other hnew).cons hcall hfirst hothers
      · intro id node hmade
        rcases (callMade_cons.mp hmade).2 with ⟨rfl, rfl⟩ | hmade
        · exact ⟨command, List.mem_append_left _ hcommand, hsends⟩
        · obtain ⟨other, hother, hsent⟩ :=
            hqueued id node ((hcall.callMade_iff hothers).mpr hmade)
          exact ⟨other, List.mem_append_right _ hother, hsent⟩

end Calls

/-! ### The row of a device -/

def heldUntil (store : Store) (id : DeviceId) : ℤ :=
  ((store.storedById id).map StoredDevice.overrideExpires).getD 0

/-- A row that has the end of a new period has no usage yet. -/
def Unspent (ends : ℤ) (id : DeviceId) (store : Store) : Prop :=
  ∀ row, store.storedById id = some row → row.periodEnds = unix ends → row.usedBytes = 0

/-- The row of a device that was sent with a bought plan, and whose lease, if there is one, is not
used and runs. -/
structure Upserted (device : DeviceRow) (row : Subscription) (now : ℤ) (stored : StoredDevice) :
    Prop where
  active : stored.active = true
  credential : stored.credentialHash = device.credentialHash
  plan : stored.plan = .code row.planCode
  ends : stored.subscriptionEnds = unix (valueTime row.periodEndsAt)
  quota : stored.quotaBytes = row.quotaBytes
  unused : stored.usedBytes = 0
  lease : stored.leaseBytes ≤ 0 ∨ now < ofUnix stored.leaseExpires ∧ 0 < stored.leaseBytes

section Rows

variable {environment : Environment} {integrations : Integrations} {db : Database}
  {calls : List ProvisionDevice} {command : Command} {id : DeviceId} {store : Store} {now : ℤ}
  {device : DeviceRow} {row : Subscription} {stored : StoredDevice}

theorem Unspent.upserted (hunspent : Unspent (valueTime row.periodEndsAt) id store)
    (device : DeviceRow) (now : ℤ) :
    ∃ stored, rowEffect (upsertMessage id device row) (store.storedById id) = some stored ∧
      Upserted device row now stored ∧ stored.overrideExpires = heldUntil store id := by
  unfold heldUntil
  cases hold : store.storedById id with
  | none => exact ⟨_, rfl, ⟨rfl, rfl, rfl, rfl, rfl, rfl, .inl le_rfl⟩, rfl⟩
  | some old =>
    refine ⟨_, rfl, ⟨rfl, rfl, rfl, rfl, rfl, ?_, .inl le_rfl⟩, rfl⟩
    change (if old.periodEnds ≠ unix (valueTime row.periodEndsAt) then 0 else old.usedBytes) = 0
    split_ifs with hother
    · rfl
    · exact hunspent old hold (not_not.mp hother)

section

variable (hsupplied : Supplied environment db calls command)

include hsupplied

theorem Supplied.handle_cases (integrations : Integrations) (store : Store) (id : DeviceId)
    (now : ℤ) :
    (handle integrations store command.message now).1.storedById id = store.storedById id ∨
    (Sends id command ∧ ∃ data, (handle integrations store command.message now).1.storedById id =
      rowEffect (.deviceUpsert data) (store.storedById id)) ∨
    ∃ call ∈ calls, ∃ grant, 0 < grant ∧
      (handle integrations store command.message now).1.storedById id =
        (store.storedById id).map (Store.leasedRow grant (call.now + 24 * hour)) := by
  by_cases hwrites : command.message.WritesTo id
  · rcases storedById_handle_cases integrations store now hwrites with ⟨hsame, -⟩ | heffect
    · exact .inl hsame
    · right
      cases hsupplied with
      | upsert _ _ _ _ hmessage =>
        rw [hmessage] at heffect hwrites ⊢
        exact .inl ⟨⟨_, hmessage, hwrites⟩, _, heffect⟩
      | @lease call _ grant hcall hgrant hmessage =>
        rw [hmessage] at heffect ⊢
        exact .inr ⟨call, hcall, grant, hgrant, heffect⟩
  · exact .inl (storedById_handle_other hwrites)

theorem Supplied.heldUntil_handle :
    heldUntil (handle integrations store command.message now).1 id = heldUntil store id := by
  unfold heldUntil
  rcases hsupplied.handle_cases integrations store id now with
    hsame | ⟨-, data, hupsert⟩ | ⟨call, -, grant, -, hlease⟩
  · rw [hsame]
  · rw [hupsert]
    cases store.storedById id <;> rfl
  · rw [hlease]
    cases store.storedById id <;> rfl

theorem Unspent.handle {ends : ℤ} (hunspent : Unspent ends id store) :
    Unspent ends id (handle integrations store command.message now).1 := by
  intro stored hstored hends
  rcases hsupplied.handle_cases integrations store id now with
    hsame | ⟨-, data, hupsert⟩ | ⟨call, -, grant, -, hlease⟩
  · exact hunspent stored (hsame ▸ hstored) hends
  · rw [hupsert] at hstored
    cases hold : store.storedById id with
    | none =>
      rw [hold] at hstored
      cases hstored
      rfl
    | some old =>
      rw [hold] at hstored
      cases hstored
      -- a row of the same period keeps its usage, which is none
      change (if old.periodEnds ≠ unix data.periodEnds then 0 else old.usedBytes) = 0
      split_ifs with hother
      · rfl
      · rw [not_not] at hother
        exact hunspent old hold (hother.trans hends)
  · rw [hlease] at hstored
    obtain ⟨old, hold, rfl⟩ := Option.map_eq_some_iff.mp hstored
    exact hunspent old hold hends

theorem Unspent.sent {user : UserId} {time : ℤ} (now : ℤ)
    (hunspent : Unspent (valueTime row.periodEndsAt) id store) (hsends : Sends id command)
    (howner : environment.directory.owner id = some user) (hdevice : db.devices id = some device)
    (hrow : db.subscriptions user = some row)
    (hok : (RiseVpn.handle integrations store command.message time).2 = .ok ()) :
    ∃ stored, (RiseVpn.handle integrations store command.message time).1.storedById id =
      some stored ∧ Upserted device row now stored := by
  obtain ⟨data, hdata, rfl⟩ := hsends
  cases hsupplied with
  | @upsert target _ _ _ _ howner' hdevice' hrow' hmessage =>
    cases hdata.symm.trans hmessage
    obtain rfl := Option.mem_unique howner howner'
    obtain rfl := Option.mem_unique hdevice hdevice'
    obtain rfl := Option.mem_unique hrow hrow'
    obtain ⟨stored, heffect, hfields, -⟩ := hunspent.upserted device now
    refine ⟨stored, ?_, hfields⟩
    have hwrites : command.message.WritesTo target := by
      rw [hmessage]
      exact rfl
    rw [storedById_handle_of_ok hwrites hok, hmessage]
    exact heffect
  | lease _ _ hmessage => cases hdata.symm.trans hmessage

theorem Upserted.handle (hupserted : Upserted device row now stored)
    (hstored : store.storedById id = some stored) (hnot : ¬ Sends id command)
    (hleases : ∀ call ∈ calls, now < ofUnix (unix (call.now + 24 * hour))) (time : ℤ) :
    ∃ stored', (RiseVpn.handle integrations store command.message time).1.storedById id =
        some stored' ∧ Upserted device row now stored' := by
  rcases hsupplied.handle_cases integrations store id time with
    hsame | ⟨hsends, -⟩ | ⟨call, hcall, grant, hgrant, hlease⟩
  · exact ⟨stored, hsame.trans hstored, hupserted⟩
  · exact absurd hsends hnot
  · rw [hstored] at hlease
    exact ⟨_, hlease, hupserted.active, hupserted.credential, hupserted.plan, hupserted.ends,
      hupserted.quota, hupserted.unused, .inr ⟨hleases call hcall, hgrant⟩⟩

end

end Rows

/-! ### A purchase in grace -/

/-- A user whose subscription `row` is in grace has bought a plan, and `provisionUserDevices` has
made its calls. -/
structure PaidInGrace (environment : Environment) (world : World) (change : ChangePlan)
    (row : Subscription) (bought : PlanCode) (committed : Database)
    (calls : List ProvisionDevice) : Prop where
  configured : environment.quotaPrivateKey ≠ none
  known : ∀ call ∈ calls, call.nodeId ∈ environment.directory.nodes
  plan : change.plan = .code bought
  subscribed : world.db.subscriptions change.userId = some row
  grace : row.status = .grace
  onTime : change.now = world.clock
  commits : (changePlan change).run world.db = .ok committed
  provisioned : (calls.map fun call ↦ (call.deviceId, call.nodeId)).Perm
    (provisionUserDevices environment.directory change.userId committed)

def boughtRow (row : Subscription) (bought : PlanCode) (now : ℤ) : Subscription :=
  purchasedRow row bought ⟨bought.row.priceKopecks, bought.row.quotaBytes, now, now + paidPeriod⟩

/-- A node has handled commands that were queued before the purchase, and then all that the calls
have queued for it, those that send the device with success. -/
structure Delivered (environment : Environment) (integrations : Integrations) (world : World)
    (committed : Database) (calls : List ProvisionDevice) (id : DeviceId) (node : NodeId)
    (earlier newer : List (Command × ℤ)) (middle last : Store) : Prop where
  old : ∀ handled ∈ earlier, handled.1 ∈ world.db.commands
  before : HandledBy integrations id (world.stores node) earlier middle
  new : (newer.map Prod.fst).Perm
    (((provisionAll environment calls committed).1.commands.drop world.db.commands.length).filter
      fun command ↦ command.nodeId = node)
  after : HandledBy integrations id middle newer last

/-- The node is asked after the purchase, before the new period ends and the leases of the calls
expire. -/
structure AskedSoon (world : World) (calls : List ProvisionDevice) (now : ℤ) : Prop where
  epoch : 0 ≤ world.clock
  later : world.clock ≤ now
  period : now < ofUnix (unix (world.clock + paidPeriod))
  leases : ∀ call ∈ calls, now < ofUnix (unix (call.now + 24 * hour))

/-- The device is admitted with the rates of the plan, which are throttled only past the quota, and
with its peer-to-peer flag, and the flag decides on connections that are not blocked. -/
structure Restored (hash : String → String) (store : Store) (id : DeviceId) (credential : String)
    (base : PlanPolicy) (now : ℤ) : Prop where
  admitted : (authenticate hash store credential now).ok = true ∧
    (authenticate hash store credential now).id = id
  policy : ∃ policy, (authenticate hash store credential now).policy = some policy ∧
    ((policy.upBps, policy.downBps) = (base.upBps, base.downBps) ∨
      policy.throttled = true ∧
        (policy.upBps, policy.downBps) = (base.throttleBps, base.throttleBps)) ∧
    policy.p2pAllowed = base.p2pAllowed
  connections : ∀ tools compliance address payload,
    ComplianceStore.blocked tools compliance address = .ok false →
      (authorize tools store compliance id address payload now).1 =
        (base.p2pAllowed || !isP2P tools.cases address payload)

/-- There is quota left for a lease of each call up to that for the device, or it has an unexpired
lease with bytes left. -/
def Afforded (db : Database) (row : Subscription) (bought : PlanCode)
    (calls : List ProvisionDevice) (id : DeviceId) (node : NodeId) : Prop :=
  ∃ front call rest, calls = front ++ call :: rest ∧ call.deviceId = id ∧ call.nodeId = node ∧
    ∀ made ∈ front ++ [call], 0 < reservedBytes made.txNow (db.leases made.deviceId) ∨
      0 < wrap64 (wrap64 (bought.row.quotaBytes - if row.planCode = .trial then 0
        else row.usedBytes) - reservedBytes made.txNow (db.leases made.deviceId))

section Purchase

variable {environment : Environment} {integrations : Integrations} {world : World}
  {change : ChangePlan} {row : Subscription} {bought : PlanCode} {committed : Database}
  {calls : List ProvisionDevice} {id : DeviceId} {node : NodeId}
  {earlier newer : List (Command × ℤ)} {middle last : Store} {now : ℤ}

section Delivered

variable (hpaid : PaidInGrace environment world change row bought committed calls)

include hpaid

theorem PaidInGrace.purchased :
    committed.subscriptions change.userId = some (boughtRow row bought world.clock) ∧
      committed.devices = world.db.devices ∧ committed.leases = world.db.leases ∧
      committed.commands = world.db.commands ∧ bought ≠ .trial := by
  have hgrace : row.status ≠ .active := by
    rw [hpaid.grace]
    nofun
  cases run_changePlan hpaid.commits with
  | renewed hrow _ _ _ hactive | scheduled hrow _ _ _ hactive =>
    obtain rfl := Option.mem_unique hpaid.subscribed hrow
    exact absurd hactive hgrace
  | purchased hrow _ hplan hnot =>
    obtain rfl := Option.mem_unique hpaid.subscribed hrow
    obtain rfl := Plan.code.inj (hpaid.plan.symm.trans hplan)
    refine ⟨?_, rfl, rfl, rfl, hnot⟩
    refine (Function.update_self ..).trans ?_
    unfold boughtRow purchaseTerms
    rw [hpaid.onTime]
    cases row.periodEndsAt with
    | none => rfl
    | some ends => simp only [hgrace, false_and, if_false]

theorem PaidInGrace.callMade_iff :
    CallMade environment committed calls id node ↔
      Afforded world.db row bought calls id node := by
  obtain ⟨hrow, hdevices, hleases, -, -⟩ := hpaid.purchased
  have hcall : ∀ made ∈ calls, (Provisionable environment committed made ↔
      0 < reservedBytes made.txNow (world.db.leases made.deviceId) ∨
        0 < wrap64 (wrap64 (bought.row.quotaBytes - if row.planCode = .trial then 0
          else row.usedBytes) - reservedBytes made.txNow (world.db.leases made.deviceId))) := by
    intro made hmade
    obtain ⟨howner, device, hdevice, hrevoked⟩ := mem_provisionUserDevices
      (hpaid.provisioned.mem_iff.mp (List.mem_map_of_mem hmade))
    unfold Provisionable
    rw [hleases, ← reservableBytes_ne_zero_iff (show (0 : ℤ) < 1000000000 by decide)]
    constructor
    · rintro ⟨-, -, user, _, found, huser, -, -, hfound, -, hleft⟩
      obtain rfl := Option.mem_unique howner huser
      obtain rfl := Option.mem_unique hrow hfound
      exact hleft
    · intro hleft
      exact ⟨hpaid.configured, hpaid.known made hmade, change.userId, device, _, howner, hdevice,
        hrevoked, hrow, .inl rfl, hleft⟩
  have hmem : ∀ front call rest, calls = front ++ call :: rest → ∀ made ∈ front ++ [call],
      made ∈ calls := by
    rintro front call rest rfl made hmade
    rw [List.append_cons]
    exact List.mem_append_left _ hmade
  constructor
  · rintro ⟨front, call, rest, hsplit, hid, hnode, hall⟩
    exact ⟨front, call, rest, hsplit, hid, hnode, fun made hmade ↦
      (hcall made (hmem front call rest hsplit made hmade)).mp (hall made hmade)⟩
  · rintro ⟨front, call, rest, hsplit, hid, hnode, hall⟩
    exact ⟨front, call, rest, hsplit, hid, hnode, fun made hmade ↦
      (hcall made (hmem front call rest hsplit made hmade)).mpr (hall made hmade)⟩

theorem PaidInGrace.ended (hsound : Sound environment.directory world)
    (howner : environment.directory.owner id = some change.userId) {ends : ℤ}
    (hknown : EndsBy environment.directory world.db id ends) : ends ≤ world.clock := by
  obtain ⟨user, found, later, huser, hfound, hlater, hle⟩ := hknown
  obtain rfl := Option.mem_unique howner huser
  obtain rfl := Option.mem_unique hpaid.subscribed hfound
  obtain ⟨last, hlast, hended⟩ :=
    (hsound.timely change.userId row hpaid.subscribed).ended (.inl hpaid.grace)
  obtain rfl := Option.mem_unique hlast hlater
  exact hle.trans hended

variable (hdelivered : Delivered environment integrations world committed calls id node earlier
  newer middle last)

include hdelivered

theorem Delivered.supplied :
    (∀ handled ∈ newer, handled.1.nodeId = node ∧
      Supplied environment committed calls handled.1) ∧
    (CallMade environment committed calls id node → ∃ handled ∈ newer, Sends id handled.1) := by
  obtain ⟨later, hcommands, hsupplied, hqueued⟩ :=
    provisionAll_supplied (provisionUserDevices_nodup hpaid.provisioned) committed
  have hnew := hdelivered.new
  rw [hcommands, hpaid.purchased.2.2.2.1, List.drop_left] at hnew
  constructor
  · intro handled hhandled
    obtain ⟨hmem, hnode⟩ := List.mem_filter.mp (hnew.mem_iff.mp (List.mem_map_of_mem hhandled))
    exact ⟨of_decide_eq_true hnode, hsupplied _ hmem⟩
  · intro hmade
    obtain ⟨command, hcommand, hsends, hnode⟩ := hqueued id node hmade
    have hmem := hnew.mem_iff.mpr (List.mem_filter.mpr ⟨hcommand, decide_eq_true hnode⟩)
    obtain ⟨handled, hhandled, rfl⟩ := List.mem_map.mp hmem
    exact ⟨handled, hhandled, hsends⟩

theorem Delivered.ended (hsound : Sound environment.directory world)
    (howner : environment.directory.owner id = some change.userId) :
    ∀ stored, middle.storedById id = some stored →
      ofUnix stored.subscriptionEnds ≤ world.clock := by
  refine hdelivered.before.invariant (fun state ↦ ∀ stored, state.storedById id = some stored →
    ofUnix stored.subscriptionEnds ≤ world.clock) ?_ ?_
  · intro handled hhandled state hstate stored hstored
    rcases subscriptionEnds_handle hstored with ⟨old, hold, hends⟩ | ⟨data, hdata, rfl, hends⟩
    · rw [hends]
      exact hstate old hold
    · rw [hends]
      have hqueued := hsound.queued handled.1 (hdelivered.old handled hhandled) data hdata
      exact (ofUnix_unix_le _).trans (hpaid.ended hsound howner hqueued)
  · exact fun stored hstored ↦ hpaid.ended hsound howner (hsound.stored node id stored hstored)

theorem Delivered.uniform (huniform : Uniform world) : UniformStore middle ∧ UniformStore last := by
  have hmiddle : UniformStore middle := by
    refine hdelivered.before.invariant UniformStore ?_ (huniform.stored node)
    exact fun handled hhandled state hstate ↦
      hstate.handle (huniform.queued _ (hdelivered.old handled hhandled)) _
  refine ⟨hmiddle, hdelivered.after.invariant UniformStore ?_ hmiddle⟩
  intro handled hhandled state hstate
  refine hstate.handle ?_ _
  cases ((hdelivered.supplied hpaid).1 handled hhandled).2 with
  | upsert _ _ _ _ hmessage =>
    rw [hmessage]
    exact uniform_upsertMessage _ _ _
  | lease _ _ hmessage =>
    rw [hmessage]
    trivial

theorem Delivered.heldUntil_eq : heldUntil last id = heldUntil middle id := by
  refine hdelivered.after.invariant (fun state ↦ heldUntil state id = heldUntil middle id) ?_ rfl
  intro handled hhandled state hstate
  exact ((hdelivered.supplied hpaid).1 handled hhandled).2.heldUntil_handle.trans hstate

theorem Delivered.callMade (hsound : Sound environment.directory world)
    (howner : environment.directory.owner id = some change.userId) {stored : StoredDevice}
    (hstored : last.storedById id = some stored)
    (hcurrent : world.clock < ofUnix stored.subscriptionEnds) :
    CallMade environment committed calls id node := by
  rcases storedEnds_handled hdelivered.after with
    ⟨-, hsame⟩ | ⟨front, handled, rest, data, rfl, hdata, hid, -⟩
  · rw [storedEnds, storedEnds, hstored, Option.map_some] at hsame
    obtain ⟨old, hold, hends⟩ := Option.map_eq_some_iff.mp hsame.symm
    have hended := hdelivered.ended hpaid hsound howner old hold
    rw [(Prod.mk.inj hends).1] at hended
    omega
  · obtain ⟨rfl, hsupplied⟩ := (hdelivered.supplied hpaid).1 handled
      (List.mem_append_right _ List.mem_cons_self)
    cases hsupplied with
    | upsert hmade _ _ _ hmessage =>
      cases hdata.symm.trans hmessage
      exact hid ▸ hmade
    | lease _ _ hmessage => cases hdata.symm.trans hmessage

theorem Delivered.upserted (hsound : Sound environment.directory world) (huniform : Uniform world)
    (hsoon : AskedSoon world calls now)
    (howner : environment.directory.owner id = some change.userId) {device : DeviceRow}
    (hdevice : world.db.devices id = some device)
    (hmade : CallMade environment committed calls id node) :
    ∃ stored, last.storedById id = some stored ∧
      Upserted device (boughtRow row bought world.clock) now stored ∧
      stored.overrideExpires = heldUntil middle id := by
  obtain ⟨hrow, hdevices, -⟩ := hpaid.purchased
  obtain ⟨hsupplied, hqueued⟩ := hdelivered.supplied hpaid
  have hunspent : Unspent (world.clock + paidPeriod) id middle := by
    intro stored hstored hends
    have hended := hdelivered.ended hpaid hsound howner stored hstored
    rw [← ((hdelivered.uniform hpaid huniform).1 id stored hstored).ends, hends] at hended
    have hlater := hsoon.later
    have hperiod := hsoon.period
    omega
  suffices hupserted : ∃ stored, last.storedById id = some stored ∧
      Upserted device (boughtRow row bought world.clock) now stored by
    obtain ⟨stored, hstored, hfields⟩ := hupserted
    refine ⟨stored, hstored, hfields, ?_⟩
    rw [← hdelivered.heldUntil_eq hpaid, heldUntil, hstored]
    rfl
  rcases storedEnds_handled hdelivered.after with
    ⟨hnone, -⟩ | ⟨front, handled, rest, data, rfl, hdata, rfl, hnone, -⟩
  · obtain ⟨handled, hhandled, hsends⟩ := hqueued hmade
    exact absurd hsends (hnone handled hhandled)
  · -- the last upsert of the device, and what is handled before and after it
    obtain ⟨state, hfront, hsuccess, hrest⟩ := handledBy_append.mp hdelivered.after
    have hsent : Sends data.deviceId handled.1 := ⟨data, hdata, rfl⟩
    have hstate : Unspent (world.clock + paidPeriod) data.deviceId state := by
      refine hfront.invariant (Unspent (world.clock + paidPeriod) data.deviceId) ?_ hunspent
      intro other hother store hstore
      exact hstore.handle (hsupplied other (List.mem_append_left _ hother)).2
    have hperiod : Unspent (valueTime (boughtRow row bought world.clock).periodEndsAt)
        data.deviceId state := hstate
    have hupserted := hperiod.sent
      (hsupplied handled (List.mem_append_right _ List.mem_cons_self)).2 now hsent howner
      (hdevices ▸ hdevice) hrow (hsuccess hsent)
    refine hrest.invariant (fun store ↦ ∃ stored, store.storedById data.deviceId = some stored ∧
      Upserted device (boughtRow row bought world.clock) now stored) ?_ hupserted
    rintro other hother store ⟨found, hfound, hstill⟩
    exact hstill.handle
      (hsupplied other (List.mem_append_right _ (List.mem_cons_of_mem _ hother))).2 hfound
      (hnone other hother) hsoon.leases _

end Delivered

theorem Upserted.inForce {device : DeviceRow} {stored : StoredDevice} {base : PlanPolicy}
    (hupserted : Upserted device (boughtRow row bought world.clock) now stored)
    (hbase : (Plan.code bought).policy = some base) (hpaid : bought ≠ .trial)
    (hsoon : AskedSoon world calls now) :
    allowed (Store.scanDevice stored) now = true ∧
      (Store.scanDevice stored).plan.policy = some base ∧
      (ofUnix stored.overrideExpires ≤ now →
        (Store.scanDevice stored).ratesInForce base now = (base.upBps, base.downBps) ∧
        (Store.scanDevice stored).p2pInForce base now = base.p2pAllowed) := by
  have hplan : (Store.scanDevice stored).plan = .code bought := hupserted.plan
  have hpolicy : (Store.scanDevice stored).plan.policy = some base := by rw [hplan, hbase]
  have hleft : ¬ (Store.scanDevice stored).effectiveQuota base ≤
      (Store.scanDevice stored).usedBytes := by
    have hquota : (Store.scanDevice stored).quotaBytes = bought.row.quotaBytes := hupserted.quota
    have hused : (Store.scanDevice stored).usedBytes = 0 := hupserted.unused
    have hpositive : 0 < bought.row.quotaBytes := by cases bought <;> decide
    rw [Device.effectiveQuota, hquota, hused, if_neg (Int.not_le.mpr hpositive)]
    exact Int.not_le.mpr hpositive
  refine ⟨?_, hpolicy, fun hexpired ↦ ?_⟩
  · have hnot : (Store.scanDevice stored).plan ≠ .code .trial := by
      rw [hplan]
      exact fun hsame ↦ hpaid (Plan.code.inj hsame)
    refine (allowed_paid_iff hupserted.active hpolicy hnot now).mpr ⟨?_, .inr ?_⟩
    · change now < ofUnix stored.subscriptionEnds
      rw [hupserted.ends]
      exact hsoon.period
    · rcases hupserted.lease with hnone | ⟨hruns, hpositive⟩
      · exact .inl hnone
      · refine .inr ⟨hruns, ?_⟩
        change stored.usedBytes < stored.leaseBytes
        rw [hupserted.unused]
        exact hpositive
  · have hover : ¬ now < (Store.scanDevice stored).overrideExpires := Int.not_lt.mpr hexpired
    rw [Device.ratesInForce, Device.p2pInForce, if_neg hover, if_neg hleft, if_neg hover]
    exact ⟨rfl, rfl⟩

theorem grace_rates_ne {base : PlanPolicy} (hbase : (Plan.code bought).policy = some base)
    (hpaid : bought ≠ .trial) : base.upBps ≠ 1000000 ∧ base.throttleBps ≠ 1000000 := by
  cases bought with
  | trial => exact absurd rfl hpaid
  | lite | plus | ultra =>
    cases hbase
    decide

theorem UniformRow.graceRates {stored : StoredDevice} (hrow : UniformRow stored)
    (hepoch : 0 ≤ now) (base : PlanPolicy) (hover : now < ofUnix stored.overrideExpires) :
    (Store.scanDevice stored).ratesInForce base now = (1000000, 1000000) := by
  have hinForce : now < (Store.scanDevice stored).overrideExpires := hover
  rw [Device.ratesInForce, if_pos hinForce]
  rcases hrow.override with hnever | ⟨hup, hdown⟩
  · rw [hnever, ofUnix] at hover
    omega
  · exact Prod.ext hup hdown

/-- Assumes: a system in which a subscription is in grace and its user buys a plan, a device of the
user, and a node that has handled what was queued before and with the purchase and is soon asked.
The device has the rates and the peer-to-peer flag of the plan exactly when quota was left for its
lease and the override that the node had has expired. -/
theorem plan_restored_iff {users : List UserId} {devices : DeviceId → Option DeviceRow}
    {assignments : DeviceId → Option NodeId} {states : NodeId → String → Option String} {clock : ℤ}
    {hash : String → String} {credential : String} {device : DeviceRow} {base : PlanPolicy}
    (hreach : Reachable (World.step environment integrations)
      (.initial (.fresh users devices assignments) clock states) world)
    (hpaid : PaidInGrace environment world change row bought committed calls)
    (hdelivered : Delivered environment integrations world committed calls id node earlier newer
      middle last)
    (hsoon : AskedSoon world calls now)
    (howner : environment.directory.owner id = some change.userId)
    (hdevice : world.db.devices id = some device) (hcredential : credential ≠ "")
    (hhash : device.credentialHash = hash credential)
    (hbase : (Plan.code bought).policy = some base) :
    Restored hash last id credential base now ↔
      Afforded world.db row bought calls id node ∧ ofUnix (heldUntil middle id) ≤ now := by
  have hsound := sound_of_reachable hreach
  have huniform := uniform_of_reachable hreach
  obtain ⟨-, -, -, -, hbought⟩ := hpaid.purchased
  have hlater := hsoon.later
  have hepoch := hsoon.epoch
  rw [← hpaid.callMade_iff]
  constructor
  · rintro ⟨⟨hok, hid⟩, ⟨policy, hpolicy, hrates, -⟩, -⟩
    obtain ⟨stored, hstored, hsame⟩ := authenticate_admitted hok
    rw [hid] at hstored
    rw [hsame] at hpolicy hok
    rw [authenticateDevice_ok] at hok
    have hcurrent : now < ofUnix stored.subscriptionEnds := ((allowed_iff _ _).mp hok).2.1
    have hmade := hdelivered.callMade hpaid hsound howner hstored (by omega)
    refine ⟨hmade, ?_⟩
    obtain ⟨found, hfound, hupserted, hheld⟩ :=
      hdelivered.upserted hpaid hsound huniform hsoon howner hdevice hmade
    obtain rfl := Option.mem_unique hstored hfound
    obtain ⟨-, hplan, -⟩ := hupserted.inForce hbase hbought hsoon
    obtain ⟨given, hgiven, hforce, -⟩ := authenticateDevice_policy hplan hok
    obtain rfl := Option.mem_unique hpolicy hgiven
    by_contra hrunning
    rw [← hheld, Int.not_le] at hrunning
    -- the override is in force, and it is that of the grace
    have hgrace := ((hdelivered.uniform hpaid huniform).2 id stored hstored).graceRates
      (hepoch.trans hlater) base hrunning
    have hup : policy.upBps = 1000000 := (Prod.mk.inj (hforce.trans hgrace)).1
    obtain ⟨hspeed, hthrottle⟩ := grace_rates_ne hbase hbought
    rcases hrates with hplain | ⟨-, hthrottled⟩
    · exact hspeed ((Prod.mk.inj hplain).1.symm.trans hup)
    · exact hthrottle ((Prod.mk.inj hthrottled).1.symm.trans hup)
  · rintro ⟨hmade, hexpired⟩
    obtain ⟨stored, hstored, hupserted, hheld⟩ :=
      hdelivered.upserted hpaid hsound huniform hsoon howner hdevice hmade
    rw [← hheld] at hexpired
    obtain ⟨hallowed, hplan, hlifted⟩ := hupserted.inForce hbase hbought hsoon
    obtain ⟨hrates, hp2p⟩ := hlifted hexpired
    have hsame := authenticate_of_stored hcredential hstored
      (hupserted.credential.trans hhash) now
    have hok : (authenticateDevice (Store.scanDevice stored) now).ok = true := by
      rw [authenticateDevice_ok]
      exact hallowed
    obtain ⟨policy, hpolicy, hgiven, hflag⟩ := authenticateDevice_policy hplan hallowed
    refine ⟨⟨hsame ▸ hok, ?_⟩, ⟨policy, hsame ▸ hpolicy, .inl (hgiven.trans hrates),
      hflag.trans hp2p⟩, ?_⟩
    · rw [hsame, authenticateDevice_id hok]
      exact Store.storedById_id hstored
    · intro tools compliance address payload hblocked
      rw [authorize_p2p hstored hupserted.active hblocked hplan, hp2p]

end Purchase

/-! ### A purchase of PLUS -/

def payingWorld (elapsed : ℕ) : World :=
  soloWorld graceWorld [.tick elapsed, .transact (soloCredit 29900 "again")]

def plusPurchase (world : World) : ChangePlan := ⟨"user", .code .plus, world.clock, "again"⟩

def plusDatabase (world : World) : Database :=
  soloCommitted world (.changePlan (plusPurchase world))

def plusCall (world : World) : ProvisionDevice :=
  ⟨"device", "node", world.clock, world.clock, "second"⟩

def plusOrder (world : World) : List (Command × ℤ) :=
  ((provisionAll soloEnvironment [plusCall world] (plusDatabase world)).1.commands.drop
    world.db.commands.length).map (·, world.clock)

def plusStore (world : World) : Store :=
  handleAll soloIntegrations (world.stores "node")
    ((plusOrder world).map fun handled ↦ (handled.1.message, handled.2))

theorem payingWorld_reachable (elapsed : ℕ) :
    Reachable (World.step soloEnvironment soloIntegrations)
      (.initial soloDatabase 0 fun _ ↦ soloStore.state) (payingWorld elapsed) :=
  graceWorld_reachable.trans (soloWorld_reachable _ _)

/-- A counterexample: the user buys PLUS at the beginning of the grace, the node has handled every
command, and the device is admitted with the rates and the flag of the grace. -/
theorem override_outlives_purchase :
    Reachable (World.step soloEnvironment soloIntegrations)
      (.initial soloDatabase 0 fun _ ↦ soloStore.state) (payingWorld 0) ∧
    PaidInGrace soloEnvironment (payingWorld 0) (plusPurchase (payingWorld 0)) graceRow .plus
      (plusDatabase (payingWorld 0)) [plusCall (payingWorld 0)] ∧
    (∀ command ∈ (payingWorld 0).db.commands, command.id ∈ (payingWorld 0).handled) ∧
    Delivered soloEnvironment soloIntegrations (payingWorld 0) (plusDatabase (payingWorld 0))
      [plusCall (payingWorld 0)] "device" "node" [] (plusOrder (payingWorld 0))
      ((payingWorld 0).stores "node") (plusStore (payingWorld 0)) ∧
    AskedSoon (payingWorld 0) [plusCall (payingWorld 0)] (30 * day) ∧
    (authenticate id (plusStore (payingWorld 0)) "hash" (30 * day)).policy.map
      (fun policy ↦ (policy.upBps, policy.downBps, policy.p2pAllowed)) =
        some (1000000, 1000000, false) := by
  refine ⟨payingWorld_reachable 0, ?_, by decide, ?_, ?_, rfl⟩
  · exact ⟨nofun, by decide, rfl, rfl, rfl, rfl, rfl, .rfl⟩
  · exact ⟨fun _ hnone ↦ absurd hnone List.not_mem_nil, rfl, .rfl, fun _ ↦ rfl, fun _ ↦ rfl, rfl⟩
  · exact ⟨by decide, by decide, by decide, by decide⟩

def lateWorld : World := payingWorld (24 * 60 * 60 * 1000000000)

theorem plan_restored_late :
    PaidInGrace soloEnvironment lateWorld (plusPurchase lateWorld) graceRow .plus
      (plusDatabase lateWorld) [plusCall lateWorld] ∧
    Restored id (plusStore lateWorld) "device" "hash"
      ⟨200000000, 200000000, 600000000000, 10000000, 2, true⟩ (31 * day) := by
  have hpaid : PaidInGrace soloEnvironment lateWorld (plusPurchase lateWorld) graceRow .plus
      (plusDatabase lateWorld) [plusCall lateWorld] :=
    ⟨nofun, by decide, rfl, rfl, rfl, rfl, rfl, .rfl⟩
  have hdelivered : Delivered soloEnvironment soloIntegrations lateWorld (plusDatabase lateWorld)
      [plusCall lateWorld] "device" "node" [] (plusOrder lateWorld) (lateWorld.stores "node")
      (plusStore lateWorld) :=
    ⟨fun _ hnone ↦ absurd hnone List.not_mem_nil, rfl, .rfl, fun _ ↦ rfl, fun _ ↦ rfl, rfl⟩
  have hsoon : AskedSoon lateWorld [plusCall lateWorld] (31 * day) :=
    ⟨by decide, by decide, by decide, by decide⟩
  refine ⟨hpaid, (plan_restored_iff (payingWorld_reachable _) hpaid hdelivered hsoon rfl rfl
    (by decide) rfl rfl).mpr ⟨⟨[], plusCall lateWorld, [], rfl, rfl, rfl, ?_⟩, by decide⟩⟩
  intro made hmade
  obtain rfl := List.mem_singleton.mp hmade
  exact .inr (by decide)

end RiseVpn.Fleet
