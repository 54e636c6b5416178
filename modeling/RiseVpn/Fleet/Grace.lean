import RiseVpn.Control.Subscriptions
import RiseVpn.Node.DeviceCommands

/-!
# Grace, from the controller to the gate of the node

`World` is the controller with its nodes on one clock: the transactions of the controller, each of
which takes effect at its commit, the resynchronizations of a node that connects (their query and
their inserts are separate statements), the handling of queued commands by the nodes in any order
and any number of times, and the usage the nodes count.

A device in grace is to be admitted at 1 Mbit/s without P2P (`GraceAdmission`). But the only end of
a subscription that a node ever learns is the end of the paid period, and a subscription is in grace
only when that has passed. `Sound` is this invariant of the whole system, `sound_of_reachable` its
induction, and `grace_refused` the consequence: whatever commands a node has handled, it refuses a
device in grace.
-/

set_option autoImplicit false

namespace RiseVpn.Fleet

open Control GuardedRun

/-! ### The system -/

/-- The controller's database and its nodes. `selected` holds the upserts of resynchronizations that
are not inserted yet, `handled` the ids of the commands that a node has handled. -/
structure World where
  db : Database
  clock : ℤ
  stores : NodeId → Store
  selected : List (NodeId × Message)
  handled : List ℕ

/-- A system in which users have logged in and enrolled nodes have no device yet. -/
def World.initial (db : Database) (clock : ℤ) (states : NodeId → String → Option String) :
    World where
  db := db
  clock := clock
  stores := fun node ↦ ⟨states node, ⟨[], List.nodup_nil, List.nodup_nil⟩, [], 0⟩
  selected := []
  handled := []

inductive WorldEvent
  | tick (elapsed : ℕ)
  | transact (request : Request)
  | resyncSelect (node : NodeId) (blocked : UserId → Bool)
  | resyncInsert (row : NodeId × Message)
  | handle (command : Command)
  | addUsage (node : NodeId) (device : DeviceId) (txBytes rxBytes : ℤ)

def World.setStore (world : World) (node : NodeId) (store : Store) : World :=
  { world with stores := Function.update world.stores node store }

def World.step (environment : Environment) (integrations : Integrations) (world : World) :
    WorldEvent → Option World
  | .tick elapsed => some { world with clock := world.clock + elapsed }
  | .transact request =>
    if OnTime world.clock request then
      match (program environment request).run world.db with
      | .ok db => some { world with db := db }
      | .error _ => none
    else none
  | .resyncSelect node blocked =>
    some { world with
      selected := world.selected ++
        (deviceResync environment.directory blocked node world.db).map fun message ↦
          (node, message) }
  | .resyncInsert row =>
    if row ∈ world.selected then
      some { world with
        db := world.db.enqueue world.clock [row]
        selected := world.selected.erase row }
    else none
  | .handle command =>
    if command ∈ world.db.commands then
      some { world.setStore command.nodeId (RiseVpn.handle integrations
          (world.stores command.nodeId) command.message world.clock).1 with
        handled := command.id :: world.handled }
    else none
  | .addUsage node device txBytes rxBytes =>
    match (world.stores node).addUsage device txBytes rxBytes world.clock with
    | .ok (_, store) => some (world.setStore node store)
    | .error _ => none

variable (environment : Environment) (integrations : Integrations) (world : World) in
inductive World.Stepped : World → Prop
  | ticked (elapsed : ℕ) : World.Stepped { world with clock := world.clock + elapsed }
  | transacted {request : Request} {db : Database} (hontime : OnTime world.clock request)
      (hrun : (program environment request).run world.db = .ok db) :
    World.Stepped { world with db := db }
  | selected (node : NodeId) (blocked : UserId → Bool) : World.Stepped { world with
      selected := world.selected ++
        (deviceResync environment.directory blocked node world.db).map fun message ↦
          (node, message) }
  | inserted {row : NodeId × Message} (hrow : row ∈ world.selected) : World.Stepped { world with
      db := world.db.enqueue world.clock [row]
      selected := world.selected.erase row }
  | handled {command : Command} (hcommand : command ∈ world.db.commands) : World.Stepped
      { world.setStore command.nodeId (RiseVpn.handle integrations
          (world.stores command.nodeId) command.message world.clock).1 with
        handled := command.id :: world.handled }
  | counted {node : NodeId} {device : DeviceId} {txBytes rxBytes used : ℤ} {store : Store}
      (hstore : (world.stores node).addUsage device txBytes rxBytes world.clock =
        .ok (used, store)) : World.Stepped (world.setStore node store)

theorem World.stepped {environment : Environment} {integrations : Integrations}
    {world next : World} {event : WorldEvent}
    (hstep : world.step environment integrations event = some next) :
    world.Stepped environment integrations next := by
  cases event with
  | tick elapsed =>
    cases hstep
    exact .ticked elapsed
  | transact request =>
    obtain ⟨hontime, hrun⟩ := Option.ite_none_right_eq_some.mp hstep
    split at hrun
    · rename_i db hdb
      cases hrun
      exact .transacted hontime hdb
    · cases hrun
  | resyncSelect node blocked =>
    cases hstep
    exact .selected node blocked
  | resyncInsert row =>
    obtain ⟨hrow, hnext⟩ := Option.ite_none_right_eq_some.mp hstep
    cases hnext
    exact .inserted hrow
  | handle command =>
    obtain ⟨hcommand, hnext⟩ := Option.ite_none_right_eq_some.mp hstep
    cases hnext
    exact .handled hcommand
  | addUsage node device txBytes rxBytes =>
    simp only [World.step] at hstep
    split at hstep
    · rename_i hstore
      cases hstep
      exact .counted hstore
    · cases hstep

/-! ### The ends of subscriptions that are known -/

/-- The subscription of the device's user does not end before `ends`. -/
def EndsBy (directory : Directory) (db : Database) (id : DeviceId) (ends : ℤ) : Prop :=
  ∃ user row later, directory.owner id = some user ∧ db.subscriptions user = some row ∧
    later ∈ row.periodEndsAt ∧ ends ≤ later

def AllTimely (clock : ℤ) (db : Database) : Prop :=
  ∀ user row, db.subscriptions user = some row → Timely clock row

/-- What holds of the whole system: every end of a subscription that an upsert carries or a node has
stored is at most the end the subscription has. -/
structure Sound (directory : Directory) (world : World) : Prop where
  timely : AllTimely world.clock world.db
  queued : ∀ command ∈ world.db.commands, ∀ data, command.message = .deviceUpsert data →
    EndsBy directory world.db data.deviceId data.subscriptionEnds
  selected : ∀ row ∈ world.selected, ∀ data, row.2 = .deviceUpsert data →
    EndsBy directory world.db data.deviceId data.subscriptionEnds
  stored : ∀ node id row, (world.stores node).storedById id = some row →
    EndsBy directory world.db id (ofUnix row.subscriptionEnds)

section Invariant

variable {environment : Environment} {integrations : Integrations} {directory : Directory}
  {db result : Database} {clock : ℤ} {world next : World}

theorem EndsBy.mono {id : DeviceId} {ends ends' : ℤ} (hknown : EndsBy directory db id ends)
    (hle : ends' ≤ ends) : EndsBy directory db id ends' := by
  obtain ⟨user, row, later, howner, hrow, hlater, hends⟩ := hknown
  exact ⟨user, row, later, howner, hrow, hlater, hle.trans hends⟩

theorem EndsBy.advanced {id : DeviceId} {ends : ℤ} (hknown : EndsBy directory db id ends)
    (htimely : AllTimely clock db) (hadvanced : Advanced clock db result) :
    EndsBy directory result id ends := by
  obtain ⟨user, row, later, howner, hrow, hlater, hle⟩ := hknown
  obtain ⟨row', hrow', -, hkept⟩ := hadvanced.present user row hrow (htimely user row hrow)
  obtain ⟨latest, hlatest, hle'⟩ := hkept later hlater
  exact ⟨user, row', latest, howner, hrow', hlatest, hle.trans hle'⟩

theorem AllTimely.advanced (htimely : AllTimely clock db) (hadvanced : Advanced clock db result) :
    AllTimely clock result := by
  intro user row' hrow'
  cases hrow : db.subscriptions user with
  | none =>
    rw [hadvanced.absent user hrow] at hrow'
    cases hrow'
  | some row =>
    obtain ⟨found, hfound, htimely', -⟩ := hadvanced.present user row hrow (htimely user row hrow)
    cases hfound.symm.trans hrow'
    exact htimely'

theorem AllTimely.endsBy (htimely : AllTimely clock db) {id : DeviceId} {user : UserId}
    {row : Subscription} (howner : directory.owner id = some user)
    (hrow : db.subscriptions user = some row)
    (hstatus : row.status = .active ∨ row.status = .grace) :
    EndsBy directory db id (valueTime row.periodEndsAt) := by
  have hsome : row.periodEndsAt ≠ none := by
    rcases hstatus with hactive | hgrace
    · exact (htimely user row hrow).active hactive
    · obtain ⟨ends, hends, -⟩ := (htimely user row hrow).ended (.inl hgrace)
      exact Option.ne_none_iff_exists'.mpr ⟨ends, hends⟩
  obtain ⟨ends, hends⟩ := Option.ne_none_iff_exists'.mp hsome
  exact ⟨user, row, ends, howner, hrow, hends, by rw [hends, valueTime, Option.getD_some]⟩

theorem Sound.transact {request : Request} (hsound : Sound environment.directory world)
    (hontime : OnTime world.clock request)
    (hrun : (program environment request).run world.db = .ok result) :
    Sound environment.directory { world with db := result } := by
  have hadvanced := advanced_program hontime hrun
  refine ⟨hsound.timely.advanced hadvanced, ?_, ?_, ?_⟩
  · intro command hcommand data hdata
    rcases upsert_program hrun command hcommand data hdata with
      hold | ⟨user, row, howner, hrow, hstatus, hends⟩
    · exact (hsound.queued command hold data hdata).advanced hsound.timely hadvanced
    · rw [hends]
      exact (hsound.timely.endsBy howner hrow hstatus).advanced hsound.timely hadvanced
  · intro row hrow data hdata
    exact (hsound.selected row hrow data hdata).advanced hsound.timely hadvanced
  · intro node id row hrow
    exact (hsound.stored node id row hrow).advanced hsound.timely hadvanced

theorem Sound.setStore {node : NodeId} {store : Store} (hsound : Sound directory world)
    (hstore : ∀ id row, store.storedById id = some row →
      EndsBy directory world.db id (ofUnix row.subscriptionEnds)) :
    Sound directory (world.setStore node store) := by
  refine ⟨hsound.timely, hsound.queued, hsound.selected, ?_⟩
  exact (Function.forall_update_iff _ fun _ (store : Store) ↦ ∀ id row,
    store.storedById id = some row → EndsBy directory world.db id
      (ofUnix row.subscriptionEnds)).mpr ⟨hstore, fun other _ ↦ hsound.stored other⟩

theorem Sound.handle (integrations : Integrations) {command : Command}
    (hsound : Sound directory world) (hcommand : command ∈ world.db.commands) :
    Sound directory (world.setStore command.nodeId (RiseVpn.handle integrations
      (world.stores command.nodeId) command.message world.clock).1) := by
  refine hsound.setStore fun id row hrow ↦ ?_
  rcases subscriptionEnds_handle hrow with ⟨old, hold, hends⟩ | ⟨data, hdata, rfl, hends⟩
  · rw [hends]
    exact hsound.stored command.nodeId id old hold
  · rw [hends]
    exact (hsound.queued command hcommand data hdata).mono (ofUnix_unix_le _)

theorem Sound.step (hsound : Sound environment.directory world) {event : WorldEvent}
    (hstep : world.step environment integrations event = some next) :
    Sound environment.directory next := by
  cases World.stepped hstep with
  | ticked elapsed =>
    refine ⟨fun user row hrow ↦ (hsound.timely user row hrow).mono ?_, hsound.queued,
      hsound.selected, hsound.stored⟩
    exact Int.le_add_of_nonneg_right (Int.natCast_nonneg elapsed)
  | transacted hontime hrun => exact hsound.transact hontime hrun
  | selected node blocked =>
    refine ⟨hsound.timely, hsound.queued, ?_, hsound.stored⟩
    intro row hrow data hdata
    rcases List.mem_append.mp hrow with hold | hnew
    · exact hsound.selected row hold data hdata
    · obtain ⟨message, hmessage, rfl⟩ := List.mem_map.mp hnew
      obtain ⟨id, user, device, found, howner, -, hfound, hstatus, rfl⟩ := mem_deviceResync hmessage
      cases hdata
      exact hsound.timely.endsBy howner hfound hstatus
  | @inserted row hselected =>
    refine ⟨hsound.timely, ?_,
      fun other hother ↦ hsound.selected other (List.mem_of_mem_erase hother), hsound.stored⟩
    intro command hcommand data hdata
    rcases mem_enqueue hcommand with hold | ⟨sent, hsent, hmessage⟩
    · exact hsound.queued command hold data hdata
    · rw [List.mem_singleton.mp hsent] at hmessage
      exact hsound.selected row hselected data (hmessage.symm.trans hdata)
  | handled hcommand =>
    have hhandled := hsound.handle integrations hcommand
    exact ⟨hhandled.timely, hhandled.queued, hhandled.selected, hhandled.stored⟩
  | @counted node device txBytes rxBytes used store hstore =>
    refine hsound.setStore fun id row hrow ↦ ?_
    obtain ⟨old, hold, hends⟩ := Store.subscriptionEnds_addUsage hstore hrow
    rw [hends]
    exact hsound.stored node id old hold

theorem allTimely_fresh (users : List UserId) (devices : DeviceId → Option DeviceRow)
    (assignments : DeviceId → Option NodeId) :
    AllTimely clock (Database.fresh users devices assignments) := by
  intro user row hrow
  obtain ⟨-, hsame⟩ := Option.ite_none_right_eq_some.mp hrow
  cases hsame
  refine ⟨fun _ ↦ rfl, nofun, fun _ _ hends ↦ (Option.not_mem_none _ hends).elim,
    fun hended ↦ ?_, nofun⟩
  rcases hended with hstatus | hstatus | hstatus <;> cases hstatus

theorem sound_of_reachable {users : List UserId} {devices : DeviceId → Option DeviceRow}
    {assignments : DeviceId → Option NodeId} {states : NodeId → String → Option String}
    (hreach : Reachable (World.step environment integrations)
      (.initial (.fresh users devices assignments) clock states) world) :
    Sound environment.directory world := by
  refine hreach.invariant (Sound environment.directory)
    ⟨allTimely_fresh users devices assignments, ?_, ?_, ?_⟩ ?_
  · exact fun command hcommand ↦ absurd hcommand List.not_mem_nil
  · exact fun row hrow ↦ absurd hrow List.not_mem_nil
  · intro node id row hrow
    cases hrow
  intro state event after hsound hstep
  exact hsound.step hstep

/-! ### Admission in grace -/

/-- The admission a device in grace is promised: 1 Mbit/s in both directions and no P2P. -/
def GraceAdmission (id : DeviceId) (decision : AuthDecision) : Prop :=
  decision.ok = true ∧ decision.id = id ∧ ∃ policy ∈ decision.policy,
    policy.upBps = 1000000 ∧ policy.downBps = 1000000 ∧ policy.p2pAllowed = false

/-- Assumes: a system in which the subscription of the device's user is in grace. No node admits the
device, whatever it has handled. -/
theorem grace_refused {users : List UserId} {devices : DeviceId → Option DeviceRow}
    {assignments : DeviceId → Option NodeId} {states : NodeId → String → Option String}
    (hreach : Reachable (World.step environment integrations)
      (.initial (.fresh users devices assignments) clock states) world)
    {user : UserId} {row : Subscription} {id : DeviceId}
    (hrow : world.db.subscriptions user = some row) (hgrace : row.status = .grace)
    (howner : environment.directory.owner id = some user)
    (node : NodeId) (hash : String → String) (credential : String) :
    ¬ GraceAdmission id (authenticate hash (world.stores node) credential world.clock) := by
  rintro ⟨hok, hid, -⟩
  have hsound := sound_of_reachable hreach
  obtain ⟨stored, hstored, hallowed⟩ := authenticate_ok hok
  rw [hid] at hstored
  have hcurrent : world.clock < ofUnix stored.subscriptionEnds :=
    ((allowed_iff _ _).mp hallowed).2.1
  -- The node has stored an end that the subscription has, and in grace that end has passed.
  obtain ⟨found, row', later, hfound, hrow', hlater, hle⟩ := hsound.stored node id stored hstored
  cases howner.symm.trans hfound
  cases hrow.symm.trans hrow'
  obtain ⟨ends, hends, hended⟩ := (hsound.timely user row hrow).ended (.inl hgrace)
  cases (Option.mem_def.mp hends).symm.trans (Option.mem_def.mp hlater)
  omega

end Invariant

/-! ### A subscription in grace -/

def soloWorld (world : World) (events : List WorldEvent) : World :=
  (run (World.step soloEnvironment soloIntegrations) world events).getD world

def paidWorld : World :=
  soloWorld (.initial soloDatabase 0 fun _ ↦ soloStore.state)
    [.transact (soloCredit 14900 "credit"), .transact (soloPurchase .lite 0 "purchase"),
      .transact (.provisionDevice ⟨"device", "node", 0, 0, "lease"⟩)]

def servedWorld : World := soloWorld paidWorld (paidWorld.db.commands.map .handle)

def endedWorld : World :=
  soloWorld servedWorld
    [.tick (30 * 24 * 60 * 60 * 1000000000), .transact (soloLifecycle (30 * day))]

def graceWorld : World :=
  soloWorld endedWorld ((endedWorld.db.commands.drop 2).map .handle)

theorem soloWorld_reachable (world : World) (events : List WorldEvent) :
    Reachable (World.step soloEnvironment soloIntegrations) world
      (soloWorld world events) := by
  unfold soloWorld
  cases hrun : run (World.step soloEnvironment soloIntegrations) world events with
  | none => exact .refl
  | some next => exact reachable_of_run hrun

theorem graceWorld_reachable :
    Reachable (World.step soloEnvironment soloIntegrations)
      (.initial soloDatabase 0 fun _ ↦ soloStore.state) graceWorld :=
  (((soloWorld_reachable _ _).trans (soloWorld_reachable _ _)).trans
    (soloWorld_reachable _ _)).trans (soloWorld_reachable _ _)

def graceRow : Subscription where
  planCode := .lite
  pendingPlanCode := none
  status := .grace
  periodStartedAt := some 0
  periodEndsAt := some (30 * day)
  graceEndsAt := some (31 * day)
  quotaBytes := 150000000000
  usedBytes := 0

theorem grace_refused_solo :
    graceWorld.db.subscriptions "user" = some graceRow ∧
    ¬ GraceAdmission "device"
      (authenticate id (graceWorld.stores "node") "hash" graceWorld.clock) :=
  ⟨rfl, grace_refused graceWorld_reachable rfl rfl rfl "node" id "hash"⟩

/-- The device of a subscription in grace, assigned and not revoked, before the end of the grace and
with every command handled by its node: the override is there, and the device is refused. -/
theorem grace_expired :
    Reachable (World.step soloEnvironment soloIntegrations)
      (.initial soloDatabase 0 fun _ ↦ soloStore.state) graceWorld ∧
    graceWorld.db.subscriptions "user" = some graceRow ∧ graceWorld.clock < 31 * day ∧
    graceWorld.db.assignments "device" = some "node" ∧
    (graceWorld.db.devices "device").map DeviceRow.revokedAt = some none ∧
    (∀ command ∈ graceWorld.db.commands, command.id ∈ graceWorld.handled) ∧
    ((graceWorld.stores "node").storedById "device").map
      (fun row ↦ (row.overrideUpBps, row.overrideExpires)) = some (1000000, 31 * 86400) ∧
    authenticate id (graceWorld.stores "node") "hash" graceWorld.clock =
      { ok := false, reason := "subscription_expired" } := by
  refine ⟨graceWorld_reachable, rfl, ?_, rfl, rfl, ?_, rfl, rfl⟩
  · decide
  · decide

end RiseVpn.Fleet
