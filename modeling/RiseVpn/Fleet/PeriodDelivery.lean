import RiseVpn.Control.PeriodExtensions
import RiseVpn.Fleet.Grace

/-!
# An extended period, from the controller to the node

A committed operation moves the end of a user's period later, the workers run, and the nodes handle
what is queued. `storedEnds` are the ends that a node has for a device; only an accepted
`device.upsert` changes them, so a node ends with those of the last one it handled
(`storedEnds_handled`).

`period_reached_iff` is the result: a node has the new end exactly when the device was sent to it
since the operation, and no older upsert of the device was handled last. A same-plan renewal and a
renewal by the worker send nothing, and `renewQuotaLeases` sends no device that holds an unexpired
lease (`not_sentBy_of_leased`), so such a device keeps the old end.
-/

set_option autoImplicit false

namespace RiseVpn.Fleet

open Control

/-! ### The node -/

def Sends (id : DeviceId) (command : Command) : Prop :=
  ∃ data, command.message = .deviceUpsert data ∧ data.deviceId = id

def storedEnds (store : Store) (id : DeviceId) : Option (ℤ × ℤ) :=
  (store.storedById id).map fun row ↦ (row.subscriptionEnds, row.periodEnds)

/-- A node handles commands one after the other, each at its time; those that send the device it
handles with success. -/
def HandledBy (integrations : Integrations) (id : DeviceId) :
    Store → List (Command × ℤ) → Store → Prop
  | store, [], last => last = store
  | store, (command, now) :: rest, last =>
    (Sends id command → (handle integrations store command.message now).2 = .ok ()) ∧
      HandledBy integrations id (handle integrations store command.message now).1 rest last

section Node

variable {integrations : Integrations} {store last : Store} {id : DeviceId} {now : ℤ}
  {command : Command} {order : List (Command × ℤ)}

theorem storedEnds_handle_of_not_sends (hnot : ¬ Sends id command) :
    storedEnds (handle integrations store command.message now).1 id = storedEnds store id := by
  by_cases hwrites : command.message.WritesTo id
  · unfold storedEnds
    rcases storedById_handle_cases integrations store now hwrites with ⟨hsame, -⟩ | heffect
    · rw [hsame]
    · rw [heffect]
      cases hmessage : command.message with
      | deviceUpsert data =>
        rw [hmessage] at hwrites
        exact absurd ⟨data, hmessage, hwrites⟩ hnot
      | quotaLease | deviceRevoke | policyOverride =>
        rw [rowEffect, Option.map_map]
        rfl
      | _ => rfl
  · rw [storedEnds, storedById_handle_other hwrites]
    rfl

theorem storedEnds_handle_of_sends {data : DeviceUpsert}
    (hmessage : command.message = .deviceUpsert data) (hid : data.deviceId = id)
    (hok : (handle integrations store command.message now).2 = .ok ()) :
    storedEnds (handle integrations store command.message now).1 id =
      some (unix data.subscriptionEnds, unix data.periodEnds) := by
  subst hid
  rw [hmessage] at hok ⊢
  have hwrites : (Message.deviceUpsert data).WritesTo data.deviceId := rfl
  rw [storedEnds, storedById_handle_of_ok hwrites hok]
  cases store.storedById data.deviceId <;> rfl

theorem storedEnds_handled (hhandled : HandledBy integrations id store order last) :
    (∀ handled ∈ order, ¬ Sends id handled.1) ∧ storedEnds last id = storedEnds store id ∨
    ∃ front handled rest data, order = front ++ handled :: rest ∧
      handled.1.message = .deviceUpsert data ∧ data.deviceId = id ∧
      (∀ later ∈ rest, ¬ Sends id later.1) ∧
      storedEnds last id = some (unix data.subscriptionEnds, unix data.periodEnds) := by
  induction order generalizing store with
  | nil =>
    cases hhandled
    exact .inl ⟨by simp, rfl⟩
  | cons first rest ih =>
    obtain ⟨hok, hrest⟩ := hhandled
    rcases ih hrest with ⟨hnone, hsame⟩ | ⟨front, handled, tail, data, rfl, hlast⟩
    · by_cases hfirst : Sends id first.1
      · obtain ⟨data, hdata, hid⟩ := hfirst
        refine .inr ⟨[], first, rest, data, rfl, hdata, hid, hnone, ?_⟩
        rw [hsame]
        exact storedEnds_handle_of_sends hdata hid (hok ⟨data, hdata, hid⟩)
      · refine .inl ⟨List.forall_mem_cons.mpr ⟨hfirst, hnone⟩, ?_⟩
        rw [hsame]
        exact storedEnds_handle_of_not_sends hfirst
    · exact .inr ⟨first :: front, handled, tail, data, rfl, hlast⟩

end Node

/-! ### The operation and what follows it -/

/-- A committed operation has moved the end of a user's period to `ends`. Then the calls of
`provisionDevice` that belong to it were made, and the workers have run without moving the end
again. -/
structure Extended (environment : Environment) (world : World) (request : Request)
    (committed : Database) (user : UserId) (ends : ℤ) (calls : List ProvisionDevice)
    (runs : List WorkerRun) : Prop where
  operation : request.ExtendsPeriods
  onTime : OnTime world.clock request
  commits : (program environment request).run world.db = .ok committed
  moved : periodEnd committed user = some ends
  later : ∀ old ∈ periodEnd world.db user, old < ends
  purchased : (calls.map fun call ↦ (call.deviceId, call.nodeId)).Perm
    (purchasedDevices environment.directory request world.db committed)
  followed : Followed environment user ends (provisionAll environment calls committed).1 runs

def afterwards (environment : Environment) (committed : Database) (calls : List ProvisionDevice)
    (runs : List WorkerRun) : Database :=
  runWorkers environment (provisionAll environment calls committed).1 runs

/-- The device was sent to the node since the operation: by a call that belongs to it, or by a
worker. -/
def SentSince (environment : Environment) (committed : Database) (calls : List ProvisionDevice)
    (runs : List WorkerRun) (id : DeviceId) (node : NodeId) : Prop :=
  CallMade environment committed calls id node ∨
    SentBy environment id node (provisionAll environment calls committed).1 runs

/-- No upsert of the device from before is handled after all newer ones. -/
def InTurn (before : Database) (id : DeviceId) (order : List (Command × ℤ)) : Prop :=
  ∀ front handled rest, order = front ++ handled :: rest → handled.1 ∈ before.commands →
    Sends id handled.1 → ∃ newer ∈ rest, newer.1 ∉ before.commands ∧ Sends id newer.1

section Result

variable {environment : Environment} {integrations : Integrations} {world : World}
  {request : Request} {committed : Database} {user : UserId} {ends : ℤ}
  {calls : List ProvisionDevice} {runs : List WorkerRun} {id : DeviceId} {node : NodeId}
  {command : Command} {data : DeviceUpsert}

section

variable (hextended : Extended environment world request committed user ends calls runs)

include hextended

theorem Extended.not_known (htimely : AllTimely world.clock world.db)
    (howner : environment.directory.owner id = some user) {known : ℤ}
    (hknown : EndsBy environment.directory world.db id known) : unix known < unix ends := by
  obtain ⟨found, row, later, hfound, hrow, hlater, hle⟩ := hknown
  cases howner.symm.trans hfound
  obtain ⟨row', hrow', hends⟩ := Option.bind_eq_some_iff.mp hextended.moved
  have hold : periodEnd world.db user = some later := by
    rw [periodEnd, hrow]
    exact hlater
  have hsecond := extended_by_second hextended.operation hextended.onTime hextended.commits hrow
    (htimely user row hrow) hrow' hlater hends (hextended.later later hold)
  exact unix_lt_unix (by omega)

theorem Extended.end_after :
    periodEnd (provisionAll environment calls committed).1 user = some ends := by
  rw [periodEnd, (provisionAll_frame calls committed).1]
  exact hextended.moved

theorem Extended.sent (howner : environment.directory.owner data.deviceId = some user)
    (hcommand : command ∈ (afterwards environment committed calls runs).commands)
    (hnew : command ∉ world.db.commands) (hdata : command.message = .deviceUpsert data) :
    SentSince environment committed calls runs data.deviceId command.nodeId ∧
      data.subscriptionEnds = ends ∧ data.periodEnds = ends := by
  rcases mem_runWorkers hextended.followed hextended.end_after howner hcommand hdata with
    hcalled | ⟨hsent, hends⟩
  · rcases mem_provisionAll (purchasedDevices_nodup hextended.purchased) hcalled hdata with
      hcommitted | ⟨hmade, hcarries⟩
    · exact absurd (noNewUpsert_operation hextended.operation hextended.commits command hcommitted
        data hdata) hnew
    · exact ⟨.inl hmade, hcarries.eq howner hextended.moved⟩
  · exact ⟨.inr hsent, hends⟩

end

theorem SentSince.queued (hsent : SentSince environment committed calls runs id node)
    (hextended : Extended environment world request committed user ends calls runs)
    (howner : environment.directory.owner id = some user) :
    ∃ command ∈ (afterwards environment committed calls runs).commands, ∃ data,
      command.message = .deviceUpsert data ∧ data.deviceId = id ∧ command.nodeId = node ∧
      data.subscriptionEnds = ends := by
  rcases hsent with hmade | hworker
  · obtain ⟨command, hcommand, data, hdata, rfl, hnode, hcarries⟩ :=
      hmade.queued (purchasedDevices_nodup hextended.purchased)
    exact ⟨command, commands_runWorkers runs _ hcommand, data, hdata, rfl, hnode,
      (hcarries.eq howner hextended.moved).1⟩
  · obtain ⟨command, hcommand, data, hdata, hid, hnode, hends, -⟩ :=
      hworker.queued hextended.followed hextended.end_after howner
    exact ⟨command, hcommand, data, hdata, hid, hnode, hends⟩

theorem mem_rest_of_split {α : Type*} {first second : α} {front rest front' rest' : List α}
    (hsplit : front ++ first :: rest = front' ++ second :: rest') (hne : first ≠ second)
    (hrest : second ∉ rest) : first ∈ rest' := by
  rcases List.append_eq_append_iff.mp hsplit with ⟨more, -, hmore⟩ | ⟨more, -, hmore⟩
  · cases more with
    | nil => exact absurd (List.cons.inj hmore).1 hne
    | cons head more =>
      refine absurd ?_ hrest
      rw [(List.cons.inj hmore).2]
      exact List.mem_append_right _ List.mem_cons_self
  · cases more with
    | nil => exact absurd (List.cons.inj hmore).1.symm hne
    | cons head more =>
      rw [(List.cons.inj hmore).2]
      exact List.mem_append_right _ List.mem_cons_self

/-- Assumes: a system in which a committed operation has moved the end of the period of the device's
user later and the workers have run, and a node that has handled commands of its queue, all that are
newer than the operation among them. It has the new end for the device exactly when the device was
sent to it since the operation and no older upsert of the device was handled last. -/
theorem period_reached_iff {users : List UserId} {devices : DeviceId → Option DeviceRow}
    {assignments : DeviceId → Option NodeId} {states : NodeId → String → Option String} {clock : ℤ}
    {order : List (Command × ℤ)} {last : Store}
    (hreach : GuardedRun.Reachable (World.step environment integrations)
      (.initial (.fresh users devices assignments) clock states) world)
    (hextended : Extended environment world request committed user ends calls runs)
    (howner : environment.directory.owner id = some user)
    (horder : ∀ handled ∈ order,
      handled.1 ∈ (afterwards environment committed calls runs).commands ∧
        handled.1.nodeId = node)
    (hall : ∀ command ∈ (afterwards environment committed calls runs).commands,
      command.nodeId = node → command ∉ world.db.commands → ∃ now, (command, now) ∈ order)
    (hhandled : HandledBy integrations id (world.stores node) order last) :
    storedEnds last id = some (unix ends, unix ends) ↔
      SentSince environment committed calls runs id node ∧ InTurn world.db id order := by
  have hsound := sound_of_reachable hreach
  have hold : ∀ command ∈ world.db.commands, ∀ data, command.message = .deviceUpsert data →
      data.deviceId = id → unix data.subscriptionEnds ≠ unix ends := by
    rintro command hcommand data hdata rfl
    exact (hextended.not_known hsound.timely howner (hsound.queued command hcommand data hdata)).ne
  constructor
  · intro hends
    rcases storedEnds_handled hhandled with
      ⟨-, hsame⟩ | ⟨front, handled, rest, data, rfl, hdata, rfl, hnone, hstored⟩
    · -- The store is that of before, which does not have the new end.
      rw [hsame] at hends
      obtain ⟨row, hrow, hpair⟩ := Option.map_eq_some_iff.mp hends
      have hlt := hextended.not_known hsound.timely howner (hsound.stored node id row hrow)
      rw [unix_ofUnix, (Prod.mk.inj hpair).1] at hlt
      exact absurd hlt (lt_irrefl _)
    · have hlast : handled ∈ front ++ handled :: rest :=
        List.mem_append_right _ List.mem_cons_self
      have hnew : handled.1 ∉ world.db.commands := by
        intro hmember
        rw [hstored] at hends
        exact hold _ hmember data hdata rfl (Prod.mk.inj (Option.some.inj hends)).1
      obtain ⟨hmember, hnode⟩ := horder handled hlast
      refine ⟨hnode ▸ (hextended.sent howner hmember hnew hdata).1, ?_⟩
      intro front' older rest' hsplit holder hsends
      refine ⟨handled, mem_rest_of_split hsplit ?_ fun hrest ↦ hnone older hrest hsends, hnew,
        data, hdata, rfl⟩
      rintro rfl
      exact hnew holder
  · rintro ⟨hsent, hturn⟩
    obtain ⟨command, hcommand, data, hdata, hid, hnode, hends⟩ := hsent.queued hextended howner
    have hnew : command ∉ world.db.commands := fun hmember ↦
      hold command hmember data hdata hid (by rw [hends])
    obtain ⟨now, hmember⟩ := hall command hcommand hnode hnew
    rcases storedEnds_handled hhandled with
      ⟨hnone, -⟩ | ⟨front, handled, rest, found, rfl, hfound, rfl, hnone, hstored⟩
    · exact absurd ⟨data, hdata, hid⟩ (hnone (command, now) hmember)
    · have hlast : handled ∈ front ++ handled :: rest :=
        List.mem_append_right _ List.mem_cons_self
      have hnewest : handled.1 ∉ world.db.commands := by
        intro holder
        obtain ⟨newer, hnewer, -, hsends⟩ :=
          hturn front handled rest rfl holder ⟨found, hfound, rfl⟩
        exact hnone newer hnewer hsends
      obtain ⟨-, hsubscription, hperiod⟩ :=
        hextended.sent howner (horder handled hlast).1 hnewest hfound
      rw [hstored, hsubscription, hperiod]

end Result

/-! ### A purchase and a renewal -/

def soloRuns (txNow : ℤ) (calls : List ProvisionDevice) : List WorkerRun :=
  let scan : Scan := ⟨["user"], List.nodup_singleton _⟩
  [.subscriptionLifecycle ⟨txNow, scan, scan, scan, scan⟩,
    .renewQuotaLeases (fun _ ↦ false) txNow calls]

def fundedWorld : World :=
  soloWorld (.initial soloDatabase 0 fun _ ↦ soloStore.state)
    [.transact (soloCredit 14900 "credit")]

def soloCommitted (world : World) (request : Request) : Database :=
  ((program soloEnvironment request).run world.db).toOption.getD world.db

def purchasedDatabase : Database := soloCommitted fundedWorld (soloPurchase .lite 0 "purchase")

def soloCall : ProvisionDevice := ⟨"device", "node", 0, 0, "lease"⟩

def purchaseOrder : List (Command × ℤ) :=
  (afterwards soloEnvironment purchasedDatabase [soloCall] (soloRuns 0 [])).commands.map (·, 0)

def purchasedStore : Store :=
  handleAll soloIntegrations (fundedWorld.stores "node")
    (purchaseOrder.map fun handled ↦ (handled.1.message, handled.2))

theorem period_reached_purchase :
    Extended soloEnvironment fundedWorld (soloPurchase .lite 0 "purchase") purchasedDatabase "user"
      (30 * day) [soloCall] (soloRuns 0 []) ∧
    HandledBy soloIntegrations "device" (fundedWorld.stores "node") purchaseOrder purchasedStore ∧
    storedEnds purchasedStore "device" = some (unix (30 * day), unix (30 * day)) := by
  have hextended : Extended soloEnvironment fundedWorld (soloPurchase .lite 0 "purchase")
      purchasedDatabase "user" (30 * day) [soloCall] (soloRuns 0 []) := by
    refine ⟨trivial, rfl, rfl, rfl, ?_, .rfl, trivial, rfl, .rfl, rfl, trivial⟩
    intro old hold
    cases hold
  have hhandled : HandledBy soloIntegrations "device" (fundedWorld.stores "node") purchaseOrder
      purchasedStore := ⟨fun _ ↦ rfl, fun _ ↦ rfl, rfl⟩
  refine ⟨hextended, hhandled,
    (period_reached_iff (soloWorld_reachable _ _) hextended rfl ?_ ?_ hhandled).mpr ⟨.inl ?_, ?_⟩⟩
  · have hnode : ∀ command ∈ (afterwards soloEnvironment purchasedDatabase [soloCall]
        (soloRuns 0 [])).commands, command.nodeId = "node" := by decide
    intro handled hmember
    obtain ⟨command, hcommand, rfl⟩ := List.mem_map.mp hmember
    exact ⟨hcommand, hnode command hcommand⟩
  · exact fun command hcommand _ _ ↦ ⟨0, List.mem_map_of_mem hcommand⟩
  · refine ⟨[], soloCall, [], rfl, rfl, rfl, fun made hmade ↦ ?_⟩
    rw [List.mem_singleton.mp hmade]
    exact provision_ok_iff.mp ⟨_, rfl⟩
  · intro front handled rest _ hold
    cases hold

def renewableWorld : World := soloWorld servedWorld [.transact (soloCredit 14900 "more")]

def renewedDatabase : Database := soloCommitted renewableWorld (soloPurchase .lite 0 "renewal")

/-- The user renews a plan whose device holds a lease. The workers run and no command is left, and
the device, assigned and not revoked, has the old end on its node. -/
theorem renewal_not_reached :
    GuardedRun.Reachable (World.step soloEnvironment soloIntegrations)
      (.initial soloDatabase 0 fun _ ↦ soloStore.state) renewableWorld ∧
    Extended soloEnvironment renewableWorld (soloPurchase .lite 0 "renewal") renewedDatabase "user"
      (60 * day) [] (soloRuns 0 []) ∧
    soloEnvironment.directory.owner "device" = some "user" ∧
    (afterwards soloEnvironment renewedDatabase [] (soloRuns 0 [])).assignments "device" =
      some "node" ∧
    ((afterwards soloEnvironment renewedDatabase [] (soloRuns 0 [])).devices "device").map
      DeviceRow.revokedAt = some none ∧
    (∀ command ∈ (afterwards soloEnvironment renewedDatabase [] (soloRuns 0 [])).commands,
      command.id ∈ renewableWorld.handled) ∧
    storedEnds (renewableWorld.stores "node") "device" =
      some (unix (30 * day), unix (30 * day)) ∧
    unix (30 * day) ≠ unix (60 * day) := by
  refine ⟨?_, ⟨trivial, rfl, rfl, rfl, ?_, .rfl, trivial, rfl, .rfl, rfl, trivial⟩, rfl, rfl, rfl,
    by decide, rfl, by decide⟩
  · exact ((soloWorld_reachable _ _).trans (soloWorld_reachable _ _)).trans
      (soloWorld_reachable _ _)
  · intro old hold
    cases hold
    decide

end RiseVpn.Fleet
