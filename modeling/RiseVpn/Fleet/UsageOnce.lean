import RiseVpn.Control.UsageIntake
import RiseVpn.Node.Client

/-!
# Usage is billed once

`UsageWorld` is the controller, transaction by transaction and statement by statement, with its
nodes and the network between them. The messages a node or the controller has sent stay in the
network for good: any of them may arrive at any time, any number of times and in any order, or
never, and a batch may be processed on several connections at once. An acknowledgement is sent when
the transaction of its batch has committed.

`UsageSound` is the invariant. The ids of a node's usage events grow and are never used again, so
that an event keeps its identity; a row of the controller's table is an event of that node; an
acknowledged event is in the table; and so is an event that the node has marked as sent.
`UsageSound.controller` and `UsageSound.setStore` are its steps on the two sides, and
`usage_billed_once` the result.
-/

set_option autoImplicit false

namespace RiseVpn.Fleet

open Control RowLocking GuardedRun

/-! ### The system -/

/-- The controller, its nodes, and every `usage.batch` and `usage.ack` that was ever sent, with its
node. -/
structure UsageWorld where
  controller : Controller
  stores : NodeId → Store
  reports : List (NodeId × List UsageEvent)
  acks : List (NodeId × List String)

def UsageWorld.initial (db : Database) (stores : NodeId → Store) : UsageWorld where
  controller := .idle db
  stores := stores
  reports := []
  acks := []

inductive UsageWorldEvent
  | controller (event : ControllerEvent)
  | addUsage (node : NodeId) (device : DeviceId) (txBytes rxBytes now : ℤ)
  | report (node : NodeId)
  | receiveAck (ack : NodeId × List String) (now : ℤ)
  | handle (node : NodeId) (message : Message) (now : ℤ)

def UsageWorld.Delivers (world : UsageWorld) : ControllerEvent → Prop
  | .start _ (.usage batch) => (batch.nodeId, batch.events) ∈ world.reports
  | _ => True

instance (world : UsageWorld) (event : ControllerEvent) : Decidable (world.Delivers event) := by
  unfold UsageWorld.Delivers
  split <;> infer_instance

/-- The acknowledgement that `NodeHub.usage` sends after a commit. -/
def UsageWorld.acksOf (world : UsageWorld) : ControllerEvent → List (NodeId × List String)
  | .commit connection =>
    match world.controller.sessions connection with
    | some ⟨.usage batch, _, _, _⟩ => [(batch.nodeId, batch.events.map UsageEvent.eventId)]
    | _ => []
  | _ => []

def UsageWorld.setStore (world : UsageWorld) (node : NodeId) (store : Store) : UsageWorld :=
  { world with stores := Function.update world.stores node store }

/-- One event of the system. An acknowledgement is handled only through `receiveAck`. -/
def UsageWorld.step (environment : Environment) (integrations : Integrations) (world : UsageWorld) :
    UsageWorldEvent → Option UsageWorld
  | .controller event =>
    if world.Delivers event then
      (world.controller.step environment event).map fun next ↦
        { world with controller := next, acks := world.acks ++ world.acksOf event }
    else none
  | .addUsage node device txBytes rxBytes now =>
    match (world.stores node).addUsage device txBytes rxBytes now with
    | .ok (_, store) => some (world.setStore node store)
    | .error _ => none
  | .report node =>
    if usageBatch (world.stores node) = [] then none
    else some { world with reports := world.reports ++ [(node, usageBatch (world.stores node))] }
  | .receiveAck ack now =>
    if ack ∈ world.acks then
      some (world.setStore ack.1
        (handle integrations (world.stores ack.1) (.usageAck (ack.2.map .text)) now).1)
    else none
  | .handle node message now =>
    match message with
    | .usageAck _ => none
    | message =>
      some (world.setStore node
        (RiseVpn.handle integrations (world.stores node) message now).1)

variable (environment : Environment) (integrations : Integrations) (world : UsageWorld) in
inductive UsageWorldStep : UsageWorld → Prop
  | controller {event : ControllerEvent} {after : Controller} (hdelivers : world.Delivers event)
      (hstep : world.controller.step environment event = some after) : UsageWorldStep
        { world with controller := after, acks := world.acks ++ world.acksOf event }
  | addUsage {node : NodeId} {device : DeviceId} {txBytes rxBytes now used : ℤ} {store : Store}
      (hstore : (world.stores node).addUsage device txBytes rxBytes now = .ok (used, store)) :
      UsageWorldStep (world.setStore node store)
  | report {node : NodeId} : UsageWorldStep
        { world with reports := world.reports ++ [(node, usageBatch (world.stores node))] }
  | receiveAck {ack : NodeId × List String} {now : ℤ} (hack : ack ∈ world.acks) :
      UsageWorldStep (world.setStore ack.1
        (handle integrations (world.stores ack.1) (.usageAck (ack.2.map .text)) now).1)
  | handle {node : NodeId} {message : Message} {now : ℤ}
      (hmessage : ∀ eventIds, message ≠ .usageAck eventIds) : UsageWorldStep (world.setStore node
        (RiseVpn.handle integrations (world.stores node) message now).1)

theorem UsageWorld.step_cases {environment : Environment} {integrations : Integrations}
    {world next : UsageWorld} {event : UsageWorldEvent}
    (hstep : world.step environment integrations event = some next) :
    UsageWorldStep environment integrations world next := by
  cases event with
  | controller event =>
    simp only [UsageWorld.step] at hstep
    split_ifs at hstep with hdelivers
    obtain ⟨after, hafter, rfl⟩ := Option.map_eq_some_iff.mp hstep
    exact .controller hdelivers hafter
  | addUsage node device txBytes rxBytes now =>
    simp only [UsageWorld.step] at hstep
    split at hstep
    · rename_i used store hstore
      cases hstep
      exact .addUsage hstore
    · cases hstep
  | report node =>
    simp only [UsageWorld.step] at hstep
    split_ifs at hstep
    cases hstep
    exact .report
  | receiveAck ack now =>
    simp only [UsageWorld.step] at hstep
    split_ifs at hstep with hack
    cases hstep
    exact .receiveAck hack
  | handle node message now =>
    simp only [UsageWorld.step] at hstep
    split at hstep
    · cases hstep
    · rename_i hmessage
      cases hstep
      exact .handle hmessage

/-! ### The invariant -/

def FromNode (stores : NodeId → Store) (node : NodeId) (event : UsageEvent) : Prop :=
  ∃ row ∈ (stores node).usageEvents, event = reportedEvent row

structure UsageSound (environment : Environment) (world : UsageWorld) : Prop where
  serial : Serial view (program environment) world.controller
  tallied : Tallied environment.directory world.controller.db
  recorded : Recorded (FromNode world.stores) world.controller.db
  sessions : ∀ connection session, world.controller.sessions connection = some session →
    ∀ batch, session.request = .usage batch → ∀ event ∈ batch.events,
      FromNode world.stores batch.nodeId event
  reports : ∀ report ∈ world.reports, ∀ event ∈ report.2, FromNode world.stores report.1 event
  acks : ∀ ack ∈ world.acks, ∀ eventId ∈ ack.2,
    (∃ id, eventId = Nat.repr id) ∧ world.controller.db.usageEvents (ack.1, eventId) ≠ none
  numbered : ∀ node, (world.stores node).Numbered
  sent : ∀ node, ∀ row ∈ (world.stores node).usageEvents, row.sentAt ≠ none →
    world.controller.db.usageEvents (node, Nat.repr row.id) ≠ none

section Invariant

variable {environment : Environment} {integrations : Integrations} {world next : UsageWorld}

theorem UsageSound.setStore (hsound : UsageSound environment world) {node : NodeId} {store : Store}
    (hkept : ∀ row ∈ (world.stores node).usageEvents, ∃ row' ∈ store.usageEvents,
      reportedEvent row = reportedEvent row')
    (hnumbered : store.Numbered)
    (hsent : ∀ row ∈ store.usageEvents, row.sentAt ≠ none →
      world.controller.db.usageEvents (node, Nat.repr row.id) ≠ none) :
    UsageSound environment (world.setStore node store) := by
  have hself : (world.setStore node store).stores node = store := Function.update_self _ _ _
  have hother : ∀ other, other ≠ node →
      (world.setStore node store).stores other = world.stores other :=
    fun other hother ↦ Function.update_of_ne hother _ _
  have hfrom : ∀ other event, FromNode world.stores other event →
      FromNode (world.setStore node store).stores other event := by
    rintro other event ⟨row, hrow, rfl⟩
    by_cases hsame : other = node
    · subst hsame
      obtain ⟨row', hrow', hreported⟩ := hkept row hrow
      exact ⟨row', by rwa [hself], hreported⟩
    · exact ⟨row, (hother other hsame).symm ▸ hrow, rfl⟩
  refine ⟨hsound.serial, hsound.tallied, ?_, ?_, ?_, hsound.acks, ?_, ?_⟩
  · intro other eventId row hrow
    obtain ⟨event, hevent, hid, hsame⟩ := hsound.recorded other eventId row hrow
    exact ⟨event, hfrom other event hevent, hid, hsame⟩
  · intro connection session hsession batch hbatch event hevent
    exact hfrom _ _ (hsound.sessions connection session hsession batch hbatch event hevent)
  · intro report hreport event hevent
    exact hfrom _ _ (hsound.reports report hreport event hevent)
  · intro other
    by_cases hsame : other = node
    · subst hsame
      rw [hself]
      exact hnumbered
    · rw [hother other hsame]
      exact hsound.numbered other
  · intro other row hrow
    by_cases hsame : other = node
    · subst hsame
      rw [hself] at hrow
      exact hsent row hrow
    · rw [hother other hsame] at hrow
      exact hsound.sent other row hrow

theorem request_of_step {controller after : Controller} {event : ControllerEvent}
    (hstep : controller.step environment event = some after) {connection : Connection}
    {session : Session LockKey Database Failure Request}
    (hsession : after.sessions connection = some session) :
    event = .start connection session.request ∨ ∃ old, controller.sessions connection = some old ∧
      old.request = session.request := by
  rcases step_cases hstep with ⟨slot, request, rfl, -, rfl⟩ |
    ⟨slot, request, held, pending, locks, write, continue', -, hslot, -, rfl⟩ |
    ⟨slot, old, -, -, -, rfl⟩ | ⟨slot, old, -, -, rfl⟩
  all_goals by_cases hconnection : connection = slot
  · subst hconnection
    rw [System.set_self] at hsession
    cases hsession
    exact .inl rfl
  · rw [System.set_of_ne _ _ hconnection] at hsession
    exact .inr ⟨session, hsession, rfl⟩
  · subst hconnection
    rw [System.set_self] at hsession
    cases hsession
    exact .inr ⟨_, hslot, rfl⟩
  · rw [System.set_of_ne _ _ hconnection] at hsession
    exact .inr ⟨session, hsession, rfl⟩
  · subst hconnection
    simp at hsession
  · have hsession : controller.sessions connection = some session := by
      simpa [System.set_of_ne controller none hconnection] using hsession
    exact .inr ⟨session, hsession, rfl⟩
  · subst hconnection
    simp at hsession
  · rw [System.set_of_ne _ _ hconnection] at hsession
    exact .inr ⟨session, hsession, rfl⟩

section

variable (hsound : UsageSound environment world)

include hsound

theorem UsageSound.present {event : ControllerEvent} {after : Controller}
    (hstep : world.controller.step environment event = some after) :
    (∀ key, world.controller.db.usageEvents key ≠ none → after.db.usageEvents key ≠ none) ∧
      ∀ ack ∈ world.acksOf event, ∀ eventId ∈ ack.2,
        (∃ id, eventId = Nat.repr id) ∧ after.db.usageEvents (ack.1, eventId) ≠ none := by
  by_cases hcommit : ∃ connection, event = .commit connection
  · obtain ⟨connection, rfl⟩ := hcommit
    obtain ⟨session, result, hsession, hrun, hview⟩ := commit_serial hsound.serial hstep
    have hevents : ∀ node eventId,
        after.db.usageEvents (node, eventId) = result.usageEvents (node, eventId) :=
      fun node eventId ↦ usageEvents_eq (hview (.usageEvent node eventId))
    refine ⟨fun key hkey ↦ ?_, fun ack hack eventId heventId ↦ ?_⟩
    · rw [hevents]
      exact present_program hrun key hkey
    · rw [UsageWorld.acksOf, hsession] at hack
      cases hrequest : session.request with
      | usage batch =>
        rw [hrequest] at hrun
        rcases session with ⟨request, held, pending, rest⟩
        cases hrequest
        rw [List.mem_singleton.mp hack] at heventId ⊢
        obtain ⟨event, hevent, rfl⟩ := List.mem_map.mp heventId
        refine ⟨?_, ?_⟩
        · obtain ⟨row, -, hreported⟩ := hsound.sessions connection _ hsession batch rfl event hevent
          exact ⟨row.id, hreported ▸ rfl⟩
        · rw [hevents]
          exact (present_visited (run_usage hrun)).1 event hevent
      | _ =>
        rcases session with ⟨request, held, pending, rest⟩
        cases hrequest
        cases hack
  · have hnot : ∀ connection, event ≠ .commit connection := fun connection hevent ↦
      hcommit ⟨connection, hevent⟩
    rw [db_of_not_commit hstep hnot]
    refine ⟨fun _ hkey ↦ hkey, fun ack hack ↦ ?_⟩
    cases event with
    | commit connection => exact absurd rfl (hnot connection)
    | start _ _ | exec _ | rollback _ => cases hack

theorem UsageSound.controller {event : ControllerEvent} {after : Controller}
    (hdelivers : world.Delivers event)
    (hstep : world.controller.step environment event = some after) :
    UsageSound environment
      { world with controller := after, acks := world.acks ++ world.acksOf event } := by
  obtain ⟨hpresent, hacked⟩ := hsound.present hstep
  have hintake : Tallied environment.directory after.db ∧
      Recorded (FromNode world.stores) after.db := by
    refine step_view_invariant
      (fun db ↦ Tallied environment.directory db ∧ Recorded (FromNode world.stores) db)
      (fun request _ ↦ ∀ batch, request = .usage batch → ∀ event ∈ batch.events,
        FromNode world.stores batch.nodeId event) ?_ ?_ hsound.serial
      ⟨hsound.tallied, hsound.recorded⟩ ?_ hstep
    · intro db db' hview hintake
      exact ⟨hintake.1.of_view hview, hintake.2.of_view hview⟩
    · intro request db result hintake hsent hrun
      exact ⟨tallied_program hintake.1 hrun, recorded_program hsent hintake.2 hrun⟩
    · intro connection session _ hsession
      exact hsound.sessions connection session hsession
  refine ⟨serial_step (program_local environment) hsound.serial hstep, hintake.1, hintake.2, ?_,
    hsound.reports, ?_, hsound.numbered, ?_⟩
  · intro connection session hsession batch hbatch
    rcases request_of_step hstep hsession with rfl | ⟨old, hold, hrequest⟩
    · rw [hbatch] at hdelivers
      exact hsound.reports _ hdelivers
    · exact hsound.sessions connection old hold batch (hrequest.trans hbatch)
  · intro ack hack eventId heventId
    rcases List.mem_append.mp hack with hold | hnew
    · obtain ⟨hid, hkey⟩ := hsound.acks ack hold eventId heventId
      exact ⟨hid, hpresent _ hkey⟩
    · exact hacked ack hnew eventId heventId
  · intro node row hrow hsent
    exact hpresent _ (hsound.sent node row hrow hsent)

theorem UsageSound.acked {ack : NodeId × List String} (hack : ack ∈ world.acks) {id : ℕ}
    (hid : (id : ℤ) ∈ ackedIds (ack.2.map .text)) :
    world.controller.db.usageEvents (ack.1, Nat.repr id) ≠ none := by
  obtain ⟨raw, hraw, hparsed⟩ := List.mem_filterMap.mp hid
  obtain ⟨eventId, heventId, rfl⟩ := List.mem_map.mp hraw
  obtain ⟨⟨found, rfl⟩, hpresent⟩ := hsound.acks ack hack eventId heventId
  -- The text is that of a number, and it reads back as that number.
  dsimp only at hparsed
  rw [DecimalText.parseInt64_repr] at hparsed
  split_ifs at hparsed
  have hsame : found = id := Int.ofNat.inj (Option.some.inj hparsed)
  exact hsame ▸ hpresent

theorem UsageSound.receiveAck {ack : NodeId × List String} (hack : ack ∈ world.acks) (now : ℤ) :
    UsageSound environment (world.setStore ack.1
      (handle integrations (world.stores ack.1) (.usageAck (ack.2.map .text)) now).1) := by
  rcases handle_usageAck_cases integrations (world.stores ack.1) (ack.2.map .text) now with
    hsame | hmarked
  · rw [hsame]
    exact hsound.setStore (fun row hrow ↦ ⟨row, hrow, rfl⟩) (hsound.numbered ack.1)
      (hsound.sent ack.1)
  · rw [hmarked]
    refine hsound.setStore (fun row hrow ↦ ?_) ((hsound.numbered ack.1).markUsageSent _ now)
      fun row hrow hsent ↦ ?_
    · rw [Store.markUsageSent_usageEvents]
      refine ⟨_, List.mem_map_of_mem hrow, ?_⟩
      unfold Store.markedRow
      split_ifs <;> rfl
    · rw [Store.markUsageSent_usageEvents] at hrow
      obtain ⟨old, hold, rfl⟩ := List.mem_map.mp hrow
      rw [Store.markedRow_id]
      by_cases hacked : (old.id : ℤ) ∈ ackedIds (ack.2.map .text)
      · exact hsound.acked hack hacked
      · rw [Store.markedRow, if_neg hacked] at hsent
        exact hsound.sent ack.1 old hold hsent

theorem UsageSound.step {event : UsageWorldEvent}
    (hstep : world.step environment integrations event = some next) :
    UsageSound environment next := by
  cases UsageWorld.step_cases hstep with
  | controller hdelivers hafter => exact hsound.controller hdelivers hafter
  | @addUsage node device txBytes rxBytes now used store hstore =>
    obtain ⟨hevents, -⟩ := Store.addUsage_usageEvents hstore
    refine hsound.setStore (fun row hrow ↦ ⟨row, ?_, rfl⟩)
      ((hsound.numbered node).addUsage hstore) fun row hrow hsent ↦ ?_
    · rw [hevents]
      exact List.mem_append_left _ hrow
    · rw [hevents, List.mem_append, List.mem_singleton] at hrow
      rcases hrow with hold | rfl
      · exact hsound.sent node row hold hsent
      · exact absurd rfl hsent
  | report =>
    refine ⟨hsound.serial, hsound.tallied, hsound.recorded, hsound.sessions, ?_, hsound.acks,
      hsound.numbered, hsound.sent⟩
    intro report hreport event hevent
    rcases List.mem_append.mp hreport with hold | hnew
    · exact hsound.reports report hold event hevent
    · rw [List.mem_singleton.mp hnew] at hevent ⊢
      obtain ⟨row, hrow, rfl⟩ := List.mem_map.mp hevent
      exact ⟨row, List.mem_of_mem_filter (List.mem_of_mem_take hrow), rfl⟩
  | receiveAck hack => exact hsound.receiveAck hack _
  | @handle node message now hmessage =>
    obtain ⟨hevents, hlast⟩ := usage_handle integrations (world.stores node) now hmessage
    have hnumbered := hsound.numbered node
    refine hsound.setStore (fun row hrow ↦ ⟨row, hevents.symm ▸ hrow, rfl⟩) ⟨?_, ?_⟩ ?_
    · rw [hevents, hlast]
      exact hnumbered.bounded
    · rw [hevents]
      exact hnumbered.increasing
    · rw [hevents]
      exact hsound.sent node

end

/-! ### The result -/

/-- The system before any usage: nothing in the usage tables, and every device belongs to a user
with a subscription. -/
structure BeforeUsage (directory : Directory) (db : Database) (stores : NodeId → Store) : Prop where
  events : ∀ key, db.usageEvents key = none
  applied : ∀ key, db.applied key = 0
  subscribed : ∀ id user, directory.owner id = some user → db.subscriptions user ≠ none
  stores : ∀ node, (stores node).usageEvents = []

theorem UsageSound.initial {db : Database} {stores : NodeId → Store}
    (hbefore : BeforeUsage environment.directory db stores) :
    UsageSound environment (.initial db stores) := by
  refine ⟨serial_idle db, ⟨fun key ↦ ?_, hbefore.subscribed⟩, fun node eventId row hrow ↦ ?_,
    fun _ _ hsession ↦ ?_, fun _ hreport ↦ ?_, fun _ hack ↦ ?_, fun node ↦ ⟨?_, ?_⟩,
    fun node row hrow ↦ ?_⟩
  · have hnone : (UsageWorld.initial db stores).controller.db.usageEvents key = none :=
      hbefore.events key
    rw [hnone]
    exact hbefore.applied key
  · cases (hbefore.events _).symm.trans hrow
  · cases hsession
  · cases hreport
  · cases hack
  · simp [UsageWorld.initial, hbefore.stores node]
  · simp [UsageWorld.initial, hbefore.stores node]
  · simp [UsageWorld.initial, hbefore.stores node] at hrow

theorem UsageSound.recorded_eq (hsound : UsageSound environment world) {node : NodeId}
    {row : StoredUsage} (hrow : row ∈ (world.stores node).usageEvents)
    (hpresent : world.controller.db.usageEvents (node, Nat.repr row.id) ≠ none) :
    world.controller.db.usageEvents (node, Nat.repr row.id) =
      some (usageRow (reportedEvent row)) := by
  obtain ⟨booked, hbooked⟩ := Option.ne_none_iff_exists'.mp hpresent
  obtain ⟨_, ⟨found, hfound, rfl⟩, hid, rfl⟩ := hsound.recorded node _ booked hbooked
  have hsame : found = row :=
    (hsound.numbered node).eq_of_id hfound hrow (DecimalText.repr_injective hid)
  rw [hbooked, hsame]

/-- Assumes: a system that started before any usage. Every usage event of a node is added to a
subscription at most once, and one that the node has marked as sent was added once, as the node
recorded it. One that was not added is in the next report of the node, or that is full of older
events. -/
theorem usage_billed_once {db : Database} {stores : NodeId → Store}
    (hbefore : BeforeUsage environment.directory db stores)
    (hreach : Reachable (UsageWorld.step environment integrations)
      (.initial db stores) world)
    (node : NodeId) (row : StoredUsage) (hrow : row ∈ (world.stores node).usageEvents) :
    world.controller.db.applied (node, Nat.repr row.id) ≤ 1 ∧
    (row.sentAt ≠ none → world.controller.db.applied (node, Nat.repr row.id) = 1 ∧
      world.controller.db.usageEvents (node, Nat.repr row.id) =
        some (usageRow (reportedEvent row))) ∧
    (world.controller.db.applied (node, Nat.repr row.id) = 0 →
      row ∈ (world.stores node).pendingUsage 1000 ∨
        ((world.stores node).pendingUsage 1000).length = 1000 ∧
          ∀ older ∈ (world.stores node).pendingUsage 1000, older.id < row.id) := by
  have hsound : UsageSound environment world := by
    refine hreach.invariant (UsageSound environment) (.initial hbefore) ?_
    intro state event after hstate hstep
    exact hstate.step hstep
  have hcounted := hsound.tallied.counted (node, Nat.repr row.id)
  have hbooked : world.controller.db.usageEvents (node, Nat.repr row.id) ≠ none →
      world.controller.db.applied (node, Nat.repr row.id) = 1 := fun hpresent ↦ by
    rw [hcounted, if_pos (Option.isSome_iff_ne_none.mpr hpresent)]
  refine ⟨?_, fun hsent ↦ ?_, fun hunbilled ↦ ?_⟩
  · rw [hcounted]
    split_ifs <;> decide
  · have hpresent := hsound.sent node row hrow hsent
    exact ⟨hbooked hpresent, hsound.recorded_eq hrow hpresent⟩
  · have hunsent : row.sentAt = none := by
      by_contra hsent
      rw [hbooked (hsound.sent node row hrow hsent)] at hunbilled
      cases hunbilled
    exact (hsound.numbered node).pending hrow hunsent

end Invariant

/-! ### One event from its node to the bill -/

def soloUsageEvents : List UsageWorldEvent :=
  [.handle "node"
      (.deviceUpsert ⟨"device", "hash", .code .lite, true, day, day, 100, 0, zeroTime⟩) 0,
    .addUsage "node" "device" 3 4 0, .report "node",
    .controller (.start 0 (.usage ⟨"node", [⟨"1", "device", 4, 3, 0, 0⟩], 0⟩)),
    .controller (.exec 0), .controller (.exec 0), .controller (.exec 0), .controller (.exec 0),
    .controller (.exec 0), .controller (.commit 0), .receiveAck ("node", ["1"]) (2 * second)]

def soloUsageWorld : UsageWorld :=
  (run (UsageWorld.step soloEnvironment soloIntegrations)
    (.initial soloDatabase fun _ ↦ soloStore) soloUsageEvents).getD
      (.initial soloDatabase fun _ ↦ soloStore)

theorem soloDatabase_beforeUsage :
    BeforeUsage soloEnvironment.directory soloDatabase fun _ ↦ soloStore := by
  refine ⟨fun _ ↦ rfl, fun _ ↦ rfl, fun id user howner ↦ ?_, fun _ ↦ rfl⟩
  obtain ⟨entry, hentry, rfl⟩ := Option.map_eq_some_iff.mp howner
  rw [List.mem_singleton.mp (KeyedTable.lookup_some_mem hentry)]
  exact Option.some_ne_none _

theorem usage_billed_once_solo :
    (⟨1, "device", 3, 4, 0, some 2⟩ : StoredUsage) ∈ (soloUsageWorld.stores "node").usageEvents ∧
    soloUsageWorld.controller.db.applied ("node", Nat.repr 1) = 1 := by
  have hrow : (⟨1, "device", 3, 4, 0, some 2⟩ : StoredUsage) ∈
      (soloUsageWorld.stores "node").usageEvents := List.mem_singleton_self _
  have hbilled := usage_billed_once soloDatabase_beforeUsage (reachable_getD _)
    "node" _ hrow
  exact ⟨hrow, (hbilled.2.1 (Option.some_ne_none _)).1⟩

end RiseVpn.Fleet
