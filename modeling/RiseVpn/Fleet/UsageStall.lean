import RiseVpn.Control.UsageBatches
import RiseVpn.Fleet.UsageOnce

/-!
# A usage event that the controller refuses

A node reports its oldest unsent usage events, at most a thousand, until they are acknowledged, and
the controller books a report as a whole or not at all. `acceptable_booked_iff` says for which
batches every acceptable event is booked and acknowledged, and for which reports of a node the
acknowledgement clears what was reported.

An event of a device that the controller does not know, such as one issued on the node itself, is
never booked. `Stalled` is what holds once such an event stands in the reports of a node: it stays
there, and no event of that node is booked or acknowledged any more. `usage_stalled` is the result
over every run.
-/

set_option autoImplicit false

namespace RiseVpn.Fleet

open Control RowLocking GuardedRun

/-! ### One batch -/

def Acceptable (directory : Directory) (event : UsageEvent) : Prop :=
  directory.owner event.deviceId ≠ none ∧ 0 ≤ event.rxBytes ∧ 0 ≤ event.txBytes
  deriving Decidable

def BookedAndAcked (node : NodeId) (returned : Database × Option (List String))
    (event : UsageEvent) : Prop :=
  returned.1.usageEvents (node, event.eventId) ≠ none ∧
    ∃ ids, returned.2 = some ids ∧ event.eventId ∈ ids

def acknowledged (integrations : Integrations) (store : Store) (returned : Option (List String))
    (now : ℤ) : Store :=
  match returned with
  | some ids => (handle integrations store (.usageAck (ids.map .text)) now).1
  | none => store

section Batch

variable {directory : Directory} {batch : UsageBatch} {db : Database} {store : Store}

theorem length_usageBatch (store : Store) : (usageBatch store).length ≤ 1000 := by
  rw [usageBatch, List.length_map, Store.pendingUsage]
  exact List.length_take_le _ _

theorem ackedIds_usageBatch (hids : ∀ row ∈ store.usageEvents, row.id < 2 ^ 63)
    {row : StoredUsage} (hrow : row ∈ store.pendingUsage 1000) :
    (row.id : ℤ) ∈
      ackedIds (((usageBatch store).map UsageEvent.eventId).map RawEventId.text) := by
  have hmember : row ∈ store.usageEvents := List.mem_of_mem_filter (List.mem_of_mem_take hrow)
  refine List.mem_filterMap.mpr ⟨.text (Nat.repr row.id), ?_, ?_⟩
  · exact List.mem_map_of_mem (List.mem_map_of_mem (List.mem_map_of_mem hrow))
  · simp only [DecimalText.parseInt64_repr, if_pos (hids row hmember)]

theorem cleared_of_ack (integrations : Integrations)
    (hids : ∀ row ∈ store.usageEvents, row.id < 2 ^ 63) (now : ℤ) {row : StoredUsage}
    (hrow : row ∈ store.pendingUsage 1000) :
    ∀ left ∈ (acknowledged integrations store
      (some ((usageBatch store).map UsageEvent.eventId)) now).pendingUsage 1000,
      left.id ≠ row.id := by
  have hshort : ¬ 5000 <
      (((usageBatch store).map UsageEvent.eventId).map RawEventId.text).length := by
    have hlength := length_usageBatch store
    simp only [List.length_map]
    omega
  intro left hleft hsame
  simp only [acknowledged, handle, if_neg hshort] at hleft
  have hunsent := List.mem_filter.mp (List.mem_of_mem_take hleft)
  rw [Store.markUsageSent_usageEvents] at hunsent
  obtain ⟨old, hold, rfl⟩ := List.mem_map.mp hunsent.1
  rw [Store.markedRow_id] at hsame
  have hacked := ackedIds_usageBatch hids hrow
  rw [← hsame] at hacked
  have hnone := hunsent.2
  rw [Store.markedRow, if_pos hacked] at hnone
  cases hnone

/-- The acceptable events of a batch are booked and acknowledged exactly when there is none or the
batch is bookable as a whole, and what comes back for a report of a node clears it exactly when it
is empty or bookable as a whole. -/
theorem acceptable_booked_iff (directory : Directory) (batch : UsageBatch) (db : Database) :
    ((∀ event ∈ batch.events, Acceptable directory event →
        BookedAndAcked batch.nodeId (usageReturns directory batch db) event) ↔
      (∀ event ∈ batch.events, ¬ Acceptable directory event) ∨
        Bookable directory batch.nodeId (takenIds db batch.nodeId) (usedBytes db) batch.events) ∧
    ∀ (integrations : Integrations) (store : Store) (now : ℤ),
      (∀ row ∈ store.usageEvents, row.id < 2 ^ 63) → batch.events = usageBatch store →
      ((∀ row ∈ store.pendingUsage 1000, ∀ left ∈ (acknowledged integrations store
          (usageReturns directory batch db).2 now).pendingUsage 1000, left.id ≠ row.id) ↔
        batch.events = [] ∨
          Bookable directory batch.nodeId (takenIds db batch.nodeId) (usedBytes db)
            batch.events) := by
  by_cases hbookable :
      Bookable directory batch.nodeId (takenIds db batch.nodeId) (usedBytes db) batch.events
  · obtain ⟨hacked, hbooked⟩ := hbookable.returns
    refine ⟨iff_of_true (fun event hevent _ ↦ ?_) (.inr hbookable),
      fun integrations store now hids hreport ↦ iff_of_true (fun row hrow ↦ ?_) (.inr hbookable)⟩
    · exact ⟨hbooked event hevent, _, hacked, List.mem_map_of_mem hevent⟩
    · rw [hacked, hreport]
      exact cleared_of_ack integrations hids now hrow
  · rw [usageReturns_of_not_bookable hbookable]
    refine ⟨⟨fun hall ↦ .inl fun event hevent hacceptable ↦ ?_, fun hnone event hevent ↦ ?_⟩,
      fun integrations store now hids hreport ↦ ⟨fun hcleared ↦ .inl ?_, fun hempty row hrow ↦ ?_⟩⟩
    · obtain ⟨-, ids, hids, -⟩ := hall event hevent hacceptable
      cases hids
    · exact fun hacceptable ↦ absurd hacceptable (hnone.resolve_right hbookable event hevent)
    · have hpending : store.pendingUsage 1000 = [] :=
        List.eq_nil_iff_forall_not_mem.mpr fun row hrow ↦ hcleared row hrow row hrow rfl
      rw [hreport, usageBatch, hpending, List.map_nil]
    · have hnil := hempty.resolve_right hbookable
      rw [hreport, usageBatch, List.map_eq_nil_iff] at hnil
      rw [hnil] at hrow
      cases hrow

end Batch

def usageStore (devices : List DeviceId) : Store :=
  { soloStore with
    usageEvents := devices.mapIdx fun index device ↦ ⟨index + 1, device, 3, 4, 0, none⟩
    lastUsageId := devices.length }

def usageReport (devices : List DeviceId) : UsageBatch :=
  ⟨"node", usageBatch (usageStore devices), 0⟩

theorem acceptable_booked_two :
    (∀ event ∈ (usageReport ["device", "device"]).events,
      Acceptable soloEnvironment.directory event ∧ BookedAndAcked "node"
        (usageReturns soloEnvironment.directory (usageReport ["device", "device"]) soloDatabase)
          event) ∧
    ∀ row ∈ (usageStore ["device", "device"]).pendingUsage 1000,
      ∀ left ∈ (acknowledged soloIntegrations (usageStore ["device", "device"])
        (usageReturns soloEnvironment.directory (usageReport ["device", "device"])
          soloDatabase).2 0).pendingUsage 1000, left.id ≠ row.id := by
  have hbookable : Bookable soloEnvironment.directory "node" (takenIds soloDatabase "node")
      (usedBytes soloDatabase) (usageReport ["device", "device"]).events :=
    (@run_usage_iff soloEnvironment.directory soloDatabase
      (usageReport ["device", "device"])).mp ⟨_, rfl⟩
  have hresult := acceptable_booked_iff soloEnvironment.directory (usageReport ["device", "device"])
    soloDatabase
  have hacceptable : ∀ event ∈ (usageReport ["device", "device"]).events,
      Acceptable soloEnvironment.directory event := by decide
  refine ⟨fun event hevent ↦ ⟨hacceptable event hevent,
    hresult.1.mpr (.inr hbookable) event hevent (hacceptable event hevent)⟩, ?_⟩
  exact (hresult.2 soloIntegrations (usageStore ["device", "device"]) 0 (by decide) rfl).mpr
    (.inr hbookable)

/-- An event of a device that only the node knows keeps an acceptable event of its batch from being
booked and acknowledged. -/
theorem stray_event_stalls :
    ∃ event ∈ (usageReport ["issued on the node", "device"]).events,
      Acceptable soloEnvironment.directory event ∧
        ¬ BookedAndAcked "node" (usageReturns soloEnvironment.directory
          (usageReport ["issued on the node", "device"]) soloDatabase) event := by
  refine ⟨⟨"2", "device", 4, 3, 0, 0⟩, by decide, by decide, ?_⟩
  rintro ⟨-, ids, hids, -⟩
  cases hids

/-! ### Every run -/

section Runs

variable {environment : Environment} {integrations : Integrations} {start world next : UsageWorld}
  {db middle result : Database} {directory : Directory} {request : Request} {node : NodeId}
  {row : StoredUsage}

def OfKnownDevices (directory : Directory) (db : Database) : Prop :=
  ∀ key booked, db.usageEvents key = some booked → directory.owner booked.deviceId ≠ none

theorem OfKnownDevices.of_view (hknown : OfKnownDevices directory db)
    (hview : ∀ key, view key db = view key result) : OfKnownDevices directory result := by
  intro key booked hbooked
  rw [← usageEvents_eq (hview (.usageEvent key.1 key.2))] at hbooked
  exact hknown key booked hbooked

theorem OfKnownDevices.usageEffect {batch : UsageBatch} {event : UsageEvent}
    (hknown : OfKnownDevices directory db)
    (heffect : UsageEffect directory batch event db middle) : OfKnownDevices directory middle := by
  have hinsert : ∀ user, directory.owner event.deviceId = some user →
      middle.usageEvents =
        Function.update db.usageEvents (batch.nodeId, event.eventId) (some (usageRow event)) →
      OfKnownDevices directory middle := by
    intro user howner hinserted key booked hbooked
    rw [hinserted, Function.update_apply] at hbooked
    split_ifs at hbooked
    · cases hbooked
      exact howner ▸ Option.some_ne_none user
    · exact hknown key booked hbooked
  cases heffect with
  | known => exact hknown
  | unbilled _ howner => exact hinsert _ howner rfl
  | billed _ howner => exact hinsert _ howner rfl

theorem ofKnownDevices_program (hknown : OfKnownDevices environment.directory db)
    (hrun : (program environment request).run db = .ok result) :
    OfKnownDevices environment.directory result := by
  by_cases hrequest : ∃ batch, request = .usage batch
  · obtain ⟨batch, rfl⟩ := hrequest
    exact (run_usage hrun).invariant (OfKnownDevices environment.directory)
      (fun _ _ _ heffect hknown ↦ hknown.usageEffect heffect) hknown
  · have hkept := usageKept_program (fun batch hbatch ↦ hrequest ⟨batch, hbatch⟩) hrun
    unfold OfKnownDevices
    rw [hkept.events]
    exact hknown

def Intact (environment : Environment) (world : UsageWorld) : Prop :=
  UsageSound environment world ∧ OfKnownDevices environment.directory world.controller.db

theorem Intact.step (hintact : Intact environment world) {event : UsageWorldEvent}
    (hstep : world.step environment integrations event = some next) : Intact environment next := by
  refine ⟨hintact.1.step hstep, ?_⟩
  cases UsageWorld.step_cases hstep with
  | controller _ hafter =>
    exact step_view_invariant (OfKnownDevices environment.directory) (fun _ _ ↦ True)
      (fun _ _ hview hknown ↦ hknown.of_view hview)
      (fun _ _ _ hknown _ hrun ↦ ofKnownDevices_program hknown hrun) hintact.1.serial hintact.2
      (fun _ _ _ _ ↦ trivial) hafter
  | addUsage | report | receiveAck | handle => exact hintact.2

theorem Intact.unbooked (hintact : Intact environment world)
    (hunknown : environment.directory.owner row.deviceId = none)
    (hrow : row ∈ (world.stores node).usageEvents) :
    world.controller.db.usageEvents (node, Nat.repr row.id) = none := by
  by_contra hbooked
  exact hintact.2 _ _ (hintact.1.recorded_eq hrow hbooked) hunknown

/-- The event is in the reports of its node: in the next one, in each that was sent, and in each
that is being booked. -/
structure InReports (world : UsageWorld) (node : NodeId) (row : StoredUsage) : Prop where
  pending : row ∈ (world.stores node).pendingUsage 1000
  reports : ∀ report ∈ world.reports, report.1 = node → reportedEvent row ∈ report.2
  sessions : ∀ connection session, world.controller.sessions connection = some session →
    ∀ batch, session.request = .usage batch → batch.nodeId = node →
      reportedEvent row ∈ batch.events

/-- Nothing of the node was booked or acknowledged since `start`. -/
structure Stalled (start world : UsageWorld) (node : NodeId) (row : StoredUsage) : Prop
    extends InReports world node row where
  booked : ∀ eventId, world.controller.db.usageEvents (node, eventId) =
    start.controller.db.usageEvents (node, eventId)
  acks : ∀ ack ∈ world.acks, ack.1 = node → ack ∈ start.acks

theorem Stalled.setStore (hstalled : Stalled start world node row) {other : NodeId} {store : Store}
    (hpending : other = node → row ∈ store.pendingUsage 1000) :
    Stalled start (world.setStore other store) node row := by
  refine ⟨⟨?_, hstalled.reports, hstalled.sessions⟩, hstalled.booked, hstalled.acks⟩
  by_cases hsame : node = other
  · subst hsame
    simpa [UsageWorld.setStore] using hpending rfl
  · simpa [UsageWorld.setStore, hsame] using hstalled.pending

theorem usageEvents_visited {batch : UsageBatch} {events : List UsageEvent}
    (hother : batch.nodeId ≠ node)
    (hvisited : Visited (UsageEffect directory batch) events db result) (eventId : String) :
    result.usageEvents (node, eventId) = db.usageEvents (node, eventId) := by
  refine hvisited.invariant
    (fun after ↦ after.usageEvents (node, eventId) = db.usageEvents (node, eventId)) ?_ rfl
  intro event before after heffect hbefore
  rcases heffect.usageEvents with ⟨-, hsame⟩ | hinserted
  · rw [hsame, hbefore]
  · have hkey : (node, eventId) ≠ (batch.nodeId, event.eventId) := fun hkey ↦
      hother (congrArg Prod.fst hkey).symm
    rw [hinserted, Function.update_of_ne hkey, hbefore]

section

variable (hstalled : Stalled start world node row) (hintact : Intact environment world)

include hstalled hintact

theorem Stalled.commit {connection : Connection} {after : Controller}
    (hstep : world.controller.step environment (.commit connection) = some after)
    (hunbooked : after.db.usageEvents (node, Nat.repr row.id) = none) :
    (∀ eventId, after.db.usageEvents (node, eventId) =
      world.controller.db.usageEvents (node, eventId)) ∧
    ∀ ack ∈ world.acksOf (.commit connection), ack.1 ≠ node := by
  obtain ⟨session, result, hsession, hrun, hview⟩ := commit_serial hintact.1.serial hstep
  have hevents : ∀ eventId,
      after.db.usageEvents (node, eventId) = result.usageEvents (node, eventId) :=
    fun eventId ↦ usageEvents_eq (hview (.usageEvent node eventId))
  rcases session with ⟨request, held, pending, rest⟩
  by_cases hrequest : ∃ batch, request = .usage batch
  · obtain ⟨batch, rfl⟩ := hrequest
    -- The batch would leave the event in the table.
    have hother : batch.nodeId ≠ node := by
      rintro rfl
      have hreported := hstalled.sessions connection _ hsession batch rfl rfl
      refine (present_visited (run_usage hrun)).1 _ hreported ?_
      exact (hevents _).symm.trans hunbooked
    refine ⟨fun eventId ↦ (hevents eventId).trans (usageEvents_visited hother (run_usage hrun) _),
      fun ack hack ↦ ?_⟩
    simp only [UsageWorld.acksOf, hsession, List.mem_singleton] at hack
    rw [hack]
    exact hother
  · have hkept := usageKept_program (fun batch hbatch ↦ hrequest ⟨batch, hbatch⟩) hrun
    refine ⟨fun eventId ↦ (hevents eventId).trans (by rw [hkept.events]), fun ack hack ↦ ?_⟩
    rw [UsageWorld.acksOf, hsession] at hack
    cases request with
    | usage batch => exact absurd ⟨batch, rfl⟩ hrequest
    | _ => cases hack

theorem Stalled.controller {event : ControllerEvent} {after : Controller}
    (hdelivers : world.Delivers event)
    (hstep : world.controller.step environment event = some after)
    (hunbooked : after.db.usageEvents (node, Nat.repr row.id) = none) :
    Stalled start { world with controller := after, acks := world.acks ++ world.acksOf event }
      node row := by
  have hnothing : (∀ eventId, after.db.usageEvents (node, eventId) =
      world.controller.db.usageEvents (node, eventId)) ∧
      ∀ ack ∈ world.acksOf event, ack.1 ≠ node := by
    by_cases hcommit : ∃ connection, event = .commit connection
    · obtain ⟨connection, rfl⟩ := hcommit
      exact hstalled.commit hintact hstep hunbooked
    · have hnot : ∀ connection, event ≠ .commit connection := fun connection hevent ↦
        hcommit ⟨connection, hevent⟩
      rw [db_of_not_commit hstep hnot]
      refine ⟨fun _ ↦ rfl, fun ack hack ↦ ?_⟩
      cases event with
      | commit connection => exact absurd rfl (hnot connection)
      | start _ _ | exec _ | rollback _ => cases hack
  refine ⟨⟨hstalled.pending, hstalled.reports, ?_⟩,
    fun eventId ↦ (hnothing.1 eventId).trans (hstalled.booked eventId), ?_⟩
  · intro connection session hsession batch hbatch hnode
    rcases request_of_step hstep hsession with rfl | ⟨old, hold, hrequest⟩
    · rw [hbatch] at hdelivers
      exact hstalled.reports _ hdelivers hnode
    · exact hstalled.sessions connection old hold batch (hrequest.trans hbatch) hnode
  · intro ack hack hnode
    rcases List.mem_append.mp hack with hold | hnew
    · exact hstalled.acks ack hold hnode
    · exact absurd hnode (hnothing.2 ack hnew)

theorem Stalled.step (hunknown : environment.directory.owner row.deviceId = none)
    {event : UsageWorldEvent} (hstep : world.step environment integrations event = some next) :
    Stalled start next node row := by
  have hrow : row ∈ (world.stores node).usageEvents :=
    List.mem_of_mem_filter (List.mem_of_mem_take hstalled.pending)
  have hafter := hintact.step hstep
  cases UsageWorld.step_cases hstep with
  | controller hdelivers hcontroller =>
    exact hstalled.controller hintact hdelivers hcontroller (hafter.unbooked hunknown hrow)
  | addUsage hstore =>
    refine hstalled.setStore ?_
    rintro rfl
    exact Store.mem_pendingUsage_addUsage hstore hstalled.pending
  | @report other =>
    refine ⟨⟨hstalled.pending, fun report hreport hnode ↦ ?_, hstalled.sessions⟩, hstalled.booked,
      hstalled.acks⟩
    rcases List.mem_append.mp hreport with hold | hnew
    · exact hstalled.reports report hold hnode
    · rw [List.mem_singleton.mp hnew] at hnode ⊢
      cases hnode
      exact List.mem_map_of_mem hstalled.pending
  | @receiveAck ack now hack =>
    refine hstalled.setStore ?_
    rintro rfl
    rcases handle_usageAck_cases integrations (world.stores ack.1) (ack.2.map .text) now with
      hsame | hmarked
    · rw [hsame]
      exact hstalled.pending
    · rw [hmarked]
      refine Store.mem_pendingUsage_markUsageSent hstalled.pending (fun hid ↦ ?_) now
      exact hintact.1.acked hack hid (hintact.unbooked hunknown hrow)
  | @handle other message now hmessage =>
    refine hstalled.setStore ?_
    rintro rfl
    have hevents := (usage_handle integrations (world.stores other) now hmessage).1
    rw [Store.pendingUsage, hevents]
    exact hstalled.pending

end

/-- Assumes: a system that started before any usage, and a state of it in which an event of a device
that the controller does not know stands in every report of its node. From then on no event of that
node is booked or acknowledged, and the event stays in the reports. -/
theorem usage_stalled {stores : NodeId → Store}
    (hbefore : BeforeUsage environment.directory db stores)
    (hstart : Reachable (UsageWorld.step environment integrations) (.initial db stores)
      start)
    (hreports : InReports start node row)
    (hunknown : environment.directory.owner row.deviceId = none)
    (hreach : Reachable (UsageWorld.step environment integrations) start world) :
    Stalled start world node row := by
  have hintact : Intact environment start := by
    refine hstart.invariant (Intact environment) ⟨.initial hbefore, fun key booked hbooked ↦ ?_⟩
      fun _ _ _ hstate hstep ↦ hstate.step hstep
    cases (hbefore.events key).symm.trans hbooked
  have hboth : Intact environment world ∧ Stalled start world node row := by
    refine hreach.invariant (fun state ↦ Intact environment state ∧ Stalled start state node row)
      ⟨hintact, hreports, fun _ ↦ rfl, fun _ hack _ ↦ hack⟩ ?_
    intro state event after hstate hstep
    exact ⟨hstate.1.step hstep, hstate.2.step hstate.1 hunknown hstep⟩
  exact hboth.2

end Runs

def strayReport : UsageBatch :=
  ⟨"node", [⟨"1", "device", 4, 3, 0, 0⟩, ⟨"2", "issued on the node", 4, 3, 0, 0⟩], 0⟩

/-- A device of the controller and one that was issued on the node are used there, the node has sent
its report, and the controller is about to book it. -/
def issuedOnNode (first : Connection) : UsageWorld :=
  (run (UsageWorld.step soloEnvironment soloIntegrations)
    (.initial soloDatabase fun _ ↦ soloStore) [
    .handle "node"
      (.deviceUpsert ⟨"device", "hash", .code .lite, true, day, day, 100, 0, zeroTime⟩) 0,
    .handle "node"
      (.deviceUpsert
        ⟨"issued on the node", "other", .code .lite, true, day, day, 100, 0, zeroTime⟩) 0,
    .addUsage "node" "device" 3 4 0, .addUsage "node" "issued on the node" 3 4 0,
    .report "node", .controller (.start first (.usage strayReport))]).getD
      (.initial soloDatabase fun _ ↦ soloStore)

/-- The transaction books the first event and is refused at the second one. The next report has the
events again, with a new one, and its transaction has come to the same event. -/
def reportedAgain (first second : Connection) : UsageWorld :=
  (run (UsageWorld.step soloEnvironment soloIntegrations) (issuedOnNode first)
    (List.replicate 6 (.controller (.exec first)) ++
      [.controller (.rollback first), .addUsage "node" "device" 5 6 0, .report "node",
        .controller (.start second (.usage { strayReport with
          events := strayReport.events ++ [⟨"3", "device", 6, 5, 0, 0⟩] }))] ++
      List.replicate 6 (.controller (.exec second)))).getD (issuedOnNode first)

theorem usage_stalled_issued :
    (reportedAgain 0 1).reports.map (fun report ↦ report.2.map UsageEvent.eventId) =
      [["1", "2"], ["1", "2", "3"]] ∧
    ((reportedAgain 0 1).controller.sessions 0).isNone ∧
    (∃ session, (reportedAgain 0 1).controller.sessions 1 = some session ∧
      ∃ failure, session.rest = .abort failure) ∧
    (((reportedAgain 0 1).stores "node").pendingUsage 1000).length = 3 ∧
    Stalled (issuedOnNode 0) (reportedAgain 0 1) "node"
      ⟨2, "issued on the node", 3, 4, 0, none⟩ := by
  refine ⟨rfl, rfl, ⟨_, rfl, _, rfl⟩, rfl, usage_stalled soloDatabase_beforeUsage
    (reachable_getD _) ⟨?_, ?_, ?_⟩ (by decide) (reachable_getD _)⟩
  · exact List.mem_cons_of_mem _ (List.mem_singleton_self _)
  · intro report hreport _
    rw [List.mem_singleton.mp hreport]
    exact List.mem_cons_of_mem _ (List.mem_singleton_self _)
  · intro connection session hsession batch hbatch _
    by_cases hfirst : connection = 0
    · subst hfirst
      cases hsession
      cases hbatch
      exact List.mem_cons_of_mem _ (List.mem_singleton_self _)
    · cases (Function.update_of_ne hfirst _ _).symm.trans hsession

end RiseVpn.Fleet
