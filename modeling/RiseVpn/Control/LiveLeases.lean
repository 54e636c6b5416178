import RiseVpn.Control.Leases

/-!
# Unexpired leases of a device

The controller with a clock. A call of `provisionDevice` reads the clock twice: PostgreSQL's `now()`
is the start of its transaction, and the lease it inserts is issued at what Go's clock shows after
the row locks were taken. Both are readings of one clock here (`OneClock`): the first is not later
than the second, which is not later than the commit.

A transaction may wait for its locks, so its `now()` may be older than a lease that another one has
committed in the meantime. That only makes more leases count as unexpired: a new lease is inserted
when all the others had expired before it was issued. `LeasesApart` is this invariant, and
`one_live_lease` the result: no device has two unexpired leases, and what is inserted is at least
one byte and at most a gigabyte and what is left of the quota.
-/

set_option autoImplicit false

namespace RiseVpn.Control

open RowLocking GuardedRun

/-! ### The controller with a clock -/

structure TimedController where
  controller : Controller
  clock : ℤ

inductive TimedEvent
  | tick (elapsed : ℕ)
  | act (event : ControllerEvent)

def TimedController.step (environment : Environment) (state : TimedController) :
    TimedEvent → Option TimedController
  | .tick elapsed => some { state with clock := state.clock + elapsed }
  | .act event => (state.controller.step environment event).map fun controller ↦
      { state with controller }

/-- The two readings of the clock by a call of `provisionDevice` that commits. -/
def Request.TimedBy (clock : ℤ) : Request → Prop
  | .provisionDevice request => request.txNow ≤ request.now ∧ request.now ≤ clock
  | _ => True

instance (clock : ℤ) (request : Request) : Decidable (request.TimedBy clock) := by
  unfold Request.TimedBy
  split <;> infer_instance

/-- The clocks of the database and of the controller are one: a transaction starts before it reads
the time for its lease, and reads it before it commits. -/
def OneClock (state : TimedController) (event : TimedEvent) (_next : TimedController) : Prop :=
  match event with
  | .act (.commit connection) =>
    ∀ session ∈ state.controller.sessions connection, session.request.TimedBy state.clock
  | _ => True

instance (state : TimedController) (event : TimedEvent) (next : TimedController) :
    Decidable (OneClock state event next) := by
  unfold OneClock
  split <;> infer_instance

/-! ### Leases that do not overlap -/

/-- The leases of a device at an instant: they are worth something and not consumed, they were
issued in the past, and each expired before the next was issued. -/
structure LeasesApart (clock : ℤ) (leases : List LeaseRow) : Prop where
  whole : ∀ lease ∈ leases, lease.consumedBytes = 0 ∧ 0 < lease.bytes
  issued : ∀ lease ∈ leases, lease.issuedAt ≤ clock
  apart : leases.Pairwise fun older newer ↦ older.expiresAt ≤ newer.issuedAt

section Leases

variable {clock : ℤ} {leases : List LeaseRow} {lease : LeaseRow}

theorem leasesApart_nil (clock : ℤ) : LeasesApart clock [] :=
  ⟨fun _ hlease ↦ absurd hlease List.not_mem_nil, fun _ hlease ↦ absurd hlease List.not_mem_nil,
    .nil⟩

theorem LeasesApart.later {later : ℤ} (hapart : LeasesApart clock leases) (hlater : clock ≤ later) :
    LeasesApart later leases :=
  ⟨hapart.whole, fun lease hlease ↦ (hapart.issued lease hlease).trans hlater, hapart.apart⟩

theorem LeasesApart.expired (hapart : LeasesApart clock leases) {txNow : ℤ}
    (hactive : reservedBytes txNow leases ≤ 0) (hlease : lease ∈ leases) :
    lease.expiresAt ≤ txNow := by
  by_contra hlive
  have hmem : lease ∈ activeLeases txNow leases :=
    List.mem_filter.mpr ⟨hlease, decide_eq_true (Int.not_le.mp hlive)⟩
  refine absurd hactive (not_le.mpr (List.sum_pos _ ?_ ?_))
  · intro bytes hbytes
    obtain ⟨active, hactive, rfl⟩ := List.mem_map.mp hbytes
    obtain ⟨hconsumed, hworth⟩ := hapart.whole active (List.mem_of_mem_filter hactive)
    omega
  · exact List.ne_nil_of_mem (List.mem_map_of_mem hmem)

theorem LeasesApart.insert (hapart : LeasesApart clock leases) {txNow : ℤ}
    (hactive : reservedBytes txNow leases ≤ 0) (hread : txNow ≤ lease.issuedAt)
    (hissued : lease.issuedAt ≤ clock) (hwhole : lease.consumedBytes = 0 ∧ 0 < lease.bytes) :
    LeasesApart clock (leases ++ [lease]) := by
  refine ⟨fun other hother ↦ ?_, fun other hother ↦ ?_, ?_⟩
  · rcases List.mem_append.mp hother with hold | hnew
    · exact hapart.whole other hold
    · rw [List.mem_singleton.mp hnew]
      exact hwhole
  · rcases List.mem_append.mp hother with hold | hnew
    · exact hapart.issued other hold
    · rw [List.mem_singleton.mp hnew]
      exact hissued
  · refine List.pairwise_append.mpr ⟨hapart.apart, List.pairwise_singleton _ _, ?_⟩
    intro older holder newer hnewer
    rw [List.mem_singleton.mp hnewer]
    exact (hapart.expired hactive holder).trans hread

theorem LeasesApart.length_le_one (hapart : LeasesApart clock leases) :
    (activeLeases clock leases).length ≤ 1 := by
  have hactive : ∀ active ∈ activeLeases clock leases, clock < active.expiresAt :=
    fun active hmem ↦ of_decide_eq_true (List.mem_filter.mp hmem).2
  have hpairs : (activeLeases clock leases).Pairwise fun older newer ↦
      older.expiresAt ≤ newer.issuedAt := hapart.apart.sublist List.filter_sublist
  cases hfirst : activeLeases clock leases with
  | nil => simp
  | cons older rest =>
    cases rest with
    | nil => simp
    | cons newer rest =>
      rw [hfirst] at hpairs hactive
      have hle := (List.pairwise_cons.mp hpairs).1 newer List.mem_cons_self
      have hnewer : newer ∈ activeLeases clock leases := by simp [hfirst]
      have hissued := hapart.issued newer (List.mem_of_mem_filter hnewer)
      exact absurd (hactive older List.mem_cons_self) (by omega)

end Leases

/-! ### Every interleaving -/

section Runs

variable {environment : Environment} {db start result : Database} {state next : TimedController}

structure LeaseInBounds (environment : Environment) (db : Database) (id : DeviceId)
    (lease : LeaseRow) : Prop where
  bytes : ∃ user row, environment.directory.owner id = some user ∧
    db.subscriptions user = some row ∧ 1 ≤ lease.bytes ∧ lease.bytes ≤ 1000000000 ∧
    (row.Sized → lease.bytes ≤ min 1000000000 (row.quotaBytes - row.usedBytes))
  expires : lease.expiresAt = lease.issuedAt + 24 * hour

theorem InsertedLease.inBounds {request : ProvisionDevice} {lease : LeaseRow} {clock : ℤ}
    (hinserted : InsertedLease environment request db lease)
    (hapart : LeasesApart clock (db.leases request.deviceId)) :
    LeaseInBounds environment db request.deviceId lease := by
  obtain ⟨key, howner, hrow, hactive, hsome⟩ := hinserted
  rename_i user row
  have hwhole : ∀ lease ∈ db.leases request.deviceId, lease.consumedBytes = 0 ∧ 0 ≤ lease.bytes :=
    fun lease hlease ↦ (hapart.whole lease hlease).imp_right le_of_lt
  have hnothing : reservedBytes request.txNow (db.leases request.deviceId) = 0 := by
    refine le_antisymm hactive ?_
    rw [reservedBytes_eq hwhole]
    exact leasedBytes_nonneg request.txNow hwhole
  have hleft := (reservableBytes_ne_zero_iff (by decide)).mp hsome
  refine ⟨⟨user, row, howner, hrow, ?_⟩, rfl⟩
  change 1 ≤ reservableBytes _ _ _ ∧ reservableBytes _ _ _ ≤ _ ∧ (_ → reservableBytes _ _ _ ≤ _)
  rw [reservableBytes_eq_min (by decide) hleft]
  rw [hnothing, Int.sub_zero, row.wrap64_remaining] at hleft ⊢
  refine ⟨by omega, by omega, fun hsized ↦ ?_⟩
  rw [hsized.remaining_eq hleft]
  omega

def AllApart (clock : ℤ) (db : Database) : Prop := ∀ id, LeasesApart clock (db.leases id)

theorem AllApart.run {clock : ℤ} {request : Request} (hapart : AllApart clock db)
    (htimed : request.TimedBy clock) (hrun : (program environment request).run db = .ok result) :
    AllApart clock result := by
  intro id
  rcases leases_cases hrun id with hsame | hnone | ⟨provision, lease, rfl, rfl, hinserted, hnew⟩
  · rw [hsame]
    exact hapart id
  · rw [hnone]
    exact leasesApart_nil clock
  · rw [hnew]
    obtain ⟨user, row, -, -, hworth, -, -⟩ := (hinserted.inBounds (hapart _)).bytes
    obtain ⟨key, howner, hrow, hactive, hsome⟩ := hinserted
    exact (hapart _).insert hactive htimed.1 htimed.2 ⟨rfl, hworth⟩

structure LeaseSound (environment : Environment) (state : TimedController) : Prop where
  serial : Serial view (program environment) state.controller
  apart : AllApart state.clock state.controller.db

theorem LeaseSound.step {event : TimedEvent} (hsound : LeaseSound environment state)
    (hclock : OneClock state event next) (hstep : state.step environment event = some next) :
    LeaseSound environment next := by
  cases event with
  | tick elapsed =>
    cases hstep
    exact ⟨hsound.serial, fun id ↦ (hsound.apart id).later (Int.le_add_of_nonneg_right
      (Int.natCast_nonneg elapsed))⟩
  | act event =>
    obtain ⟨controller, hmove, rfl⟩ := Option.map_eq_some_iff.mp hstep
    refine ⟨serial_step (program_local environment) hsound.serial hmove, ?_⟩
    refine step_view_invariant (AllApart state.clock) (fun request _ ↦ request.TimedBy state.clock)
      (fun db db' hview hapart id ↦ ?_) (fun request db result hapart htimed hrun ↦
        hapart.run htimed hrun) hsound.serial hsound.apart ?_ hmove
    · rw [← leases_eq (hview (.device id))]
      exact hapart id
    · rintro connection session rfl hsession
      exact hclock session hsession

theorem LeaseSound.inserted {event : TimedEvent} (hsound : LeaseSound environment state)
    (hstep : state.step environment event = some next) {id : DeviceId} {lease : LeaseRow}
    (hlease : lease ∈ next.controller.db.leases id)
    (hnew : lease ∉ state.controller.db.leases id) :
    LeaseInBounds environment state.controller.db id lease := by
  cases event with
  | tick elapsed =>
    cases hstep
    exact absurd hlease hnew
  | act event =>
    obtain ⟨controller, hmove, rfl⟩ := Option.map_eq_some_iff.mp hstep
    by_cases hcommit : ∃ connection, event = .commit connection
    · obtain ⟨connection, rfl⟩ := hcommit
      obtain ⟨session, result, -, hrun, hview⟩ := commit_serial hsound.serial hmove
      rw [leases_eq (hview (.device id))] at hlease
      rcases leases_cases hrun id with hsame | hnone |
        ⟨provision, inserted, -, rfl, hinserted, happended⟩
      · exact absurd (hsame ▸ hlease) hnew
      · rw [hnone] at hlease
        exact absurd hlease List.not_mem_nil
      · rw [happended, List.mem_append, List.mem_singleton] at hlease
        rw [hlease.resolve_left hnew]
        exact hinserted.inBounds (hsound.apart _)
    · have hsame : controller.db = state.controller.db :=
        db_of_not_commit hmove fun connection hevent ↦ hcommit ⟨connection, hevent⟩
      exact absurd (hsame ▸ hlease) hnew

/-- Assumes: any interleaving of the controller's transactions from a database without leases, with
one clock. A device never has two unexpired leases, and every lease that the next step inserts is
worth at least a byte and at most a gigabyte and what is left of a quota that is not negative, and
is valid for a day. -/
theorem one_live_lease {clock : ℤ} (hstart : ∀ id, start.leases id = [])
    (hreach : ReachableUnder (TimedController.step environment) OneClock
      ⟨Controller.idle start, clock⟩ state) (id : DeviceId) :
    (activeLeases state.clock (state.controller.db.leases id)).length ≤ 1 ∧
    ∀ event next, state.step environment event = some next →
      ∀ lease ∈ next.controller.db.leases id, lease ∉ state.controller.db.leases id →
        LeaseInBounds environment state.controller.db id lease := by
  have hsound : LeaseSound environment state := hreach.invariant (LeaseSound environment)
    ⟨serial_idle start, fun id ↦ by
      change LeasesApart clock (start.leases id)
      rw [hstart id]
      exact leasesApart_nil clock⟩
    fun _ _ _ hsound hclock hstep ↦ hsound.step hclock hstep
  exact ⟨(hsound.apart id).length_le_one,
    fun _ _ hstep _ hlease hnew ↦ hsound.inserted hstep hlease hnew⟩

end Runs

/-! ### Two calls at the same time -/

def paidDatabase : Database := soloDatabase.setSubscription "user" liteRow

def overlappingCalls : List TimedEvent :=
  let one : Connection := ⟨0, by decide⟩
  let two : Connection := ⟨1, by decide⟩
  let call (txNow now : ℤ) (lease : String) : Request :=
    .provisionDevice ⟨"device", "node", txNow, now, lease⟩
  [.act (.start one (call 0 1 "first")), .act (.start two (call 0 2 "second")), .act (.exec one),
    .act (.exec one), .act (.exec one), .tick 1, .act (.commit one), .act (.exec two),
    .act (.exec two), .tick 1, .act (.commit two), .tick 86400000000000,
    .act (.start one (call 86400000000002 86400000000002 "third")), .act (.exec one),
    .act (.exec one), .act (.exec one), .act (.commit one)]

def timedRun (events : List TimedEvent) : TimedController :=
  (run (TimedController.step soloEnvironment) ⟨Controller.idle paidDatabase, 0⟩
    events).getD ⟨Controller.idle paidDatabase, 0⟩

theorem one_live_lease_overlapping :
    ((timedRun overlappingCalls).controller.db.leases "device").map LeaseRow.id =
      ["first", "third"] ∧
    (activeLeases (timedRun overlappingCalls).clock
      ((timedRun overlappingCalls).controller.db.leases "device")).length ≤ 1 := by
  refine ⟨rfl, (one_live_lease (fun id ↦ ?_) (reachableUnder_getD rfl)
    "device").1⟩
  rfl

end RiseVpn.Control
