import RiseVpn.Control.RowEffects

/-!
# How subscriptions move in time

A subscription that is not active has ended, a trial ends within three days, and the end of a period
never moves back: `Timely` is the first two for one row at one time, and `Advanced` says that the
rows of a database were kept timely and their ends not shortened by what led to another.
`advanced_program` is the step: a committed transaction advances the database when its clock
readings are those of the time it runs at (`OnTime`).

`upsert_program` is the part of the command queue that depends on subscriptions: an upsert that a
transaction queues carries the end of an active subscription, or of one in grace.
-/

set_option autoImplicit false

namespace RiseVpn.Control

open RowLocking

variable {clock : ℤ} {db middle result : Database} {user : UserId} {row row' : Subscription}

/-! ### Rows -/

/-- What the times of a subscription row have to do with its status at `clock`. -/
structure Timely (clock : ℤ) (row : Subscription) : Prop where
  pending : row.status = .pendingTrial → row.periodEndsAt = none
  active : row.status = .active → row.periodEndsAt ≠ none
  trial : row.planCode = .trial → ∀ ends ∈ row.periodEndsAt, ends ≤ clock + trialDuration
  ended : row.status = .grace ∨ row.status = .expired ∨ row.status = .suspended →
    row.EndedBy clock
  downgrade : row.pendingPlanCode ≠ some .trial

def NotShortened (row row' : Subscription) : Prop :=
  ∀ ends ∈ row.periodEndsAt, ∃ later ∈ row'.periodEndsAt, ends ≤ later

theorem NotShortened.of_eq (hends : row'.periodEndsAt = row.periodEndsAt) : NotShortened row row' :=
  fun ends hmem ↦ ⟨ends, hends ▸ hmem, le_rfl⟩

theorem NotShortened.trans {last : Subscription} (hfirst : NotShortened row row')
    (hsecond : NotShortened row' last) : NotShortened row last := by
  intro ends hends
  obtain ⟨later, hlater, hle⟩ := hfirst ends hends
  obtain ⟨latest, hlatest, hle'⟩ := hsecond later hlater
  exact ⟨latest, hlatest, hle.trans hle'⟩

theorem Timely.mono {later : ℤ} (htimely : Timely clock row) (hlater : clock ≤ later) :
    Timely later row := by
  refine ⟨htimely.pending, htimely.active, fun htrial ends hends ↦ ?_, fun hended ↦ ?_,
    htimely.downgrade⟩
  · have := htimely.trial htrial ends hends
    omega
  · obtain ⟨ends, hends, hle⟩ := htimely.ended hended
    exact ⟨ends, hends, hle.trans hlater⟩

variable {ends : ℤ} {request : Request} {environment : Environment}

theorem timely_active (hstatus : row.status = .active) (hpaid : row.planCode ≠ .trial)
    (hends : row.periodEndsAt = some ends) (hdowngrade : row.pendingPlanCode ≠ some .trial) :
    Timely clock row := by
  refine ⟨fun h ↦ ?_, fun _ ↦ ?_, fun h ↦ absurd h hpaid, fun h ↦ ?_, hdowngrade⟩
  · rw [hstatus] at h
    cases h
  · rw [hends]
    exact Option.some_ne_none _
  · rw [hstatus] at h
    rcases h with h | h | h <;> cases h

theorem Timely.renewedSamePlan (hpaid : row.planCode ≠ .trial) :
    Timely clock (renewedSamePlan row clock) ∧ NotShortened row (renewedSamePlan row clock) := by
  refine ⟨timely_active rfl hpaid rfl nofun, fun ends hends ↦ ⟨_, rfl, ?_⟩⟩
  have hduration : 0 ≤ (planTerms row.planCode).duration := by
    cases row.planCode <;> decide
  rw [Option.mem_def.mp hends]
  dsimp only
  split_ifs <;> omega

section

variable (htimely : Timely clock row)

include htimely

theorem Timely.ends_le (hnot : ¬ (row.status = .active ∧ row.planCode ≠ .trial))
    (hends : ends ∈ row.periodEndsAt) : ends ≤ clock + trialDuration := by
  by_cases hactive : row.status = .active
  · have htrial : row.planCode = .trial := by
      by_contra hpaid
      exact hnot ⟨hactive, hpaid⟩
    exact htimely.trial htrial ends hends
  · cases hstatus : row.status with
    | active => exact absurd hstatus hactive
    | pendingTrial =>
      rw [htimely.pending hstatus] at hends
      cases hends
    | grace | expired | suspended =>
      obtain ⟨found, hfound, hle⟩ := htimely.ended (by simp [hstatus])
      cases (Option.mem_def.mp hfound).symm.trans (Option.mem_def.mp hends)
      have : 0 ≤ trialDuration := by decide
      omega

theorem Timely.purchasedRow {next : PlanCode} (hpaid : next ≠ .trial) :
    Timely clock (purchasedRow row next (purchaseTerms row next clock)) ∧
      NotShortened row (purchasedRow row next (purchaseTerms row next clock)) := by
  refine ⟨timely_active rfl hpaid rfl nofun, fun ends hends ↦ ⟨_, rfl, ?_⟩⟩
  unfold purchaseTerms
  rw [Option.mem_def.mp hends]
  dsimp only
  split_ifs with hupgrade
  · exact le_rfl
  · -- The row was a trial, or its period was over.
    have hperiod : trialDuration ≤ paidPeriod := by decide
    have hsoon := htimely.ends_le hupgrade hends
    change ends ≤ clock + paidPeriod
    omega

theorem Timely.autoRenewed (hpaid : row.planCode ≠ .trial) (hends : row.periodEndsAt = some ends) :
    Timely clock (autoRenewed row) ∧ NotShortened row (autoRenewed row) := by
  have htarget : row.targetPlan ≠ .trial := by
    unfold Subscription.targetPlan
    cases hpending : row.pendingPlanCode with
    | none => exact hpaid
    | some next => exact fun hnext ↦ htimely.downgrade (by rw [hpending, ← hnext, Option.getD_some])
  have hperiod : (Control.autoRenewed row).periodEndsAt = some (ends + 30 * day) := by
    rw [Control.autoRenewed, hends]
    rfl
  refine ⟨timely_active rfl htarget hperiod nofun, fun old hold ↦ ⟨_, hperiod, ?_⟩⟩
  cases hends.symm.trans (Option.mem_def.mp hold)
  have : 0 ≤ 30 * day := by decide
  omega

theorem Timely.ending {txNow : ℤ} (htime : txNow ≤ clock) (hended : row.EndedBy txNow)
    (hstatus : row'.status = .grace ∨ row'.status = .expired ∨ row'.status = .suspended)
    (hplan : row'.planCode = row.planCode) (hends : row'.periodEndsAt = row.periodEndsAt)
    (hpending : row'.pendingPlanCode = row.pendingPlanCode) : Timely clock row' := by
  refine ⟨fun h ↦ ?_, fun h ↦ ?_, ?_, fun _ ↦ ?_, hpending ▸ htimely.downgrade⟩
  · rcases hstatus with hs | hs | hs <;> rw [hs] at h <;> cases h
  · rcases hstatus with hs | hs | hs <;> rw [hs] at h <;> cases h
  · rw [hplan, hends]
    exact htimely.trial
  · obtain ⟨ends, hmem, hle⟩ := hended
    exact ⟨ends, hends ▸ hmem, hle.trans htime⟩

theorem Timely.trialRow (hpending : row.status = .pendingTrial) {now : ℤ} (htime : now ≤ clock) :
    Timely clock (trialRow row now) ∧ NotShortened row (trialRow row now) := by
  refine ⟨⟨nofun, fun _ ↦ Option.some_ne_none _, fun _ ends hends ↦ ?_, nofun,
    htimely.downgrade⟩, ?_⟩
  · cases hends
    omega
  · intro ends hends
    rw [htimely.pending hpending] at hends
    cases hends

theorem Timely.statusMoved {txNow : ℤ} (htime : txNow ≤ clock)
    (hmoved : StatusMoved txNow row row') : Timely clock row' := by
  obtain ⟨expired, graced, hexpired, hgraced, hsuspended⟩ := hmoved
  have hfirst : Timely clock expired := by
    rcases hexpired with rfl | ⟨hdue, rfl⟩
    · exact htimely
    · simp only [trialEnded, decide_eq_true_eq] at hdue
      exact htimely.ending htime hdue.2.2 (.inr (.inl rfl)) rfl rfl rfl
  have hsecond : Timely clock graced := by
    rcases hgraced with rfl | ⟨hdue, rfl⟩
    · exact hfirst
    · simp only [paidEnded, decide_eq_true_eq] at hdue
      exact hfirst.ending htime hdue.2.2 (.inl rfl) rfl rfl rfl
  rcases hsuspended with rfl | ⟨hdue, rfl⟩
  · exact hsecond
  · simp only [graceEnded, decide_eq_true_eq] at hdue
    have hended : graced.EndedBy clock := hsecond.ended (.inl hdue.1)
    exact hsecond.ending le_rfl hended (.inr (.inr rfl)) rfl rfl rfl

end

/-- The clock readings of a transaction that runs at `clock`: a purchase reads the clock while it
holds the row, the worker and a binding have read it before. -/
def OnTime (clock : ℤ) : Request → Prop
  | .changePlan request => request.now = clock
  | .subscriptionLifecycle run => run.txNow ≤ clock
  | .bindDevice request => request.now ≤ clock
  | _ => True

instance : (request : Request) → Decidable (OnTime clock request)
  | .changePlan request => inferInstanceAs (Decidable (request.now = clock))
  | .subscriptionLifecycle run => inferInstanceAs (Decidable (run.txNow ≤ clock))
  | .bindDevice request => inferInstanceAs (Decidable (request.now ≤ clock))
  | .creditWallet _ | .adjustWallet _ | .assignNode _ | .rebindDevice _ | .revokeCredential _
  | .provisionDevice _ | .usage _ => isTrue trivial

theorem Timely.moved (htimely : Timely clock row) (hontime : OnTime clock request)
    (hmoved : RowMoved row request row') : Timely clock row' ∧ NotShortened row row' := by
  cases hmoved with
  | kept => exact ⟨htimely, .of_eq rfl⟩
  | renewed hpaid =>
    cases hontime
    exact Timely.renewedSamePlan hpaid
  | scheduled hpaid =>
    exact ⟨⟨htimely.pending, htimely.active, htimely.trial, htimely.ended,
      fun hsame ↦ hpaid (Option.some.inj hsame)⟩, .of_eq rfl⟩
  | purchased hpaid =>
    cases hontime
    exact htimely.purchasedRow hpaid
  | @managed run renewed _ hrenewed hmoved =>
    have hfirst : Timely clock renewed ∧ NotShortened row renewed := by
      rcases hrenewed with rfl | ⟨balance, hdue, rfl⟩
      · exact ⟨htimely, .of_eq rfl⟩
      · obtain ⟨ends, hends, -⟩ := hdue.2.2.1
        exact htimely.autoRenewed hdue.1 hends
    have hends : NotShortened renewed row' := .of_eq hmoved.kept.2.2.1
    exact ⟨hfirst.1.statusMoved hontime hmoved, hfirst.2.trans hends⟩
  | started hpending => exact htimely.trialRow hpending hontime
  | counted =>
    exact ⟨⟨htimely.pending, htimely.active, htimely.trial, htimely.ended, htimely.downgrade⟩,
      .of_eq rfl⟩

/-! ### Databases -/

/-- The subscriptions of a database were kept timely, and their ends not moved back, on the way to
another. -/
structure Advanced (clock : ℤ) (db result : Database) : Prop where
  absent : ∀ user, db.subscriptions user = none → result.subscriptions user = none
  present : ∀ user row, db.subscriptions user = some row → Timely clock row →
    ∃ row', result.subscriptions user = some row' ∧ Timely clock row' ∧ NotShortened row row'

theorem advanced_program (hontime : OnTime clock request)
    (hrun : (program environment request).run db = .ok result) : Advanced clock db result := by
  refine ⟨fun user ↦ (row_program hrun user).absent_iff.mpr, fun user row hrow htimely ↦ ?_⟩
  obtain ⟨row', hrow', hmoved⟩ := (hrow ▸ row_program hrun user).of_some
  exact ⟨row', hrow', htimely.moved hontime hmoved⟩

/-! ### Queued upserts -/

def CarriesEnd (directory : Directory) (db : Database) (data : DeviceUpsert) : Prop :=
  ∃ user row, directory.owner data.deviceId = some user ∧ db.subscriptions user = some row ∧
    (row.status = .active ∨ row.status = .grace) ∧
    data.subscriptionEnds = valueTime row.periodEndsAt

/-- The upserts in the queue of `result` were in that of `db`. -/
def NoNewUpsert (db result : Database) : Prop :=
  ∀ command ∈ result.commands, ∀ data, command.message = .deviceUpsert data → command ∈ db.commands

theorem noNewUpsert_program (hother : ∀ call, request ≠ .provisionDevice call)
    (hrun : (program environment request).run db = .ok result) : NoNewUpsert db result := by
  intro command hcommand data hdata
  rcases mem_queue_program hrun hcommand with hold | hqueued
  · exact hold
  · rw [hdata] at hqueued
    cases hqueued
    exact absurd rfl (hother _)

theorem upsert_program (hrun : (program environment request).run db = .ok result) :
    ∀ command ∈ result.commands, ∀ data, command.message = .deviceUpsert data →
      command ∈ db.commands ∨ CarriesEnd environment.directory db data := by
  intro command hcommand data hdata
  refine (mem_queue_program hrun hcommand).imp_right fun hqueued ↦ ?_
  rw [hdata] at hqueued
  cases hqueued with
  | upsert howner hdevice hrow hstatus => exact ⟨_, _, howner, hrow, hstatus, rfl⟩

end RiseVpn.Control
