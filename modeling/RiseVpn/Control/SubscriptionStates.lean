import RiseVpn.Control.RowEffects

/-!
# The states of a subscription

`Legal` is what the columns of a subscription have to do with each other: which statuses a trial and
a paid plan can have, when the period and the end of grace are set, and which plans can be
scheduled. Each transaction keeps it, whatever times it reads (`legal_program`), so every committed
subscription that began as a pending trial is legal.

A run of the lifecycle worker whose scans find every subscription leaves none behind that is past
its end and active, or past its grace and in grace: `UpToDate`, `upToDate_lifecycle`. The worker's
effects in `Effects` say what a visit may do; here it matters that a visit does not pass over a row
that is due, so `run_updateRow` gives the effect outright.
-/

set_option autoImplicit false

namespace RiseVpn.Control

open RowLocking GuardedRun

variable {db middle result : Database} {user : UserId} {row row' : Subscription}

/-! ### Rows -/

structure Legal (row : Subscription) : Prop where
  trial : row.planCode = .trial →
    row.status = .pendingTrial ∨ row.status = .active ∨ row.status = .expired
  paid : row.planCode ≠ .trial →
    row.status = .active ∨ row.status = .grace ∨ row.status = .suspended
  period : row.status ≠ .pendingTrial →
    ∃ started ends, row.periodStartedAt = some started ∧ row.periodEndsAt = some ends ∧
      started < ends
  grace : row.graceEndsAt ≠ none ↔ row.status = .grace ∨ row.status = .suspended
  downgrade : ∀ next ∈ row.pendingPlanCode,
    next ≠ .trial ∧ next.row.priceKopecks < row.planCode.row.priceKopecks

theorem Legal.pendingTrial : Legal .pendingTrial where
  trial := fun _ ↦ .inl rfl
  paid := fun hpaid ↦ absurd rfl hpaid
  period := fun hstatus ↦ absurd rfl hstatus
  grace := by decide
  downgrade := nofun

theorem legal_of_paid {started ends : ℤ} (hpaid : row.planCode ≠ .trial)
    (hstatus : row.status = .active) (hstarted : row.periodStartedAt = some started)
    (hends : row.periodEndsAt = some ends) (hperiod : started < ends)
    (hgrace : row.graceEndsAt = none) (hpending : row.pendingPlanCode = none) : Legal row where
  trial := fun htrial ↦ absurd htrial hpaid
  paid := fun _ ↦ .inl hstatus
  period := fun _ ↦ ⟨started, ends, hstarted, hends, hperiod⟩
  grace := by simp [hgrace, hstatus]
  downgrade := by simp [hpending]

theorem Legal.renewedSamePlan (hlegal : Legal row) (hpaid : row.planCode ≠ .trial)
    (hactive : row.status = .active) (now : ℤ) : Legal (renewedSamePlan row now) := by
  obtain ⟨started, ends, hstarted, hends, hperiod⟩ := hlegal.period (by simp [hactive])
  refine legal_of_paid hpaid rfl hstarted rfl ?_ rfl rfl
  have hduration : 0 < (planTerms row.planCode).duration := by
    cases row.planCode <;> decide
  rw [hends]
  dsimp only
  split_ifs <;> omega

theorem Legal.scheduled (hlegal : Legal row) {next : PlanCode} (hpaid : next ≠ .trial)
    (hcheaper : next.row.priceKopecks < row.planCode.row.priceKopecks) :
    Legal { row with pendingPlanCode := some next } where
  trial := hlegal.trial
  paid := hlegal.paid
  period := hlegal.period
  grace := hlegal.grace
  downgrade := by
    rintro _ ⟨⟩
    exact ⟨hpaid, hcheaper⟩

theorem Legal.purchasedRow (hlegal : Legal row) {next : PlanCode} (hpaid : next ≠ .trial)
    (now : ℤ) : Legal (purchasedRow row next (purchaseTerms row next now)) := by
  refine legal_of_paid hpaid rfl rfl rfl ?_ rfl rfl
  have hfresh : now < now + paidPeriod := by
    have : 0 < paidPeriod := by decide
    omega
  unfold purchaseTerms
  cases hends : row.periodEndsAt with
  | none => exact hfresh
  | some ends =>
    dsimp only
    split_ifs with hupgrade
    · obtain ⟨started, found, hstarted, hfound, hperiod⟩ := hlegal.period (by simp [hupgrade.1])
      obtain rfl := Option.mem_unique hends hfound
      rw [hstarted]
      exact hperiod
    · exact hfresh

theorem Legal.autoRenewed (hlegal : Legal row) (hpaid : row.planCode ≠ .trial) {ends : ℤ}
    (hends : row.periodEndsAt = some ends) : Legal (autoRenewed row) := by
  have htarget : row.targetPlan ≠ .trial := by
    unfold Subscription.targetPlan
    cases hpending : row.pendingPlanCode with
    | none => exact hpaid
    | some next => exact (hlegal.downgrade next hpending).1
  have hlater : ends < ends + 30 * day := by
    have : 0 < 30 * day := by decide
    omega
  refine legal_of_paid htarget rfl hends ?_ hlater rfl rfl
  rw [Control.autoRenewed, hends, Option.map_some]

theorem Legal.trialRow (hlegal : Legal row) (hpending : row.status = .pendingTrial) (now : ℤ) :
    Legal (trialRow row now) := by
  have htrial : row.planCode = .trial := by
    by_contra hpaid
    simpa [hpending] using hlegal.paid hpaid
  refine ⟨fun _ ↦ .inr (.inl rfl), fun hpaid ↦ absurd htrial hpaid, fun _ ↦ ?_, ?_,
    hlegal.downgrade⟩
  · have : 0 < trialDuration := by decide
    exact ⟨now, now + trialDuration, rfl, rfl, by omega⟩
  · have hgrace := hlegal.grace
    rw [hpending] at hgrace
    simpa [Control.trialRow] using hgrace

section

variable {txNow : ℤ} (hlegal : Legal row)

include hlegal

theorem Legal.expired (hdue : trialEnded txNow row = true) :
    Legal { row with status := .expired } := by
  simp only [trialEnded, decide_eq_true_eq] at hdue
  obtain ⟨htrial, hactive, -⟩ := hdue
  refine ⟨fun _ ↦ .inr (.inr rfl), fun hpaid ↦ absurd htrial hpaid, fun _ ↦ ?_, ?_,
    hlegal.downgrade⟩
  · exact hlegal.period (by simp [hactive])
  · have hgrace := hlegal.grace
    rw [hactive] at hgrace
    simpa using hgrace

theorem Legal.graced (hdue : paidEnded txNow row = true) (ends : ℤ) :
    Legal { row with status := .grace, graceEndsAt := some ends } := by
  simp only [paidEnded, decide_eq_true_eq] at hdue
  obtain ⟨hpaid, hactive, -⟩ := hdue
  refine ⟨fun htrial ↦ absurd htrial hpaid, fun _ ↦ .inr (.inl rfl), fun _ ↦ ?_, by simp,
    hlegal.downgrade⟩
  exact hlegal.period (by simp [hactive])

theorem Legal.suspended (hdue : graceEnded txNow row = true) :
    Legal { row with status := .suspended } := by
  simp only [graceEnded, decide_eq_true_eq] at hdue
  obtain ⟨hgrace, -⟩ := hdue
  have hpaid : row.planCode ≠ .trial := by
    intro htrial
    simpa [hgrace] using hlegal.trial htrial
  refine ⟨fun htrial ↦ absurd htrial hpaid, fun _ ↦ .inr (.inr rfl), fun _ ↦ ?_, ?_,
    hlegal.downgrade⟩
  · exact hlegal.period (by simp [hgrace])
  · have hset := hlegal.grace.mpr (.inl hgrace)
    simpa using hset

theorem Legal.statusMoved (hmoved : StatusMoved txNow row row') : Legal row' := by
  obtain ⟨expired, graced, hexpired, hgraced, hsuspended⟩ := hmoved
  have hfirst : Legal expired := by
    rcases hexpired with rfl | ⟨hdue, rfl⟩
    · exact hlegal
    · exact hlegal.expired hdue
  have hsecond : Legal graced := by
    rcases hgraced with rfl | ⟨hdue, rfl⟩
    · exact hfirst
    · exact hfirst.graced hdue _
  rcases hsuspended with rfl | ⟨hdue, rfl⟩
  · exact hsecond
  · exact hsecond.suspended hdue

end

theorem Legal.moved {request : Request} (hlegal : Legal row)
    (hmoved : RowMoved row request row') : Legal row' := by
  cases hmoved with
  | kept => exact hlegal
  | renewed hpaid hactive => exact hlegal.renewedSamePlan hpaid hactive _
  | scheduled hpaid hcheaper => exact hlegal.scheduled hpaid hcheaper
  | purchased hpaid => exact hlegal.purchasedRow hpaid _
  | @managed run renewed _ hrenewed hmoved =>
    have hfirst : Legal renewed := by
      rcases hrenewed with rfl | ⟨balance, hdue, rfl⟩
      · exact hlegal
      · obtain ⟨ends, hends, -⟩ := hdue.2.2.1
        exact hlegal.autoRenewed hdue.1 hends
    exact hfirst.statusMoved hmoved
  | started hpending => exact hlegal.trialRow hpending _
  | counted =>
    exact ⟨hlegal.trial, hlegal.paid, hlegal.period, hlegal.grace, hlegal.downgrade⟩

/-! ### Databases -/

def AllLegal (db : Database) : Prop := ∀ user row, db.subscriptions user = some row → Legal row

theorem legal_program {environment : Environment} {request : Request} (hall : AllLegal db)
    (hrun : (program environment request).run db = .ok result) : AllLegal result := by
  intro user row' hrow'
  obtain ⟨row, hrow, hmoved⟩ := exists_row_program hrun hrow'
  exact (hall user row hrow).moved hmoved

/-! ### After a run of the worker -/

/-- A subscription that the worker has nothing to do with at `now`. -/
structure UpToDate (now : ℤ) (row : Subscription) : Prop where
  active : row.status = .active → ¬ row.EndedBy now
  grace : row.status = .grace → ¬ ∃ ends ∈ row.graceEndsAt, ends ≤ now

structure SubscriptionLifecycle.Complete (run : SubscriptionLifecycle) (db : Database) : Prop where
  trials : ∀ user, db.subscriptions user ≠ none → user ∈ run.trials.users
  graces : ∀ user, db.subscriptions user ≠ none → user ∈ run.graces.users
  suspensions : ∀ user, db.subscriptions user ≠ none → user ∈ run.suspensions.users

theorem upToDate_updatedIf (txNow : ℤ) (row : Subscription) :
    UpToDate txNow (updatedIf (graceEnded txNow) (fun row ↦ { row with status := .suspended })
      (updatedIf (paidEnded txNow)
        (fun row ↦ { row with status := .grace, graceEndsAt := some (txNow + 24 * hour) })
        (updatedIf (trialEnded txNow) (fun row ↦ { row with status := .expired }) row))) := by
  generalize hexpired : updatedIf (trialEnded txNow) _ row = expired
  generalize hgraced : updatedIf (paidEnded txNow) _ expired = graced
  have htrial : trialEnded txNow expired = false := by
    rw [← hexpired, updatedIf]
    split_ifs with hdue
    · simp [trialEnded]
    · exact Bool.eq_false_of_not_eq_true hdue
  have hactive : graced.status = .active → ¬ graced.EndedBy txNow := by
    rw [← hgraced, updatedIf]
    split_ifs with hdue
    · intro hstatus
      cases hstatus
    · intro hstatus hended
      by_cases hplan : expired.planCode = .trial
      · simp [trialEnded, hplan, hstatus, hended] at htrial
      · simp [paidEnded, hplan, hstatus, hended] at hdue
  rw [updatedIf]
  split_ifs with hdue
  · constructor
    all_goals
      intro hstatus
      cases hstatus
  · refine ⟨hactive, fun hstatus hended ↦ hdue ?_⟩
    simpa [graceEnded, hstatus] using hended

section

variable {directory : Directory} {run : SubscriptionLifecycle}
  (hrun : (subscriptionLifecycle directory run).run db = .ok result)

include hrun

theorem lifecycle_statuses (user : UserId) :
    ∃ renewed, (renewed = db.subscriptions user ∨ ∃ row balance,
        db.subscriptions user = some row ∧ DueForRenewal run.txNow row balance ∧
        renewed = some (autoRenewed row)) ∧
      result.subscriptions user =
        scannedRow run.suspensions (graceEnded run.txNow)
          (fun row ↦ { row with status := .suspended }) user
          (scannedRow run.graces (paidEnded run.txNow)
            (fun row ↦ { row with status := .grace, graceEndsAt := some (run.txNow + 24 * hour) })
            user
            (scannedRow run.trials (trialEnded run.txNow)
              (fun row ↦ { row with status := .expired }) user renewed)) := by
  obtain ⟨renewed, expired, graced, suspended, hrenewed, hexpired, hgraced, hsuspended, rfl⟩ :=
    run_subscriptionLifecycle hrun
  refine ⟨renewed.subscriptions user, ?_, ?_⟩
  · cases hbefore : db.subscriptions user with
    | none => exact .inl (hrenewed.renew_absent hbefore)
    | some row =>
      rcases hrenewed.renew_row run.renewals.nodup hbefore with
        ⟨hkept, -⟩ | ⟨balance, -, hdue, hauto, -⟩
      · exact .inl hkept
      · exact .inr ⟨row, balance, rfl, hdue, hauto⟩
  · refine (hsuspended.update_subscriptions user).trans ?_
    rw [hgraced.update_subscriptions, hexpired.update_subscriptions]

theorem upToDate_lifecycle (hcomplete : run.Complete db) :
    ∀ user row, result.subscriptions user = some row → UpToDate run.txNow row := by
  intro user row hrow
  obtain ⟨renewed, hrenewed, hresult⟩ := lifecycle_statuses hrun user
  cases hbefore : db.subscriptions user with
  | none =>
    rcases hrenewed with rfl | ⟨found, -, hfound, -⟩
    · rw [hbefore, hrow] at hresult
      simp [scannedRow] at hresult
    · cases hbefore.symm.trans hfound
  | some found =>
    have hfound : db.subscriptions user ≠ none := by
      rw [hbefore]
      exact Option.some_ne_none found
    rw [scannedRow, if_pos (hcomplete.suspensions user hfound), scannedRow,
      if_pos (hcomplete.graces user hfound), scannedRow, if_pos (hcomplete.trials user hfound),
      Option.map_map, Option.map_map] at hresult
    obtain ⟨old, -, rfl⟩ := Option.map_eq_some_iff.mp (hresult.symm.trans hrow)
    exact upToDate_updatedIf run.txNow old

end

/-! ### The results -/

/-- Assumes: subscriptions that began as pending trials. Every subscription is legal in every
database that concurrent transactions reach, at whatever times they run, and a committed run of the
worker whose scans find every subscription leaves none active past its end or in grace past the end
of grace. -/
theorem subscription_states {environment : Environment} {start : Database}
    (hstart : ∀ user row, start.subscriptions user = some row → row = .pendingTrial) :
    (∀ controller, Reachable (Controller.step environment) (Controller.idle start) controller →
      ∀ user row, controller.db.subscriptions user = some row → Legal row) ∧
    ∀ run before after, Committed environment start (.subscriptionLifecycle run) before after →
      run.Complete before → ∀ user row, after.subscriptions user = some row →
        UpToDate run.txNow row := by
  constructor
  · intro controller hreach
    change AllLegal controller.db
    have hany : ReachableUnder (Controller.step environment) (CommitMeets fun _ _ ↦ True)
        (Controller.idle start) controller :=
      ReachableUnder.mono hreach fun _ _ _ _ _ _ _ _ ↦ trivial
    refine reachable_view_invariant (program_local environment) ?_ ?_ ?_ hany
    · intro db db' hviews hall user row hrow
      rw [← subscriptions_eq (hviews (.subscription user))] at hrow
      exact hall user row hrow
    · exact fun request db result hall _ ↦ legal_program hall
    · intro user row hrow
      rw [hstart user row hrow]
      exact Legal.pendingTrial
  · intro run before after hcommitted hcomplete user row hrow
    obtain ⟨result, hrun, hviews⟩ := hcommitted.run
    rw [subscriptions_eq (hviews (.subscription user))] at hrow
    exact upToDate_lifecycle hrun hcomplete user row hrow

def overdueDatabase : Database :=
  (runSerially soloEnvironment [soloCredit 14900 "top-up", soloPurchase .lite 0 "first",
    soloLifecycle (60 * day)] soloDatabase).toOption.getD soloDatabase

theorem subscription_states_suspended :
    ∃ run after row,
      Committed soloEnvironment soloDatabase (.subscriptionLifecycle run) overdueDatabase after ∧
      run.txNow = 90 * day ∧ after.subscriptions "user" = some row ∧ row.status = .suspended ∧
      UpToDate run.txNow row := by
  have hreached : Reached soloEnvironment (fun _ _ ↦ True) soloDatabase overdueDatabase :=
    reached_serially [soloCredit 14900 "top-up", soloPurchase .lite 0 "first",
      soloLifecycle (60 * day)] rfl
  have hcommitted : Committed soloEnvironment soloDatabase (soloLifecycle (90 * day))
      overdueDatabase _ := hreached.committed rfl
  have hstart : ∀ user row, soloDatabase.subscriptions user = some row → row = .pendingTrial := by
    intro user row hrow
    exact (Option.some.inj (Option.ite_none_right_eq_some.mp hrow).2).symm
  have hfound : ∀ user, overdueDatabase.subscriptions user ≠ none → user ∈ ["user"] := by
    intro user hpresent
    by_contra habsent
    have hother : user ≠ "user" := List.ne_of_not_mem_cons habsent
    exact hpresent ((Function.update_of_ne hother _ _).trans
      ((Function.update_of_ne hother _ _).trans (if_neg habsent)))
  refine ⟨_, _, _, hcommitted, rfl, rfl, rfl, ?_⟩
  exact (subscription_states hstart).2 _ _ _ hcommitted ⟨hfound, hfound, hfound⟩ "user" _ rfl

end RiseVpn.Control
