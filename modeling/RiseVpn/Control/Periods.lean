import RiseVpn.Control.Effects

/-!
# Paid periods

What a user gets for a charge. A charge is made by `changePlan` (a renewal, a purchase or an
upgrade) or by the lifecycle worker (an automatic renewal); the results are about every committed
transaction of every interleaved run of the controller, on any subscription and wallet.

`newPeriod_full_iff` says when a newly bought period starts with its full quota: a purchase resets
the usage only of a trial, so one made in grace or after a suspension starts with the old usage
(`newPeriod_used`). `charge_ahead_iff` says when a charge buys service that lies ahead: an upgrade
keeps the end of a period that may be over, and an automatic renewal counts from an end that may lie
more than a period back (`charge_behind`). Both are read off `PlanChanged.left`, which says what a
change of plan leaves, and `lifecycle_user`.
-/

set_option autoImplicit false

namespace RiseVpn.Control

variable {environment : Environment} {start before after : Database} {request : Request}
  {user : UserId} {row row' : Subscription}

/-! ### The row a charge leaves -/

theorem Committed.rows (hcommitted : Committed environment start request before after)
    (user : UserId) : ∃ result, (program environment request).run before = .ok result ∧
      after.subscriptions user = result.subscriptions user ∧
      after.wallets user = result.wallets user := by
  obtain ⟨result, hrun, hview⟩ := hcommitted.run
  exact ⟨result, hrun, subscriptions_eq (hview (.subscription user)),
    wallets_eq (hview (.wallet user))⟩

theorem PlanChanged.wallets_of_ne {request : ChangePlan} {result : Database}
    (hchanged : PlanChanged request before result) (hother : user ≠ request.userId) :
    result.wallets user = before.wallets user := by
  cases hchanged with
  | renewed => exact Function.update_of_ne hother _ _
  | scheduled => rfl
  | purchased => exact Function.update_of_ne hother _ _

theorem PlanChanged.left {request : ChangePlan} {result : Database}
    (hchanged : PlanChanged request before result)
    (hrow : before.subscriptions request.userId = some row)
    (hrow' : result.subscriptions request.userId = some row') :
    (request.plan = .code row.planCode ∧ row.planCode ≠ .trial ∧ row.status = .active ∧
      row' = renewedSamePlan row request.now) ∨
    (row.planCode ≠ .trial ∧ row.status = .active ∧
      result.wallets request.userId = before.wallets request.userId) ∨
    ∃ next, request.plan = .code next ∧ next ≠ .trial ∧
      ¬ (next = row.planCode ∧ row.planCode ≠ .trial ∧ row.status = .active) ∧
      row' = purchasedRow row next (purchaseTerms row next request.now) := by
  cases hchanged with
  | renewed hfound _ hplan hpaid hactive _ _ _ _ =>
    cases hrow.symm.trans hfound
    exact .inl ⟨hplan, hpaid, hactive,
      Option.mem_unique hrow' (Function.update_self _ _ _)⟩
  | @scheduled _ next _ hfound _ _ hcheaper hactive =>
    cases hrow.symm.trans hfound
    refine .inr (.inl ⟨fun htrial ↦ ?_, hactive, rfl⟩)
    rw [htrial] at hcheaper
    cases next <;> exact absurd hcheaper (by decide)
  | purchased hfound _ hplan hpaid hother _ _ _ _ _ =>
    cases hrow.symm.trans hfound
    exact .inr (.inr ⟨_, hplan, hpaid, hother,
      Option.mem_unique hrow' (Function.update_self _ _ _)⟩)

/-! ### The quota of a new period -/

/-- Where the new period starts when a transaction buys one for a user with this row: at the
purchase, unless it renews or upgrades an active paid plan, or at the end an automatic renewal
finds. -/
def newPeriodStart (request : Request) (user : UserId) (row : Subscription) : Option ℤ :=
  match request with
  | .changePlan request =>
    if request.userId = user ∧ ¬ (row.status = .active ∧ row.planCode ≠ .trial) then
      some request.now
    else none
  | .subscriptionLifecycle request =>
    if row.status = .active ∧ row.planCode ≠ .trial ∧ row.EndedBy request.txNow then
      row.periodEndsAt
    else none
  | _ => none

/-- A transaction buys a new period: it charges the full price of the plan it leaves, and the row it
leaves starts at the start of a new period. -/
structure BuysNewPeriod (request : Request) (user : UserId) (before after : Database)
    (row row' : Subscription) : Prop where
  found : before.subscriptions user = some row
  left : after.subscriptions user = some row'
  charged : ∃ balance, before.wallets user = some balance ∧
    after.wallets user = some (balance - row'.planCode.row.priceKopecks)
  started : ∃ start, newPeriodStart request user row = some start ∧
    row'.periodStartedAt = some start

theorem purchaseTerms_fresh {next : PlanCode} {now : ℤ}
    (hfresh : ¬ (row.status = .active ∧ row.planCode ≠ .trial)) :
    purchaseTerms row next now =
      ⟨next.row.priceKopecks, next.row.quotaBytes, now, now + paidPeriod⟩ := by
  unfold purchaseTerms
  cases row.periodEndsAt with
  | none => rfl
  | some ends => simp [hfresh]

/-- Assumes: a committed transaction that buys a new period. The period starts unused and with the
quota of the plan exactly when the worker renewed it, or the plan before was a trial, or nothing was
used before. -/
theorem newPeriod_full_iff (hcommitted : Committed environment start request before after)
    (hbuys : BuysNewPeriod request user before after row row') :
    (row'.usedBytes = 0 ∧ row'.quotaBytes = row'.planCode.row.quotaBytes) ↔
      (∃ run, request = .subscriptionLifecycle run) ∨ row.planCode = .trial ∨
        row.usedBytes = 0 := by
  obtain ⟨result, hrun, hsubscription, hwallet⟩ := hcommitted.rows user
  obtain ⟨hrow, hrow', ⟨balance, hbalance, hcharged⟩, ⟨periodStart, hstart, -⟩⟩ := hbuys
  rw [hsubscription] at hrow'
  rw [hwallet] at hcharged
  cases request with
  | changePlan request =>
    obtain ⟨⟨rfl, hfresh⟩, -⟩ := Option.ite_none_right_eq_some.mp hstart
    rcases (run_changePlan hrun).left hrow hrow' with
      ⟨-, hpaid, hactive, -⟩ | ⟨hpaid, hactive, -⟩ | ⟨next, -, -, -, rfl⟩
    · exact absurd ⟨hactive, hpaid⟩ hfresh
    · exact absurd ⟨hactive, hpaid⟩ hfresh
    · rw [purchaseTerms_fresh hfresh]
      by_cases htrial : row.planCode = .trial
      · simp [purchasedRow, htrial]
      · simp [purchasedRow, htrial]
  | subscriptionLifecycle run =>
    obtain ⟨⟨-, hpaid, -⟩, -⟩ := Option.ite_none_right_eq_some.mp hstart
    obtain ⟨renewed, found, hfound, hmoved, hcases⟩ := lifecycle_user hrun hrow
    cases hrow'.symm.trans hfound
    obtain ⟨hplan, -, -, hquota, hused⟩ := hmoved.kept
    rcases hcases with ⟨rfl, hkept⟩ | ⟨_, -, -, rfl, -⟩
    · -- Nothing was charged, so the plan would be free.
      rw [hkept, hbalance, hplan] at hcharged
      have hprice := PlanCode.row_price_pos hpaid
      have hfree := Option.some.inj hcharged
      omega
    · rw [hused, hquota, hplan]
      simp [autoRenewed]
  | _ => cases hstart

theorem newPeriod_full_first : ∃ before after row row',
    Committed soloEnvironment soloDatabase (soloPurchase .lite 0 "first") before after ∧
    BuysNewPeriod (soloPurchase .lite 0 "first") "user" before after row row' ∧
    row'.usedBytes = 0 ∧ row'.quotaBytes = row'.planCode.row.quotaBytes := by
  have hrun : runSerially soloEnvironment [soloCredit 14900 "top-up"] soloDatabase = .ok _ := rfl
  have hcommitted : Committed soloEnvironment soloDatabase (soloPurchase .lite 0 "first") _ _ :=
    (reached_serially _ hrun).committed rfl
  refine ⟨_, _, .pendingTrial, liteRow, hcommitted, ?buys,
    (newPeriod_full_iff hcommitted ?buys).mpr (.inr (.inl rfl))⟩
  exact ⟨rfl, rfl, ⟨14900, rfl, rfl⟩, ⟨0, rfl, rfl⟩⟩

/-- A period bought in grace that starts with the usage of the period before. -/
theorem newPeriod_used : ∃ request before after row row',
    Committed soloEnvironment soloDatabase request before after ∧
    BuysNewPeriod request "user" before after row row' ∧
    ¬ (row'.usedBytes = 0 ∧ row'.quotaBytes = row'.planCode.row.quotaBytes) := by
  have hrun : runSerially soloEnvironment [soloCredit 14900 "first", soloPurchase .lite 0 "first",
      soloUsage "1" 5, soloLifecycle (30 * day), soloCredit 14900 "second"] soloDatabase =
        .ok _ := rfl
  have hcommitted : Committed soloEnvironment soloDatabase
      (soloPurchase .lite (30 * day + hour) "second") _ _ := (reached_serially _ hrun).committed rfl
  refine ⟨_, _, _, _, _, hcommitted, ⟨rfl, rfl, ⟨14900, rfl, rfl⟩, ⟨_, rfl, rfl⟩⟩, ?_⟩
  decide

/-! ### Service ahead -/

def chargeTime : Request → Option ℤ
  | .changePlan request => some request.now
  | .subscriptionLifecycle request => some request.txNow
  | _ => none

/-- A transaction charges a user at `now`. -/
structure Charges (request : Request) (user : UserId) (now : ℤ) (before after : Database)
    (row row' : Subscription) : Prop where
  time : chargeTime request = some now
  found : before.subscriptions user = some row
  left : after.subscriptions user = some row'
  debited : ∃ balance balance', before.wallets user = some balance ∧
    after.wallets user = some balance' ∧ balance' < balance

/-- The row is active and its period ends after `now`. -/
def Subscription.RunsAfter (row : Subscription) (now : ℤ) : Prop :=
  row.status = .active ∧ ∃ ends ∈ row.periodEndsAt, now < ends

/-- A charge at `now` on a row that buys service ahead: not an upgrade of a paid plan whose period
is over, and not a renewal by the worker a whole period late. -/
def ChargedInTime (request : Request) (now : ℤ) (row : Subscription) : Prop :=
  match request with
  | .changePlan request =>
    ¬ (row.status = .active ∧ row.planCode ≠ .trial ∧ request.plan ≠ .code row.planCode ∧
      row.EndedBy now)
  | .subscriptionLifecycle _ => ∃ ends ∈ row.periodEndsAt, now < ends + 30 * day
  | _ => True

theorem renewedSamePlan_runsAfter {now : ℤ} (hpaid : row.planCode ≠ .trial) :
    (renewedSamePlan row now).RunsAfter now := by
  have hduration : 0 < (planTerms row.planCode).duration := by
    cases hcode : row.planCode with
    | trial => exact absurd hcode hpaid
    | lite => decide
    | plus => decide
    | ultra => decide
  refine ⟨rfl, _, rfl, ?_⟩
  cases row.periodEndsAt with
  | none =>
    dsimp only
    omega
  | some ends =>
    dsimp only
    split_ifs <;> omega

theorem purchasedRow_runsAfter_iff {next : PlanCode} {now : ℤ} :
    (purchasedRow row next (purchaseTerms row next now)).RunsAfter now ↔
      ¬ (row.status = .active ∧ row.planCode ≠ .trial ∧ row.EndedBy now) := by
  have hperiod : now < now + paidPeriod := by
    unfold paidPeriod day hour minute second
    omega
  by_cases hupgrade : row.status = .active ∧ row.planCode ≠ .trial
  · unfold purchaseTerms Subscription.RunsAfter Subscription.EndedBy
    cases hends : row.periodEndsAt with
    | none => simp [purchasedRow, hperiod]
    | some ends => simp [purchasedRow, hupgrade]
  · rw [purchaseTerms_fresh hupgrade]
    have hnot : ¬ (row.status = .active ∧ row.planCode ≠ .trial ∧ row.EndedBy now) := by tauto
    simp [Subscription.RunsAfter, purchasedRow, hperiod, hnot]

/-- Assumes: a committed change of plan or lifecycle run that charges a user. It leaves the
subscription active with an end that lies ahead exactly when the charge was made in time. -/
theorem charge_ahead_iff {now : ℤ} (hcommitted : Committed environment start request before after)
    (hcharges : Charges request user now before after row row') :
    row'.RunsAfter now ↔ ChargedInTime request now row := by
  obtain ⟨result, hrun, hsubscription, hwallet⟩ := hcommitted.rows user
  obtain ⟨htime, hrow, hrow', balance, balance', hbalance, hbalance', hless⟩ := hcharges
  rw [hsubscription] at hrow'
  rw [hwallet] at hbalance'
  cases request with
  | changePlan request =>
    cases htime
    have hchanged := run_changePlan hrun
    have huser : user = request.userId := by
      by_contra hother
      rw [hchanged.wallets_of_ne hother, hbalance] at hbalance'
      cases hbalance'
      omega
    subst huser
    rcases hchanged.left hrow hrow' with
      ⟨hplan, hpaid, -, rfl⟩ | ⟨-, -, hkept⟩ | ⟨next, hplan, -, hother, rfl⟩
    · exact iff_of_true (renewedSamePlan_runsAfter hpaid) fun hlate ↦ hlate.2.2.1 hplan
    · rw [hkept, hbalance] at hbalance'
      cases hbalance'
      omega
    · rw [purchasedRow_runsAfter_iff, ChargedInTime, hplan]
      simp only [ne_eq, Plan.code.injEq]
      tauto
  | subscriptionLifecycle run =>
    cases htime
    obtain ⟨renewed, found, hfound, hmoved, hcases⟩ := lifecycle_user hrun hrow
    cases hrow'.symm.trans hfound
    rcases hcases with ⟨rfl, hkept⟩ | ⟨_, -, ⟨-, -, ⟨ends, hends, -⟩, -⟩, rfl, -⟩
    · rw [hkept, hbalance] at hbalance'
      cases hbalance'
      omega
    · have hperiod : (autoRenewed row).periodEndsAt = some (ends + 30 * day) := by
        rw [autoRenewed, Option.mem_def.mp hends]
        rfl
      rw [ChargedInTime, Option.mem_def.mp hends]
      constructor
      · rintro ⟨-, ahead, hahead, hlater⟩
        rw [hmoved.kept.2.2.1, hperiod] at hahead
        cases hahead
        exact ⟨ends, rfl, hlater⟩
      · rintro ⟨_, hsame, hlater⟩
        cases hsame
        have hcurrent : ¬ (autoRenewed row).EndedBy run.txNow := by
          rintro ⟨ahead, hahead, hended⟩
          rw [hperiod] at hahead
          cases hahead
          omega
        rw [hmoved.of_current rfl hcurrent]
        exact ⟨rfl, _, hperiod, hlater⟩
  | _ => cases htime

theorem charge_ahead_first : ∃ before after row row',
    Committed soloEnvironment soloDatabase (soloPurchase .lite 0 "first") before after ∧
    Charges (soloPurchase .lite 0 "first") "user" 0 before after row row' ∧ row'.RunsAfter 0 := by
  have hrun : runSerially soloEnvironment [soloCredit 14900 "top-up"] soloDatabase = .ok _ := rfl
  have hcommitted : Committed soloEnvironment soloDatabase (soloPurchase .lite 0 "first") _ _ :=
    (reached_serially _ hrun).committed rfl
  refine ⟨_, _, .pendingTrial, liteRow, hcommitted, ?charges,
    (charge_ahead_iff hcommitted ?charges).mpr fun hlate ↦ nomatch hlate.1⟩
  exact ⟨rfl, rfl, rfl, 14900, 0, rfl, rfl, by decide⟩

/-- A renewal that is charged a whole period late and buys nothing, and an upgrade that is charged
after the end of its period and buys nothing. -/
theorem charge_behind :
    (∃ now request before after row row',
      Committed soloEnvironment soloDatabase request before after ∧
      (∃ run, request = .subscriptionLifecycle run) ∧
      Charges request "user" now before after row row' ∧ ¬ row'.RunsAfter now) ∧
    (∃ now request before after row row',
      Committed soloEnvironment soloDatabase request before after ∧
      (∃ change, request = .changePlan change) ∧
      Charges request "user" now before after row row' ∧ ¬ row'.RunsAfter now) := by
  have hrun : runSerially soloEnvironment [soloCredit 100000 "top-up", soloPurchase .lite 0 "first"]
      soloDatabase = .ok _ := rfl
  have hreached : Reached soloEnvironment (fun _ _ ↦ True) soloDatabase _ :=
    reached_serially _ hrun
  constructor
  · have hcommitted : Committed soloEnvironment soloDatabase (soloLifecycle (61 * day)) _ _ :=
      hreached.committed rfl
    refine ⟨61 * day, _, _, _, _, _, hcommitted, ⟨_, rfl⟩,
      ⟨rfl, rfl, rfl, 85100, 70200, rfl, rfl, by decide⟩, ?_⟩
    exact fun hruns ↦ nomatch hruns.1
  · have hcommitted : Committed soloEnvironment soloDatabase
        (soloPurchase .plus (30 * day) "second") _ _ := hreached.committed rfl
    refine ⟨30 * day, _, _, _, _, _, hcommitted, ⟨_, rfl⟩,
      ⟨rfl, rfl, rfl, 85100, 55200, rfl, rfl, by decide⟩, ?_⟩
    rintro ⟨-, ends, hends, hlater⟩
    cases hends
    exact absurd hlater (by decide)

end RiseVpn.Control
