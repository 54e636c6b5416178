import RiseVpn.Control.Periods
import RiseVpn.Control.Proration

/-!
# Upgrades inside a paid period

An upgrade is a `changePlan` of an active paid subscription to a dearer plan before the end of its
period. It is charged the difference of the prices for the time that remains (`ProrateUpgrade`), and
the subscription keeps the end it had.

`ProrateUpgrade` counts at most one period, while renewals of the running plan may have moved the
end of the subscription any number of periods ahead. `upgrade_paid_iff` says when the charge is the
share of the whole time that remains: when the seconds beyond one period are worth less than a
kopeck. `upgrade_underpaid` is an upgrade after a renewal. Near the end of a period the charge is
rounded down to nothing, and the `CHECK` of `ledger_entries` refuses the entry of an upgrade that is
free; `upgrade_commits_iff` says which upgrades a sufficient balance pays, and
`upgrade_refused_near_end` is one that it does not.

Both are read off `upgradeCost_eq`, the charge in whole seconds.
-/

set_option autoImplicit false

namespace RiseVpn.Control

open RowLocking

/-! ### The charge -/

/-- What an upgrade costs more than the running plan in a full period. -/
def priceDifference (current next : PlanCode) : ℤ :=
  next.row.priceKopecks - current.row.priceKopecks

/-- The share of the price difference that some seconds of a period are worth, in whole kopecks. -/
def shareOf (current next : PlanCode) (seconds : ℤ) : ℤ :=
  priceDifference current next * seconds / current.row.periodSeconds

/-- The cost that `changePlan` computes for an upgrade. -/
def upgradeCost (current next : PlanCode) (now ends : ℤ) : ℤ :=
  (prorateUpgrade (planTerms current) (planTerms next) now ends).1

/-- A request that upgrades the active paid subscription `row` before its end. -/
structure Upgrades (request : ChangePlan) (row : Subscription) (next : PlanCode) (ends : ℤ) :
    Prop where
  plan : request.plan = .code next
  active : row.status = .active
  paid : row.planCode ≠ .trial
  ending : row.periodEndsAt = some ends
  running : request.now < ends
  dearer : row.planCode.row.priceKopecks < next.row.priceKopecks

section Charge

variable {current next : PlanCode} {now ends : ℤ}

theorem periodSeconds_of_paid (hpaid : current ≠ .trial) :
    current.row.periodSeconds = 2592000 := by
  cases current with
  | trial => exact absurd rfl hpaid
  | lite | plus | ultra => rfl

theorem upgradable_of_dearer (hpaid : current ≠ .trial)
    (hdearer : current.row.priceKopecks < next.row.priceKopecks) :
    Upgradable current.row.periodSeconds (planTerms current) (planTerms next) := by
  cases current with
  | trial => exact absurd rfl hpaid
  | lite | plus | ultra =>
    cases next
    all_goals first
      | exact absurd hdearer (by decide)
      | exact ⟨by decide, rfl, rfl, by decide, by decide, by decide, by decide⟩

theorem upgradeCost_eq (hpaid : current ≠ .trial) (hrunning : now < ends)
    (hdearer : current.row.priceKopecks < next.row.priceKopecks) :
    upgradeCost current next now ends =
      shareOf current next (min (wholeSeconds now ends) current.row.periodSeconds) :=
  congrArg Prod.fst (prorateUpgrade_eq (upgradable_of_dearer hpaid hdearer) hrunning)

theorem share_counted_iff {difference period : ℤ} (hdifference : 0 < difference)
    (hperiod : 0 < period) (seconds : ℤ) :
    difference * seconds / period ≤ difference * min seconds period / period ↔
      difference * (seconds - period) < period := by
  rcases le_or_gt seconds period with hwithin | hbeyond
  · rw [min_eq_left hwithin]
    have hnone : difference * (seconds - period) ≤ 0 :=
      Int.mul_nonpos_of_nonneg_of_nonpos hdifference.le (by omega)
    exact iff_of_true le_rfl (by omega)
  · have hproduct : difference * (seconds - period) = difference * seconds - difference * period :=
      Int.mul_sub _ _ _
    have hnext : (difference + 1) * period = difference * period + period := by
      rw [Int.add_mul, Int.one_mul]
    rw [min_eq_right hbeyond.le, Int.mul_ediv_cancel _ hperiod.ne', ← Int.lt_add_one_iff,
      Int.ediv_lt_iff_lt_mul hperiod]
    omega

theorem upgradeCost_pos_iff (hpaid : current ≠ .trial) (hrunning : now < ends)
    (hdearer : current.row.priceKopecks < next.row.priceKopecks) :
    0 ≤ upgradeCost current next now ends ∧
      (upgradeCost current next now ends ≠ 0 ↔ current.row.periodSeconds ≤
        priceDifference current next * min (wholeSeconds now ends) current.row.periodSeconds) := by
  have hperiod : 0 < current.row.periodSeconds := by
    rw [periodSeconds_of_paid hpaid]
    decide
  have hseconds : 0 ≤ min (wholeSeconds now ends) current.row.periodSeconds :=
    le_min (Int.ediv_nonneg (by omega) second_pos.le) hperiod.le
  have hworth : 0 ≤ upgradeCost current next now ends := by
    rw [upgradeCost_eq hpaid hrunning hdearer]
    exact Int.ediv_nonneg (Int.mul_nonneg (Int.sub_nonneg_of_le hdearer.le) hseconds) hperiod.le
  refine ⟨hworth, ?_⟩
  rw [← hworth.lt_iff_ne', Int.lt_iff_add_one_le, upgradeCost_eq hpaid hrunning hdearer, shareOf,
    Int.le_ediv_iff_mul_le hperiod, Int.zero_add, Int.one_mul]

end Charge

/-! ### The price of the time that remains -/

section Paid

variable {environment : Environment} {start before after : Database} {request : ChangePlan}
  {row : Subscription} {next : PlanCode} {ends : ℤ}

theorem Upgrades.terms (hupgrade : Upgrades request row next ends) :
    (purchaseTerms row next request.now).cost = upgradeCost row.planCode next request.now ends ∧
      (purchaseTerms row next request.now).periodEnd = ends := by
  simp [purchaseTerms, hupgrade.ending, hupgrade.active, hupgrade.paid, upgradeCost]

theorem Upgrades.charged (hupgrade : Upgrades request row next ends)
    (hcommitted : Committed environment start (.changePlan request) before after)
    (hrow : before.subscriptions request.userId = some row) :
    ∃ balance row', before.wallets request.userId = some balance ∧
      after.wallets request.userId =
        some (balance - upgradeCost row.planCode next request.now ends) ∧
      after.subscriptions request.userId = some row' ∧ row'.periodEndsAt = some ends := by
  obtain ⟨result, hrun, hsubscription, hwallet⟩ := hcommitted.rows request.userId
  obtain ⟨hcost, hend⟩ := hupgrade.terms
  have hdearer := hupgrade.dearer
  rw [hsubscription, hwallet]
  cases run_changePlan hrun with
  | renewed hfound _ hplan _ _ _ _ _ _ =>
    cases hrow.symm.trans hfound
    cases hupgrade.plan.symm.trans hplan
    omega
  | scheduled hfound hplan _ hcheaper _ =>
    cases hrow.symm.trans hfound
    cases hupgrade.plan.symm.trans hplan
    omega
  | purchased hfound hbalance hplan _ _ _ hafter _ _ _ =>
    cases hrow.symm.trans hfound
    cases hupgrade.plan.symm.trans hplan
    refine ⟨_, _, hbalance, ?_, Function.update_self _ _ _, congrArg some hend⟩
    rw [← hcost, ← hafter]
    exact Function.update_self _ _ _

/-- Assumes: a committed upgrade. The charge is at least the share of the time until the end that
the upgraded subscription keeps, exactly when the seconds beyond one period are worth less than a
kopeck. -/
theorem upgrade_paid_iff
    (hcommitted : Committed environment start (.changePlan request) before after)
    (hrow : before.subscriptions request.userId = some row)
    (hupgrade : Upgrades request row next ends) :
    ∃ balance balance' row' kept, before.wallets request.userId = some balance ∧
      after.wallets request.userId = some balance' ∧
      after.subscriptions request.userId = some row' ∧ row'.periodEndsAt = some kept ∧
      (shareOf row.planCode next (wholeSeconds request.now kept) ≤ balance - balance' ↔
        priceDifference row.planCode next *
            (wholeSeconds request.now ends - row.planCode.row.periodSeconds) <
          row.planCode.row.periodSeconds) := by
  obtain ⟨balance, row', hbalance, hbalance', hrow', hend⟩ := hupgrade.charged hcommitted hrow
  refine ⟨balance, _, row', ends, hbalance, hbalance', hrow', hend, ?_⟩
  rw [Int.sub_sub_self, upgradeCost_eq hupgrade.paid hupgrade.running hupgrade.dearer]
  have hperiod := periodSeconds_of_paid hupgrade.paid
  exact share_counted_iff (Int.sub_pos_of_lt hupgrade.dearer) (by omega) _

end Paid

def soloUpgrade (now : ℤ) : ChangePlan := ⟨"user", .code .plus, now, "upgrade"⟩

def soloLite : List Request := [soloCredit 100000 "top-up", soloPurchase .lite 0 "first"]

theorem upgrade_paid_middle : ∃ before after row balance balance' row' kept,
    Committed soloEnvironment soloDatabase (.changePlan (soloUpgrade (15 * day))) before after ∧
    before.subscriptions "user" = some row ∧
    Upgrades (soloUpgrade (15 * day)) row .plus (30 * day) ∧
    before.wallets "user" = some balance ∧ after.wallets "user" = some balance' ∧
    after.subscriptions "user" = some row' ∧ row'.periodEndsAt = some kept ∧
    shareOf row.planCode .plus (wholeSeconds (15 * day) kept) ≤ balance - balance' := by
  have hrun : runSerially soloEnvironment soloLite soloDatabase = .ok _ := rfl
  have hcommitted : Committed soloEnvironment soloDatabase
      (.changePlan (soloUpgrade (15 * day))) _ _ := (reached_serially _ hrun).committed rfl
  have hupgrade : Upgrades (soloUpgrade (15 * day)) liteRow .plus (30 * day) :=
    ⟨rfl, rfl, by decide, rfl, by decide, by decide⟩
  obtain ⟨balance, balance', row', kept, hbalance, hbalance', hrow', hkept, hiff⟩ :=
    upgrade_paid_iff hcommitted rfl hupgrade
  exact ⟨_, _, _, balance, balance', row', kept, hcommitted, rfl, hupgrade, hbalance, hbalance',
    hrow', hkept, hiff.mpr (by decide)⟩

/-- An upgrade of a subscription that was renewed once: almost two periods at the price of one. -/
theorem upgrade_underpaid : ∃ before after row balance balance' row' kept,
    Committed soloEnvironment soloDatabase (.changePlan (soloUpgrade hour)) before after ∧
    before.subscriptions "user" = some row ∧ Upgrades (soloUpgrade hour) row .plus (60 * day) ∧
    before.wallets "user" = some balance ∧ after.wallets "user" = some balance' ∧
    after.subscriptions "user" = some row' ∧ row'.periodEndsAt = some kept ∧
    ¬ shareOf row.planCode .plus (wholeSeconds hour kept) ≤ balance - balance' := by
  have hrun : runSerially soloEnvironment (soloLite ++ [soloPurchase .lite 0 "second"])
      soloDatabase = .ok _ := rfl
  have hcommitted : Committed soloEnvironment soloDatabase (.changePlan (soloUpgrade hour)) _ _ :=
    (reached_serially _ hrun).committed rfl
  refine ⟨_, _, _, 70200, 55200, _, _, hcommitted, rfl, ⟨rfl, rfl, ?_, rfl, ?_, ?_⟩, rfl, rfl,
    rfl, rfl, ?_⟩
  all_goals decide

/-! ### The last minutes of a period -/

section Commits

variable {db : Database} {request : ChangePlan} {row : Subscription} {balance : ℤ}
  {next : PlanCode} {ends : ℤ}

theorem Upgrades.run_eq (hupgrade : Upgrades request row next ends)
    (hrow : db.subscriptions request.userId = some row)
    (hbalance : db.wallets request.userId = some balance) :
    (changePlan request).run db = (purchase request row balance next).run db := by
  have hdearer := hupgrade.dearer
  have hchosen : ¬ (request.plan = .other "" ∨ request.plan = .code .trial) := by
    rw [hupgrade.plan]
    rintro (hother | htrial)
    · cases hother
    · cases htrial
      have hprice := PlanCode.row_price_pos hupgrade.paid
      exact absurd (hprice.trans hdearer) (by decide)
  have hsame : ¬ (next = row.planCode ∧ row.planCode ≠ .trial ∧ row.status = .active) := by
    rintro ⟨rfl, -⟩
    omega
  have hcheaper : ¬ (next.row.priceKopecks < row.planCode.row.priceKopecks ∧
      row.status = .active) := fun hless ↦ by omega
  rw [changePlan, if_neg hchosen, Txn.run_select, hrow, hbalance]
  simp only [hupgrade.plan, if_neg hsame, if_neg hcheaper]

def upgradeEntry (request : ChangePlan) (current next : PlanCode) (cost balance : ℤ) :
    LedgerEntry :=
  ⟨-cost, balance - cost, "Смена тарифа " ++ current.text ++ " → " ++ next.text, request.userId,
    "plan:" ++ request.uuid⟩

theorem upgradeEntry_valid_iff {current : PlanCode} {cost : ℤ} (hcovers : cost ≤ balance) :
    (upgradeEntry request current next cost balance).Valid ↔ cost ≠ 0 := by
  have hreason : 3 ≤ ("Смена тарифа " ++ current.text ++ " → " ++ next.text).length := by
    simp only [String.length_append]
    have hstart : "Смена тарифа ".length = 13 := rfl
    omega
  have hleft : 0 ≤ balance - cost := by omega
  constructor
  · rintro ⟨hamount, -⟩ rfl
    exact hamount rfl
  · intro hcost
    exact ⟨Int.neg_ne_zero.mpr hcost, hleft, hreason⟩

/-- Assumes: an upgrade that the balance of the wallet covers, a balance of the range of its column,
and a fresh ledger key. The transaction commits exactly when the seconds that are counted are worth
a kopeck: the ledger has no entries of nothing. -/
theorem upgrade_commits_iff (hrow : db.subscriptions request.userId = some row)
    (hupgrade : Upgrades request row next ends)
    (hbalance : db.wallets request.userId = some balance) (hrange : Int64Range balance)
    (hcovers : upgradeCost row.planCode next request.now ends ≤ balance)
    (hkey : db.ledgerKeys ("plan:" ++ request.uuid) = false) :
    (∃ result, (changePlan request).run db = .ok result) ↔
      row.planCode.row.periodSeconds ≤ priceDifference row.planCode next *
        min (wholeSeconds request.now ends) row.planCode.row.periodSeconds := by
  obtain ⟨hnonneg, hworth⟩ := upgradeCost_pos_iff hupgrade.paid hupgrade.running hupgrade.dearer
  have hleft : 0 ≤ balance - upgradeCost row.planCode next request.now ends := by omega
  have hfits : Int64Range (balance - upgradeCost row.planCode next request.now ends) := by
    obtain ⟨hlow, hhigh⟩ := hrange
    exact ⟨by omega, by omega⟩
  have hvalid : (upgradeEntry request row.planCode next
      (upgradeCost row.planCode next request.now ends) balance).Valid ↔
        upgradeCost row.planCode next request.now ends ≠ 0 := upgradeEntry_valid_iff hcovers
  rw [hupgrade.run_eq hrow hbalance, ← hworth, ← hvalid]
  constructor
  · rintro ⟨result, hrun⟩
    unfold purchase at hrun
    simp only [hupgrade.terms.1, if_neg (Int.not_lt.mpr hcovers), run_updateWallet,
      run_updateSubscription, run_insertLedger] at hrun
    exact hrun.2.2.1
  · intro hentry
    unfold purchase
    simp only [hupgrade.terms.1, if_neg (Int.not_lt.mpr hcovers), run_updateWallet,
      run_updateSubscription, run_insertLedger, run_insertAudit, Txn.run_commit,
      Database.setWallet, Database.setSubscription, hkey, Bool.false_eq_true, if_false]
    exact ⟨_, hleft, hfits, hentry, rfl⟩

end Commits

theorem upgrade_commits_kopeck : ∃ db,
    Reached soloEnvironment (fun _ _ ↦ True) soloDatabase db ∧
    upgradeCost .lite .plus (30 * day - 3 * minute) (30 * day) = 1 ∧
    ∃ result, (changePlan (soloUpgrade (30 * day - 3 * minute))).run db = .ok result := by
  have hrun : runSerially soloEnvironment soloLite soloDatabase = .ok _ := rfl
  have hupgrade : Upgrades (soloUpgrade (30 * day - 3 * minute)) liteRow .plus (30 * day) :=
    ⟨rfl, rfl, by decide, rfl, by decide, by decide⟩
  refine ⟨_, reached_serially _ hrun, by decide, ?_⟩
  exact (upgrade_commits_iff rfl hupgrade (show _ = some 85100 from rfl) (by decide) (by decide)
    rfl).mpr (by decide)

/-- With two minutes left the upgrade is free, and the transaction fails although the balance covers
every plan. -/
theorem upgrade_refused_near_end : ∃ db row,
    Reached soloEnvironment (fun _ _ ↦ True) soloDatabase db ∧
    db.subscriptions "user" = some row ∧
    Upgrades (soloUpgrade (30 * day - 2 * minute)) row .plus (30 * day) ∧
    db.wallets "user" = some 85100 ∧ db.ledgerKeys "plan:upgrade" = false ∧
    upgradeCost .lite .plus (30 * day - 2 * minute) (30 * day) ≤ 85100 ∧
    ¬ ∃ result, (changePlan (soloUpgrade (30 * day - 2 * minute))).run db = .ok result := by
  have hrun : runSerially soloEnvironment soloLite soloDatabase = .ok _ := rfl
  refine ⟨_, _, reached_serially _ hrun, rfl, ⟨rfl, rfl, ?_, rfl, ?_, ?_⟩, rfl, rfl, ?_, ?_⟩
  · decide
  · decide
  · decide
  · decide
  · rintro ⟨result, hresult⟩
    cases hresult

end RiseVpn.Control
