import RiseVpn.Control.Billing

/-!
# The arithmetic of proration

`ProrateUpgrade` charges the difference of two plans for the whole seconds that remain of a period,
of which it counts at most one period, with Go's truncating `int64` arithmetic. `prorateUpgrade_eq`
evaluates it for two plans of one duration whose differences fit (`Upgradable`): both results are
quotients rounded down, so two upgrades at one instant give what one gives or a unit less
(`ediv_split`), and a chain of them at most a unit less for each plan in between
(`upgradeAlong_within`). `proration_exact` collects what holds of every upgrade.

`Time.Sub` saturates at the largest `Duration`. The seconds are capped at the duration of a plan,
which is a `Duration` itself, so the exact difference of the two instants gives the same.
-/

set_option autoImplicit false

namespace RiseVpn.Control

/-! ### The charge in whole seconds -/

/-- The whole seconds from `now` to the end of a period that is not over. -/
def wholeSeconds (now ends : ℤ) : ℤ := (ends - now) / second

/-- Two plans of one duration of whole seconds: the second is not cheaper and not smaller, and the
differences for a full period fit an `int64`. -/
structure Upgradable (seconds : ℤ) (current next : PlanTerms) : Prop where
  seconds_pos : 1 ≤ seconds
  duration : current.duration = seconds * second
  next_duration : next.duration = current.duration
  price : current.priceKopecks ≤ next.priceKopecks
  quota : current.quotaBytes ≤ next.quotaBytes
  price_fits : (next.priceKopecks - current.priceKopecks) * seconds < 2 ^ 63
  quota_fits : (next.quotaBytes - current.quotaBytes) * seconds < 2 ^ 63

variable {seconds now ends : ℤ} {current next : PlanTerms}

theorem prorated_eq {difference period : ℤ} (hnonneg : 0 ≤ difference * seconds)
    (hfits : difference * seconds < 2 ^ 63) (hperiod : 0 < period) :
    prorated difference seconds period = difference * seconds / period := by
  have hwrap : wrap64 (difference * seconds) = difference * seconds := by
    unfold wrap64
    exact Int.bmod_eq_of_le (by omega) (by omega)
  have hshare := Int.ediv_nonneg hnonneg hperiod.le
  rw [prorated, hwrap, Int.tdiv_eq_ediv_of_nonneg hnonneg, if_neg (Int.not_lt.mpr hshare)]

theorem clamped_seconds (period : ℤ) (hrunning : now < ends) :
    (if period * second < ends - now then period * second else ends - now).tdiv second =
      min (wholeSeconds now ends) period := by
  have hsecond : (0 : ℤ) < second := second_pos
  unfold wholeSeconds
  split_ifs with hbeyond
  · have hwhole : period ≤ (ends - now) / second :=
      (Int.le_ediv_iff_mul_le hsecond).mpr hbeyond.le
    rw [Int.mul_tdiv_cancel _ hsecond.ne', min_eq_right hwhole]
  · have hwhole : (ends - now) / second ≤ period := by
      rw [← Int.mul_ediv_cancel period hsecond.ne']
      exact Int.ediv_le_ediv hsecond (Int.not_lt.mp hbeyond)
    rw [Int.tdiv_eq_ediv_of_nonneg (by omega), min_eq_left hwhole]

def proratedShare (seconds now ends difference : ℤ) : ℤ :=
  difference * min (wholeSeconds now ends) seconds / seconds

theorem counted_nonneg (hseconds : 1 ≤ seconds) (hrunning : now < ends) :
    0 ≤ min (wholeSeconds now ends) seconds :=
  le_min (Int.ediv_nonneg (by omega) second_pos.le) (by omega)

theorem counted_range {difference : ℤ} (hseconds : 1 ≤ seconds) (hrunning : now < ends)
    (hdifference : 0 ≤ difference) (hfits : difference * seconds < 2 ^ 63) :
    0 ≤ difference * min (wholeSeconds now ends) seconds ∧
      difference * min (wholeSeconds now ends) seconds < 2 ^ 63 :=
  ⟨Int.mul_nonneg hdifference (counted_nonneg hseconds hrunning),
    (Int.mul_le_mul_of_nonneg_left (min_le_right _ _) hdifference).trans_lt hfits⟩

theorem prorateUpgrade_eq (hplans : Upgradable seconds current next) (hrunning : now < ends) :
    prorateUpgrade current next now ends =
      (proratedShare seconds now ends (next.priceKopecks - current.priceKopecks),
        proratedShare seconds now ends (next.quotaBytes - current.quotaBytes)) := by
  have hseconds := hplans.seconds_pos
  have hlong : 0 < current.duration := hplans.duration ▸ Int.mul_pos (by omega) second_pos
  have hprice := counted_range hseconds hrunning (Int.sub_nonneg_of_le hplans.price)
    hplans.price_fits
  have hquota := counted_range hseconds hrunning (Int.sub_nonneg_of_le hplans.quota)
    hplans.quota_fits
  rw [prorateUpgrade, if_neg (not_or.mpr ⟨not_not_intro hrunning, hlong.not_ge⟩)]
  simp only [hplans.duration, clamped_seconds seconds hrunning,
    Int.mul_tdiv_cancel seconds second_pos.ne']
  rw [prorated_eq hprice.1 hprice.2 (by omega), prorated_eq hquota.1 hquota.2 (by omega)]
  rfl

/-! ### Bounds, time and steps -/

theorem proratedShare_bounds {difference : ℤ} (hseconds : 1 ≤ seconds) (hrunning : now < ends)
    (hdifference : 0 ≤ difference) :
    0 ≤ proratedShare seconds now ends difference ∧
      proratedShare seconds now ends difference ≤ difference := by
  have hpos : 0 < seconds := hseconds
  refine ⟨Int.ediv_nonneg (Int.mul_nonneg hdifference (counted_nonneg hseconds hrunning))
    hpos.le, ?_⟩
  calc proratedShare seconds now ends difference
      ≤ difference * seconds / seconds :=
        Int.ediv_le_ediv hpos (Int.mul_le_mul_of_nonneg_left (min_le_right _ _) hdifference)
    _ = difference := Int.mul_ediv_cancel _ hpos.ne'

theorem proratedShare_antitone {difference later : ℤ} (hseconds : 1 ≤ seconds)
    (hdifference : 0 ≤ difference) (hlater : now ≤ later) :
    proratedShare seconds later ends difference ≤ proratedShare seconds now ends difference := by
  have hcounted : min (wholeSeconds later ends) seconds ≤ min (wholeSeconds now ends) seconds :=
    min_le_min_right _ (Int.ediv_le_ediv second_pos (by omega))
  exact Int.ediv_le_ediv hseconds (Int.mul_le_mul_of_nonneg_left hcounted hdifference)

theorem proratedShare_add (hseconds : 1 ≤ seconds) (first second : ℤ) :
    proratedShare seconds now ends first + proratedShare seconds now ends second =
        proratedShare seconds now ends (first + second) ∨
      proratedShare seconds now ends first + proratedShare seconds now ends second =
        proratedShare seconds now ends (first + second) - 1 := by
  have hpos : 0 < seconds := hseconds
  unfold proratedShare
  rw [Int.add_mul]
  generalize first * min (wholeSeconds now ends) seconds = x
  generalize second * min (wholeSeconds now ends) seconds = y
  have hsum : (x + y) / seconds = x / seconds + y / seconds +
      (x % seconds + y % seconds) / seconds := by
    rw [Int.add_comm (x / seconds + y / seconds), ← Int.add_mul_ediv_left _ _ hpos.ne',
      Int.mul_add, add_add_add_comm, Int.emod_add_mul_ediv, Int.emod_add_mul_ediv]
  have hcarry : (x % seconds + y % seconds) / seconds < 2 := by
    refine (Int.ediv_lt_iff_lt_mul hpos).mpr ?_
    have := Int.emod_lt_of_pos x hpos
    have := Int.emod_lt_of_pos y hpos
    omega
  have hnonneg : 0 ≤ (x % seconds + y % seconds) / seconds :=
    Int.ediv_nonneg (Int.add_nonneg (Int.emod_nonneg _ hpos.ne') (Int.emod_nonneg _ hpos.ne'))
      hpos.le
  omega

/-- Every value that `ProrateUpgrade` computes on its way is an `int64`, and its divisor is not
zero. -/
structure Computed (current next : PlanTerms) (now ends : ℤ) : Prop where
  divisor : current.duration.tdiv second ≠ 0
  differences : Int64Range (next.priceKopecks - current.priceKopecks) ∧
    Int64Range (next.quotaBytes - current.quotaBytes)
  products : ∀ counted, counted = (if current.duration < ends - now then current.duration
      else ends - now).tdiv second →
    Int64Range ((next.priceKopecks - current.priceKopecks) * counted) ∧
      Int64Range ((next.quotaBytes - current.quotaBytes) * counted)

theorem computed_of_upgradable (hplans : Upgradable seconds current next) (hrunning : now < ends) :
    Computed current next now ends := by
  have hseconds := hplans.seconds_pos
  have hrange : ∀ difference, 0 ≤ difference → difference * seconds < 2 ^ 63 →
      Int64Range difference ∧ Int64Range (difference * min (wholeSeconds now ends) seconds) := by
    intro difference hdifference hfits
    obtain ⟨hnonneg, hlt⟩ := counted_range hseconds hrunning hdifference hfits
    have hself := Int.mul_le_mul_of_nonneg_left hseconds hdifference
    exact ⟨⟨by omega, by omega⟩, by omega, hlt⟩
  have hprice := hrange _ (Int.sub_nonneg_of_le hplans.price) hplans.price_fits
  have hquota := hrange _ (Int.sub_nonneg_of_le hplans.quota) hplans.quota_fits
  refine ⟨?_, ⟨hprice.1, hquota.1⟩, ?_⟩
  · rw [hplans.duration, Int.mul_tdiv_cancel seconds second_pos.ne']
    omega
  · rintro counted rfl
    rw [hplans.duration, clamped_seconds seconds hrunning]
    exact ⟨hprice.2, hquota.2⟩

theorem upgrade_split {middle : PlanTerms} (hfirst : Upgradable seconds current middle)
    (hsecond : Upgradable seconds middle next) (hboth : Upgradable seconds current next)
    (hrunning : now < ends) :
    let split := prorateUpgrade current middle now ends + prorateUpgrade middle next now ends
    let whole := prorateUpgrade current next now ends
    (split.1 = whole.1 ∨ split.1 = whole.1 - 1) ∧ (split.2 = whole.2 ∨ split.2 = whole.2 - 1) := by
  simp only [prorateUpgrade_eq hfirst hrunning, prorateUpgrade_eq hsecond hrunning,
    prorateUpgrade_eq hboth hrunning, Prod.mk_add_mk]
  have hadd := fun low mid high : ℤ ↦
    @proratedShare_add seconds now ends hfirst.seconds_pos (mid - low) (high - mid)
  simp only [sub_add_sub_cancel'] at hadd
  exact ⟨hadd _ _ _, hadd _ _ _⟩

def upgradeAlong (now ends : ℤ) : PlanTerms → List PlanTerms → ℤ × ℤ
  | _, [] => 0
  | current, next :: later =>
    prorateUpgrade current next now ends + upgradeAlong now ends next later

theorem upgradeAlong_within (hrunning : now < ends) {last : PlanTerms} :
    ∀ (steps : List PlanTerms) (current : PlanTerms),
      (current :: (steps ++ [last])).Pairwise (Upgradable seconds) →
      prorateUpgrade current last now ends - ((steps.length : ℤ), (steps.length : ℤ)) ≤
          upgradeAlong now ends current (steps ++ [last]) ∧
        upgradeAlong now ends current (steps ++ [last]) ≤ prorateUpgrade current last now ends := by
  intro steps
  induction steps with
  | nil => simp [upgradeAlong, Prod.le_def]
  | cons next steps ih =>
    intro current hchain
    obtain ⟨hcurrent, hrest⟩ := List.pairwise_cons.mp hchain
    have hlast : last ∈ steps ++ [last] := by simp
    obtain ⟨hprice, hquota⟩ := upgrade_split (hcurrent next List.mem_cons_self)
      ((List.pairwise_cons.mp hrest).1 last hlast)
      (hcurrent last (List.mem_cons_of_mem next hlast)) hrunning
    obtain ⟨⟨hlowPrice, hlowQuota⟩, hhighPrice, hhighQuota⟩ := ih next hrest
    simp only [Prod.fst_add, Prod.snd_add, Prod.fst_sub, Prod.snd_sub] at *
    simp only [List.cons_append, upgradeAlong, List.length_cons, Prod.le_def, Prod.fst_add,
      Prod.snd_add, Prod.fst_sub, Prod.snd_sub]
    omega

/-- Assumes: three plans of one duration that are not ordered down, and a period that is not over.
`ProrateUpgrade` neither divides by zero nor overflows, costs and grants at least nothing and at
most the difference (in the order of both components), no more later than earlier, and as much in
two steps as in one or a unit less; a chain of `k` steps saves at most `k - 1` units. The
differences of the plans of the catalogue fit. -/
theorem proration_exact {lower middle upper : PlanTerms} (hfirst : Upgradable seconds lower middle)
    (hsecond : Upgradable seconds middle upper) (hboth : Upgradable seconds lower upper)
    (hrunning : now < ends) :
    Computed lower upper now ends ∧
    (0 ≤ prorateUpgrade lower upper now ends ∧ prorateUpgrade lower upper now ends ≤
      (upper.priceKopecks - lower.priceKopecks, upper.quotaBytes - lower.quotaBytes)) ∧
    (∀ later, now ≤ later → later < ends →
      prorateUpgrade lower upper later ends ≤ prorateUpgrade lower upper now ends) ∧
    (let split := prorateUpgrade lower middle now ends + prorateUpgrade middle upper now ends
      let whole := prorateUpgrade lower upper now ends
      (split.1 = whole.1 ∨ split.1 = whole.1 - 1) ∧
        (split.2 = whole.2 ∨ split.2 = whole.2 - 1)) ∧
    (∀ (steps : List PlanTerms) (last : PlanTerms),
      (lower :: (steps ++ [last])).Pairwise (Upgradable seconds) →
      prorateUpgrade lower last now ends - ((steps.length : ℤ), (steps.length : ℤ)) ≤
          upgradeAlong now ends lower (steps ++ [last]) ∧
        upgradeAlong now ends lower (steps ++ [last]) ≤ prorateUpgrade lower last now ends) ∧
    ∀ current next : PlanCode,
      Int64Range ((next.row.priceKopecks - current.row.priceKopecks) *
        current.row.periodSeconds) ∧
      Int64Range ((next.row.quotaBytes - current.row.quotaBytes) * current.row.periodSeconds) := by
  have hseconds := hboth.seconds_pos
  have hprice := Int.sub_nonneg_of_le hboth.price
  have hquota := Int.sub_nonneg_of_le hboth.quota
  refine ⟨computed_of_upgradable hboth hrunning, ?_, fun later hlater hlaterRunning ↦ ?_,
    upgrade_split hfirst hsecond hboth hrunning,
    fun steps last ↦ upgradeAlong_within hrunning steps lower, ?_⟩
  · rw [prorateUpgrade_eq hboth hrunning]
    have hcost := proratedShare_bounds hseconds hrunning hprice
    have hgrant := proratedShare_bounds hseconds hrunning hquota
    exact ⟨⟨hcost.1, hgrant.1⟩, hcost.2, hgrant.2⟩
  · rw [prorateUpgrade_eq hboth hrunning, prorateUpgrade_eq hboth hlaterRunning]
    exact ⟨proratedShare_antitone hseconds hprice hlater,
      proratedShare_antitone hseconds hquota hlater⟩
  · intro current next
    cases current <;> cases next <;> decide

theorem proration_exact_paid :
    prorateUpgrade (planTerms .lite) (planTerms .ultra) (1296001 * second) (2592000 * second) =
      (17499, 924999286265) ∧
    prorateUpgrade (planTerms .lite) (planTerms .plus) (1296001 * second) (2592000 * second) +
      prorateUpgrade (planTerms .plus) (planTerms .ultra) (1296001 * second) (2592000 * second) =
      (17498, 924999286264) ∧
    Computed (planTerms .lite) (planTerms .ultra) (1296001 * second) (2592000 * second) := by
  refine ⟨by decide, by decide, (@proration_exact 2592000 _ _ _ (planTerms .plus) _ ?_ ?_ ?_
    (by decide)).1⟩
  all_goals exact ⟨by decide, rfl, rfl, by decide, by decide, by decide, by decide⟩

end RiseVpn.Control
