import RiseVpn.Clock

/-!
# Plans

The controller sells the plans of its `plans` table (`PlanCode`, `PlanRow`); the rows are those of
`001_initial.sql` and no code changes them. The node is sent a plan as text (`Plan`), admits by its
own table of policies (`Plan.policy`) and knows no other plan.

`policy_of_code` says that the two tables agree on the plans of the catalogue.
-/

set_option autoImplicit false

namespace RiseVpn

/-- The codes of the `plans` table. -/
inductive PlanCode
  | trial
  | lite
  | plus
  | ultra
  deriving DecidableEq

def PlanCode.text : PlanCode → String
  | .trial => "TRIAL"
  | .lite => "LITE"
  | .plus => "PLUS"
  | .ultra => "ULTRA"

/-- A row of the `plans` table. -/
structure PlanRow where
  priceKopecks : ℤ
  periodSeconds : ℤ
  deviceLimit : ℕ
  quotaBytes : ℤ
  speedBps : ℤ
  throttleBps : ℤ
  p2pAllowed : Bool

/-- The `plans` table. -/
def PlanCode.row : PlanCode → PlanRow
  | .trial => ⟨0, 259200, 1, 20000000000, 30000000, 0, false⟩
  | .lite => ⟨14900, 2592000, 1, 150000000000, 50000000, 5000000, false⟩
  | .plus => ⟨29900, 2592000, 3, 600000000000, 200000000, 10000000, true⟩
  | .ultra => ⟨49900, 2592000, 7, 2000000000000, 0, 20000000, true⟩

theorem PlanCode.row_price_pos {code : PlanCode} (h : code ≠ .trial) :
    0 < code.row.priceKopecks := by
  cases code with
  | trial => exact absurd rfl h
  | lite => decide
  | plus => decide
  | ultra => decide

theorem PlanCode.row_throttle_ne_speed {code : PlanCode} (h : code ≠ .trial) :
    code.row.speedBps ≠ code.row.throttleBps := by
  cases code with
  | trial => exact absurd rfl h
  | lite => decide
  | plus => decide
  | ultra => decide

/-- A plan as a request or a control message names it: a code of the catalogue or any other text. -/
inductive Plan
  | code (code : PlanCode)
  | other (text : String)
  deriving DecidableEq

structure PlanPolicy where
  upBps : ℤ
  downBps : ℤ
  quotaBytes : ℤ
  throttleBps : ℤ
  priority : ℤ
  p2pAllowed : Bool

def Plan.policy : Plan → Option PlanPolicy
  | .code .trial => some ⟨30000000, 30000000, 20000000000, 0, 1, false⟩
  | .code .lite => some ⟨50000000, 50000000, 150000000000, 5000000, 1, false⟩
  | .code .plus => some ⟨200000000, 200000000, 600000000000, 10000000, 2, true⟩
  | .code .ultra => some ⟨0, 0, 2000000000000, 20000000, 3, true⟩
  | .other _ => none

theorem policy_of_code (code : PlanCode) :
    ∃ policy, (Plan.code code).policy = some policy ∧
      policy.quotaBytes = code.row.quotaBytes ∧ policy.upBps = code.row.speedBps ∧
      policy.throttleBps = code.row.throttleBps ∧ policy.p2pAllowed = code.row.p2pAllowed := by
  cases code <;> exact ⟨_, rfl, rfl, rfl, rfl, rfl⟩

theorem policy_quota_lt {plan : Plan} {base : PlanPolicy} (hbase : plan.policy = some base) :
    base.quotaBytes < 2 ^ 63 := by
  cases plan with
  | code code => cases code <;> cases hbase <;> decide
  | other => cases hbase

end RiseVpn
