import RiseVpn.Control.Statements

/-!
# The money transactions

`creditWallet` and `adjustWallet` are the administrators' transactions on a wallet, `changePlan` is
the user's renewal, downgrade, purchase or upgrade of a plan, and `subscriptionLifecycle` is the
worker that renews what can be paid, ends trials, starts grace and suspends. Each is one database
transaction, statement by statement, with the checks its handler makes before it opens one. A text
of several statements runs them in order, as the simple query protocol does.

SQL's `now()` is the start of the transaction (`txNow`), Go's `time.Now()` is read inside the
handler (`now`); both come with the request, as do the random identifiers. A statement of the
lifecycle worker that scans the subscriptions locks the rows it finds one after the other and looks
at each again once it holds the lock; which rows the scan finds, and in which order, comes with the
request (`Scan`).
-/

set_option autoImplicit false

namespace RiseVpn.Control

open RowLocking

/-! ### Wallets -/

/-- A request to `creditWallet`. The reason is trimmed already. -/
structure CreditWallet where
  actor : UserId
  userId : UserId
  amountKopecks : ℤ
  reason : String
  idempotencyKey : String
  /-- The key taken when the client sends none. -/
  uuid : String

/-- The ledger key of a credit: the client's, or a fresh one when it sends none. -/
def CreditWallet.key (request : CreditWallet) : String :=
  if request.idempotencyKey = "" then request.uuid else request.idempotencyKey

def creditWallet (request : CreditWallet) : Program :=
  if request.amountKopecks ≤ 0 ∨ request.reason.utf8ByteSize < 3 then
    .abort (.problem 400 "invalid-credit" "Укажите положительную сумму и причину" "")
  else
    let failure : Failure := .notCredited
    .select [.wallet request.userId] (fun db ↦ db.wallets request.userId) fun
    | none => .abort failure
    | some current =>
      let balance := current + request.amountKopecks
      updateWallet request.userId balance failure <|
      insertLedger request.userId
        ⟨request.amountKopecks, balance, request.reason, request.actor, request.key⟩ failure
        (.abort failure) <|
      insertAudit ⟨request.actor, "wallet.credit", "user", request.userId, request.reason,
        [("amountKopecks", .number request.amountKopecks),
          ("balanceAfterKopecks", .number balance)]⟩ .commit

/-- A request to `adjustWallet`. The roles are those the handler reads before it opens the
transaction. -/
structure AdjustWallet where
  actor : UserId
  actorRole : String
  userId : UserId
  targetRole : String
  amountKopecks : ℤ
  reason : String
  uuid : String
  amount_range : Int64Range amountKopecks

/-- `App.adjustWallet`. The new balance is a Go `int64` sum. -/
def adjustWallet (request : AdjustWallet) : Program :=
  if request.actorRole = "support" ∧ request.targetRole ≠ "" then
    .abort (.problem 403 "admin-wallet" "Support не может изменять баланс администратора" "")
  else if request.amountKopecks = 0 ∨ request.reason.utf8ByteSize < 3 then
    .abort (.problem 400 "wallet-adjustment" "Укажите ненулевую сумму и причину"
      "Списание задаётся отрицательной суммой.")
  else
    let failure : Failure := .problem 500 "ledger" "Баланс не изменён" ""
    .select [.wallet request.userId] (fun db ↦ db.wallets request.userId) fun
    | none => .abort .unknownUser
    | some current =>
      let updated := wrap64 (current + request.amountKopecks)
      if updated < 0 then
        .abort (.problem 409 "negative-balance" "Баланс не может стать отрицательным"
          "Уменьшите сумму списания.")
      else
        updateWallet request.userId updated failure <|
        insertLedger request.userId ⟨request.amountKopecks, updated, request.reason, request.actor,
          "admin-adjustment:" ++ request.uuid⟩ failure (.abort failure) <|
        insertAudit ⟨request.actor, "wallet.adjust", "user", request.userId, request.reason,
          [("amountKopecks", .number request.amountKopecks),
            ("balanceAfterKopecks", .number updated)]⟩ .commit

/-! ### Plans -/

structure PlanTerms where
  priceKopecks : ℤ
  quotaBytes : ℤ
  duration : ℤ

def planTerms (code : PlanCode) : PlanTerms :=
  ⟨code.row.priceKopecks, code.row.quotaBytes, code.row.periodSeconds * second⟩

def paidPeriod : ℤ := 30 * day

/-- A difference of two plans for the seconds that remain of a period, not below zero. -/
def prorated (difference remainingSeconds periodSeconds : ℤ) : ℤ :=
  let share := (wrap64 (difference * remainingSeconds)).tdiv periodSeconds
  if share < 0 then 0 else share

/-- `ProrateUpgrade`: the cost and the quota of the rest of a period. -/
def prorateUpgrade (current next : PlanTerms) (now periodEnd : ℤ) : ℤ × ℤ :=
  if ¬ now < periodEnd ∨ current.duration ≤ 0 then (next.priceKopecks, next.quotaBytes)
  else
    let remaining := if current.duration < periodEnd - now then current.duration
      else periodEnd - now
    let remainingSeconds := remaining.tdiv second
    let periodSeconds := current.duration.tdiv second
    (prorated (next.priceKopecks - current.priceKopecks) remainingSeconds periodSeconds,
      prorated (next.quotaBytes - current.quotaBytes) remainingSeconds periodSeconds)

/-- A request to `changePlan`. -/
structure ChangePlan where
  userId : UserId
  plan : Plan
  now : ℤ
  uuid : String

def renewedSamePlan (row : Subscription) (now : ℤ) : Subscription :=
  let base := match row.periodEndsAt with
    | some ends => if now < ends then ends else now
    | none => now
  { row with
    pendingPlanCode := none
    status := .active
    periodEndsAt := some (base + (planTerms row.planCode).duration)
    graceEndsAt := none
    quotaBytes := wrap64 (row.quotaBytes + row.planCode.row.quotaBytes) }

/-- The branch of `changePlan` that renews the plan of an active subscription. -/
def renewSamePlan (request : ChangePlan) (row : Subscription) (balance : ℤ) : Program :=
  let price := row.planCode.row.priceKopecks
  let failure : Failure := .problem 500 "billing" "Продление тарифа не выполнено" ""
  if balance < price then
    .abort (.problem 409 "balance" "Недостаточно средств"
      "Для продления нужен полный размер абонентской платы.")
  else
    let renewed := renewedSamePlan row request.now
    updateWallet request.userId (balance - price) failure <|
    updateSubscription request.userId renewed <|
    insertLedger request.userId ⟨-price, balance - price,
      "Продление тарифа " ++ row.planCode.text, request.userId, "plan-renewal:" ++ request.uuid⟩
      failure (.abort failure) <|
    insertAudit ⟨request.userId, "subscription.renew", "subscription", request.userId,
      "user request", [("plan", .text row.planCode.text), ("costKopecks", .number price),
        ("quotaBytes", .number renewed.quotaBytes),
        ("periodEndsAt", .time (renewed.periodEndsAt.getD 0))]⟩ .commit

/-- The branch of `changePlan` that schedules a cheaper plan. -/
def scheduleDowngrade (request : ChangePlan) (row : Subscription) (next : PlanCode) : Program :=
  updateSubscription request.userId { row with pendingPlanCode := some next } <|
  insertAudit ⟨request.userId, "subscription.downgrade", "subscription", request.userId,
    "user request", [("from", .text row.planCode.text), ("to", .text next.text)]⟩ .commit

structure PurchaseTerms where
  cost : ℤ
  quota : ℤ
  periodStart : ℤ
  periodEnd : ℤ

/-- The terms of the purchase branch of `changePlan`: those of a new paid period, or of an upgrade
inside the running period of a paid plan. -/
def purchaseTerms (row : Subscription) (next : PlanCode) (now : ℤ) : PurchaseTerms :=
  let fresh : PurchaseTerms := ⟨next.row.priceKopecks, next.row.quotaBytes, now, now + paidPeriod⟩
  match row.periodEndsAt with
  | none => fresh
  | some ends =>
    if row.status = .active ∧ row.planCode ≠ .trial then
      let share := prorateUpgrade (planTerms row.planCode) (planTerms next) now ends
      ⟨share.1, wrap64 (row.quotaBytes + share.2), row.periodStartedAt.getD now, ends⟩
    else fresh

def purchasedRow (row : Subscription) (next : PlanCode) (terms : PurchaseTerms) : Subscription where
  planCode := next
  pendingPlanCode := none
  status := .active
  periodStartedAt := some terms.periodStart
  periodEndsAt := some terms.periodEnd
  graceEndsAt := none
  quotaBytes := terms.quota
  usedBytes := if row.planCode = .trial then 0 else row.usedBytes

/-- The branch of `changePlan` that buys a plan or upgrades to it. -/
def purchase (request : ChangePlan) (row : Subscription) (balance : ℤ) (next : PlanCode) :
    Program :=
  let terms := purchaseTerms row next request.now
  let failure : Failure := .problem 500 "billing" "Смена тарифа не выполнена" ""
  if balance < terms.cost then
    .abort (.problem 409 "balance" "Недостаточно средств" "Пополните баланс через поддержку.")
  else
    updateWallet request.userId (balance - terms.cost) failure <|
    updateSubscription request.userId (purchasedRow row next terms) <|
    insertLedger request.userId ⟨-terms.cost, balance - terms.cost,
      "Смена тарифа " ++ row.planCode.text ++ " → " ++ next.text, request.userId,
      "plan:" ++ request.uuid⟩ failure (.abort failure) <|
    insertAudit ⟨request.userId, "subscription.upgrade", "subscription", request.userId,
      "user request", [("from", .text row.planCode.text), ("to", .text next.text),
        ("costKopecks", .number terms.cost), ("quotaBytes", .number terms.quota)]⟩ .commit

def changePlan (request : ChangePlan) : Program :=
  if request.plan = .other "" ∨ request.plan = .code .trial then
    .abort (.problem 400 "plan" "Выберите платный тариф" "")
  else
    .select [.subscription request.userId, .wallet request.userId]
      (fun db ↦ (db.subscriptions request.userId, db.wallets request.userId)) fun
    | (some row, some balance) =>
      match request.plan with
      | .other _ => .abort (.problem 400 "plan" "Тариф не найден" "")
      | .code next =>
        if next = row.planCode ∧ row.planCode ≠ .trial ∧ row.status = .active then
          renewSamePlan request row balance
        else if next.row.priceKopecks < row.planCode.row.priceKopecks ∧ row.status = .active then
          scheduleDowngrade request row next
        else purchase request row balance next
    | _ => .abort (.problem 404 "subscription" "Подписка не найдена" "")

/-! ### The lifecycle worker -/

/-- The rows a scan finds, in the order it locks them; it finds a row at most once. -/
structure Scan where
  users : List UserId
  nodup : users.Nodup

/-- A run of `subscriptionLifecycle`: the start of its transaction and the rows its four scans of
`subscriptions` find. -/
structure SubscriptionLifecycle where
  txNow : ℤ
  renewals : Scan
  trials : Scan
  graces : Scan
  suspensions : Scan

/-- `extract(epoch from t)::bigint`, which rounds to the nearest second. -/
def epoch (t : ℤ) : ℤ := (t + second / 2) / second

def renewalKey (user : UserId) (periodEndsAt : ℤ) : String :=
  "renew:" ++ user ++ ":" ++ toString (epoch periodEndsAt)

def Subscription.targetPlan (row : Subscription) : PlanCode := row.pendingPlanCode.getD row.planCode

/-- The end of the period is set and not after `now`. -/
def Subscription.EndedBy (row : Subscription) (now : ℤ) : Prop :=
  ∃ ends ∈ row.periodEndsAt, ends ≤ now
  deriving Decidable

/-- The `WHERE` of the renewal: a paid active subscription past its end that the wallet can pay. -/
def DueForRenewal (txNow : ℤ) (row : Subscription) (balance : ℤ) : Prop :=
  row.planCode ≠ .trial ∧ row.status = .active ∧ row.EndedBy txNow ∧
    row.targetPlan.row.priceKopecks ≤ balance
  deriving Decidable

/-- The row an automatic renewal leaves: the new period starts where the old one ended. -/
def autoRenewed (row : Subscription) : Subscription where
  planCode := row.targetPlan
  pendingPlanCode := none
  status := .active
  periodStartedAt := row.periodEndsAt
  periodEndsAt := row.periodEndsAt.map fun ends ↦ ends + 30 * day
  graceEndsAt := none
  quotaBytes := row.targetPlan.row.quotaBytes
  usedBytes := 0

def renewalEntry (user : UserId) (row : Subscription) (balance : ℤ) : LedgerEntry where
  amountKopecks := -row.targetPlan.row.priceKopecks
  balanceAfterKopecks := balance - row.targetPlan.row.priceKopecks
  reason := "Автопродление " ++ row.targetPlan.text
  actorUserId := user
  idempotencyKey := renewalKey user (row.periodEndsAt.getD 0)

def workerFailure : Failure := .error "subscription lifecycle statement failed"

/-- The renewal of one row. The wallet is debited and the subscription renewed whether or not the
ledger key is taken: `ON CONFLICT(idempotency_key) DO NOTHING` only leaves the entry out. -/
def renewRow (txNow : ℤ) (user : UserId) (rest : Program) : Program :=
  .select [.subscription user, .wallet user] (fun db ↦ (db.subscriptions user, db.wallets user)) fun
  | (some row, some balance) =>
    if DueForRenewal txNow row balance then
      updateWallet user (balance - row.targetPlan.row.priceKopecks) workerFailure <|
      updateSubscription user (autoRenewed row) <|
      insertLedger user (renewalEntry user row balance) workerFailure rest rest
    else rest
  | _ => rest

/-- `UPDATE subscriptions SET … WHERE …` on one row. -/
def updateRow (due : Subscription → Bool) (change : Subscription → Subscription) (user : UserId)
    (rest : Program) : Program :=
  .select [.subscription user] (fun db ↦ db.subscriptions user) fun
  | some row => if due row then updateSubscription user (change row) rest else rest
  | none => rest

def trialEnded (txNow : ℤ) (row : Subscription) : Bool :=
  row.planCode = .trial ∧ row.status = .active ∧ row.EndedBy txNow

def paidEnded (txNow : ℤ) (row : Subscription) : Bool :=
  row.planCode ≠ .trial ∧ row.status = .active ∧ row.EndedBy txNow

def graceEnded (txNow : ℤ) (row : Subscription) : Bool :=
  row.status = .grace ∧ ∃ ends ∈ row.graceEndsAt, ends ≤ txNow

def graceOverrides (directory : Directory) (txNow : ℤ) (db : Database) : List (NodeId × Message) :=
  directory.devices.filterMap fun (device, user) ↦
    match db.subscriptions user, db.assignments device with
    | some row, some node =>
      match row.graceEndsAt with
      | some ends =>
        if row.status = .grace ∧ txNow + (23 * hour + 58 * minute) < ends then
          some (node, .policyOverride ⟨device, 1000000, 1000000, false, ends⟩)
        else none
      | none => none
    | _, _ => none

def endedKicks (directory : Directory) (txNow : ℤ) (db : Database) : List (NodeId × Message) :=
  directory.devices.filterMap fun (device, user) ↦
    match db.subscriptions user, db.assignments device with
    | some row, some node =>
      match row.graceEndsAt.or row.periodEndsAt with
      | some ended =>
        if (row.status = .expired ∨ row.status = .suspended) ∧ txNow - 2 * minute < ended ∧
            noKickPending db node device then
          some (node, .sessionKick ⟨device, "subscription ended"⟩)
        else none
      | none => none
    | _, _ => none

def subscriptionLifecycle (directory : Directory) (request : SubscriptionLifecycle) : Program :=
  let txNow := request.txNow
  forEach (renewRow txNow) request.renewals.users <|
  forEach (updateRow (trialEnded txNow) fun row ↦ { row with status := .expired })
    request.trials.users <|
  forEach (updateRow (paidEnded txNow) fun row ↦
    { row with status := .grace, graceEndsAt := some (txNow + 24 * hour) }) request.graces.users <|
  forEach (updateRow (graceEnded txNow) fun row ↦ { row with status := .suspended })
    request.suspensions.users <|
  insertCommands txNow (graceOverrides directory txNow) <|
  insertCommands txNow (endedKicks directory txNow) .commit

end RiseVpn.Control
