import RiseVpn.Library.KeyedTable
import RiseVpn.Library.RowLocking
import RiseVpn.Protocol

/-!
# The controller's database

The PostgreSQL tables of the controller that the modelled transactions read and write. A table whose
rows are found by their key is a function of the key, an append-only table is a list in insertion
order. The identifiers of users, devices and nodes and the owner of a device never change and stand
in the `Directory`.

Row locks are named by `LockKey`, and `view` is what each of them protects: a wallet with the ledger
of its user, the entry of the unique index on ledger keys, a subscription, a device with its quota
leases, a usage event. The command queue, the node assignments and the audit log are read and
written without locks.

`wallets_eq` and its companions read a column off equal views.
-/

set_option autoImplicit false

namespace RiseVpn.Control

open RowLocking

abbrev UserId := String

/-! ### Rows -/

/-- The `status` of a subscription. -/
inductive SubscriptionStatus
  | pendingTrial
  | active
  | grace
  | expired
  | suspended
  deriving DecidableEq

/-- A row of `subscriptions`. -/
structure Subscription where
  planCode : PlanCode
  pendingPlanCode : Option PlanCode
  status : SubscriptionStatus
  periodStartedAt : Option ℤ
  periodEndsAt : Option ℤ
  graceEndsAt : Option ℤ
  quotaBytes : ℤ
  usedBytes : ℤ

/-- A row of `ledger_entries`, without its user. -/
structure LedgerEntry where
  amountKopecks : ℤ
  balanceAfterKopecks : ℤ
  reason : String
  actorUserId : UserId
  idempotencyKey : String

/-- The columns of a row of `devices` that transactions change. `credentialHash` is the base64url
text of the column. -/
structure DeviceRow where
  credentialHash : String
  hwidHmac : Option String
  lastBoundAt : Option ℤ
  revokedAt : Option ℤ

/-- A row of `quota_leases`, without its device. -/
structure LeaseRow where
  id : String
  nodeId : NodeId
  bytes : ℤ
  consumedBytes : ℤ
  issuedAt : ℤ
  expiresAt : ℤ
  signature : String

/-- A row of `usage_events`, without its key. -/
structure UsageRow where
  deviceId : DeviceId
  rxBytes : ℤ
  txBytes : ℤ
  startedAt : ℤ
  endedAt : ℤ

/-- The `status` of a command. -/
inductive CommandStatus
  | pending
  | sent
  | acked
  | nacked
  | expired
  deriving DecidableEq

/-- A row of `node_commands`. The random `id` is a running number. -/
structure Command where
  id : ℕ
  nodeId : NodeId
  message : Message
  status : CommandStatus
  attempts : ℕ
  notBefore : ℤ
  expiresAt : ℤ
  createdAt : ℤ
  deriving DecidableEq

/-- A value in the `data` of an audit event. -/
inductive AuditValue
  | text (value : String)
  | number (value : ℤ)
  | time (value : ℤ)

/-- A row of `audit_events`. -/
structure AuditEvent where
  actorUserId : UserId
  action : String
  subjectType : String
  subjectId : String
  reason : String
  data : List (String × AuditValue)

/-! ### The database -/

/-- The identifiers of the controller: its devices with their users, and its nodes. -/
structure Directory where
  devices : List (DeviceId × UserId)
  nodes : List NodeId
  devices_nodup : (devices.map Prod.fst).Nodup

/-- `SELECT user_id FROM devices WHERE id=…`. -/
def Directory.owner (directory : Directory) (id : DeviceId) : Option UserId :=
  (KeyedTable.lookup Prod.fst id directory.devices).map Prod.snd

theorem Directory.owner_of_mem (directory : Directory) {id : DeviceId} {user : UserId}
    (hmem : (id, user) ∈ directory.devices) : directory.owner id = some user := by
  rw [Directory.owner, (KeyedTable.lookup_eq_some_iff directory.devices_nodup).mpr ⟨hmem, rfl⟩]
  rfl

def Directory.devicesOf (directory : Directory) (user : UserId) : List DeviceId :=
  (directory.devices.filter fun row ↦ row.2 = user).map Prod.fst

/-- The tables. `ledgerKeys` is the unique index of `ledger_entries(idempotency_key)`. `applied`
counts how often a usage event was added to a subscription: no column holds it, it is what billing
exactly once is about. -/
structure Database where
  wallets : UserId → Option ℤ
  ledger : UserId → List LedgerEntry
  ledgerKeys : String → Bool
  subscriptions : UserId → Option Subscription
  devices : DeviceId → Option DeviceRow
  leases : DeviceId → List LeaseRow
  usageEvents : NodeId × String → Option UsageRow
  applied : NodeId × String → ℕ
  assignments : DeviceId → Option NodeId
  commands : List Command
  audit : List AuditEvent

def Subscription.pendingTrial : Subscription where
  planCode := .trial
  pendingPlanCode := none
  status := .pendingTrial
  periodStartedAt := none
  periodEndsAt := none
  graceEndsAt := none
  quotaBytes := 0
  usedBytes := 0

/-- The database after some users have logged in for the first time and created devices: empty
wallets, pending trials, and nothing else. -/
def Database.fresh (users : List UserId) (devices : DeviceId → Option DeviceRow)
    (assignments : DeviceId → Option NodeId) : Database where
  wallets := fun user ↦ if user ∈ users then some 0 else none
  ledger := fun _ ↦ []
  ledgerKeys := fun _ ↦ false
  subscriptions := fun user ↦ if user ∈ users then some .pendingTrial else none
  devices := devices
  leases := fun _ ↦ []
  usageEvents := fun _ ↦ none
  applied := fun _ ↦ 0
  assignments := assignments
  commands := []
  audit := []

inductive LockKey
  | wallet (user : UserId)
  | ledgerKey (key : String)
  | subscription (user : UserId)
  | device (id : DeviceId)
  | usageEvent (node : NodeId) (eventId : String)
  deriving DecidableEq

inductive LockedRow
  | wallet (balance : Option ℤ) (ledger : List LedgerEntry)
  | ledgerKey (used : Bool)
  | subscription (row : Option Subscription)
  | device (row : Option DeviceRow) (leases : List LeaseRow)
  | usageEvent (row : Option UsageRow) (applied : ℕ)

def view : LockKey → Database → LockedRow
  | .wallet user, db => .wallet (db.wallets user) (db.ledger user)
  | .ledgerKey key, db => .ledgerKey (db.ledgerKeys key)
  | .subscription user, db => .subscription (db.subscriptions user)
  | .device id, db => .device (db.devices id) (db.leases id)
  | .usageEvent node eventId, db =>
    .usageEvent (db.usageEvents (node, eventId)) (db.applied (node, eventId))

/-- The outcome of a request that does not commit: a problem document or a plain error. -/
inductive Failure
  | problem (status : ℕ) (kind title detail : String)
  | error (message : String)

abbrev Program := Txn LockKey Database Failure

/-! ### Problems that several handlers answer with -/

namespace Failure

def subscriptionToken : Failure :=
  .problem 404 "subscription-token" "Ссылка подписки недействительна" ""

def termsRequired : Failure :=
  .problem 428 "terms-required" "Сначала примите соглашение" "Откройте кабинет RiseVPN."

def hwidRequired : Failure :=
  .problem 428 "hwid-required" "Нужно привязать устройство"
    "Откройте ссылку в v2RayTun, чтобы приложение передало X-HWID."

def hwidMismatch : Failure :=
  .problem 409 "hwid-mismatch" "Подписка привязана к другому устройству"
    "Запустите перепривязку в кабинете."

def trialUsed : Failure :=
  .problem 409 "trial-used" "Trial уже использован" "Выберите платный тариф."

def inactive : Failure := .problem 403 "subscription-inactive" "Подписка не активна" ""

def noRoute : Failure :=
  .problem 503 "no-route" "Сейчас нет доступного маршрута" "Попробуйте обновить подписку позже."

def provisioning : Failure :=
  .problem 503 "provisioning" "Маршрут ещё не готов" "Обновите подписку через несколько секунд."

def rebindLimit : Failure :=
  .problem 429 "rebind-limit" "Перепривязка пока недоступна"
    "Повторите через 24 часа после предыдущей привязки."

def unknownDevice : Failure := .problem 404 "device" "Устройство не найдено" ""

def unknownUser : Failure := .problem 404 "user" "Пользователь не найден" ""

def blocked : Failure :=
  .problem 401 "account-blocked" "Доступ к аккаунту ограничен" "Обратитесь в поддержку RiseVPN."

def deviceLimit : Failure :=
  .problem 409 "device-limit" "Все слоты устройств заняты" "Удалите устройство или смените тариф."

def notCredited : Failure :=
  .problem 409 "ledger" "Начисление не выполнено" "Проверьте ключ идемпотентности."

end Failure

/-! ### Equal views -/

section Views

variable {db db' : Database}

theorem wallets_eq {user : UserId} (h : view (.wallet user) db = view (.wallet user) db') :
    db.wallets user = db'.wallets user :=
  (LockedRow.wallet.inj h).1

theorem ledger_eq {user : UserId} (h : view (.wallet user) db = view (.wallet user) db') :
    db.ledger user = db'.ledger user :=
  (LockedRow.wallet.inj h).2

theorem ledgerKeys_eq {key : String} (h : view (.ledgerKey key) db = view (.ledgerKey key) db') :
    db.ledgerKeys key = db'.ledgerKeys key :=
  LockedRow.ledgerKey.inj h

theorem subscriptions_eq {user : UserId}
    (h : view (.subscription user) db = view (.subscription user) db') :
    db.subscriptions user = db'.subscriptions user :=
  LockedRow.subscription.inj h

theorem devices_eq {id : DeviceId} (h : view (.device id) db = view (.device id) db') :
    db.devices id = db'.devices id :=
  (LockedRow.device.inj h).1

theorem leases_eq {id : DeviceId} (h : view (.device id) db = view (.device id) db') :
    db.leases id = db'.leases id :=
  (LockedRow.device.inj h).2

section

variable {node : NodeId} {eventId : String}
  (h : view (.usageEvent node eventId) db = view (.usageEvent node eventId) db')

include h

theorem usageEvents_eq : db.usageEvents (node, eventId) = db'.usageEvents (node, eventId) :=
  (LockedRow.usageEvent.inj h).1

theorem applied_eq : db.applied (node, eventId) = db'.applied (node, eventId) :=
  (LockedRow.usageEvent.inj h).2

end

end Views

end RiseVpn.Control
