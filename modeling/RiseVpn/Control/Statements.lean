import RiseVpn.Control.Database

/-!
# The statements of the controller's transactions

Each write of a transaction is a function on the database (`Database.setWallet`, `Database.post` and
so on) and each statement a builder that locks the rows it needs, checks the constraints of its
table and goes on. A statement with a lock the transaction already holds takes nothing new.

`writes_setWallet` and its companions say behind which locks each write stands, `local_updateWallet`
and its companions that the statements are local, and `run_updateWallet` and its companions what a
statement does in a transaction that runs alone and succeeds.
-/

set_option autoImplicit false

namespace RiseVpn.Control

open RowLocking

/-! ### Writes -/

namespace Database

def setWallet (user : UserId) (balance : ℤ) (db : Database) : Database :=
  { db with wallets := Function.update db.wallets user (some balance) }

def post (user : UserId) (entry : LedgerEntry) (db : Database) : Database :=
  { db with
    ledger := Function.update db.ledger user (db.ledger user ++ [entry])
    ledgerKeys := Function.update db.ledgerKeys entry.idempotencyKey true }

def setSubscription (user : UserId) (row : Subscription) (db : Database) : Database :=
  { db with subscriptions := Function.update db.subscriptions user (some row) }

def setDevice (id : DeviceId) (row : DeviceRow) (db : Database) : Database :=
  { db with devices := Function.update db.devices id (some row) }

def setLeases (id : DeviceId) (rows : List LeaseRow) (db : Database) : Database :=
  { db with leases := Function.update db.leases id rows }

def insertUsage (node : NodeId) (eventId : String) (row : UsageRow) (db : Database) : Database :=
  { db with usageEvents := Function.update db.usageEvents (node, eventId) (some row) }

def bill (node : NodeId) (eventId : String) (user : UserId) (row : Subscription) (db : Database) :
    Database :=
  { db with
    subscriptions := Function.update db.subscriptions user (some row)
    applied := Function.update db.applied (node, eventId) (db.applied (node, eventId) + 1) }

/-- The row of a command created at `createdAt`, which expires after 24 hours. -/
def newCommand (createdAt : ℤ) (id : ℕ) (row : NodeId × Message) : Command where
  id := id
  nodeId := row.1
  message := row.2
  status := .pending
  attempts := 0
  notBefore := createdAt
  expiresAt := createdAt + 24 * hour
  createdAt := createdAt

def enqueue (createdAt : ℤ) (rows : List (NodeId × Message)) (db : Database) : Database :=
  { db with
    commands := db.commands ++ rows.mapIdx fun i ↦ newCommand createdAt (db.commands.length + i) }

def assign (id : DeviceId) (node : NodeId) (db : Database) : Database :=
  { db with assignments := Function.update db.assignments id (some node) }

def record (event : AuditEvent) (db : Database) : Database :=
  { db with audit := db.audit ++ [event] }

@[simp] theorem leases_enqueue (createdAt : ℤ) (rows : List (NodeId × Message)) (db : Database) :
    (db.enqueue createdAt rows).leases = db.leases := rfl

@[simp] theorem leases_setLeases (id : DeviceId) (rows : List LeaseRow) (db : Database) :
    (db.setLeases id rows).leases id = rows := Function.update_self _ _ _

theorem leases_setLeases_of_ne {id other : DeviceId} (hother : other ≠ id) (rows : List LeaseRow)
    (db : Database) : (db.setLeases id rows).leases other = db.leases other :=
  Function.update_of_ne hother _ _

end Database

/-! ### What a write changes -/

section Writes

variable {user : UserId} {id : DeviceId} {node : NodeId} {eventId : String}

theorem writes_setWallet (balance : ℤ) :
    Writes view [.wallet user] (Database.setWallet user balance) := by
  constructor
  · intro key hkey db db' hview
    rw [List.mem_singleton.mp hkey] at hview ⊢
    simp [view, Database.setWallet, ledger_eq hview]
  · intro key hkey db
    cases key <;> simp_all [view, Database.setWallet]

theorem writes_post (entry : LedgerEntry) :
    Writes view [.wallet user, .ledgerKey entry.idempotencyKey] (Database.post user entry) := by
  constructor
  · intro key hkey db db' hview
    rcases List.mem_pair.mp hkey with rfl | rfl
    · simp [view, Database.post, wallets_eq hview, ledger_eq hview]
    · simp [view, Database.post]
  · intro key hkey db
    cases key <;> simp_all [view, Database.post]

theorem writes_setSubscription (row : Subscription) :
    Writes view [.subscription user] (Database.setSubscription user row) := by
  constructor
  · intro key hkey db db' hview
    rw [List.mem_singleton.mp hkey]
    simp [view, Database.setSubscription]
  · intro key hkey db
    cases key <;> simp_all [view, Database.setSubscription]

theorem writes_setDevice (row : DeviceRow) :
    Writes view [.device id] (Database.setDevice id row) := by
  constructor
  · intro key hkey db db' hview
    rw [List.mem_singleton.mp hkey] at hview ⊢
    simp [view, Database.setDevice, leases_eq hview]
  · intro key hkey db
    cases key <;> simp_all [view, Database.setDevice]

theorem writes_setLeases (rows : List LeaseRow) :
    Writes view [.device id] (Database.setLeases id rows) := by
  constructor
  · intro key hkey db db' hview
    rw [List.mem_singleton.mp hkey] at hview ⊢
    simp [view, Database.setLeases, devices_eq hview]
  · intro key hkey db
    cases key <;> simp_all [view, Database.setLeases]

theorem writes_insertUsage (row : UsageRow) :
    Writes view [.usageEvent node eventId] (Database.insertUsage node eventId row) := by
  constructor
  · intro key hkey db db' hview
    rw [List.mem_singleton.mp hkey] at hview ⊢
    simp [view, Database.insertUsage, applied_eq hview]
  · intro key hkey db
    cases key <;> simp_all [view, Database.insertUsage]

theorem writes_bill (row : Subscription) :
    Writes view [.usageEvent node eventId, .subscription user]
      (Database.bill node eventId user row) := by
  constructor
  · intro key hkey db db' hview
    rcases List.mem_pair.mp hkey with rfl | rfl
    · simp [view, Database.bill, usageEvents_eq hview, applied_eq hview]
    · simp [view, Database.bill]
  · intro key hkey db
    cases key <;> simp_all [view, Database.bill]

end Writes

theorem view_enqueue (createdAt : ℤ) (key : LockKey) (rows : List (NodeId × Message))
    (db : Database) : view key (db.enqueue createdAt rows) = view key db := by
  cases key <;> rfl

theorem view_assign (id : DeviceId) (node : NodeId) (key : LockKey) (db : Database) :
    view key (db.assign id node) = view key db := by
  cases key <;> rfl

theorem view_record (event : AuditEvent) (key : LockKey) (db : Database) :
    view key (db.record event) = view key db := by
  cases key <;> rfl

/-! ### Statements -/

/-- `UPDATE wallets SET balance_kopecks=…`, with its `CHECK` and the range of the column. -/
def updateWallet (user : UserId) (balance : ℤ) (failure : Failure) (rest : Program) : Program :=
  if 0 ≤ balance ∧ Int64Range balance then
    .update [.wallet user] (Database.setWallet user balance) rest
  else .abort failure

/-- The `CHECK` constraints of `ledger_entries`. -/
def LedgerEntry.Valid (entry : LedgerEntry) : Prop :=
  entry.amountKopecks ≠ 0 ∧ 0 ≤ entry.balanceAfterKopecks ∧ 3 ≤ entry.reason.length
  deriving Decidable

/-- `INSERT INTO ledger_entries`. It waits for a transaction that inserts the same key and goes on
with `conflict` when the key is taken. -/
def insertLedger (user : UserId) (entry : LedgerEntry) (failure : Failure)
    (conflict rest : Program) : Program :=
  if entry.Valid then
    .select [.ledgerKey entry.idempotencyKey] (fun db ↦ db.ledgerKeys entry.idempotencyKey)
      fun used ↦
        if used then conflict
        else .update [.wallet user, .ledgerKey entry.idempotencyKey] (Database.post user entry) rest
  else .abort failure

/-- `UPDATE subscriptions SET …`, to the row `row`. -/
def updateSubscription (user : UserId) (row : Subscription) (rest : Program) : Program :=
  .update [.subscription user] (Database.setSubscription user row) rest

/-- `INSERT INTO node_commands`, with rows that may be selected from other tables. -/
def insertCommands (createdAt : ℤ) (rows : Database → List (NodeId × Message)) (rest : Program) :
    Program :=
  .append (fun seen ↦ Database.enqueue createdAt (rows seen)) rest

/-- No `session.kick` of the device is on its way to the node. -/
def noKickPending (db : Database) (node : NodeId) (device : DeviceId) : Bool :=
  db.commands.all fun command ↦
    match command.message with
    | .sessionKick data => command.nodeId ≠ node ∨ data.deviceId ≠ device ∨
        (command.status ≠ .pending ∧ command.status ≠ .sent)
    | _ => true

/-- `INSERT INTO audit_events`. -/
def insertAudit (event : AuditEvent) (rest : Program) : Program :=
  .append (fun _ ↦ Database.record event) rest

/-- The statements of a loop, or of a scan that locks one row after the other. -/
def forEach {Item : Type*} (visit : Item → Program → Program) (items : List Item) (rest : Program) :
    Program :=
  items.foldr visit rest

section Locality

variable {held : List LockKey} {user : UserId} {rest conflict : Program}

theorem local_updateWallet {balance : ℤ} {failure : Failure}
    (hrest : ∀ more, Local view more rest) :
    Local view held (updateWallet user balance failure rest) := by
  unfold updateWallet
  split_ifs
  · exact local_update (writes_setWallet balance) (hrest _)
  · trivial

theorem local_insertLedger {entry : LedgerEntry} {failure : Failure}
    (hconflict : ∀ more, Local view more conflict) (hrest : ∀ more, Local view more rest) :
    Local view held (insertLedger user entry failure conflict rest) := by
  unfold insertLedger
  split_ifs
  · refine local_select (fun db db' hagree ↦ ledgerKeys_eq (hagree _ (List.mem_singleton_self _)))
      fun used ↦ ?_
    cases used with
    | true => exact hconflict _
    | false => exact local_update (writes_post entry) (hrest _)
  · trivial

theorem local_updateSubscription {row : Subscription} (hrest : ∀ more, Local view more rest) :
    Local view held (updateSubscription user row rest) :=
  local_update (writes_setSubscription row) (hrest _)

theorem local_insertCommands {createdAt : ℤ} {rows : Database → List (NodeId × Message)}
    (hrest : ∀ more, Local view more rest) :
    Local view held (insertCommands createdAt rows rest) :=
  local_append (fun seen key db ↦ view_enqueue createdAt key (rows seen) db) (hrest _)

theorem local_insertAudit {event : AuditEvent} (hrest : ∀ more, Local view more rest) :
    Local view held (insertAudit event rest) :=
  local_append (fun _ key db ↦ view_record event key db) (hrest _)

end Locality

section Run

variable {user : UserId} {rest conflict : Program} {db result : Database}

theorem run_updateWallet {balance : ℤ} {failure : Failure} :
    (updateWallet user balance failure rest).run db = .ok result ↔
      0 ≤ balance ∧ Int64Range balance ∧ rest.run (db.setWallet user balance) = .ok result := by
  unfold updateWallet
  by_cases hcheck : 0 ≤ balance ∧ Int64Range balance
  · simp [hcheck]
  · rw [if_neg hcheck, Txn.run_abort, ← and_assoc]
    simp [hcheck]

theorem run_insertLedger {entry : LedgerEntry} {failure : Failure} :
    (insertLedger user entry failure conflict rest).run db = .ok result ↔
      entry.Valid ∧ if db.ledgerKeys entry.idempotencyKey = true then conflict.run db = .ok result
        else rest.run (db.post user entry) = .ok result := by
  unfold insertLedger
  by_cases hcheck : entry.Valid
  · cases hused : db.ledgerKeys entry.idempotencyKey <;> simp [hcheck, hused]
  · simp [hcheck]

@[simp] theorem run_updateSubscription {row : Subscription} :
    (updateSubscription user row rest).run db = rest.run (db.setSubscription user row) := rfl

@[simp] theorem run_insertCommands {createdAt : ℤ} {rows : Database → List (NodeId × Message)} :
    (insertCommands createdAt rows rest).run db = rest.run (db.enqueue createdAt (rows db)) := rfl

@[simp] theorem run_insertAudit {event : AuditEvent} :
    (insertAudit event rest).run db = rest.run (db.record event) := rfl

end Run

end RiseVpn.Control
