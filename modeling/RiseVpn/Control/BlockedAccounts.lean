import RiseVpn.Control.Admins
import RiseVpn.Control.PeriodExtensions

/-!
# Blocked accounts

The handlers and workers that queue a `device.upsert` next to `updateUserStatus`, which blocks a
user: `subscriptionDocument`, `changePlan` with `provisionUserDevices`, `renewQuotaLeases` and
`queueDeviceResync`. Each of them looks at the status of the user in its first statement. What it
queues comes later, through statements that do not look at the status again, and any number of them
run at the same time. A transaction takes effect at its commit, but the commands it queues carry the
time of its `BEGIN`, and `NodeHub.deliver` sends commands in the order of these times.

`Touches` says that a request is behind its look at the status and can still queue an upsert for a
device of the user. While the transaction of a block is open no request touches the user, and its
`BEGIN` is later than all commands queued so far: this is the condition `Undisturbed`. Then no
upsert follows until the user is active again, and the revocations are the youngest commands that
say anything about the devices: `blocked_not_provisioned`. `blocked_then_provisioned` is a run in
which a document is fetched while its user is blocked.

The rows of a query come in any order, which is an input of the step, as are clock readings, random
identifiers and what unlocked lookups answer. What `subscriptionDocument` does after the call of
`provisionDevice`, the decryption of the credential and the text of the document, writes no table
and is left out.
-/

set_option autoImplicit false

namespace RiseVpn.Control

open Threads GuardedRun

/-! ### The tables and the requests -/

/-- The database with the tables `users` and `user_roles`. `terms` are the users that have accepted
the current terms. -/
structure AccountTables where
  db : Database
  users : UserId → Option UserStatus
  roles : Finset (UserId × AdminRole)
  terms : UserId → Bool

inductive AccountThread
  | admin (thread : AdminThread)
  /-- The first query of `subscriptionDocument`. -/
  | document (device : DeviceId) (fingerprint : String)
  /-- Its transaction for a device without a hardware id. -/
  | bind (device : DeviceId) (fingerprint : String) (pendingTrial : Bool)
      (status : SubscriptionStatus) (assigned : Option NodeId)
  /-- Its choice of a node. -/
  | route (device : DeviceId) (status : SubscriptionStatus) (assigned : Option NodeId)
  /-- Its call of `provisionDevice`. -/
  | provision (device : DeviceId) (node : NodeId)
  /-- The queries of `requireSession` and `requireTerms`. -/
  | session (call : ChangePlan)
  | terms (call : ChangePlan)
  /-- The transaction of `changePlan`. -/
  | changePlan (call : ChangePlan)
  /-- The query of `provisionUserDevices`. -/
  | userDevices (user : UserId)
  /-- The query of `renewQuotaLeases`. -/
  | renew
  /-- The calls of `provisionDevice` that are left in a loop. -/
  | calls (rest : List (DeviceId × NodeId))
  /-- The query of `queueDeviceResync`. -/
  | resync (node : NodeId)
  /-- The commands that it has not inserted yet. -/
  | inserts (node : NodeId) (rest : List Message)
  | finished (answer : Except Failure Unit)

def AccountThread.refused (failure : Failure) : AccountThread := .finished (.error failure)

inductive AccountRequest
  | admin (request : AdminRequest)
  | document (device : DeviceId) (hwid : String)
  | changePlan (call : ChangePlan)
  | renewQuotaLeases
  | queueDeviceResync (node : NodeId)

/-- What a step takes from outside: clock readings, a random identifier, the node of the search for
a route, what the queries of the trial fingerprints and of a role answer, whether a statement of an
administrator fails, and the rows of a query in their order. -/
structure StepInput where
  txNow : ℤ
  now : ℤ
  uuid : String
  route : Option NodeId
  reused : Bool
  role : Option AdminRole
  failed : Bool
  rows : List (DeviceId × NodeId)
  messages : List Message

inductive AccountChange
  | transact (request : Request)
  | acceptTerms (user : UserId)

/-! ### The handlers -/

/-- The tables of the administrators. A block finds the devices that `provisionUserDevices`
finds. -/
def AccountTables.admin (directory : Directory) (tables : AccountTables) : AdminTables where
  users := tables.users
  roles := tables.roles
  assigned := fun user ↦ (provisionUserDevices directory user tables.db).map Prod.swap
  commands := []
  audit := tables.db.audit

/-- The time of the transaction that is committed. -/
def AdminThread.begun : AdminThread → ℤ
  | .updateStatus _ (.commit begun _) => begun
  | _ => 0

def AccountTables.absorb (tables : AccountTables) (begun : ℤ) (result : AdminTables) :
    AccountTables :=
  { tables with
    db := { tables.db.enqueue begun result.commands with audit := result.audit }
    users := result.users
    roles := result.roles }

/-- `users.status<>'active'`. -/
def AccountTables.blocked (tables : AccountTables) (user : UserId) : Bool :=
  tables.users user ≠ some .active

/-- The first query of `App.subscriptionDocument` and what it decides. -/
def documentQuery (directory : Directory) (tables : AccountTables) (device : DeviceId)
    (fingerprint : String) : AccountThread :=
  let unknown := .refused .subscriptionToken
  match tables.db.devices device, directory.owner device with
  | some row, some user =>
    match tables.db.subscriptions user with
    | none => unknown
    | some subscription =>
      if row.revokedAt.isSome ∨ tables.blocked user then unknown
      else if tables.terms user = false then .refused .termsRequired
      else if row.hwidHmac.getD "" = "" then
        .bind device fingerprint
          (subscription.planCode = .trial ∧ subscription.status = .pendingTrial)
          subscription.status (tables.db.assignments device)
      else if row.hwidHmac ≠ some fingerprint then .refused .hwidMismatch
      else .route device subscription.status (tables.db.assignments device)
  | _, _ => unknown

/-- The choice of a node by `App.subscriptionDocument`. An error of the assignment is ignored. -/
def documentRoute (directory : Directory) (tables : AccountTables) (device : DeviceId)
    (status : SubscriptionStatus) (assigned route : Option NodeId) :
    AccountTables × AccountThread :=
  if status ≠ .active ∧ status ≠ .grace then (tables, .refused .inactive)
  else match assigned, route with
  | some node, _ => (tables, .provision device node)
  | none, none => (tables, .refused .noRoute)
  | none, some node =>
    match (assignNode directory ⟨device, node⟩).run tables.db with
    | .error _ => (tables, .provision device node)
    | .ok db => ({ tables with db }, .provision device node)

/-- The transaction of `App.changePlan`. Only a purchase is followed by `provisionUserDevices`. -/
def purchaseStep (tables : AccountTables) (call : ChangePlan) : AccountTables × AccountThread :=
  match (changePlan call).run tables.db with
  | .error failure => (tables, .finished (.error failure))
  | .ok db =>
    if ∃ row ∈ tables.db.subscriptions call.userId, call.purchases row then
      ({ tables with db }, .userDevices call.userId)
    else ({ tables with db }, .finished (.ok ()))

/-- One call of `provisionDevice`, and what the request does after it failed or succeeded. -/
def provisionStep (environment : Environment) (tables : AccountTables) (input : StepInput)
    (device : DeviceId) (node : NodeId) (failed : Failure → AccountThread)
    (succeeded : AccountThread) : AccountTables × AccountThread :=
  match (provisionDevice environment ⟨device, node, input.txNow, input.now, input.uuid⟩).run
      tables.db with
  | .error failure => (tables, failed failure)
  | .ok db => ({ tables with db }, succeeded)

def StepInput.admin (input : StepInput) : AdminInput := ⟨input.role, input.failed, input.txNow⟩

def accountAdvance (environment : Environment) (tables : AccountTables) (thread : AccountThread)
    (input : StepInput) : Option (AccountTables × AccountThread) :=
  let directory := environment.directory
  match thread with
  | .admin thread =>
    (adminMachine.advance (tables.admin directory) thread input.admin).map fun result ↦
      (tables.absorb thread.begun result.1, .admin result.2)
  | .document device fingerprint =>
    some (tables, documentQuery directory tables device fingerprint)
  | .bind device fingerprint pendingTrial status assigned =>
    some <| match (bindDevice directory
      ⟨device, fingerprint, pendingTrial, input.reused, input.txNow, input.now⟩).run tables.db with
    | .error failure => (tables, .finished (.error failure))
    | .ok db =>
      ({ tables with db }, .route device (if pendingTrial then .active else status) assigned)
  | .route device status assigned =>
    some (documentRoute directory tables device status assigned input.route)
  | .provision device node =>
    some <| provisionStep environment tables input device node
      (fun _ ↦ .refused .provisioning) (.finished (.ok ()))
  | .session call =>
    if tables.blocked call.userId then some (tables, .refused .blocked)
    else some (tables, .terms call)
  | .terms call =>
    if tables.terms call.userId = false then
      some (tables, .refused (.problem 428 "terms-required" "Примите соглашение"
        "После этого откроются устройства и подписка."))
    else some (tables, .changePlan call)
  | .changePlan call => some (purchaseStep tables call)
  | .userDevices user =>
    if input.rows.Perm (provisionUserDevices directory user tables.db) then
      some (tables, .calls input.rows)
    else none
  | .renew =>
    if input.rows.Perm (dueForLease directory tables.blocked input.txNow tables.db) then
      some (tables, .calls input.rows)
    else none
  | .calls [] => some (tables, .finished (.ok ()))
  | .calls ((device, node) :: rest) =>
    some <| provisionStep environment tables input device node
      (fun failure ↦ .finished (.error failure)) (.calls rest)
  | .resync node =>
    if input.messages.Perm (deviceResync directory tables.blocked node tables.db) then
      some (tables, .inserts node input.messages)
    else none
  | .inserts _ [] => some (tables, .finished (.ok ()))
  | .inserts node (message :: rest) =>
    some ({ tables with db := tables.db.enqueue input.txNow [(node, message)] },
      .inserts node rest)
  | .finished _ => none

def Request.ByOthers : Request → Bool
  | .creditWallet _ | .adjustWallet _ | .subscriptionLifecycle _ | .rebindDevice _
  | .revokeCredential _ | .usage _ => true
  | .changePlan _ | .bindDevice _ | .assignNode _ | .provisionDevice _ => false

def AccountTables.change (environment : Environment) (tables : AccountTables) :
    AccountChange → Option AccountTables
  | .transact request =>
    if request.ByOthers then
      ((program environment request).run tables.db).toOption.map fun db ↦ { tables with db }
    else none
  | .acceptTerms user => some { tables with terms := Function.update tables.terms user true }

/-- The requests and workers as threads on the tables. `hwidHmac` is `Vault.HWID`. -/
def accountMachine (environment : Environment) (hwidHmac : String → String) :
    Machine AccountTables AccountRequest AccountThread StepInput AccountChange where
  enter := fun _ request ↦
    match request with
    | .admin request => .admin request.enter
    | .document device hwid =>
      if hwid = "" then .refused .hwidRequired
      else .document device (hwidHmac hwid)
    | .changePlan call => .session call
    | .renewQuotaLeases => .renew
    | .queueDeviceResync node => .resync node
  advance := accountAdvance environment
  change := AccountTables.change environment

abbrev AccountSystem := System ℕ AccountTables AccountThread

abbrev AccountEvent := Event ℕ AccountRequest StepInput AccountChange

/-! ### The property and the condition -/

/-- The request has looked at the status of the user and can still queue an upsert for a device of
the user. -/
def AccountThread.Touches (directory : Directory) (user : UserId) : AccountThread → Prop
  | .bind device _ _ _ _ | .route device _ _ | .provision device _ =>
    directory.owner device = some user
  | .terms call | .changePlan call => call.userId = user
  | .userDevices found => found = user
  | .calls rest => ∃ row ∈ rest, directory.owner row.1 = some user
  | .inserts _ rest => ∃ data, .deviceUpsert data ∈ rest ∧ directory.owner data.deviceId = some user
  | _ => False

/-- The transaction that blocks the user is open since this time. -/
def AccountThread.Blocks (user : UserId) (begun : ℤ) : AccountThread → Prop
  | .admin (.updateStatus call (.update since)) | .admin (.updateStatus call (.revoke since))
  | .admin (.updateStatus call (.commit since _)) =>
    call.user = user ∧ call.status = .blocked ∧ since = begun
  | _ => False

/-- The condition on the steps: while the transaction of a block is open no request touches the
user, and at its `BEGIN` the clock has gone on since the last command. -/
structure Undisturbed (directory : Directory) (system : AccountSystem) (event : AccountEvent)
    (_next : AccountSystem) : Prop where
  apart : ∀ slot, ∀ thread ∈ system.threads slot, ∀ user begun, thread.Blocks user begun →
    ∀ other, ∀ found ∈ system.threads other, ¬ found.Touches directory user
  timely : ∀ slot input, event = .advance slot input → ∀ call,
    system.threads slot = some (.admin (.updateStatus call .begin)) →
    ∀ command ∈ system.shared.db.commands, command.createdAt < input.txNow

/-- Commands were queued behind those of `db`, and the upserts among them are for certain
devices. -/
def Queues (allowed : DeviceId → Prop) (db result : Database) : Prop :=
  ∃ later, result.commands = db.commands ++ later ∧
    ∀ command ∈ later, ∀ data, command.message = .deviceUpsert data → allowed data.deviceId

/-- The upserts for devices of the user were created before this time. -/
def Older (directory : Directory) (user : UserId) (begun : ℤ) (db : Database) : Prop :=
  ∀ command ∈ db.commands, ∀ data, command.message = .deviceUpsert data →
    directory.owner data.deviceId = some user → command.createdAt < begun

/-- The revocation for a blocked account is younger than every upsert of the device. -/
def RevokedLast (device : DeviceId) (commands : List Command) : Prop :=
  ∃ revoke ∈ commands, revoke.message = .deviceRevoke ⟨device, "account blocked"⟩ ∧
    ∀ command ∈ commands, ∀ data, command.message = .deviceUpsert data →
      data.deviceId = device → command.createdAt < revoke.createdAt

/-! ### What is queued -/

section Queues

variable {allowed weaker : DeviceId → Prop} {db middle result : Database}
  {environment : Environment}

theorem Queues.of_eq (hsame : result.commands = db.commands) : Queues allowed db result :=
  ⟨[], by rw [hsame, List.append_nil], fun _ hnone ↦ absurd hnone List.not_mem_nil⟩

theorem Queues.mono (hqueues : Queues allowed db result)
    (hweaker : ∀ device, allowed device → weaker device) : Queues weaker db result := by
  obtain ⟨later, hlater, hupserts⟩ := hqueues
  exact ⟨later, hlater, fun command hcommand data hdata ↦
    hweaker _ (hupserts command hcommand data hdata)⟩

theorem Queues.trans (hfirst : Queues allowed db middle) (hsecond : Queues allowed middle result) :
    Queues allowed db result := by
  obtain ⟨first, hmiddle, hupserts⟩ := hfirst
  obtain ⟨second, hresult, hupserts'⟩ := hsecond
  refine ⟨first ++ second, by rw [hresult, hmiddle, List.append_assoc], ?_⟩
  intro command hcommand
  rcases List.mem_append.mp hcommand with hold | hnew
  · exact hupserts command hold
  · exact hupserts' command hnew

theorem Queues.enqueue (hqueues : Queues allowed db middle) (createdAt : ℤ)
    {rows : List (NodeId × Message)}
    (hrows : ∀ row ∈ rows, ∀ data, row.2 = .deviceUpsert data → allowed data.deviceId) :
    Queues allowed db (middle.enqueue createdAt rows) := by
  refine hqueues.trans ⟨_, rfl, fun command hcommand data hdata ↦ ?_⟩
  obtain ⟨i, hi, rfl⟩ := List.mem_mapIdx.mp hcommand
  exact hrows _ (List.getElem_mem hi) data hdata

theorem Older.of_queues {directory : Directory} {user : UserId} {begun : ℤ}
    (holder : Older directory user begun db)
    (hqueues : Queues (fun device ↦ directory.owner device ≠ some user) db result) :
    Older directory user begun result := by
  obtain ⟨later, hlater, hupserts⟩ := hqueues
  intro command hcommand data hdata howner
  rw [hlater] at hcommand
  rcases List.mem_append.mp hcommand with hold | hnew
  · exact holder command hold data hdata howner
  · exact absurd howner (hupserts command hnew data hdata)

theorem Provisioned.queues {call : ProvisionDevice}
    (hcall : Provisioned environment call db result) :
    Queues (fun device ↦ device = call.deviceId) db result := by
  cases hcall with
  | refreshed =>
    refine Queues.enqueue (.of_eq rfl) _ fun row hrow data hdata ↦ ?_
    obtain rfl := List.mem_singleton.mp hrow
    cases hdata
    rfl
  | leased =>
    apply Queues.enqueue
    · exact .of_eq rfl
    · intro row hrow data hdata
      rcases List.mem_pair.mp hrow with rfl | rfl
      · cases hdata
        rfl
      · cases hdata

theorem queues_byOthers {request : Request} (hothers : request.ByOthers = true)
    (hrun : (program environment request).run db = .ok result) : Queues allowed db result := by
  obtain ⟨later, hlater, hqueued⟩ := queued_program hrun
  refine ⟨later, hlater, fun command hcommand data hdata ↦ ?_⟩
  have hmessage := hqueued command hcommand
  rw [hdata] at hmessage
  cases hmessage
  cases hothers

theorem queues_change {tables tables' : AccountTables} {change : AccountChange}
    (hchange : tables.change environment change = some tables') :
    tables'.users = tables.users ∧ ∀ allowed, Queues allowed tables.db tables'.db := by
  cases change with
  | acceptTerms user =>
    cases hchange
    exact ⟨rfl, fun _ ↦ .of_eq rfl⟩
  | transact request =>
    obtain ⟨hothers, hmap⟩ := Option.ite_none_right_eq_some.mp hchange
    cases hrun : (program environment request).run tables.db with
    | error failure =>
      rw [hrun] at hmap
      cases hmap
    | ok db =>
      rw [hrun] at hmap
      cases hmap
      exact ⟨rfl, fun _ ↦ queues_byOthers hothers hrun⟩

/-! ### One statement -/

def revocations (rows : List (NodeId × DeviceId)) : List (NodeId × Message) :=
  rows.map fun row ↦ (row.1, .deviceRevoke ⟨row.2, "account blocked"⟩)

/-- What a step of an administrator does. It leaves the statuses and queues nothing, or commits a
status with the revocations that it has found; the transaction of a block that is open was open
before, or has just begun; and its `INSERT` finds assigned devices. -/
structure AdminAdvanced (tables : AdminTables) (thread : AdminThread) (input : AdminInput)
    (result : AdminTables × AdminThread) : Prop where
  effect : (result.1.users = tables.users ∧ result.1.commands = tables.commands) ∨
    ∃ call begun found, thread = .updateStatus call (.commit begun found) ∧
      result.1.users = Function.update tables.users call.user (some call.status) ∧
      result.1.commands = tables.commands ++ revocations found
  opened : ∀ user begun, (AccountThread.admin result.2).Blocks user begun →
    (AccountThread.admin thread).Blocks user begun ∨
      ∃ call, thread = .updateStatus call .begin ∧ input.now = begun
  finds : ∀ call begun found, result.2 = .updateStatus call (.commit begun found) →
    found ⊆ tables.assigned call.user

theorem adminAdvance_cases {tables : AdminTables} {thread : AdminThread} {input : AdminInput}
    {result : AdminTables × AdminThread}
    (hadvance : adminMachine.advance tables thread input = some result) :
    AdminAdvanced tables thread input result := by
  cases thread with
  | finished => cases hadvance
  | setRole call phase =>
    change setAdminRole tables call input phase = some result at hadvance
    cases phase <;> simp only [setAdminRole] at hadvance <;> split_ifs at hadvance
    all_goals cases hadvance
    all_goals exact ⟨.inl ⟨rfl, rfl⟩, fun _ _ ↦ False.elim, by rintro _ _ _ ⟨⟩⟩
  | removeRole call phase =>
    change removeAdminRole tables call input phase = some result at hadvance
    cases phase <;> simp only [removeAdminRole] at hadvance <;> repeat' split at hadvance
    all_goals cases hadvance
    all_goals exact ⟨.inl ⟨rfl, rfl⟩, fun _ _ ↦ False.elim, by rintro _ _ _ ⟨⟩⟩
  | updateStatus call phase =>
    change updateUserStatus tables call input phase = some result at hadvance
    cases phase <;> simp only [updateUserStatus] at hadvance <;> split_ifs at hadvance
    all_goals cases hadvance
    -- `lookup`, `begin`, `update`, `revoke` and `commit`, each with its refusal first
    iterate 3 exact ⟨.inl ⟨rfl, rfl⟩, fun _ _ ↦ False.elim, by rintro _ _ _ ⟨⟩⟩
    · exact ⟨.inl ⟨rfl, rfl⟩, fun _ _ hopen ↦ .inr ⟨call, rfl, hopen.2.2⟩, by rintro _ _ _ ⟨⟩⟩
    · exact ⟨.inl ⟨rfl, rfl⟩, fun _ _ ↦ False.elim, by rintro _ _ _ ⟨⟩⟩
    · exact ⟨.inl ⟨rfl, rfl⟩, fun _ _ ↦ .inl, by rintro _ _ _ ⟨⟩⟩
    · exact ⟨.inl ⟨rfl, rfl⟩, fun _ _ ↦ .inl, by rintro _ _ _ ⟨⟩; exact List.nil_subset _⟩
    · exact ⟨.inl ⟨rfl, rfl⟩, fun _ _ ↦ False.elim, by rintro _ _ _ ⟨⟩⟩
    · exact ⟨.inl ⟨rfl, rfl⟩, fun _ _ ↦ .inl, by rintro _ _ _ ⟨⟩; exact List.Subset.refl _⟩
    · exact ⟨.inl ⟨rfl, rfl⟩, fun _ _ ↦ False.elim, by rintro _ _ _ ⟨⟩⟩
    · exact ⟨.inr ⟨call, _, _, rfl, rfl, rfl⟩, fun _ _ ↦ False.elim, by rintro _ _ _ ⟨⟩⟩

end Queues

section Steps

variable {environment : Environment} {tables tables' : AccountTables}
  {thread thread' : AccountThread} {input : StepInput} {user : UserId} {device : DeviceId}

/-- What a statement does that is none of an administrator: it leaves the statuses, queues upserts
only for devices of users it touches, goes on to touch only users it has touched before or found
active, and is none of an administrator afterwards. -/
structure Provisions (directory : Directory) (tables : AccountTables) (thread : AccountThread)
    (tables' : AccountTables) (thread' : AccountThread) : Prop where
  users : tables'.users = tables.users
  queues : Queues (fun device ↦ ∀ user, directory.owner device = some user →
    thread.Touches directory user) tables.db tables'.db
  touches : ∀ user, thread'.Touches directory user →
    thread.Touches directory user ∨ tables.users user = some .active
  plain : ∀ inner, thread' ≠ .admin inner

theorem Provisions.finished {directory : Directory} {answer : Except Failure Unit} :
    Provisions directory tables thread tables (.finished answer) :=
  ⟨rfl, .of_eq rfl, nofun, nofun⟩

theorem not_blocked_iff : tables.blocked user = false ↔ tables.users user = some .active := by
  simp [AccountTables.blocked]

theorem provisions_documentQuery (device : DeviceId) (fingerprint : String) :
    Provisions environment.directory tables (.document device fingerprint) tables
      (documentQuery environment.directory tables device fingerprint) := by
  refine ⟨rfl, .of_eq rfl, fun user htouches ↦ .inr ?_, fun inner hadmin ↦ ?_⟩
  swap
  · unfold documentQuery at hadmin
    repeat' split at hadmin
    all_goals cases hadmin
  unfold documentQuery at htouches
  split at htouches
  · rename_i row owner _ howner
    split at htouches
    · cases htouches
    · split at htouches
      · cases htouches
      · rename_i hactive
        have hsame : environment.directory.owner device = some user := by
          repeat' split at htouches
          all_goals first | cases htouches | exact htouches
        obtain rfl := Option.mem_unique howner hsame
        rw [not_or] at hactive
        exact not_blocked_iff.mp (Bool.eq_false_of_not_eq_true hactive.2)
  · cases htouches

theorem provisions_documentRoute (device : DeviceId) (status : SubscriptionStatus)
    (assigned route : Option NodeId) :
    Provisions environment.directory tables (.route device status assigned)
      (documentRoute environment.directory tables device status assigned route).1
      (documentRoute environment.directory tables device status assigned route).2 := by
  unfold documentRoute
  split
  · exact .finished
  · split
    · exact ⟨rfl, .of_eq rfl, fun _ ↦ .inl, nofun⟩
    · exact .finished
    · split
      · exact ⟨rfl, .of_eq rfl, fun _ ↦ .inl, nofun⟩
      · rename_i hrun
        rw [run_assignNode hrun]
        exact ⟨rfl, .of_eq rfl, fun _ ↦ .inl, nofun⟩

theorem commands_changePlan {call : ChangePlan} {db result : Database}
    (hrun : (changePlan call).run db = .ok result) : result.commands = db.commands := by
  cases run_changePlan hrun <;> rfl

theorem commands_bindDevice {directory : Directory} {request : BindDevice} {db result : Database}
    (hrun : (bindDevice directory request).run db = .ok result) :
    result.commands = db.commands := by
  obtain ⟨middle, hactivated, hbound⟩ := run_bindDevice hrun
  rcases hbound with rfl | ⟨_, _, rfl⟩ <;> rcases hactivated with rfl | ⟨_, _, _, _, rfl⟩ <;> rfl

theorem provisions_purchaseStep (call : ChangePlan) :
    Provisions environment.directory tables (.changePlan call) (purchaseStep tables call).1
      (purchaseStep tables call).2 := by
  unfold purchaseStep
  split
  · exact .finished
  · rename_i hrun
    split
    · exact ⟨rfl, .of_eq (commands_changePlan hrun), fun _ ↦ .inl, nofun⟩
    · exact ⟨rfl, .of_eq (commands_changePlan hrun), nofun, nofun⟩

theorem provisions_provisionStep (node : NodeId) {failed : Failure → AccountThread}
    {succeeded : AccountThread}
    (howner : ∀ user, environment.directory.owner device = some user →
      thread.Touches environment.directory user)
    (hfailed : ∀ failure user, ¬ (failed failure).Touches environment.directory user)
    (hsucceeded : ∀ user, succeeded.Touches environment.directory user →
      thread.Touches environment.directory user)
    (hplain : ∀ inner, succeeded ≠ .admin inner ∧ ∀ failure, failed failure ≠ .admin inner) :
    Provisions environment.directory tables thread
      (provisionStep environment tables input device node failed succeeded).1
      (provisionStep environment tables input device node failed succeeded).2 := by
  unfold provisionStep
  split
  · rename_i failure _
    exact ⟨rfl, .of_eq rfl, fun user htouches ↦ absurd htouches (hfailed failure user),
      fun inner ↦ (hplain inner).2 failure⟩
  · rename_i hrun
    refine ⟨rfl, (run_provisionDevice hrun).queues.mono ?_, fun user ↦ .inl ∘ hsucceeded user,
      fun inner ↦ (hplain inner).1⟩
    rintro _ rfl
    exact howner

theorem active_of_dueForLease {txNow : ℤ} {row : DeviceId × NodeId}
    (hrow : row ∈ dueForLease environment.directory tables.blocked txNow tables.db)
    (howner : environment.directory.owner row.1 = some user) :
    tables.users user = some .active := by
  obtain ⟨⟨found, owner⟩, hfound, hselected⟩ := List.mem_filterMap.mp hrow
  unfold dueRow at hselected
  dsimp only at hselected
  split at hselected
  · obtain ⟨⟨-, hactive, -⟩, hsame⟩ := Option.ite_none_right_eq_some.mp hselected
    cases hsame
    obtain rfl := Option.mem_unique (environment.directory.owner_of_mem hfound) howner
    exact not_blocked_iff.mp hactive
  · cases hselected

theorem active_of_deviceResync {node : NodeId} {data : DeviceUpsert}
    (hdata : .deviceUpsert data ∈ deviceResync environment.directory tables.blocked node tables.db)
    (howner : environment.directory.owner data.deviceId = some user) :
    tables.users user = some .active := by
  obtain ⟨⟨found, owner⟩, hfound, hselected⟩ := List.mem_filterMap.mp hdata
  unfold resyncRow at hselected
  dsimp only at hselected
  split at hselected
  · obtain ⟨⟨-, -, hactive, -⟩, hsame⟩ := Option.ite_none_right_eq_some.mp hselected
    cases hsame
    obtain rfl := Option.mem_unique (environment.directory.owner_of_mem hfound) howner
    exact not_blocked_iff.mp hactive
  · cases hselected

theorem accountAdvance_cases
    (hadvance : accountAdvance environment tables thread input = some (tables', thread')) :
    (∃ inner result, thread = .admin inner ∧
      adminMachine.advance (tables.admin environment.directory) inner input.admin = some result ∧
      tables' = tables.absorb inner.begun result.1 ∧ thread' = .admin result.2) ∨
    Provisions environment.directory tables thread tables' thread' := by
  cases thread with
  | admin inner =>
    obtain ⟨result, hresult, hsame⟩ := Option.map_eq_some_iff.mp hadvance
    cases hsame
    exact .inl ⟨inner, result, rfl, hresult, rfl, rfl⟩
  | document device fingerprint =>
    cases hadvance
    exact .inr (provisions_documentQuery device fingerprint)
  | bind device fingerprint pendingTrial status assigned =>
    right
    simp only [accountAdvance, Option.some.injEq] at hadvance
    split at hadvance
    · cases hadvance
      exact .finished
    · rename_i hrun
      cases hadvance
      exact ⟨rfl, .of_eq (commands_bindDevice hrun), fun _ ↦ .inl, nofun⟩
  | route device status assigned =>
    obtain ⟨rfl, rfl⟩ := Prod.mk.inj (Option.some.inj hadvance)
    exact .inr (provisions_documentRoute device status assigned input.route)
  | provision device node =>
    obtain ⟨rfl, rfl⟩ := Prod.mk.inj (Option.some.inj hadvance)
    exact .inr (provisions_provisionStep node (fun _ ↦ id) (fun _ _ ↦ id) nofun
      fun _ ↦ ⟨nofun, nofun⟩)
  | session call =>
    right
    simp only [accountAdvance] at hadvance
    split_ifs at hadvance with hblocked
    · cases hadvance
      exact .finished
    · cases hadvance
      refine ⟨rfl, .of_eq rfl, ?_, nofun⟩
      rintro _ rfl
      exact .inr (not_blocked_iff.mp (Bool.eq_false_of_not_eq_true hblocked))
  | terms call =>
    right
    simp only [accountAdvance] at hadvance
    split_ifs at hadvance
    · cases hadvance
      exact .finished
    · cases hadvance
      exact ⟨rfl, .of_eq rfl, fun _ ↦ .inl, nofun⟩
  | changePlan call =>
    obtain ⟨rfl, rfl⟩ := Prod.mk.inj (Option.some.inj hadvance)
    exact .inr (provisions_purchaseStep call)
  | userDevices found =>
    obtain ⟨hrows, hsame⟩ := Option.ite_none_right_eq_some.mp hadvance
    cases hsame
    refine .inr ⟨rfl, .of_eq rfl, ?_, nofun⟩
    rintro user ⟨row, hrow, howner⟩
    have hfound := (mem_provisionUserDevices (hrows.mem_iff.mp hrow)).1
    exact .inl (Option.mem_unique hfound howner)
  | renew =>
    obtain ⟨hrows, hsame⟩ := Option.ite_none_right_eq_some.mp hadvance
    cases hsame
    refine .inr ⟨rfl, .of_eq rfl, ?_, nofun⟩
    rintro user ⟨row, hrow, howner⟩
    exact .inr (active_of_dueForLease (hrows.mem_iff.mp hrow) howner)
  | calls rest =>
    cases rest with
    | nil =>
      cases hadvance
      exact .inr .finished
    | cons row rest =>
      obtain ⟨rfl, rfl⟩ := Prod.mk.inj (Option.some.inj hadvance)
      refine .inr (provisions_provisionStep row.2 ?_ (fun _ _ ↦ id) ?_ fun _ ↦ ⟨nofun, nofun⟩)
      · exact fun user howner ↦ ⟨row, List.mem_cons_self, howner⟩
      · rintro user ⟨later, hlater, howner⟩
        exact ⟨later, List.mem_cons_of_mem _ hlater, howner⟩
  | resync node =>
    obtain ⟨hmessages, hsame⟩ := Option.ite_none_right_eq_some.mp hadvance
    cases hsame
    refine .inr ⟨rfl, .of_eq rfl, ?_, nofun⟩
    rintro user ⟨data, hdata, howner⟩
    exact .inr (active_of_deviceResync (hmessages.mem_iff.mp hdata) howner)
  | inserts node rest =>
    cases rest with
    | nil =>
      cases hadvance
      exact .inr .finished
    | cons message rest =>
      cases hadvance
      refine .inr ⟨rfl, Queues.enqueue (.of_eq rfl) _ ?_, ?_, nofun⟩
      · intro row hrow data hdata user howner
        obtain rfl := List.mem_singleton.mp hrow
        exact ⟨data, hdata ▸ List.mem_cons_self, howner⟩
      · rintro user ⟨data, hdata, howner⟩
        exact .inl ⟨data, List.mem_cons_of_mem _ hdata, howner⟩
  | finished => cases hadvance

/-! ### The run -/

variable {hwidHmac : String → String} {system next : AccountSystem} {event : AccountEvent}
  {start : AccountTables}

theorem queues_absorb {allowed : DeviceId → Prop} {inner : AdminThread} {begun : ℤ}
    {result : AdminTables × AdminThread}
    (hadvanced : AdminAdvanced (tables.admin environment.directory) inner input.admin result) :
    Queues allowed tables.db (tables.absorb begun result.1).db := by
  have hqueues : Queues allowed tables.db (tables.db.enqueue begun result.1.commands) := by
    refine Queues.enqueue (.of_eq rfl) begun fun row hrow ↦ ?_
    rcases hadvanced.effect with ⟨-, hcommands⟩ | ⟨_, _, _, -, -, hcommands⟩
    · rw [hcommands] at hrow
      cases hrow
    · rw [hcommands] at hrow
      obtain ⟨_, _, rfl⟩ := List.mem_map.mp hrow
      nofun
  exact hqueues

/-- What holds of a request in progress: the users it touches are active, the upserts for the user
it blocks are older than its transaction, and it has found devices of that user. -/
structure AccountThread.Sound (directory : Directory) (tables : AccountTables)
    (thread : AccountThread) : Prop where
  active : ∀ user, thread.Touches directory user → tables.users user = some .active
  older : ∀ user begun, thread.Blocks user begun → Older directory user begun tables.db
  finds : ∀ call begun found, thread = .admin (.updateStatus call (.commit begun found)) →
    ∀ row ∈ found, directory.owner row.2 = some call.user

theorem active_absorb {inner : AdminThread} {result : AdminTables × AdminThread} {begun : ℤ}
    (hadvanced : AdminAdvanced (tables.admin environment.directory) inner input.admin result)
    (hnot : ∀ begun, ¬ (AccountThread.admin inner).Blocks user begun)
    (hactive : tables.users user = some .active) :
    (tables.absorb begun result.1).users user = some .active := by
  change result.1.users user = some .active
  rcases hadvanced.effect with ⟨husers, -⟩ | ⟨call, _, _, rfl, husers, -⟩
  · exact husers.symm ▸ hactive
  · rw [husers]
    by_cases huser : user = call.user
    · rw [huser, Function.update_self]
      cases hcall : call.status with
      | active => rfl
      | blocked => exact absurd ⟨huser.symm, hcall, rfl⟩ (hnot _)
    · rw [Function.update_of_ne huser]
      exact hactive

theorem sound_admin {inner : AdminThread} {result : AdminTables × AdminThread} {begun : ℤ}
    (hsound : AccountThread.Sound environment.directory tables (.admin inner))
    (htimely : ∀ call, inner = .updateStatus call .begin → ∀ command ∈ tables.db.commands,
      command.createdAt < input.txNow)
    (hadvanced : AdminAdvanced (tables.admin environment.directory) inner input.admin result) :
    AccountThread.Sound environment.directory (tables.absorb begun result.1)
      (.admin result.2) := by
  refine ⟨nofun, fun user since hblocks ↦ ?_, fun call since found hsame row hrow ↦ ?_⟩
  · refine Older.of_queues ?_ (queues_absorb hadvanced)
    rcases hadvanced.opened user since hblocks with hopen | ⟨call, hbegin, rfl⟩
    · exact hsound.older user since hopen
    · exact fun command hcommand _ _ _ ↦ htimely call hbegin command hcommand
  · have hassigned := hadvanced.finds call since found (AccountThread.admin.inj hsame) hrow
    obtain ⟨device, hdevice, rfl⟩ := List.mem_map.mp hassigned
    exact (mem_provisionUserDevices hdevice).1

theorem AccountThread.sound_of_plain (hplain : ∀ inner, thread ≠ .admin inner)
    (hactive : ∀ user, thread.Touches environment.directory user →
      tables.users user = some .active) : thread.Sound environment.directory tables := by
  cases thread with
  | admin inner => exact absurd rfl (hplain inner)
  | _ => exact ⟨hactive, nofun, nofun⟩

theorem sound_of_reachable
    (hreach : ReachableUnder (accountMachine environment hwidHmac).step
      (Undisturbed environment.directory) (System.idle start) system) :
    ∀ slot thread, system.threads slot = some thread →
      thread.Sound environment.directory system.shared := by
  refine (Machine.invariant (fun _ ↦ True) (fun tables thread ↦
    thread.Sound environment.directory tables) hreach trivial ?_ ?_ ?_).2
  · intro tables request _
    cases request with
    | admin request =>
      simp only [accountMachine]
      unfold AdminRequest.enter
      repeat' split
      all_goals exact ⟨nofun, nofun, nofun⟩
    | document device hwid =>
      simp only [accountMachine]
      split_ifs <;> exact ⟨nofun, nofun, nofun⟩
    | changePlan | renewQuotaLeases | queueDeviceResync => exact ⟨nofun, nofun, nofun⟩
  · intro system slot input next thread thread' tables' _ hslot howns hcondition hadvance
    refine ⟨trivial, ?_⟩
    rcases accountAdvance_cases hadvance with
      ⟨inner, result, rfl, hadmin, rfl, rfl⟩ | hprovisions
    · have hadvanced := adminAdvance_cases hadmin
      constructor
      · refine sound_admin howns (fun call hbegin ↦ ?_) hadvanced
        exact hcondition.timely slot input rfl call (hbegin ▸ hslot)
      · intro other found hother hfound hold
        refine ⟨fun user htouches ↦ ?_, fun user begun hblocks ↦ ?_, hold.finds⟩
        · refine active_absorb hadvanced (fun begun hblocks ↦ ?_) (hold.active user htouches)
          exact hcondition.apart slot _ hslot user begun hblocks other found hfound htouches
        · exact (hold.older user begun hblocks).of_queues (queues_absorb hadvanced)
    · constructor
      · refine AccountThread.sound_of_plain hprovisions.plain fun user htouches ↦ ?_
        rw [hprovisions.users]
        exact (hprovisions.touches user htouches).elim (howns.active user) id
      · intro other found hother hfound hold
        refine ⟨?_, fun user begun hblocks ↦ ?_, hold.finds⟩
        · rw [hprovisions.users]
          exact hold.active
        · refine (hold.older user begun hblocks).of_queues (hprovisions.queues.mono ?_)
          intro device hdevice howner
          exact hcondition.apart other found hfound user begun hblocks slot thread hslot
            (hdevice user howner)
  · intro system change next tables' _ _ hchange
    refine ⟨trivial, fun slot thread _ hold ↦ ⟨?_, fun user begun hblocks ↦ ?_, hold.finds⟩⟩
    · rw [(queues_change hchange).1]
      exact hold.active
    · exact (hold.older user begun hblocks).of_queues ((queues_change hchange).2 _)

theorem queues_step
    (hsound : ∀ slot thread, system.threads slot = some thread →
      thread.Sound environment.directory system.shared)
    (hblocked : system.shared.users user = some .blocked)
    (hstep : (accountMachine environment hwidHmac).step system event = some next) :
    Queues (fun device ↦ environment.directory.owner device ≠ some user) system.shared.db
      next.shared.db := by
  rcases step_cases hstep with ⟨slot, request, rfl, -, rfl⟩ |
    ⟨slot, input, thread, tables', thread', rfl, hslot, hadvance, rfl⟩ |
    ⟨change, tables', rfl, hchange, rfl⟩
  · exact .of_eq rfl
  · rcases accountAdvance_cases hadvance with
      ⟨inner, result, rfl, hadmin, rfl, rfl⟩ | hprovisions
    · exact queues_absorb (adminAdvance_cases hadmin)
    · refine hprovisions.queues.mono fun device hdevice howner ↦ ?_
      have hfound := (hsound slot thread hslot).active user (hdevice user howner)
      cases hfound.symm.trans hblocked
  · exact (queues_change hchange).2 _

theorem revokes_of_commit {slot : ℕ} {call : UpdateStatus} {begun : ℤ}
    {found : List (NodeId × DeviceId)}
    (hslot : system.threads slot = some (.admin (.updateStatus call (.commit begun found))))
    (hblocked : call.status = .blocked) (hcommits : input.failed = false)
    (hstep : (accountMachine environment hwidHmac).step system (.advance slot input) = some next) :
    next.shared.users call.user = some .blocked ∧
      next.shared.db.commands =
        (system.shared.db.enqueue begun (revocations found)).commands := by
  rcases step_cases hstep with ⟨_, _, hevent, -⟩ |
    ⟨_, _, thread, tables', thread', hevent, hthread, hadvance, rfl⟩ | ⟨_, _, hevent, -⟩
  · cases hevent
  · cases hevent
    obtain rfl := Option.mem_unique hslot hthread
    simp only [accountMachine, accountAdvance, adminMachine, updateUserStatus, StepInput.admin,
      hcommits, Bool.false_eq_true, if_false, Option.map_some] at hadvance
    cases hadvance
    exact ⟨(Function.update_self ..).trans (congrArg some hblocked), rfl⟩
  · cases hevent

theorem revokedLast_of_queues {directory : Directory} {begun : ℤ} {db middle state : Database}
    {rows : List (NodeId × DeviceId)} {row : NodeId × DeviceId} (hrow : row ∈ rows)
    (howner : directory.owner row.2 = some user) (holder : Older directory user begun db)
    (hmiddle : middle.commands = (db.enqueue begun (revocations rows)).commands)
    (hqueues : Queues (fun device ↦ directory.owner device ≠ some user) middle state) :
    RevokedLast row.2 state.commands := by
  have hrevocations : Queues (fun device ↦ directory.owner device ≠ some user) db middle := by
    have hrows : Queues (fun device ↦ directory.owner device ≠ some user) db
        (db.enqueue begun (revocations rows)) := .enqueue (.of_eq rfl) begun fun queued hqueued ↦ by
      obtain ⟨_, _, rfl⟩ := List.mem_map.mp hqueued
      nofun
    obtain ⟨later, hlater, hupserts⟩ := hrows
    exact ⟨later, hmiddle.trans hlater, hupserts⟩
  have hfound : (row.1, Message.deviceRevoke ⟨row.2, "account blocked"⟩) ∈ revocations rows :=
    List.mem_map_of_mem hrow
  obtain ⟨i, hi, hsame⟩ := List.getElem_of_mem hfound
  have hrevoke : Database.newCommand begun (db.commands.length + i) (revocations rows)[i] ∈
      middle.commands := by
    rw [hmiddle]
    exact List.mem_append_right _ (List.mem_mapIdx.mpr ⟨i, hi, rfl⟩)
  have hyounger := holder.of_queues (hrevocations.trans hqueues)
  obtain ⟨later, hstate, -⟩ := hqueues
  refine ⟨_, hstate ▸ List.mem_append_left _ hrevoke, congrArg Prod.snd hsame, ?_⟩
  intro command hcommand data hdata hdevice
  exact hyounger command hcommand data hdata (hdevice ▸ howner)

/-- Assumes: a run whose steps are undisturbed, that commits the block of a user, and goes on while
the user stays blocked. No upsert of a device of the user is queued after the block, and for the
devices that the block has found its revocations are younger than every upsert. -/
theorem blocked_not_provisioned {slot : ℕ} {call : UpdateStatus} {begun : ℤ}
    {found : List (NodeId × DeviceId)} {before middle state : AccountSystem}
    (hreach : ReachableUnder (accountMachine environment hwidHmac).step
      (Undisturbed environment.directory) (System.idle start) before)
    (hslot : before.threads slot = some (.admin (.updateStatus call (.commit begun found))))
    (hblocked : call.status = .blocked) (hcommits : input.failed = false)
    (hcommit : (accountMachine environment hwidHmac).step before (.advance slot input) =
      some middle)
    (hcondition : Undisturbed environment.directory before (.advance slot input) middle)
    (hlater : ReachableUnder (accountMachine environment hwidHmac).step
      (fun state event next ↦ Undisturbed environment.directory state event next ∧
        next.shared.users call.user = some .blocked) middle state) :
    Queues (fun device ↦ environment.directory.owner device ≠ some call.user) middle.shared.db
      state.shared.db ∧
    ∀ row ∈ found, RevokedLast row.2 state.shared.db.commands := by
  obtain ⟨hmiddle, hcommands⟩ := revokes_of_commit hslot hblocked hcommits hcommit
  have hinvariant := hlater.invariant (fun state ↦
    ReachableUnder (accountMachine environment hwidHmac).step (Undisturbed environment.directory)
      (System.idle start) state ∧ state.shared.users call.user = some .blocked ∧
    Queues (fun device ↦ environment.directory.owner device ≠ some call.user) middle.shared.db
      state.shared.db) ⟨.next hreach hcommit hcondition, hmiddle, .of_eq rfl⟩ ?_
  · have hsound := sound_of_reachable hreach slot _ hslot
    refine ⟨hinvariant.2.2, fun row hrow ↦ ?_⟩
    exact revokedLast_of_queues hrow (hsound.finds call begun found rfl row hrow)
      (hsound.older call.user begun ⟨rfl, hblocked, rfl⟩) hcommands hinvariant.2.2
  · rintro state event next ⟨hstate, hstill, hqueues⟩ ⟨hundisturbed, hblocked'⟩ hstep
    exact ⟨.next hstate hstep hundisturbed, hblocked',
      hqueues.trans (queues_step (sound_of_reachable hstate) hstill hstep)⟩

end Steps

/-! ### Runs -/

def boundTables : AccountTables where
  db := (runSerially soloEnvironment [soloCredit 14900 "top-up", soloPurchase .lite 0 "first",
    .bindDevice ⟨"device", "fingerprint", false, false, 0, 0⟩] soloDatabase).toOption.getD
      soloDatabase
  users := fun user ↦ if user = "user" then some .active else none
  roles := ∅
  terms := fun _ ↦ true

def inputAt (now : ℤ) : StepInput := ⟨now, now, "uuid", none, false, none, false, [], []⟩

def soloBlock : AccountRequest :=
  .admin (.updateStatus "admin" "user" (some (some .blocked, "abuse")))

/-- A fetch whose first query comes before the block, and whose last transaction after it. -/
def overtaken : List AccountEvent :=
  [.start 0 (.document "device" "fingerprint"), .advance 0 (inputAt 1), .start 1 soloBlock,
    .advance 1 (inputAt 2), .advance 1 (inputAt 2), .advance 1 (inputAt 2), .advance 1 (inputAt 2),
    .advance 1 (inputAt 2), .advance 0 (inputAt 3), .advance 0 (inputAt 3)]

def overtakenSystem : AccountSystem :=
  (run (accountMachine soloEnvironment id).step (System.idle boundTables) overtaken).getD
    (System.idle boundTables)

/-- A counterexample: the first query of a fetch finds the user active, the user is blocked, and
then the fetch provisions the device. -/
theorem blocked_then_provisioned :
    run (accountMachine soloEnvironment id).step (System.idle boundTables) overtaken =
        some overtakenSystem ∧
      overtakenSystem.shared.users "user" = some .blocked ∧
      ∃ revoke upsert lease data, overtakenSystem.shared.db.commands = [revoke, upsert, lease] ∧
        revoke.message = .deviceRevoke ⟨"device", "account blocked"⟩ ∧
        upsert.message = .deviceUpsert data ∧ data.deviceId = "device" ∧ data.active = true ∧
        revoke.createdAt < upsert.createdAt := by
  refine ⟨rfl, rfl, ?_⟩
  exact ⟨_, _, _, _, rfl, rfl, rfl, rfl, rfl, by decide⟩

/-- A fetch that is over when the block comes. -/
def fetched : List AccountEvent :=
  [.start 0 (.document "device" "fingerprint"), .advance 0 (inputAt 1), .advance 0 (inputAt 1),
    .advance 0 (inputAt 1), .start 1 soloBlock, .advance 1 (inputAt 2), .advance 1 (inputAt 2),
    .advance 1 (inputAt 3), .advance 1 (inputAt 3)]

def fetchedSystem : AccountSystem :=
  (run (accountMachine soloEnvironment id).step (System.idle boundTables) fetched).getD
    (System.idle boundTables)

def blockedSystem : AccountSystem :=
  ((accountMachine soloEnvironment id).step fetchedSystem (.advance 1 (inputAt 3))).getD
    fetchedSystem

def renewedSystem : AccountSystem :=
  (run (accountMachine soloEnvironment id).step blockedSystem
    [.start 2 .renewQuotaLeases, .advance 2 (inputAt 4), .advance 2 (inputAt 4)]).getD blockedSystem

section Slots

variable {directory : Directory} {system next : AccountSystem} {event : AccountEvent}

theorem forall_threads {P : AccountThread → Prop} (hrest : ∀ slot, system.threads (slot + 3) = none)
    (hzero : ∀ thread ∈ system.threads 0, P thread) (hone : ∀ thread ∈ system.threads 1, P thread)
    (htwo : ∀ thread ∈ system.threads 2, P thread) :
    ∀ slot, ∀ thread ∈ system.threads slot, P thread
  | 0 => hzero
  | 1 => hone
  | 2 => htwo
  | slot + 3 => fun _ hthread ↦ by
    rw [hrest slot] at hthread
    cases hthread

/-- Every command is older than the time of the step. -/
def CommandsOlder (system : AccountSystem) (event : AccountEvent) : Prop :=
  ∀ slot input, event = .advance slot input →
    ∀ command ∈ system.shared.db.commands, command.createdAt < input.txNow

/-- No request blocks a user, or none touches one. -/
theorem undisturbed_of (holder : CommandsOlder system event)
    (hnone : (∀ slot, ∀ thread ∈ system.threads slot, ∀ user begun, ¬ thread.Blocks user begun) ∨
      ∀ slot, ∀ thread ∈ system.threads slot, ∀ user, ¬ thread.Touches directory user) :
    Undisturbed directory system event next where
  apart := fun slot thread hthread user begun hblocks other found hfound ↦
    hnone.elim (fun hquiet ↦ absurd hblocks (hquiet slot thread hthread user begun))
      fun huntouched ↦ huntouched other found hfound user
  timely := fun slot input hevent _ _ ↦ holder slot input hevent

end Slots

theorem blocked_not_provisioned_fetched :
    blockedSystem.shared.users "user" = some .blocked ∧
      fetchedSystem.threads 1 = some (.admin (.updateStatus ⟨"admin", "user", .blocked, "abuse"⟩
        (.commit 2 [("node", "device")]))) ∧
      (∃ upsert ∈ renewedSystem.shared.db.commands, ∃ data,
        upsert.message = .deviceUpsert data ∧ data.deviceId = "device") ∧
      RevokedLast "device" renewedSystem.shared.db.commands := by
  have hbefore : RunMeets (accountMachine soloEnvironment id).step
      (Undisturbed soloEnvironment.directory) (System.idle boundTables) fetched fetchedSystem := by
    refine ⟨_, rfl, ?_, _, rfl, ?_, _, rfl, ?_, _, rfl, ?_, _, rfl, ?_, _, rfl, ?_, _, rfl, ?_,
      _, rfl, ?_, _, rfl, ?_, rfl⟩
    -- up to its `BEGIN` the block is not open, and then the fetch has ended
    rotate_left 7
    iterate 2
      · refine undisturbed_of ?_ (.inr (forall_threads (fun _ ↦ rfl) ?_ ?_ ?_))
        · rintro _ _ ⟨⟩
          decide
        all_goals rintro _ ⟨⟩ <;> exact fun _ ↦ id
    all_goals
      refine undisturbed_of ?_ (.inl (forall_threads (fun _ ↦ rfl) ?_ ?_ ?_))
      · rintro _ _ ⟨⟩ <;> decide
      all_goals rintro _ ⟨⟩ <;> exact fun _ _ ↦ id
  have hcondition : Undisturbed soloEnvironment.directory fetchedSystem (.advance 1 (inputAt 3))
      blockedSystem := by
    refine undisturbed_of ?_ (.inr (forall_threads (fun _ ↦ rfl) ?_ ?_ ?_))
    · rintro _ _ ⟨⟩
      decide
    all_goals rintro _ ⟨⟩ <;> exact fun _ ↦ id
  have hlater : RunMeets (accountMachine soloEnvironment id).step
      (fun state event next ↦ Undisturbed soloEnvironment.directory state event next ∧
        next.shared.users "user" = some .blocked) blockedSystem
      [.start 2 .renewQuotaLeases, .advance 2 (inputAt 4), .advance 2 (inputAt 4)]
      renewedSystem := by
    refine ⟨_, rfl, ⟨?_, rfl⟩, _, rfl, ⟨?_, rfl⟩, _, rfl, ⟨?_, rfl⟩, rfl⟩
    all_goals
      refine undisturbed_of ?_ (.inl (forall_threads (fun _ ↦ rfl) ?_ ?_ ?_))
      · rintro _ _ ⟨⟩ <;> decide
      all_goals rintro _ ⟨⟩ <;> exact fun _ _ ↦ id
  have hresult := blocked_not_provisioned (reachableUnder_of_runMeets hbefore) rfl rfl rfl rfl
    hcondition (reachableUnder_of_runMeets hlater)
  refine ⟨rfl, rfl, ?_, hresult.2 ("node", "device") (List.mem_singleton_self _)⟩
  exact ⟨_, List.mem_cons_self, _, rfl, rfl⟩

end RiseVpn.Control
