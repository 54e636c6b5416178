import RiseVpn.Control.Admins
import RiseVpn.Control.PeriodExtensions
import RiseVpn.Fleet.CertificateRotation
import RiseVpn.Library.FallibleStatements

/-!
# Audit records of administrative operations

The seven operations of an administrator that change `users`, `wallets`, `user_roles`,
`node_commands` or `nodes`, with every statement and the call to the node as a point of failure
(`AdminPoint`). A constraint that refuses a statement is a failure as well, and a report may be lost
after the statement was executed.

`updateUserStatus`, `adjustWallet`, `creditWallet` and `setAdminRole` insert their audit event in
the transaction of the effect, so it is there whenever the effect is. `removeAdminRole` and
`enqueueCommand` insert it in a statement after the one with the effect, and `enrollNode` after the
call to the node as well; `removeAdminRole` and `enrollNode` do not even look at its outcome.
`AuditSure` is the condition on the failures that keeps the rule for these three, `audited_iff` says
that it is exact, and `role_removed_without_audit` is a run outside it.

Commands are taken with their decoded payload, and of a node the columns that enrollment and
rotation use.
-/

set_option autoImplicit false

namespace RiseVpn.Fleet

open Control FallibleStatements

/-! ### The tables -/

/-- A row of `nodes`, with the columns an enrollment writes. -/
structure EnrolledNode extends NodeRow where
  domain : String
  agentVersion : String
  protocolVersion : ℕ
  deriving DecidableEq

/-- The database with the tables `users`, `user_roles` and `nodes`, and the column `provisioned_at`
of `node_assignments`. -/
structure OfficeDatabase where
  db : Database
  users : UserId → Option UserStatus
  roles : Finset (UserId × AdminRole)
  nodes : NodeId → Option EnrolledNode
  provisionedAt : DeviceId → Option ℤ

def officePart : Part OfficeDatabase Database where
  get := OfficeDatabase.db
  put := fun db office ↦ { office with db }
  get_put := fun _ _ ↦ rfl
  put_get := fun _ ↦ rfl
  put_put := fun _ _ _ ↦ rfl

/-- What `SELECT role FROM user_roles WHERE user_id=… LIMIT 1` answers: a role of the user, which
one is not said. -/
structure RoleLookup where
  answer : Finset (UserId × AdminRole) → UserId → Option AdminRole
  mem : ∀ roles user role, answer roles user = some role → (user, role) ∈ roles

namespace OfficeDatabase

/-- `INSERT INTO audit_events`. -/
def record (event : AuditEvent) (office : OfficeDatabase) : OfficeDatabase :=
  { office with db := office.db.record event }

/-- `UPDATE users SET status=…`. -/
def setStatus (user : UserId) (status : UserStatus) (office : OfficeDatabase) : OfficeDatabase :=
  { office with
    users := if office.users user = none then office.users
      else Function.update office.users user (some status) }

/-- `INSERT INTO node_commands`. -/
def enqueue (createdAt : ℤ) (rows : List (NodeId × Message)) (office : OfficeDatabase) :
    OfficeDatabase :=
  { office with db := office.db.enqueue createdAt rows }

def revocations (directory : Directory) (user : UserId) (office : OfficeDatabase) :
    List (NodeId × Message) :=
  (provisionUserDevices directory user office.db).map fun row ↦
    (row.2, .deviceRevoke ⟨row.1, "account blocked"⟩)

/-- `UPDATE node_assignments SET provisioned_at=NULL` for the devices of a user. -/
def unprovision (directory : Directory) (user : UserId) (office : OfficeDatabase) :
    OfficeDatabase :=
  { office with
    provisionedAt := fun device ↦
      if directory.owner device = some user then none else office.provisionedAt device }

/-- `DELETE FROM user_roles WHERE user_id=…`. -/
def deleteRoles (user : UserId) (office : OfficeDatabase) : OfficeDatabase :=
  { office with roles := office.roles.filter fun row ↦ row.1 ≠ user }

/-- `INSERT INTO user_roles`. -/
def insertRole (user : UserId) (role : AdminRole) (office : OfficeDatabase) : OfficeDatabase :=
  { office with roles := insert (user, role) office.roles }

/-- `SELECT count(*) FROM user_roles WHERE role='owner'`. -/
def owners (office : OfficeDatabase) : ℕ := (office.roles.filter fun row ↦ row.2 = .owner).card

end OfficeDatabase

/-! ### The operations -/

/-- The statements of the operations, and the call of `enrollNode` to the node. -/
inductive AdminPoint
  | exists
  | lookup
  | count
  | opening
  | update
  | commands
  | assignments
  | delete
  | insert
  | wallet (number : ℕ)
  | audit
  | commit
  | claim
  deriving DecidableEq

abbrev AdminHandler := Handler AdminPoint OfficeDatabase (Except Failure Unit)

structure NodeBundle where
  nodeId : NodeId
  domain : String
  agentVersion : String
  nodePublicKey : String

/-- A request to `enrollNode`, with what the handler finds out before its first statement. -/
structure EnrollNode where
  actor : UserId
  hasIssuer : Bool
  /-- The body as `decodeBundle` reads it; absent when it is no JSON. -/
  bundle : Option (Except String NodeBundle)
  /-- The public key of the bundle decodes to a key. -/
  keyValid : Bool
  /-- The serial number and the end of the certificate that is issued. -/
  certificate : Option (ℕ × ℤ)
  hasComplianceKey : Bool
  hasQuotaKey : Bool
  /-- The text of the error of the call to the node, if it fails. -/
  claimError : String

/-- An administrative operation with its decoded body, which is absent when decoding fails. A role
or status that the handler does not know is absent as well. Reasons are trimmed already. -/
inductive AdminOperation
  | updateUserStatus (actor user : UserId) (body : Option (Option UserStatus × String))
  | adjustWallet (request : AdjustWallet)
  | creditWallet (request : CreditWallet)
  | setAdminRole (actor user : UserId) (body : Option (Option AdminRole × String))
  | removeAdminRole (actor user : UserId) (reason : Option String)
  | enqueueCommand (actor : UserId) (node : NodeId) (body : Option (Message × String))
  | enrollNode (request : EnrollNode)

namespace Office

def refuse (status : ℕ) (kind title detail : String) : AdminHandler :=
  .answer (.error (.problem status kind title detail))

/-- `App.updateUserStatus`. The error of the role lookup is ignored. -/
def updateUserStatus (directory : Directory) (lookup : RoleLookup) (txNow : ℤ)
    (actor user : UserId) : Option (Option UserStatus × String) → AdminHandler
  | some (some status, reason) =>
    if reason.utf8ByteSize < 3 then refuse 400 "user-status" "Укажите статус и причину" ""
    else if user = actor ∧ status = .blocked then
      refuse 409 "self-block" "Нельзя заблокировать собственный аккаунт" ""
    else
      .query .lookup (fun office ↦ lookup.answer office.roles user) fun targetRole ↦
      if targetRole.join.isSome ∧ status = .blocked then
        refuse 409 "admin-block" "Сначала снимите административную роль" ""
      else .start .opening fun
      | false => refuse 500 "db" "Статус не изменён" ""
      | true =>
        .statement .update (OfficeDatabase.setStatus user status) fun
        | none => refuse 404 "user" "Пользователь не найден" ""
        | some office =>
          if office.users user = none then refuse 404 "user" "Пользователь не найден" ""
          else .statements (refuse 500 "db" "Статус не изменён" "")
            ((if status = .blocked then
                [(.commands, fun office ↦ office.enqueue txNow (office.revocations directory user)),
                  (.assignments, OfficeDatabase.unprovision directory user)]
              else []) ++
              [(.audit, OfficeDatabase.record ⟨actor, "user.status", "user", user, reason,
                [("status", .text status.text)]⟩)])
            (.commit .commit fun committed ↦
              if committed then .answer (.ok ()) else refuse 500 "db" "Статус не изменён" "")
  | _ => refuse 400 "user-status" "Укажите статус и причину" ""

def transact (unopened : Failure) (failed : ℕ → Failure) : Program → AdminHandler
  | .abort failure => .answer (.error failure)
  | program => .start .opening fun
    | false => .answer (.error unopened)
    | true => .ofTxn officePart .wallet .commit (fun number ↦ .error (failed number)) (.ok ())
        .error program 0

/-- `App.adjustWallet`. The error of the role lookups is ignored. -/
def adjustWallet (lookup : RoleLookup) (request : AdjustWallet) : AdminHandler :=
  .query .lookup (fun office ↦ (roleText (lookup.answer office.roles request.actor),
    roleText (lookup.answer office.roles request.userId))) fun roles ↦
  transact (.problem 500 "db" "Не удалось изменить баланс" "")
    (fun number ↦ if number = 0 then .unknownUser
      else .problem 500 "ledger" "Баланс не изменён" "")
    (Control.adjustWallet { request with
      actorRole := (roles.getD ("", "")).1
      targetRole := (roles.getD ("", "")).2 })

def creditWallet (request : CreditWallet) : AdminHandler :=
  transact (.problem 500 "db" "Не удалось изменить баланс" "")
    (fun _ ↦ .notCredited)
    (Control.creditWallet request)

/-- The transaction of `App.setAdminRole`. -/
def assignRole (actor user : UserId) (role : AdminRole) (reason : String)
    (current : Option AdminRole) : AdminHandler :=
  .start .opening fun
  | false => refuse 500 "db" "Роль не изменена" ""
  | true => .statements (refuse 500 "db" "Роль не изменена" "")
      [(.delete, OfficeDatabase.deleteRoles user), (.insert, OfficeDatabase.insertRole user role),
        (.audit, OfficeDatabase.record ⟨actor, "admin.role.set", "user", user, reason,
          [("from", .text (roleText current)), ("to", .text role.text)]⟩)]
      (.commit .commit fun committed ↦
        if committed then .answer (.ok ()) else refuse 500 "db" "Роль не изменена" "")

/-- `App.setAdminRole`. The errors of its queries are ignored: without an answer a user does not
exist, has no role, and there are no owners. -/
def setAdminRole (lookup : RoleLookup) (actor user : UserId) :
    Option (Option AdminRole × String) → AdminHandler
  | some (some role, reason) =>
    if reason.utf8ByteSize < 3 then refuse 400 "admin-role" "Укажите роль и причину" ""
    else .query .exists (fun office ↦ office.users user) fun found ↦
      if found.join ≠ some .active then refuse 404 "user" "Активный пользователь не найден" ""
      else .query .lookup (fun office ↦ lookup.answer office.roles user) fun current ↦
        if current.join = some .owner ∧ role ≠ .owner then
          .query .count OfficeDatabase.owners fun owners ↦
          if owners.getD 0 ≤ 1 then
            refuse 409 "last-owner" "Нельзя изменить роль последнего владельца"
              "Сначала назначьте ещё одного Owner."
          else assignRole actor user role reason current.join
        else assignRole actor user role reason current.join
  | _ => refuse 400 "admin-role" "Укажите роль и причину" ""

/-- The last two statements of `App.removeAdminRole`, each on its own. The outcome of the audit
insert is not looked at. -/
def deleteRole (actor user : UserId) (reason : String) (current : AdminRole) : AdminHandler :=
  .statement .delete (OfficeDatabase.deleteRoles user) fun
  | none => refuse 500 "db" "Права не сняты" ""
  | some _ =>
    .statement .audit (OfficeDatabase.record ⟨actor, "admin.role.remove", "user", user, reason,
      [("role", .text current.text)]⟩) fun _ ↦ .answer (.ok ())

def removeAdminRole (lookup : RoleLookup) (actor user : UserId) : Option String → AdminHandler
  | some reason =>
    if reason.utf8ByteSize < 3 then refuse 400 "admin-role" "Укажите причину" ""
    else .query .lookup (fun office ↦ lookup.answer office.roles user) fun answered ↦
      match answered.join with
      | none => refuse 404 "admin" "Администратор не найден" ""
      | some current =>
        if current = .owner then
          .query .count OfficeDatabase.owners fun owners ↦
          if owners.getD 0 ≤ 1 then
            refuse 409 "last-owner" "Нельзя удалить последнего владельца" ""
          else deleteRole actor user reason current
        else deleteRole actor user reason current
  | none => refuse 400 "admin-role" "Укажите причину" ""

def commandType : Message → String
  | .deviceUpsert _ => "device.upsert"
  | .quotaLease _ => "quota.lease"
  | .deviceRevoke _ => "device.revoke"
  | .sessionKick _ => "session.kick"
  | .policyOverride _ => "policy.override"
  | .complianceFeed _ => "compliance.feed"
  | .usageAck _ => "usage.ack"
  | .certificateRotate _ => "certificate.rotate"
  | .other type | .malformed type _ => type

def allowedCommands : List String :=
  ["device.upsert", "device.revoke", "session.kick", "policy.override", "certificate.rotate",
    "drain", "update"]

/-- `App.enqueueCommand`. Its two statements stand on their own. -/
def enqueueCommand (txNow : ℤ) (actor : UserId) (node : NodeId) :
    Option (Message × String) → AdminHandler
  | some (message, reason) =>
    if commandType message = "" ∨ reason = "" then
      refuse 400 "command" "Укажите команду, payload и причину" ""
    else if commandType message ∉ allowedCommands then
      refuse 400 "command-type" "Эта команда не поддерживается" ""
    else
      let failed := refuse 500 "db" "Не удалось поставить команду в очередь" ""
      .statement .insert (OfficeDatabase.enqueue txNow [(node, message)]) fun
      | none => failed
      | some office =>
        .statement .audit (OfficeDatabase.record ⟨actor, "node.command", "node", node, reason,
          [("commandId", .number office.db.commands.length),
            ("type", .text (commandType message))]⟩) fun
        | none => failed
        | some _ => .answer (.ok ())
  | none => refuse 400 "command" "Укажите команду, payload и причину" ""

/-- The checks of `App.enrollNode` before its first statement. -/
def checkEnrollment (request : EnrollNode) : Except Failure (NodeBundle × ℕ × ℤ) :=
  if ¬ request.hasIssuer then
    .error (.problem 503 "node-ca" "Центр сертификации узлов не настроен"
      "Подключите online intermediate key и certificate.")
  else match request.bundle with
  | none => .error (.problem 400 "bundle" "Не удалось прочитать ключ" "")
  | some (.error message) =>
    .error (.problem 400 "bundle" "Ключ локации недействителен" message)
  | some (.ok bundle) =>
    if ¬ request.keyValid then
      .error (.problem 400 "node-key" "Публичный ключ узла недействителен" "")
    else match request.certificate with
    | none => .error (.problem 500 "node-cert" "Не удалось выпустить сертификат" "")
    | some certificate =>
      if ¬ request.hasComplianceKey then
        .error (.problem 503 "controller-key" "Control signing key не настроен" "")
      else if ¬ request.hasQuotaKey then
        .error (.problem 503 "quota-key" "Quota signing key не настроен" "")
      else .ok (bundle, certificate)

/-- The row that an enrollment leaves: a new node is pending, and a node that is enrolled again
keeps its status, its version and the certificate it is being rotated to. -/
def enrolledRow (bundle : NodeBundle) (serial : ℕ) (notAfter : ℤ) :
    Option EnrolledNode → EnrolledNode
  | none =>
    { status := .pending, publicKey := bundle.nodePublicKey, certificateSerial := some serial
      certificateNotAfter := some notAfter, nextCertificateSerial := none
      nextCertificateNotAfter := none, domain := bundle.domain
      agentVersion := bundle.agentVersion, protocolVersion := 1 }
  | some row =>
    { row with
      domain := bundle.domain
      publicKey := bundle.nodePublicKey
      certificateSerial := some serial
      certificateNotAfter := some notAfter }

/-- `INSERT INTO nodes … ON CONFLICT(id) DO UPDATE` of `App.enrollNode`. -/
def writeNode (bundle : NodeBundle) (serial : ℕ) (notAfter : ℤ) (office : OfficeDatabase) :
    OfficeDatabase :=
  { office with
    nodes := Function.update office.nodes bundle.nodeId
      (some (enrolledRow bundle serial notAfter (office.nodes bundle.nodeId))) }

/-- The call of `App.enrollNode` to the node and its audit insert, whose outcome is not looked
at. -/
def claimNode (request : EnrollNode) (bundle : NodeBundle) : AdminHandler :=
  .call .claim fun
  | false => refuse 502 "node-claim" "Узел не подтвердил подключение" request.claimError
  | true =>
    .statement .audit (OfficeDatabase.record ⟨request.actor, "node.enroll", "node", bundle.nodeId,
      "one-time enrollment", [("domain", .text bundle.domain)]⟩) fun _ ↦ .answer (.ok ())

def enrollNode (request : EnrollNode) : AdminHandler :=
  match checkEnrollment request with
  | .error failure => .answer (.error failure)
  | .ok (bundle, serial, notAfter) =>
    .statement .insert (writeNode bundle serial notAfter) fun
    | none => refuse 500 "db" "Не удалось подготовить запись узла" ""
    | some _ => claimNode request bundle

end Office

namespace AdminOperation

def handler (directory : Directory) (lookup : RoleLookup) (txNow : ℤ) :
    AdminOperation → AdminHandler
  | .updateUserStatus actor user body =>
    Office.updateUserStatus directory lookup txNow actor user body
  | .adjustWallet request => Office.adjustWallet lookup request
  | .creditWallet request => Office.creditWallet request
  | .setAdminRole actor user body => Office.setAdminRole lookup actor user body
  | .removeAdminRole actor user reason => Office.removeAdminRole lookup actor user reason
  | .enqueueCommand actor node body => Office.enqueueCommand txNow actor node body
  | .enrollNode request => Office.enrollNode request

def actor : AdminOperation → UserId
  | .updateUserStatus actor _ _ | .setAdminRole actor _ _ | .removeAdminRole actor _ _
  | .enqueueCommand actor _ _ => actor
  | .adjustWallet request => request.actor
  | .creditWallet request => request.actor
  | .enrollNode request => request.actor

def subject : AdminOperation → String
  | .updateUserStatus _ user _ | .setAdminRole _ user _ | .removeAdminRole _ user _ => user
  | .adjustWallet request => request.userId
  | .creditWallet request => request.userId
  | .enqueueCommand _ node _ => node
  | .enrollNode request =>
    match request.bundle with
    | some (.ok bundle) => bundle.nodeId
    | _ => ""

def after (directory : Directory) (lookup : RoleLookup) (txNow : ℤ) (operation : AdminOperation)
    (faults : AdminPoint → Outcome) (before : OfficeDatabase) : OfficeDatabase :=
  ((operation.handler directory lookup txNow).run faults before .none).1

end AdminOperation

/-! ### The rule -/

structure SameEffects (before after : OfficeDatabase) : Prop where
  users : after.users = before.users
  wallets : after.db.wallets = before.db.wallets
  roles : after.roles = before.roles
  commands : after.db.commands = before.db.commands
  nodes : after.nodes = before.nodes

theorem SameEffects.refl (office : OfficeDatabase) : SameEffects office office :=
  ⟨rfl, rfl, rfl, rfl, rfl⟩

def AuditedBy (actor : UserId) (subject : String) (before after : OfficeDatabase) : Prop :=
  ∃ event, after.db.audit = before.db.audit ++ [event] ∧ event.actorUserId = actor ∧
    event.subjectId = subject

def Audited (operation : AdminOperation) (before after : OfficeDatabase) : Prop :=
  SameEffects before after ∨ AuditedBy operation.actor operation.subject before after

/-- A removal passes its checks and comes to its `DELETE`. -/
def RemovesRole (lookup : RoleLookup) (office : OfficeDatabase) (faults : AdminPoint → Outcome)
    (user : UserId) (reason : Option String) : Prop :=
  (∃ text ∈ reason, 3 ≤ text.utf8ByteSize) ∧ faults .lookup = .done ∧
    ∃ role ∈ lookup.answer office.roles user,
      role = .owner → faults .count = .done ∧ 1 < office.owners

/-- A command passes the checks of `enqueueCommand`. -/
def EnqueuesCommand : Option (Message × String) → Prop
  | some (message, reason) => Office.commandType message ∈ Office.allowedCommands ∧ reason ≠ ""
  | none => False

def ChangesNode (office : OfficeDatabase) (request : EnrollNode) : Prop :=
  ∃ bundle serial notAfter, Office.checkEnrollment request = .ok (bundle, serial, notAfter) ∧
    office.nodes bundle.nodeId ≠
      some (Office.enrolledRow bundle serial notAfter (office.nodes bundle.nodeId))

/-- The condition on the failures: once the effect of one of the three operations without a
transaction is stored, nothing fails up to the audit event. -/
def AuditSure (lookup : RoleLookup) (operation : AdminOperation) (faults : AdminPoint → Outcome)
    (office : OfficeDatabase) : Prop :=
  match operation with
  | .removeAdminRole _ user reason =>
    RemovesRole lookup office faults user reason → faults .delete ≠ .failed →
      faults .delete = .done ∧ faults .audit ≠ .failed
  | .enqueueCommand _ _ body =>
    EnqueuesCommand body → faults .insert ≠ .failed →
      faults .insert = .done ∧ faults .audit ≠ .failed
  | .enrollNode request =>
    ChangesNode office request → faults .insert ≠ .failed →
      faults .insert = .done ∧ faults .claim = .done ∧ faults .audit ≠ .failed
  | _ => True

/-! ### The operations in one transaction -/

section Transactions

variable {directory : Directory} {lookup : RoleLookup} {txNow : ℤ} {before : OfficeDatabase}
  {actor user : UserId}

theorem audited_of_allOrNothing (operation : AdminOperation) {handler : AdminHandler}
    (hhandler : handler.AllOrNothing (AuditedBy operation.actor operation.subject before) before)
    (faults : AdminPoint → Outcome) :
    Audited operation before (handler.run faults before .none).1 := by
  refine (hhandler faults).imp_left ?_
  intro hsame
  rw [hsame]
  exact .refl before

theorem allOrNothing_updateUserStatus (body : Option (Option UserStatus × String)) :
    (Office.updateUserStatus directory lookup txNow actor user body).AllOrNothing
      (AuditedBy actor user before) before := by
  unfold Office.updateUserStatus
  split
  · rename_i status reason
    refine .ite (.answer _) (.ite (.answer _) (.query fun targetRole ↦ .ite (.answer _) ?_))
    refine .start ⟨_, rfl⟩ ⟨⟨_, rfl⟩, ?_⟩
    dsimp only
    split
    · trivial
    · refine Handler.commits_statements ⟨_, rfl⟩ _ ⟨?_, ⟨_, rfl⟩, ⟨_, rfl⟩⟩
      rw [List.foldl_append]
      refine ⟨_, congrArg (· ++ [_]) ?_, rfl, rfl⟩
      split_ifs <;> rfl
  · exact .answer _

theorem allOrNothing_transact {unopened : Failure} {failed : ℕ → Failure} {program : Program}
    {subject : String}
    (haudit : ∀ after, program.run before.db = .ok after → ∃ event,
      after.audit = before.db.audit ++ [event] ∧ event.actorUserId = actor ∧
        event.subjectId = subject) :
    (Office.transact unopened failed program).AllOrNothing (AuditedBy actor subject before)
      before := by
  unfold Office.transact
  split
  · exact .answer _
  · exact .start ⟨_, rfl⟩ (Handler.commits_ofTxn program 0 haudit)

theorem allOrNothing_adjustWallet (request : AdjustWallet) :
    (Office.adjustWallet lookup request).AllOrNothing
      (AuditedBy request.actor request.userId before) before := by
  refine .query fun roles ↦ allOrNothing_transact fun after hafter ↦ ?_
  obtain ⟨current, event, -, -, -, rfl, hactor, hsubject⟩ := run_adjustWallet hafter
  exact ⟨event, rfl, hactor, hsubject⟩

theorem allOrNothing_creditWallet (request : CreditWallet) :
    (Office.creditWallet request).AllOrNothing (AuditedBy request.actor request.userId before)
      before := by
  refine allOrNothing_transact fun after hafter ↦ ?_
  obtain ⟨current, event, -, -, -, -, rfl, hactor, hsubject⟩ := run_creditWallet hafter
  exact ⟨event, rfl, hactor, hsubject⟩

theorem allOrNothing_setAdminRole (body : Option (Option AdminRole × String)) :
    (Office.setAdminRole lookup actor user body).AllOrNothing (AuditedBy actor user before)
      before := by
  have hassign (role : AdminRole) (reason : String) (current : Option AdminRole) :
      (Office.assignRole actor user role reason current).AllOrNothing
        (AuditedBy actor user before) before := by
    refine .start ⟨_, rfl⟩ (Handler.commits_statements ⟨_, rfl⟩ _ ⟨?_, ⟨_, rfl⟩, ⟨_, rfl⟩⟩)
    exact ⟨_, rfl, rfl, rfl⟩
  unfold Office.setAdminRole
  split
  · refine .ite (.answer _) (.query fun found ↦ .ite (.answer _) (.query fun current ↦ ?_))
    exact .ite (.query fun owners ↦ .ite (.answer _) (hassign _ _ _)) (hassign _ _ _)
  · exact .answer _

end Transactions

/-! ### The operations with separate statements -/

section Separate

variable {directory : Directory} {lookup : RoleLookup} {txNow : ℤ} {before after : OfficeDatabase}
  {faults : AdminPoint → Outcome} {actor user : UserId}

theorem not_auditedBy {subject : String} (haudit : after.db.audit = before.db.audit) :
    ¬ AuditedBy actor subject before after := by
  rintro ⟨event, hevent, -⟩
  rw [haudit] at hevent
  simp at hevent

theorem run_recordAudit (faults : AdminPoint → Outcome) (event : AuditEvent)
    {last : Option OfficeDatabase → AdminHandler} (hlast : ∀ seen, (last seen).Answers)
    (office : OfficeDatabase) :
    (faults .audit ≠ .failed ∧
      ((Handler.statement .audit (OfficeDatabase.record event) last).run faults office .none).1 =
        office.record event) ∨
    (¬ faults .audit ≠ .failed ∧
      ((Handler.statement .audit (OfficeDatabase.record event) last).run faults office .none).1 =
        office) := by
  rw [Handler.run]
  cases faults .audit with
  | done => exact .inl ⟨by decide, (hlast _).run ..⟩
  | failed => exact .inr ⟨by decide, (hlast _).run ..⟩
  | lost => exact .inl ⟨by decide, (hlast _).run ..⟩

theorem audited_separate_iff {operation : AdminOperation} {point : AdminPoint}
    {write : OfficeDatabase → OfficeDatabase} {rest : Option OfficeDatabase → AdminHandler}
    {event : AuditEvent} {sure : Prop} (hchanged : ¬ SameEffects before (write before))
    (haudit : (write before).db.audit = before.db.audit)
    (hactor : event.actorUserId = operation.actor) (hsubject : event.subjectId = operation.subject)
    (hfailed : (rest none).Answers)
    (hrest : (sure ∧ ((rest (some before)).run faults (write before) .none).1 =
        (write before).record event) ∨
      (¬ sure ∧ ((rest (some before)).run faults (write before) .none).1 = write before)) :
    Audited operation before ((Handler.statement point write rest).run faults before .none).1 ↔
      (faults point ≠ .failed → faults point = .done ∧ sure) := by
  have hunaudited : ¬ Audited operation before (write before) :=
    not_or.mpr ⟨hchanged, not_auditedBy haudit⟩
  rw [Handler.run]
  cases faults point with
  | failed =>
    rw [hfailed.run]
    exact iff_of_true (.inl (.refl before)) fun hstored ↦ absurd rfl hstored
  | lost =>
    rw [hfailed.run]
    refine iff_of_false hunaudited fun hsure ↦ ?_
    cases (hsure (by decide)).1
  | done =>
    rcases hrest with ⟨hsure, hrun⟩ | ⟨hsure, hrun⟩
    · refine iff_of_true ?_ fun _ ↦ ⟨rfl, hsure⟩
      rw [hrun]
      exact .inr ⟨event, congrArg (· ++ [event]) haudit, hactor, hsubject⟩
    · rw [hrun]
      exact iff_of_false hunaudited fun hall ↦ hsure (hall (by decide)).2

theorem run_removeAdminRole (reason : Option String) :
    (RemovesRole lookup before faults user reason ∧ ∃ text current,
      (user, current) ∈ before.roles ∧
      (Office.removeAdminRole lookup actor user reason).run faults before .none =
        (Office.deleteRole actor user text current).run faults before .none) ∨
    (¬ RemovesRole lookup before faults user reason ∧
      ((Office.removeAdminRole lookup actor user reason).run faults before .none).1 = before) := by
  unfold Office.removeAdminRole RemovesRole
  cases reason with
  | none => exact .inr ⟨fun hremoves ↦ (by simpa using hremoves.1), rfl⟩
  | some text =>
    dsimp only
    by_cases hshort : text.utf8ByteSize < 3
    · rw [if_pos hshort]
      exact .inr ⟨fun hremoves ↦ absurd hremoves.1 (by simpa using hshort), rfl⟩
    · rw [if_neg hshort, Handler.run_query]
      by_cases hlookup : faults .lookup = .done
      · rw [if_pos hlookup, Option.join_some]
        cases hanswer : lookup.answer before.roles user with
        | none => exact .inr ⟨fun hremoves ↦ (by simpa using hremoves.2.2), rfl⟩
        | some current =>
          have hrole := lookup.mem _ _ _ hanswer
          have hreason : ∃ written ∈ some text, 3 ≤ written.utf8ByteSize :=
            ⟨text, rfl, Nat.le_of_not_lt hshort⟩
          dsimp only
          by_cases howner : current = .owner
          · rw [if_pos howner, Handler.run_query]
            by_cases hcount : faults .count = .done ∧ 1 < before.owners
            · rw [if_pos hcount.1, Option.getD_some, if_neg (Nat.not_le.mpr hcount.2)]
              exact .inl ⟨⟨hreason, hlookup, current, rfl, fun _ ↦ hcount⟩, text, current, hrole,
                rfl⟩
            · refine .inr ⟨?_, ?_⟩
              · rintro ⟨-, -, role, hsame, hcounted⟩
                obtain rfl := Option.some.inj hsame
                exact hcount (hcounted howner)
              · split_ifs with hanswered hfew hfew
                · rfl
                · exact absurd ⟨hanswered, Nat.lt_of_not_le hfew⟩ hcount
                · rfl
                · exact absurd (Nat.zero_le 1) hfew
          · rw [if_neg howner]
            exact .inl ⟨⟨hreason, hlookup, current, rfl, fun h ↦ absurd h howner⟩, text, current,
              hrole, rfl⟩
      · rw [if_neg hlookup]
        exact .inr ⟨fun hremoves ↦ hlookup hremoves.2.1, rfl⟩

theorem audited_removeAdminRole (reason : Option String) :
    Audited (.removeAdminRole actor user reason) before
        ((Office.removeAdminRole lookup actor user reason).run faults before .none).1 ↔
      AuditSure lookup (.removeAdminRole actor user reason) faults before := by
  rcases run_removeAdminRole reason with ⟨hremoves, text, current, hrole, hrun⟩ | ⟨hnot, hrun⟩
  · have hchanged : ¬ SameEffects before (before.deleteRoles user) := by
      intro hsame
      have hkept : (user, current) ∈ (before.deleteRoles user).roles := hsame.roles.symm ▸ hrole
      simp [OfficeDatabase.deleteRoles] at hkept
    rw [hrun, Office.deleteRole, audited_separate_iff hchanged rfl rfl rfl ⟨_, rfl⟩
      (run_recordAudit faults _ (fun _ ↦ ⟨_, rfl⟩) _)]
    exact ⟨fun hsure _ ↦ hsure, fun hsure ↦ hsure hremoves⟩
  · rw [hrun]
    exact iff_of_true (.inl (.refl before)) fun hremoves ↦ absurd hremoves hnot

theorem audited_enqueueCommand (node : NodeId) (body : Option (Message × String)) :
    Audited (.enqueueCommand actor node body) before
        ((Office.enqueueCommand txNow actor node body).run faults before .none).1 ↔
      AuditSure lookup (.enqueueCommand actor node body) faults before := by
  unfold Office.enqueueCommand
  split
  · rename_i message reason
    by_cases hempty : Office.commandType message = "" ∨ reason = ""
    · rw [if_pos hempty]
      refine iff_of_true (.inl (.refl before)) ?_
      rintro ⟨hallowed, hreason⟩
      rw [hempty.resolve_right hreason] at hallowed
      exact absurd hallowed (by decide)
    · rw [if_neg hempty]
      by_cases hallowed : Office.commandType message ∈ Office.allowedCommands
      · have hchanged : ¬ SameEffects before (before.enqueue txNow [(node, message)]) := by
          intro hsame
          have hlength := congrArg List.length hsame.commands
          simp [OfficeDatabase.enqueue, Database.enqueue] at hlength
        have hlast (seen : Option OfficeDatabase) : (match seen with
            | none => Office.refuse 500 "db" "Не удалось поставить команду в очередь" ""
            | some _ => .answer (.ok ()) : AdminHandler).Answers := by
          cases seen <;> exact ⟨_, rfl⟩
        rw [if_neg (not_not_intro hallowed), audited_separate_iff hchanged rfl rfl rfl ⟨_, rfl⟩
          (run_recordAudit faults _ hlast _)]
        have hreason : reason ≠ "" := fun hnone ↦ hempty (.inr hnone)
        exact ⟨fun hsure _ ↦ hsure, fun hsure ↦ hsure ⟨hallowed, hreason⟩⟩
      · rw [if_pos hallowed]
        exact iff_of_true (.inl (.refl before)) fun henqueues ↦ absurd henqueues.1 hallowed
  · exact iff_of_true (.inl (.refl before)) fun henqueues ↦ henqueues.elim

theorem checkEnrollment_bundle {request : EnrollNode} {passed : NodeBundle × ℕ × ℤ}
    (hcheck : Office.checkEnrollment request = .ok passed) :
    request.bundle = some (.ok passed.1) := by
  unfold Office.checkEnrollment at hcheck
  split at hcheck
  · cases hcheck
  · split at hcheck
    · cases hcheck
    · cases hcheck
    · rename_i bundle hbundle
      split at hcheck
      · cases hcheck
      · split at hcheck
        · cases hcheck
        · split_ifs at hcheck
          cases hcheck
          exact hbundle

theorem run_claimNode (request : EnrollNode) (bundle : NodeBundle) (office : OfficeDatabase) :
    ((faults .claim = .done ∧ faults .audit ≠ .failed) ∧
      ((Office.claimNode request bundle).run faults office .none).1 =
        office.record ⟨request.actor, "node.enroll", "node", bundle.nodeId, "one-time enrollment",
          [("domain", .text bundle.domain)]⟩) ∨
    (¬ (faults .claim = .done ∧ faults .audit ≠ .failed) ∧
      ((Office.claimNode request bundle).run faults office .none).1 = office) := by
  rw [Office.claimNode, Handler.run]
  by_cases hclaim : faults .claim = .done
  · have hlast (_ : Option OfficeDatabase) : (Handler.answer (.ok ()) : AdminHandler).Answers :=
      ⟨_, rfl⟩
    rw [decide_eq_true hclaim]
    rcases run_recordAudit faults ⟨request.actor, "node.enroll", "node", bundle.nodeId,
      "one-time enrollment", [("domain", .text bundle.domain)]⟩ hlast office with
      ⟨haudit, hrun⟩ | ⟨haudit, hrun⟩
    · exact .inl ⟨⟨hclaim, haudit⟩, hrun⟩
    · exact .inr ⟨fun hsure ↦ haudit hsure.2, hrun⟩
  · rw [decide_eq_false hclaim]
    exact .inr ⟨fun hsure ↦ hclaim hsure.1, rfl⟩

theorem sameEffects_enrollNode {request : EnrollNode} {bundle : NodeBundle} {serial : ℕ}
    {notAfter : ℤ} {rest : Option OfficeDatabase → AdminHandler}
    (hsame : before.nodes bundle.nodeId =
      some (Office.enrolledRow bundle serial notAfter (before.nodes bundle.nodeId)))
    (hnone : (rest none).Answers) (hsome : rest (some before) = Office.claimNode request bundle) :
    SameEffects before ((Handler.statement .insert (Office.writeNode bundle serial notAfter)
      rest).run faults before .none).1 := by
  have hnothing : Office.writeNode bundle serial notAfter before = before := by
    rw [Office.writeNode, ← hsame, Function.update_eq_self]
  rw [Handler.run, hnothing, hsome]
  cases faults .insert with
  | done =>
    rcases run_claimNode request bundle before with ⟨-, hrun⟩ | ⟨-, hrun⟩
    · rw [hrun]
      exact ⟨rfl, rfl, rfl, rfl, rfl⟩
    · rw [hrun]
      exact .refl before
  | failed | lost =>
    rw [hnone.run]
    exact .refl before

theorem audited_enrollNode (request : EnrollNode) :
    Audited (.enrollNode request) before
        ((Office.enrollNode request).run faults before .none).1 ↔
      AuditSure lookup (.enrollNode request) faults before := by
  unfold Office.enrollNode
  cases hcheck : Office.checkEnrollment request with
  | error failure =>
    refine iff_of_true (.inl (.refl before)) ?_
    rintro ⟨bundle, serial, notAfter, hpasses, -⟩
    cases hcheck.symm.trans hpasses
  | ok passed =>
    obtain ⟨bundle, serial, notAfter⟩ := passed
    have hsubject : bundle.nodeId = (AdminOperation.enrollNode request).subject := by
      simp only [AdminOperation.subject, checkEnrollment_bundle hcheck]
    by_cases hsame : before.nodes bundle.nodeId =
        some (Office.enrolledRow bundle serial notAfter (before.nodes bundle.nodeId))
    · refine iff_of_true (.inl (sameEffects_enrollNode hsame ⟨_, rfl⟩ rfl)) ?_
      rintro ⟨bundle', serial', notAfter', hpasses, hdiffers⟩
      cases hcheck.symm.trans hpasses
      exact absurd hsame hdiffers
    · have hchanged : ¬ SameEffects before (Office.writeNode bundle serial notAfter before) := by
        intro heffects
        have hnode := congrFun heffects.nodes bundle.nodeId
        exact hsame (hnode.symm.trans (Function.update_self _ _ _))
      dsimp only
      rw [audited_separate_iff hchanged rfl rfl hsubject ⟨_, rfl⟩ (run_claimNode request bundle _)]
      exact ⟨fun hsure _ ↦ hsure, fun hsure ↦ hsure ⟨bundle, serial, notAfter, hcheck, hsame⟩⟩

end Separate

/-- For every operation and every failure of a statement or of the call to the node: an effect of
the operation comes with an audit event of its actor and subject, exactly when nothing fails between
the effect of `removeAdminRole`, `enqueueCommand` or `enrollNode` and its audit event. -/
theorem audited_iff (directory : Directory) (lookup : RoleLookup) (txNow : ℤ)
    (operation : AdminOperation) (faults : AdminPoint → Outcome) (before : OfficeDatabase) :
    Audited operation before (operation.after directory lookup txNow faults before) ↔
      AuditSure lookup operation faults before := by
  cases operation with
  | updateUserStatus actor user body =>
    exact iff_of_true (audited_of_allOrNothing (.updateUserStatus actor user body)
      (allOrNothing_updateUserStatus body) faults) trivial
  | adjustWallet request =>
    exact iff_of_true (audited_of_allOrNothing (.adjustWallet request)
      (allOrNothing_adjustWallet request) faults) trivial
  | creditWallet request =>
    exact iff_of_true (audited_of_allOrNothing (.creditWallet request)
      (allOrNothing_creditWallet request) faults) trivial
  | setAdminRole actor user body =>
    exact iff_of_true (audited_of_allOrNothing (.setAdminRole actor user body)
      (allOrNothing_setAdminRole body) faults) trivial
  | removeAdminRole actor user reason => exact audited_removeAdminRole reason
  | enqueueCommand actor node body => exact audited_enqueueCommand node body
  | enrollNode request => exact audited_enrollNode request

def highestRole : RoleLookup where
  answer := fun roles user ↦
    [AdminRole.owner, .operator, .support, .auditor].find? fun role ↦ (user, role) ∈ roles
  mem := fun roles user role hrole ↦ by simpa using List.find?_some hrole

def smallOffice : OfficeDatabase where
  db := .fresh ["boss", "helper"] (fun _ ↦ none) fun _ ↦ none
  users := fun user ↦ if user = "boss" ∨ user = "helper" then some .active else none
  roles := {("boss", .owner), ("helper", .support)}
  nodes := fun _ ↦ none
  provisionedAt := fun _ ↦ none

def smallDirectory : Directory := ⟨[], [], List.nodup_nil⟩

def soloRemoval : AdminOperation := .removeAdminRole "boss" "helper" (some "left the team")

def soloCommand : AdminOperation :=
  .enqueueCommand "boss" "node" (some (.other "update", "release"))

def soloEnrollment : AdminOperation :=
  .enrollNode ⟨"boss", true, some (.ok ⟨"node", "domain", "1.0", "key"⟩), true, some (7, day),
    true, true, "timeout"⟩

theorem audited_iff_undisturbed :
    Audited soloRemoval smallOffice
        (soloRemoval.after smallDirectory highestRole 0 (fun _ ↦ .done) smallOffice) ∧
      Audited soloCommand smallOffice
        (soloCommand.after smallDirectory highestRole 0 (fun _ ↦ .done) smallOffice) ∧
      Audited soloEnrollment smallOffice
        (soloEnrollment.after smallDirectory highestRole 0 (fun _ ↦ .done) smallOffice) := by
  have hrecorded : Outcome.done ≠ .failed := by decide
  refine ⟨?_, ?_, ?_⟩
  · exact (audited_iff smallDirectory highestRole 0 soloRemoval _ smallOffice).mpr
      fun _ _ ↦ ⟨rfl, hrecorded⟩
  · exact (audited_iff smallDirectory highestRole 0 soloCommand _ smallOffice).mpr
      fun _ _ ↦ ⟨rfl, hrecorded⟩
  · exact (audited_iff smallDirectory highestRole 0 soloEnrollment _ smallOffice).mpr
      fun _ _ ↦ ⟨rfl, rfl, hrecorded⟩

def failingAt (point : AdminPoint) : AdminPoint → Outcome :=
  fun other ↦ if other = point then .failed else .done

/-- A role is removed and a command is queued when the audit insert fails, and a node is enrolled
when it does not answer the call; the audit log stays empty. -/
theorem role_removed_without_audit :
    (("helper", .support) ∈ smallOffice.roles ∧
      ("helper", .support) ∉ (soloRemoval.after smallDirectory highestRole 0 (failingAt .audit)
        smallOffice).roles ∧
      (soloRemoval.after smallDirectory highestRole 0 (failingAt .audit) smallOffice).db.audit =
        []) ∧
    ((soloCommand.after smallDirectory highestRole 0 (failingAt .audit)
        smallOffice).db.commands.length = 1 ∧
      (soloCommand.after smallDirectory highestRole 0 (failingAt .audit) smallOffice).db.audit =
        []) ∧
    ((soloEnrollment.after smallDirectory highestRole 0 (failingAt .claim)
        smallOffice).nodes "node" ≠ none ∧
      (soloEnrollment.after smallDirectory highestRole 0 (failingAt .claim) smallOffice).db.audit =
        []) := by
  refine ⟨⟨by decide, ?_, rfl⟩, ⟨rfl, rfl⟩, ?_, rfl⟩
  · decide
  · intro hmissing
    cases hmissing

end RiseVpn.Fleet
