import RiseVpn.Control.Database
import RiseVpn.Library.Threads
import Mathlib.Data.Finset.Card

/-!
# Administrators and the last owner

`setAdminRole`, `removeAdminRole` and `updateUserStatus`, statement by statement on the tables
`users` and `user_roles`. The checks of these handlers are statements of their own before the one
that writes, and any number of the handlers run at the same time. A transaction becomes visible at
its commit, and its `DELETE` removes the rows it has found. The role lookups have a `LIMIT 1`
without an order, so which role of a user they answer is an input of the step, as is whether a
statement fails. The handlers ignore the errors of some of their queries and go on with the zero
value.

`Owned` says that an active user is an owner. A handler that is about to take the ownership from a
user (`Takes`) spares another owner (`Spared`) as long as its checks have seen what they ask for
(`Careful`), and as long as no other handler is about to take it from another owner. `Spaced` is
this condition. `owner_remains` is the result for every run under it, and
`owners_remove_each_other` a run in which two owners are removed at once.
-/

set_option autoImplicit false

namespace RiseVpn.Control

open Threads GuardedRun

/-! ### The tables and the requests -/

/-- The `status` of a user. -/
inductive UserStatus
  | active
  | blocked
  deriving DecidableEq

def UserStatus.text : UserStatus → String
  | .active => "active"
  | .blocked => "blocked"

/-- The `role` of a row of `user_roles`. -/
inductive AdminRole
  | owner
  | operator
  | support
  | auditor
  deriving DecidableEq

def AdminRole.text : AdminRole → String
  | .owner => "owner"
  | .operator => "operator"
  | .support => "support"
  | .auditor => "auditor"

/-- `COALESCE(…, '')` of a role. -/
def roleText (role : Option AdminRole) : String := (role.map AdminRole.text).getD ""

/-- The tables `users` and `user_roles`, and what the handlers append to. `assigned` holds the
unrevoked devices of a user with the nodes they are assigned to. -/
structure AdminTables where
  users : UserId → Option UserStatus
  roles : Finset (UserId × AdminRole)
  assigned : UserId → List (NodeId × DeviceId)
  commands : List (NodeId × Message)
  audit : List AuditEvent

/-- The rows of a user in `user_roles`. -/
def AdminTables.rolesOf (tables : AdminTables) (user : UserId) : Finset (UserId × AdminRole) :=
  tables.roles.filter fun row ↦ row.1 = user

/-- `SELECT count(*) FROM user_roles WHERE role='owner'`. -/
def AdminTables.owners (tables : AdminTables) : ℕ :=
  (tables.roles.filter fun row ↦ row.2 = .owner).card

/-- What `SELECT role FROM user_roles WHERE user_id=… LIMIT 1` may answer. -/
def AdminTables.Answers (tables : AdminTables) (user : UserId) : Option AdminRole → Prop
  | some role => (user, role) ∈ tables.roles
  | none => tables.rolesOf user = ∅

instance (tables : AdminTables) (user : UserId) :
    (answer : Option AdminRole) → Decidable (tables.Answers user answer)
  | some role => inferInstanceAs (Decidable ((user, role) ∈ tables.roles))
  | none => inferInstanceAs (Decidable (tables.rolesOf user = ∅))

/-- A call of `setAdminRole` with a body that was accepted. The reason is trimmed already. -/
structure SetRole where
  actor : UserId
  user : UserId
  role : AdminRole
  reason : String

/-- A call of `removeAdminRole` with a trimmed reason. -/
structure RemoveRole where
  actor : UserId
  user : UserId
  reason : String

/-- A call of `updateUserStatus` with a body that was accepted and a trimmed reason. -/
structure UpdateStatus where
  actor : UserId
  user : UserId
  status : UserStatus
  reason : String

/-- The next statement of `setAdminRole`. `deleted` are the rows its `DELETE` has found. -/
inductive SetRolePhase
  | exists
  | lookup
  | count
  | delete (current : Option AdminRole)
  | insert (current : Option AdminRole) (deleted : Finset (UserId × AdminRole))
  | commit (current : Option AdminRole) (deleted : Finset (UserId × AdminRole))

/-- The next statement of `removeAdminRole`. -/
inductive RemoveRolePhase
  | lookup
  | count
  | delete (current : AdminRole)
  | audit (current : AdminRole)

/-- The next statement of `updateUserStatus`. `begun` is the time of its transaction, and `found`
are the rows that the `INSERT` of the revocations has found. -/
inductive StatusPhase
  | lookup
  | begin
  | update (begun : ℤ)
  | revoke (begun : ℤ)
  | commit (begun : ℤ) (found : List (NodeId × DeviceId))

inductive AdminThread
  | setRole (call : SetRole) (phase : SetRolePhase)
  | removeRole (call : RemoveRole) (phase : RemoveRolePhase)
  | updateStatus (call : UpdateStatus) (phase : StatusPhase)
  | finished (answer : Except Failure Unit)

def AdminThread.refused (status : ℕ) (kind title detail : String) : AdminThread :=
  .finished (.error (.problem status kind title detail))

/-- A request with its decoded body, which is absent when decoding fails. A role or status that the
handler does not know is absent as well. -/
inductive AdminRequest
  | setRole (actor user : UserId) (body : Option (Option AdminRole × String))
  | removeRole (actor user : UserId) (reason : Option String)
  | updateStatus (actor user : UserId) (body : Option (Option UserStatus × String))

/-- What a statement takes from outside: the role that a lookup answers, whether the statement
fails, and the time of a `BEGIN`. -/
structure AdminInput where
  role : Option AdminRole
  failed : Bool
  now : ℤ

/-- The role that a lookup leaves behind where its error is ignored. -/
def AdminInput.found (input : AdminInput) : Option AdminRole :=
  if input.failed then none else input.role

/-! ### The handlers -/

def AdminRequest.enter : AdminRequest → AdminThread
  | .setRole actor user (some (some role, reason)) =>
    if reason.utf8ByteSize < 3 then .refused 400 "admin-role" "Укажите роль и причину" ""
    else .setRole ⟨actor, user, role, reason⟩ .exists
  | .setRole _ _ _ => .refused 400 "admin-role" "Укажите роль и причину" ""
  | .removeRole actor user (some reason) =>
    if reason.utf8ByteSize < 3 then .refused 400 "admin-role" "Укажите причину" ""
    else .removeRole ⟨actor, user, reason⟩ .lookup
  | .removeRole _ _ none => .refused 400 "admin-role" "Укажите причину" ""
  | .updateStatus actor user (some (some status, reason)) =>
    if reason.utf8ByteSize < 3 then .refused 400 "user-status" "Укажите статус и причину" ""
    else if user = actor ∧ status = .blocked then
      .refused 409 "self-block" "Нельзя заблокировать собственный аккаунт" ""
    else .updateStatus ⟨actor, user, status, reason⟩ .lookup
  | .updateStatus _ _ _ => .refused 400 "user-status" "Укажите статус и причину" ""

/-- The statements of `App.setAdminRole`. The unique index refuses a row that the transaction has
not deleted. -/
def setAdminRole (tables : AdminTables) (call : SetRole) (input : AdminInput) :
    SetRolePhase → Option (AdminTables × AdminThread)
  | .exists =>
    if ¬ input.failed ∧ tables.users call.user = some .active then
      some (tables, .setRole call .lookup)
    else some (tables, .refused 404 "user" "Активный пользователь не найден" "")
  | .lookup =>
    if ¬ input.failed ∧ ¬ tables.Answers call.user input.role then none
    else if input.found = some .owner ∧ call.role ≠ .owner then some (tables, .setRole call .count)
    else some (tables, .setRole call (.delete input.found))
  | .count =>
    if input.failed ∨ tables.owners ≤ 1 then
      some (tables, .refused 409 "last-owner" "Нельзя изменить роль последнего владельца"
        "Сначала назначьте ещё одного Owner.")
    else some (tables, .setRole call (.delete (some .owner)))
  | .delete current =>
    if input.failed then some (tables, .refused 500 "db" "Роль не изменена" "")
    else some (tables, .setRole call (.insert current (tables.rolesOf call.user)))
  | .insert current deleted =>
    if input.failed ∨ (call.user, call.role) ∈ tables.roles \ deleted then
      some (tables, .refused 500 "db" "Роль не изменена" "")
    else some (tables, .setRole call (.commit current deleted))
  | .commit current deleted =>
    if input.failed then some (tables, .refused 500 "db" "Роль не изменена" "")
    else some ({ tables with
      roles := insert (call.user, call.role) (tables.roles \ deleted)
      audit := tables.audit ++ [⟨call.actor, "admin.role.set", "user", call.user, call.reason,
        [("from", .text (roleText current)), ("to", .text call.role.text)]⟩] },
      .finished (.ok ()))

/-- The statements of `App.removeAdminRole`, each a transaction of its own. The error of the last
one is ignored. -/
def removeAdminRole (tables : AdminTables) (call : RemoveRole) (input : AdminInput) :
    RemoveRolePhase → Option (AdminTables × AdminThread)
  | .lookup =>
    if ¬ input.failed ∧ ¬ tables.Answers call.user input.role then none
    else match input.found with
    | none => some (tables, .refused 404 "admin" "Администратор не найден" "")
    | some .owner => some (tables, .removeRole call .count)
    | some role => some (tables, .removeRole call (.delete role))
  | .count =>
    if input.failed ∨ tables.owners ≤ 1 then
      some (tables, .refused 409 "last-owner" "Нельзя удалить последнего владельца" "")
    else some (tables, .removeRole call (.delete .owner))
  | .delete current =>
    if input.failed then some (tables, .refused 500 "db" "Права не сняты" "")
    else some ({ tables with roles := tables.roles \ tables.rolesOf call.user },
      .removeRole call (.audit current))
  | .audit current =>
    if input.failed then some (tables, .finished (.ok ()))
    else some ({ tables with
      audit := tables.audit ++ [⟨call.actor, "admin.role.remove", "user", call.user, call.reason,
        [("role", .text current.text)]⟩] }, .finished (.ok ()))

/-- The statements of `App.updateUserStatus`. -/
def updateUserStatus (tables : AdminTables) (call : UpdateStatus) (input : AdminInput) :
    StatusPhase → Option (AdminTables × AdminThread)
  | .lookup =>
    if ¬ input.failed ∧ ¬ tables.Answers call.user input.role then none
    else if input.found.isSome ∧ call.status = .blocked then
      some (tables, .refused 409 "admin-block" "Сначала снимите административную роль" "")
    else some (tables, .updateStatus call .begin)
  | .begin =>
    if input.failed then some (tables, .refused 500 "db" "Статус не изменён" "")
    else some (tables, .updateStatus call (.update input.now))
  | .update begun =>
    if input.failed ∨ tables.users call.user = none then
      some (tables, .finished (.error .unknownUser))
    else if call.status = .blocked then some (tables, .updateStatus call (.revoke begun))
    else some (tables, .updateStatus call (.commit begun []))
  | .revoke begun =>
    if input.failed then some (tables, .refused 500 "db" "Статус не изменён" "")
    else some (tables, .updateStatus call (.commit begun (tables.assigned call.user)))
  | .commit _ found =>
    if input.failed then some (tables, .refused 500 "db" "Статус не изменён" "")
    else some ({ tables with
      users := Function.update tables.users call.user (some call.status)
      commands := tables.commands ++ found.map fun row ↦
        (row.1, .deviceRevoke ⟨row.2, "account blocked"⟩)
      audit := tables.audit ++ [⟨call.actor, "user.status", "user", call.user, call.reason,
        [("status", .text call.status.text)]⟩] }, .finished (.ok ()))

def adminMachine : Machine AdminTables AdminRequest AdminThread AdminInput Empty where
  enter := fun _ request ↦ request.enter
  advance := fun tables thread input ↦
    match thread with
    | .setRole call phase => setAdminRole tables call input phase
    | .removeRole call phase => removeAdminRole tables call input phase
    | .updateStatus call phase => updateUserStatus tables call input phase
    | .finished _ => none
  change := fun _ change ↦ nomatch change

abbrev AdminSystem := System ℕ AdminTables AdminThread

abbrev AdminEvent := Event ℕ AdminRequest AdminInput Empty

/-! ### Owners -/

section

variable (tables : AdminTables)

def AdminTables.IsOwner (user : UserId) : Prop :=
  tables.users user = some .active ∧ (user, .owner) ∈ tables.roles

def AdminTables.Owned : Prop := ∃ user, tables.IsOwner user

def AdminTables.Spared (user : UserId) : Prop :=
  ∃ other, other ≠ user ∧ tables.IsOwner other

/-- The lookup of a role leaves `owner` behind when the user has that role among others. -/
def AdminTables.AnswersOwner (user : UserId) (input : AdminInput) : Prop :=
  (user, .owner) ∈ tables.roles → input.found = some .owner

def AdminTables.OwnersActive : Prop :=
  ∀ row ∈ tables.roles, row.2 = .owner → tables.users row.1 = some .active

/-- The request is past its checks, and takes the role or the status from this user. -/
def AdminThread.Takes (user : UserId) : AdminThread → Prop
  | .setRole call (.delete _) | .setRole call (.insert _ _) | .setRole call (.commit _ _) =>
    call.user = user ∧ call.role ≠ .owner
  | .removeRole call (.delete _) => call.user = user
  | .updateStatus call .begin | .updateStatus call (.update _) | .updateStatus call (.revoke _)
  | .updateStatus call (.commit _ _) => call.user = user ∧ call.status = .blocked
  | _ => False

/-- What the condition asks of a step of a request: the lookup that decides whether the owners are
counted answers `owner` when it can, that of a block does not fail for an owner, and the owners that
are counted are active. -/
def AdminThread.Careful (input : AdminInput) : AdminThread → Prop
  | .setRole call .lookup => call.role ≠ .owner → tables.AnswersOwner call.user input
  | .setRole _ .count => tables.OwnersActive
  | .removeRole call .lookup => input.failed = true ∨ tables.AnswersOwner call.user input
  | .removeRole _ .count => tables.OwnersActive
  | .updateStatus call .lookup =>
    call.status = .blocked → (call.user, .owner) ∈ tables.roles → input.failed = false
  | _ => True

/-- Two requests are about to take two owners away. -/
def Contest (thread found : AdminThread) : Prop :=
  ∃ user user', user ≠ user' ∧ thread.Takes user ∧ found.Takes user' ∧
    (user, .owner) ∈ tables.roles ∧ (user', .owner) ∈ tables.roles

/-- The condition on the steps of a run: the steps of a request are careful, and it goes on only
while no other request is about to take another owner away. -/
def Spaced (system : AdminSystem) (event : AdminEvent) (_next : AdminSystem) : Prop :=
  ∀ slot input, event = .advance slot input → ∀ thread ∈ system.threads slot,
    thread.Careful system.shared input ∧ ∀ other, other ≠ slot → ∀ found ∈ system.threads other,
      ¬ Contest system.shared thread found

/-- The rows that a `DELETE` has found are those of its user. -/
def AdminThread.Finds : AdminThread → Prop
  | .setRole call (.insert _ deleted) | .setRole call (.commit _ deleted) =>
    ∀ row ∈ deleted, row.1 = call.user
  | _ => True

/-- What holds of a request in progress. -/
structure AdminThread.Sound (thread : AdminThread) : Prop where
  finds : thread.Finds
  spared : ∀ user, thread.Takes user → tables.Spared user

/-- What a step does to the owners: it takes away only the one it has announced, and then adds
none. -/
structure OwnersStepped (thread : AdminThread) (tables' : AdminTables) : Prop where
  keeps : ∀ user, tables.IsOwner user → tables'.IsOwner user ∨ thread.Takes user
  adds : ∀ user, thread.Takes user → ∀ other, (other, .owner) ∈ tables'.roles →
    (other, .owner) ∈ tables.roles

end

section Owners

variable {tables tables' : AdminTables} {thread thread' : AdminThread} {input : AdminInput}

theorem AdminTables.Owned.spared (howned : tables.Owned) {user : UserId}
    (hrole : (user, .owner) ∉ tables.roles) : tables.Spared user := by
  obtain ⟨owner, howner⟩ := howned
  refine ⟨owner, ?_, howner⟩
  rintro rfl
  exact hrole howner.2

theorem AdminTables.OwnersActive.spared (hactive : tables.OwnersActive)
    (howners : ¬ tables.owners ≤ 1) (user : UserId) : tables.Spared user := by
  obtain ⟨⟨owner, role⟩, hmem, hother⟩ :=
    Finset.exists_mem_ne (Nat.lt_of_not_le howners) (user, AdminRole.owner)
  obtain ⟨hmem, hrole⟩ := Finset.mem_filter.mp hmem
  dsimp only at hrole
  subst hrole
  refine ⟨owner, fun hsame ↦ hother (by rw [hsame]), hactive _ hmem rfl, hmem⟩

theorem AdminTables.AnswersOwner.spared {user : UserId} (hanswers : tables.AnswersOwner user input)
    (howned : tables.Owned) (hanswer : input.found ≠ some .owner) : tables.Spared user :=
  howned.spared fun hrole ↦ hanswer (hanswers hrole)

theorem AdminThread.Takes.unique {user other : UserId} (hother : thread.Takes other)
    (htakes : thread.Takes user) : other = user := by
  cases thread with
  | finished => cases htakes
  | setRole call phase =>
    cases phase with
    | «exists» | lookup | count => cases htakes
    | delete | insert | commit => exact hother.1.symm.trans htakes.1
  | removeRole call phase =>
    cases phase with
    | lookup | count | audit => cases htakes
    | delete => exact Eq.trans (Eq.symm hother) htakes
  | updateStatus call phase =>
    cases phase with
    | lookup => cases htakes
    | begin | update | revoke | commit => exact hother.1.symm.trans htakes.1

theorem OwnersStepped.refl : OwnersStepped tables thread tables :=
  ⟨fun _ ↦ .inl, fun _ _ _ ↦ id⟩

/-- Rows of one user are deleted, and perhaps another row of that user is inserted. -/
theorem OwnersStepped.of_roles {user : UserId} {deleted : Finset (UserId × AdminRole)}
    (husers : tables'.users = tables.users) (hdeleted : ∀ row ∈ deleted, row.1 = user)
    (hkept : tables.roles \ deleted ⊆ tables'.roles)
    (htakes : thread.Takes user ∨ (user, .owner) ∈ tables'.roles)
    (hadds : ∀ taken, thread.Takes taken → ∀ other, (other, .owner) ∈ tables'.roles →
      (other, .owner) ∈ tables.roles) : OwnersStepped tables thread tables' := by
  refine ⟨fun owner ⟨hactive, hrole⟩ ↦ ?_, hadds⟩
  rw [← husers] at hactive
  by_cases hsame : owner = user
  · subst hsame
    exact htakes.elim .inr fun hmem ↦ .inl ⟨hactive, hmem⟩
  · exact .inl ⟨hactive, hkept (Finset.mem_sdiff.mpr ⟨hrole, fun hmem ↦ hsame (hdeleted _ hmem)⟩)⟩

/-- An owner is left, since the one that is taken away is not the only one. -/
theorem OwnersStepped.owned (hstepped : OwnersStepped tables thread tables')
    (howned : tables.Owned) (hsound : thread.Sound tables) : tables'.Owned := by
  obtain ⟨owner, howner⟩ := howned
  rcases hstepped.keeps owner howner with hkept | htakes
  · exact ⟨owner, hkept⟩
  · obtain ⟨other, hother, hother'⟩ := hsound.spared owner htakes
    rcases hstepped.keeps other hother' with hkept | htakes'
    · exact ⟨other, hkept⟩
    · exact absurd (htakes'.unique htakes) hother

/-- A request that was spared stays so, unless two requests contest. -/
theorem OwnersStepped.spared (hstepped : OwnersStepped tables thread tables')
    (howned : tables'.Owned) {found : AdminThread} (hcontest : ¬ Contest tables thread found)
    {user : UserId} (hfound : found.Takes user) (hspared : tables.Spared user) :
    tables'.Spared user := by
  obtain ⟨owner, hother, howner⟩ := hspared
  rcases hstepped.keeps owner howner with hkept | htakes
  · exact ⟨owner, hother, hkept⟩
  · refine howned.spared fun hrole ↦ hcontest ?_
    exact ⟨owner, user, hother, htakes, hfound, howner.2, hstepped.adds owner htakes user hrole⟩

theorem setAdminRole_sound {call : SetRole} {phase : SetRolePhase} (howned : tables.Owned)
    (hcareful : AdminThread.Careful tables input (.setRole call phase))
    (hsound : AdminThread.Sound tables (.setRole call phase))
    (hstep : setAdminRole tables call input phase = some (tables', thread')) :
    OwnersStepped tables (.setRole call phase) tables' ∧ thread'.Sound tables' := by
  cases phase with
  | «exists» =>
    simp only [setAdminRole] at hstep
    split_ifs at hstep <;> cases hstep <;> exact ⟨.refl, trivial, nofun⟩
  | lookup =>
    simp only [setAdminRole] at hstep
    split_ifs at hstep with hanswers howner
    · cases hstep
      exact ⟨.refl, trivial, nofun⟩
    · cases hstep
      refine ⟨.refl, trivial, ?_⟩
      rintro _ ⟨rfl, hrole⟩
      exact (hcareful hrole).spared howned fun hanswer ↦ howner ⟨hanswer, hrole⟩
  | count =>
    simp only [setAdminRole] at hstep
    split_ifs at hstep with howners
    · cases hstep
      exact ⟨.refl, trivial, nofun⟩
    · cases hstep
      exact ⟨.refl, trivial, fun user _ ↦ hcareful.spared (fun hfew ↦ howners (.inr hfew)) user⟩
  | delete current =>
    simp only [setAdminRole] at hstep
    split_ifs at hstep <;> cases hstep
    · exact ⟨.refl, trivial, nofun⟩
    · exact ⟨.refl, fun row hrow ↦ (Finset.mem_filter.mp hrow).2, hsound.spared⟩
  | insert current deleted =>
    simp only [setAdminRole] at hstep
    split_ifs at hstep <;> cases hstep
    · exact ⟨.refl, trivial, nofun⟩
    · exact ⟨.refl, hsound.finds, hsound.spared⟩
  | commit current deleted =>
    simp only [setAdminRole] at hstep
    split_ifs at hstep <;> cases hstep
    · exact ⟨.refl, trivial, nofun⟩
    · refine ⟨.of_roles rfl hsound.finds (Finset.subset_insert _ _) ?_ ?_, trivial, nofun⟩
      · by_cases hrole : call.role = .owner
        · exact .inr (hrole ▸ Finset.mem_insert_self _ _)
        · exact .inl ⟨rfl, hrole⟩
      · rintro _ ⟨-, hrole⟩ other hmem
        rcases Finset.mem_insert.mp hmem with hsame | hold
        · exact absurd (congrArg Prod.snd hsame).symm hrole
        · exact (Finset.mem_sdiff.mp hold).1

theorem removeAdminRole_sound {call : RemoveRole} {phase : RemoveRolePhase} (howned : tables.Owned)
    (hcareful : AdminThread.Careful tables input (.removeRole call phase))
    (hstep : removeAdminRole tables call input phase = some (tables', thread')) :
    OwnersStepped tables (.removeRole call phase) tables' ∧ thread'.Sound tables' := by
  cases phase with
  | lookup =>
    simp only [removeAdminRole] at hstep
    split_ifs at hstep with hanswers
    split at hstep
    · cases hstep
      exact ⟨.refl, trivial, nofun⟩
    · cases hstep
      exact ⟨.refl, trivial, nofun⟩
    · rename_i role hrole hfound
      cases hstep
      refine ⟨.refl, trivial, ?_⟩
      rintro _ rfl
      rcases hcareful with hfailed | hcareful
      · rw [AdminInput.found, if_pos hfailed] at hfound
        cases hfound
      · refine hcareful.spared howned fun hanswer ↦ ?_
        exact hrole (Option.some.inj (hfound.symm.trans hanswer))
  | count =>
    simp only [removeAdminRole] at hstep
    split_ifs at hstep with howners
    · cases hstep
      exact ⟨.refl, trivial, nofun⟩
    · cases hstep
      exact ⟨.refl, trivial, fun user _ ↦ hcareful.spared (fun hfew ↦ howners (.inr hfew)) user⟩
  | delete current =>
    simp only [removeAdminRole] at hstep
    split_ifs at hstep <;> cases hstep
    · exact ⟨.refl, trivial, nofun⟩
    · refine ⟨.of_roles rfl (fun row hrow ↦ (Finset.mem_filter.mp hrow).2) subset_rfl (.inl rfl) ?_,
        trivial, nofun⟩
      exact fun _ _ other hmem ↦ (Finset.mem_sdiff.mp hmem).1
  | audit current =>
    simp only [removeAdminRole] at hstep
    split_ifs at hstep <;> cases hstep
    · exact ⟨.refl, trivial, nofun⟩
    · exact ⟨⟨fun _ ↦ .inl, fun _ _ _ ↦ id⟩, trivial, nofun⟩

/-- A lookup that did not fail and found no role was asked for a user without one. -/
theorem not_owner_of_answers {user : UserId} (hfound : input.found = none)
    (hanswers : ¬ (¬ input.failed = true ∧ ¬ tables.Answers user input.role))
    (hfailed : (user, .owner) ∈ tables.roles → input.failed = false) :
    (user, .owner) ∉ tables.roles := by
  intro hrole
  have hopen : ¬ input.failed = true := by simp [hfailed hrole]
  have hanswer : tables.Answers user input.role := not_not.mp fun hnot ↦ hanswers ⟨hopen, hnot⟩
  rw [AdminInput.found, if_neg hopen] at hfound
  rw [hfound] at hanswer
  have hmem : (user, AdminRole.owner) ∈ tables.rolesOf user :=
    Finset.mem_filter.mpr ⟨hrole, rfl⟩
  have hempty : tables.rolesOf user = ∅ := hanswer
  rw [hempty] at hmem
  exact Finset.notMem_empty _ hmem

theorem updateUserStatus_sound {call : UpdateStatus} {phase : StatusPhase} (howned : tables.Owned)
    (hcareful : AdminThread.Careful tables input (.updateStatus call phase))
    (hsound : AdminThread.Sound tables (.updateStatus call phase))
    (hstep : updateUserStatus tables call input phase = some (tables', thread')) :
    OwnersStepped tables (.updateStatus call phase) tables' ∧ thread'.Sound tables' := by
  cases phase with
  | lookup =>
    simp only [updateUserStatus] at hstep
    split_ifs at hstep with hanswers hadmin
    · cases hstep
      exact ⟨.refl, trivial, nofun⟩
    · cases hstep
      refine ⟨.refl, trivial, ?_⟩
      rintro _ ⟨rfl, hblocked⟩
      have hfound : input.found = none := by
        rw [← Option.not_isSome_iff_eq_none]
        exact fun hsome ↦ hadmin ⟨hsome, hblocked⟩
      exact howned.spared (not_owner_of_answers hfound hanswers (hcareful hblocked))
  | begin | update | revoke =>
    simp only [updateUserStatus] at hstep
    split_ifs at hstep <;> cases hstep
    · exact ⟨.refl, trivial, nofun⟩
    all_goals exact ⟨.refl, trivial, hsound.spared⟩
  | commit begun found =>
    simp only [updateUserStatus] at hstep
    split_ifs at hstep <;> cases hstep
    · exact ⟨.refl, trivial, nofun⟩
    · refine ⟨⟨fun owner ⟨hactive, hrole⟩ ↦ ?_, fun _ _ _ ↦ id⟩, trivial, nofun⟩
      by_cases hsame : owner = call.user
      · cases hstatus : call.status with
        | active => exact .inl ⟨by simp [hsame], hrole⟩
        | blocked => exact .inr ⟨hsame.symm, hstatus⟩
      · exact .inl ⟨by simpa [hsame] using hactive, hrole⟩

theorem AdminThread.Sound.advance (howned : tables.Owned) (hcareful : thread.Careful tables input)
    (hsound : thread.Sound tables)
    (hstep : adminMachine.advance tables thread input = some (tables', thread')) :
    OwnersStepped tables thread tables' ∧ thread'.Sound tables' := by
  cases thread with
  | setRole call phase => exact setAdminRole_sound howned hcareful hsound hstep
  | removeRole call phase => exact removeAdminRole_sound howned hcareful hstep
  | updateStatus call phase => exact updateUserStatus_sound howned hcareful hsound hstep
  | finished => cases hstep

theorem AdminRequest.sound_enter (request : AdminRequest) : request.enter.Sound tables := by
  unfold AdminRequest.enter
  split
  all_goals repeat' split
  all_goals exact ⟨trivial, nofun⟩

end Owners

/-- Assumes: a run from tables with an active owner, in which the checks of the requests see what
they ask for, and no two of them are about to take two owners away. There is an active owner in
every state. -/
theorem owner_remains {start : AdminTables} (hstart : start.Owned) {system : AdminSystem}
    (hreach : ReachableUnder adminMachine.step Spaced (System.idle start) system) :
    system.shared.Owned := by
  refine (Machine.invariant AdminTables.Owned (fun tables thread ↦ thread.Sound tables) hreach
    hstart (fun _ request _ ↦ request.sound_enter) ?_ fun _ change ↦ nomatch change).1
  intro system slot input next thread thread' tables howned hslot hsound hcondition hmove
  obtain ⟨hcareful, hspaced⟩ := hcondition slot input rfl thread hslot
  obtain ⟨hstepped, hsound'⟩ := hsound.advance howned hcareful hmove
  have howned' := hstepped.owned howned hsound
  refine ⟨howned', hsound', fun other found hother hfound hold ↦ ⟨hold.finds, ?_⟩⟩
  exact fun user htakes ↦ hstepped.spared howned' (hspaced other hother found hfound) htakes
    (hold.spared user htakes)

/-! ### Two owners and an owner of two roles -/

def twoAdmins (roles : Finset (UserId × AdminRole)) : AdminTables where
  users := fun user ↦ if user = "first" ∨ user = "second" then some .active else none
  roles := roles
  assigned := fun _ ↦ []
  commands := []
  audit := []

def twoOwners : AdminTables := twoAdmins {("first", .owner), ("second", .owner)}

def ownerOfTwoRoles : AdminTables := twoAdmins {("first", .owner), ("first", .support)}

def adminRun (start : AdminTables) (events : List AdminEvent) : AdminSystem :=
  (run adminMachine.step (System.idle start) events).getD (System.idle start)

def AdminInput.plain : AdminInput := ⟨none, false, 0⟩

def AdminInput.answer (role : AdminRole) : AdminInput := ⟨some role, false, 0⟩

/-- A removal next to a request that sets the role of the other owner again. -/
def removeSecond : List AdminEvent :=
  [.start 0 (.removeRole "first" "second" (some "left")), .advance 0 (.answer .owner),
    .start 1 (.setRole "second" "first" (some (some .owner, "confirmed"))), .advance 0 .plain,
    .advance 1 .plain, .advance 1 (.answer .owner), .advance 0 .plain, .advance 0 .plain]

def removeEachOther : List AdminEvent :=
  [.start 0 (.removeRole "first" "second" (some "left")),
    .start 1 (.removeRole "second" "first" (some "left")),
    .advance 0 (.answer .owner), .advance 1 (.answer .owner), .advance 0 .plain,
    .advance 1 .plain, .advance 0 .plain, .advance 1 .plain]

def removeTwoRoles : List AdminEvent :=
  [.start 0 (.removeRole "second" "first" (some "left")), .advance 0 (.answer .support),
    .advance 0 .plain]

/-- The block of an owner whose lookup fails. -/
def blockOwner : List AdminEvent :=
  [.start 0 (.updateStatus "second" "first" (some (some .blocked, "abuse"))),
    .advance 0 ⟨none, true, 0⟩, .advance 0 .plain, .advance 0 .plain, .advance 0 .plain,
    .advance 0 .plain]

theorem twoOwners_owned : twoOwners.Owned := ⟨"first", by decide, by decide⟩

theorem spaced_of_careful {system next : AdminSystem} {slot : ℕ} {input : AdminInput}
    {thread : AdminThread} (hslot : system.threads slot = some thread)
    (hcareful : thread.Careful system.shared input)
    (hothers : (∀ user, ¬ thread.Takes user) ∨ ∀ other, other ≠ slot →
      ∀ found ∈ system.threads other, ∀ user, ¬ found.Takes user) :
    Spaced system (.advance slot input) next := by
  rintro _ _ ⟨⟩ found hfound
  obtain rfl := Option.mem_unique hslot hfound
  refine ⟨hcareful, fun other hother found' hfound' ↦ ?_⟩
  rintro ⟨user, user', -, htakes, htakes', -⟩
  exact hothers.elim (fun hnone ↦ hnone user htakes)
    fun hnone ↦ hnone other hother found' hfound' user' htakes'

theorem owner_remains_of_two :
    (adminRun twoOwners removeSecond).shared.roles = {("first", .owner)} ∧
    (adminRun twoOwners removeSecond).shared.Owned := by
  have hactive : twoOwners.OwnersActive := by
    unfold AdminTables.OwnersActive
    decide
  -- the other request sets the role of an owner, so that it takes none away
  have hset : ∀ {phase : SetRolePhase} (user : UserId),
      ¬ (AdminThread.setRole ⟨"second", "first", .owner, "confirmed"⟩ phase).Takes user := by
    intro phase user htakes
    cases phase with
    | «exists» | lookup | count => cases htakes
    | delete | insert | commit => exact htakes.2 rfl
  have hmeets : RunMeets adminMachine.step Spaced (System.idle twoOwners) removeSecond
      (adminRun twoOwners removeSecond) := by
    refine ⟨_, rfl, nofun, _, rfl, ?_, _, rfl, nofun, _, rfl, ?_, _, rfl, ?_, _, rfl, ?_, _, rfl,
      ?_, _, rfl, ?_, rfl⟩
    · exact spaced_of_careful rfl (.inr fun _ ↦ rfl) (.inl nofun)
    · exact spaced_of_careful rfl hactive (.inl nofun)
    · exact spaced_of_careful rfl trivial (.inl hset)
    · exact spaced_of_careful rfl (fun hrole ↦ absurd rfl hrole) (.inl hset)
    · refine spaced_of_careful rfl trivial (.inr fun other hother found hfound ↦ ?_)
      match other with
      | 0 => exact absurd rfl hother
      | 1 => exact Option.some.inj hfound ▸ hset
      | _ + 2 => cases hfound
    · exact spaced_of_careful rfl trivial (.inl nofun)
  exact ⟨by decide, owner_remains twoOwners_owned (reachableUnder_of_runMeets hmeets)⟩

/-- Both owners have lost their role. -/
theorem owners_remove_each_other :
    twoOwners.Owned ∧
    Reachable adminMachine.step (System.idle twoOwners)
      (adminRun twoOwners removeEachOther) ∧
    ¬ (adminRun twoOwners removeEachOther).shared.Owned := by
  have hroles : (adminRun twoOwners removeEachOther).shared.roles = ∅ := by decide
  refine ⟨twoOwners_owned, reachable_getD _, ?_⟩
  rintro ⟨user, -, hrole⟩
  rw [hroles] at hrole
  exact Finset.notMem_empty _ hrole

/-- One request is enough where the owner has another role, which the lookup may answer. -/
example : (adminRun ownerOfTwoRoles removeTwoRoles).shared.roles = ∅ := by decide

/-- A block goes on when its lookup of the role fails. -/
example : (adminRun ownerOfTwoRoles blockOwner).shared.users "first" = some .blocked := by decide

end RiseVpn.Control
