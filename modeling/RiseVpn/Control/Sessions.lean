import RiseVpn.Control.Database
import RiseVpn.Library.Threads

/-!
# Sessions in Redis and PostgreSQL

The requests that carry one session token, operation by operation on the two stores that hold the
session: the cache entry in Redis and the row of `auth_sessions`. `readSession` takes the cached
session or rebuilds it from the row, `requireSession` lets a request through, `adminMFAVerify`
writes the session back, and `logout` deletes the entry and then revokes the row. Any number of such
requests run at the same time; Redis may lose the entry at any time, users may be blocked and change
their role, and old rows are deleted.

After a logout the entry is gone and the row is revoked, so a request that comes later finds
neither. What brings the session back is a `SET` of a request that has read the session before: it
may come after the `DEL` of the logout. `SetBeforeDel` is the condition on the steps that excludes
this, `logout_final` the result, and `logout_undone` a run outside the condition: a request that
rebuilds the entry is overtaken by the logout.
-/

set_option autoImplicit false

namespace RiseVpn.Control

open Threads GuardedRun

/-! ### The stores and the requests -/

/-- `session`, the value of the cache entry. -/
structure AuthSession where
  userId : UserId
  csrf : String
  role : String
  adminMfa : Bool
  expiresAt : ℤ

/-- The row of a token in `auth_sessions`. -/
structure AuthRow where
  userId : UserId
  expiresAt : ℤ
  revokedAt : Option ℤ

inductive LogoutStage
  | none
  | deleted
  | completed
  deriving DecidableEq

/-- The cache entry and the row of one token, with what the queries join to the row: the users that
are active and the role of each. -/
structure SessionStores where
  clock : ℤ
  cache : Option AuthSession
  row : Option AuthRow
  active : UserId → Bool
  role : UserId → String
  stage : LogoutStage

/-- What a request with the token asks for: `verify` is `adminMFAVerify` with the outcome of the
checks of the code, `other` any other handler behind `requireSession`. -/
inductive Endpoint
  | logout
  | verify (checked : Except Failure Unit)
  | other

/-- A request with the token. `safe` says that the method is `GET`, `HEAD` or `OPTIONS`. -/
structure WebRequest where
  endpoint : Endpoint
  csrfCookie : Option String
  safe : Bool
  csrfHeader : String

/-- The next operation of a request. `passed` is a request that `requireSession` has let through. -/
inductive SessionPhase
  | get
  | discard
  | query
  | rebuild (session : AuthSession)
  | authorize (session : AuthSession)
  | passed (session : AuthSession)
  | writeBack (session : AuthSession)
  | delete
  | revoke
  | answered
  | refused (failure : Failure)

/-- A request in progress. `late` says that a logout had completed when it came. -/
structure SessionThread where
  request : WebRequest
  late : Bool
  phase : SessionPhase

/-! ### The handlers -/

/-- The problem of `requireSession` for an error of `readSession`. -/
def unauthorized : Failure := .problem 401 "unauthorized" "Нужен вход" "Войдите через Telegram."

/-- The `SELECT … FROM auth_sessions` of `readSession`, with the cookie it checks before. The second
factor is not restored. -/
def rebuiltSession (stores : SessionStores) (csrfCookie : Option String) : Option AuthSession :=
  match csrfCookie, stores.row with
  | some csrf, some row =>
    if csrf ≠ "" ∧ row.revokedAt = none ∧ stores.clock < row.expiresAt ∧
        stores.active row.userId then
      some ⟨row.userId, csrf, stores.role row.userId, false, row.expiresAt⟩
    else none
  | _, _ => none

/-- The rest of `requireSession` after `readSession`. -/
def requireSession (stores : SessionStores) (request : WebRequest) (session : AuthSession) :
    SessionPhase :=
  if ¬ stores.active session.userId then .refused .blocked
  else if ¬ request.safe ∧ request.csrfHeader ≠ session.csrf then
    .refused (.problem 403 "csrf" "Проверка запроса не пройдена"
      "Обновите страницу и повторите действие.")
  else .passed session

/-- What a request does once it was let through, up to its next operation on the session. -/
def serve (request : WebRequest) (session : AuthSession) : SessionPhase :=
  match request.endpoint with
  | .verify checked =>
    if session.role = "" then .refused (.problem 403 "forbidden" "Недостаточно прав" "")
    else match checked with
    | .error failure => .refused failure
    | .ok () => .writeBack { session with adminMfa := true }
  | _ => .answered

def SessionThread.next (stores : SessionStores) (request : WebRequest) :
    SessionPhase → Option (SessionStores × SessionPhase)
  | .get =>
    match stores.cache with
    | some session =>
      if stores.clock < session.expiresAt then some (stores, .authorize session)
      else some (stores, .discard)
    | none => some (stores, .query)
  | .discard => some ({ stores with cache := none }, .query)
  | .query =>
    match rebuiltSession stores request.csrfCookie with
    | some session => some (stores, .rebuild session)
    | none => some (stores, .refused unauthorized)
  | .rebuild session => some ({ stores with cache := some session }, .authorize session)
  | .authorize session => some (stores, requireSession stores request session)
  | .passed session => some (stores, serve request session)
  | .writeBack session => some ({ stores with cache := some session }, .answered)
  | .delete =>
    some ({ stores with
      cache := none
      stage := if stores.stage = .none then .deleted else stores.stage }, .revoke)
  | .revoke =>
    some ({ stores with
      row := stores.row.map fun row ↦
        if row.revokedAt = none then { row with revokedAt := some stores.clock } else row
      stage := .completed }, .answered)
  | .answered => none
  | .refused _ => none

/-- What happens to the stores besides the requests: time passes, Redis loses the entry, a user is
blocked or unblocked, a role changes, the row is deleted after its retention. -/
inductive SessionChange
  | tick (elapsed : ℕ)
  | evict
  | setActive (user : UserId) (active : Bool)
  | setRole (user : UserId) (role : String)
  | retire

def sessionMachine : Machine SessionStores WebRequest SessionThread Unit SessionChange where
  enter := fun stores request ↦
    { request
      late := stores.stage = .completed
      phase := match request.endpoint with
        | .logout => .delete
        | _ => .get }
  advance := fun stores thread _ ↦
    (SessionThread.next stores thread.request thread.phase).map fun result ↦
      (result.1, { thread with phase := result.2 })
  change := fun stores change ↦
    match change with
    | .tick elapsed => some { stores with clock := stores.clock + elapsed }
    | .evict => some { stores with cache := none }
    | .setActive user active =>
      some { stores with active := Function.update stores.active user active }
    | .setRole user role => some { stores with role := Function.update stores.role user role }
    | .retire => some { stores with row := none }

abbrev SessionSystem := System ℕ SessionStores SessionThread

abbrev SessionEvent := Event ℕ WebRequest Unit SessionChange

/-! ### Logout -/

def SessionPhase.Sets : SessionPhase → Prop
  | .rebuild _ | .writeBack _ => True
  | _ => False

instance (phase : SessionPhase) : Decidable phase.Sets := by
  unfold SessionPhase.Sets
  split <;> infer_instance

/-- The condition on the steps of a run: a session is put into the cache only as long as no logout
has deleted the entry. -/
def SetBeforeDel (system : SessionSystem) (event : SessionEvent) (_next : SessionSystem) : Prop :=
  match event with
  | .advance slot _ =>
    ∀ thread ∈ system.threads slot, thread.phase.Sets → system.shared.stage = .none
  | _ => True

instance (system : SessionSystem) (event : SessionEvent) (next : SessionSystem) :
    Decidable (SetBeforeDel system event next) := by
  unfold SetBeforeDel
  split <;> infer_instance

structure LoggedOut (stores : SessionStores) : Prop where
  cache : stores.stage ≠ .none → stores.cache = none
  row : stores.stage = .completed → ∀ row ∈ stores.row, row.revokedAt ≠ none

/-- How far a request that came after a logout may have got. -/
def SessionPhase.Outside : SessionPhase → Prop
  | .get | .query | .delete | .revoke | .answered | .refused _ => True
  | _ => False

/-- What holds of a request in progress: it revokes the row only once the entry is deleted, and one
that came after a logout was not let through. -/
structure SessionThread.Sound (stores : SessionStores) (thread : SessionThread) : Prop where
  revoke : thread.phase = .revoke → stores.stage ≠ .none
  late : thread.late = true → stores.stage = .completed ∧ thread.phase.Outside

section Logout

variable {stores stores' : SessionStores} {request : WebRequest} {phase phase' : SessionPhase}

theorem LoggedOut.rebuiltSession_eq_none (hlogged : LoggedOut stores)
    (hstage : stores.stage = .completed) (csrfCookie : Option String) :
    rebuiltSession stores csrfCookie = none := by
  unfold rebuiltSession
  split
  · rename_i csrf row hrow
    refine if_neg fun hcheck ↦ ?_
    exact hlogged.row hstage row hrow hcheck.2.1
  · rfl

theorem next_get (hnext : SessionThread.next stores request .get = some (stores', phase')) :
    stores' = stores ∧ ((stores.cache = none ∧ phase' = .query) ∨
      ∃ session, stores.cache = some session ∧
        (phase' = .authorize session ∨ phase' = .discard)) := by
  simp only [SessionThread.next] at hnext
  split at hnext
  · rename_i session hcache
    split_ifs at hnext <;> cases hnext
    · exact ⟨rfl, .inr ⟨session, hcache, .inl rfl⟩⟩
    · exact ⟨rfl, .inr ⟨session, hcache, .inr rfl⟩⟩
  · rename_i hcache
    cases hnext
    exact ⟨rfl, .inl ⟨hcache, rfl⟩⟩

theorem next_query (hnext : SessionThread.next stores request .query = some (stores', phase')) :
    stores' = stores ∧ (phase' = .refused unauthorized ∨
      ∃ session, rebuiltSession stores request.csrfCookie = some session ∧
        phase' = .rebuild session) := by
  simp only [SessionThread.next] at hnext
  split at hnext
  · rename_i session hsession
    cases hnext
    exact ⟨rfl, .inr ⟨session, hsession, rfl⟩⟩
  · cases hnext
    exact ⟨rfl, .inl rfl⟩

theorem revoke_next (hnext : SessionThread.next stores request phase = some (stores', .revoke)) :
    stores'.stage ≠ .none := by
  cases phase with
  | get =>
    rcases next_get hnext with ⟨-, ⟨-, hphase⟩ | ⟨session, -, hphase | hphase⟩⟩ <;> cases hphase
  | query => rcases next_query hnext with ⟨-, hphase | ⟨session, -, hphase⟩⟩ <;> cases hphase
  | authorize session =>
    obtain ⟨-, hphase⟩ := Prod.mk.inj (Option.some.inj hnext)
    unfold requireSession at hphase
    split_ifs at hphase
  | passed session =>
    obtain ⟨-, hphase⟩ := Prod.mk.inj (Option.some.inj hnext)
    unfold serve at hphase
    repeat' split at hphase
    all_goals cases hphase
  | delete =>
    cases hnext
    dsimp only
    split_ifs with hnone
    · simp
    · exact hnone
  | _ => cases hnext

section

variable (hnext : SessionThread.next stores request phase = some (stores', phase'))

include hnext

theorem stage_next : (stores.stage ≠ .none → stores'.stage ≠ .none) ∧
      (stores.stage = .completed → stores'.stage = .completed) := by
  cases phase with
  | get =>
    rcases next_get hnext with ⟨rfl, -⟩
    exact ⟨id, id⟩
  | query =>
    rcases next_query hnext with ⟨rfl, -⟩
    exact ⟨id, id⟩
  | discard | rebuild | authorize | passed | writeBack =>
    cases hnext
    exact ⟨id, id⟩
  | delete =>
    cases hnext
    exact ⟨fun hstage ↦ by simp [hstage], fun hstage ↦ by simp [hstage]⟩
  | revoke =>
    cases hnext
    exact ⟨fun _ ↦ by simp, fun _ ↦ rfl⟩
  | answered | refused => cases hnext

theorem LoggedOut.next (hlogged : LoggedOut stores) (hsets : phase.Sets → stores.stage = .none)
    (hrevoke : phase = .revoke → stores.stage ≠ .none) : LoggedOut stores' := by
  cases phase with
  | get =>
    rcases next_get hnext with ⟨rfl, -⟩
    exact hlogged
  | query =>
    rcases next_query hnext with ⟨rfl, -⟩
    exact hlogged
  | discard =>
    cases hnext
    exact ⟨fun _ ↦ rfl, hlogged.row⟩
  | rebuild session | writeBack session =>
    cases hnext
    exact ⟨fun hstage ↦ absurd (hsets trivial) hstage, hlogged.row⟩
  | authorize session | passed session =>
    cases hnext
    exact hlogged
  | delete =>
    cases hnext
    refine ⟨fun _ ↦ rfl, fun hstage ↦ hlogged.row ?_⟩
    dsimp only at hstage
    split_ifs at hstage
    exact hstage
  | revoke =>
    cases hnext
    refine ⟨fun _ ↦ hlogged.cache (hrevoke rfl), fun _ row hrow ↦ ?_⟩
    obtain ⟨old, -, rfl⟩ := Option.map_eq_some_iff.mp hrow
    split_ifs with hrevoked
    · simp
    · exact hrevoked
  | answered | refused => cases hnext

theorem outside_next (hlogged : LoggedOut stores) (hstage : stores.stage = .completed)
    (houtside : phase.Outside) : phase'.Outside := by
  have hcache : stores.cache = none := hlogged.cache (by simp [hstage])
  cases phase with
  | get =>
    rcases next_get hnext with ⟨-, ⟨-, rfl⟩ | ⟨session, hsession, -⟩⟩
    · trivial
    · cases hcache.symm.trans hsession
  | query =>
    rcases next_query hnext with ⟨-, rfl | ⟨session, hsession, -⟩⟩
    · trivial
    · cases (hlogged.rebuiltSession_eq_none hstage _).symm.trans hsession
  | delete | revoke =>
    cases hnext
    trivial
  | answered | refused => cases hnext
  | discard | rebuild | authorize | passed | writeBack => cases houtside

theorem SessionThread.Sound.next {late : Bool} (hlogged : LoggedOut stores)
    (hsound : SessionThread.Sound stores ⟨request, late, phase⟩) :
    SessionThread.Sound stores' ⟨request, late, phase'⟩ := by
  refine ⟨fun hphase ↦ ?_, fun hlate ↦ ?_⟩
  · cases hphase
    exact revoke_next hnext
  · obtain ⟨hstage, houtside⟩ := hsound.late hlate
    exact ⟨(stage_next hnext).2 hstage, outside_next hnext hlogged hstage houtside⟩

end

theorem SessionThread.Sound.of_stage {thread : SessionThread}
    (hsound : SessionThread.Sound stores thread)
    (hkept : (stores.stage ≠ .none → stores'.stage ≠ .none) ∧
      (stores.stage = .completed → stores'.stage = .completed)) :
    SessionThread.Sound stores' thread :=
  ⟨fun hphase ↦ hkept.1 (hsound.revoke hphase),
    fun hlate ↦ ⟨hkept.2 (hsound.late hlate).1, (hsound.late hlate).2⟩⟩

/-- Assumes: a run from no request in progress and no logout, in which no session is put into the
cache once a logout has deleted the entry. No request that came after a completed logout is let
through. -/
theorem logout_final {start : SessionStores} (hstart : start.stage = .none)
    {system : SessionSystem}
    (hreach : ReachableUnder sessionMachine.step SetBeforeDel (System.idle start) system)
    {slot : ℕ} {thread : SessionThread} (hthread : system.threads slot = some thread)
    (hlate : thread.late = true) (session : AuthSession) : thread.phase ≠ .passed session := by
  have hinvariant := Machine.invariant LoggedOut SessionThread.Sound hreach
    ⟨fun hstage ↦ absurd hstart hstage, fun hstage ↦ by simp [hstart] at hstage⟩
    (fun stores request hlogged ↦ ?_)
    (fun system slot input next thread thread' shared hlogged hslot hsound hcondition hmove ↦ ?_)
    (fun system change next shared hlogged _ hmove ↦ ?_)
  · intro hphase
    obtain ⟨-, houtside⟩ := (hinvariant.2 slot thread hthread).late hlate
    rw [hphase] at houtside
    exact houtside
  · refine ⟨fun hphase ↦ ?_, fun hlate ↦ ⟨of_decide_eq_true hlate, ?_⟩⟩
    · cases hendpoint : request.endpoint <;> simp [sessionMachine, hendpoint] at hphase
    · cases hendpoint : request.endpoint <;>
        simp [sessionMachine, hendpoint, SessionPhase.Outside]
  · obtain ⟨request, late, phase⟩ := thread
    obtain ⟨⟨stores', phase'⟩, hnext, hresult⟩ := Option.map_eq_some_iff.mp hmove
    cases hresult
    exact ⟨hlogged.next hnext (hcondition _ hslot) hsound.revoke,
      hsound.next hnext hlogged, fun _ _ _ _ hother ↦ hother.of_stage (stage_next hnext)⟩
  · cases change with
    | tick | setActive | setRole =>
      cases hmove
      exact ⟨⟨hlogged.cache, hlogged.row⟩, fun _ _ _ hsound ↦ ⟨hsound.revoke, hsound.late⟩⟩
    | evict =>
      cases hmove
      exact ⟨⟨fun _ ↦ rfl, hlogged.row⟩, fun _ _ _ hsound ↦ ⟨hsound.revoke, hsound.late⟩⟩
    | retire =>
      cases hmove
      exact ⟨⟨hlogged.cache, fun _ _ hrow ↦ by cases hrow⟩,
        fun _ _ _ hsound ↦ ⟨hsound.revoke, hsound.late⟩⟩

end Logout

/-! ### A request that is overtaken by a logout -/

def dayStores (cache : Option AuthSession) : SessionStores where
  clock := 0
  cache := cache
  row := some ⟨"user", day, none⟩
  active := fun _ ↦ true
  role := fun _ ↦ ""
  stage := .none

def pageRequest : WebRequest := ⟨.other, some "csrf", true, ""⟩

def logoutRequest : WebRequest := ⟨.logout, some "csrf", false, "csrf"⟩

def readLogoutRead : List SessionEvent :=
  [.start 0 pageRequest, .advance 0 (), .advance 0 (), .advance 0 (), .start 1 logoutRequest,
    .advance 1 (), .advance 1 (), .start 2 pageRequest, .advance 2 (), .advance 2 ()]

def logoutOvertakes : List SessionEvent :=
  [.change .evict, .start 0 pageRequest, .advance 0 (), .advance 0 (), .start 1 logoutRequest,
    .advance 1 (), .advance 1 (), .advance 0 (), .start 2 pageRequest, .advance 2 (), .advance 2 ()]

def sessionRun (events : List SessionEvent) : SessionSystem :=
  (run sessionMachine.step
    (System.idle (dayStores (some ⟨"user", "csrf", "", false, day⟩))) events).getD
      (System.idle (dayStores none))

theorem logout_final_page :
    ((sessionRun readLogoutRead).threads 2).map SessionThread.late = some true ∧
    ∀ thread ∈ (sessionRun readLogoutRead).threads 2, ∀ session,
      thread.phase ≠ .passed session := by
  have hrun : runUnder sessionMachine.step SetBeforeDel
      (System.idle (dayStores (some ⟨"user", "csrf", "", false, day⟩))) readLogoutRead =
        some (sessionRun readLogoutRead) := rfl
  refine ⟨rfl, fun thread hthread ↦ ?_⟩
  refine logout_final rfl (reachableUnder_of_runUnder hrun) hthread ?_
  cases hthread
  rfl

/-- The entry that was set after the logout lets a later request through. -/
theorem logout_undone :
    Reachable sessionMachine.step
      (System.idle (dayStores (some ⟨"user", "csrf", "", false, day⟩)))
      (sessionRun logoutOvertakes) ∧
    (sessionRun logoutOvertakes).shared.row = some ⟨"user", day, some 0⟩ ∧
    (sessionRun logoutOvertakes).threads 2 =
      some ⟨pageRequest, true, .passed ⟨"user", "csrf", "", false, day⟩⟩ := by
  have hrun : run sessionMachine.step
      (System.idle (dayStores (some ⟨"user", "csrf", "", false, day⟩))) logoutOvertakes =
        some (sessionRun logoutOvertakes) := rfl
  exact ⟨reachable_of_run hrun, rfl, rfl⟩

end RiseVpn.Control
