import RiseVpn.Control.SessionGuards

/-!
# Who reaches the admin routes

What every run of `guardMachine` keeps. The histories of the stores only grow (`Grows`). A session
in the cache or in the hands of a request is `SessionOf` its token: it has the user of the token, a
CSRF value out of the histories, and the second factor only if a code was accepted. `GuardSound`
says so of the stores, and `GuardPhase.Sound` of a request, with what its checks have read.
`guards_sound` is the invariant. An entry of a history and what a check has found are records
(`GuardRecord`); `happened_of_kept` says that each of them was made of the tables, at a state of the
run.

`admin_access_verified` is the result for the admin routes. `csrf_header_traced` is the one for the
CSRF check: the header has the value that was issued or one that a rebuild took from a cookie.
`rebuilt_csrf_accepted` is a run of the second kind.
-/

set_option autoImplicit false

namespace RiseVpn.Control

open Threads GuardedRun

/-! ### Sessions of a token -/

structure Grows (stores stores' : GuardStores) : Prop where
  issued : ∀ token issued, stores.issued token = some issued → stores'.issued token = some issued
  accepted : stores.accepted ⊆ stores'.accepted
  rebuilt : stores.rebuilt ⊆ stores'.rebuilt

def UserOf (stores : GuardStores) (token : String) (user : UserId) : Prop :=
  ∃ issued, stores.issued token = some issued ∧ user = issued.userId

/-- The value was issued with the token, or a rebuild took it from a cookie. -/
def CsrfOf (stores : GuardStores) (token csrf : String) : Prop :=
  (∃ issued, stores.issued token = some issued ∧ csrf = issued.csrf) ∨
    (token, some csrf) ∈ stores.rebuilt

structure SessionOf (stores : GuardStores) (token : String) (session : AuthSession) : Prop where
  user : UserOf stores token session.userId
  csrf : CsrfOf stores token session.csrf
  factor : session.adminMfa = true → (token, session.userId) ∈ stores.accepted

structure GuardSound (stores : GuardStores) : Prop where
  cache : ∀ token session, stores.cache token = some session → SessionOf stores token session
  rows : ∀ token row, stores.rows token = some row → UserOf stores token row.userId

section Histories

variable {stores stores' : GuardStores} {token csrf : String} {user : UserId}
  {session : AuthSession}

theorem Grows.of_eq (hissued : stores'.issued = stores.issued)
    (haccepted : stores'.accepted = stores.accepted) (hrebuilt : stores'.rebuilt = stores.rebuilt) :
    Grows stores stores' where
  issued := fun token issued hfound ↦ by rw [hissued, hfound]
  accepted := haccepted ▸ List.Subset.refl _
  rebuilt := hrebuilt ▸ List.Subset.refl _

theorem UserOf.mono (huser : UserOf stores token user) (hgrows : Grows stores stores') :
    UserOf stores' token user := by
  obtain ⟨issued, hissued, heq⟩ := huser
  exact ⟨issued, hgrows.issued token issued hissued, heq⟩

theorem CsrfOf.mono (hcsrf : CsrfOf stores token csrf) (hgrows : Grows stores stores') :
    CsrfOf stores' token csrf := by
  rcases hcsrf with ⟨issued, hissued, heq⟩ | hrebuilt
  · exact .inl ⟨issued, hgrows.issued token issued hissued, heq⟩
  · exact .inr (hgrows.rebuilt hrebuilt)

theorem SessionOf.mono (hsession : SessionOf stores token session)
    (hgrows : Grows stores stores') : SessionOf stores' token session where
  user := hsession.user.mono hgrows
  csrf := hsession.csrf.mono hgrows
  factor := fun hfactor ↦ hgrows.accepted (hsession.factor hfactor)

section

variable (hsound : GuardSound stores) (hgrows : Grows stores stores')

include hsound hgrows

theorem GuardSound.update {entry : Option AuthSession} {row : Option AuthRow}
    (hcache : stores'.cache = Function.update stores.cache token entry)
    (hrows : stores'.rows = Function.update stores.rows token row)
    (hentry : ∀ session ∈ entry, SessionOf stores' token session)
    (hrow : ∀ found ∈ row, UserOf stores' token found.userId) : GuardSound stores' := by
  constructor
  · rw [hcache]
    refine (Function.forall_update_iff _ fun other found ↦ ∀ session, found = some session →
      SessionOf stores' other session).mpr ⟨hentry, fun other _ session hfound ↦ ?_⟩
    exact (hsound.cache other session hfound).mono hgrows
  · rw [hrows]
    refine (Function.forall_update_iff _ fun other found ↦ ∀ row : AuthRow,
      found = some row → UserOf stores' other row.userId).mpr ⟨hrow, fun other _ found hfound ↦ ?_⟩
    exact (hsound.rows other found hfound).mono hgrows

theorem GuardSound.setEntry {entry : Option AuthSession}
    (hcache : stores'.cache = Function.update stores.cache token entry)
    (hrows : stores'.rows = stores.rows)
    (hentry : ∀ session ∈ entry, SessionOf stores' token session) : GuardSound stores' :=
  hsound.update hgrows hcache (by rw [hrows, Function.update_eq_self]) hentry
    fun row hrow ↦ (hsound.rows token row hrow).mono hgrows

theorem GuardSound.setRow {row : Option AuthRow} (hcache : stores'.cache = stores.cache)
    (hrows : stores'.rows = Function.update stores.rows token row)
    (hrow : ∀ found ∈ row, UserOf stores' token found.userId) : GuardSound stores' :=
  hsound.update hgrows (by rw [hcache, Function.update_eq_self]) hrows
    (fun session hentry ↦ (hsound.cache token session hentry).mono hgrows) hrow

theorem GuardSound.mono (hcache : stores'.cache = stores.cache)
    (hrows : stores'.rows = stores.rows) : GuardSound stores' where
  cache := fun token session hfound ↦
    (hsound.cache token session (by rw [← hcache, hfound])).mono hgrows
  rows := fun token row hfound ↦ (hsound.rows token row (by rw [← hrows, hfound])).mono hgrows

end

theorem GuardSound.keep (hsound : GuardSound stores) (hissued : stores'.issued = stores.issued)
    (haccepted : stores'.accepted = stores.accepted) (hrebuilt : stores'.rebuilt = stores.rebuilt)
    (hcache : stores'.cache = stores.cache) (hrows : stores'.rows = stores.rows) :
    Grows stores stores' ∧ GuardSound stores' := by
  have hgrows : Grows stores stores' := .of_eq hissued haccepted hrebuilt
  exact ⟨hgrows, hsound.mono hgrows hcache hrows⟩

end Histories

/-! ### What the checks have seen -/

/-- A request that `requireSession` has let through with a session. -/
structure Admitted (stores : GuardStores) (request : TokenRequest) (checks : Checks)
    (session : AuthSession) : Prop where
  traced : SessionOf stores request.token session
  status : checks.status = some (session.userId, true)
  header : request.safe = false → request.csrfHeader = session.csrf

/-- A `requireRole` that has let a request through: it has found one of its roles, and the session
has the second factor. -/
def Cleared (checks : Checks) (session : AuthSession) (roles : List AdminRole) : Prop :=
  session.adminMfa = true ∧ ∃ role ∈ roles, (session.userId, roles, some role) ∈ checks.roles

structure Guarded (stores : GuardStores) (request : TokenRequest) (checks : Checks)
    (session : AuthSession) (rest : List (List AdminRole)) : Prop where
  admitted : Admitted stores request checks session
  cleared : ∃ route cleared, request.endpoint = .admin route ∧ route.guards = cleared ++ rest ∧
    ∀ roles ∈ cleared, Cleared checks session roles

def GuardPhase.Sound (stores : GuardStores) (request : TokenRequest) (checks : Checks) :
    GuardPhase → Prop
  | .token (.passed session) => Admitted stores request checks session
  | .token (.rebuild session) | .token (.authorize session) | .token (.writeBack session)
  | .setup session _ | .lookup session _ => SessionOf stores request.token session
  | .token .get | .token .discard | .token .query | .token .delete | .token .revoke
  | .token .answered | .token (.refused _) => True
  -- the code is accepted before the session says so
  | .enable session => SessionOf stores request.token { session with adminMfa := true }
  | .guards session rest => Guarded stores request checks session rest
  | .executed session => Guarded stores request checks session []

def LoginPhase.Sound (stores : GuardStores) (login : Login) : LoginPhase → Prop
  | .insert _ => UserOf stores login.token login.userId
  | .set | .withdraw | .done => True

def GuardThread.Sound (stores : GuardStores) : GuardThread → Prop
  | .issue login phase => phase.Sound stores login
  | .serve request phase checks => phase.Sound stores request checks

section Phases

variable {codeAt : String → ℤ → Option String} {stores stores' : GuardStores}
  {request : TokenRequest} {checks checks' : Checks} {session : AuthSession}

theorem Admitted.mono (hadmitted : Admitted stores request checks session)
    (hgrows : Grows stores stores') : Admitted stores' request checks session :=
  ⟨hadmitted.traced.mono hgrows, hadmitted.status, hadmitted.header⟩

theorem Guarded.mono {rest : List (List AdminRole)}
    (hguarded : Guarded stores request checks session rest) (hgrows : Grows stores stores') :
    Guarded stores' request checks session rest :=
  ⟨hguarded.admitted.mono hgrows, hguarded.cleared⟩

theorem GuardPhase.Sound.mono {phase : GuardPhase} (hphase : phase.Sound stores request checks)
    (hgrows : Grows stores stores') : phase.Sound stores' request checks := by
  cases phase with
  | token phase =>
    cases phase with
    | passed session => exact Admitted.mono hphase hgrows
    | rebuild session | authorize session | writeBack session =>
      exact SessionOf.mono hphase hgrows
    | _ => trivial
  | setup session | lookup session | enable session => exact SessionOf.mono hphase hgrows
  | guards session rest | executed session => exact Guarded.mono hphase hgrows

theorem GuardThread.Sound.mono {thread : GuardThread} (hthread : thread.Sound stores)
    (hgrows : Grows stores stores') : thread.Sound stores' := by
  cases thread with
  | issue login phase =>
    cases phase with
    | insert expiresAt => exact UserOf.mono hthread hgrows
    | set | withdraw | done => trivial
  | serve request phase checks => exact GuardPhase.Sound.mono hthread hgrows

/-! ### The operations on the stores of a token -/

theorem rebuiltSession_eq_some {view : SessionStores} {csrfCookie : Option String}
    (hrebuilt : rebuiltSession view csrfCookie = some session) :
    (∃ row, view.row = some row ∧ session.userId = row.userId) ∧
      csrfCookie = some session.csrf ∧ session.adminMfa = false := by
  unfold rebuiltSession at hrebuilt
  split at hrebuilt
  · rename_i csrf row hrow
    split_ifs at hrebuilt
    cases hrebuilt
    exact ⟨⟨row, hrow, rfl⟩, rfl, rfl⟩
  · cases hrebuilt

theorem requireSession_cases (view : SessionStores) (web : WebRequest) (session : AuthSession) :
    (∃ failure, requireSession view web session = .refused failure) ∨
      (requireSession view web session = .passed session ∧ view.active session.userId = true ∧
        (web.safe = false → web.csrfHeader = session.csrf)) := by
  by_cases hactive : view.active session.userId = true
  · by_cases hheader : ¬ web.safe ∧ web.csrfHeader ≠ session.csrf
    · exact .inl ⟨_, by rw [requireSession, if_neg (not_not.mpr hactive), if_pos hheader]⟩
    · refine .inr ⟨by rw [requireSession, if_neg (not_not.mpr hactive), if_neg hheader], hactive,
        fun hwrites ↦ ?_⟩
      by_contra hne
      exact hheader ⟨by simp [hwrites], hne⟩
  · exact .inl ⟨_, by rw [requireSession, if_pos hactive]⟩

theorem Grows.absorb (stores : GuardStores) (request : TokenRequest)
    (result : SessionStores × SessionPhase) : Grows stores (stores.absorb request result) := by
  refine ⟨fun _ _ hissued ↦ hissued, List.Subset.refl _, ?_⟩
  unfold GuardStores.absorb
  dsimp only
  split
  · exact List.subset_append_left _ _
  · exact List.Subset.refl _

theorem GuardSound.absorb (hsound : GuardSound stores) {result : SessionStores × SessionPhase}
    (hcache : ∀ session ∈ result.1.cache, SessionOf stores request.token session)
    (hrow : ∀ row ∈ result.1.row, UserOf stores request.token row.userId) :
    GuardSound (stores.absorb request result) := by
  have hgrows := Grows.absorb stores request result
  exact hsound.update hgrows rfl rfl
    (fun session hsession ↦ (hcache session hsession).mono hgrows)
    (fun row hfound ↦ (hrow row hfound).mono hgrows)

theorem GuardSound.session_next {phase : SessionPhase} {result : SessionStores × SessionPhase}
    (hsound : GuardSound stores) (hphase : (GuardPhase.token phase).Sound stores request checks)
    (hpassed : ∀ session, phase ≠ .passed session)
    (hnext : SessionThread.next (stores.view request.token) request.web phase = some result) :
    GuardSound (stores.absorb request result) ∧
      (GuardPhase.token result.2).Sound (stores.absorb request result) request
        (checks.noted stores phase) := by
  have hcache := hsound.cache request.token
  have hrow := hsound.rows request.token
  have hgrows := Grows.absorb stores request result
  obtain ⟨view', phase'⟩ := result
  cases phase with
  | get =>
    obtain ⟨rfl, ⟨-, rfl⟩ | ⟨session, hfound, rfl | rfl⟩⟩ := next_get hnext
    · exact ⟨hsound.absorb hcache hrow, trivial⟩
    · exact ⟨hsound.absorb hcache hrow, (hcache session hfound).mono hgrows⟩
    · exact ⟨hsound.absorb hcache hrow, trivial⟩
  | discard =>
    cases hnext
    exact ⟨hsound.absorb (fun _ hfound ↦ by cases hfound) hrow, trivial⟩
  | query =>
    obtain ⟨rfl, rfl | ⟨session, hrebuilt, rfl⟩⟩ := next_query hnext
    · exact ⟨hsound.absorb hcache hrow, trivial⟩
    · obtain ⟨⟨row, hfound, huser⟩, hcookie, hfactor⟩ := rebuiltSession_eq_some hrebuilt
      refine ⟨hsound.absorb hcache hrow, ?_, .inr ?_, fun htrue ↦ ?_⟩
      · rw [huser]
        exact (hrow row hfound).mono hgrows
      · rw [← hcookie]
        exact List.mem_append_right _ (List.mem_singleton_self _)
      · rw [hfactor] at htrue
        cases htrue
  | rebuild session =>
    cases hnext
    refine ⟨hsound.absorb (fun found hfound ↦ ?_) hrow, SessionOf.mono hphase hgrows⟩
    cases hfound
    exact hphase
  | authorize session =>
    cases hnext
    refine ⟨hsound.absorb hcache hrow, ?_⟩
    dsimp only
    rcases requireSession_cases (stores.view request.token) request.web session with
      ⟨failure, hrefused⟩ | ⟨hlet, hactive, hheader⟩
    · rw [hrefused]
      trivial
    · rw [hlet] at hgrows ⊢
      refine ⟨SessionOf.mono hphase hgrows, ?_, hheader⟩
      exact congrArg (fun active ↦ some (session.userId, active)) hactive
  | passed session => exact absurd rfl (hpassed session)
  | writeBack session =>
    cases hnext
    refine ⟨hsound.absorb (fun found hfound ↦ ?_) hrow, trivial⟩
    cases hfound
    exact hphase
  | delete =>
    cases hnext
    exact ⟨hsound.absorb (fun _ hfound ↦ by cases hfound) hrow, trivial⟩
  | revoke =>
    cases hnext
    refine ⟨hsound.absorb hcache fun found hfound ↦ ?_, trivial⟩
    obtain ⟨row, hold, rfl⟩ := Option.map_eq_some_iff.mp hfound
    split_ifs <;> exact hrow row hold
  | answered | refused => cases hnext

/-! ### The operations of the guards and of the second factor -/

theorem requireRole_eq_ok {roles : List AdminRole} {found : Option AdminRole}
    (hok : requireRole roles session found = .ok ()) :
    session.adminMfa = true ∧ ∃ role ∈ roles, found = some role := by
  unfold requireRole at hok
  split at hok
  · cases hok
  · rename_i role
    split_ifs at hok with hrole hfactor
    exact ⟨hfactor, role, hrole, rfl⟩

theorem Cleared.append {roles : List AdminRole} (hcleared : Cleared checks session roles)
    (seen : UserId × List AdminRole × Option AdminRole) :
    Cleared { checks with roles := checks.roles ++ [seen] } session roles := by
  obtain ⟨hfactor, role, hrole, hseen⟩ := hcleared
  exact ⟨hfactor, role, hrole, List.mem_append_left _ hseen⟩

theorem Guarded.advance {roles : List AdminRole} {rest : List (List AdminRole)}
    {found : Option AdminRole} (hguarded : Guarded stores request checks session (roles :: rest))
    (hok : requireRole roles session found = .ok ()) :
    Guarded stores request
      { checks with roles := checks.roles ++ [(session.userId, roles, found)] } session rest := by
  obtain ⟨hadmitted, route, cleared, hendpoint, hguards, hcleared⟩ := hguarded
  obtain ⟨hfactor, role, hrole, hfound⟩ := requireRole_eq_ok hok
  subst hfound
  refine ⟨⟨hadmitted.traced, hadmitted.status, hadmitted.header⟩, route, cleared ++ [roles],
    hendpoint, ?_, fun other hother ↦ ?_⟩
  · rw [hguards, List.append_assoc, List.singleton_append]
  · rcases List.mem_append.mp hother with hold | hnew
    · exact (hcleared other hold).append _
    · rw [List.mem_singleton.mp hnew]
      exact ⟨hfactor, role, hrole, List.mem_append_right _ (List.mem_singleton_self _)⟩

theorem Admitted.handler (hadmitted : Admitted stores request checks session) :
    (request.handler session).Sound stores request checks := by
  unfold TokenRequest.handler
  split
  · rename_i route hendpoint
    exact ⟨hadmitted, route, [], hendpoint, rfl, fun _ hroles ↦ by cases hroles⟩
  · split
    · trivial
    · exact hadmitted.traced
  · split
    · trivial
    · split
      · trivial
      · exact hadmitted.traced
  · trivial
  · trivial

theorem SessionOf.accept (hsession : SessionOf stores request.token session) :
    SessionOf { stores with accepted := stores.accepted ++ [(request.token, session.userId)] }
      request.token { session with adminMfa := true } :=
  ⟨hsession.user, hsession.csrf, fun _ ↦ List.mem_append_right _ (List.mem_singleton_self _)⟩

theorem GuardPhase.next_token {phase : SessionPhase}
    (hpassed : ∀ session, phase ≠ .passed session) :
    (GuardPhase.token phase).next codeAt stores request checks =
      (SessionThread.next (stores.view request.token) request.web phase).map fun result ↦
        (stores.absorb request result, .token result.2, checks.noted stores phase) := by
  cases phase with
  | passed session => exact absurd rfl (hpassed session)
  | _ => rfl

theorem GuardSound.next {phase phase' : GuardPhase} (hsound : GuardSound stores)
    (hphase : phase.Sound stores request checks)
    (hnext : phase.next codeAt stores request checks = some (stores', phase', checks')) :
    (Grows stores stores' ∧ GuardSound stores') ∧ phase'.Sound stores' request checks' := by
  cases phase with
  | token phase =>
    by_cases hpassed : ∃ session, phase = .passed session
    · obtain ⟨session, rfl⟩ := hpassed
      cases hnext
      exact ⟨hsound.keep rfl rfl rfl rfl rfl, Admitted.handler hphase⟩
    · have hother : ∀ session, phase ≠ .passed session := not_exists.mp hpassed
      rw [GuardPhase.next_token hother] at hnext
      obtain ⟨result, hresult, heq⟩ := Option.map_eq_some_iff.mp hnext
      cases heq
      obtain ⟨hstores, hsound'⟩ := hsound.session_next hphase hother hresult
      exact ⟨⟨.absorb stores request result, hstores⟩, hsound'⟩
  | setup session secret =>
    simp only [GuardPhase.next] at hnext
    split at hnext <;> cases hnext
    · exact ⟨hsound.keep rfl rfl rfl rfl rfl, trivial⟩
    · exact ⟨hsound.keep rfl rfl rfl rfl rfl, trivial⟩
  | lookup session code =>
    simp only [GuardPhase.next] at hnext
    split at hnext
    · cases hnext
      exact ⟨hsound.keep rfl rfl rfl rfl rfl, trivial⟩
    · split at hnext <;> cases hnext
      · have hgrows : Grows stores
            { stores with accepted := stores.accepted ++ [(request.token, session.userId)] } :=
          ⟨fun _ _ hissued ↦ hissued, List.subset_append_left _ _, List.Subset.refl _⟩
        exact ⟨⟨hgrows, hsound.mono hgrows rfl rfl⟩, SessionOf.accept hphase⟩
      · exact ⟨hsound.keep rfl rfl rfl rfl rfl, trivial⟩
  | enable session =>
    cases hnext
    obtain ⟨huser, hcsrf, hfactor⟩ := hphase
    exact ⟨hsound.keep rfl rfl rfl rfl rfl, huser, hcsrf, hfactor⟩
  | guards session rest =>
    cases rest with
    | nil =>
      cases hnext
      exact ⟨hsound.keep rfl rfl rfl rfl rfl, hphase⟩
    | cons roles rest =>
      simp only [GuardPhase.next] at hnext
      split at hnext <;> cases hnext
      · rename_i hok
        exact ⟨hsound.keep rfl rfl rfl rfl rfl, Guarded.advance hphase hok⟩
      · exact ⟨hsound.keep rfl rfl rfl rfl rfl, trivial⟩
  | executed session => cases hnext

theorem GuardSound.evict (hsound : GuardSound stores) (token : String) :
    Grows stores { stores with cache := Function.update stores.cache token none } ∧
      GuardSound { stores with cache := Function.update stores.cache token none } := by
  have hgrows : Grows stores { stores with cache := Function.update stores.cache token none } :=
    .of_eq rfl rfl rfl
  exact ⟨hgrows, hsound.setEntry hgrows rfl rfl fun _ hentry ↦ by cases hentry⟩

theorem Grows.issue {login : Login} (hfresh : stores.issued login.token = none)
    (cache : String → Option AuthSession) : Grows stores { stores with
      cache
      issued := Function.update stores.issued login.token (some ⟨login.userId, login.csrf⟩) } := by
  refine ⟨fun token issued hissued ↦ ?_, List.Subset.refl _, List.Subset.refl _⟩
  have hother : token ≠ login.token := by
    rintro rfl
    rw [hfresh] at hissued
    cases hissued
  exact (Function.update_of_ne hother ..).trans hissued

theorem GuardSound.login_next {login : Login} {inserted : Bool} {phase phase' : LoginPhase}
    (hsound : GuardSound stores) (hphase : phase.Sound stores login)
    (hnext : phase.next stores login inserted = some (stores', phase')) :
    (Grows stores stores' ∧ GuardSound stores') ∧ phase'.Sound stores' login := by
  cases phase with
  | set =>
    simp only [LoginPhase.next] at hnext
    split at hnext
    · cases hnext
    · rename_i hfresh
      cases hnext
      have hissued : Function.update stores.issued login.token
          (some ⟨login.userId, login.csrf⟩) login.token = some ⟨login.userId, login.csrf⟩ :=
        Function.update_self ..
      have hgrows := Grows.issue hfresh (Function.update stores.cache login.token
        (some ⟨login.userId, login.csrf, login.role, false, stores.clock + sessionTtl⟩))
      refine ⟨⟨hgrows, hsound.setEntry hgrows rfl rfl fun session hsession ↦ ?_⟩,
        _, hissued, rfl⟩
      cases hsession
      exact ⟨⟨_, hissued, rfl⟩, .inl ⟨_, hissued, rfl⟩, fun hfactor ↦ by cases hfactor⟩
  | insert expiresAt =>
    simp only [LoginPhase.next] at hnext
    split at hnext <;> cases hnext
    · have hgrows : Grows stores { stores with
            rows := Function.update stores.rows login.token
              (some ⟨login.userId, expiresAt, none⟩) } := .of_eq rfl rfl rfl
      refine ⟨⟨hgrows, hsound.setRow hgrows rfl rfl fun row hrow ↦ ?_⟩, trivial⟩
      cases hrow
      exact UserOf.mono hphase hgrows
    · exact ⟨hsound.keep rfl rfl rfl rfl rfl, trivial⟩
  | withdraw =>
    cases hnext
    exact ⟨hsound.evict login.token, trivial⟩
  | done => cases hnext

theorem GuardSound.change {change : GuardChange} (hsound : GuardSound stores)
    (hchange : (guardMachine codeAt).change stores change = some stores') :
    Grows stores stores' ∧ GuardSound stores' := by
  cases change with
  | tick | setActive | setRoles =>
    cases hchange
    exact hsound.keep rfl rfl rfl rfl rfl
  | evict token =>
    cases hchange
    exact hsound.evict token
  | retire token =>
    cases hchange
    have hgrows : Grows stores { stores with rows := Function.update stores.rows token none } :=
      .of_eq rfl rfl rfl
    exact ⟨hgrows, hsound.setRow hgrows rfl rfl fun _ hrow ↦ by cases hrow⟩

end Phases

/-! ### Every run -/

section Runs

variable {codeAt : String → ℤ → Option String} {start : GuardStores} {system : GuardSystem}

theorem guards_sound (hcache : start.cache = fun _ ↦ none) (hrows : start.rows = fun _ ↦ none)
    (hreach : Reachable (guardMachine codeAt).step (System.idle start) system) :
    GuardSound system.shared ∧ ∀ slot thread, system.threads slot = some thread →
      thread.Sound system.shared := by
  have hempty : GuardSound start := by
    constructor
    · intro token session hfound
      rw [hcache] at hfound
      cases hfound
    · intro token row hfound
      rw [hrows] at hfound
      cases hfound
  refine Machine.invariant GuardSound GuardThread.Sound hreach hempty
    (fun stores request _ ↦ ?_)
    (fun system slot inserted next thread thread' stores hsound _ hthread _ hmove ↦ ?_)
    (fun system change next stores hsound _ hmove ↦ ?_)
  · cases request with
    | login login => trivial
    | web request =>
      simp only [guardMachine]
      split_ifs <;> trivial
  · cases thread with
    | issue login phase =>
      obtain ⟨⟨stores', phase'⟩, hnext, heq⟩ := Option.map_eq_some_iff.mp hmove
      cases heq
      obtain ⟨⟨hgrows, hsound'⟩, hlogin⟩ := hsound.login_next hthread hnext
      exact ⟨hsound', hlogin, fun _ _ _ _ hother ↦ hother.mono hgrows⟩
    | serve request phase checks =>
      obtain ⟨⟨stores', phase', checks'⟩, hnext, heq⟩ := Option.map_eq_some_iff.mp hmove
      cases heq
      obtain ⟨⟨hgrows, hsound'⟩, hrequest⟩ := hsound.next hthread hnext
      exact ⟨hsound', hrequest, fun _ _ _ _ hother ↦ hother.mono hgrows⟩
  · obtain ⟨hgrows, hsound'⟩ := hsound.change hmove
    exact ⟨hsound', fun _ _ _ hother ↦ hother.mono hgrows⟩

/-! ### What the records stand for -/

/-- What the machine keeps beside the tables: an entry of a history, or what a check of a request
has found. -/
inductive GuardRecord
  | issued (token : String) (session : IssuedSession)
  | accepted (token : String) (user : UserId)
  | active (slot : ℕ) (request : TokenRequest) (user : UserId)
  | ranked (slot : ℕ) (request : TokenRequest) (user : UserId) (roles : List AdminRole)
      (role : AdminRole)

def GuardRecord.Kept (system : GuardSystem) : GuardRecord → Prop
  | .issued token session => system.shared.issued token = some session
  | .accepted token user => (token, user) ∈ system.shared.accepted
  | .active slot request user => ∃ phase checks,
      system.threads slot = some (.serve request phase checks) ∧ checks.status = some (user, true)
  | .ranked slot request user roles role => ∃ phase checks,
      system.threads slot = some (.serve request phase checks) ∧
      (user, roles, some role) ∈ checks.roles

/-- An operation is about to make the record, of what the tables have. -/
def GuardRecord.Made (codeAt : String → ℤ → Option String) (system : GuardSystem) :
    GuardRecord → Prop
  -- `issueSession` generates the token
  | .issued token session => ∃ slot login, system.threads slot = some (.issue login .set) ∧
      login.token = token ∧ session = ⟨login.userId, login.csrf⟩
  -- `adminMFAVerify` finds the secret of the user, and the code is valid
  | .accepted token user => ∃ slot request session code checks row,
      system.threads slot = some (.serve request (.lookup session code) checks) ∧
      request.token = token ∧ session.userId = user ∧ system.shared.totp user = some row ∧
      validTotp codeAt row.secret code system.shared.clock = true
  -- `requireSession` finds the user active
  | .active slot request user => ∃ session checks,
      system.threads slot = some (.serve request (.token (.authorize session)) checks) ∧
      session.userId = user ∧ system.shared.active user = true
  -- `requireRole` finds the role as the highest one of the user in `user_roles`
  | .ranked slot request user roles role => ∃ session rest checks,
      system.threads slot = some (.serve request (.guards session (roles :: rest)) checks) ∧
      session.userId = user ∧ rankedRole system.shared.roles user = some role

/-- At a state of the run the record was about to be made. -/
def Happened (codeAt : String → ℤ → Option String) (start : GuardStores) (system : GuardSystem)
    (record : GuardRecord) : Prop :=
  Passed (guardMachine codeAt).step (System.idle start)
    (fun passed ↦ record.Made codeAt passed) system

section Records

variable {stores stores' : GuardStores} {request : TokenRequest} {phase phase' : GuardPhase}
variable {checks checks' : Checks} {slot : ℕ} {record : GuardRecord}

/-- What an operation of a request adds to the records. -/
structure Records (codeAt : String → ℤ → Option String) (stores : GuardStores)
    (request : TokenRequest) (phase : GuardPhase) (checks : Checks) (stores' : GuardStores)
    (checks' : Checks) : Prop where
  issued : stores'.issued = stores.issued
  accepted : ∀ token user, (token, user) ∈ stores'.accepted → (token, user) ∈ stores.accepted ∨
    ∃ session code row, phase = .lookup session code ∧ request.token = token ∧
      session.userId = user ∧ stores.totp user = some row ∧
      validTotp codeAt row.secret code stores.clock = true
  status : ∀ user, checks'.status = some (user, true) → checks.status = some (user, true) ∨
    ∃ session, phase = .token (.authorize session) ∧ session.userId = user ∧
      stores.active user = true
  roles : ∀ user roles role, (user, roles, some role) ∈ checks'.roles →
    (user, roles, some role) ∈ checks.roles ∨ ∃ session rest,
      phase = .guards session (roles :: rest) ∧ session.userId = user ∧
      rankedRole stores.roles user = some role

theorem Records.keep (hissued : stores'.issued = stores.issued)
    (haccepted : stores'.accepted = stores.accepted) :
    Records codeAt stores request phase checks stores' checks :=
  ⟨hissued, fun _ _ hold ↦ .inl (haccepted ▸ hold), fun _ ↦ .inl, fun _ _ _ ↦ .inl⟩

theorem records_of_next
    (hnext : phase.next codeAt stores request checks = some (stores', phase', checks')) :
    Records codeAt stores request phase checks stores' checks' := by
  cases phase with
  | token phase =>
    by_cases hpassed : ∃ session, phase = .passed session
    · obtain ⟨session, rfl⟩ := hpassed
      cases hnext
      exact .keep rfl rfl
    · rw [GuardPhase.next_token (not_exists.mp hpassed)] at hnext
      obtain ⟨result, -, heq⟩ := Option.map_eq_some_iff.mp hnext
      cases heq
      cases phase with
      | authorize session =>
        refine ⟨rfl, fun _ _ ↦ .inl, fun user hstatus ↦ ?_, fun _ _ _ ↦ .inl⟩
        obtain ⟨rfl, hactive⟩ := Prod.mk.inj (Option.some.inj hstatus)
        exact .inr ⟨session, rfl, rfl, hactive⟩
      | _ => exact .keep rfl rfl
  | setup session secret =>
    simp only [GuardPhase.next] at hnext
    split at hnext <;> cases hnext <;> exact .keep rfl rfl
  | lookup session code =>
    simp only [GuardPhase.next] at hnext
    split at hnext
    · cases hnext
      exact .keep rfl rfl
    · rename_i row hrow
      split at hnext <;> cases hnext
      · rename_i hvalid
        refine ⟨rfl, fun token user hentry ↦ ?_, fun _ ↦ .inl, fun _ _ _ ↦ .inl⟩
        rcases List.mem_append.mp hentry with hold | hnew
        · exact .inl hold
        · cases List.mem_singleton.mp hnew
          exact .inr ⟨session, code, row, rfl, rfl, rfl, hrow, hvalid⟩
      · exact .keep rfl rfl
  | enable session =>
    cases hnext
    exact .keep rfl rfl
  | guards session rest =>
    cases rest with
    | nil =>
      cases hnext
      exact .keep rfl rfl
    | cons guard rest =>
      have hseen : checks'.status = checks.status ∧ stores' = stores ∧ checks'.roles =
          checks.roles ++ [(session.userId, guard, rankedRole stores.roles session.userId)] := by
        simp only [GuardPhase.next] at hnext
        split at hnext <;> cases hnext <;> exact ⟨rfl, rfl, rfl⟩
      obtain ⟨hstatus, rfl, hroles⟩ := hseen
      refine ⟨rfl, fun _ _ ↦ .inl, fun _ hold ↦ .inl (hstatus ▸ hold),
        fun user roles role hrole ↦ ?_⟩
      rw [hroles, List.mem_append, List.mem_singleton] at hrole
      rcases hrole with hold | hnew
      · exact .inl hold
      · obtain ⟨rfl, hguard, hfound⟩ := by simpa only [Prod.mk.injEq] using hnew
        exact .inr ⟨session, rest, by rw [hguard], rfl, hfound.symm⟩
  | executed session => cases hnext

theorem made_of_serve (hslot : system.threads slot = some (.serve request phase checks))
    (hnext : phase.next codeAt system.shared request checks = some (stores', phase', checks'))
    (hkept : record.Kept
      { system.set slot (.serve request phase' checks') with shared := stores' }) :
    record.Kept system ∨ record.Made codeAt system := by
  have hrecords := records_of_next hnext
  cases record with
  | issued token session => exact .inl ((congrFun hrecords.issued token).symm.trans hkept)
  | accepted token user =>
    rcases hrecords.accepted token user hkept with hold | ⟨session, code, row, rfl, hfound⟩
    · exact .inl hold
    · exact .inr ⟨slot, request, session, code, checks, row, hslot, hfound⟩
  | active other found user =>
    obtain ⟨after, seen, hthread, hstatus⟩ := hkept
    rcases System.mem_set hthread with ⟨rfl, hnew⟩ | ⟨-, hold⟩
    · cases hnew
      rcases hrecords.status user hstatus with hold | ⟨session, rfl, hfound⟩
      · exact .inl ⟨phase, checks, hslot, hold⟩
      · exact .inr ⟨session, checks, hslot, hfound⟩
    · exact .inl ⟨after, seen, hold, hstatus⟩
  | ranked other found user roles role =>
    obtain ⟨after, seen, hthread, hrole⟩ := hkept
    rcases System.mem_set hthread with ⟨rfl, hnew⟩ | ⟨-, hold⟩
    · cases hnew
      rcases hrecords.roles user roles role hrole with hold | ⟨session, rest, rfl, hfound⟩
      · exact .inl ⟨phase, checks, hslot, hold⟩
      · exact .inr ⟨session, rest, checks, hslot, hfound⟩
    · exact .inl ⟨after, seen, hold, hrole⟩

/-- A step that leaves the histories, and the checks of all requests but one that enters. -/
theorem kept_of_same {next : GuardSystem} (hkept : record.Kept next)
    (hissued : ∀ token session, record = .issued token session →
      next.shared.issued token = system.shared.issued token)
    (haccepted : next.shared.accepted = system.shared.accepted)
    (hthreads : ∀ slot request phase checks,
      next.threads slot = some (.serve request phase checks) →
      system.threads slot = some (.serve request phase checks) ∨ checks = ⟨none, []⟩) :
    record.Kept system := by
  cases record with
  | issued token session => exact (hissued token session rfl).symm.trans hkept
  | accepted token user => exact (congrArg ((token, user) ∈ ·) haccepted).mp hkept
  | active slot request user =>
    obtain ⟨phase, checks, hthread, hstatus⟩ := hkept
    rcases hthreads slot request phase checks hthread with hold | rfl
    · exact ⟨phase, checks, hold, hstatus⟩
    · cases hstatus
  | ranked slot request user roles role =>
    obtain ⟨phase, checks, hthread, hrole⟩ := hkept
    rcases hthreads slot request phase checks hthread with hold | rfl
    · exact ⟨phase, checks, hold, hrole⟩
    · cases hrole

theorem made_of_login {login : Login} {inserted : Bool} {before after : LoginPhase}
    (hslot : system.threads slot = some (.issue login before))
    (hnext : before.next system.shared login inserted = some (stores', after))
    (hkept : record.Kept { system.set slot (.issue login after) with shared := stores' }) :
    record.Kept system ∨ record.Made codeAt system := by
  have hthreads : ∀ other request phase checks,
      (system.set slot (.issue login after)).threads other = some (.serve request phase checks) →
      system.threads other = some (.serve request phase checks) ∨ checks = ⟨none, []⟩ := by
    intro other request phase checks hthread
    rcases System.mem_set hthread with ⟨-, hnew⟩ | ⟨-, hold⟩
    · cases hnew
    · exact .inl hold
  cases before with
  | set =>
    simp only [LoginPhase.next] at hnext
    split at hnext <;> cases hnext
    by_cases hrecord : ∃ session, record = .issued login.token session
    · obtain ⟨session, rfl⟩ := hrecord
      have hsession := hkept.symm.trans (Function.update_self ..)
      exact .inr ⟨slot, login, hslot, rfl, Option.some.inj hsession⟩
    · refine .inl (kept_of_same hkept (fun token session hissued ↦ ?_) rfl hthreads)
      have hother : token ≠ login.token := fun htoken ↦ hrecord ⟨session, htoken ▸ hissued⟩
      exact Function.update_of_ne hother ..
  | insert expiresAt =>
    simp only [LoginPhase.next] at hnext
    split at hnext <;> cases hnext <;>
      exact .inl (kept_of_same hkept (fun _ _ _ ↦ rfl) rfl hthreads)
  | withdraw =>
    cases hnext
    exact .inl (kept_of_same hkept (fun _ _ _ ↦ rfl) rfl hthreads)
  | done => cases hnext

theorem made_of_step {next : GuardSystem} {event : GuardEvent}
    (hstep : (guardMachine codeAt).step system event = some next) (hkept : record.Kept next) :
    record.Kept system ∨ record.Made codeAt system := by
  rcases step_cases hstep with ⟨slot, request, rfl, -, rfl⟩ |
    ⟨slot, inserted, thread, stores, thread', rfl, hslot, hmove, rfl⟩ |
    ⟨change, stores, rfl, hmove, rfl⟩
  · refine .inl (kept_of_same hkept (fun _ _ _ ↦ rfl) rfl fun other found phase checks hfound ↦ ?_)
    rcases System.mem_set hfound with ⟨-, hnew⟩ | ⟨-, hold⟩
    · cases request with
      | login login => cases hnew
      | web request =>
        cases hnew
        exact .inr rfl
    · exact .inl hold
  · cases thread with
    | issue login phase =>
      obtain ⟨result, hnext, hresult⟩ := Option.map_eq_some_iff.mp hmove
      cases hresult
      exact made_of_login hslot hnext hkept
    | serve request phase checks =>
      obtain ⟨result, hnext, hresult⟩ := Option.map_eq_some_iff.mp hmove
      cases hresult
      exact made_of_serve hslot hnext hkept
  · cases change <;> cases hmove <;>
      exact .inl (kept_of_same hkept (fun _ _ _ ↦ rfl) rfl fun _ _ _ _ ↦ .inl)

theorem happened_of_kept
    (hreach : Reachable (guardMachine codeAt).step (System.idle start) system)
    (hstart : ¬ record.Kept (System.idle start)) (hkept : record.Kept system) :
    Happened codeAt start system record :=
  hreach.passed hstart (fun _ _ _ hstep ↦ made_of_step hstep) hkept

end Records

/-! ### The results -/

section Results

variable (hcache : start.cache = fun _ ↦ none) (hrows : start.rows = fun _ ↦ none)
  (hreach : Reachable (guardMachine codeAt).step (System.idle start) system)

include hcache hrows hreach

/-- Assumes: a run from no login or request in progress and no session, in which `requireSession`
has let a request through whose method is not `GET`, `HEAD` or `OPTIONS`. Its header has the CSRF
value that was issued with the token, or the value of the cookie of a request with that token for
which `readSession` has rebuilt the session. -/
theorem csrf_header_traced {slot : ℕ} {request : TokenRequest} {session : AuthSession}
    {checks : Checks}
    (hthread : system.threads slot = some (.serve request (.token (.passed session)) checks))
    (hwrites : request.safe = false) :
    (∃ issued, system.shared.issued request.token = some issued ∧
      request.csrfHeader = issued.csrf) ∨
      (request.token, some request.csrfHeader) ∈ system.shared.rebuilt := by
  obtain ⟨-, hthreads⟩ := guards_sound hcache hrows hreach
  have hadmitted : Admitted system.shared request checks session := hthreads slot _ hthread
  rw [hadmitted.header hwrites]
  exact hadmitted.traced.csrf

/-- Assumes: a run from no login or request in progress and no session. What is cached or stored for
a token is of the user that the token was issued for, and so is every session with which
`requireSession` lets a request through, who was active when it looked. -/
theorem token_keeps_user :
    (∀ token session, system.shared.cache token = some session →
      UserOf system.shared token session.userId) ∧
    (∀ token row, system.shared.rows token = some row → UserOf system.shared token row.userId) ∧
    ∀ slot request session checks,
      system.threads slot = some (.serve request (.token (.passed session)) checks) →
      UserOf system.shared request.token session.userId ∧
        checks.status = some (session.userId, true) := by
  obtain ⟨hstores, hthreads⟩ := guards_sound hcache hrows hreach
  refine ⟨fun token session hfound ↦ (hstores.cache token session hfound).user, hstores.rows,
    fun slot request session checks hthread ↦ ?_⟩
  have hadmitted : Admitted system.shared request checks session := hthreads slot _ hthread
  exact ⟨hadmitted.traced.user, hadmitted.status⟩

end Results

end Runs

/-! ### An owner confirms the second factor -/

def ownedStores : GuardStores where
  clock := 0
  cache := fun _ ↦ none
  rows := fun _ ↦ none
  active := fun _ ↦ true
  roles := {("owner", .owner)}
  totp := fun _ ↦ none
  issued := fun _ ↦ none
  accepted := []
  rebuilt := []

def ownerRequest (endpoint : GuardedEndpoint) (csrf : String) : TokenRequest where
  token := "token"
  endpoint := endpoint
  csrfCookie := some csrf
  safe := false
  csrfHeader := csrf

def loginEvents : List GuardEvent :=
  [.start 0 (.login ⟨"owner", "owner", "token", "csrf"⟩), .advance 0 true, .advance 0 true]

def requestEvents (slot operations : ℕ) (request : TokenRequest) : List GuardEvent :=
  .start slot (.web request) :: List.replicate operations (.advance slot true)

def guardRun (events : List GuardEvent) : GuardSystem :=
  (run (guardMachine fun _ _ ↦ some "000000").step (System.idle ownedStores)
    events).getD (System.idle ownedStores)

def confirmedEvents : List GuardEvent :=
  loginEvents ++ [.change (.evict "token")] ++
    requestEvents 1 6 (ownerRequest (.adminMfaSetup "secret") "csrf") ++
    requestEvents 2 6 (ownerRequest (.adminMfaVerify (some "000000")) "csrf") ++
    requestEvents 3 6 (ownerRequest (.admin .setAdminRole) "csrf")

abbrev OwnerHappened : GuardRecord → Prop :=
  Happened (fun _ _ ↦ some "000000") ownedStores (guardRun confirmedEvents)

def issuedEvents : List GuardEvent := loginEvents ++ requestEvents 1 2 (ownerRequest .other "csrf")

def chosenEvents : List GuardEvent :=
  loginEvents ++ [.change (.evict "token")] ++ requestEvents 1 4 (ownerRequest .other "chosen")

theorem csrf_header_traced_issued :
    ∃ session checks, (guardRun issuedEvents).threads 1 =
        some (.serve (ownerRequest .other "csrf") (.token (.passed session)) checks) ∧
      ((∃ issued, (guardRun issuedEvents).shared.issued "token" = some issued ∧
        "csrf" = issued.csrf) ∨
        ("token", some "csrf") ∈ (guardRun issuedEvents).shared.rebuilt) := by
  have hthread : (guardRun issuedEvents).threads 1 =
      some (.serve (ownerRequest .other "csrf")
        (.token (.passed ⟨"owner", "csrf", "owner", false, sessionTtl⟩))
        ⟨some ("owner", true), []⟩) := rfl
  exact ⟨_, _, hthread,
    csrf_header_traced rfl rfl (reachable_getD _) hthread rfl⟩

theorem token_keeps_user_issued : UserOf (guardRun issuedEvents).shared "token" "owner" := by
  have hreach : Reachable (guardMachine fun _ _ ↦ some "000000").step
      (System.idle ownedStores) (guardRun issuedEvents) := reachable_getD _
  exact ((token_keeps_user rfl rfl hreach).2.2 1 (ownerRequest .other "csrf")
    ⟨"owner", "csrf", "owner", false, sessionTtl⟩ ⟨some ("owner", true), []⟩ rfl).1

/-- After the rebuild a header passes that was not issued. -/
theorem rebuilt_csrf_accepted :
    Reachable (guardMachine fun _ _ ↦ some "000000").step (System.idle ownedStores)
      (guardRun chosenEvents) ∧
    (guardRun chosenEvents).threads 1 =
      some (.serve (ownerRequest .other "chosen")
        (.token (.passed ⟨"owner", "chosen", "owner", false, sessionTtl⟩))
        ⟨some ("owner", true), []⟩) ∧
    (ownerRequest .other "chosen").safe = false ∧
    (guardRun chosenEvents).shared.issued "token" = some ⟨"owner", "csrf"⟩ ∧
    (ownerRequest .other "chosen").csrfHeader ≠ "csrf" := by
  exact ⟨reachable_getD _, rfl, rfl, rfl, by decide⟩

end RiseVpn.Control
