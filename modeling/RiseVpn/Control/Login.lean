import RiseVpn.Control.Database
import RiseVpn.Library.Threads

/-!
# Logins through Telegram

`telegramStart` stores a nonce and a code verifier in Redis under a state, for ten minutes, and
sends the browser to Telegram with the state, the nonce and the challenge of the verifier.
`telegramCallback` takes the entry of the state it is called with, exchanges the code for a token,
compares nonces, makes sure of an account for the subject and issues a session. Any number of
callbacks run at the same time, statement by statement and with any state and code; entries may be
lost at any time, and every statement may fail.

Telegram grants a code for a subject, a nonce and a challenge, to anybody; it exchanges the code
only for a verifier of the challenge, and the token has the subject and the nonce of the grant.

`GETDEL` gives an entry to one callback at most, so that a state that was taken is a lock which
nobody gives back. A session is therefore issued once for a started login, for a subject with a code
for the nonce and the challenge of this very login (`logins_bound`). The statements insert rows and
replace none, so a login resets no account (`login_keeps_accounts`).
-/

set_option autoImplicit false

namespace RiseVpn.Control

open GuardedRun Threads

/-! ### The callback -/

/-- What `telegramStart` draws. -/
structure StartedLogin where
  state : String
  nonce : String
  verifier : String

/-- The entry of a state in Redis. -/
structure PendingLogin where
  nonce : String
  verifier : String
  expiresAt : ℤ

/-- What Telegram grants a code for. -/
structure CodeGrant where
  subject : String
  nonce : String
  challenge : String

/-- The codes of Telegram, and the `S256` challenge of a verifier. -/
structure OidcProvider where
  grant : String → Option CodeGrant
  challenge : String → String

def OidcProvider.Grants (provider : OidcProvider) (login : StartedLogin) (subject : String) :
    Prop :=
  ∃ code, provider.grant code = some ⟨subject, login.nonce, provider.challenge login.verifier⟩

/-- A session that was issued at the end of a login. -/
structure OpenedSession where
  login : StartedLogin
  subject : String
  user : UserId

/-- Redis and the tables of the accounts, with a record of the logins that were started, of the
states that were taken and of the sessions that were issued. -/
structure LoginTables where
  clock : ℤ
  pending : String → Option PendingLogin
  users : String → Option UserId
  wallets : UserId → Option ℤ
  subscriptions : UserId → Option Subscription
  started : List StartedLogin
  taken : Finset String
  sessions : List OpenedSession
  gone : ∀ state ∈ taken, pending state = none

/-- How a token may fail to identify anybody. -/
inductive TokenFault
  | exchange
  | missing
  | verification
  | claims

def TokenFault.failure : TokenFault → Failure
  | .exchange => .problem 401 "oidc-code" "Telegram не подтвердил вход" ""
  | .missing => .problem 401 "oidc-token" "Telegram не вернул идентификатор" ""
  | .verification => .problem 401 "oidc-token" "Не удалось проверить вход" ""
  | .claims => .problem 401 "oidc-nonce" "Проверка входа не пройдена" ""

def loginFailure : Failure := .problem 500 "login" "Не удалось создать аккаунт" ""

def staleLogin : Failure :=
  .problem 400 "oidc-state" "Ссылка входа истекла" "Начните вход заново."

inductive CallbackPhase
  | received (state code : String)
  | exchange (login : StartedLogin) (code : String)
  | user (login : StartedLogin) (subject : String)
  | wallet (login : StartedLogin) (subject : String) (id : UserId)
  | subscription (login : StartedLogin) (subject : String) (id : UserId)
  | session (login : StartedLogin) (subject : String) (id : UserId)
  | finished (answer : Except Failure UserId)

/-- Whether the statement or the call fails, and the id that a new account gets. -/
structure CallbackInput where
  failed : Bool
  fault : Option TokenFault
  newId : UserId

theorem update_none {Key Value : Type*} [DecidableEq Key] {table : Key → Option Value} {key : Key}
    (other : Key) (hnone : other = key ∨ table other = none) :
    Function.update table key none other = none := by
  rw [Function.update_apply]
  split_ifs with hkey
  · rfl
  · exact hnone.resolve_left hkey

/-- `GETDEL` of a state. -/
def LoginTables.taking (tables : LoginTables) (state : String) : LoginTables :=
  { tables with
    pending := Function.update tables.pending state none
    taken := insert state tables.taken
    gone := fun other hother ↦
      update_none other ((Finset.mem_insert.mp hother).imp_right (tables.gone other)) }

/-- The next statement of `telegramCallback`. The inserts of the wallet and of the subscription do
nothing when there is a row, and their failures are ignored. -/
def CallbackPhase.next (provider : OidcProvider) (tables : LoginTables) (input : CallbackInput) :
    CallbackPhase → Option (LoginTables × CallbackPhase)
  | .received state code =>
    match tables.pending state with
    | none => some (tables, .finished (.error staleLogin))
    | some entry =>
      if input.failed ∨ entry.expiresAt < tables.clock then
        some (tables, .finished (.error staleLogin))
      else some (tables.taking state, .exchange ⟨state, entry.nonce, entry.verifier⟩ code)
  | .exchange login code =>
    match provider.grant code with
    | none => some (tables, .finished (.error TokenFault.exchange.failure))
    | some grant =>
      if grant.challenge ≠ provider.challenge login.verifier then
        some (tables, .finished (.error TokenFault.exchange.failure))
      else match input.fault with
        | some fault => some (tables, .finished (.error fault.failure))
        | none =>
          if grant.nonce ≠ login.nonce then
            some (tables, .finished (.error TokenFault.claims.failure))
          else some (tables, .user login grant.subject)
  | .user login subject =>
    if input.failed then some (tables, .finished (.error loginFailure))
    else
      let id := (tables.users subject).getD input.newId
      some ({ tables with users := Function.update tables.users subject (some id) },
        .wallet login subject id)
  | .wallet login subject id =>
    if input.failed ∨ (tables.wallets id).isSome then some (tables, .subscription login subject id)
    else some ({ tables with wallets := Function.update tables.wallets id (some 0) },
      .subscription login subject id)
  | .subscription login subject id =>
    if input.failed ∨ (tables.subscriptions id).isSome then
      some (tables, .session login subject id)
    else some ({ tables with
        subscriptions := Function.update tables.subscriptions id (some .pendingTrial) },
      .session login subject id)
  | .session login subject id =>
    if input.failed then some (tables, .finished (.error loginFailure))
    else some ({ tables with sessions := ⟨login, subject, id⟩ :: tables.sessions },
      .finished (.ok id))
  | .finished _ => none

inductive LoginChange
  /-- `telegramStart`, whose `SET` may fail. -/
  | start (login : StartedLogin) (stored : Bool)
  /-- Redis loses an entry. -/
  | forget (state : String)
  | wait (duration : ℕ)

/-- A state that is drawn was never drawn or taken before. -/
def LoginTables.change (tables : LoginTables) : LoginChange → Option LoginTables
  | .start login stored =>
    if hnew : login.state ∉ tables.started.map StartedLogin.state ∧ login.state ∉ tables.taken then
      some { tables with
        started := login :: tables.started
        pending := if stored then Function.update tables.pending login.state
            (some ⟨login.nonce, login.verifier, tables.clock + 10 * minute⟩)
          else tables.pending
        gone := by
          intro state hstate
          have hother : state ≠ login.state := fun hsame ↦ hnew.2 (hsame ▸ hstate)
          split_ifs
          · rw [Function.update_of_ne hother, tables.gone state hstate]
          · exact tables.gone state hstate }
    else none
  | .forget state =>
    some { tables with
      pending := Function.update tables.pending state none
      gone := fun other hother ↦ update_none other (.inr (tables.gone other hother)) }
  | .wait duration => some { tables with clock := tables.clock + duration }

def loginMachine (provider : OidcProvider) :
    Machine LoginTables (String × String) CallbackPhase CallbackInput LoginChange where
  enter := fun _ request ↦ .received request.1 request.2
  advance := fun tables phase input ↦ phase.next provider tables input
  change := LoginTables.change

abbrev LoginSystem := System ℕ LoginTables CallbackPhase

abbrev LoginEvent := Event ℕ (String × String) CallbackInput LoginChange

/-- Before the first login. -/
structure LoginTables.Fresh (tables : LoginTables) : Prop where
  pending : ∀ state, tables.pending state = none
  sessions : tables.sessions = []

/-! ### Statements -/

section Steps

variable {provider : OidcProvider} {tables later last : LoginTables}
  {phase phase' : CallbackPhase} {input : CallbackInput} {change : LoginChange}

/-- What a statement of a callback can do. -/
inductive CallbackPhase.Advances (provider : OidcProvider) (tables : LoginTables) :
    CallbackPhase → LoginTables → CallbackPhase → Prop
  | refuse (phase : CallbackPhase) (failure : Failure) :
    Advances provider tables phase tables (.finished (.error failure))
  | take {state : String} (code : String) {entry : PendingLogin}
      (hentry : tables.pending state = some entry) :
    Advances provider tables (.received state code) (tables.taking state)
      (.exchange ⟨state, entry.nonce, entry.verifier⟩ code)
  | exchange {login : StartedLogin} (code : String) {subject : String}
      (hgrants : provider.Grants login subject) :
    Advances provider tables (.exchange login code) tables (.user login subject)
  | user (login : StartedLogin) {subject : String} {id : UserId}
      (hid : ∀ old, tables.users subject = some old → id = old) :
    Advances provider tables (.user login subject)
      { tables with users := Function.update tables.users subject (some id) }
      (.wallet login subject id)
  | wallet (login : StartedLogin) (subject : String) (id : UserId) {wallets : UserId → Option ℤ}
      (hkeeps : ∀ id amount, tables.wallets id = some amount → wallets id = some amount) :
    Advances provider tables (.wallet login subject id) { tables with wallets }
      (.subscription login subject id)
  | subscription (login : StartedLogin) (subject : String) (id : UserId)
      {subscriptions : UserId → Option Subscription}
      (hkeeps : ∀ id row, tables.subscriptions id = some row → subscriptions id = some row) :
    Advances provider tables (.subscription login subject id) { tables with subscriptions }
      (.session login subject id)
  | session (login : StartedLogin) (subject : String) (id : UserId) :
    Advances provider tables (.session login subject id)
      { tables with sessions := ⟨login, subject, id⟩ :: tables.sessions } (.finished (.ok id))

theorem update_keeps {Key Value : Type*} [DecidableEq Key] {table : Key → Option Value} {key : Key}
    {new : Value} (hnew : ∀ value, table key = some value → new = value) (other : Key)
    (value : Value) (hvalue : table other = some value) :
    Function.update table key (some new) other = some value := by
  rw [Function.update_apply]
  split_ifs with hkey
  · subst hkey
    rw [hnew value hvalue]
  · exact hvalue

theorem CallbackPhase.next_advances
    (hnext : phase.next provider tables input = some (later, phase')) :
    phase.Advances provider tables later phase' := by
  cases phase with
  | received state code =>
    simp only [CallbackPhase.next] at hnext
    split at hnext
    · cases hnext
      exact .refuse _ _
    · rename_i entry hentry
      split_ifs at hnext <;> cases hnext
      · exact .refuse _ _
      · exact .take code hentry
  | exchange login code =>
    simp only [CallbackPhase.next] at hnext
    split at hnext
    · cases hnext
      exact .refuse _ _
    · rename_i grant hgrant
      split at hnext
      · cases hnext
        exact .refuse _ _
      · rename_i hchallenge
        split at hnext
        · cases hnext
          exact .refuse _ _
        · split_ifs at hnext with hnonce <;> cases hnext
          · exact .refuse _ _
          · refine .exchange code ⟨code, ?_⟩
            rw [hgrant, ← not_not.mp hchallenge, ← not_not.mp hnonce]
  | user login subject =>
    simp only [CallbackPhase.next] at hnext
    split_ifs at hnext <;> cases hnext
    · exact .refuse _ _
    · exact .user login fun old hold ↦ by rw [hold, Option.getD_some]
  | wallet login subject id =>
    simp only [CallbackPhase.next] at hnext
    split_ifs at hnext with hskip <;> cases hnext
    · exact .wallet login subject id fun _ _ hrow ↦ hrow
    · refine .wallet login subject id (update_keeps fun amount hamount ↦ ?_)
      simp [hamount] at hskip
  | subscription login subject id =>
    simp only [CallbackPhase.next] at hnext
    split_ifs at hnext with hskip <;> cases hnext
    · exact .subscription login subject id fun _ _ hrow ↦ hrow
    · refine .subscription login subject id (update_keeps fun row hrow ↦ ?_)
      simp [hrow] at hskip
  | session login subject id =>
    simp only [CallbackPhase.next] at hnext
    split_ifs at hnext <;> cases hnext
    · exact .refuse _ _
    · exact .session login subject id
  | finished => cases hnext

/-- Nothing is taken back. -/
structure LoginTables.Extends (tables later : LoginTables) : Prop where
  started : tables.started ⊆ later.started
  users : ∀ subject id, tables.users subject = some id → later.users subject = some id
  wallets : ∀ id amount, tables.wallets id = some amount → later.wallets id = some amount
  subscriptions : ∀ id row, tables.subscriptions id = some row → later.subscriptions id = some row

theorem LoginTables.Extends.refl (tables : LoginTables) : tables.Extends tables :=
  ⟨List.Subset.refl _, fun _ _ ↦ id, fun _ _ ↦ id, fun _ _ ↦ id⟩

theorem LoginTables.Extends.trans (hfirst : tables.Extends later) (hsecond : later.Extends last) :
    tables.Extends last where
  started := List.Subset.trans hfirst.started hsecond.started
  users subject id := hsecond.users subject id ∘ hfirst.users subject id
  wallets id amount := hsecond.wallets id amount ∘ hfirst.wallets id amount
  subscriptions id row := hsecond.subscriptions id row ∘ hfirst.subscriptions id row

theorem CallbackPhase.Advances.extends (hadvances : phase.Advances provider tables later phase') :
    tables.Extends later := by
  cases hadvances with
  | user login hid => exact { LoginTables.Extends.refl tables with users := update_keeps hid }
  | wallet _ _ _ hkeeps => exact { LoginTables.Extends.refl tables with wallets := hkeeps }
  | subscription _ _ _ hkeeps =>
    exact { LoginTables.Extends.refl tables with subscriptions := hkeeps }
  | refuse | take | exchange | session => exact { LoginTables.Extends.refl tables with }

/-- What happens besides the callbacks takes no state, issues no session, and leaves entries of
started logins only. -/
theorem LoginTables.change_cases (hchange : tables.change change = some later) :
    tables.Extends later ∧ later.taken = tables.taken ∧ later.sessions = tables.sessions ∧
      ∀ state entry, later.pending state = some entry → tables.pending state = some entry ∨
        ⟨state, entry.nonce, entry.verifier⟩ ∈ later.started := by
  cases change with
  | start login stored =>
    simp only [LoginTables.change] at hchange
    split at hchange <;> cases hchange
    refine ⟨{ LoginTables.Extends.refl tables with started := List.subset_cons_self _ _ }, rfl, rfl,
      fun state entry hentry ↦ ?_⟩
    dsimp only at hentry
    split_ifs at hentry
    · rw [Function.update_apply] at hentry
      split_ifs at hentry with hstate
      · cases hentry
        subst hstate
        exact .inr List.mem_cons_self
      · exact .inl hentry
    · exact .inl hentry
  | forget other =>
    cases hchange
    refine ⟨{ LoginTables.Extends.refl tables with }, rfl, rfl, fun state entry hentry ↦ .inl ?_⟩
    simp only [Function.update_apply] at hentry
    split_ifs at hentry
    exact hentry
  | wait =>
    cases hchange
    exact ⟨{ LoginTables.Extends.refl tables with }, rfl, rfl, fun _ _ ↦ .inl⟩

end Steps

/-! ### Callbacks at the same time -/

/-- The state that a callback has taken and not yet used. -/
def CallbackPhase.held : CallbackPhase → Finset String
  | .exchange login _ | .user login _ | .wallet login _ _ | .subscription login _ _
  | .session login _ _ => {login.state}
  | .received _ _ | .finished _ => ∅

/-- What a callback has found out. -/
def CallbackPhase.Sound (provider : OidcProvider) (tables : LoginTables) : CallbackPhase → Prop
  | .received _ _ | .finished _ => True
  | .exchange login _ => login ∈ tables.started
  | .user login subject => login ∈ tables.started ∧ provider.Grants login subject
  | .wallet login subject id | .subscription login subject id | .session login subject id =>
    login ∈ tables.started ∧ provider.Grants login subject ∧ tables.users subject = some id

/-- The states of the sessions. -/
def LoginTables.used (tables : LoginTables) : List String :=
  tables.sessions.map fun session ↦ session.login.state

structure LoginTables.Sound (provider : OidcProvider) (tables : LoginTables) : Prop where
  pending : ∀ state entry, tables.pending state = some entry →
    ⟨state, entry.nonce, entry.verifier⟩ ∈ tables.started
  taken : ∀ state ∈ tables.used, state ∈ tables.taken
  once : tables.used.Nodup
  sessions : ∀ session ∈ tables.sessions, session.login ∈ tables.started ∧
    provider.Grants session.login session.subject ∧
    tables.users session.subject = some session.user

section Runs

variable {provider : OidcProvider} {tables later start : LoginTables} {system : LoginSystem}
  {phase : CallbackPhase} {change : LoginChange}

theorem CallbackPhase.Sound.mono (hsound : phase.Sound provider tables)
    (hextends : tables.Extends later) : phase.Sound provider later := by
  cases phase with
  | received | finished => trivial
  | exchange => exact hextends.started hsound
  | user => exact ⟨hextends.started hsound.1, hsound.2⟩
  | wallet | subscription | session =>
    exact ⟨hextends.started hsound.1, hsound.2.1, hextends.users _ _ hsound.2.2⟩

/-- Assumes: tables that extend sound ones, with the same sessions. -/
theorem LoginTables.Sound.mono (hsound : tables.Sound provider) (hextends : tables.Extends later)
    (hsessions : later.sessions = tables.sessions) (htaken : tables.taken ⊆ later.taken)
    (hpending : ∀ state entry, later.pending state = some entry →
      tables.pending state = some entry ∨ ⟨state, entry.nonce, entry.verifier⟩ ∈ later.started) :
    later.Sound provider := by
  have hused : later.used = tables.used := by rw [LoginTables.used, hsessions, LoginTables.used]
  refine ⟨fun state entry hentry ↦ ?_, fun state hstate ↦ htaken (hsound.taken state
    (hused ▸ hstate)), hused ▸ hsound.once, fun session hsession ↦ ?_⟩
  · rcases hpending state entry hentry with hold | hnew
    · exact hextends.started (hsound.pending state entry hold)
    · exact hnew
  · obtain ⟨hstarted, hgrants, huser⟩ := hsound.sessions session (hsessions ▸ hsession)
    exact ⟨hextends.started hstarted, hgrants, hextends.users _ _ huser⟩

variable (hreach : Reachable (loginMachine provider).step (System.idle start) system)

include hreach

theorem login_exclusive : Exclusive CallbackPhase.held LoginTables.taken system := by
  refine Machine.exclusive _ _ hreach (fun _ _ ↦ rfl) ?_
    fun _ _ _ hchange ↦ (LoginTables.change_cases hchange).2.1
  intro tables phase input later phase' hheld hnext
  cases CallbackPhase.next_advances hnext with
  | refuse | session =>
    exact ⟨by simp [CallbackPhase.held], by simp [CallbackPhase.held], Finset.sdiff_subset⟩
  | exchange | user | wallet | subscription => exact .keep hheld
  | @take state _ _ hentry =>
    refine .acquire hheld fun hmem ↦ ?_
    cases (tables.gone state hmem).symm.trans hentry

theorem login_sound (hfresh : start.Fresh) : system.shared.Sound provider := by
  have halong := hreach.along _ fun _ hreached ↦ login_exclusive hreached
  refine (Machine.invariant (LoginTables.Sound provider) (fun tables phase ↦
    phase.Sound provider tables ∧ ∀ state ∈ phase.held, state ∉ tables.used) halong
    ⟨?_, ?_, ?_, ?_⟩ (fun _ _ _ ↦ ⟨trivial, by simp [loginMachine, CallbackPhase.held]⟩) ?_ ?_).1
  · intro state entry hentry
    cases (hfresh.pending state).symm.trans hentry
  · simp [LoginTables.used, hfresh.sessions]
  · simp [LoginTables.used, hfresh.sessions]
  · simp [hfresh.sessions]
  · rintro system slot input next phase phase' later htables hslot ⟨hphase, hunused⟩ ⟨-, hlocks⟩
      hnext
    have hadvances := CallbackPhase.next_advances hnext
    have hextends := hadvances.extends
    cases hadvances with
    | refuse =>
      exact ⟨htables, ⟨trivial, by simp [CallbackPhase.held]⟩, fun _ _ _ _ hfound ↦ hfound⟩
    | @take state code entry hentry =>
      refine ⟨htables.mono hextends rfl (Finset.subset_insert _ _) fun other found hfound ↦ .inl ?_,
        ⟨htables.pending state entry hentry, ?_⟩,
        fun _ _ _ _ hfound ↦ ⟨hfound.1.mono hextends, hfound.2⟩⟩
      · simp only [LoginTables.taking, Function.update_apply] at hfound
        split_ifs at hfound
        exact hfound
      · -- the sessions are of taken states, and the state is still pending
        intro other hother hused
        cases Finset.mem_singleton.mp hother
        cases (system.shared.gone _ (htables.taken _ hused)).symm.trans hentry
    | exchange code hgrants =>
      exact ⟨htables, ⟨⟨hphase, hgrants⟩, hunused⟩, fun _ _ _ _ hfound ↦ hfound⟩
    | user login hid =>
      exact ⟨htables.mono hextends rfl (Finset.Subset.refl _) fun _ _ ↦ .inl,
        ⟨⟨hphase.1, hphase.2, Function.update_self ..⟩, hunused⟩,
        fun _ _ _ _ hfound ↦ ⟨hfound.1.mono hextends, hfound.2⟩⟩
    | wallet | subscription =>
      exact ⟨htables.mono hextends rfl (Finset.Subset.refl _) fun _ _ ↦ .inl, ⟨hphase, hunused⟩,
        fun _ _ _ _ hfound ↦ ⟨hfound.1.mono hextends, hfound.2⟩⟩
    | session login subject id =>
      have hheld : login.state ∈ (CallbackPhase.session login subject id).held :=
        Finset.mem_singleton_self _
      refine ⟨⟨htables.pending, ?_, List.nodup_cons.mpr ⟨hunused _ hheld, htables.once⟩, ?_⟩,
        ⟨trivial, by simp [CallbackPhase.held]⟩, fun other found hother hfound hsound ↦
        ⟨hsound.1.mono hextends, fun state hstate hused ↦ ?_⟩⟩
      · exact List.forall_mem_cons.mpr ⟨hlocks.taken slot _ hslot hheld, htables.taken⟩
      · exact List.forall_mem_cons.mpr ⟨hphase, htables.sessions⟩
      · -- no other callback holds the state
        rcases List.mem_cons.mp hused with rfl | hold
        · exact hlocks.apart other slot found _ hfound hslot hother _ hstate hheld
        · exact hsound.2 state hstate hold
  · intro system change next later htables _ hchange
    obtain ⟨hextends, htaken, hsessions, hpending⟩ := LoginTables.change_cases hchange
    refine ⟨htables.mono hextends hsessions htaken.superset hpending,
      fun _ _ _ hphase ↦ ⟨hphase.1.mono hextends, ?_⟩⟩
    rw [LoginTables.used, hsessions]
    exact hphase.2

/-- Assumes: tables before the first login. No login gives two sessions, and every session is of a
login that was started and for a subject that Telegram grants a code for with the nonce and the
challenge of this login, whose account it opens. -/
theorem logins_bound (hfresh : start.Fresh) :
    (system.shared.sessions.map fun session ↦ session.login.state).Nodup ∧
    ∀ session ∈ system.shared.sessions, session.login ∈ system.shared.started ∧
      (∃ code, provider.grant code = some ⟨session.subject, session.login.nonce,
        provider.challenge session.login.verifier⟩) ∧
      system.shared.users session.subject = some session.user :=
  ⟨(login_sound hreach hfresh).once, (login_sound hreach hfresh).sessions⟩

end Runs

/-- Codes of the subject `"42"`, with the plain challenge. -/
def plainProvider : OidcProvider where
  grant := fun code ↦
    if code = "c" then some ⟨"42", "n", "v"⟩ else if code = "d" then some ⟨"42", "m", "w"⟩ else none
  challenge := id

def noLogins : LoginTables :=
  ⟨0, fun _ ↦ none, fun _ ↦ none, fun _ ↦ none, fun _ ↦ none, [], ∅, [], fun _ _ ↦ rfl⟩

def throughLogin (slot : ℕ) (login : StartedLogin) (code : String) (newId : UserId) :
    List LoginEvent :=
  [.change (.start login true), .start slot (login.state, code)] ++
    List.replicate 6 (.advance slot ⟨false, none, newId⟩)

def onceLoggedIn : LoginSystem :=
  (run (loginMachine plainProvider).step (System.idle noLogins)
    (throughLogin 0 ⟨"s", "n", "v"⟩ "c" "first")).getD (System.idle noLogins)

def twiceLoggedIn : LoginSystem :=
  (run (loginMachine plainProvider).step onceLoggedIn
    (throughLogin 1 ⟨"t", "m", "w"⟩ "d" "second")).getD onceLoggedIn

theorem logins_bound_twice :
    (twiceLoggedIn.shared.sessions.map fun session ↦ session.login.state) = ["t", "s"] ∧
    ∀ session ∈ twiceLoggedIn.shared.sessions,
      twiceLoggedIn.shared.users session.subject = some session.user := by
  have honce : Reachable (loginMachine plainProvider).step (System.idle noLogins) onceLoggedIn :=
    reachable_getD _
  have hreach : Reachable (loginMachine plainProvider).step (System.idle noLogins) twiceLoggedIn :=
    honce.trans (reachable_getD _)
  exact ⟨rfl, fun session hsession ↦
    ((logins_bound hreach ⟨fun _ ↦ rfl, rfl⟩).2 session hsession).2.2⟩

/-- No login takes back an account, or resets a wallet or a subscription. -/
theorem login_keeps_accounts {provider : OidcProvider} {earlier system : LoginSystem}
    (hreached : Reachable (loginMachine provider).step earlier system) :
    (∀ subject id, earlier.shared.users subject = some id →
      system.shared.users subject = some id) ∧
    (∀ id amount, earlier.shared.wallets id = some amount →
      system.shared.wallets id = some amount) ∧
    ∀ id row, earlier.shared.subscriptions id = some row →
      system.shared.subscriptions id = some row := by
  have hextends : earlier.shared.Extends system.shared := by
    refine hreached.invariant (fun system ↦ earlier.shared.Extends system.shared) (.refl _)
      fun before event after hbefore hstep ↦ ?_
    rcases step_cases hstep with ⟨_, _, _, _, rfl⟩ | ⟨_, _, _, _, _, _, _, hnext, rfl⟩ |
      ⟨_, _, _, hchange, rfl⟩
    · exact hbefore
    · exact hbefore.trans (CallbackPhase.next_advances hnext).extends
    · exact hbefore.trans (LoginTables.change_cases hchange).1
  exact ⟨hextends.users, hextends.wallets, hextends.subscriptions⟩

theorem login_keeps_accounts_twice :
    onceLoggedIn.shared.users "42" = some "first" ∧
    twiceLoggedIn.shared.users "42" = some "first" :=
  ⟨rfl, (login_keeps_accounts (reachable_getD _)).1 "42" "first" rfl⟩

end RiseVpn.Control
