import RiseVpn.Control.Admins
import RiseVpn.Control.Sessions

/-!
# The guards of the admin routes

All requests with session tokens, operation by operation on Redis and PostgreSQL: logins that issue
tokens (`issueSession`), `requireSession` in front of every handler, `requireRole` in front of the
admin routes, `adminMFASetup` and `adminMFAVerify`. On the stores of its own token a request does
what `Sessions` says of it (`GuardStores.view`); this module adds the other tokens, the roles, the
second factors and the routes. Meanwhile Redis loses entries, users are blocked, roles change and
old rows are deleted. `DevAuth` is off. The code of a secret at a counter is a parameter.

Three histories are kept beside the stores, which no handler reads: what `issueSession` has
generated for each token, the tokens on which `adminMFAVerify` has accepted a code, and the CSRF
cookies with which `readSession` has rebuilt a session. A request keeps what its checks have read.
-/

set_option autoImplicit false

namespace RiseVpn.Control

open Threads

/-! ### The stores -/

/-- What `issueSession` generates a token for, with the CSRF value it generates. -/
structure IssuedSession where
  userId : UserId
  csrf : String

/-- A row of `admin_totp`, with the secret in the clear. -/
structure TotpRow where
  secret : String
  enabled : Bool

/-- The cache entries and rows of all tokens and the tables of the guards. `issued`, `accepted` and
`rebuilt` are histories that no handler reads: the sessions that were issued, the tokens with the
users whose code was accepted on them, and the tokens with the CSRF cookies of their rebuilds. -/
structure GuardStores where
  clock : ℤ
  cache : String → Option AuthSession
  rows : String → Option AuthRow
  active : UserId → Bool
  roles : Finset (UserId × AdminRole)
  totp : UserId → Option TotpRow
  issued : String → Option IssuedSession
  accepted : List (String × UserId)
  rebuilt : List (String × Option String)

/-- `SELECT role FROM user_roles WHERE user_id=… ORDER BY CASE role … END LIMIT 1`. -/
def rankedRole (roles : Finset (UserId × AdminRole)) (user : UserId) : Option AdminRole :=
  [AdminRole.owner, .operator, .support, .auditor].find? fun role ↦ (user, role) ∈ roles

def GuardStores.view (stores : GuardStores) (token : String) : SessionStores where
  clock := stores.clock
  cache := stores.cache token
  row := stores.rows token
  active := stores.active
  role := fun user ↦ roleText (rankedRole stores.roles user)
  stage := .none

/-! ### The requests -/

inductive AdminRoute
  | adminOverview
  | adminStatistics
  | adminUsers
  | updateUserStatus
  | adjustWallet
  | admins
  | setAdminRole
  | removeAdminRole
  | adminNodes
  | adminAlerts
  | adminAudit
  | adminLedger
  | enrollNode
  | creditWallet
  | enqueueCommand
  deriving DecidableEq

/-- The `requireRole` of a route besides the one of its group. -/
def AdminRoute.ownGuard : AdminRoute → Option (List AdminRole)
  | .adminOverview | .adminStatistics => none
  | .adminUsers | .updateUserStatus | .adjustWallet | .creditWallet => some [.owner, .support]
  | .admins | .setAdminRole | .removeAdminRole => some [.owner]
  | .adminNodes | .adminAlerts | .enrollNode | .enqueueCommand => some [.owner, .operator]
  | .adminAudit => some [.owner, .auditor]
  | .adminLedger => some [.owner, .support, .auditor]

def AdminRoute.guards (route : AdminRoute) : List (List AdminRole) :=
  [.owner, .operator, .support, .auditor] :: route.ownGuard.toList

/-- What a request with a token asks for: `adminMFASetup` comes with the secret it generates and
`adminMFAVerify` with the trimmed code of its body, if that is decoded. -/
inductive GuardedEndpoint
  | logout
  | adminMfaSetup (secret : String)
  | adminMfaVerify (code : Option String)
  | admin (route : AdminRoute)
  | other
  deriving DecidableEq

/-- A request with a token in its `rvpn_session` cookie. -/
structure TokenRequest where
  token : String
  endpoint : GuardedEndpoint
  csrfCookie : Option String
  safe : Bool
  csrfHeader : String

/-- The request as `readSession` and `requireSession` see it. -/
def TokenRequest.web (request : TokenRequest) : WebRequest where
  endpoint := .other
  csrfCookie := request.csrfCookie
  safe := request.safe
  csrfHeader := request.csrfHeader

/-- A call of `issueSession` at the end of a login, with what it generates. -/
structure Login where
  userId : UserId
  role : String
  token : String
  csrf : String

inductive LoginPhase
  | set
  | insert (expiresAt : ℤ)
  | withdraw
  | done

/-- The next operation of a request: one on the stores of its token, the `INSERT`, `SELECT` or
`UPDATE` of `admin_totp`, the lookup of the next `requireRole`, or none once the handler of an admin
route executes. -/
inductive GuardPhase
  | token (phase : SessionPhase)
  | setup (session : AuthSession) (secret : String)
  | lookup (session : AuthSession) (code : String)
  | enable (session : AuthSession)
  | guards (session : AuthSession) (rest : List (List AdminRole))
  | executed (session : AuthSession)

/-- What the checks of a request have read: of which user `requireSession` read the status and
whether it was active, and for each `requireRole` the user, its roles and the role it found. -/
structure Checks where
  status : Option (UserId × Bool)
  roles : List (UserId × List AdminRole × Option AdminRole)

inductive GuardThread
  | issue (login : Login) (phase : LoginPhase)
  | serve (request : TokenRequest) (phase : GuardPhase) (checks : Checks)

/-! ### The handlers -/

def forbidden : Failure := .problem 403 "forbidden" "Недостаточно прав" ""

/-- `validTOTP`: the code of the counter of the clock, of the one before or of the one after.
`codeAt` answers no code for a secret that is not in base 32. -/
def validTotp (codeAt : String → ℤ → Option String) (secret code : String) (clock : ℤ) : Bool :=
  decide (code.utf8ByteSize = 6) &&
    [-1, 0, 1].any fun delta ↦ codeAt secret (clock / second / 30 + delta) = some code

/-- `requireRole`, with the role its lookup has found. -/
def requireRole (roles : List AdminRole) (session : AuthSession) (found : Option AdminRole) :
    Except Failure Unit :=
  match found with
  | none => .error forbidden
  | some role =>
    if role ∈ roles then
      if session.adminMfa then .ok ()
      else .error (.problem 403 "mfa-required" "Требуется второй фактор"
        "Подтвердите вход одноразовым кодом TOTP.")
    else .error forbidden

/-- Where `requireSession` hands a request to. -/
def TokenRequest.handler (request : TokenRequest) (session : AuthSession) : GuardPhase :=
  match request.endpoint with
  | .admin route => .guards session route.guards
  | .adminMfaSetup secret =>
    if session.role = "" then .token (.refused forbidden) else .setup session secret
  | .adminMfaVerify code =>
    if session.role = "" then .token (.refused forbidden)
    else match code with
    | none => .token (.refused (.problem 400 "mfa-code" "Неверный код" "Введите шесть цифр."))
    | some code => .lookup session code
  | .logout | .other => .token .answered

def GuardStores.absorb (stores : GuardStores) (request : TokenRequest)
    (result : SessionStores × SessionPhase) : GuardStores :=
  { stores with
    cache := Function.update stores.cache request.token result.1.cache
    rows := Function.update stores.rows request.token result.1.row
    rebuilt := match result.2 with
      | .rebuild _ => stores.rebuilt ++ [(request.token, request.csrfCookie)]
      | _ => stores.rebuilt }

/-- The check of the status is part of the operation `authorize`. -/
def Checks.noted (checks : Checks) (stores : GuardStores) (phase : SessionPhase) : Checks :=
  match phase with
  | .authorize session =>
    { checks with status := some (session.userId, stores.active session.userId) }
  | _ => checks

def GuardPhase.next (codeAt : String → ℤ → Option String) (stores : GuardStores)
    (request : TokenRequest) (checks : Checks) :
    GuardPhase → Option (GuardStores × GuardPhase × Checks)
  | .token (.passed session) => some (stores, request.handler session, checks)
  | .token phase =>
    (SessionThread.next (stores.view request.token) request.web phase).map fun result ↦
      (stores.absorb request result, .token result.2, checks.noted stores phase)
  | .setup session secret =>
    match stores.totp session.userId with
    | none =>
      some ({ stores with
        totp := Function.update stores.totp session.userId (some ⟨secret, false⟩) },
        .token .answered, checks)
    | some _ =>
      some (stores, .token (.refused (.problem 409 "mfa-exists" "Второй фактор уже настроен"
        "Введите код из приложения-аутентификатора.")), checks)
  | .lookup session code =>
    match stores.totp session.userId with
    | none =>
      some (stores, .token (.refused (.problem 409 "mfa-setup" "Сначала настройте второй фактор"
        "")), checks)
    | some row =>
      if validTotp codeAt row.secret code stores.clock then
        some ({ stores with accepted := stores.accepted ++ [(request.token, session.userId)] },
          .enable session, checks)
      else
        some (stores, .token (.refused (.problem 401 "mfa-code" "Код не подошёл"
          "Проверьте время на устройстве и попробуйте снова.")), checks)
  | .enable session =>
    some ({ stores with
      totp := Function.update stores.totp session.userId
        ((stores.totp session.userId).map fun row ↦ { row with enabled := true }) },
      .token (.writeBack { session with adminMfa := true }), checks)
  | .guards session [] => some (stores, .executed session, checks)
  | .guards session (roles :: rest) =>
    let found := rankedRole stores.roles session.userId
    let seen := { checks with roles := checks.roles ++ [(session.userId, roles, found)] }
    match requireRole roles session found with
    | .ok () => some (stores, .guards session rest, seen)
    | .error failure => some (stores, .token (.refused failure), seen)
  | .executed _ => none

def sessionTtl : ℤ := 30 * day

/-- The next operation of `issueSession` after a login with Telegram, which has no second factor.
`inserted` says whether the `INSERT` succeeds. A token is generated only once. -/
def LoginPhase.next (stores : GuardStores) (login : Login) (inserted : Bool) :
    LoginPhase → Option (GuardStores × LoginPhase)
  | .set =>
    match stores.issued login.token with
    | some _ => none
    | none =>
      let session : AuthSession :=
        ⟨login.userId, login.csrf, login.role, false, stores.clock + sessionTtl⟩
      some ({ stores with
        cache := Function.update stores.cache login.token (some session)
        issued := Function.update stores.issued login.token (some ⟨login.userId, login.csrf⟩) },
        .insert session.expiresAt)
  | .insert expiresAt =>
    if inserted then
      some ({ stores with
        rows := Function.update stores.rows login.token (some ⟨login.userId, expiresAt, none⟩) },
        .done)
    else some (stores, .withdraw)
  | .withdraw =>
    some ({ stores with cache := Function.update stores.cache login.token none }, .done)
  | .done => none

inductive GuardChange
  | tick (elapsed : ℕ)
  | evict (token : String)
  | setActive (user : UserId) (active : Bool)
  | setRoles (roles : Finset (UserId × AdminRole))
  | retire (token : String)

inductive GuardRequest
  | login (login : Login)
  | web (request : TokenRequest)

def guardMachine (codeAt : String → ℤ → Option String) :
    Machine GuardStores GuardRequest GuardThread Bool GuardChange where
  enter := fun _ request ↦
    match request with
    | .login login => .issue login .set
    | .web request => .serve request
        (.token (if request.endpoint = .logout then .delete else .get)) ⟨none, []⟩
  advance := fun stores thread inserted ↦
    match thread with
    | .issue login phase =>
      (phase.next stores login inserted).map fun result ↦ (result.1, .issue login result.2)
    | .serve request phase checks =>
      (phase.next codeAt stores request checks).map fun result ↦
        (result.1, .serve request result.2.1 result.2.2)
  change := fun stores change ↦
    match change with
    | .tick elapsed => some { stores with clock := stores.clock + elapsed }
    | .evict token => some { stores with cache := Function.update stores.cache token none }
    | .setActive user active =>
      some { stores with active := Function.update stores.active user active }
    | .setRoles roles => some { stores with roles }
    | .retire token => some { stores with rows := Function.update stores.rows token none }

abbrev GuardSystem := System ℕ GuardStores GuardThread

abbrev GuardEvent := Event ℕ GuardRequest Bool GuardChange

end RiseVpn.Control
