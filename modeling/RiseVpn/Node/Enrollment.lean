import RiseVpn.Library.Threads
import RiseVpn.Node.Client

/-!
# The enrolment of a node

A node that belongs to no controller has one row in its `enrollment` table with a token. Whoever
knows the token hands the node over to a controller: `Claim` checks the request, marks the row as
claimed together with the address, the key and the certificates of the controller, and then writes
the two optional keys. `Reenroll` replaces the row, `Ensure` does so if there is no usable one, and
`Current` reads it. The HTTP server and the command line run these calls in processes of their own,
so a call is a thread here: `EnrollmentPhase` is the statement it executes next and
`EnrollmentPhase.next` executes it. Each statement has its own time, and a storage failure may
strike any of them.

The keys that the node verifies quota leases and compliance feeds with are those of the request
only if every statement of the claim succeeds and the request names both keys or the node has none
from an earlier controller. `trust_transferred_iff` is this characterisation. `trust_left_behind`
has the two ways in which it fails: a request without a quota key leaves the key of the earlier
controller in force, and a failure of the last statement reports an error for a claim that stands.

PEM, X.509, base64, URLs, JSON, the hash and the random source are not part of the repository and
are fields of `EnrollmentService` and `EnrollmentInput`. A transaction that fails leaves no trace.
-/

set_option autoImplicit false

namespace RiseVpn

/-! ### The tables and the service -/

/-- The row of the `enrollment` table. Its times are whole Unix seconds. -/
structure EnrollmentRow where
  token : String
  tokenHash : String
  expiresAt : ℤ
  claimedAt : Option ℤ

/-- The node's database with its `enrollment` table, which has at most one row. -/
structure EnrollmentTables where
  store : Store
  enrollment : Option EnrollmentRow

structure ClaimRequest where
  claimToken : String
  controllerUrl : String
  controllerPublicKey : String
  quotaPublicKey : String
  compliancePublicKey : String
  nodeCertificatePem : String
  controllerCaPem : String
  deriving DecidableEq

structure Bundle where
  version : ℕ
  nodeId : NodeId
  domain : String
  claimEndpoint : String
  nodePublicKey : String
  claimToken : String
  expiresAt : ℤ
  agentVersion : String
  deriving DecidableEq

/-- `enrollment.Service`: its configuration and the functions it calls outside the repository. -/
structure EnrollmentService where
  domain : String
  version : String
  /-- `security.Hash`. -/
  hash : String → String
  /-- `security.Decode`. -/
  decode : String → Except String (List UInt8)
  /-- `strings.TrimSpace` leaves nothing of a text. -/
  blank : String → Bool
  /-- `url.Parse`: the scheme and the host. -/
  parseUrl : String → Except String (String × String)
  /-- `pem.Decode`: the type and the bytes of the first block. -/
  decodePem : String → Option (String × List UInt8)
  /-- `x509.ParseCertificate`. The public key is the base64url text of its bytes. -/
  parseX509 : List UInt8 → Except String Certificate
  /-- `Certificate.Verify` for client authentication, with one root, at a time. -/
  verify : Certificate → Certificate → ℤ → Except String Unit
  /-- `json.Marshal` of a bundle followed by `security.Encode`. -/
  encodeBundle : Bundle → Except String String

/-- What a statement of a call takes from outside: the time, the random values made for it, and the
error it fails with, if it does. -/
structure EnrollmentInput where
  now : ℤ
  token : String
  nodeId : NodeId
  publicKey : String
  privateKey : String
  failure : Option String

/-! ### The checks of a claim -/

section

variable (service : EnrollmentService)

/-- A base64url text of `ed25519.PublicKeySize` bytes. -/
def EnrollmentService.isPublicKey (value : String) : Bool :=
  match service.decode value with
  | .ok raw => raw.length = 32
  | .error _ => false

def EnrollmentService.parseCertificate (value : String) : Except String Certificate :=
  match service.decodePem value with
  | some ("CERTIFICATE", bytes) => service.parseX509 bytes
  | _ => .error "PEM certificate is required"

def EnrollmentService.isControllerUrl (value : String) : Bool :=
  match service.parseUrl value with
  | .ok (scheme, host) => (scheme = "wss" ∨ scheme = "https") ∧ host ≠ ""
  | .error _ => false

def EnrollmentService.hasKey (certificate : Certificate) (publicRaw : List UInt8) : Bool :=
  match certificate.publicKey.map service.decode with
  | some (.ok certPublic) => certPublic = publicRaw
  | _ => false

def checkThat (condition : Prop) [Decidable condition] (text : String) : Except String Unit :=
  if condition then .ok () else .error text

def wrapError {α : Type} (text : String) : Except String α → Except String α :=
  Except.mapError (text ++ ": " ++ ·)

/-- `Service.Claim` up to the transaction. `identity` is the stored key of the node, absent also
when it could not be read. -/
def EnrollmentService.checkClaim (identity : Option String) (request : ClaimRequest) (now : ℤ) :
    Except String Unit := do
  checkThat (service.blank request.claimToken = false) "claimToken is required"
  checkThat (service.isControllerUrl request.controllerUrl)
    "controllerUrl must be an absolute wss:// or https:// URL"
  checkThat (service.isPublicKey request.controllerPublicKey)
    "controllerPublicKey must be a base64url Ed25519 public key"
  let nodeCert ← wrapError "invalid node certificate"
    (service.parseCertificate request.nodeCertificatePem)
  let controllerCa ← wrapError "invalid controller CA"
    (service.parseCertificate request.controllerCaPem)
  wrapError "node certificate is not valid for the controller CA"
    (service.verify nodeCert controllerCa now)
  let publicEncoded ← identity.elim (.error "node identity is missing") .ok
  let publicRaw ← service.decode publicEncoded
  checkThat (service.hasKey nodeCert publicRaw)
    "node certificate does not match this node identity"
  checkThat (request.quotaPublicKey = "" ∨ service.isPublicKey request.quotaPublicKey)
    "quotaPublicKey must be a base64url Ed25519 public key"
  checkThat (request.compliancePublicKey = "" ∨ service.isPublicKey request.compliancePublicKey)
    "compliancePublicKey must be a base64url Ed25519 public key"

end

/-! ### The statements -/

/-- `Store.State`. -/
def EnrollmentTables.read (tables : EnrollmentTables) (key : String) (input : EnrollmentInput) :
    Except String (Option String) :=
  match input.failure with
  | some message => .error message
  | none => .ok (tables.store.state key)

def EnrollmentTables.setStates (tables : EnrollmentTables) (values : List (String × String)) :
    EnrollmentTables :=
  { tables with store := tables.store.setStates values }

def EnrollmentTables.replaceEnrollment (tables : EnrollmentTables) (token tokenHash : String)
    (expires : ℤ) : EnrollmentTables :=
  { tables with enrollment := some ⟨token, tokenHash, unix expires, none⟩ }

/-- The row that the `UPDATE` of `Store.Claim` finds. -/
def EnrollmentRow.Claimable (row : EnrollmentRow) (tokenHash : String) (now : ℤ) : Prop :=
  row.tokenHash = tokenHash ∧ row.claimedAt = none ∧ unix now ≤ row.expiresAt
  deriving Decidable

/-- The error of `Store.Claim` when its `UPDATE` finds no row. -/
def claimRefused : String := "enrollment token is invalid, expired or already used"

/-- `Store.Claim`, one transaction. -/
def EnrollmentTables.claim (tables : EnrollmentTables)
    (tokenHash controllerUrl controllerPublicKey nodeCert controllerCa : String) (now : ℤ) :
    Except String EnrollmentTables :=
  match tables.enrollment with
  | none => .error claimRefused
  | some row =>
    if row.Claimable tokenHash now then
      .ok ({ tables with
        enrollment := some { row with claimedAt := some (unix now) } }.setStates
          [("controller_url", controllerUrl), ("controller_public_key", controllerPublicKey),
            ("node_certificate", nodeCert), ("controller_ca", controllerCa)])
    else .error claimRefused

/-- The optional keys that a request names, as `Service.Claim` writes them. -/
def ClaimRequest.optionalKeys (request : ClaimRequest) : List (String × String) :=
  (if request.quotaPublicKey = "" then []
    else [("quota_public_key", request.quotaPublicKey)]) ++
  (if request.compliancePublicKey = "" then []
    else [("compliance_public_key", request.compliancePublicKey)])

inductive EnrollmentCall
  | ensure
  | current
  | reenroll
  | claim (request : ClaimRequest)

/-- The function that calls `ensureIdentity`. -/
inductive IdentityCaller
  | ensure
  | reenroll
  deriving DecidableEq

/-- The statement that a call executes next, with what it knows by then. The last four are the
returns: the empty text of `Ensure`, a bundle, the success of `Claim`, and an error. -/
inductive EnrollmentPhase
  | privateKey (caller : IdentityCaller)
  | publicKey (caller : IdentityCaller) (stored : Option String)
  | nodeId (caller : IdentityCaller) (stored : Option String) (hasPublic : Bool)
  | identity (caller : IdentityCaller)
  | ensureRow
  | currentRow
  | replace
  | bundleId (token : String) (expires : ℤ)
  | bundleKey (token : String) (expires : ℤ) (nodeId : NodeId)
  | check (request : ClaimRequest)
  | claiming (request : ClaimRequest)
  | optionalKeys (request : ClaimRequest)
  | nothing
  | revealed (bundle : Bundle) (text : String)
  | accepted (request : ClaimRequest)
  | failed (message : String)
  deriving DecidableEq

def EnrollmentCall.enter : EnrollmentCall → EnrollmentPhase
  | .ensure => .privateKey .ensure
  | .current => .currentRow
  | .reenroll => .privateKey .reenroll
  | .claim request => .check request

/-- What follows `ensureIdentity`. -/
def IdentityCaller.identified : IdentityCaller → EnrollmentPhase
  | .ensure => .ensureRow
  | .reenroll => .replace

/-- `ensureIdentity` after its three reads. `stored` is the private key. -/
def EnrollmentPhase.identify (caller : IdentityCaller) (stored : Option String)
    (hasPublic hasId : Bool) : EnrollmentPhase :=
  if stored.isSome ∨ hasPublic ∨ hasId then
    if stored.isSome ∧ hasPublic ∧ hasId ∧ stored ≠ some "" then caller.identified
    else .failed ("node identity is incomplete; restore the database from backup instead of " ++
      "regenerating it")
  else .identity caller

/-- `Service.Ensure` after its `SELECT`. -/
def EnrollmentPhase.ensured (enrollment : Option EnrollmentRow) (now : ℤ) : EnrollmentPhase :=
  match enrollment with
  | none => .privateKey .reenroll
  | some row =>
    if row.claimedAt.isSome then .nothing
    else if ¬ now < ofUnix row.expiresAt then .privateKey .reenroll
    else .bundleId row.token (ofUnix row.expiresAt)

/-- `Service.Current` after its `SELECT`. -/
def EnrollmentPhase.currently (enrollment : Option EnrollmentRow) (now : ℤ) : EnrollmentPhase :=
  match enrollment with
  | none => .failed "enrollment has not been initialized"
  | some row =>
    if row.claimedAt.isSome then .failed "node is already claimed"
    else if ¬ now < ofUnix row.expiresAt then
      .failed "enrollment token has expired; run reenroll"
    else .bundleId row.token (ofUnix row.expiresAt)

/-- The end of `Service.bundle`. -/
def EnrollmentService.bundle (service : EnrollmentService) (token : String) (expires : ℤ)
    (nodeId publicKey : String) : EnrollmentPhase :=
  let bundle : Bundle :=
    { version := 1
      nodeId
      domain := service.domain
      claimEndpoint := "https://" ++ service.domain ++ ":8443/v1/enrollment/claim"
      nodePublicKey := publicKey
      claimToken := token
      expiresAt := expires
      agentVersion := service.version }
  match service.encodeBundle bundle with
  | .ok payload => .revealed bundle ("rvpn1_" ++ payload)
  | .error message => .failed message

/-- Executes a statement unless it fails. A statement that fails leaves the tables and is the end of
the call. -/
def EnrollmentInput.execute (input : EnrollmentInput) (tables : EnrollmentTables)
    (result : EnrollmentTables × EnrollmentPhase) : EnrollmentTables × EnrollmentPhase :=
  match input.failure with
  | some message => (tables, .failed message)
  | none => result

def EnrollmentPhase.next (service : EnrollmentService) (tables : EnrollmentTables)
    (input : EnrollmentInput) : EnrollmentPhase → Option (EnrollmentTables × EnrollmentPhase)
  | .privateKey caller =>
    some (input.execute tables
      (tables, .publicKey caller (tables.store.state "node_private_key")))
  | .publicKey caller stored =>
    some (input.execute tables
      (tables, .nodeId caller stored (tables.store.state "node_public_key").isSome))
  | .nodeId caller stored hasPublic =>
    some (input.execute tables
      (tables, identify caller stored hasPublic (tables.store.state "node_id").isSome))
  | .identity caller =>
    some (input.execute tables
      (tables.setStates [("node_id", input.nodeId), ("node_public_key", input.publicKey),
        ("node_private_key", input.privateKey)], caller.identified))
  | .ensureRow => some (input.execute tables (tables, ensured tables.enrollment input.now))
  | .currentRow => some (input.execute tables (tables, currently tables.enrollment input.now))
  | .replace =>
    some (input.execute tables
      (tables.replaceEnrollment input.token (service.hash input.token) (input.now + 24 * hour),
        .bundleId input.token (input.now + 24 * hour)))
  | .bundleId token expires =>
    some (tables, match tables.read "node_id" input with
      | .ok (some id) => .bundleKey token expires id
      | _ => .failed "node ID is missing")
  | .bundleKey token expires id =>
    some (tables, match tables.read "node_public_key" input with
      | .ok (some key) => service.bundle token expires id key
      | _ => .failed "node public key is missing")
  | .check request =>
    let identity := match tables.read "node_public_key" input with
      | .ok value => value
      | .error _ => none
    some (tables, match service.checkClaim identity request input.now with
      | .ok () => .claiming request
      | .error message => .failed message)
  | .claiming request =>
    some (input.execute tables
      (match tables.claim (service.hash request.claimToken) request.controllerUrl
          request.controllerPublicKey request.nodeCertificatePem request.controllerCaPem
          input.now with
        | .ok claimed => (claimed, .optionalKeys request)
        | .error message => (tables, .failed message)))
  | .optionalKeys request =>
    -- there is no statement when the request names neither key
    if request.optionalKeys = [] then some (tables, .accepted request)
    else some (input.execute tables
      (tables.setStates request.optionalKeys, .accepted request))
  | .nothing | .revealed _ _ | .accepted _ | .failed _ => none

def EnrollmentPhase.alone (service : EnrollmentService) :
    EnrollmentTables → EnrollmentPhase → List EnrollmentInput → EnrollmentTables × EnrollmentPhase
  | tables, phase, [] => (tables, phase)
  | tables, phase, input :: rest =>
    match phase.next service tables input with
    | some (tables', phase') => alone service tables' phase' rest
    | none => (tables, phase)

/-! ### The trust that a claim transfers -/

structure ClaimInputs where
  check : EnrollmentInput
  claim : EnrollmentInput
  keys : EnrollmentInput

section

variable (service : EnrollmentService) (tables : EnrollmentTables) (request : ClaimRequest)

/-- `Service.Claim` on tables that nothing else changes in the meantime. -/
def EnrollmentService.claim (inputs : ClaimInputs) : EnrollmentTables × EnrollmentPhase :=
  EnrollmentPhase.alone service tables (EnrollmentCall.claim request).enter
    [inputs.check, inputs.claim, inputs.keys]

/-- The keys of the quota leases and of the compliance feeds are those of the request, an optional
key that it does not name being that of the controller. -/
structure TrustsOnly (store : Store) : Prop where
  quota : store.quotaKey = some
    (if request.quotaPublicKey = "" then request.controllerPublicKey else request.quotaPublicKey)
  compliance : store.complianceKey = some
    (if request.compliancePublicKey = "" then request.controllerPublicKey
      else request.compliancePublicKey)

/-- A claim that succeeds transfers all trust, and one that returns an error changes nothing. -/
structure Transfers (inputs : ClaimInputs) : Prop where
  success : (service.claim tables request inputs).2 = .accepted request →
    TrustsOnly request (service.claim tables request inputs).1.store
  error : ∀ message, (service.claim tables request inputs).2 = .failed message →
    (service.claim tables request inputs).1 = tables

/-- The claim passes its checks, the row has its token, and the transaction is stored. -/
structure Committed (inputs : ClaimInputs) : Prop where
  read : inputs.check.failure = none
  checked : service.checkClaim (tables.store.state "node_public_key") request inputs.check.now =
    .ok ()
  stored : inputs.claim.failure = none
  row : ∃ row ∈ tables.enrollment,
    row.Claimable (service.hash request.claimToken) inputs.claim.now

end

/-- A committed claim has all that it needs to transfer all trust: its optional keys can be stored,
and the node has no other key in the place of one that the request does not name. -/
structure LeavesNothing (tables : EnrollmentTables) (request : ClaimRequest)
    (inputs : ClaimInputs) : Prop where
  keys : request.optionalKeys ≠ [] → inputs.keys.failure = none
  quota : request.quotaPublicKey = "" →
    ∀ key ∈ tables.store.state "quota_public_key", key = request.controllerPublicKey
  compliance : request.compliancePublicKey = "" →
    ∀ key ∈ tables.store.state "compliance_public_key", key = request.controllerPublicKey

def EnrollmentTables.claimed (tables : EnrollmentTables) (request : ClaimRequest)
    (row : EnrollmentRow) (now : ℤ) : EnrollmentTables :=
  { tables with enrollment := some { row with claimedAt := some (unix now) } }.setStates
    [("controller_url", request.controllerUrl),
      ("controller_public_key", request.controllerPublicKey),
      ("node_certificate", request.nodeCertificatePem), ("controller_ca", request.controllerCaPem)]

section Claim

variable {service : EnrollmentService} {tables : EnrollmentTables} {request : ClaimRequest}
  {inputs : ClaimInputs}

theorem ok_of_bind_ok {α β : Type} {first : Except String α} {rest : α → Except String β}
    {value : β} (hbind : (first >>= rest) = .ok value) :
    ∃ middle, first = .ok middle ∧ rest middle = .ok value := by
  cases first with
  | ok middle => exact ⟨middle, rfl, hbind⟩
  | error message => cases hbind

theorem of_checkThat_ok {condition : Prop} [Decidable condition] {text : String}
    (hok : checkThat condition text = .ok ()) : condition := by
  unfold checkThat at hok
  split_ifs at hok with hcondition
  exact hcondition

theorem ok_of_wrapError_ok {α : Type} {text : String} {result : Except String α} {value : α}
    (hok : wrapError text result = .ok value) : result = .ok value := by
  cases result with
  | ok found => exact hok
  | error message => cases hok

theorem checkClaim_ok {identity : Option String} {now : ℤ}
    (hchecked : service.checkClaim identity request now = .ok ()) :
    ∃ nodeCert publicEncoded publicRaw,
      service.parseCertificate request.nodeCertificatePem = .ok nodeCert ∧
      identity = some publicEncoded ∧ service.decode publicEncoded = .ok publicRaw ∧
      service.hasKey nodeCert publicRaw = true := by
  obtain ⟨-, -, hchecked⟩ := ok_of_bind_ok hchecked
  obtain ⟨-, -, hchecked⟩ := ok_of_bind_ok hchecked
  obtain ⟨-, -, hchecked⟩ := ok_of_bind_ok hchecked
  obtain ⟨nodeCert, hnodeCert, hchecked⟩ := ok_of_bind_ok hchecked
  obtain ⟨controllerCa, -, hchecked⟩ := ok_of_bind_ok hchecked
  obtain ⟨-, -, hchecked⟩ := ok_of_bind_ok hchecked
  obtain ⟨publicEncoded, hidentity, hchecked⟩ := ok_of_bind_ok hchecked
  obtain ⟨publicRaw, hraw, hchecked⟩ := ok_of_bind_ok hchecked
  obtain ⟨_, hkey, -⟩ := ok_of_bind_ok hchecked
  refine ⟨nodeCert, publicEncoded, publicRaw, ok_of_wrapError_ok hnodeCert, ?_, hraw,
    of_checkThat_ok hkey⟩
  cases identity with
  | none => cases hidentity
  | some stored =>
    cases hidentity
    rfl

theorem checkClaim_none (service : EnrollmentService) (request : ClaimRequest) (now : ℤ) :
    service.checkClaim none request now ≠ .ok () := by
  intro hchecked
  obtain ⟨_, _, _, _, hidentity, -⟩ := checkClaim_ok hchecked
  cases hidentity

theorem claim_cases (tables : EnrollmentTables) (request : ClaimRequest) (tokenHash : String)
    (now : ℤ) :
    (∃ row ∈ tables.enrollment, row.Claimable tokenHash now ∧
      tables.claim tokenHash request.controllerUrl request.controllerPublicKey
        request.nodeCertificatePem request.controllerCaPem now =
          .ok (tables.claimed request row now)) ∨
    ((∀ row ∈ tables.enrollment, ¬ row.Claimable tokenHash now) ∧
      tables.claim tokenHash request.controllerUrl request.controllerPublicKey
        request.nodeCertificatePem request.controllerCaPem now =
          .error claimRefused) := by
  unfold EnrollmentTables.claim
  cases henrollment : tables.enrollment with
  | none => exact .inr ⟨fun _ hrow ↦ absurd hrow (Option.not_mem_none _), rfl⟩
  | some row =>
    by_cases hclaimable : row.Claimable tokenHash now
    · exact .inl ⟨row, rfl, hclaimable, if_pos hclaimable⟩
    · refine .inr ⟨fun other hother ↦ ?_, if_neg hclaimable⟩
      cases hother
      exact hclaimable

section

variable (service : EnrollmentService) (tables : EnrollmentTables)

section

variable (request : ClaimRequest) (input : EnrollmentInput)

theorem next_check :
    (∃ message, EnrollmentPhase.next service tables input (.check request) =
        some (tables, .failed message) ∧
      ¬ (input.failure = none ∧ service.checkClaim (tables.store.state "node_public_key") request
        input.now = .ok ())) ∨
    EnrollmentPhase.next service tables input (.check request) =
        some (tables, .claiming request) ∧
      input.failure = none ∧ service.checkClaim (tables.store.state "node_public_key") request
        input.now = .ok () := by
  cases hfailure : input.failure with
  | some failure =>
    left
    cases hcheck : service.checkClaim none request input.now with
    | ok => exact absurd hcheck (checkClaim_none service request input.now)
    | error message =>
      refine ⟨message, ?_, fun hboth ↦ nomatch hboth.1⟩
      simp only [EnrollmentPhase.next, EnrollmentTables.read, hfailure, hcheck]
  | none =>
    cases hcheck : service.checkClaim (tables.store.state "node_public_key") request input.now with
    | ok =>
      refine .inr ⟨?_, rfl, rfl⟩
      simp only [EnrollmentPhase.next, EnrollmentTables.read, hfailure, hcheck]
    | error message =>
      refine .inl ⟨message, ?_, fun hboth ↦ nomatch hboth.2⟩
      simp only [EnrollmentPhase.next, EnrollmentTables.read, hfailure, hcheck]

theorem next_claiming :
    (∃ message, EnrollmentPhase.next service tables input (.claiming request) =
        some (tables, .failed message) ∧
      ¬ (input.failure = none ∧ ∃ row ∈ tables.enrollment,
        row.Claimable (service.hash request.claimToken) input.now)) ∨
    ∃ row ∈ tables.enrollment, row.Claimable (service.hash request.claimToken) input.now ∧
      input.failure = none ∧ EnrollmentPhase.next service tables input (.claiming request) =
        some (tables.claimed request row input.now, .optionalKeys request) := by
  cases hfailure : input.failure with
  | some failure =>
    refine .inl ⟨failure, ?_, fun hboth ↦ nomatch hboth.1⟩
    simp only [EnrollmentPhase.next, EnrollmentInput.execute, hfailure]
  | none =>
    rcases claim_cases tables request (service.hash request.claimToken) input.now with
      ⟨row, hrow, hclaimable, hclaim⟩ | ⟨hnot, hclaim⟩
    · refine .inr ⟨row, hrow, hclaimable, rfl, ?_⟩
      simp only [EnrollmentPhase.next, EnrollmentInput.execute, hfailure, hclaim]
    · refine .inl ⟨claimRefused, ?_, fun hboth ↦ ?_⟩
      · simp only [EnrollmentPhase.next, EnrollmentInput.execute, hfailure, hclaim]
      · obtain ⟨row, hrow, hclaimable⟩ := hboth.2
        exact hnot row hrow hclaimable

theorem next_optionalKeys :
    (request.optionalKeys ≠ [] ∧ ∃ message ∈ input.failure,
      EnrollmentPhase.next service tables input (.optionalKeys request) =
        some (tables, .failed message)) ∨
    (request.optionalKeys ≠ [] → input.failure = none) ∧
      EnrollmentPhase.next service tables input (.optionalKeys request) =
        some (tables.setStates request.optionalKeys, .accepted request) := by
  by_cases hkeys : request.optionalKeys = []
  · refine .inr ⟨fun hnot ↦ absurd hkeys hnot, ?_⟩
    simp only [EnrollmentPhase.next, hkeys]
    rfl
  · cases hfailure : input.failure with
    | some failure =>
      refine .inl ⟨hkeys, failure, rfl, ?_⟩
      simp only [EnrollmentPhase.next, if_neg hkeys, EnrollmentInput.execute, hfailure]
    | none =>
      refine .inr ⟨fun _ ↦ rfl, ?_⟩
      simp only [EnrollmentPhase.next, if_neg hkeys, EnrollmentInput.execute, hfailure]

end

theorem alone_failed (message : String) (inputs : List EnrollmentInput) :
    EnrollmentPhase.alone service tables (.failed message) inputs = (tables, .failed message) := by
  cases inputs <;> rfl

theorem claim_outcome (request : ClaimRequest) (inputs : ClaimInputs) :
    (¬ Committed service tables request inputs ∧ ∃ message,
      service.claim tables request inputs = (tables, .failed message)) ∨
    Committed service tables request inputs ∧ ∃ row ∈ tables.enrollment, row.claimedAt = none ∧
      ((request.optionalKeys ≠ [] ∧ ∃ message ∈ inputs.keys.failure,
        service.claim tables request inputs =
          (tables.claimed request row inputs.claim.now, .failed message)) ∨
      (request.optionalKeys ≠ [] → inputs.keys.failure = none) ∧
        service.claim tables request inputs =
          ((tables.claimed request row inputs.claim.now).setStates request.optionalKeys,
            .accepted request)) := by
  have hunfold : service.claim tables request inputs =
      EnrollmentPhase.alone service tables (.check request)
        [inputs.check, inputs.claim, inputs.keys] := rfl
  rcases next_check service tables request inputs.check with
    ⟨message, hnext, hnot⟩ | ⟨hnext, hread, hchecked⟩
  · refine .inl ⟨fun hcommitted ↦ hnot ⟨hcommitted.read, hcommitted.checked⟩, message, ?_⟩
    rw [hunfold, EnrollmentPhase.alone, hnext]
    exact alone_failed service tables message _
  rw [EnrollmentPhase.alone, hnext] at hunfold
  rcases next_claiming service tables request inputs.claim with
    ⟨message, hnext, hnot⟩ | ⟨row, hrow, hclaimable, hstored, hnext⟩
  · refine .inl ⟨fun hcommitted ↦ hnot ⟨hcommitted.stored, hcommitted.row⟩, message, ?_⟩
    rw [hunfold]
    dsimp only
    rw [EnrollmentPhase.alone, hnext]
    exact alone_failed service tables message _
  refine .inr ⟨⟨hread, hchecked, hstored, row, hrow, hclaimable⟩, row, hrow, hclaimable.2.1, ?_⟩
  dsimp only at hunfold
  rw [EnrollmentPhase.alone, hnext] at hunfold
  dsimp only at hunfold
  rcases next_optionalKeys service (tables.claimed request row inputs.claim.now) request
    inputs.keys with ⟨hkeys, message, hmessage, hnext⟩ | ⟨hkeys, hnext⟩
  · refine .inl ⟨hkeys, message, hmessage, ?_⟩
    rw [hunfold, EnrollmentPhase.alone, hnext]
    rfl
  · refine .inr ⟨hkeys, ?_⟩
    rw [hunfold, EnrollmentPhase.alone, hnext]
    rfl

end

/-! The keys in force after a claim that was stored. -/

section Keys

variable (tables : EnrollmentTables) (request : ClaimRequest) (row : EnrollmentRow) (now : ℤ)

theorem claimed_controllerKey :
    ((tables.claimed request row now).setStates request.optionalKeys).store.state
      "controller_public_key" = some request.controllerPublicKey := by
  unfold EnrollmentTables.claimed EnrollmentTables.setStates Store.setStates
    ClaimRequest.optionalKeys
  split_ifs <;> simp

theorem claimed_quotaKey :
    ((tables.claimed request row now).setStates request.optionalKeys).store.state
      "quota_public_key" =
      if request.quotaPublicKey = "" then tables.store.state "quota_public_key"
      else some request.quotaPublicKey := by
  unfold EnrollmentTables.claimed EnrollmentTables.setStates Store.setStates
    ClaimRequest.optionalKeys
  split_ifs <;> simp

theorem claimed_complianceKey :
    ((tables.claimed request row now).setStates request.optionalKeys).store.state
      "compliance_public_key" =
      if request.compliancePublicKey = "" then tables.store.state "compliance_public_key"
      else some request.compliancePublicKey := by
  unfold EnrollmentTables.claimed EnrollmentTables.setStates Store.setStates
    ClaimRequest.optionalKeys
  split_ifs <;> simp

theorem keyInForce_eq_iff (named controller : String) (old : Option String) :
    (if named = "" then old else some named).or (some controller) =
      some (if named = "" then controller else named) ↔
        (named = "" → ∀ key ∈ old, key = controller) := by
  by_cases hnamed : named = ""
  · cases old <;> simp [hnamed]
  · simp [hnamed]

theorem trustsOnly_claimed_iff :
    TrustsOnly request ((tables.claimed request row now).setStates request.optionalKeys).store ↔
      (request.quotaPublicKey = "" →
        ∀ key ∈ tables.store.state "quota_public_key", key = request.controllerPublicKey) ∧
      (request.compliancePublicKey = "" →
        ∀ key ∈ tables.store.state "compliance_public_key", key = request.controllerPublicKey) := by
  rw [← keyInForce_eq_iff, ← keyInForce_eq_iff, ← claimed_quotaKey tables request row now,
    ← claimed_complianceKey tables request row now, ← claimed_controllerKey tables request row now]
  exact ⟨fun htrusts ↦ ⟨htrusts.quota, htrusts.compliance⟩, fun hboth ↦ ⟨hboth.1, hboth.2⟩⟩

end Keys

theorem claimed_ne {row : EnrollmentRow} (hrow : row ∈ tables.enrollment)
    (hunclaimed : row.claimedAt = none) (now : ℤ) : tables.claimed request row now ≠ tables := by
  intro hsame
  have henrollment : some { row with claimedAt := some (unix now) } = tables.enrollment :=
    congrArg EnrollmentTables.enrollment hsame
  rw [Option.mem_def.mp hrow, Option.some.injEq] at henrollment
  rw [← henrollment] at hunclaimed
  cases hunclaimed

/-- A claim transfers all trust if it succeeds and changes nothing if it fails exactly if, once its
transaction is stored, its optional keys can be stored too and the node keeps no other key in the
place of one that the request does not name. -/
theorem trust_transferred_iff (service : EnrollmentService) (tables : EnrollmentTables)
    (request : ClaimRequest) (inputs : ClaimInputs) :
    Transfers service tables request inputs ↔
      (Committed service tables request inputs → LeavesNothing tables request inputs) := by
  rcases claim_outcome service tables request inputs with ⟨hnot, message, hclaim⟩ |
    ⟨hcommitted, row, hrow, hunclaimed, ⟨hkeys, message, hmessage, hclaim⟩ | ⟨hkeys, hclaim⟩⟩
  · refine ⟨fun _ hcommitted ↦ absurd hcommitted hnot, fun _ ↦ ⟨fun hsuccess ↦ ?_, fun _ _ ↦ ?_⟩⟩
    · rw [hclaim] at hsuccess
      cases hsuccess
    · rw [hclaim]
  · constructor
    · intro htransfers
      have hsame := htransfers.error message (by rw [hclaim])
      rw [hclaim] at hsame
      exact absurd hsame (claimed_ne hrow hunclaimed _)
    · intro hleaves
      have hnone := (hleaves hcommitted).keys hkeys
      rw [hnone] at hmessage
      cases hmessage
  · have htrusts := trustsOnly_claimed_iff tables request row inputs.claim.now
    constructor
    · intro htransfers hcommitted
      have hsuccess := htransfers.success (by rw [hclaim])
      rw [hclaim, htrusts] at hsuccess
      exact ⟨hkeys, hsuccess.1, hsuccess.2⟩
    · intro hleaves
      refine ⟨fun _ ↦ ?_, fun message hfailed ↦ ?_⟩
      · rw [hclaim, htrusts]
        exact ⟨(hleaves hcommitted).quota, (hleaves hcommitted).compliance⟩
      · rw [hclaim] at hfailed
        cases hfailed

end Claim

/-! ### A node that changes its controller -/

def soloService : EnrollmentService where
  domain := "node.example"
  version := "1"
  hash := id
  decode := fun value ↦ .ok (List.replicate 32 (if value = "public" then 1 else 0))
  blank := fun value ↦ value = ""
  parseUrl := fun value ↦ .ok ("wss", value)
  decodePem := fun _ ↦ some ("CERTIFICATE", [])
  parseX509 := fun _ ↦ .ok ⟨1, some "public", 365 * day⟩
  verify := fun _ _ _ ↦ .ok ()
  encodeBundle := fun bundle ↦ .ok bundle.claimToken

def soloInput (token : String) : EnrollmentInput := ⟨0, token, "node", "public", "private", none⟩

def soloClaim (controller token quotaPublicKey : String) : ClaimRequest where
  claimToken := token
  controllerUrl := controller
  controllerPublicKey := controller
  quotaPublicKey
  compliancePublicKey := ""
  nodeCertificatePem := controller
  controllerCaPem := controller

def freshTables : EnrollmentTables := ⟨{ soloStore with state := fun _ ↦ none }, none⟩

def startedTables : EnrollmentTables :=
  (EnrollmentPhase.alone soloService freshTables EnrollmentCall.ensure.enter
    (List.replicate 11 (soloInput "token"))).1

def soloInputs (failure : Option String) : ClaimInputs :=
  ⟨soloInput "", soloInput "", { soloInput "" with failure }⟩

def reenrolledTables : EnrollmentTables :=
  (EnrollmentPhase.alone soloService
    (soloService.claim startedTables (soloClaim "first" "token" "quota") (soloInputs none)).1
    EnrollmentCall.reenroll.enter (List.replicate 6 (soloInput "renewed"))).1

theorem trust_transferred_first :
    let request := soloClaim "first" "token" "quota"
    (soloService.claim startedTables request (soloInputs none)).2 = .accepted request ∧
      Transfers soloService startedTables request (soloInputs none) := by
  refine ⟨by decide, (trust_transferred_iff _ _ _ _).mpr fun _ ↦ ⟨fun _ ↦ rfl, ?_, ?_⟩⟩
  · intro hnone
    exact absurd hnone (by decide)
  · intro _ key hkey
    have hempty : startedTables.store.state "compliance_public_key" = none := by decide
    rw [hempty] at hkey
    cases hkey

/-- A second controller that has no quota key of its own claims the node, and the node goes on
verifying its leases with that of the first. A claim whose last statement fails is reported as an
error, with its token used and the node in the hands of the controller. -/
theorem trust_left_behind :
    (let request := soloClaim "second" "renewed" ""
      let result := soloService.claim reenrolledTables request (soloInputs none)
      result.2 = .accepted request ∧ result.1.store.state "controller_public_key" = some "second" ∧
      result.1.store.quotaKey = some "quota" ∧
      ¬ Transfers soloService reenrolledTables request (soloInputs none)) ∧
    (let request := soloClaim "first" "token" "quota"
      let result := soloService.claim startedTables request (soloInputs (some "disk full"))
      result.2 = .failed "disk full" ∧
      startedTables.enrollment.bind EnrollmentRow.claimedAt = none ∧
      result.1.enrollment.bind EnrollmentRow.claimedAt = some 0 ∧
      result.1.store.quotaKey = some "first" ∧
      ¬ Transfers soloService startedTables request (soloInputs (some "disk full"))) := by
  refine ⟨⟨by decide, by decide, by decide, fun htransfers ↦ ?_⟩,
    ⟨by decide, by decide, by decide, by decide, fun htransfers ↦ ?_⟩⟩
  · have hkey := (htransfers.success (by decide)).quota
    exact absurd hkey (by decide)
  · have hsame := congrArg (fun tables ↦ tables.store.quotaKey)
      (htransfers.error "disk full" (by decide))
    exact absurd hsame (by decide)

end RiseVpn
