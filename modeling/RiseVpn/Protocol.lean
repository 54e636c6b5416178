import RiseVpn.Catalogue

/-!
# The control protocol

The messages of protocol version 2 that the controller and a node exchange. A message is taken as
the data that the node decodes from it, or as malformed when it does not decode. The two ends
declare different fields for `device.upsert`: the node's struct has a lease, which
`protocol.DeviceUpsert` lacks, so that the lease of the controller's messages is the zero value.

Signatures and certificates are not part of the repository. `LeaseSignatures` stands for Ed25519
over the signing bytes of a lease together with the base64 texts around it and carries the
documented fact the code relies on, that what was signed verifies; `Certificates` stands for PEM and
X.509.
-/

set_option autoImplicit false

namespace RiseVpn

abbrev NodeId := String
abbrev DeviceId := String
abbrev MessageId := String

/-! ### Quota leases -/

/-- The signed fields of a quota lease, `QuotaLease.signingBytes`. -/
structure UnsignedLease where
  leaseId : String
  deviceId : DeviceId
  nodeId : NodeId
  bytes : ℤ
  issuedAt : ℤ
  expiresAt : ℤ
  keyId : String
  deriving DecidableEq

structure QuotaLease extends UnsignedLease where
  signature : String
  deriving DecidableEq

/-- Ed25519 over the signing bytes of a lease, with keys and signatures as base64url texts. -/
structure LeaseSignatures where
  /-- The public key of a private key. -/
  publicKey : String → String
  /-- `security.Decode` of a public key gives `ed25519.PublicKeySize` bytes. -/
  isPublicKey : String → Bool
  /-- `base64.RawURLEncoding.DecodeString` accepts a signature. -/
  decodes : String → Bool
  sign : String → UnsignedLease → String
  verify : String → UnsignedLease → String → Bool
  isPublicKey_publicKey : ∀ key, isPublicKey (publicKey key) = true
  decodes_sign : ∀ key lease, decodes (sign key lease) = true
  verify_sign : ∀ key lease, verify (publicKey key) lease (sign key lease) = true

def textSignatures : LeaseSignatures where
  publicKey := id
  isPublicKey := fun _ ↦ true
  decodes := fun _ ↦ true
  sign := fun key lease ↦ key ++ ":" ++ lease.leaseId
  verify := fun key lease signature ↦ signature = key ++ ":" ++ lease.leaseId
  isPublicKey_publicKey := fun _ ↦ rfl
  decodes_sign := fun _ _ ↦ rfl
  verify_sign := fun _ _ ↦ by simp

/-- `QuotaLease.Sign`. -/
def LeaseSignatures.signed (signatures : LeaseSignatures) (key : String) (lease : UnsignedLease) :
    QuotaLease := { lease with signature := signatures.sign key lease }

def QuotaLease.verify (signatures : LeaseSignatures) (publicKey : String) (now : ℤ)
    (lease : QuotaLease) : Except String Unit :=
  if lease.leaseId = "" ∨ lease.deviceId = "" ∨ lease.nodeId = "" ∨ lease.bytes < 0 then
    .error "invalid quota lease fields"
  else if ¬ now < lease.expiresAt ∨ now + 5 * minute < lease.issuedAt ∨
      24 * hour < lease.expiresAt - lease.issuedAt then
    .error "quota lease is outside its validity window"
  else if ¬ signatures.decodes lease.signature then
    .error "invalid quota lease signature encoding"
  else if ¬ signatures.verify publicKey lease.toUnsignedLease lease.signature then
    .error "invalid quota lease signature"
  else .ok ()

theorem QuotaLease.bytes_nonneg {signatures : LeaseSignatures} {publicKey : String} {now : ℤ}
    {lease : QuotaLease} (hverify : lease.verify signatures publicKey now = .ok ()) :
    0 ≤ lease.bytes := by
  unfold QuotaLease.verify at hverify
  split_ifs at hverify with hfields
  omega

theorem QuotaLease.verify_signed (signatures : LeaseSignatures) (key : String)
    {lease : UnsignedLease} {now : ℤ} (hlease : lease.leaseId ≠ "") (hdevice : lease.deviceId ≠ "")
    (hnode : lease.nodeId ≠ "") (hbytes : 0 ≤ lease.bytes) (hexpires : now < lease.expiresAt)
    (hissued : lease.issuedAt ≤ now + 5 * minute)
    (hwindow : lease.expiresAt - lease.issuedAt ≤ 24 * hour) :
    (signatures.signed key lease).verify signatures (signatures.publicKey key) now = .ok () := by
  have hfields : ¬ (lease.leaseId = "" ∨ lease.deviceId = "" ∨ lease.nodeId = "" ∨
      lease.bytes < 0) := by
    rintro (h | h | h | h)
    · exact hlease h
    · exact hdevice h
    · exact hnode h
    · omega
  have htimes : ¬ (¬ now < lease.expiresAt ∨ now + 5 * minute < lease.issuedAt ∨
      24 * hour < lease.expiresAt - lease.issuedAt) := by
    omega
  simp only [QuotaLease.verify, LeaseSignatures.signed, if_neg hfields, if_neg htimes,
    signatures.decodes_sign, signatures.verify_sign, not_true_eq_false, if_false]

/-! ### Messages -/

/-- The struct the node's `device.upsert` handler decodes into. A field that the message does not
have keeps its zero value. -/
structure DeviceUpsert where
  deviceId : DeviceId
  credentialHash : String
  plan : Plan
  active : Bool
  subscriptionEnds : ℤ
  periodEnds : ℤ
  quotaBytes : ℤ
  leaseBytes : ℤ := 0
  leaseExpires : ℤ := zeroTime
  deriving DecidableEq

structure DeviceRef where
  deviceId : DeviceId
  reason : String
  deriving DecidableEq

structure PolicyOverride where
  deviceId : DeviceId
  upBps : ℤ
  downBps : ℤ
  p2pAllowed : Bool
  expiresAt : ℤ
  deriving DecidableEq

structure CertificateRotate where
  certificatePem : String
  controllerCa : String
  notAfter : ℤ
  deriving DecidableEq

/-- `compliance.SignedFeed`. `rules` is a JSON text. -/
structure SignedFeed where
  version : String
  updatedAt : ℤ
  expiresAt : ℤ
  rules : String
  signature : String
  deriving DecidableEq

/-- An element of the `eventIds` of a `usage.ack`: a string, a number or something else. -/
inductive RawEventId
  | text (value : String)
  | number (value : ℤ)
  | invalid
  deriving DecidableEq

inductive Message
  | deviceUpsert (data : DeviceUpsert)
  | quotaLease (data : QuotaLease)
  | deviceRevoke (data : DeviceRef)
  | sessionKick (data : DeviceRef)
  | policyOverride (data : PolicyOverride)
  | complianceFeed (feed : SignedFeed)
  | usageAck (eventIds : List RawEventId)
  | certificateRotate (data : CertificateRotate)
  | other (type : String)
  /-- A message of one of the types above whose data `json.Unmarshal` refuses. -/
  | malformed (type error : String)
  deriving DecidableEq

structure UsageEvent where
  eventId : String
  deviceId : DeviceId
  rxBytes : ℤ
  txBytes : ℤ
  startedAt : ℤ
  endedAt : ℤ
  deriving DecidableEq

/-! ### Certificates -/

/-- What the code reads of a parsed certificate. The public key is absent when it is no Ed25519
key. -/
structure Certificate where
  serialNumber : ℕ
  publicKey : Option String
  notAfter : ℤ
  deriving DecidableEq

structure Certificates where
  /-- `pem.Decode` followed by `x509.ParseCertificate`. -/
  parse : String → Option Certificate

end RiseVpn
