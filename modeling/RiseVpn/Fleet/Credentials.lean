import RiseVpn.Fleet.SubscriptionDocuments
import RiseVpn.Node.DeviceCommands
import RiseVpn.Node.XrayEmails

/-!
# The credential of a device at both ends

The controller stores the SHA-256 digest of a credential as bytes (`Hash` of `crypto.go`), sends it
to the node in base64url (`provisionDevice`, `queueDeviceResync`) and puts a UUID made from it into
the customer's link. The node hashes and encodes a presented credential by itself (`security.Hash`)
and makes the UUID of its Xray account from the text it was sent. SHA-256 and the UUID of a digest
are parameters.

`credentials_agree` follows a credential through both programs: the texts are the same, no other
digest has that text, and so are the two UUIDs.
-/

set_option autoImplicit false

namespace RiseVpn.Fleet

open Control

structure Digest where
  bytes : List UInt8
  length_eq : bytes.length = 32

section Hashes

variable (sha256 : String → Digest) (uuid : List UInt8 → String)

/-- `Hash` of the controller: the value of the column `credential_hash`. -/
def columnHash (value : String) : List UInt8 := (sha256 value).bytes

/-- `base64.RawURLEncoding.EncodeToString(credentialHash)` in a `device.upsert`. -/
def sentHash (column : List UInt8) : String := Base64Url.encode column

/-- `security.Hash` of the node. -/
def securityHash (value : String) : String := Base64Url.encode (sha256 value).bytes

def idFromCredential (credential : String) : String := uuid (sha256 credential).bytes

/-- `vlessWebSocketURI` of a credential. -/
def vlessLink (credential domain : String) : String :=
  vlessWebSocketUri (idFromCredential sha256 uuid credential) domain

end Hashes

theorem encode_eq_iff {digest other : Digest} :
    Base64Url.encode digest.bytes = Base64Url.encode other.bytes ↔ digest = other := by
  refine ⟨fun hsame ↦ ?_, fun hsame ↦ by rw [hsame]⟩
  have hbytes := congrArg Base64Url.decode hsame
  rw [Base64Url.decode_encode, Base64Url.decode_encode, Option.some.injEq] at hbytes
  cases digest
  cases other
  cases hbytes
  rfl

theorem vlessWebSocketUri_host (id domain : String) :
    ∃ rest, vlessWebSocketUri id domain = "vless://" ++ id ++ "@" ++ domain ++ ":443?" ++ rest :=
  ⟨_, String.append_assoc.trans String.append_assoc⟩

/-- Assumes: a device whose column holds the digest of a credential, and a node that has handled its
`device.upsert`. The node looks the credential up under the text it was sent, which is the text of
no other digest, and finds the device; the UUID it makes from the text is the one in the link. The
empty credential is refused before the lookup. -/
theorem credentials_agree (sha256 : String → Digest) (uuid : List UInt8 → String)
    (credential : String) {integrations : Integrations} {store : Store} {now : ℤ} {id : DeviceId}
    {device : DeviceRow} {subscription : Subscription}
    (hcolumn : device.credentialHash = sentHash (columnHash sha256 credential))
    (hhandled : (handle integrations store (upsertMessage id device subscription) now).2 = .ok ()) :
    let node := (handle integrations store (upsertMessage id device subscription) now).1
    (∃ row, node.storedById id = some row ∧
      row.credentialHash = securityHash sha256 credential ∧
      node.deviceByCredentialHash (securityHash sha256 credential) =
        some (Store.scanDevice row) ∧
      ∀ later, authenticate (securityHash sha256) node credential later =
        if credential = "" then { ok := false, reason := "missing_credential" }
        else authenticateDevice (Store.scanDevice row) later) ∧
    (∀ digest : Digest, securityHash sha256 credential = sentHash digest.bytes ↔
      digest = sha256 credential) ∧
    ∃ vlessId, idFromCredentialHash uuid device.credentialHash = some vlessId ∧
      ∀ domain, ∃ rest,
        vlessLink sha256 uuid credential domain = "vless://" ++ vlessId ++ "@" ++ domain ++
          ":443?" ++ rest := by
  intro node
  obtain ⟨row, hrow, hhash⟩ : ∃ row, node.storedById id = some row ∧
      row.credentialHash = securityHash sha256 credential := by
    have hwrites : (upsertMessage id device subscription).WritesTo id := rfl
    have heffect := storedById_handle_of_ok hwrites hhandled
    cases hold : store.storedById id with
    | none => exact ⟨_, heffect.trans (congrArg _ hold), hcolumn⟩
    | some old => exact ⟨_, heffect.trans (congrArg _ hold), hcolumn⟩
  refine ⟨⟨row, hrow, hhash, hhash ▸ Store.deviceByCredentialHash_of_stored hrow, fun later ↦ ?_⟩,
    fun digest ↦ encode_eq_iff.trans eq_comm, idFromCredential sha256 uuid credential, ?_,
    fun domain ↦ vlessWebSocketUri_host _ domain⟩
  · split_ifs with hempty
    · rw [authenticate, if_pos hempty]
    · exact authenticate_of_stored hempty hrow hhash later
  · rw [hcolumn]
    exact idFromCredentialHash_encode uuid (sha256 credential).length_eq

def lengthDigest (value : String) : Digest :=
  ⟨List.replicate 32 (.ofNat value.length), List.length_replicate⟩

theorem credentials_agree_new :
    let device : DeviceRow := ⟨sentHash (columnHash lengthDigest "credential"), none, none, none⟩
    let message := upsertMessage "device" device (trialRow .pendingTrial 0)
    (handle soloIntegrations soloStore message 0).2 = .ok () ∧
      ∃ row, (handle soloIntegrations soloStore message 0).1.storedById "device" = some row ∧
        row.credentialHash = securityHash lengthDigest "credential" := by
  intro device message
  have hhandled : (handle soloIntegrations soloStore message 0).2 = .ok () := rfl
  obtain ⟨⟨row, hrow, hhash, -⟩, -⟩ := credentials_agree lengthDigest Base64Url.encode "credential"
    (rfl : device.credentialHash = _) hhandled
  exact ⟨hhandled, row, hrow, hhash⟩

end RiseVpn.Fleet
