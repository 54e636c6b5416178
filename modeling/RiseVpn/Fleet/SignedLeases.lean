import RiseVpn.Control.Leases
import RiseVpn.Library.Base64Url
import RiseVpn.Library.CivilTime
import RiseVpn.Library.JsonStrings
import RiseVpn.Library.KeyedTable
import RiseVpn.Library.Utf8Lines

/-!
# What a lease signature stands for

A quota lease is signed as the JSON text of its fields, and the node verifies the text of the lease
that it has received. `UnsignedLease.signingBytes` is that text. It can be read back, so the text
determines every field (`signingBytes_injective`). There is no text for an instant whose year does
not have four digits. The node decodes the lease from the JSON text of all its fields
(`decodeLease_object`).

With signatures that verify exactly what was signed (`SignatureScheme.Ideal`), a lease therefore
verifies exactly if these very fields were signed with the key, and the fields and the times are in
order: `verifyLease_iff`. `lease_signature_binds` puts this together with the leases that
`provisionDevice` issues, and with the bound on the time that a node accepts a lease for.
-/

set_option autoImplicit false

namespace RiseVpn

open PrefixCode JsonStrings CivilTime

/-! ### The signed text -/

/-- The members of the JSON text of a lease. `Time.MarshalJSON` writes an instant as a string. -/
def UnsignedLease.members (lease : UnsignedLease) : List (String × Scalar) :=
  [("leaseId", .text lease.leaseId), ("deviceId", .text lease.deviceId),
    ("nodeId", .text lease.nodeId), ("bytes", .number lease.bytes),
    ("issuedAt", .text (String.ofList (rfc3339 lease.issuedAt))),
    ("expiresAt", .text (String.ofList (rfc3339 lease.expiresAt))),
    ("keyId", .text lease.keyId)]

/-- `QuotaLease.signingBytes`. It fails for a year that does not have four digits. -/
def UnsignedLease.signingBytes (lease : UnsignedLease) : Option (List UInt8) :=
  if Representable lease.issuedAt ∧ Representable lease.expiresAt then
    some (Utf8Lines.encode (object lease.members))
  else none

def decodeInstant : Scalar → Option ℤ
  | .text value => whole readRfc3339 value.toList
  | .number _ => none

theorem decodeInstant_rfc3339 {instant : ℤ} (hinstant : Representable instant) :
    decodeInstant (.text (String.ofList (rfc3339 instant))) = some instant := by
  rw [decodeInstant, String.toList_ofList]
  exact whole_of_read (readRfc3339_rfc3339 hinstant)

theorem signingBytes_injective {lease lease' : UnsignedLease} {payload : List UInt8}
    (hlease : lease.signingBytes = some payload) (hlease' : lease'.signingBytes = some payload) :
    lease = lease' := by
  obtain ⟨⟨hissued, hexpires⟩, hpayload⟩ := Option.ite_none_right_eq_some.mp hlease
  obtain ⟨⟨hissued', hexpires'⟩, hpayload'⟩ := Option.ite_none_right_eq_some.mp hlease'
  have hmembers : lease.members = lease'.members := by
    have hread := congrArg (readObject ∘ Utf8Lines.decode)
      (Option.some.inj (hpayload.trans hpayload'.symm))
    simpa only [Function.comp_apply, Utf8Lines.decode_encode, readObject_object,
      Option.some.injEq] using hread
  simp only [UnsignedLease.members, List.cons.injEq, Prod.mk.injEq, true_and, and_true] at hmembers
  obtain ⟨hleaseId, hdeviceId, hnodeId, hbytes, hissuedAt, hexpiresAt, hkeyId⟩ := hmembers
  have hissuedAt := congrArg decodeInstant hissuedAt
  have hexpiresAt := congrArg decodeInstant hexpiresAt
  rw [decodeInstant_rfc3339 hissued, decodeInstant_rfc3339 hissued'] at hissuedAt
  rw [decodeInstant_rfc3339 hexpires, decodeInstant_rfc3339 hexpires'] at hexpiresAt
  cases lease
  cases lease'
  simp_all

/-! ### The lease as JSON -/

def QuotaLease.members (lease : QuotaLease) : List (String × Scalar) :=
  lease.toUnsignedLease.members ++ [("signature", .text lease.signature)]

/-- A field of the struct: the last member of its name, or the zero value. -/
def decodeField {α : Type} (zero : α) (read : Scalar → Option α)
    (members : List (String × Scalar)) (name : String) : Option α :=
  match KeyedTable.lookup Prod.fst name members.reverse with
  | none => some zero
  | some member => read member.2

def decodeString : Scalar → Option String
  | .text value => some value
  | .number _ => none

def decodeInt64 : Scalar → Option ℤ
  | .text _ => none
  | .number value => if Int64Range value then some value else none

/-- `json.Unmarshal` of a lease, with its times in UTC. -/
def decodeLease (text : List Char) : Option QuotaLease := do
  let members ← readObject text
  let leaseId ← decodeField "" decodeString members "leaseId"
  let deviceId ← decodeField "" decodeString members "deviceId"
  let nodeId ← decodeField "" decodeString members "nodeId"
  let bytes ← decodeField 0 decodeInt64 members "bytes"
  let issuedAt ← decodeField zeroTime decodeInstant members "issuedAt"
  let expiresAt ← decodeField zeroTime decodeInstant members "expiresAt"
  let keyId ← decodeField "" decodeString members "keyId"
  let signature ← decodeField "" decodeString members "signature"
  some ⟨⟨leaseId, deviceId, nodeId, bytes, issuedAt, expiresAt, keyId⟩, signature⟩

theorem decodeField_of_perm {lease : QuotaLease} {members : List (String × Scalar)}
    (hperm : members.Perm lease.members) : ∀ member ∈ lease.members, ∀ {α : Type} (zero : α)
      (read : Scalar → Option α), decodeField zero read members member.1 = read member.2 := by
  intro member hmember α zero read
  have hnames : (lease.members.map Prod.fst).Nodup := by
    simp [QuotaLease.members, UnsignedLease.members]
  have hreverse := (List.reverse_perm members).trans hperm
  have hfound : KeyedTable.lookup Prod.fst member.1 members.reverse = some member :=
    (KeyedTable.lookup_eq_some_iff ((hreverse.map _).nodup_iff.mpr hnames)).mpr
      ⟨hreverse.mem_iff.mpr hmember, rfl⟩
  rw [decodeField, hfound]

/-- The database keeps a message as `jsonb`, which has an order of its own for the members. -/
theorem decodeLease_object {lease : QuotaLease} (hsigned : lease.signingBytes ≠ none)
    (hbytes : Int64Range lease.bytes) {members : List (String × Scalar)}
    (hperm : members.Perm lease.members) :
    decodeLease (object members) = some lease := by
  obtain ⟨⟨hissued, hexpires⟩, -⟩ :=
    Option.ite_none_right_eq_some.mp (Option.ne_none_iff_exists'.mp hsigned).choose_spec
  have hfields := decodeField_of_perm hperm
  simp only [QuotaLease.members, UnsignedLease.members, List.cons_append, List.nil_append,
    List.forall_mem_cons] at hfields
  obtain ⟨hleaseId, hdeviceId, hnodeId, hcount, hissuedAt, hexpiresAt, hkeyId, hsignature, -⟩ :=
    hfields
  simp only [decodeLease, readObject_object, hleaseId, hdeviceId, hnodeId, hcount,
    hissuedAt, hexpiresAt, hkeyId, hsignature, decodeString, decodeInt64, if_pos hbytes,
    decodeInstant_rfc3339 hissued, decodeInstant_rfc3339 hexpires, Option.bind_eq_bind,
    Option.bind_some]

/-! ### Verification -/

/-- Ed25519: the public key of a private key, and the check of a signature on some bytes. -/
structure SignatureScheme (Key : Type) where
  publicKey : Key → List UInt8
  verify : List UInt8 → List UInt8 → List UInt8 → Bool

structure SignedLease (Key : Type) where
  key : Key
  lease : UnsignedLease
  signature : List UInt8

def QuotaLease.Complete (lease : QuotaLease) : Prop :=
  lease.leaseId ≠ "" ∧ lease.deviceId ≠ "" ∧ lease.nodeId ≠ "" ∧ 0 ≤ lease.bytes
  deriving Decidable

def QuotaLease.InWindow (lease : QuotaLease) (now : ℤ) : Prop :=
  now < lease.expiresAt ∧ lease.issuedAt ≤ now + 5 * minute ∧
    lease.expiresAt - lease.issuedAt ≤ 24 * hour
  deriving Decidable

namespace SignatureScheme

variable {Key : Type} (scheme : SignatureScheme Key)

/-- `QuotaLease.Verify`, on the bytes that were signed. -/
def verifyLease (publicKey : List UInt8) (now : ℤ) (lease : QuotaLease) : Except String Unit :=
  if ¬ lease.Complete then .error "invalid quota lease fields"
  else if ¬ lease.InWindow now then .error "quota lease is outside its validity window"
  else
    match Base64Url.decode lease.signature with
    | none => .error "invalid quota lease signature encoding"
    | some signature =>
      match lease.signingBytes with
      | none => .error "invalid quota lease signature"
      | some payload =>
        if scheme.verify publicKey payload signature then .ok ()
        else .error "invalid quota lease signature"

/-- What verifies is what was signed: the leases that `Sign` has signed so far are all there is. -/
structure Ideal (signed : List (SignedLease Key)) : Prop where
  payload : ∀ entry ∈ signed, entry.lease.signingBytes ≠ none
  verify_iff : ∀ key payload signature,
    scheme.verify (scheme.publicKey key) payload signature = true ↔
      ∃ entry ∈ signed, entry.key = key ∧ entry.signature = signature ∧
        entry.lease.signingBytes = some payload

variable {scheme} {signed : List (SignedLease Key)}

theorem verifyLease_ok_iff {publicKey : List UInt8} {now : ℤ} {lease : QuotaLease} :
    scheme.verifyLease publicKey now lease = .ok () ↔ lease.Complete ∧ lease.InWindow now ∧
      ∃ signature payload, Base64Url.decode lease.signature = some signature ∧
        lease.signingBytes = some payload ∧ scheme.verify publicKey payload signature = true := by
  unfold verifyLease
  constructor
  · intro hok
    split_ifs at hok with hcomplete hwindow
    split at hok
    · cases hok
    · rename_i signature hsignature
      split at hok
      · cases hok
      · rename_i payload hpayload
        split_ifs at hok with hverify
        exact ⟨hcomplete, hwindow, signature, payload, hsignature, hpayload, hverify⟩
  · rintro ⟨hcomplete, hwindow, signature, payload, hsignature, hpayload, hverify⟩
    simp only [hcomplete, hwindow, hsignature, hpayload, hverify, not_true_eq_false, if_false,
      if_true]

theorem verifyLease_iff (hideal : scheme.Ideal signed) (key : Key) (now : ℤ)
    (lease : QuotaLease) :
    scheme.verifyLease (scheme.publicKey key) now lease = .ok () ↔
      lease.Complete ∧ lease.InWindow now ∧ ∃ entry ∈ signed, entry.key = key ∧
        Base64Url.decode lease.signature = some entry.signature ∧
          entry.lease = lease.toUnsignedLease := by
  rw [verifyLease_ok_iff]
  refine and_congr_right fun _ ↦ and_congr_right fun _ ↦ ⟨?_, ?_⟩
  · rintro ⟨signature, payload, hsignature, hpayload, hverify⟩
    obtain ⟨entry, hentry, hkey, rfl, hbytes⟩ := (hideal.verify_iff key _ _).mp hverify
    exact ⟨entry, hentry, hkey, hsignature, signingBytes_injective hbytes hpayload⟩
  · rintro ⟨entry, hentry, hkey, hsignature, hlease⟩
    obtain ⟨payload, hpayload⟩ := Option.ne_none_iff_exists'.mp (hideal.payload entry hentry)
    refine ⟨entry.signature, payload, hsignature, hlease ▸ hpayload, ?_⟩
    exact (hideal.verify_iff key _ _).mpr ⟨entry, hentry, hkey, rfl, hpayload⟩

end SignatureScheme

/-! ### The leases of the controller -/

section Issued

open Control

variable {environment : Environment} {request : ProvisionDevice} {db result : Database}

theorem queued_lease (hrun : (provisionDevice environment request).run db = .ok result)
    {later : List Command} (hlater : result.commands = db.commands ++ later) {command : Command}
    (hcommand : command ∈ later) {lease : QuotaLease}
    (hlease : command.message = .quotaLease lease) :
    ∃ key grant, lease = issuedLease environment key request grant ∧ 0 ≤ grant := by
  cases run_provisionDevice hrun with
  | refreshed =>
    cases List.append_cancel_left hlater
    cases List.mem_singleton.mp hcommand
    cases hlease
  | @leased key user device row grant hkey howner hdevice hrow hstatus hactive hgrant hsome =>
    refine ⟨key, grant, ?_, hgrant ▸ reservableBytes_nonneg _ _ _⟩
    cases List.append_cancel_left hlater
    rcases List.mem_pair.mp hcommand with rfl | rfl
    · cases hlease
    · cases hlease
      rfl

end Issued

/-- Assumes: ideal signatures. The signed bytes determine the lease, and the node decodes the lease
from its JSON text, in whatever order the members have come. A lease verifies exactly if its
fields and its window are in order and these very fields were signed with the key. A lease that
`provisionDevice` has queued, with the signature of its key, is accepted from its issue to its
expiry. A lease that is accepted expires at most a day and five minutes later. -/
theorem lease_signature_binds {Key : Type} {scheme : SignatureScheme Key}
    {signed : List (SignedLease Key)} (hideal : scheme.Ideal signed) :
    (∀ lease lease' : UnsignedLease, ∀ payload, lease.signingBytes = some payload →
      lease'.signingBytes = some payload → lease = lease') ∧
    (∀ lease : QuotaLease, lease.signingBytes ≠ none → Int64Range lease.bytes →
      ∀ members, members.Perm lease.members →
        decodeLease (object members) = some lease) ∧
    (∀ key now lease, scheme.verifyLease (scheme.publicKey key) now lease = .ok () ↔
      lease.Complete ∧ lease.InWindow now ∧ ∃ entry ∈ signed, entry.key = key ∧
        Base64Url.decode lease.signature = some entry.signature ∧
          entry.lease = lease.toUnsignedLease) ∧
    (∀ (environment : Control.Environment) (request : Control.ProvisionDevice)
        (db result : Control.Database) (later : List Control.Command),
      (Control.provisionDevice environment request).run db = .ok result →
      result.commands = db.commands ++ later →
      request.leaseId ≠ "" → request.deviceId ≠ "" → request.nodeId ≠ "" →
      ∀ command ∈ later, ∀ lease, command.message = .quotaLease lease →
      ∀ entry ∈ signed, entry.lease = lease.toUnsignedLease →
        lease.signature = Base64Url.encode entry.signature →
      ∀ now, request.now ≤ now → now < lease.expiresAt →
        scheme.verifyLease (scheme.publicKey entry.key) now lease = .ok ()) ∧
    (∀ publicKey now lease, scheme.verifyLease publicKey now lease = .ok () →
      lease.expiresAt ≤ now + 24 * hour + 5 * minute) := by
  refine ⟨fun _ _ _ ↦ signingBytes_injective, fun _ hsigned hbytes _ ↦
    decodeLease_object hsigned hbytes, SignatureScheme.verifyLease_iff hideal, ?_, ?_⟩
  · intro environment request db result later hrun hlater hleaseId hdeviceId hnodeId command
      hcommand lease hlease entry hentry hfields hsignature now hissued hvalid
    obtain ⟨key, grant, rfl, hgrant⟩ := queued_lease hrun hlater hcommand hlease
    rw [SignatureScheme.verifyLease_iff hideal]
    refine ⟨⟨hleaseId, hdeviceId, hnodeId, hgrant⟩, ⟨hvalid, ?_, ?_⟩, entry, hentry, rfl, ?_,
      hfields⟩
    · have hminute : 0 < minute := by decide
      change request.now ≤ now + 5 * minute
      omega
    · change request.now + 24 * hour - request.now ≤ 24 * hour
      omega
    · rw [hsignature, Base64Url.decode_encode]
  · intro publicKey now lease hok
    obtain ⟨-, ⟨-, hissued, hwindow⟩, -⟩ := SignatureScheme.verifyLease_ok_iff.mp hok
    omega

/-! ### Signatures that are looked up -/

def recordedScheme (signed : List (SignedLease (List UInt8))) : SignatureScheme (List UInt8) where
  publicKey := id
  verify := fun publicKey payload signature ↦ signed.any fun entry ↦
    entry.key = publicKey ∧ entry.signature = signature ∧ entry.lease.signingBytes = some payload

theorem recordedScheme_ideal {signed : List (SignedLease (List UInt8))}
    (hsigned : ∀ entry ∈ signed, entry.lease.signingBytes ≠ none) :
    (recordedScheme signed).Ideal signed :=
  ⟨hsigned, fun key payload signature ↦ by simp [recordedScheme]⟩

def dayLease : UnsignedLease :=
  ⟨"lease", "device", "node", 1000000000, 0, 24 * hour, "quota-v1"⟩

theorem lease_signature_binds_solo :
    let scheme := recordedScheme [⟨[1], dayLease, [2]⟩]
    scheme.verifyLease [1] 0 ⟨dayLease, "Ag"⟩ = .ok () ∧
      scheme.verifyLease [1] 0 ⟨{ dayLease with bytes := 1000000001 }, "Ag"⟩ ≠ .ok () ∧
      decodeLease (object (QuotaLease.members ⟨dayLease, "Ag"⟩)) =
        some ⟨dayLease, "Ag"⟩ := by
  have hsigned : dayLease.signingBytes ≠ none := by
    rw [UnsignedLease.signingBytes, if_pos (by decide)]
    exact Option.some_ne_none _
  have hideal : (recordedScheme [⟨[1], dayLease, [2]⟩]).Ideal [⟨[1], dayLease, [2]⟩] := by
    refine recordedScheme_ideal fun entry hentry ↦ ?_
    cases List.mem_singleton.mp hentry
    exact hsigned
  obtain ⟨-, hdecoded, hiff, -, -⟩ := lease_signature_binds hideal
  have hdecode : Base64Url.decode "Ag" = some [2] := by decide
  refine ⟨(hiff [1] 0 _).mpr ⟨by decide, by decide, _, List.mem_singleton_self _, rfl, hdecode,
    rfl⟩, fun hok ↦ ?_, hdecoded ⟨dayLease, "Ag"⟩ hsigned (by decide) _ (.refl _)⟩
  obtain ⟨-, -, entry, hentry, -, -, hfields⟩ := (hiff [1] 0 _).mp hok
  cases List.mem_singleton.mp hentry
  cases hfields

end RiseVpn
