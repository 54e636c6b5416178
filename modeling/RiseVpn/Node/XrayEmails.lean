import RiseVpn.Library.Base64Url
import RiseVpn.Node.XrayManager

/-!
# The e-mails of the Xray users

Xray knows a user by an e-mail. The manager uses the id of a device with `@risevpn` behind it, and
`Manager.current` takes this off again and leaves out every user whose e-mail has another end. The
runs of `Manager.Reconcile` are those of `XrayManager` on the users under their e-mails here, and
`deviceUsers` is what the manager sees of them.

`idFromCredentialHash` is the VLESS id of a credential hash, with the UUID of a digest as a
parameter.

`reconcile_converges` is the result: a run leaves exactly the allowed devices that are not blocked,
whatever Xray held before and whatever the order of the maps, it leaves the users with other
e-mails, and a second run changes nothing.
-/

set_option autoImplicit false

namespace RiseVpn

open KeyedTable

/-! ### VLESS ids and e-mails -/

/-- `IDFromCredentialHash`. `uuid` is the UUID of a digest, `uuid.NewSHA1(credentialNamespace, …)`.
A text that does not decode to 32 bytes is an invalid credential hash. -/
def idFromCredentialHash (uuid : List UInt8 → String) (encoded : String) : Option String :=
  match Base64Url.decode encoded with
  | none => none
  | some digest => if digest.length = 32 then some (uuid digest) else none

theorem idFromCredentialHash_encode (uuid : List UInt8 → String) {digest : List UInt8}
    (hlength : digest.length = 32) :
    idFromCredentialHash uuid (Base64Url.encode digest) = some (uuid digest) := by
  simp only [idFromCredentialHash, Base64Url.decode_encode, if_pos hlength]

def mailDomain : String := "@risevpn"

def email (id : DeviceId) : String := id ++ mailDomain

/-- `strings.TrimSuffix(…, "@risevpn")`. -/
def trimEmail (mail : String) : DeviceId :=
  if mailDomain.toList <:+ mail.toList then
    String.ofList (mail.toList.take (mail.toList.length - mailDomain.toList.length))
  else mail

@[simp] theorem trimEmail_email (id : DeviceId) : trimEmail (email id) = id := by
  have hsuffix : mailDomain.toList <:+ (email id).toList := by
    rw [email, String.toList_append]
    exact List.suffix_append _ _
  rw [trimEmail, if_pos hsuffix, email, String.toList_append, List.length_append,
    Nat.add_sub_cancel, List.take_left, String.ofList_toList]

theorem email_injective : Function.Injective email :=
  Function.LeftInverse.injective trimEmail_email

def Foreign (mail : String) : Prop := trimEmail mail = mail
  deriving Decidable

theorem not_foreign_email (id : DeviceId) : ¬ Foreign (email id) := by
  rw [Foreign, trimEmail_email]
  intro hsame
  have hlength := congrArg (fun text ↦ text.toList.length) hsame
  simp [email, mailDomain] at hlength

theorem email_trimEmail {mail : String} (hown : ¬ Foreign mail) :
    email (trimEmail mail) = mail := by
  by_cases hsuffix : mailDomain.toList <:+ mail.toList
  · obtain ⟨front, hfront⟩ := hsuffix
    have hmail : mail = email (String.ofList front) := by
      rw [email]
      apply String.toList_inj.mp
      rw [String.toList_append, String.toList_ofList, hfront]
    rw [hmail, trimEmail_email]
  · exact absurd (if_neg hsuffix) hown

/-! ### The users under their e-mails -/

/-- The users of the inbound under their e-mails, with their VLESS ids. The inbound is one of VLESS,
so that every user has a VLESS account. -/
abbrev MailInbound := Inbound

/-- What `Manager.current` makes of a user. -/
def deviceUser (user : String × String) : Option (DeviceId × String) :=
  if Foreign user.1 then none else some (trimEmail user.1, user.2)

theorem deviceUser_eq_some {user : String × String} {device : DeviceId × String}
    (hdevice : deviceUser user = some device) : user = (email device.1, device.2) := by
  unfold deviceUser at hdevice
  split_ifs at hdevice with hforeign
  cases hdevice
  exact Prod.ext (email_trimEmail hforeign).symm rfl

@[simp] theorem deviceUser_email (id : DeviceId) (vlessId : String) :
    deviceUser (email id, vlessId) = some (id, vlessId) := by
  rw [deviceUser, if_neg (not_foreign_email id), trimEmail_email]

/-- `Manager.current`. -/
def deviceUsers (inbound : MailInbound) : Inbound where
  users := inbound.users.filterMap deviceUser
  nodup := by
    rw [List.map_filterMap, List.Nodup, List.pairwise_filterMap]
    refine (List.pairwise_map.mp inbound.nodup).imp fun {first second} hne ↦ ?_
    intro id hid other hother hsame
    obtain ⟨device, hdevice, rfl⟩ := Option.map_eq_some_iff.mp hid
    obtain ⟨device', hdevice', rfl⟩ := Option.map_eq_some_iff.mp hother
    rw [deviceUser_eq_some hdevice, deviceUser_eq_some hdevice', hsame] at hne
    exact hne rfl

theorem account_deviceUsers (inbound : MailInbound) (id : DeviceId) :
    (deviceUsers inbound).account id = inbound.account (email id) := by
  cases haccount : inbound.account (email id) with
  | none =>
    rw [Inbound.account_eq_none_iff] at haccount ⊢
    intro hmem
    obtain ⟨device, hdevice, rfl⟩ := List.mem_map.mp hmem
    obtain ⟨user, huser, hsome⟩ := List.mem_filterMap.mp hdevice
    refine haccount (List.mem_map.mpr ⟨user, huser, ?_⟩)
    rw [deviceUser_eq_some hsome]
  | some vlessId =>
    obtain ⟨user, huser, rfl⟩ := Option.map_eq_some_iff.mp haccount
    obtain ⟨hmem, hkey⟩ := (lookup_eq_some_iff inbound.nodup).mp huser
    have hdevice : (id, user.2) ∈ (deviceUsers inbound).users := by
      refine List.mem_filterMap.mpr ⟨user, hmem, ?_⟩
      rw [← deviceUser_email, ← hkey]
    rw [Inbound.account, (lookup_eq_some_iff (deviceUsers inbound).nodup).mpr ⟨hdevice, rfl⟩]
    rfl

/-! ### Reconcile -/

/-- The manager's `blocked` map and what Xray holds, under e-mails. -/
structure MailManager where
  blocked : Finset DeviceId
  inbound : MailInbound

namespace MailManager

def seen (manager : MailManager) : XrayManager := ⟨manager.blocked, deviceUsers manager.inbound⟩

/-- `Manager.Reconcile` when Xray answers every call. -/
def reconcile (vlessId : String → Option String) (manager : MailManager) (devices : List Device)
    (now : ℤ) (users : List DeviceId) (additions : List Device) :
    MailManager × Except String Unit :=
  let result := XrayManager.reconcileInbound email vlessId (deviceUsers manager.inbound)
    (manager.seen.desired devices now) users additions manager.inbound
  ({ manager with inbound := result.1 }, result.2)

theorem ne_email {mail : String} (hmail : Foreign mail) (id : DeviceId) : mail ≠ email id := by
  rintro rfl
  exact not_foreign_email id hmail

/-! ### What a run leaves -/

section Convergence

variable {vlessId : String → Option String} {desired : List Device}

theorem reconcileUsers_settled {current : Inbound} {users : List DeviceId}
    (hsettled : ∀ id ∈ users, current.account id ≠ none ∧
      current.account id = XrayManager.wanted vlessId desired id) (inbound : MailInbound) :
    XrayManager.reconcileUsers email vlessId current desired users inbound = (inbound, .ok ()) := by
  induction users with
  | nil => rfl
  | cons id rest ih =>
    obtain ⟨⟨hsome, hwanted⟩, hrest⟩ := List.forall_mem_cons.mp hsettled
    obtain ⟨expected, hexpected⟩ := Option.ne_none_iff_exists'.mp hsome
    rw [hexpected] at hwanted
    obtain ⟨device, hdevice, hid⟩ := Option.bind_eq_some_iff.mp hwanted.symm
    simp only [XrayManager.reconcileUsers, hdevice, hid, if_pos hexpected]
    exact ih hrest

theorem reconcile_settled {manager : MailManager} {devices : List Device} {now : ℤ}
    {users : List DeviceId} {additions : List Device}
    (hdigests : ∀ device ∈ devices, vlessId device.credentialHash ≠ none)
    (hsettled : ∀ id, (deviceUsers manager.inbound).account id =
      XrayManager.wanted vlessId (manager.seen.desired devices now) id)
    (horder : manager.seen.Iterates devices now users additions) :
    manager.reconcile vlessId devices now users additions = (manager, .ok ()) := by
  obtain ⟨husers, hadditions⟩ := horder
  have hvisited : ∀ id, id ∈ users ↔ (deviceUsers manager.inbound).account id ≠ none := by
    intro id
    rw [husers.mem_iff, Ne, Inbound.account_eq_none_iff, not_not]
    exact Iff.rfl
  -- Every desired device is a user, so that nothing is left to add.
  have hnothing : additions = [] := by
    apply List.eq_nil_iff_forall_not_mem.mpr
    intro device hdevice
    obtain ⟨hdesired, hleft⟩ := List.mem_filter.mp (hadditions.mem_iff.mp hdevice)
    rw [decide_eq_true_eq, hvisited, not_not, hsettled, XrayManager.wanted,
      Option.bind_eq_none_iff] at hleft
    cases hlookup : lookup Device.id device.id (manager.seen.desired devices now) with
    | none => exact lookup_eq_none_iff.mp hlookup device hdesired rfl
    | some found =>
      exact hdigests found (List.mem_of_mem_filter (lookup_some_mem hlookup)) (hleft found hlookup)
  have hloop := reconcileUsers_settled
    (fun id hid ↦ ⟨(hvisited id).mp hid, hsettled id⟩) manager.inbound
  simp only [reconcile, XrayManager.reconcileInbound, hloop, hnothing, XrayManager.addUsers]

end Convergence

theorem digest_hashes (uuid : List UInt8 → String) {device : Device}
    (hdigest : ∃ digest : List UInt8,
      digest.length = 32 ∧ device.credentialHash = Base64Url.encode digest) :
    idFromCredentialHash uuid device.credentialHash ≠ none := by
  obtain ⟨digest, hlength, hhash⟩ := hdigest
  rw [hhash, idFromCredentialHash_encode uuid hlength]
  exact Option.some_ne_none _

/-- Assumes: a table of devices whose credential hashes are the texts of digests. Whatever Xray
held, whatever devices are blocked and in whatever order the maps are walked through, a run returns
without an error; the users with the e-mails of devices are then the allowed devices that are not
blocked, with the UUIDs of their digests; the other users are as before; and another run that finds
the same devices allowed leaves everything as it is. -/
theorem reconcile_converges (uuid : List UInt8 → String) (manager : MailManager)
    {devices : List Device} {now : ℤ} {users : List DeviceId} {additions : List Device}
    (hids : (devices.map Device.id).Nodup)
    (hdigests : ∀ device ∈ devices, ∃ digest : List UInt8,
      digest.length = 32 ∧ device.credentialHash = Base64Url.encode digest)
    (horder : manager.seen.Iterates devices now users additions) :
    ∃ inbound : MailInbound,
      manager.reconcile (idFromCredentialHash uuid) devices now users additions =
          ({ manager with inbound }, .ok ()) ∧
        (∀ id vlessId, inbound.account (email id) = some vlessId ↔
          ∃ device ∈ devices, device.id = id ∧ allowed device now ∧ id ∉ manager.blocked ∧
            ∃ digest : List UInt8, digest.length = 32 ∧
              device.credentialHash = Base64Url.encode digest ∧ vlessId = uuid digest) ∧
        (∀ mail, (∀ id, mail ≠ email id) → inbound.account mail = manager.inbound.account mail) ∧
        ∀ later users' additions', (∀ device ∈ devices, allowed device later = allowed device now) →
          ({ manager with inbound } : MailManager).seen.Iterates devices later users' additions' →
          ({ manager with inbound } : MailManager).reconcile (idFromCredentialHash uuid) devices
            later users' additions' = ({ manager with inbound }, .ok ()) := by
  have hhashes : ∀ device ∈ devices,
      idFromCredentialHash uuid device.credentialHash ≠ none :=
    fun device hdevice ↦ digest_hashes uuid (hdigests device hdevice)
  have hnodup : ((manager.seen.desired devices now).map Device.id).Nodup :=
    (List.filter_sublist.map Device.id).nodup hids
  obtain ⟨inbound, hrun, haccounts, hothers⟩ := XrayManager.reconcileInbound_ok email_injective
    hnodup (fun device hdevice ↦ hhashes device (List.mem_of_mem_filter hdevice))
    (fun id ↦ (account_deviceUsers manager.inbound id).symm) horder.1 horder.2
  refine ⟨inbound, by rw [reconcile, hrun], fun id vlessId ↦ ?_, hothers, ?_⟩
  · rw [haccounts, XrayManager.wanted, Option.bind_eq_some_iff]
    constructor
    · rintro ⟨device, hlookup, hid⟩
      obtain rfl := lookup_some_key hlookup
      obtain ⟨hdevice, hdesired⟩ := List.mem_filter.mp (lookup_some_mem hlookup)
      rw [Bool.and_eq_true, decide_eq_true_eq] at hdesired
      obtain ⟨digest, hlength, hhash⟩ := hdigests device hdevice
      rw [hhash, idFromCredentialHash_encode uuid hlength] at hid
      exact ⟨device, hdevice, rfl, hdesired.1, hdesired.2, digest, hlength, hhash,
        (Option.some.inj hid).symm⟩
    · rintro ⟨device, hdevice, rfl, hallowed, hblocked, digest, hlength, hhash, rfl⟩
      have hdesired : device ∈ manager.seen.desired devices now := by
        refine List.mem_filter.mpr ⟨hdevice, ?_⟩
        rw [Bool.and_eq_true, decide_eq_true_eq]
        exact ⟨hallowed, hblocked⟩
      refine ⟨device, (lookup_eq_some_iff hnodup).mpr ⟨hdesired, rfl⟩, ?_⟩
      rw [hhash, idFromCredentialHash_encode uuid hlength]
  · intro later users' additions' hsame horder'
    refine reconcile_settled hhashes (fun id ↦ ?_) horder'
    have hdesired : (MailManager.seen ⟨manager.blocked, inbound⟩).desired devices later =
        manager.seen.desired devices now := by
      refine List.filter_congr fun device hdevice ↦ ?_
      rw [hsame device hdevice]
      rfl
    rw [hdesired, account_deviceUsers]
    exact haccounts id

def paidDevices : List Device :=
  [("stale", 1), ("shut", 2), ("new", 3)].map fun row ↦ {
    id := row.1
    credentialHash := Base64Url.encode (List.replicate 32 row.2)
    plan := .code .plus
    active := true
    subscriptionEnds := 100
    periodEnds := 100
    quotaBytes := 0 }

def mixedManager : MailManager where
  blocked := {"shut"}
  inbound := {
    users := [("stale@risevpn", "old"), ("gone@risevpn", "other"), ("guest", "guest")]
    nodup := by decide }

theorem reconcile_converges_mixed : ∃ inbound : MailInbound,
    mixedManager.reconcile (idFromCredentialHash Base64Url.encode) paidDevices 5 ["gone", "stale"]
        (paidDevices.drop 2) = ({ mixedManager with inbound }, .ok ()) ∧
      inbound.account (email "stale") = some (Base64Url.encode (List.replicate 32 1)) ∧
      inbound.account (email "new") = some (Base64Url.encode (List.replicate 32 3)) ∧
      inbound.account "guest" = some "guest" := by
  have hdigests : ∀ device ∈ paidDevices, ∃ digest : List UInt8,
      digest.length = 32 ∧ device.credentialHash = Base64Url.encode digest := by
    intro device hdevice
    obtain ⟨row, -, rfl⟩ := List.mem_map.mp hdevice
    exact ⟨List.replicate 32 row.2, List.length_replicate, rfl⟩
  obtain ⟨inbound, hrun, haccounts, hothers, -⟩ := reconcile_converges Base64Url.encode mixedManager
    (show (paidDevices.map Device.id).Nodup by decide) hdigests
    (show mixedManager.seen.Iterates paidDevices 5 ["gone", "stale"] (paidDevices.drop 2) by
      decide +kernel)
  refine ⟨inbound, hrun, (haccounts _ _).mpr ?_, (haccounts _ _).mpr ?_, ?_⟩
  · exact ⟨paidDevices[0], by decide, rfl, by decide, by decide, _, rfl, rfl, rfl⟩
  · exact ⟨paidDevices[2], by decide, rfl, by decide, by decide, _, rfl, rfl, rfl⟩
  · rw [hothers "guest" fun id hid ↦ ?_]
    · decide
    · have hforeign : Foreign "guest" := by decide
      exact ne_email hforeign id hid

end MailManager

end RiseVpn
