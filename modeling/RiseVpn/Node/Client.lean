import RiseVpn.Library.DecimalText
import RiseVpn.Node.Admission

/-!
# The node's control client

`handle` applies one control message to the node's store and answers with success or the error the
node reports (`Client.handle`). A message may fail after the store was written, when the Xray
provisioner or a kicker fails, so the store is returned in either case. `receive` is one round of
`Client.readLoop`: a message id seen before is acknowledged without being applied, otherwise the
message is applied and acknowledged or refused.

The calls to Xray, to the Hysteria traffic API and to the compliance service are the parameter
`Integrations`; they touch none of the tables of `Store`. The usage reports are built by
`usageBatch` and read back from an acknowledgement by `ackedIds`.

`storedById_handle_deviceUpsert` and `storedById_handle_quotaLease` are the specifications of the
two messages that write the lease of a device: a `device.upsert` resets it, a `quota.lease` sets it.
-/

set_option autoImplicit false

namespace RiseVpn

structure Provisioner where
  upsert : Device → Except String Unit
  revoke : DeviceId → Except String Unit
  kick : DeviceId → Except String Unit

/-- The outside of a client: signatures, certificates, the Xray manager, the kickers and the
compliance service. -/
structure Integrations where
  signatures : LeaseSignatures
  certificates : Certificates
  provisioner : Option Provisioner
  kickers : List (DeviceId → Except String Unit)
  /-- `Service.Apply` of a feed with a public key, at a time. It keeps the feed in a table of its
  own. -/
  applyFeed : SignedFeed → String → ℤ → Except String Unit

/-- `Client.kick`: every kicker is called and the errors are joined. -/
def Integrations.kick (integrations : Integrations) (id : DeviceId) : Except String Unit :=
  let errors := integrations.kickers.filterMap fun kicker ↦
    match kicker id with
    | .ok () => none
    | .error message => some message
  if errors = [] then .ok () else .error (String.intercalate "\n" errors)

def Integrations.provision (integrations : Integrations)
    (call : Provisioner → Except String Unit) : Except String Unit :=
  match integrations.provisioner with
  | none => .ok ()
  | some provisioner => call provisioner

/-- The data of the device a `device.upsert` stores. -/
def DeviceUpsert.device (payload : DeviceUpsert) : Device where
  id := payload.deviceId
  credentialHash := payload.credentialHash
  plan := payload.plan
  active := payload.active
  subscriptionEnds := payload.subscriptionEnds
  periodEnds := payload.periodEnds
  quotaBytes := payload.quotaBytes
  leaseBytes := payload.leaseBytes
  leaseExpires := payload.leaseExpires

def Store.quotaKey (store : Store) : Option String :=
  (store.state "quota_public_key").or (store.state "controller_public_key")

def Store.complianceKey (store : Store) : Option String :=
  (store.state "compliance_public_key").or (store.state "controller_public_key")

/-- The event ids of a `usage.ack` that `Client.handle` understands. -/
def ackedIds (eventIds : List RawEventId) : List ℤ :=
  eventIds.filterMap fun raw ↦
    match raw with
    | .text value => DecimalText.parseInt64 value
    | .number value => if Int64Range value then some value else none
    | .invalid => none

section Handlers

variable (integrations : Integrations) (store : Store)

/-- `Client.handle` for `device.upsert`. -/
def handleDeviceUpsert (payload : DeviceUpsert) : Store × Except String Unit :=
  if payload.deviceId = "" ∨ payload.credentialHash = "" then
    (store, .error "deviceId and credentialHash are required")
  else match payload.plan.policy with
  | none => (store, .error "unknown plan")
  | some _ =>
    match store.upsertDevice payload.device with
    | .error message => (store, .error message)
    | .ok next =>
      -- a changed credential also kicks the device; the outcome of the kick is not looked at
      (next, match next.deviceById payload.deviceId with
        | none => .ok ()
        | some stored => integrations.provision fun provisioner ↦ provisioner.upsert stored)

def Device.withLease (device : Device) (lease : QuotaLease) : Device :=
  { device with leaseBytes := lease.bytes, leaseExpires := lease.expiresAt }

/-- The checks of a `quota.lease` before its device is read. -/
def Store.checkLease (lease : QuotaLease) (now : ℤ) : Except String Unit :=
  match store.quotaKey with
  | none => .error "quota verification key is missing"
  | some key =>
    if ¬ integrations.signatures.isPublicKey key then .error "invalid quota verification key"
    else match lease.verify integrations.signatures key now with
    | .error message => .error message
    | .ok () =>
      if lease.nodeId ≠ (store.state "node_id").getD "" then
        .error "quota lease belongs to another node"
      else .ok ()

/-- `Client.handle` for `quota.lease`. -/
def handleQuotaLease (lease : QuotaLease) (now : ℤ) : Store × Except String Unit :=
  match store.checkLease integrations lease now with
  | .error message => (store, .error message)
  | .ok () =>
    match store.deviceById lease.deviceId with
    | none => (store, .error "quota lease device is missing")
    | some found =>
      match store.upsertDevice (found.withLease lease) with
      | .error message => (store, .error message)
      | .ok next =>
        (next, integrations.provision fun provisioner ↦
          provisioner.upsert (found.withLease lease))

/-- `Client.handle` for `certificate.rotate`. -/
def handleCertificateRotate (rotation : CertificateRotate) (now : ℤ) : Store × Except String Unit :=
  match integrations.certificates.parse rotation.certificatePem with
  | none => (store, .error "certificate PEM is invalid")
  | some certificate =>
    match store.state "node_public_key" with
    | none => (store, .error "node public key is missing")
    | some publicKey =>
      if certificate.publicKey ≠ some publicKey then
        (store, .error "rotated certificate does not match node identity")
      else if ¬ now + 7 * day < certificate.notAfter then
        (store, .error "rotated certificate validity is too short")
      else
        (store.setStates (("node_certificate", rotation.certificatePem) ::
          if rotation.controllerCa = "" then [] else [("controller_ca", rotation.controllerCa)]),
          .ok ())

/-- `Client.handle`, at the time `now`. -/
def handle (message : Message) (now : ℤ) : Store × Except String Unit :=
  match message with
  | .deviceUpsert data => handleDeviceUpsert integrations store data
  | .quotaLease lease => handleQuotaLease integrations store lease now
  | .deviceRevoke data =>
    let next := store.revokeDevice data.deviceId
    (next, match integrations.provision fun provisioner ↦ provisioner.revoke data.deviceId with
      | .error message => .error message
      | .ok () => integrations.kick data.deviceId)
  | .sessionKick data =>
    (store,
      if data.deviceId = "" then .error "deviceId is required"
      else if integrations.provisioner.isNone ∧ integrations.kickers = [] then
        .error "traffic API kicker is unavailable"
      else match integrations.provision fun provisioner ↦ provisioner.kick data.deviceId with
      | .error message => .error message
      | .ok () => integrations.kick data.deviceId)
  | .policyOverride data =>
    if data.deviceId = "" ∨ ¬ now < data.expiresAt then (store, .error "invalid policy override")
    else (store.applyPolicyOverride data.deviceId data.upBps data.downBps data.p2pAllowed
      data.expiresAt, .ok ())
  | .complianceFeed feed =>
    (store, match store.complianceKey with
      | none => .error "controller public key is missing"
      | some key => integrations.applyFeed feed key now)
  | .usageAck eventIds =>
    if 5000 < eventIds.length then (store, .error "too many usage event IDs")
    else (store.markUsageSent (ackedIds eventIds) now, .ok ())
  | .certificateRotate rotation => handleCertificateRotate integrations store rotation now
  | .other type =>
    (store, .error (if type = "drain" ∨ type = "update" then
      type ++ " is acknowledged but requires the privileged updater helper"
      else "unsupported message type \"" ++ type ++ "\""))
  | .malformed _ error => (store, .error error)

def handleAll (messages : List (Message × ℤ)) : Store :=
  messages.foldl (fun store message ↦ (handle integrations store message.1 message.2).1) store

/-! ### The row of a device after a message -/

/-- The node accepts a quota lease at `now`: its check passes and the lease names the node. -/
structure LeaseAccepted (lease : QuotaLease) (now : ℤ) : Prop where
  verified : ∃ key, store.quotaKey = some key ∧ integrations.signatures.isPublicKey key = true ∧
    lease.verify integrations.signatures key now = .ok ()
  node : lease.nodeId = (store.state "node_id").getD ""

end Handlers

section Rows

variable {integrations : Integrations} {store : Store} {now : ℤ}

theorem storedById_handle_deviceUpsert {data : DeviceUpsert} (hid : data.deviceId ≠ "")
    (hhash : data.credentialHash ≠ "") (hplan : data.plan.policy ≠ none)
    (hfree : store.CredentialFree data.device) :
    (handle integrations store (.deviceUpsert data) now).1.storedById data.deviceId =
      some (match store.storedById data.deviceId with
        | none => Store.insertedRow data.device
        | some row => Store.conflictRow data.device row) := by
  obtain ⟨next, hnext⟩ := Store.upsertDevice_ok hfree
  obtain ⟨policy, hpolicy⟩ := Option.ne_none_iff_exists'.mp hplan
  have hfields : ¬ (data.deviceId = "" ∨ data.credentialHash = "") := not_or.mpr ⟨hid, hhash⟩
  simp only [handle, handleDeviceUpsert, if_neg hfields, hpolicy, hnext]
  exact Store.storedById_upsertDevice hnext

theorem checkLease_eq_ok_iff {lease : QuotaLease} :
    store.checkLease integrations lease now = .ok () ↔
      LeaseAccepted integrations store lease now := by
  unfold Store.checkLease
  constructor
  · intro hcheck
    split at hcheck
    · cases hcheck
    · rename_i key hkey
      split at hcheck
      · cases hcheck
      · rename_i hpublic
        split at hcheck
        · cases hcheck
        · rename_i hverify
          split at hcheck
          · cases hcheck
          · rename_i hnode
            exact ⟨⟨key, hkey, not_not.mp hpublic, hverify⟩, not_not.mp hnode⟩
  · rintro ⟨⟨key, hkey, hpublic, hverify⟩, hnode⟩
    simp only [hkey, hpublic, hverify, not_true_eq_false, if_false, if_neg (not_not_intro hnode)]

theorem upsertDevice_withLease {lease : QuotaLease} {row : StoredDevice}
    (hrow : store.storedById lease.deviceId = some row) :
    ∃ next, store.upsertDevice ((Store.scanDevice row).withLease lease) = .ok next := by
  have hstored : store.storedById ((Store.scanDevice row).withLease lease).id = some row := by
    rw [show ((Store.scanDevice row).withLease lease).id = lease.deviceId from
      Store.storedById_id hrow, hrow]
  exact Store.upsertDevice_ok (Store.credentialFree_of_stored hstored rfl)

theorem handle_quotaLease_outcome (integrations : Integrations) (store : Store)
    (lease : QuotaLease) (now : ℤ) :
    ((¬ LeaseAccepted integrations store lease now ∨ store.storedById lease.deviceId = none) ∧
      ∃ error, handle integrations store (.quotaLease lease) now = (store, .error error)) ∨
    (LeaseAccepted integrations store lease now ∧ ∃ row next,
      store.storedById lease.deviceId = some row ∧
      store.upsertDevice ((Store.scanDevice row).withLease lease) = .ok next ∧
      handle integrations store (.quotaLease lease) now =
        (next, integrations.provision fun provisioner ↦
          provisioner.upsert ((Store.scanDevice row).withLease lease))) := by
  simp only [handle, handleQuotaLease]
  split
  · rename_i message hcheck
    refine .inl ⟨.inl fun haccepted ↦ ?_, _, rfl⟩
    cases (checkLease_eq_ok_iff.mpr haccepted).symm.trans hcheck
  · rename_i hcheck
    split
    · rename_i hfound
      exact .inl ⟨.inr (Option.map_eq_none_iff.mp hfound), _, rfl⟩
    · rename_i found hfound
      obtain ⟨row, hrow, rfl⟩ := Option.map_eq_some_iff.mp hfound
      obtain ⟨next, hnext⟩ := upsertDevice_withLease hrow
      rw [hnext]
      exact .inr ⟨checkLease_eq_ok_iff.mp hcheck, row, next, hrow, hnext, rfl⟩

theorem storedById_handle_quotaLease {lease : QuotaLease} {row : StoredDevice}
    (haccepted : LeaseAccepted integrations store lease now)
    (hrow : store.storedById lease.deviceId = some row) :
    (handle integrations store (.quotaLease lease) now).1.storedById lease.deviceId =
      some (Store.leasedRow lease.bytes lease.expiresAt row) := by
  rcases handle_quotaLease_outcome integrations store lease now with
    ⟨hrefused | hnone, -⟩ | ⟨-, found, next, hfound, hnext, hhandle⟩
  · exact absurd haccepted hrefused
  · cases hnone.symm.trans hrow
  · obtain rfl := Option.mem_unique hrow hfound
    have hid : ((Store.scanDevice row).withLease lease).id = lease.deviceId :=
      Store.storedById_id hrow
    have hwritten := Store.storedById_upsertDevice hnext
    rw [hid, hrow] at hwritten
    rw [hhandle, hwritten]
    exact congrArg some (Store.conflictRow_scanDevice row lease.bytes lease.expiresAt)

/-- What a message about one device leaves alone: the state and the rows of the other devices. -/
structure OnlyDevice (id : DeviceId) (store next : Store) : Prop where
  state : next.state = store.state
  others : ∀ other, other ≠ id → next.storedById other = store.storedById other

theorem OnlyDevice.refl (id : DeviceId) (store : Store) : OnlyDevice id store store :=
  ⟨rfl, fun _ _ ↦ rfl⟩

theorem OnlyDevice.trans {id : DeviceId} {middle next : Store} (hfirst : OnlyDevice id store middle)
    (hsecond : OnlyDevice id middle next) : OnlyDevice id store next :=
  ⟨hsecond.state.trans hfirst.state,
    fun other hother ↦ (hsecond.others other hother).trans (hfirst.others other hother)⟩

theorem upsertDevice_onlyDevice {device : Device} {next : Store}
    (hnext : store.upsertDevice device = .ok next) : OnlyDevice device.id store next :=
  ⟨by rw [Store.upsertDevice_frame hnext],
    fun _ hother ↦ Store.storedById_upsertDevice_of_ne hother hnext⟩

section

variable (integrations : Integrations) (store : Store)

theorem handle_deviceUpsert_eq (data : DeviceUpsert) (now : ℤ) :
    (∃ error, handle integrations store (.deviceUpsert data) now = (store, .error error)) ∨
    ∃ next, store.upsertDevice data.device = .ok next ∧
      handle integrations store (.deviceUpsert data) now =
        (next, match next.deviceById data.deviceId with
          | none => .ok ()
          | some stored => integrations.provision fun provisioner ↦ provisioner.upsert stored) := by
  simp only [handle, handleDeviceUpsert]
  split
  · exact .inl ⟨_, rfl⟩
  · split
    · exact .inl ⟨_, rfl⟩
    · split
      · exact .inl ⟨_, rfl⟩
      · rename_i next hnext
        exact .inr ⟨next, hnext, rfl⟩

theorem handle_deviceUpsert_cases (data : DeviceUpsert) (now : ℤ) :
    (handle integrations store (.deviceUpsert data) now).1 = store ∨
      store.upsertDevice data.device =
        .ok (handle integrations store (.deviceUpsert data) now).1 := by
  rcases handle_deviceUpsert_eq integrations store data now with
    ⟨error, hhandle⟩ | ⟨next, hnext, hhandle⟩
  · exact .inl (by rw [hhandle])
  · exact .inr (by rw [hhandle]; exact hnext)

theorem handle_quotaLease_cases (lease : QuotaLease) (now : ℤ) :
    (handle integrations store (.quotaLease lease) now).1 = store ∨
      ∃ row, store.storedById lease.deviceId = some row ∧
        store.upsertDevice ((Store.scanDevice row).withLease lease) =
          .ok (handle integrations store (.quotaLease lease) now).1 := by
  rcases handle_quotaLease_outcome integrations store lease now with
    ⟨-, error, hhandle⟩ | ⟨-, row, next, hrow, hnext, hhandle⟩
  · exact .inl (by rw [hhandle])
  · exact .inr ⟨row, hrow, by rw [hhandle]; exact hnext⟩

end

theorem handle_deviceUpsert_onlyDevice (data : DeviceUpsert) :
    OnlyDevice data.deviceId store (handle integrations store (.deviceUpsert data) now).1 := by
  rcases handle_deviceUpsert_cases integrations store data now with hsame | hwritten
  · rw [hsame]
    exact .refl _ _
  · exact upsertDevice_onlyDevice hwritten

theorem handle_quotaLease_onlyDevice (lease : QuotaLease) :
    OnlyDevice lease.deviceId store (handle integrations store (.quotaLease lease) now).1 := by
  rcases handle_quotaLease_cases integrations store lease now with hsame | ⟨row, hrow, hwritten⟩
  · rw [hsame]
    exact .refl _ _
  · rw [← show ((Store.scanDevice row).withLease lease).id = lease.deviceId from
      Store.storedById_id hrow]
    exact upsertDevice_onlyDevice hwritten

theorem handle_quotaLease_missing {lease : QuotaLease}
    (hmissing : store.storedById lease.deviceId = none) :
    (handle integrations store (.quotaLease lease) now).1 = store := by
  rcases handle_quotaLease_cases integrations store lease now with hsame | ⟨row, hrow, -⟩
  · exact hsame
  · rw [hmissing] at hrow
    cases hrow

theorem usage_handle (integrations : Integrations) (store : Store) {message : Message} (now : ℤ)
    (hmessage : ∀ eventIds, message ≠ .usageAck eventIds) :
    (handle integrations store message now).1.usageEvents = store.usageEvents ∧
      (handle integrations store message now).1.lastUsageId = store.lastUsageId := by
  cases message with
  | deviceUpsert data =>
    rcases handle_deviceUpsert_cases integrations store data now with hsame | hwritten
    · rw [hsame]
      exact ⟨rfl, rfl⟩
    · rw [Store.upsertDevice_frame hwritten]
      exact ⟨rfl, rfl⟩
  | quotaLease lease =>
    rcases handle_quotaLease_cases integrations store lease now with hsame | ⟨row, -, hwritten⟩
    · rw [hsame]
      exact ⟨rfl, rfl⟩
    · rw [Store.upsertDevice_frame hwritten]
      exact ⟨rfl, rfl⟩
  | deviceRevoke data => exact ⟨rfl, rfl⟩
  | sessionKick data => exact ⟨rfl, rfl⟩
  | policyOverride data =>
    simp only [handle]
    split <;> exact ⟨rfl, rfl⟩
  | complianceFeed feed => exact ⟨rfl, rfl⟩
  | usageAck eventIds => exact absurd rfl (hmessage eventIds)
  | certificateRotate rotation =>
    simp only [handle, handleCertificateRotate]
    repeat' split
    all_goals exact ⟨rfl, rfl⟩
  | other type => exact ⟨rfl, rfl⟩
  | malformed type error => exact ⟨rfl, rfl⟩

theorem handle_usageAck_cases (integrations : Integrations) (store : Store)
    (eventIds : List RawEventId) (now : ℤ) :
    (handle integrations store (.usageAck eventIds) now).1 = store ∨
      (handle integrations store (.usageAck eventIds) now).1 =
        store.markUsageSent (ackedIds eventIds) now := by
  simp only [handle]
  split
  · exact .inl rfl
  · exact .inr rfl

end Rows

/-! ### The read loop and the usage report -/

inductive Reply
  | ack (replyTo : MessageId) (code : String)
  | nack (replyTo : MessageId) (message : String)
  deriving DecidableEq

/-- A node process: its store and the message ids it remembers, newest first. -/
structure Client where
  store : Store
  seen : List MessageId

/-- `Client.markSeen`: the memory is emptied when it has outgrown 2048 ids. -/
def markSeen (seen : List MessageId) (id : MessageId) : List MessageId :=
  if 2048 < seen.length then [id] else id :: seen

theorem mem_of_mem_markSeen {seen : List MessageId} {id other : MessageId}
    (hother : other ∈ markSeen seen id) (hne : other ≠ id) : other ∈ seen := by
  unfold markSeen at hother
  split_ifs at hother
  · exact absurd (List.mem_singleton.mp hother) hne
  · exact (List.mem_cons.mp hother).resolve_left hne

/-- One round of `Client.readLoop` on a message with a non-empty id. -/
def Client.receive (integrations : Integrations) (client : Client) (id : MessageId)
    (message : Message) (now : ℤ) : Client × Reply :=
  if id ∈ client.seen then (client, .ack id "duplicate")
  else match handle integrations client.store message now with
  | (store, .error error) => ({ client with store }, .nack id error)
  | (store, .ok ()) => ({ store, seen := markSeen client.seen id }, .ack id "")

theorem receive_cases (integrations : Integrations) (client : Client) (id : MessageId)
    (message : Message) (now : ℤ) :
    (id ∈ client.seen ∧ client.receive integrations id message now =
        (client, .ack id "duplicate")) ∨
      (id ∉ client.seen ∧ ∃ error, (handle integrations client.store message now).2 = .error error ∧
        client.receive integrations id message now =
          ({ client with store := (handle integrations client.store message now).1 },
            .nack id error)) ∨
      id ∉ client.seen ∧ (handle integrations client.store message now).2 = .ok () ∧
        client.receive integrations id message now =
          (⟨(handle integrations client.store message now).1, markSeen client.seen id⟩,
            .ack id "") := by
  unfold Client.receive
  by_cases hseen : id ∈ client.seen
  · rw [if_pos hseen]
    exact .inl ⟨hseen, rfl⟩
  · rw [if_neg hseen]
    split
    · rename_i store error hhandle
      rw [hhandle]
      exact .inr (.inl ⟨hseen, error, rfl, rfl⟩)
    · rename_i store hhandle
      rw [hhandle]
      exact .inr (.inr ⟨hseen, rfl, rfl⟩)

/-- What a rotation that the node accepts at `now` has passed: its first PEM block is a certificate
of the node's key that is valid for more than a week. -/
def RotationAccepted (integrations : Integrations) (store : Store) (rotation : CertificateRotate)
    (now : ℤ) : Prop :=
  ∃ certificate publicKey, integrations.certificates.parse rotation.certificatePem =
      some certificate ∧ store.state "node_public_key" = some publicKey ∧
    certificate.publicKey = some publicKey ∧ now + 7 * day < certificate.notAfter

section

variable (integrations : Integrations) (store : Store) (rotation : CertificateRotate) (now : ℤ)

theorem handleCertificateRotate_eq :
    (∃ error, handleCertificateRotate integrations store rotation now = (store, .error error)) ∨
      RotationAccepted integrations store rotation now ∧
        handleCertificateRotate integrations store rotation now =
          (store.setStates (("node_certificate", rotation.certificatePem) ::
            if rotation.controllerCa = "" then [] else [("controller_ca", rotation.controllerCa)]),
            .ok ()) := by
  unfold handleCertificateRotate
  split
  · exact .inl ⟨_, rfl⟩
  · rename_i certificate hparse
    split
    · exact .inl ⟨_, rfl⟩
    · rename_i publicKey hkey
      split
      · exact .inl ⟨_, rfl⟩
      · rename_i hmatch
        split
        · exact .inl ⟨_, rfl⟩
        · rename_i hvalid
          exact .inr ⟨⟨certificate, publicKey, hparse, hkey, not_not.mp hmatch, not_not.mp hvalid⟩,
            rfl⟩

theorem handleCertificateRotate_cases :
    (∃ error, handleCertificateRotate integrations store rotation now = (store, .error error)) ∨
      ∃ next, handleCertificateRotate integrations store rotation now = (next, .ok ()) ∧
        next.state "node_certificate" = some rotation.certificatePem := by
  rcases handleCertificateRotate_eq integrations store rotation now with hrefused | ⟨-, hstored⟩
  · exact .inl hrefused
  · refine .inr ⟨_, hstored, ?_⟩
    split_ifs <;> simp [Store.setStates]

end

theorem receive_rotate_cases (integrations : Integrations) (client : Client) (id : MessageId)
    (rotation : CertificateRotate) (now : ℤ) :
    (id ∈ client.seen ∧ client.receive integrations id (.certificateRotate rotation) now =
        (client, .ack id "duplicate")) ∨
      (∃ error, client.receive integrations id (.certificateRotate rotation) now =
        (client, .nack id error)) ∨
      id ∉ client.seen ∧ ∃ store, store.state "node_certificate" = some rotation.certificatePem ∧
        client.receive integrations id (.certificateRotate rotation) now =
          (⟨store, markSeen client.seen id⟩, .ack id "") := by
  have hhandle : handle integrations client.store (.certificateRotate rotation) now =
      handleCertificateRotate integrations client.store rotation now := rfl
  have hcases := handleCertificateRotate_cases integrations client.store rotation now
  rw [← hhandle] at hcases
  rcases receive_cases integrations client id (.certificateRotate rotation) now with
    hduplicate | ⟨-, error, herror, hreceive⟩ | ⟨hseen, hok, hreceive⟩
  · exact .inl hduplicate
  · rcases hcases with ⟨other, hother⟩ | ⟨next, hnext, -⟩
    · rw [hother] at hreceive
      exact .inr (.inl ⟨error, hreceive⟩)
    · rw [hnext] at herror
      cases herror
  · rcases hcases with ⟨other, hother⟩ | ⟨next, hnext, hstored⟩
    · rw [hother] at hok
      cases hok
    · rw [hnext] at hreceive
      exact .inr (.inr ⟨hseen, next, hstored, hreceive⟩)

/-- The event of a `usage.batch` that a row is reported as. -/
def reportedEvent (row : StoredUsage) : UsageEvent where
  eventId := Nat.repr row.id
  deviceId := row.deviceId
  rxBytes := row.rxBytes
  txBytes := row.txBytes
  startedAt := ofUnix row.recordedAt
  endedAt := ofUnix row.recordedAt

/-- The events of the `usage.batch` that `Client.connect` sends. -/
def usageBatch (store : Store) : List UsageEvent := (store.pendingUsage 1000).map reportedEvent

/-! ### A small node -/

def soloIntegrations : Integrations where
  signatures := textSignatures
  certificates := ⟨fun _ ↦ none⟩
  provisioner := none
  kickers := []
  applyFeed := fun _ _ _ ↦ .error "invalid compliance feed signature"

def soloStore : Store where
  state := fun key ↦
    if key = "node_id" then some "node" else if key = "quota_public_key" then some "key" else none
  devices := ⟨[], List.nodup_nil, List.nodup_nil⟩
  usageEvents := []
  lastUsageId := 0

end RiseVpn
