import RiseVpn.Control.Statements

/-!
# Provisioning of devices and intake of usage

`provisionDevice` sends a device to its node and grants it a quota lease when it has none,
`renewQuotaLeases` does so for every device without one, and `deviceResync` is what the controller
queues for a node that connects (`NodeHub.queueDeviceResync`). `bindDevice` is the transaction of
`subscriptionDocument` that binds a device and activates a trial, `assignNode` the statement that
assigns it to a node, `rebindDevice` the transaction that renews a credential and `revokeCredential`
the command queued after it. `usage` books a batch of usage events (`NodeHub.usage`).

The key the leases are signed with, the signatures and the directory are the `Environment`.
-/

set_option autoImplicit false

namespace RiseVpn.Control

open RowLocking

/-- What the controller is configured with. The private key is absent when the configured one has
the wrong size. -/
structure Environment where
  directory : Directory
  signatures : LeaseSignatures
  quotaPrivateKey : Option String

def noRows : Failure := .error "no rows in result set"

def constraintViolated : Failure := .error "constraint violated"

/-! ### Quota leases -/

def reservableBytes (remaining activeReservations requested : ℤ) : ℤ :=
  let available := wrap64 (remaining - activeReservations)
  if available < 0 then 0
  else if available < requested then available
  else if requested < 0 then 0
  else requested

/-- `quota-used`, in `int64`. -/
def Subscription.remaining (row : Subscription) : ℤ := wrap64 (row.quotaBytes - row.usedBytes)

def valueTime (value : Option ℤ) : ℤ := value.getD zeroTime

def activeLeases (txNow : ℤ) (leases : List LeaseRow) : List LeaseRow :=
  leases.filter fun lease ↦ txNow < lease.expiresAt

/-- `SELECT COALESCE(sum(bytes-consumed_bytes),0) FROM quota_leases WHERE … expires_at>now()`. -/
def reservedBytes (txNow : ℤ) (leases : List LeaseRow) : ℤ :=
  ((activeLeases txNow leases).map fun lease ↦ lease.bytes - lease.consumedBytes).sum

/-- The `device.upsert` of a device. -/
def upsertMessage (id : DeviceId) (device : DeviceRow) (row : Subscription) : Message :=
  .deviceUpsert
    { deviceId := id
      credentialHash := device.credentialHash
      plan := .code row.planCode
      active := true
      subscriptionEnds := valueTime row.periodEndsAt
      periodEnds := valueTime row.periodEndsAt
      quotaBytes := row.quotaBytes }

/-- A call of `provisionDevice`. -/
structure ProvisionDevice where
  deviceId : DeviceId
  nodeId : NodeId
  txNow : ℤ
  now : ℤ
  leaseId : String
  deriving DecidableEq

/-- The lease `provisionDevice` issues. -/
def issuedLease (environment : Environment) (key : String) (request : ProvisionDevice) (grant : ℤ) :
    QuotaLease :=
  environment.signatures.signed key
    { leaseId := request.leaseId
      deviceId := request.deviceId
      nodeId := request.nodeId
      bytes := grant
      issuedAt := request.now
      expiresAt := request.now + 24 * hour
      keyId := "quota-v1" }

def QuotaLease.row (lease : QuotaLease) : LeaseRow where
  id := lease.leaseId
  nodeId := lease.nodeId
  bytes := lease.bytes
  consumedBytes := 0
  issuedAt := lease.issuedAt
  expiresAt := lease.expiresAt
  signature := lease.signature

/-- The part of `provisionDevice` behind its first query. -/
def provisionRow (environment : Environment) (key : String) (request : ProvisionDevice)
    (device : DeviceRow) (row : Subscription) (leases : List LeaseRow) : Program :=
  let upsert := upsertMessage request.deviceId device row
  let active := reservedBytes request.txNow leases
  if row.status ≠ .active ∧ row.status ≠ .grace then
    .abort (.error "subscription is not active")
  else if 0 < active then
    if request.nodeId ∉ environment.directory.nodes then .abort constraintViolated
    else insertCommands request.txNow (fun _ ↦ [(request.nodeId, upsert)]) .commit
  else
    let grant := reservableBytes row.remaining active 1000000000
    if grant = 0 then .abort (.error "no quota remains")
    else if request.nodeId ∉ environment.directory.nodes then .abort constraintViolated
    else
      let lease := issuedLease environment key request grant
      .update [.device request.deviceId]
        (Database.setLeases request.deviceId (leases ++ [QuotaLease.row lease])) <|
      insertCommands request.txNow
        (fun _ ↦ [(request.nodeId, upsert), (request.nodeId, .quotaLease lease)]) .commit

def provisionDevice (environment : Environment) (request : ProvisionDevice) : Program :=
  match environment.quotaPrivateKey with
  | none => .abort (.error "quota signing key is not configured")
  | some key =>
    match environment.directory.owner request.deviceId with
    | none => .abort noRows
    | some user =>
      .select [.device request.deviceId, .subscription user]
        (fun db ↦ (db.devices request.deviceId, db.subscriptions user,
          db.leases request.deviceId)) fun
      | (some device, some row, leases) =>
        if device.revokedAt.isSome then .abort noRows
        else provisionRow environment key request device row leases
      | _ => .abort noRows

/-- The `WHERE` of `renewQuotaLeases` on a device and its user: an unrevoked device with an
assignment, of a user with an active subscription, or one in grace, that has no unexpired lease. -/
def dueRow (blocked : UserId → Bool) (txNow : ℤ) (db : Database) :
    DeviceId × UserId → Option (DeviceId × NodeId)
  | (device, user) =>
    match db.devices device, db.subscriptions user, db.assignments device with
    | some row, some subscription, some node =>
      if row.revokedAt.isNone ∧ blocked user = false ∧
          (subscription.status = .active ∨ subscription.status = .grace) ∧
          activeLeases txNow (db.leases device) = [] then
        some (device, node)
      else none
    | _, _, _ => none

section

variable (directory : Directory)

/-- The assignments `renewQuotaLeases` finds due at `txNow`. -/
def dueForLease (blocked : UserId → Bool) (txNow : ℤ) (db : Database) : List (DeviceId × NodeId) :=
  directory.devices.filterMap (dueRow blocked txNow db)

/-- The loop of `renewQuotaLeases` over the calls for the due assignments: it ends at the first call
that fails. -/
def provisionAll (environment : Environment) : List ProvisionDevice → Database →
    Database × Option Failure
  | [], db => (db, none)
  | request :: rest, db =>
    match (provisionDevice environment request).run db with
    | .error failure => (db, some failure)
    | .ok next => provisionAll environment rest next

/-! ### Binding -/

/-- The transaction of `subscriptionDocument` for a device without a hardware id. What the handler
read before it (whether the subscription is a pending trial) and what its unlocked query of the
trial fingerprints answers come with the request. -/
structure BindDevice where
  deviceId : DeviceId
  fingerprint : String
  pendingTrial : Bool
  reused : Bool
  txNow : ℤ
  now : ℤ

def trialDuration : ℤ := 3 * day

def trialRow (row : Subscription) (now : ℤ) : Subscription :=
  { row with
    status := .active
    periodStartedAt := some now
    periodEndsAt := some (now + trialDuration)
    quotaBytes := 20000000000 }

/-- `UPDATE devices SET hwid_hmac=…, last_bound_at=now() …`. -/
def bindHwid (request : BindDevice) : Program :=
  .select [.device request.deviceId] (fun db ↦ db.devices request.deviceId) fun
  | none => .commit
  | some device =>
    .update [.device request.deviceId] (Database.setDevice request.deviceId
      { device with
        hwidHmac := some request.fingerprint, lastBoundAt := some request.txNow }) .commit

/-- The binding transaction of `App.subscriptionDocument`. -/
def bindDevice (request : BindDevice) : Program :=
  if request.pendingTrial then
    if request.reused then .abort .trialUsed
    else match directory.owner request.deviceId with
    | none => bindHwid request
    | some user =>
      .select [.subscription user] (fun db ↦ db.subscriptions user) fun
      | none => bindHwid request
      | some row =>
        if row.status = .pendingTrial then
          updateSubscription user (trialRow row request.now) (bindHwid request)
        else bindHwid request
  else bindHwid request

/-- The node that `subscriptionDocument` has chosen for a device without one. -/
structure AssignNode where
  deviceId : DeviceId
  nodeId : NodeId

/-- The `INSERT INTO node_assignments … ON CONFLICT(device_id) DO UPDATE SET node_id=…` of
`App.subscriptionDocument`, with its foreign keys. -/
def assignNode (request : AssignNode) : Program :=
  if directory.owner request.deviceId = none ∨ request.nodeId ∉ directory.nodes then
    .abort constraintViolated
  else .append (fun _ ↦ Database.assign request.deviceId request.nodeId) .commit

/-- A request to `rebindDevice`. -/
structure RebindDevice where
  userId : UserId
  deviceId : DeviceId
  now : ℤ
  credentialHash : String

/-- The transaction of `App.rebindDevice`. -/
def rebindDevice (request : RebindDevice) : Program :=
  let notFound : Failure := .unknownDevice
  if directory.owner request.deviceId ≠ some request.userId then .abort notFound
  else
    .select [.device request.deviceId] (fun db ↦ db.devices request.deviceId) fun
    | none => .abort notFound
    | some device =>
      if device.revokedAt.isSome then .abort notFound
      else if ∃ last ∈ device.lastBoundAt, request.now < last + 24 * hour then .abort .rebindLimit
      else
        .update [.device request.deviceId] (Database.setDevice request.deviceId { device with
          credentialHash := request.credentialHash, hwidHmac := none, lastBoundAt := none }) <|
        .update [.device request.deviceId] (Database.setLeases request.deviceId []) .commit

def queueDeviceCommand (device : DeviceId) (message : Message) (txNow : ℤ) : Program :=
  insertCommands txNow
    (fun db ↦ (db.assignments device).toList.map fun node ↦ (node, message)) .commit

/-- What `App.rebindDevice` does after its commit. -/
structure RevokeCredential where
  deviceId : DeviceId
  txNow : ℤ

/-- The revocation that `App.rebindDevice` queues. -/
def revokeCredential (request : RevokeCredential) : Program :=
  queueDeviceCommand request.deviceId (.deviceRevoke ⟨request.deviceId, "credential rotation"⟩)
    request.txNow

/-! ### Resynchronization of a node -/

/-- The `WHERE` of `NodeHub.queueDeviceResync` on a device and its user, with the upsert built. -/
def resyncRow (blocked : UserId → Bool) (node : NodeId) (db : Database) :
    DeviceId × UserId → Option Message
  | (device, user) =>
    match db.devices device, db.subscriptions user, db.assignments device with
    | some row, some subscription, some assigned =>
      if assigned = node ∧ row.revokedAt.isNone ∧ blocked user = false ∧
          (subscription.status = .active ∨ subscription.status = .grace) then
        some (upsertMessage device row subscription)
      else none
    | _, _, _ => none

/-- The upserts `NodeHub.queueDeviceResync` selects for a node; each is then inserted by a statement
of its own. -/
def deviceResync (blocked : UserId → Bool) (node : NodeId) (db : Database) : List Message :=
  directory.devices.filterMap (resyncRow blocked node db)

/-! ### Usage -/

/-- A `usage.batch` that a node's connection received. -/
structure UsageBatch where
  nodeId : NodeId
  events : List UsageEvent
  txNow : ℤ

def exhaustedKicks (device : DeviceId) (db : Database) : List (NodeId × Message) :=
  match (directory.owner device).bind db.subscriptions, db.assignments device with
  | some row, some node =>
    if row.quotaBytes ≤ row.usedBytes ∧ noKickPending db node device then
      [(node, .sessionKick ⟨device, "quota exhausted"⟩)]
    else []
  | _, _ => []

/-- `UPDATE subscriptions SET used_bytes=used_bytes+… WHERE user_id=…` for a new usage event. The
bytes are a Go `int64` sum, and the column refuses a value out of range. -/
def billUsage (node : NodeId) (event : UsageEvent) (user : UserId) (rest : Program) : Program :=
  .select [.subscription user] (fun db ↦ db.subscriptions user) fun
  | none => rest
  | some row =>
    let used := row.usedBytes + wrap64 (event.rxBytes + event.txBytes)
    if Int64Range used then
      .update [.usageEvent node event.eventId, .subscription user]
        (Database.bill node event.eventId user { row with usedBytes := used }) rest
    else .abort constraintViolated

def usageRow (event : UsageEvent) : UsageRow where
  deviceId := event.deviceId
  rxBytes := event.rxBytes
  txBytes := event.txBytes
  startedAt := event.startedAt
  endedAt := event.endedAt

/-- The body of the loop of `NodeHub.usage`: the event is inserted unless its key is taken, and
billed only when it was inserted. The foreign keys are checked for an inserted row. -/
def usageEvent (batch : UsageBatch) (event : UsageEvent) (rest : Program) : Program :=
  if event.rxBytes < 0 ∨ event.txBytes < 0 then .abort constraintViolated
  else
    .select [.usageEvent batch.nodeId event.eventId]
      (fun db ↦ db.usageEvents (batch.nodeId, event.eventId)) fun
    | some _ => rest
    | none =>
      match directory.owner event.deviceId with
      | none => .abort constraintViolated
      | some user =>
        if batch.nodeId ∉ directory.nodes then .abort constraintViolated
        else
          .update [.usageEvent batch.nodeId event.eventId]
            (Database.insertUsage batch.nodeId event.eventId (usageRow event)) <|
          billUsage batch.nodeId event user <|
          insertCommands batch.txNow (exhaustedKicks directory event.deviceId) rest

/-- The transaction of `NodeHub.usage`. -/
def usage (batch : UsageBatch) : Program :=
  forEach (usageEvent directory batch) batch.events .commit

end

end RiseVpn.Control
