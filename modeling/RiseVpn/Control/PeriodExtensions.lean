import RiseVpn.Control.Leases
import RiseVpn.Control.Subscriptions

/-!
# What follows the extension of a period

A purchase, a renewal by the user and a renewal by the lifecycle worker move the end of a period.
Only a purchase sends the devices of the user to their nodes afterwards (`purchasedDevices`); the
others leave that to `renewQuotaLeases`, which looks at devices without an unexpired lease only.

`runWorkers` are runs of the two workers that touch subscriptions and devices after an operation,
and `SentBy` says in which of them a device is sent to its node: its call of `provisionDevice` must
be made and no call before it in the loop may fail. `mem_runWorkers` and `SentBy.queued` say that
these are the upserts that the runs queue. `extended_by_second` says that an operation that moves
the end of a period moves it by a second at least.
-/

set_option autoImplicit false

namespace RiseVpn.Control

open RowLocking

/-! ### Calls of provisionDevice -/

/-- A call of `provisionDevice` succeeds: the signing key is configured, node and device are known,
the device is not revoked, its subscription is active or in grace, and it holds a lease or is
granted one. -/
def Provisionable (environment : Environment) (db : Database) (call : ProvisionDevice) : Prop :=
  environment.quotaPrivateKey ≠ none ∧ call.nodeId ∈ environment.directory.nodes ∧
  ∃ user device row, environment.directory.owner call.deviceId = some user ∧
    db.devices call.deviceId = some device ∧ device.revokedAt = none ∧
    db.subscriptions user = some row ∧ (row.status = .active ∨ row.status = .grace) ∧
    (0 < reservedBytes call.txNow (db.leases call.deviceId) ∨
      reservableBytes row.remaining
        (reservedBytes call.txNow (db.leases call.deviceId)) 1000000000 ≠ 0)

/-- The call for the device on the node is made in a loop over calls that ends at the first that
fails, and succeeds. -/
def CallMade (environment : Environment) (db : Database) (calls : List ProvisionDevice)
    (id : DeviceId) (node : NodeId) : Prop :=
  ∃ front call rest, calls = front ++ call :: rest ∧ call.deviceId = id ∧ call.nodeId = node ∧
    ∀ made ∈ front ++ [call], Provisionable environment db made

def CarriesEnds (directory : Directory) (db : Database) (data : DeviceUpsert) : Prop :=
  ∃ user row, directory.owner data.deviceId = some user ∧ db.subscriptions user = some row ∧
    data.subscriptionEnds = valueTime row.periodEndsAt ∧
    data.periodEnds = valueTime row.periodEndsAt

section Calls

variable {environment : Environment} {db next : Database} {call other : ProvisionDevice}
  {calls : List ProvisionDevice} {id : DeviceId} {node : NodeId} {command : Command}
  {data : DeviceUpsert}

theorem provision_ok_iff : (∃ next, (provisionDevice environment call).run db = .ok next) ↔
    Provisionable environment db call := by
  constructor
  · rintro ⟨next, hrun⟩
    obtain ⟨key, user, device, row, hkey, howner, hdevice, hrevoked, hrow, hrest⟩ :=
      provisionDevice_found hrun
    obtain ⟨hstatus, hnode, hbytes⟩ := run_provisionRow hrest
    refine ⟨hkey ▸ Option.some_ne_none key, hnode, user, device, row, howner, hdevice, hrevoked,
      hrow, hstatus, ?_⟩
    rcases hbytes with ⟨hactive, -⟩ | ⟨-, grant, rfl, hsome, -⟩
    · exact .inl hactive
    · exact .inr hsome
  · rintro ⟨hkey, hnode, user, device, row, howner, hdevice, hrevoked, hrow, hstatus, hbytes⟩
    obtain ⟨key, hkey⟩ := Option.ne_none_iff_exists'.mp hkey
    have hactive : ¬ (row.status ≠ .active ∧ row.status ≠ .grace) := by tauto
    simp only [provisionDevice, hkey, howner, Txn.run_select, hdevice, hrow, hrevoked,
      Option.isSome_none, Bool.false_eq_true, if_false, provisionRow, if_neg hactive]
    by_cases hreserved : 0 < reservedBytes call.txNow (db.leases call.deviceId)
    · rw [if_pos hreserved, if_neg (not_not.mpr hnode)]
      exact ⟨_, rfl⟩
    · rw [if_neg hreserved, if_neg (hbytes.resolve_left hreserved), if_neg (not_not.mpr hnode)]
      exact ⟨_, rfl⟩

section

variable (hcall : Provisioned environment call db next)

include hcall

theorem Provisioned.provisionable_iff (hother : other.deviceId ≠ call.deviceId) :
    Provisionable environment next other ↔ Provisionable environment db other := by
  cases hcall with
  | refreshed => exact Iff.rfl
  | leased =>
    unfold Provisionable
    rw [Database.leases_enqueue, Database.leases_setLeases_of_ne hother]
    exact Iff.rfl

theorem Provisioned.frame :
    next.subscriptions = db.subscriptions ∧ db.commands ⊆ next.commands := by
  cases hcall with
  | refreshed => exact ⟨rfl, List.subset_append_left _ _⟩
  | leased => exact ⟨rfl, List.subset_append_left _ _⟩

theorem Provisioned.queued :
    ∃ command ∈ next.commands, ∃ data, command.message = .deviceUpsert data ∧
      data.deviceId = call.deviceId ∧ command.nodeId = call.nodeId ∧
      CarriesEnds environment.directory db data := by
  cases hcall with
  | refreshed howner hdevice hrow =>
    exact ⟨_, List.mem_append_right _ List.mem_cons_self, _, rfl, rfl, rfl, _, _, howner, hrow, rfl,
      rfl⟩
  | leased _ howner hdevice hrow =>
    exact ⟨_, List.mem_append_right _ List.mem_cons_self, _, rfl, rfl, rfl, _, _, howner, hrow, rfl,
      rfl⟩

theorem Provisioned.mem_commands (hcommand : command ∈ next.commands)
    (hdata : command.message = .deviceUpsert data) :
    command ∈ db.commands ∨ data.deviceId = call.deviceId ∧ command.nodeId = call.nodeId ∧
      CarriesEnds environment.directory db data := by
  cases hcall with
  | refreshed howner hdevice hrow =>
    rcases List.mem_append.mp hcommand with hold | hnew
    · exact .inl hold
    · obtain rfl := List.mem_singleton.mp hnew
      cases hdata
      exact .inr ⟨rfl, rfl, _, _, howner, hrow, rfl, rfl⟩
  | leased _ howner hdevice hrow =>
    rcases List.mem_append.mp hcommand with hold | hnew
    · exact .inl hold
    · rcases List.mem_pair.mp hnew with rfl | rfl
      · cases hdata
        exact .inr ⟨rfl, rfl, _, _, howner, hrow, rfl, rfl⟩
      · cases hdata

end

theorem CarriesEnds.congr {directory : Directory} (hsame : next.subscriptions = db.subscriptions) :
    CarriesEnds directory next data ↔ CarriesEnds directory db data := by
  unfold CarriesEnds
  rw [hsame]

theorem callMade_cons : CallMade environment db (call :: calls) id node ↔
    Provisionable environment db call ∧
      (call.deviceId = id ∧ call.nodeId = node ∨ CallMade environment db calls id node) := by
  constructor
  · rintro ⟨front, made, rest, hcalls, hid, hnode, hall⟩
    cases front with
    | nil =>
      cases hcalls
      exact ⟨hall _ (List.mem_singleton_self _), .inl ⟨hid, hnode⟩⟩
    | cons first front =>
      cases hcalls
      obtain ⟨hfirst, hlater⟩ := List.forall_mem_cons.mp hall
      exact ⟨hfirst, .inr ⟨front, made, rest, rfl, hid, hnode, hlater⟩⟩
  · rintro ⟨hfirst, ⟨hid, hnode⟩ | ⟨front, made, rest, rfl, hid, hnode, hlater⟩⟩
    · exact ⟨[], call, calls, rfl, hid, hnode, fun made hmade ↦
        (List.mem_singleton.mp hmade) ▸ hfirst⟩
    · exact ⟨call :: front, made, rest, rfl, hid, hnode, List.forall_mem_cons.mpr ⟨hfirst, hlater⟩⟩

theorem Provisioned.callMade_iff (hcall : Provisioned environment call db next)
    (hothers : call.deviceId ∉ calls.map ProvisionDevice.deviceId) :
    CallMade environment next calls id node ↔ CallMade environment db calls id node := by
  induction calls with
  | nil =>
    refine iff_of_false ?_ ?_ <;> rintro ⟨front, made, rest, hcalls, -⟩ <;>
      exact absurd hcalls (by simp)
  | cons first calls ih =>
    rw [List.map_cons, List.mem_cons, not_or] at hothers
    rw [callMade_cons, callMade_cons, hcall.provisionable_iff (Ne.symm hothers.1), ih hothers.2]

theorem provisionAll_frame : ∀ (calls : List ProvisionDevice) (db : Database),
    (provisionAll environment calls db).1.subscriptions = db.subscriptions ∧
      db.commands ⊆ (provisionAll environment calls db).1.commands := by
  intro calls
  induction calls with
  | nil => exact fun db ↦ ⟨rfl, fun _ hcommand ↦ hcommand⟩
  | cons call calls ih =>
    intro db
    unfold provisionAll
    split
    · exact ⟨rfl, fun _ hcommand ↦ hcommand⟩
    · rename_i next hrun
      have hframe := (run_provisionDevice hrun).frame
      exact ⟨(ih next).1.trans hframe.1, fun _ hcommand ↦ (ih next).2 (hframe.2 hcommand)⟩

theorem mem_provisionAll (hnodup : (calls.map ProvisionDevice.deviceId).Nodup)
    (hcommand : command ∈ (provisionAll environment calls db).1.commands)
    (hdata : command.message = .deviceUpsert data) :
    command ∈ db.commands ∨ CallMade environment db calls data.deviceId command.nodeId ∧
      CarriesEnds environment.directory db data := by
  induction calls generalizing db with
  | nil => exact .inl hcommand
  | cons call calls ih =>
    obtain ⟨hfirst, hnodup⟩ := List.nodup_cons.mp hnodup
    rw [callMade_cons, ← provision_ok_iff]
    unfold provisionAll at hcommand
    split at hcommand
    · exact .inl hcommand
    · rename_i next hrun
      have hcall := run_provisionDevice hrun
      rcases ih hnodup hcommand with hnext | ⟨hmade, hcarries⟩
      · rcases hcall.mem_commands hnext hdata with hold | ⟨hid, hnode, hcarries⟩
        · exact .inl hold
        · exact .inr ⟨⟨⟨next, hrun⟩, .inl ⟨hid.symm, hnode.symm⟩⟩, hcarries⟩
      · exact .inr ⟨⟨⟨next, hrun⟩, .inr ((hcall.callMade_iff hfirst).mp hmade)⟩,
          (CarriesEnds.congr hcall.frame.1).mp hcarries⟩

theorem CallMade.queued (hnodup : (calls.map ProvisionDevice.deviceId).Nodup)
    (hmade : CallMade environment db calls id node) :
    ∃ command ∈ (provisionAll environment calls db).1.commands, ∃ data,
      command.message = .deviceUpsert data ∧ data.deviceId = id ∧ command.nodeId = node ∧
      CarriesEnds environment.directory db data := by
  induction calls generalizing db with
  | nil =>
    obtain ⟨front, made, rest, hcalls, -⟩ := hmade
    exact absurd hcalls (by simp)
  | cons call calls ih =>
    obtain ⟨hfirst, hnodup⟩ := List.nodup_cons.mp hnodup
    rw [callMade_cons, ← provision_ok_iff] at hmade
    obtain ⟨⟨next, hrun⟩, hmade⟩ := hmade
    have hcall := run_provisionDevice hrun
    unfold provisionAll
    simp only [hrun]
    rcases hmade with ⟨rfl, rfl⟩ | hmade
    · obtain ⟨command, hcommand, hqueued⟩ := hcall.queued
      exact ⟨command, (provisionAll_frame calls next).2 hcommand, hqueued⟩
    · obtain ⟨command, hcommand, data, hdata, hid, hnode, hcarries⟩ :=
        ih hnodup ((hcall.callMade_iff hfirst).mpr hmade)
      exact ⟨command, hcommand, data, hdata, hid, hnode,
        (CarriesEnds.congr hcall.frame.1).mp hcarries⟩

end Calls

/-! ### After the operation -/

/-- The `WHERE` of `provisionUserDevices` on a device and its user. -/
def userDeviceRow (user : UserId) (db : Database) : DeviceId × UserId → Option (DeviceId × NodeId)
  | (device, owner) =>
    match db.devices device, db.assignments device with
    | some row, some node =>
      if owner = user ∧ row.revokedAt.isNone then some (device, node) else none
    | _, _ => none

/-- The assignments `provisionUserDevices` finds for a user. -/
def provisionUserDevices (directory : Directory) (user : UserId) (db : Database) :
    List (DeviceId × NodeId) :=
  directory.devices.filterMap (userDeviceRow user db)

theorem userDeviceRow_eq_some {user : UserId} {db : Database} {row : DeviceId × UserId}
    {result : DeviceId × NodeId} (hresult : userDeviceRow user db row = some result) :
    result.1 = row.1 ∧ row.2 = user ∧
      ∃ device, db.devices row.1 = some device ∧ device.revokedAt = none := by
  unfold userDeviceRow at hresult
  dsimp only at hresult
  split at hresult
  · rename_i device _ hdevice _
    obtain ⟨⟨howner, hrevoked⟩, hsame⟩ := Option.ite_none_right_eq_some.mp hresult
    rw [← Option.some.inj hsame]
    exact ⟨rfl, howner, device, hdevice, Option.isNone_iff_eq_none.mp hrevoked⟩
  · cases hresult

theorem mem_provisionUserDevices {directory : Directory} {user : UserId} {db : Database}
    {found : DeviceId × NodeId} (hfound : found ∈ provisionUserDevices directory user db) :
    directory.owner found.1 = some user ∧
      ∃ device, db.devices found.1 = some device ∧ device.revokedAt = none := by
  obtain ⟨⟨id, owner⟩, hmem, hselected⟩ := List.mem_filterMap.mp hfound
  obtain ⟨hid, rfl, hdevice⟩ := userDeviceRow_eq_some hselected
  rw [hid]
  exact ⟨directory.owner_of_mem hmem, hdevice⟩

theorem provisionUserDevices_nodup {directory : Directory} {user : UserId} {db : Database}
    {calls : List ProvisionDevice}
    (hcalls : (calls.map fun call ↦ (call.deviceId, call.nodeId)).Perm
      (provisionUserDevices directory user db)) : (calls.map ProvisionDevice.deviceId).Nodup :=
  calls_nodup (fun _ _ hresult ↦ (userDeviceRow_eq_some hresult).1) hcalls

/-- The branch of `changePlan` that buys a plan or upgrades to it. -/
def ChangePlan.purchases (request : ChangePlan) (row : Subscription) : Bool :=
  match request.plan with
  | .other _ => false
  | .code next =>
    ¬ (next = row.planCode ∧ row.planCode ≠ .trial ∧ row.status = .active) ∧
      ¬ (next.row.priceKopecks < row.planCode.row.priceKopecks ∧ row.status = .active)

/-- The assignments that a committed transaction sends to their nodes afterwards: `changePlan` calls
`provisionUserDevices` in one of its three branches. -/
def purchasedDevices (directory : Directory) (request : Request) (before after : Database) :
    List (DeviceId × NodeId) :=
  match request with
  | .changePlan change =>
    match before.subscriptions change.userId with
    | some row =>
      if change.purchases row then provisionUserDevices directory change.userId after else []
    | none => []
  | _ => []

inductive WorkerRun
  | subscriptionLifecycle (run : SubscriptionLifecycle)
  | renewQuotaLeases (blocked : UserId → Bool) (txNow : ℤ) (calls : List ProvisionDevice)

def runWorker (environment : Environment) (db : Database) : WorkerRun → Database
  | .subscriptionLifecycle run =>
    match (subscriptionLifecycle environment.directory run).run db with
    | .ok next => next
    | .error _ => db
  | .renewQuotaLeases _ _ calls => (provisionAll environment calls db).1

def runWorkers (environment : Environment) (db : Database) (runs : List WorkerRun) : Database :=
  runs.foldl (runWorker environment) db

def WorkerRun.Scans (directory : Directory) (db : Database) : WorkerRun → Prop
  | .subscriptionLifecycle _ => True
  | .renewQuotaLeases blocked txNow calls =>
    (calls.map fun call ↦ (call.deviceId, call.nodeId)).Perm
      (dueForLease directory blocked txNow db)

def WorkerRun.Sends (environment : Environment) (db : Database) (id : DeviceId) (node : NodeId) :
    WorkerRun → Prop
  | .subscriptionLifecycle _ => False
  | .renewQuotaLeases _ _ calls => CallMade environment db calls id node

def SentBy (environment : Environment) (id : DeviceId) (node : NodeId) :
    Database → List WorkerRun → Prop
  | _, [] => False
  | db, run :: runs =>
    run.Sends environment db id node ∨
      SentBy environment id node (runWorker environment db run) runs

def periodEnd (db : Database) (user : UserId) : Option ℤ :=
  (db.subscriptions user).bind Subscription.periodEndsAt

/-- Each run makes the calls for what it scans, and none of them moves the end of the period again.
-/
def Followed (environment : Environment) (user : UserId) (ends : ℤ) :
    Database → List WorkerRun → Prop
  | _, [] => True
  | db, run :: runs =>
    run.Scans environment.directory db ∧
      periodEnd (runWorker environment db run) user = some ends ∧
      Followed environment user ends (runWorker environment db run) runs

section Followed

variable {environment : Environment} {directory : Directory} {db next result : Database}
  {user : UserId} {ends : ℤ} {id : DeviceId} {node : NodeId} {command : Command}
  {data : DeviceUpsert} {run : WorkerRun} {runs : List WorkerRun}

theorem CarriesEnds.eq (hcarries : CarriesEnds directory db data)
    (howner : directory.owner data.deviceId = some user) (hend : periodEnd db user = some ends) :
    data.subscriptionEnds = ends ∧ data.periodEnds = ends := by
  obtain ⟨found, row, hfound, hrow, hsubscription, hperiod⟩ := hcarries
  cases howner.symm.trans hfound
  have hends : row.periodEndsAt = some ends := by
    simpa [periodEnd, hrow] using hend
  rw [hsubscription, hperiod, hends]
  exact ⟨rfl, rfl⟩

theorem WorkerRun.Scans.nodup {blocked : UserId → Bool} {txNow : ℤ} {calls : List ProvisionDevice}
    (hscans : (WorkerRun.renewQuotaLeases blocked txNow calls).Scans directory db) :
    (calls.map ProvisionDevice.deviceId).Nodup :=
  calls_nodup (fun _ _ hresult ↦ (dueForLease_row hresult).1) hscans

theorem mem_runWorker (hscans : run.Scans environment.directory db)
    (hcommand : command ∈ (runWorker environment db run).commands)
    (hdata : command.message = .deviceUpsert data) :
    command ∈ db.commands ∨ run.Sends environment db data.deviceId command.nodeId ∧
      CarriesEnds environment.directory db data := by
  cases run with
  | subscriptionLifecycle run =>
    simp only [runWorker] at hcommand
    split at hcommand
    · rename_i next hrun
      have hnone := @noNewUpsert_program _ _ (.subscriptionLifecycle run) environment nofun hrun
      exact .inl (hnone command hcommand data hdata)
    · exact .inl hcommand
  | renewQuotaLeases blocked txNow calls => exact mem_provisionAll hscans.nodup hcommand hdata

theorem commands_runWorker (environment : Environment) (db : Database) (run : WorkerRun) :
    db.commands ⊆ (runWorker environment db run).commands := by
  cases run with
  | subscriptionLifecycle run =>
    simp only [runWorker]
    split
    · rename_i next hrun
      obtain ⟨moved, hmoved, rfl⟩ := lifecycle_frame hrun
      have hsame : moved.commands = db.commands := by rw [hmoved]
      rw [← hsame]
      exact fun _ hcommand ↦ List.mem_append_left _ (List.mem_append_left _ hcommand)
    · exact fun _ hcommand ↦ hcommand
  | renewQuotaLeases blocked txNow calls => exact (provisionAll_frame calls db).2

theorem commands_runWorkers (runs : List WorkerRun) :
    ∀ db, db.commands ⊆ (runWorkers environment db runs).commands := by
  induction runs with
  | nil => exact fun _ _ hcommand ↦ hcommand
  | cons run runs ih =>
    exact fun db _ hcommand ↦ ih _ (commands_runWorker environment db run hcommand)

theorem mem_runWorkers (hfollowed : Followed environment user ends db runs)
    (hend : periodEnd db user = some ends)
    (howner : environment.directory.owner data.deviceId = some user)
    (hcommand : command ∈ (runWorkers environment db runs).commands)
    (hdata : command.message = .deviceUpsert data) :
    command ∈ db.commands ∨ SentBy environment data.deviceId command.nodeId db runs ∧
      data.subscriptionEnds = ends ∧ data.periodEnds = ends := by
  induction runs generalizing db with
  | nil => exact .inl hcommand
  | cons run runs ih =>
    obtain ⟨hscans, hkept, hrest⟩ := hfollowed
    rcases ih hrest hkept hcommand with hrun | ⟨hsent, hends⟩
    · rcases mem_runWorker hscans hrun hdata with hold | ⟨hsends, hcarries⟩
      · exact .inl hold
      · exact .inr ⟨.inl hsends, hcarries.eq howner hend⟩
    · exact .inr ⟨.inr hsent, hends⟩

theorem SentBy.queued (hfollowed : Followed environment user ends db runs)
    (hend : periodEnd db user = some ends) (howner : environment.directory.owner id = some user)
    (hsent : SentBy environment id node db runs) :
    ∃ command ∈ (runWorkers environment db runs).commands, ∃ data,
      command.message = .deviceUpsert data ∧ data.deviceId = id ∧ command.nodeId = node ∧
      data.subscriptionEnds = ends ∧ data.periodEnds = ends := by
  induction runs generalizing db with
  | nil => exact hsent.elim
  | cons run runs ih =>
    obtain ⟨hscans, hkept, hrest⟩ := hfollowed
    rcases hsent with hsends | hlater
    · cases run with
      | subscriptionLifecycle run => exact hsends.elim
      | renewQuotaLeases blocked txNow calls =>
        obtain ⟨command, hcommand, data, hdata, rfl, hnode, hcarries⟩ :=
          CallMade.queued hscans.nodup hsends
        exact ⟨command, commands_runWorkers runs _ hcommand, data, hdata, rfl, hnode,
          hcarries.eq howner hend⟩
    · exact ih hrest hkept hlater

theorem purchasedDevices_nodup {request : Request} {calls : List ProvisionDevice}
    (hcalls : (calls.map fun call ↦ (call.deviceId, call.nodeId)).Perm
      (purchasedDevices directory request db next)) :
    (calls.map ProvisionDevice.deviceId).Nodup := by
  have hnone : (calls.map fun call ↦ (call.deviceId, call.nodeId)).Perm [] →
      (calls.map ProvisionDevice.deviceId).Nodup := by
    intro hempty
    rw [List.map_eq_nil_iff.mp hempty.eq_nil]
    exact List.nodup_nil
  unfold purchasedDevices at hcalls
  split at hcalls
  · split at hcalls
    · split_ifs at hcalls
      · exact provisionUserDevices_nodup hcalls
      · exact hnone hcalls
    · exact hnone hcalls
  · exact hnone hcalls

end Followed

/-! ### The operation -/

def Request.ExtendsPeriods : Request → Prop
  | .changePlan _ | .subscriptionLifecycle _ => True
  | _ => False

section Operation

variable {clock : ℤ} {environment : Environment} {db result : Database} {request : Request}
  {user : UserId} {row row' : Subscription} {ends later : ℤ}

theorem PlanChanged.periodEndsAt {change : ChangePlan} (hchanged : PlanChanged change db result)
    (hrow : db.subscriptions user = some row) (hrow' : result.subscriptions user = some row') :
    row'.periodEndsAt = row.periodEndsAt ∨ row' = renewedSamePlan row change.now ∨
      ∃ next, row' = purchasedRow row next (purchaseTerms row next change.now) := by
  have hupdated : ∀ {old new : Subscription}, db.subscriptions change.userId = some old →
      result.subscriptions = Function.update db.subscriptions change.userId (some new) →
      row' = row ∨ row = old ∧ row' = new := by
    intro old new hold hresult
    rw [hresult] at hrow'
    by_cases hsame : user = change.userId
    · subst hsame
      rw [Function.update_self] at hrow'
      exact .inr ⟨Option.mem_unique hrow hold, (Option.some.inj hrow').symm⟩
    · rw [Function.update_of_ne hsame, hrow] at hrow'
      exact .inl (Option.some.inj hrow').symm
  cases hchanged with
  | renewed hold =>
    rcases hupdated hold rfl with rfl | ⟨rfl, rfl⟩
    · exact .inl rfl
    · exact .inr (.inl rfl)
  | scheduled hold =>
    rcases hupdated hold rfl with rfl | ⟨rfl, rfl⟩
    · exact .inl rfl
    · exact .inl rfl
  | purchased hold =>
    rcases hupdated hold rfl with rfl | ⟨rfl, rfl⟩
    · exact .inl rfl
    · exact .inr (.inr ⟨_, rfl⟩)

theorem extended_by_second (hextends : request.ExtendsPeriods) (hontime : OnTime clock request)
    (hrun : (program environment request).run db = .ok result)
    (hrow : db.subscriptions user = some row) (htimely : Timely clock row)
    (hrow' : result.subscriptions user = some row') (hends : ends ∈ row.periodEndsAt)
    (hlater : later ∈ row'.periodEndsAt) (hmoved : ends < later) : ends + second ≤ later := by
  have hkept : row'.periodEndsAt = row.periodEndsAt → ends + second ≤ later := by
    intro hsame
    rw [hsame, Option.mem_def.mp hends] at hlater
    cases hlater
    exact absurd hmoved (lt_irrefl _)
  cases request with
  | changePlan request =>
    cases hontime
    rcases (run_changePlan hrun).periodEndsAt hrow hrow' with hsame | rfl | ⟨next, rfl⟩
    · exact hkept hsame
    · have hduration : second ≤ (planTerms row.planCode).duration := by
        cases row.planCode <;> decide
      simp only [renewedSamePlan, Option.mem_def.mp hends] at hlater
      cases hlater
      split_ifs <;> omega
    · by_cases hupgrade : row.status = .active ∧ row.planCode ≠ .trial
      · simp only [purchasedRow, purchaseTerms, Option.mem_def.mp hends, if_pos hupgrade] at hlater
        cases hlater
        exact absurd hmoved (lt_irrefl _)
      · simp only [purchasedRow, purchaseTerms, Option.mem_def.mp hends, if_neg hupgrade] at hlater
        cases hlater
        have hsoon := htimely.ends_le hupgrade hends
        have hperiod : trialDuration + second ≤ paidPeriod := by decide
        omega
  | subscriptionLifecycle run =>
    obtain ⟨renewed, found, hfound, hstatus, hrenewed⟩ := lifecycle_user hrun hrow
    cases hrow'.symm.trans hfound
    obtain ⟨-, -, hperiod, -, -⟩ := hstatus.kept
    rcases hrenewed with ⟨rfl, -⟩ | ⟨_, -, -, rfl, -⟩
    · exact hkept hperiod
    · rw [hperiod, autoRenewed, Option.mem_def.mp hends] at hlater
      cases hlater
      have hperiod : second ≤ 30 * day := by decide
      change ends + second ≤ ends + 30 * day
      omega
  | _ => exact hextends.elim

theorem noNewUpsert_operation (hextends : request.ExtendsPeriods)
    (hrun : (program environment request).run db = .ok result) : NoNewUpsert db result := by
  refine noNewUpsert_program ?_ hrun
  rintro call rfl
  exact hextends

end Operation

end RiseVpn.Control
