import Mathlib.Algebra.Order.BigOperators.Group.List
import RiseVpn.Control.RowEffects

/-!
# Quota leases

What `provisionDevice` reserves, and what `renewQuotaLeases` renews.

A call of `provisionDevice` looks at the unexpired leases of its own device and at the quota of the
user, so the leases of the user's other devices are not counted: `leases_within_quota_iff` says when
the unexpired leases of a user, with the one just inserted, stay within what is left of the quota.
It rests on `Committed.leasesWhole`: no lease is ever marked as consumed, so what a device has
reserved is what its unexpired leases are worth.

`renewQuotaLeases` calls `provisionDevice` for the due devices one after the other and ends at the
first call that fails. `provision_due` says when the call for a due device succeeds and what it
leaves, and `renewal_complete_iff` when a run serves every device it could serve.
-/

set_option autoImplicit false

namespace RiseVpn.Control

open RowLocking

variable {environment : Environment} {db start before after result : Database}

/-! ### Reservations -/

def leasedBytes (txNow : ℤ) (leases : List LeaseRow) : ℤ :=
  ((activeLeases txNow leases).map LeaseRow.bytes).sum

def leasedTo (db : Database) (txNow : ℤ) (devices : List DeviceId) : ℤ :=
  (devices.map fun id ↦ leasedBytes txNow (db.leases id)).sum

def LeasesWhole (db : Database) : Prop :=
  ∀ id, ∀ lease ∈ db.leases id, lease.consumedBytes = 0 ∧ 0 ≤ lease.bytes

theorem reservableBytes_nonneg (remaining active requested : ℤ) :
    0 ≤ reservableBytes remaining active requested := by
  unfold reservableBytes
  dsimp only
  split_ifs <;> omega

theorem reservableBytes_ne_zero_iff {remaining active requested : ℤ} (hrequested : 0 < requested) :
    reservableBytes remaining active requested ≠ 0 ↔ 0 < wrap64 (remaining - active) := by
  unfold reservableBytes
  dsimp only
  split_ifs <;> omega

theorem reservableBytes_eq_min {remaining active requested : ℤ} (hrequested : 0 < requested)
    (hleft : 0 < wrap64 (remaining - active)) :
    reservableBytes remaining active requested = min (wrap64 (remaining - active)) requested := by
  unfold reservableBytes
  dsimp only
  split_ifs <;> omega

theorem Subscription.wrap64_remaining (row : Subscription) :
    wrap64 row.remaining = row.remaining := wrap64_of_range (int64Range_wrap64 _)

/-- The columns are `bigint`, and the quota is not negative. -/
structure Subscription.Sized (row : Subscription) : Prop where
  quota : 0 ≤ row.quotaBytes
  quotaRange : Int64Range row.quotaBytes
  usedRange : Int64Range row.usedBytes

/-- A difference that does not fit is negative after the wrap-around. -/
theorem Subscription.Sized.remaining_eq {row : Subscription} (hsized : row.Sized)
    (hleft : 0 < row.remaining) : row.remaining = row.quotaBytes - row.usedBytes := by
  obtain ⟨hquota, hquotaRange, husedRange⟩ := hsized
  unfold Int64Range at hquotaRange husedRange
  unfold Subscription.remaining wrap64 at hleft ⊢
  rw [Int.bmod_def] at hleft ⊢
  omega

theorem leasedBytes_nonneg (txNow : ℤ) {leases : List LeaseRow}
    (hwhole : ∀ lease ∈ leases, lease.consumedBytes = 0 ∧ 0 ≤ lease.bytes) :
    0 ≤ leasedBytes txNow leases := by
  refine List.sum_nonneg fun bytes hbytes ↦ ?_
  obtain ⟨lease, hlease, rfl⟩ := List.mem_map.mp hbytes
  exact (hwhole lease (List.mem_of_mem_filter hlease)).2

variable {txNow : ℤ} {directory : Directory} {request : Request}

theorem reservedBytes_eq {leases : List LeaseRow}
    (hwhole : ∀ lease ∈ leases, lease.consumedBytes = 0 ∧ 0 ≤ lease.bytes) :
    reservedBytes txNow leases = leasedBytes txNow leases := by
  unfold reservedBytes leasedBytes
  congr 1
  refine List.map_congr_left fun lease hlease ↦ ?_
  rw [(hwhole lease (List.mem_of_mem_filter hlease)).1, Int.sub_zero]

theorem leases_subscriptionLifecycle {run : SubscriptionLifecycle}
    (hrun : (subscriptionLifecycle directory run).run db = .ok result) :
    result.leases = db.leases := by
  obtain ⟨moved, hmoved, rfl⟩ := lifecycle_frame hrun
  change moved.leases = db.leases
  rw [hmoved]

theorem leases_usage {batch : UsageBatch} (hrun : (usage directory batch).run db = .ok result) :
    result.leases = db.leases := by
  refine (run_usage hrun).invariant (fun middle ↦ middle.leases = db.leases) ?_ rfl
  intro event db middle heffect hleases
  cases heffect <;> exact hleases

/-- The lease that a call of `provisionDevice` inserts for a device that has reserved nothing. -/
inductive InsertedLease (environment : Environment) (request : ProvisionDevice) (db : Database) :
    LeaseRow → Prop
  | granted {user : UserId} {row : Subscription} (key : String)
      (howner : environment.directory.owner request.deviceId = some user)
      (hrow : db.subscriptions user = some row)
      (hactive : reservedBytes request.txNow (db.leases request.deviceId) ≤ 0)
      (hsome : reservableBytes row.remaining
        (reservedBytes request.txNow (db.leases request.deviceId)) 1000000000 ≠ 0) :
      InsertedLease environment request db (QuotaLease.row (issuedLease environment key request
        (reservableBytes row.remaining
          (reservedBytes request.txNow (db.leases request.deviceId)) 1000000000)))

theorem leases_cases (hrun : (program environment request).run db = .ok result) (id : DeviceId) :
    result.leases id = db.leases id ∨ result.leases id = [] ∨
      ∃ provision lease, request = .provisionDevice provision ∧ provision.deviceId = id ∧
        InsertedLease environment provision db lease ∧
        result.leases id = db.leases id ++ [lease] := by
  cases run_program hrun with
  | changed hchanged => cases hchanged <;> exact .inl rfl
  | managed hrun => exact .inl (congrFun (leases_subscriptionLifecycle hrun) id)
  | bound hstarted hbound =>
    rcases hbound with rfl | ⟨_, _, rfl⟩ <;> rcases hstarted with rfl | ⟨_, _, _, _, rfl⟩ <;>
      exact .inl rfl
  | @rebound request =>
    by_cases hid : id = request.deviceId
    · subst hid
      exact .inr (.inl (Database.leases_setLeases _ _ _))
    · exact .inl (Database.leases_setLeases_of_ne hid _ _)
  | @provisioned request _ hcall =>
    cases hcall with
    | refreshed => exact .inl rfl
    | @leased key _ _ _ _ _ howner _ hrow _ hactive hgrant hsome =>
      by_cases hid : id = request.deviceId
      · subst hid hgrant
        exact .inr (.inr ⟨request, _, rfl, rfl, .granted key howner hrow hactive hsome,
          Database.leases_setLeases _ _ _⟩)
      · exact .inl (Database.leases_setLeases_of_ne hid _ _)
  | booked => exact .inl (congrFun (leases_usage hrun) id)
  | credited | adjusted | assigned | revoked => exact .inl rfl

theorem leases_program (hrun : (program environment request).run db = .ok result) (id : DeviceId) :
    result.leases id = db.leases id ∨ result.leases id = [] ∨
      ∃ lease : LeaseRow, lease.consumedBytes = 0 ∧ 0 ≤ lease.bytes ∧
        result.leases id = db.leases id ++ [lease] := by
  refine (leases_cases hrun id).imp_right (Or.imp_right ?_)
  rintro ⟨_, lease, -, -, hinserted, hnew⟩
  cases hinserted
  exact ⟨_, rfl, reservableBytes_nonneg _ _ _, hnew⟩

theorem Committed.leasesWhole (hstart : ∀ id, start.leases id = [])
    (hcommitted : Committed environment start request before after) : LeasesWhole before := by
  refine hcommitted.invariant (fun db db' hview hwhole id ↦ ?_)
    (fun request db result hwhole hrun id lease hlease ↦ ?_) (fun id ↦ ?_)
  · rw [← leases_eq (hview (.device id))]
    exact hwhole id
  · rcases leases_program hrun id with hsame | hnone | ⟨new, hconsumed, hbytes, hnew⟩
    · exact hwhole id lease (hsame ▸ hlease)
    · simp [hnone] at hlease
    · rw [hnew, List.mem_append, List.mem_singleton] at hlease
      rcases hlease with hold | rfl
      · exact hwhole id lease hold
      · exact ⟨hconsumed, hbytes⟩
  · simp [hstart id]

theorem leasedTo_filter {id : DeviceId} (hnone : leasedBytes txNow (db.leases id) = 0)
    (devices : List DeviceId) :
    leasedTo db txNow (devices.filter (· ≠ id)) = leasedTo db txNow devices := by
  induction devices with
  | nil => rfl
  | cons device devices ih =>
    unfold leasedTo at ih ⊢
    by_cases hdevice : device = id
    · simp [hdevice, hnone, ← ih]
    · simp [hdevice, ← ih]

/-- Assumes: a run from a database without leases, and a committed call of `provisionDevice` that
inserts a lease, for a subscription whose quota is not negative. The unexpired leases of the user,
with the new one, are within what is left of the quota exactly when those of the user's other
devices are within what is left beyond one gigabyte. -/
theorem leases_within_quota_iff {request : ProvisionDevice} {user : UserId} {row : Subscription}
    {lease : LeaseRow} (hstart : ∀ id, start.leases id = [])
    (hcommitted : Committed environment start (.provisionDevice request) before after)
    (howner : environment.directory.owner request.deviceId = some user)
    (hrow : before.subscriptions user = some row) (hsized : row.Sized)
    (hinserted : after.leases request.deviceId = before.leases request.deviceId ++ [lease]) :
    leasedTo before request.txNow (environment.directory.devicesOf user) + lease.bytes ≤
        row.quotaBytes - row.usedBytes ↔
      leasedTo before request.txNow
          ((environment.directory.devicesOf user).filter (· ≠ request.deviceId)) ≤
        max 0 (row.quotaBytes - row.usedBytes - 1000000000) := by
  have hwhole := hcommitted.leasesWhole hstart request.deviceId
  obtain ⟨result, hrun, hview⟩ := hcommitted.run
  rw [leases_eq (hview (.device request.deviceId))] at hinserted
  cases run_provisionDevice hrun with
  | refreshed => exact absurd hinserted (by simp [Database.enqueue])
  | @leased key _ device found grant _ howner' _ hrow' _ hactive hgrant hsome =>
    cases howner.symm.trans howner'
    cases hrow.symm.trans hrow'
    have hnothing : leasedBytes request.txNow (before.leases request.deviceId) = 0 := by
      rw [reservedBytes_eq hwhole] at hactive
      have := leasedBytes_nonneg request.txNow hwhole
      omega
    have hbytes : lease.bytes = grant := by
      rw [Database.leases_enqueue, Database.leases_setLeases] at hinserted
      rw [← List.singleton_inj.mp (List.append_cancel_left hinserted)]
      rfl
    rw [leasedTo_filter hnothing, hbytes, hgrant, reservedBytes_eq hwhole, hnothing]
    rw [hgrant, reservedBytes_eq hwhole, hnothing] at hsome
    have hleft := (reservableBytes_ne_zero_iff (by decide)).mp hsome
    rw [reservableBytes_eq_min (by decide) hleft, Int.sub_zero, row.wrap64_remaining]
    rw [Int.sub_zero, row.wrap64_remaining] at hleft
    have hexact := hsized.remaining_eq hleft
    omega

def fleetEnvironment : Environment where
  directory := ⟨[("phone", "user"), ("laptop", "user"), ("tablet", "other")], ["node"], by decide⟩
  signatures := textSignatures
  quotaPrivateKey := some "key"

def fleetDatabase : Database :=
  Database.fresh ["user", "other"] (fun id ↦ some ⟨id, none, none, none⟩) fun _ ↦ some "node"

def fleetPurchases (used : ℤ) : List Request :=
  [.creditWallet ⟨"admin", "user", 29900, "top-up", "first", ""⟩,
    .changePlan ⟨"user", .code .plus, 0, "first"⟩,
    .usage ⟨"node", [⟨"1", "phone", used, 0, 0, 0⟩], 0⟩,
    .creditWallet ⟨"admin", "other", 14900, "top-up", "second", ""⟩,
    .changePlan ⟨"other", .code .lite, 0, "second"⟩]

def fleetCall (device : DeviceId) (now : ℤ) : ProvisionDevice := ⟨device, "node", now, now, device⟩

theorem leases_within_quota_first : ∃ before after lease row,
    Committed fleetEnvironment fleetDatabase (.provisionDevice (fleetCall "phone" 0)) before after ∧
    before.subscriptions "user" = some row ∧
    after.leases "phone" = before.leases "phone" ++ [lease] ∧
    leasedTo before 0 (fleetEnvironment.directory.devicesOf "user") + lease.bytes ≤
      row.quotaBytes - row.usedBytes := by
  have hrun : runSerially fleetEnvironment (fleetPurchases 599500000000) fleetDatabase = .ok _ :=
    rfl
  have hcommitted : Committed fleetEnvironment fleetDatabase
      (.provisionDevice (fleetCall "phone" 0)) _ _ := (reached_serially _ hrun).committed rfl
  refine ⟨_, _, _, _, hcommitted, rfl, rfl,
    (leases_within_quota_iff (fun _ ↦ rfl) hcommitted rfl rfl ?_ rfl).mpr ?_⟩
  · exact ⟨by decide, by decide, by decide⟩
  · decide

/-- A lease that takes a user over the quota: both devices are granted all that is left. -/
theorem leases_oversubscribed : ∃ before after lease row,
    Committed fleetEnvironment fleetDatabase (.provisionDevice (fleetCall "laptop" 0))
      before after ∧
    before.subscriptions "user" = some row ∧
    after.leases "laptop" = before.leases "laptop" ++ [lease] ∧
    ¬ leasedTo before 0 (fleetEnvironment.directory.devicesOf "user") + lease.bytes ≤
      row.quotaBytes - row.usedBytes := by
  have hrun : runSerially fleetEnvironment (fleetPurchases 599500000000 ++
      [.provisionDevice (fleetCall "phone" 0)]) fleetDatabase = .ok _ := rfl
  have hcommitted : Committed fleetEnvironment fleetDatabase
      (.provisionDevice (fleetCall "laptop" 0)) _ _ := (reached_serially _ hrun).committed rfl
  refine ⟨_, _, _, _, hcommitted, rfl, rfl, ?_⟩
  decide

/-! ### Renewal of leases -/

def Queued (db : Database) (node : NodeId) (message : Message) : Prop :=
  ∃ command ∈ db.commands, command.nodeId = node ∧ command.message = message ∧
    command.status = .pending

def Served (call : ProvisionDevice) (db : Database) : Prop :=
  ∃ (lease : QuotaLease) (upsert : DeviceUpsert),
    QuotaLease.row lease ∈ activeLeases call.txNow (db.leases call.deviceId) ∧
    upsert.deviceId = call.deviceId ∧ Queued db call.nodeId (.deviceUpsert upsert) ∧
    Queued db call.nodeId (.quotaLease lease)

/-- A due device can be served: the signing key is configured, the node is known, and the user of
the device has quota left. -/
def Renewable (environment : Environment) (db : Database) (call : ProvisionDevice) : Prop :=
  environment.quotaPrivateKey ≠ none ∧ call.nodeId ∈ environment.directory.nodes ∧
    ∃ user ∈ environment.directory.owner call.deviceId, ∃ row ∈ db.subscriptions user,
      0 < row.remaining

structure DueCall (environment : Environment) (db : Database) (call : ProvisionDevice)
    (user : UserId) (device : DeviceRow) (row : Subscription) : Prop where
  owner : environment.directory.owner call.deviceId = some user
  found : db.devices call.deviceId = some device
  unrevoked : device.revokedAt = none
  subscription : db.subscriptions user = some row
  status : row.status = .active ∨ row.status = .grace
  expired : activeLeases call.txNow (db.leases call.deviceId) = []

structure LeaseGranted (call : ProvisionDevice) (lease : QuotaLease) (upsert : DeviceUpsert)
    (db next : Database) : Prop where
  expires : lease.expiresAt = call.now + 24 * hour
  device : upsert.deviceId = call.deviceId
  left : next = (db.setLeases call.deviceId
    (db.leases call.deviceId ++ [QuotaLease.row lease])).enqueue call.txNow
      [(call.nodeId, .deviceUpsert upsert), (call.nodeId, .quotaLease lease)]

section Renewal

variable {call : ProvisionDevice} {user : UserId} {device : DeviceRow} {row : Subscription}
  {lease : QuotaLease} {upsert : DeviceUpsert} {next : Database}

theorem provision_due (hdue : DueCall environment db call user device row) :
    (Renewable environment db call ∧ ∃ next lease upsert,
      (provisionDevice environment call).run db = .ok next ∧
        LeaseGranted call lease upsert db next) ∨
    (¬ Renewable environment db call ∧ ∃ failure,
      (provisionDevice environment call).run db = .error failure) := by
  have hreserved : reservedBytes call.txNow (db.leases call.deviceId) = 0 := by
    rw [reservedBytes, hdue.expired]
    rfl
  have hstatus : ¬ (row.status ≠ .active ∧ row.status ≠ .grace) := by
    have := hdue.status
    tauto
  have hleft : reservableBytes row.remaining 0 1000000000 = 0 ↔ ¬ 0 < row.remaining := by
    have hsome : reservableBytes row.remaining 0 1000000000 ≠ 0 ↔ 0 < row.remaining := by
      rw [reservableBytes_ne_zero_iff (by decide), Int.sub_zero, row.wrap64_remaining]
    rw [← hsome, not_not]
  have hrenewable : Renewable environment db call ↔ environment.quotaPrivateKey ≠ none ∧
      call.nodeId ∈ environment.directory.nodes ∧ 0 < row.remaining := by
    simp [Renewable, hdue.owner, hdue.subscription]
  rw [hrenewable]
  unfold provisionDevice
  cases hkey : environment.quotaPrivateKey with
  | none => exact .inr ⟨by simp, _, rfl⟩
  | some key =>
    simp only [hdue.owner, Txn.run_select, hdue.found, hdue.subscription, hdue.unrevoked,
      Option.isSome_none, Bool.false_eq_true, if_false, provisionRow, hreserved, if_neg hstatus,
      Int.lt_irrefl]
    by_cases hquota : 0 < row.remaining
    · rw [if_neg (fun hnone ↦ hleft.mp hnone hquota)]
      by_cases hnode : call.nodeId ∈ environment.directory.nodes
      · rw [if_neg (not_not_intro hnode)]
        exact .inl ⟨⟨by simp, hnode, hquota⟩, _, _, _, rfl, rfl, rfl, rfl⟩
      · rw [if_pos hnode]
        exact .inr ⟨fun h ↦ hnode h.2.1, _, rfl⟩
    · rw [if_pos (hleft.mpr hquota)]
      exact .inr ⟨fun h ↦ hquota h.2.2, _, rfl⟩

theorem DueCall.not_served (hdue : DueCall environment db call user device row) :
    ¬ Served call db := by
  rintro ⟨lease, upsert, hlease, -⟩
  simp [hdue.expired] at hlease

section

variable (hgranted : LeaseGranted call lease upsert db next)

include hgranted

theorem LeaseGranted.served (hclock : call.txNow < call.now + 24 * hour) : Served call next := by
  obtain ⟨hexpires, hdevice, rfl⟩ := hgranted
  refine ⟨lease, upsert, ?_, hdevice,
    ⟨_, List.mem_append_right _ List.mem_cons_self, rfl, rfl, rfl⟩,
    ⟨_, List.mem_append_right _ (List.mem_cons_of_mem _ List.mem_cons_self), rfl, rfl, rfl⟩⟩
  have hactive : call.txNow < (QuotaLease.row lease).expiresAt := by
    change call.txNow < lease.expiresAt
    rwa [hexpires]
  simp [activeLeases, hactive]

theorem LeaseGranted.due {other : ProvisionDevice} (hother : other.deviceId ≠ call.deviceId)
    (hdue : DueCall environment db other user device row) :
    DueCall environment next other user device row := by
  obtain ⟨howner, hfound, hunrevoked, hsubscription, hstatus, hexpired⟩ := hdue
  rw [hgranted.left]
  refine ⟨howner, hfound, hunrevoked, hsubscription, hstatus, ?_⟩
  rw [Database.leases_enqueue, Database.leases_setLeases_of_ne hother, hexpired]

theorem LeaseGranted.renewable_iff (other : ProvisionDevice) :
    Renewable environment next other ↔ Renewable environment db other := by
  rw [hgranted.left]
  rfl

end

theorem Served.provision {other : ProvisionDevice} (hserved : Served call db)
    (hother : call.deviceId ≠ other.deviceId)
    (hrun : (provisionDevice environment other).run db = .ok next) : Served call next := by
  obtain ⟨lease, upsert, hlease, hdevice, ⟨first, hfirst, hupsert⟩, ⟨second, hsecond, hqueued⟩⟩ :=
    hserved
  cases run_provisionDevice hrun with
  | refreshed =>
    exact ⟨lease, upsert, hlease, hdevice, ⟨first, List.mem_append_left _ hfirst, hupsert⟩,
      ⟨second, List.mem_append_left _ hsecond, hqueued⟩⟩
  | leased =>
    refine ⟨lease, upsert, ?_, hdevice, ⟨first, List.mem_append_left _ hfirst, hupsert⟩,
      ⟨second, List.mem_append_left _ hsecond, hqueued⟩⟩
    rw [Database.leases_enqueue, Database.leases_setLeases_of_ne hother]
    exact hlease

theorem Served.provisionAll {calls : List ProvisionDevice} (hserved : Served call db)
    (hothers : call.deviceId ∉ calls.map ProvisionDevice.deviceId) :
    Served call (provisionAll environment calls db).1 := by
  induction calls generalizing db with
  | nil => exact hserved
  | cons other calls ih =>
    rw [List.map_cons, List.mem_cons, not_or] at hothers
    unfold Control.provisionAll
    cases hrun : (provisionDevice environment other).run db with
    | error failure => exact hserved
    | ok next => exact ih (hserved.provision hothers.1 hrun) hothers.2

theorem provisionAll_served_iff {calls : List ProvisionDevice}
    (hnodup : (calls.map ProvisionDevice.deviceId).Nodup)
    (hdue : ∀ call ∈ calls, ∃ user device row, DueCall environment db call user device row)
    (hclock : ∀ call ∈ calls, call.txNow < call.now + 24 * hour) :
    (∀ call ∈ calls, Renewable environment db call →
        Served call (provisionAll environment calls db).1) ↔
      calls.Pairwise fun earlier later ↦
        Renewable environment db later → Renewable environment db earlier := by
  induction calls generalizing db with
  | nil => simp
  | cons first calls ih =>
    obtain ⟨hfirst, hnodup⟩ := List.nodup_cons.mp hnodup
    obtain ⟨user, device, row, hdueFirst⟩ := hdue first List.mem_cons_self
    rw [List.pairwise_cons]
    unfold provisionAll
    rcases provision_due hdueFirst with
      ⟨hrenewable, next, lease, upsert, hrun, hgranted⟩ | ⟨hnot, failure, hrun⟩
    · -- The loop goes on from `next`, where the other calls are as they were.
      have hdueNext : ∀ call ∈ calls, ∃ user device row,
          DueCall environment next call user device row := by
        intro call hcall
        obtain ⟨user, device, row, hdueCall⟩ := hdue call (List.mem_cons_of_mem _ hcall)
        have hother : call.deviceId ≠ first.deviceId := fun hsame ↦
          hfirst (hsame ▸ List.mem_map_of_mem hcall)
        exact ⟨user, device, row, hgranted.due hother hdueCall⟩
      have hrest := ih hnodup hdueNext fun call hcall ↦ hclock call (List.mem_cons_of_mem _ hcall)
      simp only [hgranted.renewable_iff] at hrest
      have hserved : Served first (provisionAll environment calls next).1 :=
        (hgranted.served (hclock first List.mem_cons_self)).provisionAll hfirst
      simp only [hrun, List.forall_mem_cons, hrest]
      tauto
    · -- The loop ends here, so nothing later is served.
      simp only [hrun]
      constructor
      · intro hserved
        have hnone : ∀ call ∈ calls, ¬ Renewable environment db call := by
          intro call hcall hrenewable
          obtain ⟨user, device, row, hdueCall⟩ := hdue call (List.mem_cons_of_mem _ hcall)
          exact hdueCall.not_served (hserved call (List.mem_cons_of_mem _ hcall) hrenewable)
        exact ⟨fun later hlater hrenewable ↦ absurd hrenewable (hnone later hlater),
          List.pairwise_of_forall_mem_list fun _ _ later hlater hrenewable ↦
            absurd hrenewable (hnone later hlater)⟩
      · rintro ⟨hlater, -⟩ call hcall hrenewable
        rcases List.mem_cons.mp hcall with rfl | hcall
        · exact absurd hrenewable hnot
        · exact absurd (hlater call hcall hrenewable) hnot

end Renewal

theorem dueForLease_row {blocked : UserId → Bool} {id found : DeviceId} {user : UserId}
    {node : NodeId} (hrow : dueRow blocked txNow db (found, user) = some (id, node)) :
    id = found ∧ ∃ device row, db.devices id = some device ∧ device.revokedAt = none ∧
      db.subscriptions user = some row ∧ (row.status = .active ∨ row.status = .grace) ∧
      activeLeases txNow (db.leases id) = [] := by
  unfold dueRow at hrow
  dsimp only at hrow
  split at hrow
  · rename_i device row assigned hdevice hsubscription _
    obtain ⟨⟨hunrevoked, -, hstatus, hexpired⟩, hsame⟩ := Option.ite_none_right_eq_some.mp hrow
    cases hsame
    exact ⟨rfl, device, row, hdevice, Option.isNone_iff_eq_none.mp hunrevoked, hsubscription,
      hstatus, hexpired⟩
  · cases hrow

theorem calls_nodup {calls : List ProvisionDevice}
    {select : DeviceId × UserId → Option (DeviceId × NodeId)}
    (hselect : ∀ row result, select row = some result → result.1 = row.1)
    (hcalls : (calls.map fun call ↦ (call.deviceId, call.nodeId)).Perm
      (directory.devices.filterMap select)) : (calls.map ProvisionDevice.deviceId).Nodup := by
  have hscan : ((directory.devices.filterMap select).map Prod.fst).Nodup :=
    KeyedTable.nodup_map_filterMap hselect directory.devices_nodup
  have hmapped := (hcalls.map Prod.fst).nodup_iff.mpr hscan
  rw [List.map_map] at hmapped
  exact hmapped

/-- Assumes: calls of `provisionDevice` for the due assignments in any order, each after the scan,
with the clocks of the database and of the process less than a day apart. A run of
`renewQuotaLeases` serves every due device for which `provisionDevice` alone would succeed exactly
when no due device that can be served comes after one that cannot. -/
theorem renewal_complete_iff {blocked : UserId → Bool} {txNow : ℤ} {calls : List ProvisionDevice}
    (hcalls : (calls.map fun call ↦ (call.deviceId, call.nodeId)).Perm
      (dueForLease environment.directory blocked txNow db))
    (htimes : ∀ call ∈ calls, txNow ≤ call.txNow ∧ call.txNow < call.now + 24 * hour) :
    (∀ call ∈ calls, (∃ next, (provisionDevice environment call).run db = .ok next) →
        Served call (provisionAll environment calls db).1) ↔
      calls.Pairwise fun earlier later ↦
        Renewable environment db later → Renewable environment db earlier := by
  have hnodup : (calls.map ProvisionDevice.deviceId).Nodup :=
    calls_nodup (fun row result hresult ↦ (dueForLease_row hresult).1) hcalls
  have hdue : ∀ call ∈ calls, ∃ user device row, DueCall environment db call user device row := by
    intro call hcall
    have hmem := hcalls.mem_iff.mp (List.mem_map_of_mem hcall)
    obtain ⟨⟨found, user⟩, hfound, hrow⟩ := List.mem_filterMap.mp hmem
    obtain ⟨hsame, device, row, hdevice, hunrevoked, hsubscription, hstatus, hexpired⟩ :=
      dueForLease_row hrow
    have howner : environment.directory.owner call.deviceId = some user :=
      environment.directory.owner_of_mem (hsame ▸ hfound)
    refine ⟨user, device, row, howner, hdevice, hunrevoked, hsubscription, hstatus, ?_⟩
    -- What has expired at the scan has expired at the call.
    rw [activeLeases, List.filter_eq_nil_iff] at hexpired ⊢
    intro lease hlease
    have hended := hexpired lease hlease
    have hlater := (htimes call hcall).1
    simp only [decide_eq_true_eq, not_lt] at hended ⊢
    omega
  rw [← provisionAll_served_iff hnodup hdue fun call hcall ↦ (htimes call hcall).2]
  refine forall₂_congr fun call hcall ↦ imp_congr_left ?_
  obtain ⟨user, device, row, hdueCall⟩ := hdue call hcall
  rcases provision_due hdueCall with ⟨hrenewable, next, -, -, hrun, -⟩ | ⟨hnot, failure, hrun⟩
  · exact iff_of_true ⟨next, hrun⟩ hrenewable
  · refine iff_of_false ?_ hnot
    rintro ⟨next, hnext⟩
    cases hrun.symm.trans hnext

def fleetCalls (now : ℤ) : List ProvisionDevice :=
  [fleetCall "phone" now, fleetCall "laptop" now, fleetCall "tablet" now]

def fleetState (used : ℤ) : Database :=
  (runSerially fleetEnvironment (fleetPurchases used) fleetDatabase).toOption.getD fleetDatabase

theorem renewal_complete_fleet :
    Reached fleetEnvironment (fun _ _ ↦ True) fleetDatabase (fleetState 0) ∧
    ((fleetCalls 0).map fun call ↦ (call.deviceId, call.nodeId)).Perm
      (dueForLease fleetEnvironment.directory (fun _ ↦ false) 0 (fleetState 0)) ∧
    ∀ call ∈ fleetCalls 0,
      (∃ next, (provisionDevice fleetEnvironment call).run (fleetState 0) = .ok next) →
        Served call (provisionAll fleetEnvironment (fleetCalls 0) (fleetState 0)).1 := by
  have hreached : Reached fleetEnvironment (fun _ _ ↦ True) fleetDatabase (fleetState 0) :=
    reached_serially (fleetPurchases 0) rfl
  have hcalls : ((fleetCalls 0).map fun call ↦ (call.deviceId, call.nodeId)).Perm
      (dueForLease fleetEnvironment.directory (fun _ ↦ false) 0 (fleetState 0)) := .rfl
  have hall : ∀ call ∈ fleetCalls 0, Renewable fleetEnvironment (fleetState 0) call := by
    simp only [fleetCalls, List.forall_mem_cons, List.not_mem_nil, IsEmpty.forall_iff,
      implies_true, and_true]
    exact ⟨⟨nofun, by decide, "user", rfl, _, rfl, by decide⟩,
      ⟨nofun, by decide, "user", rfl, _, rfl, by decide⟩,
      ⟨nofun, by decide, "other", rfl, _, rfl, by decide⟩⟩
  refine ⟨hreached, hcalls, (renewal_complete_iff hcalls (by decide)).mpr ?_⟩
  exact List.pairwise_of_forall_mem_list fun earlier hearlier _ _ _ ↦ hall earlier hearlier

/-- A renewal run in which a user without quota keeps the device of another user from its lease. -/
theorem renewal_blocked :
    Reached fleetEnvironment (fun _ _ ↦ True) fleetDatabase (fleetState 600000000000) ∧
    ((fleetCalls 0).map fun call ↦ (call.deviceId, call.nodeId)).Perm
      (dueForLease fleetEnvironment.directory (fun _ ↦ false) 0 (fleetState 600000000000)) ∧
    ∃ call ∈ fleetCalls 0,
      (∃ next, (provisionDevice fleetEnvironment call).run (fleetState 600000000000) = .ok next) ∧
        ¬ Served call
          (provisionAll fleetEnvironment (fleetCalls 0) (fleetState 600000000000)).1 := by
  have hreached : Reached fleetEnvironment (fun _ _ ↦ True) fleetDatabase
      (fleetState 600000000000) := reached_serially (fleetPurchases 600000000000) rfl
  refine ⟨hreached, .rfl, fleetCall "tablet" 0, by decide, ⟨_, rfl⟩, ?_⟩
  rintro ⟨lease, upsert, hlease, -⟩
  exact absurd hlease List.not_mem_nil

end RiseVpn.Control
