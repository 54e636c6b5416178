import RiseVpn.Control.Leases
import RiseVpn.Node.Client

/-!
# Delivery of a quota lease to a node

The commands that the controller queues for one device, and what the node has stored when it has
handled them all. `Issued` lists the commands of any sequence of calls of `provisionDevice` and of
resynchronizations for a device, with any changes of the database in between that leave its leases.
`NodeHub.deliver` sends them ordered by their creation; commands of one transaction share it, so a
delivery is any permutation of the queue that is sorted by creation.

`Issued.facts` is what every queue has: its commands are upserts without a lease and signed leases,
and a lease is only issued when the ones before it have expired. `lease_kept_iff` says when the node
ends with the most recent lease: its `quota.lease` must come after the row of the device is there
and after the last `device.upsert`. `lease_dropped` is a reconnect after which the lease is gone.
-/

set_option autoImplicit false

namespace RiseVpn.Fleet

open Control

/-! ### The queue of a device -/

structure Sent where
  createdAt : ℤ
  message : Message

def Sent.lease (sent : Sent) : Option QuotaLease :=
  match sent.message with
  | .quotaLease lease => some lease
  | _ => none

def Sent.IsUpsert (sent : Sent) : Prop := ∃ data, sent.message = .deviceUpsert data

def added (db next : Database) : List Sent :=
  (next.commands.drop db.commands.length).map fun command ↦ ⟨command.createdAt, command.message⟩

variable (environment : Environment) (id : DeviceId) (node : NodeId) in
/-- The leases of a device and the commands queued for it, after calls of `provisionDevice` and
resynchronizations in any order. Between them the database may change in everything but the leases
of the device. A lease has a non-empty id, and the clocks of the database and of the process are
less than a day apart. -/
inductive Issued : List LeaseRow → List Sent → Prop
  | nothing : Issued [] []
  | provision {leases : List LeaseRow} {sent : List Sent} {db next : Database}
      {request : ProvisionDevice} (hbefore : Issued leases sent)
      (hleases : db.leases id = leases) (hdevice : request.deviceId = id)
      (hnode : request.nodeId = node) (hnamed : request.leaseId ≠ "")
      (hclock : request.txNow < request.now + 24 * hour)
      (hrun : (provisionDevice environment request).run db = .ok next) :
      Issued (next.leases id) (sent ++ added db next)
  | resync {leases : List LeaseRow} {sent : List Sent} {db : Database} {blocked : UserId → Bool}
      {createdAt : ℤ} {data : DeviceUpsert} (hbefore : Issued leases sent)
      (hselected : .deviceUpsert data ∈ deviceResync environment.directory blocked node db)
      (hdevice : data.deviceId = id) : Issued leases (sent ++ [⟨createdAt, .deviceUpsert data⟩])

/-- A command of a device: an upsert without a lease, or a signed lease that was created before it
expires. -/
def Regular (environment : Environment) (id : DeviceId) (node : NodeId) (sent : Sent) : Prop :=
  (∃ data : DeviceUpsert, sent.message = .deviceUpsert data ∧ data.deviceId = id ∧
    data.plan.policy ≠ none ∧ data.leaseBytes = 0) ∨
  ∃ key ∈ environment.quotaPrivateKey, ∃ lease : UnsignedLease,
    sent.message = .quotaLease (environment.signatures.signed key lease) ∧ lease.leaseId ≠ "" ∧
    lease.deviceId = id ∧ lease.nodeId = node ∧ 0 < lease.bytes ∧
    lease.expiresAt = lease.issuedAt + 24 * hour ∧ sent.createdAt < lease.expiresAt

structure IssuedFacts (environment : Environment) (id : DeviceId) (node : NodeId)
    (leases : List LeaseRow) (sent : List Sent) : Prop where
  regular : ∀ command ∈ sent, Regular environment id node command
  rows : leases = sent.filterMap fun command ↦ command.lease.map QuotaLease.row
  ordered : sent.Pairwise fun earlier later ↦ ∀ old ∈ earlier.lease, later.lease ≠ none →
    old.expiresAt ≤ later.createdAt

variable {environment : Environment} {id : DeviceId} {node : NodeId} {leases : List LeaseRow}
  {sent : List Sent} {db next : Database}

theorem added_enqueue (db middle : Database) {createdAt : ℤ} {rows : List (NodeId × Message)}
    (hcommands : middle.commands = db.commands) :
    added db (middle.enqueue createdAt rows) = rows.map fun row ↦ ⟨createdAt, row.2⟩ := by
  unfold added Database.enqueue
  rw [hcommands, List.drop_left]
  exact List.ext_getElem (by simp) fun i _ _ ↦ by simp [Database.newCommand]

theorem expired_of_reservedBytes {txNow : ℤ}
    (hwhole : ∀ lease ∈ leases, lease.consumedBytes = 0 ∧ 0 < lease.bytes)
    (hreserved : reservedBytes txNow leases ≤ 0) : ∀ lease ∈ leases, lease.expiresAt ≤ txNow := by
  intro lease hlease
  by_contra hunexpired
  have hactive : lease.bytes ∈ (activeLeases txNow leases).map LeaseRow.bytes :=
    List.mem_map_of_mem (List.mem_filter.mpr ⟨hlease, by simpa using hunexpired⟩)
  have hnonneg : ∀ bytes ∈ (activeLeases txNow leases).map LeaseRow.bytes, 0 ≤ bytes := by
    intro bytes hbytes
    obtain ⟨other, hother, rfl⟩ := List.mem_map.mp hbytes
    exact (hwhole other (List.mem_of_mem_filter hother)).2.le
  have hsum := List.single_le_sum hnonneg _ hactive
  rw [reservedBytes_eq fun other hother ↦ ⟨(hwhole other hother).1, (hwhole other hother).2.le⟩,
    leasedBytes] at hreserved
  have := (hwhole lease hlease).2
  omega

theorem IssuedFacts.whole (hfacts : IssuedFacts environment id node leases sent) :
    ∀ lease ∈ leases, lease.consumedBytes = 0 ∧ 0 < lease.bytes := by
  intro lease hlease
  rw [hfacts.rows] at hlease
  obtain ⟨command, hcommand, hrow⟩ := List.mem_filterMap.mp hlease
  obtain ⟨found, hfound, rfl⟩ := Option.map_eq_some_iff.mp hrow
  refine ⟨rfl, ?_⟩
  rcases hfacts.regular command hcommand with
    ⟨data, hmessage, -⟩ | ⟨_, _, _, hmessage, _, _, _, hbytes, _⟩
  · rw [Sent.lease, hmessage] at hfound
    cases hfound
  · rw [Sent.lease, hmessage] at hfound
    cases hfound
    exact hbytes

theorem regular_upsert (createdAt : ℤ) (device : DeviceRow) (row : Subscription) :
    Regular environment id node ⟨createdAt, upsertMessage id device row⟩ := by
  obtain ⟨policy, hpolicy, -⟩ := policy_of_code row.planCode
  exact .inl ⟨_, rfl, rfl, by simp [hpolicy]⟩

theorem IssuedFacts.append (hfacts : IssuedFacts environment id node leases sent) (command : Sent)
    (hregular : Regular environment id node command)
    (hexpired : command.lease ≠ none → ∀ old ∈ leases, old.expiresAt ≤ command.createdAt) :
    IssuedFacts environment id node (leases ++ (command.lease.map QuotaLease.row).toList)
      (sent ++ [command]) := by
  refine ⟨?_, ?_, ?_⟩
  · intro other hother
    rcases List.mem_append.mp hother with hold | hnew
    · exact hfacts.regular other hold
    · rw [List.mem_singleton.mp hnew]
      exact hregular
  · rw [List.filterMap_append, ← hfacts.rows]
    cases hlease : command.lease <;> simp [hlease]
  · refine List.pairwise_append.mpr ⟨hfacts.ordered, List.pairwise_singleton _ _, ?_⟩
    intro earlier hearlier later hlater old hold hsome
    rw [List.mem_singleton.mp hlater] at hsome ⊢
    refine hexpired hsome (QuotaLease.row old) ?_
    rw [hfacts.rows]
    refine List.mem_filterMap.mpr ⟨earlier, hearlier, ?_⟩
    rw [Option.mem_def.mp hold, Option.map_some]

theorem Issued.facts (hissued : Issued environment id node leases sent) :
    IssuedFacts environment id node leases sent := by
  induction hissued with
  | nothing => exact ⟨by simp, rfl, .nil⟩
  | @provision leases sent db next request _ hleases hdevice hnode hnamed hclock hrun hfacts =>
    subst hdevice hnode hleases
    cases run_provisionDevice hrun with
    | refreshed =>
      rw [added_enqueue db db rfl]
      simpa [Sent.lease, upsertMessage] using
        hfacts.append ⟨request.txNow, upsertMessage _ _ _⟩ (regular_upsert _ _ _) (absurd rfl)
    | @leased key _ device row grant hkey _ _ _ _ hactive hgrant hsome =>
      rw [added_enqueue db (db.setLeases _ _) rfl, Database.leases_enqueue,
        Database.leases_setLeases]
      have hbytes : 0 < grant := by
        have := reservableBytes_nonneg row.remaining
          (reservedBytes request.txNow (db.leases request.deviceId)) 1000000000
        omega
      have hexpired := expired_of_reservedBytes hfacts.whole hactive
      have hupserted := hfacts.append ⟨request.txNow, upsertMessage _ device row⟩
        (regular_upsert _ _ _) (absurd rfl)
      have hregular : Regular environment request.deviceId request.nodeId
          ⟨request.txNow, .quotaLease (issuedLease environment key request grant)⟩ :=
        .inr ⟨key, hkey, _, rfl, hnamed, rfl, rfl, hbytes, rfl, hclock⟩
      simpa [Sent.lease, upsertMessage] using hupserted.append _ hregular fun _ ↦ by
        simpa [Sent.lease, upsertMessage] using hexpired
  | @resync leases sent db blocked createdAt data _ hselected hdevice hfacts =>
    obtain ⟨found, user, device, row, -, -, -, -, hmessage⟩ := mem_deviceResync hselected
    cases hmessage
    cases hdevice
    simpa [Sent.lease, upsertMessage] using
      hfacts.append ⟨createdAt, upsertMessage _ device row⟩ (regular_upsert _ _ _) (absurd rfl)

/-! ### Delivery to the node -/

/-- A node that is ready for the commands of a device: it checks leases with the controller's public
key, knows its own id, and no other device of it has one of the credential hashes. -/
structure NodeReady (environment : Environment) (integrations : Integrations) (store : Store)
    (id : DeviceId) (node : NodeId) (sent : List Sent) : Prop where
  signatures : integrations.signatures = environment.signatures
  quotaKey : ∀ key ∈ environment.quotaPrivateKey,
    store.quotaKey = some (environment.signatures.publicKey key)
  nodeId : store.state "node_id" = some node
  named : id ≠ "" ∧ node ≠ ""
  credentials : ∀ command ∈ sent, ∀ data, command.message = .deviceUpsert data →
    data.credentialHash ≠ "" ∧ ∀ other, other ≠ id → ∀ row, store.storedById other = some row →
      row.credentialHash ≠ data.credentialHash

def delivered (deliveries : List (Sent × ℤ)) : List (Message × ℤ) :=
  deliveries.map fun delivery ↦ (delivery.1.message, delivery.2)

section Delivery

variable {integrations : Integrations} {start store : Store} {command : Sent} {time : ℤ}
  {deliveries : List (Sent × ℤ)}

theorem handle_onlyDevice (hregular : Regular environment id node command) :
    OnlyDevice id store (handle integrations store command.message time).1 := by
  rcases hregular with ⟨data, hmessage, rfl, -⟩ | ⟨key, _, lease, hmessage, -, rfl, -⟩
  · rw [hmessage]
    exact handle_deviceUpsert_onlyDevice data
  · rw [hmessage]
    exact handle_quotaLease_onlyDevice (environment.signatures.signed key lease)

theorem handleAll_onlyDevice
    (hregular : ∀ delivery ∈ deliveries, Regular environment id node delivery.1) :
    OnlyDevice id store (handleAll integrations store (delivered deliveries)) := by
  induction deliveries generalizing store with
  | nil => exact .refl _ _
  | cons delivery rest ih =>
    exact (handle_onlyDevice (hregular delivery List.mem_cons_self)).trans
      (ih fun other hother ↦ hregular other (List.mem_cons_of_mem _ hother))

theorem NodeReady.upsert (hready : NodeReady environment integrations start id node sent)
    (honly : OnlyDevice id start store) (hcommand : command ∈ sent)
    (hregular : Regular environment id node command) (hupsert : command.IsUpsert) (time : ℤ) :
    ∃ row, (handle integrations store command.message time).1.storedById id = some row ∧
      row.leaseBytes = 0 := by
  obtain ⟨data, hdata⟩ := hupsert
  obtain ⟨found, hmessage, hdevice, hplan, hnone⟩ | ⟨_, _, _, hmessage, _⟩ := hregular
  · cases hdata.symm.trans hmessage
    obtain ⟨hhash, hother⟩ := hready.credentials command hcommand data hdata
    have hfree : store.CredentialFree data.device := by
      refine Store.credentialFree_iff.mpr fun other hne row hrow ↦ ?_
      have hne : other ≠ id := hdevice ▸ hne
      rw [honly.others other hne] at hrow
      exact hother other hne row hrow
    rw [hdata, ← hdevice]
    refine ⟨_, storedById_handle_deviceUpsert (hdevice ▸ hready.named.1) hhash hplan hfree, ?_⟩
    cases store.storedById data.deviceId <;> exact hnone
  · cases hdata.symm.trans hmessage

theorem handle_lease_stored (lease : QuotaLease) (hdevice : lease.deviceId = id) :
    (handle integrations store (.quotaLease lease) time).1.storedById id ≠ none ↔
      store.storedById id ≠ none := by
  subst hdevice
  rcases handle_quotaLease_cases integrations store lease time with hsame | ⟨row, hrow, hwritten⟩
  · rw [hsame]
  · have hid : ((Store.scanDevice row).withLease lease).id = lease.deviceId :=
      Store.storedById_id hrow
    have hstored := Store.storedById_upsertDevice hwritten
    rw [hid] at hstored
    simp [hstored, hrow]

theorem NodeReady.stored_iff (hready : NodeReady environment integrations start id node sent)
    (honly : OnlyDevice id start store)
    (hsent : ∀ delivery ∈ deliveries, delivery.1 ∈ sent)
    (hregular : ∀ command ∈ sent, Regular environment id node command) :
    (handleAll integrations store (delivered deliveries)).storedById id ≠ none ↔
      store.storedById id ≠ none ∨ ∃ delivery ∈ deliveries, delivery.1.IsUpsert := by
  induction deliveries generalizing store with
  | nil => simp [handleAll, delivered]
  | cons delivery rest ih =>
    have hcommand := hsent delivery List.mem_cons_self
    have hnext : OnlyDevice id start (handle integrations store delivery.1.message delivery.2).1 :=
      honly.trans (handle_onlyDevice (hregular _ hcommand))
    have hrest := ih hnext fun other hother ↦ hsent other (List.mem_cons_of_mem _ hother)
    refine hrest.trans ?_
    rw [List.exists_mem_cons_iff, ← or_assoc]
    refine or_congr_left ?_
    by_cases hupsert : delivery.1.IsUpsert
    · obtain ⟨row, hrow, -⟩ := hready.upsert honly hcommand (hregular _ hcommand) hupsert delivery.2
      simp [hrow, hupsert]
    · rcases hregular _ hcommand with ⟨data, hmessage, -⟩ | ⟨key, _, lease, hmessage, -, hdevice, -⟩
      · exact absurd ⟨data, hmessage⟩ hupsert
      · rw [hmessage]
        simpa [hupsert] using
          handle_lease_stored (environment.signatures.signed key lease) hdevice

def LastLease (sent : List Sent) (createdAt : ℤ) (lease : QuotaLease) : Prop :=
  ∃ earlier later, sent = earlier ++ ⟨createdAt, .quotaLease lease⟩ :: later ∧
    ∀ command ∈ later, command.lease = none

theorem IssuedFacts.after_lease (hfacts : IssuedFacts environment id node leases sent)
    {createdAt : ℤ} {lease : QuotaLease} (hlast : LastLease sent createdAt lease)
    {before after : List (Sent × ℤ)}
    (hperm : ((before ++ (⟨createdAt, .quotaLease lease⟩, time) :: after).map Prod.fst).Perm sent)
    (hsorted : (before ++ (⟨createdAt, .quotaLease lease⟩, time) :: after).Pairwise
      fun first second ↦ first.1.createdAt ≤ second.1.createdAt) :
    ∀ delivery ∈ after, delivery.1.IsUpsert := by
  intro delivery hdelivery
  obtain ⟨earlier, later, rfl, hlater⟩ := hlast
  -- The other commands of the delivery are the other commands of the queue.
  have hothers : ((before ++ after).map Prod.fst).Perm (earlier ++ later) := by
    rw [List.map_append, List.map_cons] at hperm
    rw [List.map_append]
    exact List.Perm.cons_inv
      ((List.perm_middle.symm.trans hperm).trans List.perm_middle)
  have hmem : delivery.1 ∈ earlier ++ later := by
    refine hothers.mem_iff.mp (List.mem_map_of_mem ?_)
    exact List.mem_append_right _ hdelivery
  have hcreated : createdAt ≤ delivery.1.createdAt :=
    (List.pairwise_cons.mp (List.pairwise_append.mp hsorted).2.1).1 delivery hdelivery
  have hregular := hfacts.regular delivery.1 (by
    rw [List.mem_append] at hmem ⊢
    exact hmem.imp_right (List.mem_cons_of_mem _))
  rcases hregular with ⟨data, hmessage, -⟩ | ⟨key, _, old, hmessage, -, -, -, -, -, hcreatedOld⟩
  · exact ⟨data, hmessage⟩
  · have hold : delivery.1.lease = some (environment.signatures.signed key old) := by
      rw [Sent.lease, hmessage]
    rcases List.mem_append.mp hmem with hearlier | hafter
    · -- An older lease had expired when the most recent one was created.
      have hexpired : old.expiresAt ≤ createdAt :=
        (List.pairwise_append.mp hfacts.ordered).2.2 delivery.1 hearlier _ List.mem_cons_self _ hold
          (by simp [Sent.lease])
      omega
    · rw [hlater delivery.1 hafter] at hold
      cases hold

theorem NodeReady.accepts (hready : NodeReady environment integrations start id node sent)
    (honly : OnlyDevice id start store) {createdAt : ℤ} {lease : QuotaLease}
    (hregular : Regular environment id node ⟨createdAt, .quotaLease lease⟩)
    (hunexpired : time < lease.expiresAt) (hstarted : lease.issuedAt ≤ time + 5 * minute) :
    LeaseAccepted integrations store lease time ∧ lease.deviceId = id ∧ 0 < lease.bytes := by
  rcases hregular with ⟨_, hmessage, -⟩ | ⟨key, hkey, unsigned, hmessage, hnamed, rfl, rfl, hbytes,
    hexpires, -⟩
  · cases hmessage
  · cases hmessage
    refine ⟨⟨⟨environment.signatures.publicKey key, ?_, ?_, ?_⟩, ?_⟩, rfl, hbytes⟩
    · rw [Store.quotaKey, honly.state]
      exact hready.quotaKey key hkey
    · rw [hready.signatures]
      exact environment.signatures.isPublicKey_publicKey key
    · rw [hready.signatures]
      refine QuotaLease.verify_signed _ key hnamed hready.named.1 hready.named.2 hbytes.le
        hunexpired hstarted ?_
      omega
    · rw [honly.state, hready.nodeId]
      rfl

theorem handleAll_concat (deliveries : List (Sent × ℤ)) (last : Sent × ℤ) :
    handleAll integrations store (delivered (deliveries ++ [last])) =
      (handle integrations (handleAll integrations store (delivered deliveries)) last.1.message
        last.2).1 := by
  simp [handleAll, delivered, List.foldl_append]

/-- Assumes: the queue of a device, a delivery of it sorted by creation to a node that is ready, and
the most recent lease handled inside its validity. The node ends with that lease exactly when the
device had a row or an upsert came before the lease, and none came after it. -/
theorem lease_kept_iff (hissued : Issued environment id node leases sent) {createdAt : ℤ}
    {lease : QuotaLease} (hlast : LastLease sent createdAt lease) {before after : List (Sent × ℤ)}
    (hperm : ((before ++ (⟨createdAt, .quotaLease lease⟩, time) :: after).map Prod.fst).Perm sent)
    (hsorted : (before ++ (⟨createdAt, .quotaLease lease⟩, time) :: after).Pairwise
      fun first second ↦ first.1.createdAt ≤ second.1.createdAt)
    (hready : NodeReady environment integrations store id node sent)
    (hunexpired : time < lease.expiresAt) (hstarted : lease.issuedAt ≤ time + 5 * minute) :
    ((handleAll integrations store (delivered
        (before ++ (⟨createdAt, .quotaLease lease⟩, time) :: after))).storedById id).map
          (fun row ↦ (row.leaseBytes, row.leaseExpires)) =
            some (lease.bytes, unix lease.expiresAt) ↔
      (store.storedById id ≠ none ∨ ∃ delivery ∈ before, delivery.1.IsUpsert) ∧
        ∀ delivery ∈ after, ¬ delivery.1.IsUpsert := by
  have hfacts := hissued.facts
  have hupserts := hfacts.after_lease hlast hperm hsorted
  have hsent : ∀ delivery ∈ before ++ (⟨createdAt, .quotaLease lease⟩, time) :: after,
      delivery.1 ∈ sent := fun delivery hdelivery ↦ hperm.mem_iff.mp (List.mem_map_of_mem hdelivery)
  have hbefore : ∀ delivery ∈ before, delivery.1 ∈ sent := fun delivery hdelivery ↦
    hsent delivery (List.mem_append_left _ hdelivery)
  have honly : OnlyDevice id store (handleAll integrations store (delivered before)) :=
    handleAll_onlyDevice fun delivery hdelivery ↦ hfacts.regular _ (hbefore delivery hdelivery)
  have hstored := hready.stored_iff (.refl id store) hbefore hfacts.regular
  have hlease : (⟨createdAt, .quotaLease lease⟩ : Sent) ∈ sent :=
    hsent _ (List.mem_append_right _ List.mem_cons_self)
  rcases List.eq_nil_or_concat' after with rfl | ⟨rest, last, rfl⟩
  · -- The lease is handled last.
    obtain ⟨haccepted, rfl, -⟩ := hready.accepts honly (hfacts.regular _ hlease) hunexpired hstarted
    rw [handleAll_concat, ← hstored]
    cases hrow : (handleAll integrations store (delivered before)).storedById lease.deviceId with
    | none =>
      rw [handle_quotaLease_missing hrow, hrow]
      simp
    | some row =>
      rw [storedById_handle_quotaLease haccepted hrow]
      simp [Store.leasedRow]
  · -- The last command is an upsert, which has no lease.
    have hlastUpsert : last.1.IsUpsert := hupserts last (by simp)
    obtain ⟨-, -, hbytes⟩ := hready.accepts honly (hfacts.regular _ hlease) hunexpired hstarted
    have hcommand : last.1 ∈ sent := hsent last (by simp)
    have hall : OnlyDevice id store (handleAll integrations store (delivered
        (before ++ (⟨createdAt, .quotaLease lease⟩, time) :: rest))) :=
      handleAll_onlyDevice fun delivery hdelivery ↦ hfacts.regular _ (hsent delivery (by
        simp only [List.mem_append, List.mem_cons] at hdelivery ⊢
        tauto))
    obtain ⟨row, hrow, hzero⟩ :=
      hready.upsert hall hcommand (hfacts.regular _ hcommand) hlastUpsert last.2
    have hconcat : before ++ (⟨createdAt, .quotaLease lease⟩, time) :: (rest ++ [last]) =
        (before ++ (⟨createdAt, .quotaLease lease⟩, time) :: rest) ++ [last] := by simp
    rw [hconcat, handleAll_concat, hrow]
    refine iff_of_false ?_ fun hnone ↦ hnone.2 last (by simp) hlastUpsert
    simp only [Option.map_some, Option.some.injEq, Prod.mk.injEq, hzero]
    omega

end Delivery

/-! ### A reconnect -/

def trialDatabase : Database :=
  (runSerially soloEnvironment [.bindDevice ⟨"device", "fingerprint", true, false, 0, 0⟩]
    soloDatabase).toOption.getD soloDatabase

def provisionedDatabase : Database :=
  (runSerially soloEnvironment [.provisionDevice ⟨"device", "node", 0, 0, "lease"⟩]
    trialDatabase).toOption.getD trialDatabase

def trialUpsert : DeviceUpsert :=
  ⟨"device", "hash", .code .trial, true, 3 * day, 3 * day, 20000000000, 0, zeroTime⟩

def trialLease : QuotaLease :=
  textSignatures.signed "key" ⟨"lease", "device", "node", 1000000000, 0, 24 * hour, "quota-v1"⟩

def trialQueue : List Sent := [⟨0, .deviceUpsert trialUpsert⟩, ⟨0, .quotaLease trialLease⟩]

theorem trialQueue_issued :
    Issued soloEnvironment "device" "node" (provisionedDatabase.leases "device") trialQueue := by
  have hrun : (provisionDevice soloEnvironment ⟨"device", "node", 0, 0, "lease"⟩).run
      trialDatabase = .ok provisionedDatabase := rfl
  exact .provision .nothing rfl rfl rfl (by decide) (by decide) hrun

theorem soloStore_ready {sent : List Sent} (hsent : ∀ command ∈ sent, ∀ data,
    command.message = .deviceUpsert data → data = trialUpsert) :
    NodeReady soloEnvironment soloIntegrations soloStore "device" "node" sent := by
  refine ⟨rfl, ?_, rfl, by decide, ?_⟩
  · rintro key hkey
    cases hkey
    rfl
  · intro command hcommand data hdata
    rw [hsent command hcommand data hdata]
    refine ⟨by decide, fun other _ row hrow ↦ ?_⟩
    cases hrow

theorem lease_kept_first :
    ((handleAll soloIntegrations soloStore
        [(.deviceUpsert trialUpsert, 1), (.quotaLease trialLease, 1)]).storedById "device").map
          (fun row ↦ (row.leaseBytes, row.leaseExpires)) = some (1000000000, 86400) := by
  have hlast : LastLease trialQueue 0 trialLease :=
    ⟨[⟨0, .deviceUpsert trialUpsert⟩], [], rfl, by simp⟩
  have hready : NodeReady soloEnvironment soloIntegrations soloStore "device" "node" trialQueue :=
    soloStore_ready (by simp [trialQueue])
  let first : Sent := ⟨0, .deviceUpsert trialUpsert⟩
  let second : Sent := ⟨0, .quotaLease trialLease⟩
  have hperm : (([(first, (1 : ℤ))] ++ (second, 1) :: []).map Prod.fst).Perm trialQueue := .rfl
  exact (lease_kept_iff trialQueue_issued hlast hperm (by simp [first]) hready (by decide)
    (by decide)).mpr ⟨.inr ⟨_, List.mem_singleton_self _, _, rfl⟩, by simp⟩

/-- The node reconnects after it was sent the lease of its device, and the resynchronization drops
the lease. -/
theorem lease_dropped : ∃ leases sent before after,
    Issued soloEnvironment "device" "node" leases sent ∧ LastLease sent 0 trialLease ∧
    ((before ++ (⟨0, .quotaLease trialLease⟩, 1) :: after).map Prod.fst).Perm sent ∧
    (before ++ (⟨0, .quotaLease trialLease⟩, 1) :: after).Pairwise
      (fun first second ↦ first.1.createdAt ≤ second.1.createdAt) ∧
    NodeReady soloEnvironment soloIntegrations soloStore "device" "node" sent ∧
    (1 < trialLease.expiresAt ∧ trialLease.issuedAt ≤ 1 + 5 * minute) ∧
    ¬ ((handleAll soloIntegrations soloStore (delivered
        (before ++ (⟨0, .quotaLease trialLease⟩, 1) :: after))).storedById "device").map
          (fun row ↦ (row.leaseBytes, row.leaseExpires)) =
            some (trialLease.bytes, unix trialLease.expiresAt) := by
  have hselected : .deviceUpsert trialUpsert ∈
      deviceResync soloEnvironment.directory (fun _ ↦ false) "node" provisionedDatabase := by
    exact List.mem_singleton_self _
  refine ⟨_, trialQueue ++ [⟨1, .deviceUpsert trialUpsert⟩], [(⟨0, .deviceUpsert trialUpsert⟩, 1)],
    [(⟨1, .deviceUpsert trialUpsert⟩, 2)], .resync trialQueue_issued hselected rfl,
    ⟨[⟨0, .deviceUpsert trialUpsert⟩], [⟨1, .deviceUpsert trialUpsert⟩], rfl, by simp [Sent.lease]⟩,
    .rfl, by simp, soloStore_ready (by simp [trialQueue]), by decide, ?_⟩
  decide

end RiseVpn.Fleet
