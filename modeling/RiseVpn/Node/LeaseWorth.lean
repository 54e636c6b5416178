import Mathlib.Algebra.Order.BigOperators.Group.List
import RiseVpn.Node.Client

/-!
# What a quota lease is worth on a node

The controller grants a lease as a number of further bytes. The node compares the size of the lease
with the bytes the device has used in the whole period, and takes a size of zero for no lease at
all.

`lease_worth_iff` says when the two readings agree, for any row a lease is applied to and any
traffic recorded after it: on a device that has used nothing, or when the quota of the plan ends the
comparison first. `lease_worth_second` is a second lease of a period, which is worth less than it
says.
-/

set_option autoImplicit false

namespace RiseVpn

/-! ### Recorded traffic -/

/-- The traffic of one call of `AddUsage`. -/
structure Usage where
  txBytes : ℤ
  rxBytes : ℤ
  now : ℤ

def recordUsage (id : DeviceId) : Store → List Usage → Except String Store
  | store, [] => .ok store
  | store, usage :: rest =>
    match store.addUsage id usage.txBytes usage.rxBytes usage.now with
    | .error message => .error message
    | .ok (_, next) => recordUsage id next rest

def recordedBytes (usages : List Usage) : ℤ :=
  (usages.map fun usage ↦ usage.txBytes + usage.rxBytes).sum

theorem recordedBytes_nonneg {usages : List Usage}
    (husages : ∀ usage ∈ usages, 0 ≤ usage.txBytes ∧ 0 ≤ usage.rxBytes) :
    0 ≤ recordedBytes usages := by
  refine List.sum_nonneg fun bytes hbytes ↦ ?_
  obtain ⟨usage, husage, rfl⟩ := List.mem_map.mp hbytes
  have := husages usage husage
  omega

/-- A sum that stays in range is counted as it is: if the bytes of a call wrapped around, the
counter would leave the range and the call fail. -/
theorem counted_exact {used bytes : ℤ} (hused : Int64Range used) (hbytes : 0 ≤ bytes)
    (hbelow : used + bytes < 2 ^ 63) (hcounted : Int64Range (used + wrap64 bytes)) :
    used + wrap64 bytes = used + bytes := by
  unfold Int64Range at hused hcounted
  unfold wrap64 at hcounted ⊢
  rw [Int.bmod_def] at hcounted ⊢
  omega

theorem recordUsage_row {store next : Store} {id : DeviceId} {row : StoredDevice}
    {usages : List Usage} (hrow : store.storedById id = some row) (hused : Int64Range row.usedBytes)
    (husages : ∀ usage ∈ usages, 0 ≤ usage.txBytes ∧ 0 ≤ usage.rxBytes)
    (hbelow : row.usedBytes + recordedBytes usages < 2 ^ 63)
    (hnext : recordUsage id store usages = .ok next) :
    next.storedById id = some (Store.usedRow (row.usedBytes + recordedBytes usages) row) := by
  induction usages generalizing store row with
  | nil =>
    cases hnext
    simpa [recordedBytes, Store.usedRow] using hrow
  | cons usage rest ih =>
    obtain ⟨⟨htx, hrx⟩, hrest⟩ := List.forall_mem_cons.mp husages
    have hlater := recordedBytes_nonneg hrest
    have hsum : recordedBytes (usage :: rest) =
        usage.txBytes + usage.rxBytes + recordedBytes rest := rfl
    unfold recordUsage at hnext
    cases hcall : store.addUsage id usage.txBytes usage.rxBytes usage.now with
    | error message =>
      rw [hcall] at hnext
      cases hnext
    | ok counted =>
      rw [hcall] at hnext
      obtain ⟨-, found, hfound, husedEq, hrange⟩ := Store.addUsage_recorded hcall
      cases hrow.symm.trans hfound
      rw [husedEq] at hrange
      have hexact : (Store.countedRow (usage.txBytes + usage.rxBytes) row).usedBytes =
          row.usedBytes + (usage.txBytes + usage.rxBytes) :=
        counted_exact hused (by omega) (by omega) hrange
      have hstored : counted.2.storedById id =
          some (Store.countedRow (usage.txBytes + usage.rxBytes) row) := by
        rw [Store.storedById_addUsage hcall, if_pos rfl, hrow, Option.map_some]
      rw [ih hstored hrange hrest (by omega) hnext, hexact, hsum, Int.add_assoc]
      rfl

/-! ### The worth of a lease -/

/-- A lease is applied at `now` to the row of an active device with a known plan and a running
subscription. The credential is the one the device presents, the lease is inside the whole seconds
the node keeps of its expiry, and the byte counts are `int64`. -/
structure LeaseApplied (integrations : Integrations) (hash : String → String) (store : Store)
    (lease : QuotaLease) (credential : String) (now : ℤ) (row : StoredDevice) (base : PlanPolicy) :
    Prop where
  found : store.storedById lease.deviceId = some row
  active : row.active = true
  current : now < ofUnix row.subscriptionEnds
  known : row.plan.policy = some base
  accepted : LeaseAccepted integrations store lease now
  running : now < ofUnix (unix lease.expiresAt)
  presented : credential ≠ ""
  matching : row.credentialHash = hash credential
  counts : Int64Range row.usedBytes ∧ Int64Range row.quotaBytes ∧ Int64Range lease.bytes

/-- From `now` on, while the subscription and the lease run and the quota is not used up, both gates
admit the device exactly as long as less than the bytes of the lease were recorded. -/
def WorthItsBytes (hash : String → String) (store : Store) (lease : QuotaLease)
    (credential : String) (now : ℤ) (row : StoredDevice) (quota : ℤ) : Prop :=
  ∀ (usages : List Usage) (next : Store) (time : ℤ),
    (∀ usage ∈ usages, 0 ≤ usage.txBytes ∧ 0 ≤ usage.rxBytes) →
    recordUsage lease.deviceId store usages = .ok next → now ≤ time →
    time < ofUnix row.subscriptionEnds → time < ofUnix (unix lease.expiresAt) →
    row.usedBytes + recordedBytes usages < quota →
      ((authenticate hash next credential time).ok = true ↔ recordedBytes usages < lease.bytes) ∧
      ∀ device ∈ next.deviceById lease.deviceId,
        (allowed device time = true ↔ recordedBytes usages < lease.bytes)

/-- When the node's comparison of all used bytes agrees with one of the bytes since the lease. -/
def ComparisonExact (used bytes quota : ℤ) : Prop :=
  quota ≤ used ∨ (0 < bytes ∧
    (used = 0 ∨ (0 < used ∧ quota ≤ bytes) ∨ (used < 0 ∧ quota ≤ used + bytes)))

theorem comparisonExact_of_agree {used bytes quota : ℤ} (hbytes : 0 ≤ bytes)
    (hagree : ∀ recorded, 0 ≤ recorded → recorded ≤ bytes → used + recorded < quota →
      ((bytes ≤ 0 ∨ used + recorded < bytes) ↔ recorded < bytes)) :
    ComparisonExact used bytes quota := by
  unfold ComparisonExact
  by_contra hnot
  -- The first recording at which the two comparisons differ.
  rcases lt_trichotomy used 0 with hused | hused | hused
  · have := hagree bytes hbytes
    omega
  · have := hagree 0 (by omega)
    omega
  · have := hagree (max 0 (bytes - used)) (by omega)
    omega

theorem ComparisonExact.agree {used bytes quota recorded : ℤ} (hbytes : 0 ≤ bytes)
    (hexact : ComparisonExact used bytes quota) (hrecorded : 0 ≤ recorded)
    (hquota : used + recorded < quota) :
    (bytes ≤ 0 ∨ used + recorded < bytes) ↔ recorded < bytes := by
  unfold ComparisonExact at hexact
  omega

section Worth

variable {integrations : Integrations} {hash : String → String} {store : Store} {lease : QuotaLease}
  {credential : String} {now : ℤ} {row : StoredDevice} {base : PlanPolicy}

section

variable (happlied : LeaseApplied integrations hash store lease credential now row base)

include happlied

theorem LeaseApplied.quota_lt : (Store.scanDevice row).effectiveQuota base < 2 ^ 63 := by
  have hplan : base.quotaBytes < 2 ^ 63 := policy_quota_lt happlied.known
  unfold Device.effectiveQuota
  split_ifs
  · exact hplan
  · exact happlied.counts.2.1.2

theorem LeaseApplied.admitted_iff
    {usages : List Usage} {next : Store} {time : ℤ}
    (husages : ∀ usage ∈ usages, 0 ≤ usage.txBytes ∧ 0 ≤ usage.rxBytes)
    (hnext : recordUsage lease.deviceId (handle integrations store (.quotaLease lease) now).1
      usages = .ok next)
    (hcurrent : time < ofUnix row.subscriptionEnds)
    (hrunning : time < ofUnix (unix lease.expiresAt))
    (hquota : row.usedBytes + recordedBytes usages < (Store.scanDevice row).effectiveQuota base) :
    ((authenticate hash next credential time).ok = true ↔
      lease.bytes ≤ 0 ∨ row.usedBytes + recordedBytes usages < lease.bytes) ∧
    ∀ device ∈ next.deviceById lease.deviceId, (allowed device time = true ↔
      lease.bytes ≤ 0 ∨ row.usedBytes + recordedBytes usages < lease.bytes) := by
  have hstored : next.storedById lease.deviceId = some (Store.usedRow
      (row.usedBytes + recordedBytes usages) (Store.leasedRow lease.bytes lease.expiresAt row)) :=
    recordUsage_row (storedById_handle_quotaLease happlied.accepted happlied.found)
      happlied.counts.1 husages (hquota.trans happlied.quota_lt) hnext
  have hgate : allowed (Store.scanDevice (Store.usedRow (row.usedBytes + recordedBytes usages)
      (Store.leasedRow lease.bytes lease.expiresAt row))) time = true ↔
        lease.bytes ≤ 0 ∨ row.usedBytes + recordedBytes usages < lease.bytes := by
    rw [allowed_iff]
    constructor
    · rintro ⟨-, -, found, hfound, ⟨hexhausted, -⟩ | ⟨-, hlease⟩⟩
      · cases happlied.known.symm.trans hfound
        exact absurd hquota (Int.not_lt.mpr hexhausted)
      · exact hlease.imp_right And.right
    · intro hlease
      exact ⟨happlied.active, hcurrent, base, happlied.known,
        .inr ⟨hquota, hlease.imp_right fun hless ↦ ⟨hrunning, hless⟩⟩⟩
  constructor
  · rw [authenticate_of_stored happlied.presented hstored happlied.matching,
      authenticateDevice_ok, hgate]
  · intro device hdevice
    rw [Store.deviceById, hstored] at hdevice
    cases hdevice
    exact hgate

theorem LeaseApplied.recordable {recorded : ℤ} (hrecorded : 0 ≤ recorded)
    (hle : recorded ≤ lease.bytes)
    (hquota : row.usedBytes + recorded < (Store.scanDevice row).effectiveQuota base) :
    ∃ next, recordUsage lease.deviceId (handle integrations store (.quotaLease lease) now).1
      [⟨recorded, 0, now⟩] = .ok next := by
  obtain ⟨hused, -, hbytes⟩ := happlied.counts
  have hbelow := hquota.trans happlied.quota_lt
  have hfits : Int64Range (Store.countedRow (recorded + 0)
      (Store.leasedRow lease.bytes lease.expiresAt row)).usedBytes := by
    change Int64Range (row.usedBytes + wrap64 (recorded + 0))
    unfold Int64Range at hused hbytes ⊢
    rw [Int.add_zero, wrap64_of_range ⟨by omega, by omega⟩]
    omega
  obtain ⟨next, hnext, -⟩ := Store.addUsage_ok
    (storedById_handle_quotaLease happlied.accepted happlied.found) hfits now
  refine ⟨next, ?_⟩
  simp only [recordUsage, hnext]

end

/-- Assumes: a lease applied to the row of an active device with a running subscription. It is worth
exactly its bytes if and only if the node's comparison is exact: the quota was used up already, or
the lease has bytes and the device had used nothing or the quota of the plan ends the comparison
first. -/
theorem lease_worth_iff
    (happlied : LeaseApplied integrations hash store lease credential now row base) :
    WorthItsBytes hash (handle integrations store (.quotaLease lease) now).1 lease credential now
        row ((Store.scanDevice row).effectiveQuota base) ↔
      ComparisonExact row.usedBytes lease.bytes ((Store.scanDevice row).effectiveQuota base) := by
  obtain ⟨key, -, -, hverify⟩ := happlied.accepted.verified
  have hbytes := QuotaLease.bytes_nonneg hverify
  constructor
  · intro hworth
    refine comparisonExact_of_agree hbytes fun recorded hrecorded hle hquota ↦ ?_
    have hone : recordedBytes [⟨recorded, 0, now⟩] = recorded := by simp [recordedBytes]
    have husages : ∀ usage ∈ [(⟨recorded, 0, now⟩ : Usage)],
        0 ≤ usage.txBytes ∧ 0 ≤ usage.rxBytes := by simpa using hrecorded
    obtain ⟨next, hnext⟩ := happlied.recordable hrecorded hle hquota
    have hadmitted := happlied.admitted_iff husages hnext happlied.current happlied.running
      (by rwa [hone])
    have hexact := hworth [⟨recorded, 0, now⟩] next now husages hnext le_rfl happlied.current
      happlied.running (by rwa [hone])
    rw [hone] at hadmitted hexact
    exact hadmitted.1.symm.trans hexact.1
  · intro hexact usages next time husages hnext _ hcurrent hrunning hquota
    obtain ⟨hauthenticate, hallowed⟩ :=
      happlied.admitted_iff husages hnext hcurrent hrunning hquota
    have hsame := hexact.agree hbytes (recordedBytes_nonneg husages) hquota
    exact ⟨hauthenticate.trans hsame, fun device hdevice ↦ (hallowed device hdevice).trans hsame⟩

end Worth

def soloLease (bytes : ℤ) : QuotaLease :=
  textSignatures.signed "key" ⟨"lease", "device", "node", bytes, 0, 24 * hour, "quota-v1"⟩

def soloUpsert : DeviceUpsert :=
  ⟨"device", "hash", .code .lite, true, day, day, 150000000000, 0, zeroTime⟩

def soloUsed (usages : List Usage) : Store :=
  (recordUsage "device" (handleAll soloIntegrations soloStore [(.deviceUpsert soloUpsert, 0)])
    usages).toOption.getD soloStore

def soloRow (used : ℤ) : StoredDevice :=
  ⟨"device", "hash", .code .lite, true, 86400, 86400, 150000000000, used, 0, unix zeroTime, 0, 0,
    false, 0⟩

theorem soloLease_applied (store : Store) {used : ℤ} (hused : Int64Range used)
    (hstate : store.state = soloStore.state)
    (hrow : store.storedById "device" = some (soloRow used)) :
    LeaseApplied soloIntegrations id store (soloLease 10) "hash" 0 (soloRow used)
      ⟨50000000, 50000000, 150000000000, 5000000, 1, false⟩ := by
  have hverify : (soloLease 10).verify textSignatures "key" 0 = .ok () :=
    QuotaLease.verify_signed textSignatures "key" (by decide) (by decide) (by decide) (by decide)
      (by decide) (by decide) (by decide)
  have hcurrent : (0 : ℤ) < ofUnix 86400 := by decide
  have hquota : Int64Range 150000000000 := by decide
  refine ⟨hrow, rfl, hcurrent, rfl, ⟨⟨"key", ?_, rfl, hverify⟩, ?_⟩, by decide, by decide, rfl,
    hused, hquota, by decide⟩
  · rw [Store.quotaKey, hstate]
    rfl
  · rw [hstate]
    rfl

theorem lease_worth_first :
    WorthItsBytes id (handle soloIntegrations (soloUsed []) (.quotaLease (soloLease 10)) 0).1
      (soloLease 10) "hash" 0 (soloRow 0) 150000000000 :=
  (lease_worth_iff (soloLease_applied (soloUsed []) (by decide) rfl rfl)).mpr
    (.inr ⟨by decide, .inl rfl⟩)

/-- A lease of ten bytes for a device that has used five: five further bytes end it. -/
theorem lease_worth_second :
    LeaseApplied soloIntegrations id (soloUsed [⟨5, 0, 0⟩]) (soloLease 10) "hash" 0 (soloRow 5)
      ⟨50000000, 50000000, 150000000000, 5000000, 1, false⟩ ∧
    ¬ WorthItsBytes id
      (handle soloIntegrations (soloUsed [⟨5, 0, 0⟩]) (.quotaLease (soloLease 10)) 0).1
      (soloLease 10) "hash" 0 (soloRow 5) 150000000000 := by
  refine ⟨soloLease_applied _ (by decide) rfl rfl, fun hworth ↦ ?_⟩
  have hgates := hworth [⟨5, 0, 0⟩] _ 0 (by simp) rfl le_rfl (by decide) (by decide) (by decide)
  have hadmitted : false = true := hgates.1.mpr (by decide)
  exact Bool.false_ne_true hadmitted

end RiseVpn
