import RiseVpn.Control.BlockedAccounts
import RiseVpn.Fleet.LeaseDelivery
import RiseVpn.Node.Authorization
import RiseVpn.Node.DeviceCommands

/-!
# Access after a used-up quota

A paid plan is throttled when its quota is used up, and goes on. Here a device with an active paid
subscription fetches its document, its node handles what the fetch has queued, and the device
presents its credential: a `Fetch`.

The controller counts the usage of a user and grants a lease before it provisions a device, so
without an unexpired lease a used-up quota ends the fetch with an error. The node counts the usage
of a device in the period and compares it with the quota and with the size of the lease.
`access_kept_iff` says when the two together keep the access, and `exhausted_refused` is a fetch
that fails.
-/

set_option autoImplicit false

namespace RiseVpn.Fleet

open Control

/-! ### A fetch and what follows it -/

/-- A fetch of a document by a device, the store of its node, and the times at which the node
handles what was queued and is asked. -/
structure Fetch where
  tables : AccountTables
  device : DeviceId
  hwid : String
  credential : String
  input : StepInput
  store : Store
  handledAt : ℤ
  now : ℤ

namespace Fetch

section

variable (fetch : Fetch) (environment : Environment)

/-- The request `subscriptionDocument` from its first query to its answer. -/
def run (hwidHmac : String → String) : Option AccountSystem :=
  GuardedRun.run (accountMachine environment hwidHmac).step (Threads.System.idle fetch.tables)
    [.start 0 (.document fetch.device fetch.hwid), .advance 0 fetch.input, .advance 0 fetch.input,
      .advance 0 fetch.input]

/-- The device is bound to the hardware id and assigned to a node, and its user, who is not blocked
and has accepted the terms, has an active paid subscription. -/
structure Paid (hwidHmac : String → String) (node : NodeId) (device : DeviceRow)
    (subscription : Subscription) : Prop where
  configured : environment.quotaPrivateKey ≠ none
  known : node ∈ environment.directory.nodes
  identified : fetch.hwid ≠ "" ∧ hwidHmac fetch.hwid ≠ ""
  found : fetch.tables.db.devices fetch.device = some device
  unrevoked : device.revokedAt = none
  bound : device.hwidHmac = some (hwidHmac fetch.hwid)
  assigned : fetch.tables.db.assignments fetch.device = some node
  user : ∃ user, environment.directory.owner fetch.device = some user ∧
    fetch.tables.users user = some .active ∧ fetch.tables.terms user = true ∧
    fetch.tables.db.subscriptions user = some subscription
  active : subscription.status = .active
  paid : subscription.planCode ≠ .trial

/-- The node is ready for the commands of the device, which presents its credential while a lease
issued by the fetch runs. -/
structure Ready (integrations : Integrations) (hash : String → String) (node : NodeId)
    (device : DeviceRow) (subscription : Subscription) : Prop where
  node : NodeReady environment integrations fetch.store fetch.device node
    [⟨fetch.input.txNow, upsertMessage fetch.device device subscription⟩]
  named : fetch.input.uuid ≠ ""
  presented : fetch.credential ≠ ""
  matching : device.credentialHash = hash fetch.credential
  handled : fetch.handledAt < fetch.input.now + 24 * hour ∧
    fetch.input.now ≤ fetch.handledAt + 5 * minute
  leased : fetch.now < ofUnix (unix (fetch.input.now + 24 * hour))
  clock : 0 ≤ fetch.now

/-- The store of a node admits the credential, at the throttled rate of the plan when the quota of
the subscription is used up. -/
def Admitted (hash : String → String) (subscription : Subscription) (store : Store) : Prop :=
  (authenticate hash store fetch.credential fetch.now).ok = true ∧
    (subscription.quotaBytes ≤ subscription.usedBytes →
      (authenticate hash store fetch.credential fetch.now).policy.map
        (fun policy ↦ (policy.upBps, policy.downBps)) =
          some (subscription.planCode.row.throttleBps, subscription.planCode.row.throttleBps))

/-- The fetch succeeds, and the node admits the device when it has handled what was queued, in
either order. -/
def AccessKept (integrations : Integrations) (hwidHmac hash : String → String)
    (subscription : Subscription) : Prop :=
  ∃ system, fetch.run environment hwidHmac = some system ∧
    system.threads 0 = some (.finished (.ok ())) ∧
    ∀ order : List Message,
      order.Perm ((added fetch.tables.db system.shared.db).map Sent.message) →
      fetch.Admitted hash subscription
        (handleAll integrations fetch.store (order.map fun message ↦ (message, fetch.handledAt)))

end

/-! ### When access is kept -/

def reserved (fetch : Fetch) : ℤ :=
  reservedBytes fetch.input.txNow (fetch.tables.db.leases fetch.device)

def unreserved (fetch : Fetch) (subscription : Subscription) : ℤ :=
  wrap64 (subscription.remaining - fetch.reserved)

def countedBytes (fetch : Fetch) (subscription : Subscription) : ℤ :=
  match fetch.store.storedById fetch.device with
  | none => 0
  | some row =>
    if row.periodEnds ≠ unix (valueTime subscription.periodEndsAt) then 0 else row.usedBytes

def comparedQuota (subscription : Subscription) : ℤ :=
  if subscription.quotaBytes ≤ 0 then subscription.planCode.row.quotaBytes
  else subscription.quotaBytes

def overrideRates (fetch : Fetch) : Option (ℤ × ℤ) :=
  match fetch.store.storedById fetch.device with
  | none => none
  | some row =>
    if fetch.now < ofUnix row.overrideExpires then some (row.overrideUpBps, row.overrideDownBps)
    else none

/-- The condition under which access is kept: the period runs; an unexpired lease has bytes left, or
the quota has, and then the node has counted past the quota or less than the new lease; and when the
quota is used up the node has counted past it as well and has no override with other rates. -/
structure Sustained (fetch : Fetch) (subscription : Subscription) : Prop where
  running : fetch.now < ofUnix (unix (valueTime subscription.periodEndsAt))
  leasable : 0 < fetch.reserved ∨ 0 < fetch.unreserved subscription ∧
    (comparedQuota subscription ≤ fetch.countedBytes subscription ∨
      fetch.countedBytes subscription < min (fetch.unreserved subscription) 1000000000)
  throttled : subscription.quotaBytes ≤ subscription.usedBytes →
    fetch.overrideRates =
        some (subscription.planCode.row.throttleBps, subscription.planCode.row.throttleBps) ∨
      fetch.overrideRates = none ∧ comparedQuota subscription ≤ fetch.countedBytes subscription

end Fetch

section

variable {fetch : Fetch} {environment : Environment} {integrations : Integrations}
  {hwidHmac hash : String → String} {node : NodeId} {device : DeviceRow}
  {subscription : Subscription} {row : StoredDevice}

/-! ### The controller -/

/-- The call of `provisionDevice` that a fetch makes. -/
def Fetch.call (fetch : Fetch) (node : NodeId) : ProvisionDevice :=
  ⟨fetch.device, node, fetch.input.txNow, fetch.input.now, fetch.input.uuid⟩

theorem Fetch.Paid.run_eq (hpaid : fetch.Paid environment hwidHmac node device subscription) :
    ∃ system, fetch.run environment hwidHmac = some system ∧
      ((∃ failure, (provisionDevice environment (fetch.call node)).run fetch.tables.db =
          .error failure ∧ system.threads 0 ≠ some (.finished (.ok ()))) ∨
        (provisionDevice environment (fetch.call node)).run fetch.tables.db =
          .ok system.shared.db ∧ system.threads 0 = some (.finished (.ok ()))) := by
  obtain ⟨user, howner, huser, hterms, hrow⟩ := hpaid.user
  have hblocked : fetch.tables.blocked user = false := not_blocked_iff.mpr huser
  have hquery : documentQuery environment.directory fetch.tables fetch.device
      (hwidHmac fetch.hwid) = .route fetch.device .active (some node) := by
    simp [documentQuery, hpaid.found, howner, hrow, hpaid.unrevoked, hblocked, hterms, hpaid.bound,
      hpaid.identified.2, hpaid.active, hpaid.assigned]
  have hroute : documentRoute environment.directory fetch.tables fetch.device .active (some node)
      fetch.input.route = (fetch.tables, .provision fetch.device node) := rfl
  simp only [Fetch.run, GuardedRun.run, Threads.Machine.step, Threads.System.idle,
    Threads.System.set, accountMachine, if_neg hpaid.identified.1, Function.update_self,
    accountAdvance, hquery, hroute, Option.map_some, Option.bind_some, Function.update_idem]
  refine ⟨_, rfl, ?_⟩
  simp only [Function.update_self, provisionStep]
  cases hrun : (provisionDevice environment (fetch.call node)).run fetch.tables.db with
  | error failure =>
    left
    refine ⟨failure, rfl, ?_⟩
    simp only [Fetch.call] at hrun
    simp [hrun, AccountThread.refused]
  | ok db =>
    right
    simp only [Fetch.call] at hrun
    simp [hrun]

theorem Fetch.Paid.queued (hpaid : fetch.Paid environment hwidHmac node device subscription)
    {next : Database}
    (hcall : Provisioned environment (fetch.call node) fetch.tables.db next) :
    (0 < fetch.reserved ∧ (added fetch.tables.db next).map Sent.message =
      [upsertMessage fetch.device device subscription]) ∨
    fetch.reserved ≤ 0 ∧ 0 < fetch.unreserved subscription ∧
      ∃ key, environment.quotaPrivateKey = some key ∧
        (added fetch.tables.db next).map Sent.message =
          [upsertMessage fetch.device device subscription,
            .quotaLease (issuedLease environment key (fetch.call node)
              (min (fetch.unreserved subscription) 1000000000))] := by
  obtain ⟨user, howner, -, -, hrow⟩ := hpaid.user
  cases hcall with
  | refreshed howner' hdevice' hrow' _ hreserved =>
    obtain rfl := Option.mem_unique howner howner'
    obtain rfl := Option.mem_unique hpaid.found hdevice'
    obtain rfl := Option.mem_unique hrow hrow'
    refine .inl ⟨hreserved, ?_⟩
    rw [added_enqueue fetch.tables.db fetch.tables.db rfl]
    rfl
  | @leased key _ _ _ grant hkey howner' hdevice' hrow' _ hreserved hgrant hsome =>
    obtain rfl := Option.mem_unique howner howner'
    obtain rfl := Option.mem_unique hpaid.found hdevice'
    obtain rfl := Option.mem_unique hrow hrow'
    have hleft : 0 < fetch.unreserved subscription :=
      (reservableBytes_ne_zero_iff (by decide)).mp (hgrant ▸ hsome)
    have hmin : grant = min (fetch.unreserved subscription) 1000000000 :=
      hgrant.trans (reservableBytes_eq_min (by decide) hleft)
    refine .inr ⟨hreserved, hleft, key, hkey, ?_⟩
    rw [added_enqueue fetch.tables.db (fetch.tables.db.setLeases _ _) rfl, ← hmin]
    rfl

/-! ### The node -/

/-- The row of the device when the node has handled the upsert of the fetch, apart from its
lease. -/
structure Fetch.Carried (fetch : Fetch) (device : DeviceRow) (subscription : Subscription)
    (row : StoredDevice) : Prop where
  active : row.active = true
  credential : row.credentialHash = device.credentialHash
  plan : row.plan = .code subscription.planCode
  ends : row.subscriptionEnds = unix (valueTime subscription.periodEndsAt)
  quota : row.quotaBytes = subscription.quotaBytes
  used : row.usedBytes = fetch.countedBytes subscription
  override : fetch.overrideRates = if fetch.now < ofUnix row.overrideExpires then
    some (row.overrideUpBps, row.overrideDownBps) else none

theorem Fetch.Carried.leased (hcarried : fetch.Carried device subscription row)
    (bytes expires : ℤ) :
    fetch.Carried device subscription (Store.leasedRow bytes expires row) :=
  ⟨hcarried.active, hcarried.credential, hcarried.plan, hcarried.ends, hcarried.quota,
    hcarried.used, hcarried.override⟩

theorem Fetch.carried_upsert (hclock : 0 ≤ fetch.now) (device : DeviceRow)
    (subscription : Subscription) :
    ∃ row, rowEffect (upsertMessage fetch.device device subscription)
        (fetch.store.storedById fetch.device) = some row ∧
      fetch.Carried device subscription row ∧ row.leaseBytes = 0 := by
  cases hstored : fetch.store.storedById fetch.device with
  | none =>
    have hexpired : ¬ fetch.now < ofUnix 0 := by
      rw [ofUnix]
      omega
    refine ⟨_, rfl, ⟨rfl, rfl, rfl, rfl, rfl, ?_, ?_⟩, rfl⟩
    · rw [Fetch.countedBytes, hstored]
      rfl
    · rw [Fetch.overrideRates, hstored]
      exact (if_neg hexpired).symm
  | some old =>
    refine ⟨_, rfl, ⟨rfl, rfl, rfl, rfl, rfl, ?_, ?_⟩, rfl⟩
    · rw [Fetch.countedBytes, hstored]
      rfl
    · rw [Fetch.overrideRates, hstored]
      rfl

theorem rowEffect_upsert_leased (data : DeviceUpsert) (bytes expires : ℤ)
    (row : Option StoredDevice) :
    rowEffect (.deviceUpsert data) (row.map (Store.leasedRow bytes expires)) =
      rowEffect (.deviceUpsert data) row := by
  cases row <;> rfl

section

variable (hcarried : fetch.Carried device subscription row)

include hcarried

theorem Fetch.Carried.effectiveQuota_eq {base : PlanPolicy}
    (hquota : base.quotaBytes = subscription.planCode.row.quotaBytes) :
    (Store.scanDevice row).effectiveQuota base = Fetch.comparedQuota subscription := by
  simp only [Device.effectiveQuota, Fetch.comparedQuota, Store.scanDevice, hcarried.quota, hquota]

theorem Fetch.Carried.rates_iff (hpaid : subscription.planCode ≠ .trial) {base : PlanPolicy}
    (hbase : (Plan.code subscription.planCode).policy = some base) :
    (Store.scanDevice row).ratesInForce base fetch.now =
        (subscription.planCode.row.throttleBps, subscription.planCode.row.throttleBps) ↔
      fetch.overrideRates =
          some (subscription.planCode.row.throttleBps, subscription.planCode.row.throttleBps) ∨
        fetch.overrideRates = none ∧
          Fetch.comparedQuota subscription ≤ fetch.countedBytes subscription := by
  obtain ⟨found, hfound, hquota, hspeed, hthrottle, -⟩ := policy_of_code subscription.planCode
  obtain rfl := Option.mem_unique hbase hfound
  have hused : (Store.scanDevice row).usedBytes = fetch.countedBytes subscription := hcarried.used
  unfold Device.ratesInForce
  rw [hcarried.effectiveQuota_eq hquota, hused, hthrottle, hcarried.override]
  change (if fetch.now < ofUnix row.overrideExpires then _ else _) = _ ↔ _
  by_cases hforce : fetch.now < ofUnix row.overrideExpires
  · rw [if_pos hforce, if_pos hforce]
    simp [Store.scanDevice]
  · rw [if_neg hforce, if_neg hforce]
    by_cases hexhausted : Fetch.comparedQuota subscription ≤ fetch.countedBytes subscription
    · simp [hexhausted]
    · have hne := PlanCode.row_throttle_ne_speed hpaid
      simp [hexhausted, hspeed, hne]

theorem Fetch.Carried.allowed_iff (hpaid : subscription.planCode ≠ .trial) :
    allowed (Store.scanDevice row) fetch.now = true ↔
      fetch.now < ofUnix (unix (valueTime subscription.periodEndsAt)) ∧
      (Fetch.comparedQuota subscription ≤ fetch.countedBytes subscription ∨ row.leaseBytes ≤ 0 ∨
        (fetch.now < ofUnix row.leaseExpires ∧
          fetch.countedBytes subscription < row.leaseBytes)) := by
  obtain ⟨base, hbase, hquota, -⟩ := policy_of_code subscription.planCode
  have hpolicy : (Store.scanDevice row).plan.policy = some base := by
    rw [← hbase, ← hcarried.plan]
    rfl
  have hplan : (Store.scanDevice row).plan ≠ .code .trial := by
    change row.plan ≠ _
    rw [hcarried.plan]
    exact fun hsame ↦ hpaid (Plan.code.inj hsame)
  rw [allowed_paid_iff hcarried.active hpolicy hplan, hcarried.effectiveQuota_eq hquota,
    ← hcarried.used, ← hcarried.ends]
  rfl

theorem Fetch.Carried.admitted_iff {store : Store} (hrow : store.storedById fetch.device = some row)
    (hpaid : subscription.planCode ≠ .trial) (hpresented : fetch.credential ≠ "")
    (hmatching : device.credentialHash = hash fetch.credential) :
    fetch.Admitted hash subscription store ↔
      fetch.now < ofUnix (unix (valueTime subscription.periodEndsAt)) ∧
      (Fetch.comparedQuota subscription ≤ fetch.countedBytes subscription ∨ row.leaseBytes ≤ 0 ∨
        (fetch.now < ofUnix row.leaseExpires ∧
          fetch.countedBytes subscription < row.leaseBytes)) ∧
      (subscription.quotaBytes ≤ subscription.usedBytes →
        fetch.overrideRates =
            some (subscription.planCode.row.throttleBps, subscription.planCode.row.throttleBps) ∨
          fetch.overrideRates = none ∧
            Fetch.comparedQuota subscription ≤ fetch.countedBytes subscription) := by
  obtain ⟨base, hbase, -⟩ := policy_of_code subscription.planCode
  have hpolicy : (Store.scanDevice row).plan.policy = some base := by
    rw [← hbase, ← hcarried.plan]
    rfl
  have hallowed := hcarried.allowed_iff hpaid
  have hrates := hcarried.rates_iff hpaid hbase
  unfold Fetch.Admitted
  rw [authenticate_of_stored hpresented hrow (hcarried.credential.trans hmatching),
    authenticateDevice_ok]
  constructor
  · rintro ⟨hok, hthrottled⟩
    obtain ⟨policy, hsome, hpair, -⟩ := authenticateDevice_policy hpolicy hok
    refine ⟨(hallowed.mp hok).1, (hallowed.mp hok).2, fun hexhausted ↦ hrates.mp ?_⟩
    have hmap := hthrottled hexhausted
    rw [hsome, Option.map_some, hpair] at hmap
    exact Option.some.inj hmap
  · rintro ⟨hrunning, hlease, hthrottled⟩
    have hok := hallowed.mpr ⟨hrunning, hlease⟩
    obtain ⟨policy, hsome, hpair, -⟩ := authenticateDevice_policy hpolicy hok
    refine ⟨hok, fun hexhausted ↦ ?_⟩
    rw [hsome, Option.map_some, hpair, hrates.mpr (hthrottled hexhausted)]

end

section

variable (hready : fetch.Ready environment integrations hash node device subscription)

include hready

theorem Fetch.Ready.upserted {store : Store} (honly : OnlyDevice fetch.device fetch.store store) :
    (handle integrations store (upsertMessage fetch.device device subscription)
        fetch.handledAt).1.storedById fetch.device =
      rowEffect (upsertMessage fetch.device device subscription)
        (store.storedById fetch.device) := by
  obtain ⟨policy, hpolicy, -⟩ := policy_of_code subscription.planCode
  obtain ⟨hhash, hother⟩ := hready.node.credentials _ List.mem_cons_self _ rfl
  have hfree : store.CredentialFree (DeviceUpsert.device
      ⟨fetch.device, device.credentialHash, .code subscription.planCode, true,
        valueTime subscription.periodEndsAt, valueTime subscription.periodEndsAt,
        subscription.quotaBytes, 0, zeroTime⟩) := by
    refine Store.credentialFree_iff.mpr fun other hne row hrow ↦ ?_
    rw [honly.others other hne] at hrow
    exact hother other hne row hrow
  refine (storedById_handle_deviceUpsert hready.node.named.1 hhash ?_ hfree).trans ?_
  · rw [hpolicy]
    exact Option.some_ne_none policy
  · cases store.storedById fetch.device <;> rfl

theorem Fetch.Ready.leasedBy {store : Store} (honly : OnlyDevice fetch.device fetch.store store)
    {key : String} (hkey : environment.quotaPrivateKey = some key) {grant : ℤ} (hgrant : 0 < grant)
    :
    (handle integrations store (.quotaLease (issuedLease environment key (fetch.call node) grant))
        fetch.handledAt).1.storedById fetch.device =
      (store.storedById fetch.device).map
        (Store.leasedRow grant (fetch.input.now + 24 * hour)) := by
  cases hstored : store.storedById fetch.device with
  | none =>
    rw [handle_quotaLease_missing hstored, hstored]
    rfl
  | some row =>
    have hregular : Regular environment fetch.device node
        ⟨fetch.handledAt, .quotaLease (issuedLease environment key (fetch.call node) grant)⟩ :=
      .inr ⟨key, hkey, _, rfl, hready.named, rfl, rfl, hgrant, rfl, hready.handled.1⟩
    obtain ⟨haccepted, -, -⟩ :=
      hready.node.accepts honly hregular hready.handled.1 hready.handled.2
    exact storedById_handle_quotaLease haccepted hstored

theorem Fetch.Ready.handled_in_either_order {key : String}
    (hkey : environment.quotaPrivateKey = some key) {grant : ℤ} (hgrant : 0 < grant)
    (hrow : rowEffect (upsertMessage fetch.device device subscription) (fetch.store.storedById
      fetch.device) = some row) :
    (handleAll integrations fetch.store
        [(upsertMessage fetch.device device subscription, fetch.handledAt),
          (.quotaLease (issuedLease environment key (fetch.call node) grant),
            fetch.handledAt)]).storedById fetch.device =
      some (Store.leasedRow grant (fetch.input.now + 24 * hour) row) ∧
    (handleAll integrations fetch.store
        [(.quotaLease (issuedLease environment key (fetch.call node) grant), fetch.handledAt),
          (upsertMessage fetch.device device subscription,
            fetch.handledAt)]).storedById fetch.device = some row := by
  constructor
  · have hupsert : (upsertMessage fetch.device device subscription).WritesTo fetch.device := rfl
    refine (hready.leasedBy (onlyDevice_handle hupsert) hkey hgrant).trans ?_
    rw [hready.upserted (.refl _ _), hrow]
    rfl
  · have hlease : (Message.quotaLease (issuedLease environment key (fetch.call node)
        grant)).WritesTo fetch.device := rfl
    refine (hready.upserted (onlyDevice_handle hlease)).trans ?_
    rw [hready.leasedBy (.refl _ _) hkey hgrant]
    exact (rowEffect_upsert_leased _ _ _ _).trans hrow

end

/-! ### Access -/

theorem Fetch.Paid.not_sustained
    (hpaid : fetch.Paid environment hwidHmac node device subscription) {failure : Failure}
    (hrun : (provisionDevice environment (fetch.call node)).run fetch.tables.db =
      .error failure) : ¬ fetch.Sustained subscription := by
  intro hsustained
  obtain ⟨user, howner, -, -, hrow⟩ := hpaid.user
  have hprovisionable : Provisionable environment fetch.tables.db (fetch.call node) := by
    refine ⟨hpaid.configured, hpaid.known, user, device, subscription, howner, hpaid.found,
      hpaid.unrevoked, hrow, .inl hpaid.active, ?_⟩
    rcases hsustained.leasable with hreserved | ⟨hleft, -⟩
    · exact .inl hreserved
    · exact .inr ((reservableBytes_ne_zero_iff (by decide)).mpr hleft)
  obtain ⟨next, hnext⟩ := provision_ok_iff.mpr hprovisionable
  cases hrun.symm.trans hnext

/-- Assumes: a device with an active paid subscription, bound and assigned, and a node that is ready
for it. The document is delivered and the device admitted, at the throttled rate when the quota is
used up, exactly under the condition. -/
theorem access_kept_iff (hpaid : fetch.Paid environment hwidHmac node device subscription)
    (hready : fetch.Ready environment integrations hash node device subscription) :
    fetch.AccessKept environment integrations hwidHmac hash subscription ↔
      fetch.Sustained subscription := by
  obtain ⟨system, hsystem, hcall⟩ := hpaid.run_eq
  have hkept : fetch.AccessKept environment integrations hwidHmac hash subscription ↔
      system.threads 0 = some (.finished (.ok ())) ∧
      ∀ order : List Message,
        order.Perm ((added fetch.tables.db system.shared.db).map Sent.message) →
        fetch.Admitted hash subscription (handleAll integrations fetch.store
          (order.map fun message ↦ (message, fetch.handledAt))) := by
    constructor
    · rintro ⟨found, hfound, hrest⟩
      obtain rfl := Option.mem_unique hsystem hfound
      exact hrest
    · exact fun hrest ↦ ⟨system, hsystem, hrest⟩
  rw [hkept]
  rcases hcall with ⟨failure, hrun, hfailed⟩ | ⟨hrun, hfinished⟩
  · exact iff_of_false (fun hok ↦ hfailed hok.1) (hpaid.not_sustained hrun)
  rw [and_iff_right hfinished]
  obtain ⟨row, hrow, hcarried, hzero⟩ := fetch.carried_upsert hready.clock device subscription
  have hadmitted {last : StoredDevice} (hlast : fetch.Carried device subscription last)
      {store : Store} (hstored : store.storedById fetch.device = some last) :=
    hlast.admitted_iff hstored hpaid.paid hready.presented hready.matching
  rcases hpaid.queued (run_provisionDevice hrun) with
    ⟨hreserved, hqueue⟩ | ⟨hreserved, hleft, key, hkey, hqueue⟩
  · -- the upsert comes alone and takes away the lease that the node has
    have hfirst := hadmitted hcarried ((hready.upserted (.refl _ _)).trans hrow)
    rw [hqueue]
    constructor
    · intro hall
      obtain ⟨hrunning, -, hthrottled⟩ := hfirst.mp (hall _ .rfl)
      exact ⟨hrunning, .inl hreserved, hthrottled⟩
    · rintro ⟨hrunning, -, hthrottled⟩ order horder
      obtain rfl := List.perm_singleton.mp horder
      exact hfirst.mpr ⟨hrunning, .inr (.inl hzero.le), hthrottled⟩
  · -- the lease counts when it is handled after the upsert
    have hpositive : 0 < min (fetch.unreserved subscription) 1000000000 := by omega
    obtain ⟨hafter, hbefore⟩ := hready.handled_in_either_order hkey hpositive hrow
    have hsecond := hadmitted (hcarried.leased _ _) hafter
    rw [hqueue]
    constructor
    · intro hall
      obtain ⟨hrunning, hlease, hthrottled⟩ := hsecond.mp (hall _ .rfl)
      refine ⟨hrunning, .inr ⟨hleft, ?_⟩, hthrottled⟩
      rcases hlease with hexhausted | hnone | ⟨-, hless⟩
      · exact .inl hexhausted
      · exact absurd hnone (Int.not_le.mpr hpositive)
      · exact .inr hless
    · rintro ⟨hrunning, hlease, hthrottled⟩ order horder
      rcases List.perm_pair.mp horder with rfl | rfl
      · refine hsecond.mpr ⟨hrunning, ?_, hthrottled⟩
        rcases hlease with hsome | ⟨-, hexhausted | hless⟩
        · exact absurd hsome (Int.not_lt.mpr hreserved)
        · exact .inl hexhausted
        · exact .inr (.inr ⟨hready.leased, hless⟩)
      · exact (hadmitted hcarried hbefore).mpr ⟨hrunning, .inr (.inl hzero.le), hthrottled⟩

end

/-! ### A used-up quota -/

def exhaustingRequests : List Request :=
  [soloCredit 14900 "credit", soloPurchase .lite 0 "purchase",
    .bindDevice ⟨"device", "fingerprint", false, false, 0, 0⟩,
    .provisionDevice ⟨"device", "node", 0, 0, "lease"⟩, soloUsage "event" 150000000000]

def exhaustedDatabase : Database :=
  (runSerially soloEnvironment exhaustingRequests soloDatabase).toOption.getD soloDatabase

def exhaustedStore : Store :=
  let provisioned := handleAll soloIntegrations soloStore
    (exhaustedDatabase.commands.map fun command ↦ (command.message, 0))
  match provisioned.addUsage "device" 0 150000000000 0 with
  | .ok (_, store) => store
  | .error _ => provisioned

def exhaustedFetch (time : ℤ) : Fetch where
  tables := { boundTables with db := exhaustedDatabase }
  device := "device"
  hwid := "fingerprint"
  credential := "hash"
  input := ⟨time, time, "second", none, false, none, false, [], []⟩
  store := exhaustedStore
  handledAt := time
  now := time

def exhaustedSubscription : Subscription where
  planCode := .lite
  pendingPlanCode := none
  status := .active
  periodStartedAt := some 0
  periodEndsAt := some (30 * day)
  graceEndsAt := none
  quotaBytes := 150000000000
  usedBytes := 150000000000

theorem exhaustedFetch_paid (time : ℤ) :
    (exhaustedFetch time).Paid soloEnvironment id "node"
      ⟨"hash", some "fingerprint", some 0, none⟩ exhaustedSubscription := by
  have hhwid : "fingerprint" ≠ "" := by decide
  refine ⟨nofun, List.mem_singleton_self _, ⟨hhwid, hhwid⟩, rfl, rfl, rfl, rfl, ?_, rfl, nofun⟩
  exact ⟨"user", rfl, rfl, rfl, rfl⟩

/-- A counterexample: the lease of the device has expired, and the fetch is refused. -/
theorem exhausted_refused :
    Reached soloEnvironment (fun _ _ ↦ True) soloDatabase exhaustedDatabase ∧
    (exhaustedFetch (2 * day)).Paid soloEnvironment id "node"
      ⟨"hash", some "fingerprint", some 0, none⟩ exhaustedSubscription ∧
    ∃ system, (exhaustedFetch (2 * day)).run soloEnvironment id = some system ∧
      system.threads 0 = some (.refused .provisioning) := by
  refine ⟨?_, exhaustedFetch_paid _, _, rfl, rfl⟩
  exact reached_serially exhaustingRequests rfl

theorem access_kept_throttled :
    (exhaustedFetch hour).Paid soloEnvironment id "node"
      ⟨"hash", some "fingerprint", some 0, none⟩ exhaustedSubscription ∧
    (exhaustedFetch hour).AccessKept soloEnvironment soloIntegrations id id
      exhaustedSubscription := by
  have hready : (exhaustedFetch hour).Ready soloEnvironment soloIntegrations id "node"
      ⟨"hash", some "fingerprint", some 0, none⟩ exhaustedSubscription := by
    refine ⟨⟨rfl, ?_, rfl, by decide, ?_⟩, by decide, by decide, rfl, by decide, by decide,
      by decide⟩
    · rintro key hkey
      cases hkey
      rfl
    · intro command hcommand data hdata
      obtain rfl := List.mem_singleton.mp hcommand
      cases hdata
      refine ⟨by decide, fun other hother row hrow ↦ ?_⟩
      have hsolo : ∀ row ∈ exhaustedStore.devices.rows, row.deviceId = "device" := by decide
      have hdevice := hsolo row (KeyedTable.lookup_some_mem hrow)
      exact absurd ((Store.storedById_id hrow).symm.trans hdevice) hother
  refine ⟨exhaustedFetch_paid _, (access_kept_iff (exhaustedFetch_paid _) hready).mpr ?_⟩
  refine ⟨by decide, .inl (by decide), fun _ ↦ .inr ⟨rfl, by decide⟩⟩

end RiseVpn.Fleet
