import RiseVpn.Control.Billing
import RiseVpn.Control.Provisioning

/-!
# The controller as a system of concurrent transactions

`Request` lists the transactions of the controller and `program` gives each its statements. The
controller is the interleaved system of these transactions over a pool of 30 database connections,
under the row locks of PostgreSQL at READ COMMITTED: `Controller`, `Controller.step`.

`program_local` says that every transaction goes on only with what it has locked and writes only
what it has locked, so the controller serializes at commit: `Committed.run` says that a committed
transaction left, behind every lock, what it leaves when it runs alone on the database committed
before it, and `Committed.invariant` that what every transaction run alone keeps holds of every
committed database. `Reached.committed` and `Reached.next` build runs out of undisturbed
transactions.
-/

set_option autoImplicit false

namespace RiseVpn.Control

open RowLocking GuardedRun

inductive Request
  | creditWallet (request : CreditWallet)
  | adjustWallet (request : AdjustWallet)
  | changePlan (request : ChangePlan)
  | subscriptionLifecycle (request : SubscriptionLifecycle)
  | bindDevice (request : BindDevice)
  | assignNode (request : AssignNode)
  | rebindDevice (request : RebindDevice)
  | revokeCredential (request : RevokeCredential)
  | provisionDevice (request : ProvisionDevice)
  | usage (batch : UsageBatch)

def program (environment : Environment) : Request → Program
  | .creditWallet request => creditWallet request
  | .adjustWallet request => adjustWallet request
  | .changePlan request => changePlan request
  | .subscriptionLifecycle request => subscriptionLifecycle environment.directory request
  | .bindDevice request => bindDevice environment.directory request
  | .assignNode request => assignNode environment.directory request
  | .rebindDevice request => rebindDevice environment.directory request
  | .revokeCredential request => revokeCredential request
  | .provisionDevice request => provisionDevice environment request
  | .usage batch => usage environment.directory batch

/-! ### Locality -/

section Locality

variable {held : List LockKey}

theorem local_creditWallet (request : CreditWallet) : Local view held (creditWallet request) := by
  refine local_ite trivial (local_select (fun db db' hagree ↦ ?_) fun balance ↦ ?_)
  · exact wallets_eq (hagree _ (List.mem_singleton_self _))
  · cases balance with
    | none => trivial
    | some current =>
      exact local_updateWallet fun _ ↦ local_insertLedger (fun _ ↦ trivial)
        fun _ ↦ local_insertAudit fun _ ↦ trivial

theorem local_adjustWallet (request : AdjustWallet) : Local view held (adjustWallet request) := by
  refine local_ite trivial (local_ite trivial (local_select (fun db db' hagree ↦ ?_)
    fun balance ↦ ?_))
  · exact wallets_eq (hagree _ (List.mem_singleton_self _))
  · cases balance with
    | none => trivial
    | some current =>
      exact local_ite trivial (local_updateWallet fun _ ↦ local_insertLedger (fun _ ↦ trivial)
        fun _ ↦ local_insertAudit fun _ ↦ trivial)

theorem local_renewSamePlan (request : ChangePlan) (row : Subscription) (balance : ℤ) :
    Local view held (renewSamePlan request row balance) := by
  exact local_ite trivial (local_updateWallet fun _ ↦ local_updateSubscription fun _ ↦
    local_insertLedger (fun _ ↦ trivial) fun _ ↦ local_insertAudit fun _ ↦ trivial)

theorem local_purchase (request : ChangePlan) (row : Subscription) (balance : ℤ) (next : PlanCode) :
    Local view held (purchase request row balance next) := by
  exact local_ite trivial (local_updateWallet fun _ ↦ local_updateSubscription fun _ ↦
    local_insertLedger (fun _ ↦ trivial) fun _ ↦ local_insertAudit fun _ ↦ trivial)

theorem read_subscription_wallet {user : UserId} {db db' : Database}
    (hagree : Agree view [.subscription user, .wallet user] db db') :
    (db.subscriptions user, db.wallets user) = (db'.subscriptions user, db'.wallets user) := by
  rw [subscriptions_eq (hagree (.subscription user) (by simp)),
    wallets_eq (hagree (.wallet user) (by simp))]

theorem local_changePlan (request : ChangePlan) : Local view held (changePlan request) := by
  refine local_ite trivial (local_select (fun db db' ↦ read_subscription_wallet) fun rows ↦ ?_)
  rcases rows with ⟨_ | row, _ | balance⟩
  · trivial
  · trivial
  · trivial
  · cases request.plan with
    | other text => trivial
    | code next =>
      exact local_ite (local_renewSamePlan request row balance)
        (local_ite (local_updateSubscription fun _ ↦ local_insertAudit fun _ ↦ trivial)
          (local_purchase request row balance next))

theorem local_forEach {Item : Type*} {visit : Item → Program → Program} {rest : Program}
    (hvisit : ∀ item next, (∀ more, Local view more next) →
      ∀ more, Local view more (visit item next))
    (hrest : ∀ more, Local view more rest) :
    ∀ (items : List Item) (more : List LockKey), Local view more (forEach visit items rest) := by
  intro items
  induction items with
  | nil => exact hrest
  | cons item items ih => exact hvisit item _ ih

theorem local_renewRow (txNow : ℤ) (user : UserId) (rest : Program)
    (hrest : ∀ more, Local view more rest) (more : List LockKey) :
    Local view more (renewRow txNow user rest) := by
  refine local_select (fun db db' ↦ read_subscription_wallet) fun rows ↦ ?_
  rcases rows with ⟨_ | row, _ | balance⟩
  · exact hrest _
  · exact hrest _
  · exact hrest _
  · exact local_ite (local_updateWallet fun _ ↦ local_updateSubscription fun _ ↦
      local_insertLedger hrest hrest) (hrest _)

theorem local_updateRow (due : Subscription → Bool) (change : Subscription → Subscription)
    (user : UserId) (rest : Program) (hrest : ∀ more, Local view more rest) (more : List LockKey) :
    Local view more (updateRow due change user rest) := by
  refine local_select
    (fun db db' hagree ↦ subscriptions_eq (hagree _ (List.mem_singleton_self _))) fun row ↦ ?_
  cases row with
  | none => exact hrest _
  | some row => exact local_ite (local_updateSubscription hrest) (hrest _)

section

variable (directory : Directory)

theorem local_subscriptionLifecycle (request : SubscriptionLifecycle) :
    Local view held (subscriptionLifecycle directory request) := by
  have hcommands : ∀ more, Local view more
      (insertCommands request.txNow (graceOverrides directory request.txNow) <|
        insertCommands request.txNow (endedKicks directory request.txNow) .commit) := fun _ ↦
    local_insertCommands fun _ ↦ local_insertCommands fun _ ↦ trivial
  have hsuspend := local_forEach (local_updateRow (graceEnded request.txNow)
    fun row ↦ { row with status := .suspended }) hcommands request.suspensions.users
  have hgrace := local_forEach (local_updateRow (paidEnded request.txNow)
    fun row ↦ { row with status := .grace, graceEndsAt := some (request.txNow + 24 * hour) })
    hsuspend request.graces.users
  have htrial := local_forEach (local_updateRow (trialEnded request.txNow)
    fun row ↦ { row with status := .expired }) hgrace request.trials.users
  exact local_forEach (local_renewRow request.txNow) htrial request.renewals.users held

theorem local_bindHwid (request : BindDevice) : Local view held (bindHwid request) := by
  refine local_select (fun db db' hagree ↦ devices_eq (hagree _ (List.mem_singleton_self _)))
    fun row ↦ ?_
  cases row with
  | none => trivial
  | some device => exact local_update (writes_setDevice _) trivial

theorem local_bindDevice (request : BindDevice) :
    Local view held (bindDevice directory request) := by
  refine local_ite (local_ite trivial ?_) (local_bindHwid request)
  cases directory.owner request.deviceId with
  | none => exact local_bindHwid request
  | some user =>
    refine local_select
      (fun db db' hagree ↦ subscriptions_eq (hagree _ (List.mem_singleton_self _))) fun row ↦ ?_
    cases row with
    | none => exact local_bindHwid request
    | some row =>
      exact local_ite (local_updateSubscription fun _ ↦ local_bindHwid request)
        (local_bindHwid request)

theorem local_assignNode (request : AssignNode) :
    Local view held (assignNode directory request) := by
  refine local_ite trivial (local_append (fun _ key db ↦ ?_) trivial)
  exact view_assign request.deviceId request.nodeId key db

theorem local_rebindDevice (request : RebindDevice) :
    Local view held (rebindDevice directory request) := by
  refine local_ite trivial (local_select (fun db db' hagree ↦ ?_) fun row ↦ ?_)
  · exact devices_eq (hagree _ (List.mem_singleton_self _))
  · cases row with
    | none => trivial
    | some device =>
      exact local_ite trivial (local_ite trivial
        (local_update (writes_setDevice _) (local_update (writes_setLeases _) trivial)))

theorem local_provisionRow (environment : Environment) (key : String) (request : ProvisionDevice)
    (device : DeviceRow) (row : Subscription) (leases : List LeaseRow) :
    Local view held (provisionRow environment key request device row leases) := by
  refine local_ite trivial (local_ite (local_ite trivial ?_) (local_ite trivial
    (local_ite trivial ?_)))
  · exact local_insertCommands fun _ ↦ trivial
  · exact local_update (writes_setLeases _) (local_insertCommands fun _ ↦ trivial)

theorem local_provisionDevice (environment : Environment) (request : ProvisionDevice) :
    Local view held (provisionDevice environment request) := by
  unfold provisionDevice
  cases environment.quotaPrivateKey with
  | none => trivial
  | some key =>
    cases environment.directory.owner request.deviceId with
    | none => trivial
    | some user =>
      refine local_select (fun db db' hagree ↦ ?_) fun rows ↦ ?_
      · have hdevice := hagree (.device request.deviceId) (by simp)
        have hsubscription := hagree (.subscription user) (by simp)
        rw [devices_eq hdevice, leases_eq hdevice, subscriptions_eq hsubscription]
      · rcases rows with ⟨_ | device, _ | row, leases⟩
        · trivial
        · trivial
        · trivial
        · exact local_ite trivial (local_provisionRow environment key request device row leases)

theorem local_billUsage (node : NodeId) (event : UsageEvent) (user : UserId) (rest : Program)
    (hrest : ∀ more, Local view more rest) : Local view held (billUsage node event user rest) := by
  refine local_select
    (fun db db' hagree ↦ subscriptions_eq (hagree _ (List.mem_singleton_self _))) fun row ↦ ?_
  cases row with
  | none => exact hrest _
  | some row => exact local_ite (local_update (writes_bill _) (hrest _)) trivial

theorem local_usageEvent (batch : UsageBatch) (event : UsageEvent) (rest : Program)
    (hrest : ∀ more, Local view more rest) (more : List LockKey) :
    Local view more (usageEvent directory batch event rest) := by
  refine local_ite trivial (local_select (fun db db' hagree ↦ ?_) fun row ↦ ?_)
  · exact usageEvents_eq (hagree _ (List.mem_singleton_self _))
  · cases row with
    | some _ => exact hrest _
    | none =>
      cases directory.owner event.deviceId with
      | none => trivial
      | some user =>
        exact local_ite trivial (local_update (writes_insertUsage _)
          (local_billUsage _ event user _ fun _ ↦ local_insertCommands hrest))

theorem local_usage (batch : UsageBatch) : Local view held (usage directory batch) := by
  refine local_forEach (local_usageEvent directory batch) (fun _ ↦ ?_) batch.events held
  trivial

end

theorem program_local (environment : Environment) (request : Request) :
    Local view [] (program environment request) := by
  cases request with
  | creditWallet request => exact local_creditWallet request
  | adjustWallet request => exact local_adjustWallet request
  | changePlan request => exact local_changePlan request
  | subscriptionLifecycle request => exact local_subscriptionLifecycle _ request
  | bindDevice request => exact local_bindDevice _ request
  | assignNode request => exact local_assignNode _ request
  | rebindDevice request => exact local_rebindDevice _ request
  | revokeCredential request => exact local_insertCommands fun _ ↦ trivial
  | provisionDevice request => exact local_provisionDevice environment request
  | usage batch => exact local_usage _ batch

end Locality

/-! ### The controller -/

/-- The connections of the pool, `config.MaxConns`. -/
abbrev Connection := Fin 30

abbrev Controller := System Connection LockKey Database Failure Request

abbrev ControllerEvent := Event Connection Request

def Controller.idle (db : Database) : Controller := ⟨db, fun _ ↦ none⟩

def Controller.step (environment : Environment) (controller : Controller)
    (event : ControllerEvent) : Option Controller :=
  RowLocking.step (program environment) controller event

/-- A transaction was committed, in some run from a database without open transactions: it found the
database `before` committed and left `after`. -/
def Committed (environment : Environment) (start : Database) (request : Request)
    (before after : Database) : Prop :=
  ∃ controller next connection session,
    Reachable (Controller.step environment) (Controller.idle start) controller ∧
    controller.sessions connection = some session ∧ session.request = request ∧
    controller.step environment (.commit connection) = some next ∧
    controller.db = before ∧ next.db = after

section Serialization

variable {environment : Environment} {start before after result : Database} {request : Request}

theorem Committed.run (hcommitted : Committed environment start request before after) :
    ∃ result, (program environment request).run before = .ok result ∧
      ∀ key, view key after = view key result := by
  obtain ⟨controller, next, connection, session, hreach, hsession, rfl, hstep, rfl, rfl⟩ :=
    hcommitted
  obtain ⟨found, result, hfound, hrun, hview⟩ :=
    commit_serial (serial_of_reachable (program_local environment) hreach) hstep
  have hsame : session = found := Option.mem_unique hsession hfound
  subst hsame
  exact ⟨result, hrun, hview⟩

theorem Committed.invariant {property : Database → Prop}
    (hview : ∀ db db', (∀ key, view key db = view key db') → property db → property db')
    (hkeeps : ∀ request db result, property db → (program environment request).run db = .ok result →
      property result)
    (hstart : property start) (hcommitted : Committed environment start request before after) :
    property before := by
  obtain ⟨controller, _, _, _, hreach, -, -, -, rfl, -⟩ := hcommitted
  have hany : ReachableUnder (Controller.step environment)
      (CommitMeets fun _ _ ↦ True) (Controller.idle start) controller :=
    ReachableUnder.mono hreach fun _ _ _ _ _ _ _ _ ↦ trivial
  exact reachable_view_invariant (program_local environment) hview
    (fun request db result hproperty _ ↦ hkeeps request db result hproperty) hstart hany

variable {condition : Request → Database → Prop}

def Reached (environment : Environment) (condition : Request → Database → Prop)
    (start db : Database) : Prop :=
  ReachableUnder (Controller.step environment) (CommitMeets condition)
    (Controller.idle start) (Controller.idle db)

theorem Reached.refl : Reached environment condition start start := ReachableUnder.refl

theorem Reached.committed (hreached : Reached environment condition start before)
    (hrun : (program environment request).run before = .ok result) :
    Committed environment start request before result := by
  obtain ⟨session, hrequest, hreach, hstep⟩ := reachable_of_run condition
    (0 : Connection) hrun
  have hreach := (ReachableUnder.trans hreached hreach).mono fun _ _ _ _ ↦ trivial
  exact ⟨_, _, 0, session, hreach, System.set_self _ _ _, hrequest, hstep, rfl, rfl⟩

theorem Reached.next (hreached : Reached environment condition start before) (request : Request)
    (hcondition : condition request before)
    (hrun : (program environment request).run before = .ok result) :
    Reached environment condition start result := by
  obtain ⟨session, hrequest, hreach, hstep⟩ := reachable_of_run condition
    (0 : Connection) hrun
  refine ReachableUnder.next (.trans hreached hreach) hstep ?_
  intro slot found hslot hfound
  cases hslot
  have hsame : session = found :=
    Option.mem_unique (System.set_self _ _ _) hfound
  rw [← hsame, hrequest]
  exact hcondition

def runSerially (environment : Environment) : List Request → Database → Except Failure Database
  | [], db => .ok db
  | request :: rest, db =>
    match (program environment request).run db with
    | .error failure => .error failure
    | .ok next => runSerially environment rest next

theorem Reached.serially (hreached : Reached environment condition start before)
    (requests : List Request)
    (hcondition : ∀ request ∈ requests, ∀ db, condition request db)
    (hrun : runSerially environment requests before = .ok result) :
    Reached environment condition start result := by
  induction requests generalizing before with
  | nil =>
    cases hrun
    exact hreached
  | cons request rest ih =>
    rw [runSerially] at hrun
    cases hnext : (program environment request).run before with
    | error failure =>
      rw [hnext] at hrun
      cases hrun
    | ok next =>
      rw [hnext] at hrun
      exact ih (hreached.next request (hcondition request List.mem_cons_self before) hnext)
        (fun other hother ↦ hcondition other (List.mem_cons_of_mem _ hother)) hrun

theorem reached_serially (requests : List Request)
    (hrun : runSerially environment requests start = .ok result) :
    Reached environment (fun _ _ ↦ True) start result :=
  Reached.refl.serially requests (fun _ _ _ ↦ trivial) hrun

end Serialization

/-! ### A small controller -/

def soloEnvironment : Environment where
  directory := ⟨[("device", "user")], ["node"], by decide⟩
  signatures := textSignatures
  quotaPrivateKey := some "key"

def soloDatabase : Database :=
  Database.fresh ["user"] (fun id ↦ if id = "device" then some ⟨"hash", none, none, none⟩ else none)
    fun id ↦ if id = "device" then some "node" else none

def soloCredit (amount : ℤ) (key : String) : Request :=
  .creditWallet ⟨"admin", "user", amount, "top-up", key, ""⟩

def soloPurchase (code : PlanCode) (now : ℤ) (uuid : String) : Request :=
  .changePlan ⟨"user", .code code, now, uuid⟩

abbrev liteRow : Subscription :=
  ⟨.lite, none, .active, some 0, some (30 * day), none, 150000000000, 0⟩

def soloUsage (eventId : String) (bytes : ℤ) : Request :=
  .usage ⟨"node", [⟨eventId, "device", bytes, 0, 0, 0⟩], 0⟩

def soloLifecycle (txNow : ℤ) : Request :=
  let scan : Scan := ⟨["user"], by decide⟩
  .subscriptionLifecycle ⟨txNow, scan, scan, scan, scan⟩

end RiseVpn.Control
