import RiseVpn.Control.Effects

/-!
# What a transaction does to one row and to the queue

`Done` puts the inversion lemmas of all transactions together. Two views of it are what most
invariants need: `row_program` says what a committed transaction makes of the subscription of one
user, and `queued_program` which commands it adds to the queue.
-/

set_option autoImplicit false

namespace RiseVpn.Control

open RowLocking

variable {environment : Environment} {directory : Directory} {db result : Database}
  {request : Request} {user : UserId}

/-! ### Transactions -/

variable (environment : Environment) (db : Database) in
/-- What a committed transaction leaves, one case for each request. -/
inductive Done : Request → Database → Prop
  | credited {request : CreditWallet} {balance : ℤ} {entry : LedgerEntry} {event : AuditEvent} :
      Done (.creditWallet request)
        (((db.setWallet request.userId balance).post request.userId entry).record event)
  | adjusted {request : AdjustWallet} {balance : ℤ} {entry : LedgerEntry} {event : AuditEvent} :
      Done (.adjustWallet request)
        (((db.setWallet request.userId balance).post request.userId entry).record event)
  | changed {request : ChangePlan} {result : Database} (hchanged : PlanChanged request db result) :
      Done (.changePlan request) result
  | managed {run : SubscriptionLifecycle} {result : Database}
      (hrun : (subscriptionLifecycle environment.directory run).run db = .ok result) :
      Done (.subscriptionLifecycle run) result
  | bound {request : BindDevice} {middle result : Database}
      (hstarted : middle = db ∨ ∃ user row, db.subscriptions user = some row ∧
        row.status = .pendingTrial ∧ middle = db.setSubscription user (trialRow row request.now))
      (hbound : result = middle ∨ ∃ device, middle.devices request.deviceId = some device ∧
        result = middle.setDevice request.deviceId { device with
          hwidHmac := some request.fingerprint, lastBoundAt := some request.txNow }) :
      Done (.bindDevice request) result
  | assigned {request : AssignNode} :
      Done (.assignNode request) (db.assign request.deviceId request.nodeId)
  | rebound {request : RebindDevice} {device : DeviceRow}
      (hdevice : db.devices request.deviceId = some device) :
      Done (.rebindDevice request) ((db.setDevice request.deviceId { device with
        credentialHash := request.credentialHash, hwidHmac := none, lastBoundAt := none }).setLeases
          request.deviceId [])
  | revoked {request : RevokeCredential} :
      Done (.revokeCredential request) (db.enqueue request.txNow
        ((db.assignments request.deviceId).toList.map fun node ↦
          (node, .deviceRevoke ⟨request.deviceId, "credential rotation"⟩)))
  | provisioned {call : ProvisionDevice} {result : Database}
      (hcall : Provisioned environment call db result) : Done (.provisionDevice call) result
  | booked {batch : UsageBatch} {result : Database}
      (hvisited : Visited (UsageEffect environment.directory batch) batch.events db result) :
      Done (.usage batch) result

theorem run_program (hrun : (program environment request).run db = .ok result) :
    Done environment db request result := by
  cases request with
  | creditWallet request =>
    obtain ⟨_, _, _, _, _, _, rfl, -⟩ := run_creditWallet hrun
    exact .credited
  | adjustWallet request =>
    obtain ⟨_, _, _, _, _, rfl, -⟩ := run_adjustWallet hrun
    exact .adjusted
  | changePlan request => exact .changed (run_changePlan hrun)
  | subscriptionLifecycle run => exact .managed hrun
  | bindDevice request =>
    obtain ⟨middle, hstarted, hbound⟩ := run_bindDevice hrun
    exact .bound hstarted hbound
  | assignNode request =>
    obtain rfl := run_assignNode hrun
    exact .assigned
  | rebindDevice request =>
    obtain ⟨device, hdevice, rfl⟩ := run_rebindDevice hrun
    exact .rebound hdevice
  | revokeCredential request =>
    obtain rfl := run_revokeCredential hrun
    exact .revoked
  | provisionDevice call => exact .provisioned (run_provisionDevice hrun)
  | usage batch => exact .booked (run_usage hrun)

/-! ### One row -/

inductive RowMoved (row : Subscription) : Request → Subscription → Prop
  | kept (request : Request) : RowMoved row request row
  | renewed {change : ChangePlan} (hpaid : row.planCode ≠ .trial) (hactive : row.status = .active) :
      RowMoved row (.changePlan change) (renewedSamePlan row change.now)
  | scheduled {change : ChangePlan} {next : PlanCode} (hpaid : next ≠ .trial)
      (hcheaper : next.row.priceKopecks < row.planCode.row.priceKopecks) :
      RowMoved row (.changePlan change) { row with pendingPlanCode := some next }
  | purchased {change : ChangePlan} {next : PlanCode} (hpaid : next ≠ .trial) :
      RowMoved row (.changePlan change)
        (purchasedRow row next (purchaseTerms row next change.now))
  | managed {run : SubscriptionLifecycle} {renewed row' : Subscription}
      (hrenewed : renewed = row ∨
        ∃ balance, DueForRenewal run.txNow row balance ∧ renewed = autoRenewed row)
      (hmoved : StatusMoved run.txNow renewed row') :
      RowMoved row (.subscriptionLifecycle run) row'
  | started {bind : BindDevice} (hpending : row.status = .pendingTrial) :
      RowMoved row (.bindDevice bind) (trialRow row bind.now)
  | counted {batch : UsageBatch} (used : ℤ) :
      RowMoved row (.usage batch) { row with usedBytes := used }

inductive RowEffect (request : Request) : Option Subscription → Option Subscription → Prop
  | absent : RowEffect request none none
  | present {row row' : Subscription} (hmoved : RowMoved row request row') :
      RowEffect request (some row) (some row')

variable {new old : Option Subscription} {row' : Subscription} {txNow : ℤ}

theorem RowEffect.of_eq (hsame : new = old) : RowEffect request old new := by
  subst hsame
  cases new with
  | none => exact .absent
  | some row => exact .present (.kept request)

theorem RowEffect.absent_iff (heffect : RowEffect request old new) : new = none ↔ old = none := by
  cases heffect <;> simp

theorem RowEffect.of_some {row : Subscription} (heffect : RowEffect request (some row) new) :
    ∃ row', new = some row' ∧ RowMoved row request row' := by
  cases heffect with
  | present hmoved => exact ⟨_, rfl, hmoved⟩

theorem RowEffect.to_some (heffect : RowEffect request old (some row')) :
    ∃ row, old = some row ∧ RowMoved row request row' := by
  cases heffect with
  | present hmoved => exact ⟨_, rfl, hmoved⟩

theorem rowEffect_update {other : UserId} {row : Subscription}
    (hrow : db.subscriptions other = some row) (hmoved : RowMoved row request row')
    (hresult : result.subscriptions = Function.update db.subscriptions other (some row')) :
    RowEffect request (db.subscriptions user) (result.subscriptions user) := by
  rw [hresult, Function.update_apply]
  split_ifs with huser
  · rw [huser, hrow]
    exact .present hmoved
  · exact .of_eq rfl

theorem Visited.update_absent {due : Subscription → Bool} {change : Subscription → Subscription}
    {scan : Scan} (hvisited : Visited (UpdateEffect due change) scan.users db result)
    (hnone : db.subscriptions user = none) : result.subscriptions user = none := by
  rw [hvisited.update_subscriptions, hnone, scannedRow, Option.map_none, ite_self]

theorem Visited.renew_absent {users : List UserId}
    (hvisited : Visited (RenewEffect txNow) users db result)
    (hnone : db.subscriptions user = none) : result.subscriptions user = none := by
  refine hvisited.invariant (fun db ↦ db.subscriptions user = none) ?_ hnone
  intro other before after heffect hbefore
  rcases heffect.renews with rfl | ⟨row, _, hrow, -, -, hsubscriptions, -⟩
  · exact hbefore
  · have hother : user ≠ other := by
      rintro rfl
      cases hbefore.symm.trans hrow
    rw [hsubscriptions, Function.update_of_ne hother, hbefore]

theorem lifecycle_absent {run : SubscriptionLifecycle}
    (hrun : (subscriptionLifecycle directory run).run db = .ok result)
    (hnone : db.subscriptions user = none) : result.subscriptions user = none := by
  obtain ⟨renewed, expired, graced, suspended, hrenewed, hexpired, hgraced, hsuspended, rfl⟩ :=
    run_subscriptionLifecycle hrun
  exact hsuspended.update_absent (hgraced.update_absent
    (hexpired.update_absent (hrenewed.renew_absent hnone)))

theorem row_program (hrun : (program environment request).run db = .ok result) (user : UserId) :
    RowEffect request (db.subscriptions user) (result.subscriptions user) := by
  cases run_program hrun with
  | changed hchanged =>
    cases hchanged with
    | renewed hrow _ _ hpaid hactive => exact rowEffect_update hrow (.renewed hpaid hactive) rfl
    | scheduled hrow _ hpaid hcheaper =>
      exact rowEffect_update hrow (.scheduled hpaid hcheaper) rfl
    | purchased hrow _ _ hpaid => exact rowEffect_update hrow (.purchased hpaid) rfl
  | managed hrun =>
    cases hrow : db.subscriptions user with
    | none =>
      rw [lifecycle_absent hrun hrow]
      exact .absent
    | some row =>
      obtain ⟨renewed, row', hrow', hmoved, hrenewed⟩ := lifecycle_user hrun hrow
      rw [hrow']
      refine .present (.managed (hrenewed.imp And.left ?_) hmoved)
      rintro ⟨balance, -, hdue, hauto, -⟩
      exact ⟨balance, hdue, hauto⟩
  | @bound _ middle _ hstarted hbound =>
    have hsame : result.subscriptions = middle.subscriptions := by
      rcases hbound with rfl | ⟨_, -, rfl⟩ <;> rfl
    rw [hsame]
    rcases hstarted with rfl | ⟨_, _, hrow, hpending, rfl⟩
    · exact .of_eq rfl
    · exact rowEffect_update hrow (.started hpending) rfl
  | provisioned hcall => cases hcall <;> exact .of_eq rfl
  | @booked batch _ hvisited =>
    -- a batch bills the user any number of times, and each time the rest of the row stays
    refine hvisited.invariant (fun state ↦ RowEffect (.usage batch) (db.subscriptions user)
      (state.subscriptions user)) (fun event before after heffect hbefore ↦ ?_) (.of_eq rfl)
    cases heffect with
    | known => exact hbefore
    | unbilled => exact hbefore
    | @billed other found used _ _ _ hfound =>
      change RowEffect _ _ (Function.update before.subscriptions other (some _) user)
      by_cases huser : user = other
      · subst huser
        rw [hfound] at hbefore
        rw [Function.update_self]
        generalize db.subscriptions user = old at hbefore
        cases hbefore with
        | present hmoved => cases hmoved <;> exact .present (.counted used)
      · rw [Function.update_of_ne huser]
        exact hbefore
  | credited | adjusted | assigned | rebound | revoked => exact .of_eq rfl

theorem exists_row_program (hrun : (program environment request).run db = .ok result)
    (hrow' : result.subscriptions user = some row') :
    ∃ row, db.subscriptions user = some row ∧ RowMoved row request row' :=
  (hrow' ▸ row_program hrun user).to_some

/-! ### The queue -/

theorem mem_enqueue {createdAt : ℤ} {rows : List (NodeId × Message)} {command : Command}
    (hcommand : command ∈ (db.enqueue createdAt rows).commands) :
    command ∈ db.commands ∨ ∃ row ∈ rows, command.message = row.2 := by
  rcases List.mem_append.mp hcommand with hold | hnew
  · exact .inl hold
  · obtain ⟨i, hi, rfl⟩ := List.mem_mapIdx.mp hnew
    exact .inr ⟨rows[i], List.getElem_mem hi, rfl⟩

theorem graceOverrides_override :
    ∀ row ∈ graceOverrides directory txNow db, ∃ data, row.2 = .policyOverride data ∧
      data.upBps = 1000000 ∧ data.downBps = 1000000 := by
  intro row hrow
  obtain ⟨_, -, hselected⟩ := List.mem_filterMap.mp hrow
  dsimp only at hselected
  split at hselected
  · split at hselected
    · obtain ⟨-, hsame⟩ := Option.ite_none_right_eq_some.mp hselected
      exact ⟨_, congrArg Prod.snd (Option.some.inj hsame).symm, rfl, rfl⟩
    · cases hselected
  · cases hselected

theorem endedKicks_kick :
    ∀ row ∈ endedKicks directory txNow db, ∃ data, row.2 = .sessionKick data := by
  intro row hrow
  obtain ⟨_, -, hselected⟩ := List.mem_filterMap.mp hrow
  dsimp only at hselected
  split at hselected
  · split at hselected
    · obtain ⟨-, hsame⟩ := Option.ite_none_right_eq_some.mp hselected
      exact ⟨_, congrArg Prod.snd (Option.some.inj hsame).symm⟩
    · cases hselected
  · cases hselected

variable (environment : Environment) (db : Database) in
inductive QueuedBy : Request → Message → Prop
  | upsert {call : ProvisionDevice} {user : UserId} {device : DeviceRow} {row : Subscription}
      (howner : environment.directory.owner call.deviceId = some user)
      (hdevice : db.devices call.deviceId = some device) (hrow : db.subscriptions user = some row)
      (hstatus : row.status = .active ∨ row.status = .grace) :
      QueuedBy (.provisionDevice call) (upsertMessage call.deviceId device row)
  | lease {call : ProvisionDevice} (key : String) (grant : ℤ) : QueuedBy (.provisionDevice call)
        (.quotaLease (issuedLease environment key call grant))
  | override {run : SubscriptionLifecycle} {data : PolicyOverride} (hup : data.upBps = 1000000)
      (hdown : data.downBps = 1000000) :
      QueuedBy (.subscriptionLifecycle run) (.policyOverride data)
  | ended {run : SubscriptionLifecycle} (data : DeviceRef) :
      QueuedBy (.subscriptionLifecycle run) (.sessionKick data)
  | exhausted {batch : UsageBatch} (data : DeviceRef) : QueuedBy (.usage batch) (.sessionKick data)
  | revoke {request : RevokeCredential} (data : DeviceRef) :
      QueuedBy (.revokeCredential request) (.deviceRevoke data)

def Extends (environment : Environment) (start : Database) (request : Request)
    (db result : Database) : Prop :=
  ∃ later, result.commands = db.commands ++ later ∧
    ∀ command ∈ later, QueuedBy environment start request command.message

theorem Extends.of_eq (hsame : result.commands = db.commands) :
    Extends environment db request db result :=
  ⟨[], by rw [hsame, List.append_nil], fun _ hnone ↦ absurd hnone List.not_mem_nil⟩

theorem Extends.enqueue {start middle : Database} {createdAt : ℤ}
    {rows : List (NodeId × Message)} (hextends : Extends environment start request db middle)
    (hrows : ∀ row ∈ rows, QueuedBy environment start request row.2) :
    Extends environment start request db (middle.enqueue createdAt rows) := by
  obtain ⟨later, hmiddle, hqueued⟩ := hextends
  refine ⟨later ++ rows.mapIdx fun i ↦ Database.newCommand createdAt (middle.commands.length + i),
    ?_, fun command hcommand ↦ ?_⟩
  · exact (congrArg (· ++ _) hmiddle).trans (List.append_assoc ..)
  · rcases List.mem_append.mp hcommand with hold | hnew
    · exact hqueued command hold
    · obtain ⟨i, hi, rfl⟩ := List.mem_mapIdx.mp hnew
      exact hrows _ (List.getElem_mem hi)

theorem queued_program (hrun : (program environment request).run db = .ok result) :
    Extends environment db request db result := by
  cases run_program hrun with
  | changed hchanged => cases hchanged <;> exact .of_eq rfl
  | @managed run _ hrun =>
    obtain ⟨moved, hmoved, rfl⟩ := lifecycle_frame hrun
    have hbefore : Extends environment db (.subscriptionLifecycle run) db moved :=
      .of_eq (by rw [hmoved])
    refine (hbefore.enqueue fun row hrow ↦ ?_).enqueue fun row hrow ↦ ?_
    · obtain ⟨data, hdata, hup, hdown⟩ := graceOverrides_override row hrow
      rw [hdata]
      exact .override hup hdown
    · obtain ⟨data, hdata⟩ := endedKicks_kick row hrow
      rw [hdata]
      exact .ended data
  | bound hstarted hbound =>
    rcases hbound with rfl | ⟨_, _, rfl⟩ <;>
      rcases hstarted with rfl | ⟨_, _, _, _, rfl⟩ <;> exact .of_eq rfl
  | revoked =>
    refine Extends.enqueue (.of_eq rfl) fun row hrow ↦ ?_
    obtain ⟨_, _, rfl⟩ := List.mem_map.mp hrow
    exact .revoke _
  | provisioned hcall =>
    cases hcall with
    | refreshed howner hdevice hrow hstatus =>
      refine Extends.enqueue (.of_eq rfl) fun row hsent ↦ ?_
      obtain rfl := List.mem_singleton.mp hsent
      exact .upsert howner hdevice hrow hstatus
    | leased _ howner hdevice hrow hstatus =>
      refine Extends.enqueue (.of_eq rfl) fun row hsent ↦ ?_
      rcases List.mem_pair.mp hsent with rfl | rfl
      · exact .upsert howner hdevice hrow hstatus
      · exact .lease _ _
  | @booked batch _ hvisited =>
    refine hvisited.invariant (Extends environment db (.usage batch) db)
      (fun event before after heffect hbefore ↦ ?_) (.of_eq rfl)
    have hkick : ∀ {kicks : List (NodeId × Message)},
        (∀ kick ∈ kicks, ∃ data, kick.2 = .sessionKick data) →
        ∀ row ∈ kicks, QueuedBy environment db (.usage batch) row.2 := by
      intro kicks hkicks row hrow
      obtain ⟨data, hdata⟩ := hkicks row hrow
      rw [hdata]
      exact .exhausted data
    cases heffect with
    | known => exact hbefore
    | unbilled _ _ _ hkicks => exact Extends.enqueue hbefore (hkick hkicks)
    | billed _ _ _ _ hkicks => exact Extends.enqueue hbefore (hkick hkicks)
  | credited | adjusted | assigned | rebound => exact .of_eq rfl

theorem mem_queue_program (hrun : (program environment request).run db = .ok result)
    {command : Command} (hcommand : command ∈ result.commands) :
    command ∈ db.commands ∨ QueuedBy environment db request command.message := by
  obtain ⟨later, hlater, hqueued⟩ := queued_program hrun
  rw [hlater] at hcommand
  exact (List.mem_append.mp hcommand).imp_right (hqueued command)

end RiseVpn.Control
