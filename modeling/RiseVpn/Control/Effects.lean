import RiseVpn.Control.Requests

/-!
# What a committed transaction does

One inversion lemma for each transaction: a run that commits found the rows it needs, met the checks
on its way and left a database that is named outright. Invariants of the controller are read off
these lemmas and never unfold a transaction.

A statement of the lifecycle worker visits the rows of a scan one after the other; `Visited` is the
chain of their effects, `renewRow_effect` and `updateRow_effect` are the effects on one row, and
`run_subscriptionLifecycle` puts the four scans of a run together. `lifecycle_user` says what a run
does to one user, and `lifecycle_frame` what it queues and leaves alone.
-/

set_option autoImplicit false

namespace RiseVpn.Control

open RowLocking

variable {db result : Database}

/-! ### Loops -/

inductive Visited {Item : Type*} (effect : Item → Database → Database → Prop) :
    List Item → Database → Database → Prop
  | nil {db : Database} : Visited effect [] db db
  | cons {item : Item} {items : List Item} {db middle last : Database}
      (hfirst : effect item db middle) (hrest : Visited effect items middle last) :
      Visited effect (item :: items) db last

theorem run_forEach {Item : Type*} {visit : Item → Program → Program}
    {effect : Item → Database → Database → Prop}
    (hvisit : ∀ item next db result, (visit item next).run db = .ok result →
      ∃ middle, effect item db middle ∧ next.run middle = .ok result) {rest : Program} :
    ∀ (items : List Item) {db result : Database},
      (forEach visit items rest).run db = .ok result →
        ∃ middle, Visited effect items db middle ∧ rest.run middle = .ok result := by
  intro items
  induction items with
  | nil =>
    intro db result hrun
    exact ⟨db, .nil, hrun⟩
  | cons item items ih =>
    intro db result hrun
    obtain ⟨middle, heffect, hnext⟩ := hvisit item _ db result hrun
    obtain ⟨last, hvisited, hrest⟩ := ih hnext
    exact ⟨last, .cons heffect hvisited, hrest⟩

theorem Visited.invariant {Item : Type*} {effect : Item → Database → Database → Prop}
    {items : List Item} {last : Database} (hvisited : Visited effect items db last)
    (property : Database → Prop)
    (hkeeps : ∀ item db middle, effect item db middle → property db → property middle)
    (hproperty : property db) : property last := by
  induction hvisited with
  | nil => exact hproperty
  | cons hfirst _ ih => exact ih (hkeeps _ _ _ hfirst hproperty)

/-! ### Wallets -/

theorem run_creditWallet {request : CreditWallet}
    (hrun : (creditWallet request).run db = .ok result) :
    ∃ current event, db.wallets request.userId = some current ∧
      0 ≤ current + request.amountKopecks ∧ Int64Range (current + request.amountKopecks) ∧
      db.ledgerKeys request.key = false ∧
      result = ((db.setWallet request.userId (current + request.amountKopecks)).post request.userId
        ⟨request.amountKopecks, current + request.amountKopecks, request.reason, request.actor,
          request.key⟩).record event ∧
      event.actorUserId = request.actor ∧ event.subjectId = request.userId := by
  unfold creditWallet at hrun
  split_ifs at hrun with hcheck
  · cases hrun
  · rw [Txn.run_select] at hrun
    cases hwallet : db.wallets request.userId with
    | none =>
      rw [hwallet] at hrun
      cases hrun
    | some current =>
      simp only [hwallet, run_updateWallet, run_insertLedger, run_insertAudit, Txn.run_commit,
        Txn.run_abort] at hrun
      obtain ⟨hnonneg, hrange, -, hkey⟩ := hrun
      split_ifs at hkey with hused
      cases hkey
      exact ⟨current, _, rfl, hnonneg, hrange, Bool.eq_false_of_not_eq_true hused, rfl, rfl, rfl⟩

theorem run_adjustWallet {request : AdjustWallet}
    (hrun : (adjustWallet request).run db = .ok result) :
    ∃ current event, db.wallets request.userId = some current ∧
      0 ≤ wrap64 (current + request.amountKopecks) ∧
      Int64Range (wrap64 (current + request.amountKopecks)) ∧
      result = ((db.setWallet request.userId (wrap64 (current + request.amountKopecks))).post
        request.userId ⟨request.amountKopecks, wrap64 (current + request.amountKopecks),
          request.reason, request.actor, "admin-adjustment:" ++ request.uuid⟩).record event ∧
      event.actorUserId = request.actor ∧ event.subjectId = request.userId := by
  unfold adjustWallet at hrun
  split_ifs at hrun with hrole hcheck
  · cases hrun
  · cases hrun
  · rw [Txn.run_select] at hrun
    cases hwallet : db.wallets request.userId with
    | none =>
      rw [hwallet] at hrun
      cases hrun
    | some current =>
      simp only [hwallet] at hrun
      split_ifs at hrun with hnegative
      · cases hrun
      · simp only [run_updateWallet, run_insertLedger, run_insertAudit, Txn.run_commit,
          Txn.run_abort] at hrun
        obtain ⟨hnonneg, hrange, -, hkey⟩ := hrun
        split_ifs at hkey with hused
        cases hkey
        exact ⟨current, _, rfl, hnonneg, hrange, rfl, rfl, rfl⟩

/-! ### Plans -/

/-- What a committed change of plan does: it renews the running plan, schedules a cheaper one, or
buys or upgrades. -/
inductive PlanChanged (request : ChangePlan) (db : Database) : Database → Prop
  | renewed {row : Subscription} {balance : ℤ} {entry : LedgerEntry} {event : AuditEvent}
      (hrow : db.subscriptions request.userId = some row)
      (hbalance : db.wallets request.userId = some balance)
      (hplan : request.plan = .code row.planCode) (hpaid : row.planCode ≠ .trial)
      (hactive : row.status = .active)
      (hamount : entry.amountKopecks = -row.planCode.row.priceKopecks)
      (hafter : entry.balanceAfterKopecks = balance - row.planCode.row.priceKopecks)
      (hnonneg : 0 ≤ entry.balanceAfterKopecks) (hrange : Int64Range entry.balanceAfterKopecks) :
      PlanChanged request db
        ((((db.setWallet request.userId entry.balanceAfterKopecks).setSubscription request.userId
          (renewedSamePlan row request.now)).post request.userId entry).record event)
  | scheduled {row : Subscription} {next : PlanCode} {event : AuditEvent}
      (hrow : db.subscriptions request.userId = some row) (hplan : request.plan = .code next)
      (hpaid : next ≠ .trial) (hcheaper : next.row.priceKopecks < row.planCode.row.priceKopecks)
      (hactive : row.status = .active) :
      PlanChanged request db ((db.setSubscription request.userId
        { row with pendingPlanCode := some next }).record event)
  | purchased {row : Subscription} {balance : ℤ} {next : PlanCode} {entry : LedgerEntry}
      {event : AuditEvent} (hrow : db.subscriptions request.userId = some row)
      (hbalance : db.wallets request.userId = some balance) (hplan : request.plan = .code next)
      (hpaid : next ≠ .trial)
      (hother : ¬ (next = row.planCode ∧ row.planCode ≠ .trial ∧ row.status = .active))
      (hamount : entry.amountKopecks = -(purchaseTerms row next request.now).cost)
      (hafter : entry.balanceAfterKopecks = balance - (purchaseTerms row next request.now).cost)
      (hnonneg : 0 ≤ entry.balanceAfterKopecks) (hrange : Int64Range entry.balanceAfterKopecks)
      (hvalid : entry.Valid) :
      PlanChanged request db
        ((((db.setWallet request.userId entry.balanceAfterKopecks).setSubscription request.userId
          (purchasedRow row next (purchaseTerms row next request.now))).post
            request.userId entry).record event)

variable {row : Subscription} {directory : Directory} {change : Subscription → Subscription}
  {due : Subscription → Bool} {middle : Database} {user : UserId} {txNow : ℤ}
  {environment : Environment}

theorem run_renewSamePlan {request : ChangePlan} {balance : ℤ}
    (hrow : db.subscriptions request.userId = some row)
    (hbalance : db.wallets request.userId = some balance)
    (hplan : request.plan = .code row.planCode) (hpaid : row.planCode ≠ .trial)
    (hactive : row.status = .active)
    (hrun : (renewSamePlan request row balance).run db = .ok result) :
    PlanChanged request db result := by
  unfold renewSamePlan at hrun
  dsimp only at hrun
  split_ifs at hrun with hfunds
  · cases hrun
  · simp only [run_updateWallet, run_updateSubscription, run_insertLedger, run_insertAudit,
      Txn.run_commit, Txn.run_abort] at hrun
    obtain ⟨hnonneg, hrange, -, hkey⟩ := hrun
    split_ifs at hkey with hused
    cases hkey
    exact .renewed hrow hbalance hplan hpaid hactive rfl rfl hnonneg hrange

theorem run_purchase {request : ChangePlan} {balance : ℤ} {next : PlanCode}
    (hrow : db.subscriptions request.userId = some row)
    (hbalance : db.wallets request.userId = some balance) (hplan : request.plan = .code next)
    (hpaid : next ≠ .trial)
    (hother : ¬ (next = row.planCode ∧ row.planCode ≠ .trial ∧ row.status = .active))
    (hrun : (purchase request row balance next).run db = .ok result) :
    PlanChanged request db result := by
  unfold purchase at hrun
  dsimp only at hrun
  split_ifs at hrun with hfunds
  · cases hrun
  · simp only [run_updateWallet, run_updateSubscription, run_insertLedger, run_insertAudit,
      Txn.run_commit, Txn.run_abort] at hrun
    obtain ⟨hnonneg, hrange, hvalid, hkey⟩ := hrun
    split_ifs at hkey with hused
    cases hkey
    exact .purchased hrow hbalance hplan hpaid hother rfl rfl hnonneg hrange hvalid

theorem run_changePlan {request : ChangePlan} (hrun : (changePlan request).run db = .ok result) :
    PlanChanged request db result := by
  unfold changePlan at hrun
  split_ifs at hrun with hcheck
  · cases hrun
  · rw [Txn.run_select] at hrun
    cases hrow : db.subscriptions request.userId with
    | none =>
      simp only [hrow] at hrun
      cases hrun
    | some row =>
      cases hbalance : db.wallets request.userId with
      | none =>
        simp only [hrow, hbalance] at hrun
        cases hrun
      | some balance =>
        simp only [hrow, hbalance] at hrun
        cases hplan : request.plan with
        | other text =>
          simp only [hplan] at hrun
          cases hrun
        | code next =>
          have hpaid : next ≠ .trial := by
            rintro rfl
            exact hcheck (.inr hplan)
          simp only [hplan] at hrun
          split_ifs at hrun with hsame hcheaper
          · obtain ⟨rfl, htrial, hactive⟩ := hsame
            exact run_renewSamePlan hrow hbalance hplan htrial hactive hrun
          · simp only [scheduleDowngrade, run_updateSubscription, run_insertAudit,
              Txn.run_commit] at hrun
            cases hrun
            exact .scheduled hrow hplan hpaid hcheaper.1 hcheaper.2
          · exact run_purchase hrow hbalance hplan hpaid hsame hrun

/-! ### The lifecycle worker -/

section Visits

variable {effect : UserId → Database → Database → Prop} {users : List UserId} {last : Database}

section

variable (hvisited : Visited effect users db last) {Column : Type*}
  (column : UserId → Database → Column)
  (hframe : ∀ user db middle, effect user db middle → ∀ other, other ≠ user →
    column other middle = column other db)

include hvisited hframe

theorem Visited.column_eq {user : UserId} (huser : user ∉ users) :
    column user last = column user db := by
  induction hvisited with
  | nil => rfl
  | cons hfirst _ ih =>
    rw [List.mem_cons, not_or] at huser
    rw [ih huser.2, hframe _ _ _ hfirst user huser.1]

theorem Visited.column_cases (hnodup : users.Nodup) (user : UserId) :
    column user last = column user db ∨
      ∃ before after, effect user before after ∧ column user before = column user db ∧
        column user last = column user after := by
  induction hvisited with
  | nil => exact .inl rfl
  | @cons first users db middle last hfirst hrest ih =>
    obtain ⟨hnotin, hnodup⟩ := List.nodup_cons.mp hnodup
    by_cases huser : user = first
    · subst huser
      exact .inr ⟨db, middle, hfirst, rfl, hrest.column_eq column hframe hnotin⟩
    · have hkept := hframe first db middle hfirst user huser
      rcases ih hnodup with hsame | ⟨before, after, heffect, hbefore, hafter⟩
      · exact .inl (hsame.trans hkept)
      · exact .inr ⟨before, after, heffect, hbefore.trans hkept, hafter⟩

end

end Visits

inductive RenewEffect (txNow : ℤ) (user : UserId) (db : Database) : Database → Prop
  | skipped : RenewEffect txNow user db db
  | renewed {row : Subscription} {balance : ℤ} (hrow : db.subscriptions user = some row)
      (hbalance : db.wallets user = some balance) (hdue : DueForRenewal txNow row balance)
      (hnonneg : 0 ≤ balance - row.targetPlan.row.priceKopecks)
      (hrange : Int64Range (balance - row.targetPlan.row.priceKopecks))
      (hvalid : (renewalEntry user row balance).Valid)
      (hfree : db.ledgerKeys (renewalEntry user row balance).idempotencyKey = false) :
      RenewEffect txNow user db (((db.setWallet user
        (balance - row.targetPlan.row.priceKopecks)).setSubscription user (autoRenewed row)).post
          user (renewalEntry user row balance))
  | debited {row : Subscription} {balance : ℤ} (hrow : db.subscriptions user = some row)
      (hbalance : db.wallets user = some balance) (hdue : DueForRenewal txNow row balance)
      (hvalid : (renewalEntry user row balance).Valid)
      (hused : db.ledgerKeys (renewalEntry user row balance).idempotencyKey = true) :
      RenewEffect txNow user db ((db.setWallet user
        (balance - row.targetPlan.row.priceKopecks)).setSubscription user (autoRenewed row))

theorem renewRow_effect (txNow : ℤ) (user : UserId) (rest : Program) (db result : Database)
    (hrun : (renewRow txNow user rest).run db = .ok result) :
    ∃ middle, RenewEffect txNow user db middle ∧ rest.run middle = .ok result := by
  unfold renewRow at hrun
  rw [Txn.run_select] at hrun
  cases hrow : db.subscriptions user with
  | none =>
    simp only [hrow] at hrun
    exact ⟨db, .skipped, hrun⟩
  | some row =>
    cases hbalance : db.wallets user with
    | none =>
      simp only [hrow, hbalance] at hrun
      exact ⟨db, .skipped, hrun⟩
    | some balance =>
      simp only [hrow, hbalance] at hrun
      split_ifs at hrun with hdue
      · simp only [run_updateWallet, run_updateSubscription, run_insertLedger] at hrun
        obtain ⟨hnonneg, hrange, hvalid, hkey⟩ := hrun
        split_ifs at hkey with hused
        · exact ⟨_, .debited hrow hbalance hdue hvalid hused, hkey⟩
        · exact ⟨_, .renewed hrow hbalance hdue hnonneg hrange hvalid
            (Bool.eq_false_of_not_eq_true hused), hkey⟩
      · exact ⟨db, .skipped, hrun⟩

/-- What `UPDATE … WHERE …` makes of a row. -/
def updatedIf (due : Subscription → Bool) (change : Subscription → Subscription)
    (row : Subscription) : Subscription :=
  if due row then change row else row

/-- What the visit of one row by an `UPDATE subscriptions` does. -/
def UpdateEffect (due : Subscription → Bool) (change : Subscription → Subscription)
    (user : UserId) (db middle : Database) : Prop :=
  middle = { db with
    subscriptions := Function.update db.subscriptions user
      ((db.subscriptions user).map (updatedIf due change)) }

theorem updateRow_effect (due : Subscription → Bool) (change : Subscription → Subscription)
    (user : UserId) (rest : Program) (db result : Database)
    (hrun : (updateRow due change user rest).run db = .ok result) :
    ∃ middle, UpdateEffect due change user db middle ∧ rest.run middle = .ok result := by
  unfold updateRow at hrun
  unfold UpdateEffect
  rw [Txn.run_select] at hrun
  cases hrow : db.subscriptions user with
  | none =>
    simp only [hrow] at hrun
    refine ⟨db, ?_, hrun⟩
    rw [Option.map_none, ← hrow, Function.update_eq_self]
  | some row =>
    simp only [hrow] at hrun
    rw [Option.map_some, updatedIf]
    split_ifs at hrun ⊢ with hdue
    · exact ⟨_, rfl, hrun⟩
    · refine ⟨db, ?_, hrun⟩
      rw [← hrow, Function.update_eq_self]

theorem run_subscriptionLifecycle {request : SubscriptionLifecycle}
    (hrun : (subscriptionLifecycle directory request).run db = .ok result) :
    ∃ renewed expired graced suspended,
      Visited (RenewEffect request.txNow) request.renewals.users db renewed ∧
      Visited (UpdateEffect (trialEnded request.txNow) fun row ↦ { row with status := .expired })
        request.trials.users renewed expired ∧
      Visited (UpdateEffect (paidEnded request.txNow) fun row ↦
        { row with status := .grace, graceEndsAt := some (request.txNow + 24 * hour) })
        request.graces.users expired graced ∧
      Visited (UpdateEffect (graceEnded request.txNow) fun row ↦ { row with status := .suspended })
        request.suspensions.users graced suspended ∧
      result = (suspended.enqueue request.txNow
        (graceOverrides directory request.txNow suspended)).enqueue request.txNow
          (endedKicks directory request.txNow (suspended.enqueue request.txNow
            (graceOverrides directory request.txNow suspended))) := by
  unfold subscriptionLifecycle at hrun
  obtain ⟨renewed, hrenewed, hrun⟩ := run_forEach (renewRow_effect request.txNow) _ hrun
  obtain ⟨expired, hexpired, hrun⟩ := run_forEach (updateRow_effect _ _) _ hrun
  obtain ⟨graced, hgraced, hrun⟩ := run_forEach (updateRow_effect _ _) _ hrun
  obtain ⟨suspended, hsuspended, hrun⟩ := run_forEach (updateRow_effect _ _) _ hrun
  simp only [run_insertCommands, Txn.run_commit] at hrun
  cases hrun
  exact ⟨renewed, expired, graced, suspended, hrenewed, hexpired, hgraced, hsuspended, rfl⟩

theorem Visited.update_frame {users : List UserId} {last : Database}
    (hvisited : Visited (UpdateEffect due change) users db last) :
    last = { db with subscriptions := last.subscriptions } := by
  induction hvisited with
  | nil => rfl
  | cons hfirst _ ih => rw [ih, hfirst]

/-- The row of a user after an `UPDATE … WHERE …` with the scan. -/
def scannedRow (scan : Scan) (due : Subscription → Bool) (change : Subscription → Subscription)
    (user : UserId) (row : Option Subscription) : Option Subscription :=
  if user ∈ scan.users then row.map (updatedIf due change) else row

theorem Visited.update_subscriptions {scan : Scan} {last : Database}
    (hvisited : Visited (UpdateEffect due change) scan.users db last) (user : UserId) :
    last.subscriptions user = scannedRow scan due change user (db.subscriptions user) := by
  obtain ⟨users, hnodup⟩ := scan
  unfold scannedRow
  dsimp only at hvisited ⊢
  induction hvisited with
  | nil => rfl
  | @cons first users db middle last hfirst hrest ih =>
    obtain ⟨hnotin, hnodup⟩ := List.nodup_cons.mp hnodup
    rw [ih hnodup, hfirst]
    dsimp only
    by_cases huser : user = first
    · rw [huser, if_neg hnotin, if_pos List.mem_cons_self, Function.update_self]
    · simp only [Function.update_of_ne huser, List.mem_cons, huser, false_or]

/-- A row that an `UPDATE … WHERE …` may have changed. -/
def MaybeUpdated (due : Subscription → Bool) (change : Subscription → Subscription)
    (row row' : Subscription) : Prop :=
  row' = row ∨ due row = true ∧ row' = change row

theorem maybeUpdated_updatedIf (row : Subscription) :
    MaybeUpdated due change row (updatedIf due change row) := by
  unfold updatedIf
  split_ifs with hdue
  · exact .inr ⟨hdue, rfl⟩
  · exact .inl rfl

theorem Visited.update_row {scan : Scan} {last : Database}
    (hvisited : Visited (UpdateEffect due change) scan.users db last)
    (hrow : db.subscriptions user = some row) :
    ∃ row', last.subscriptions user = some row' ∧ MaybeUpdated due change row row' := by
  rw [hvisited.update_subscriptions, hrow, scannedRow]
  split_ifs
  · exact ⟨_, rfl, maybeUpdated_updatedIf row⟩
  · exact ⟨row, rfl, .inl rfl⟩

theorem RenewEffect.renews (heffect : RenewEffect txNow user db middle) :
    middle = db ∨ ∃ row balance, db.subscriptions user = some row ∧
      db.wallets user = some balance ∧ DueForRenewal txNow row balance ∧
      middle.subscriptions = Function.update db.subscriptions user (some (autoRenewed row)) ∧
      middle.wallets = Function.update db.wallets user
        (some (balance - row.targetPlan.row.priceKopecks)) := by
  cases heffect with
  | skipped => exact .inl rfl
  | renewed hrow hbalance hdue => exact .inr ⟨_, _, hrow, hbalance, hdue, rfl, rfl⟩
  | debited hrow hbalance hdue => exact .inr ⟨_, _, hrow, hbalance, hdue, rfl, rfl⟩

theorem RenewEffect.frame (heffect : RenewEffect txNow user db middle) (other : UserId)
    (hother : other ≠ user) :
    (middle.subscriptions other, middle.wallets other) =
      (db.subscriptions other, db.wallets other) := by
  rcases heffect.renews with rfl | ⟨row, balance, -, -, -, hsubscriptions, hwallets⟩
  · rfl
  · rw [hsubscriptions, hwallets, Function.update_of_ne hother, Function.update_of_ne hother]

theorem Visited.renew_frame {users : List UserId} {last : Database}
    (hvisited : Visited (RenewEffect txNow) users db last) :
    last = { db with
      wallets := last.wallets
      ledger := last.ledger
      ledgerKeys := last.ledgerKeys
      subscriptions := last.subscriptions } := by
  induction hvisited with
  | nil => rfl
  | cons hfirst _ ih =>
    rw [ih]
    cases hfirst <;> rfl

theorem Visited.renew_row {users : List UserId} {last : Database}
    (hvisited : Visited (RenewEffect txNow) users db last) (hnodup : users.Nodup)
    (hrow : db.subscriptions user = some row) :
    (last.subscriptions user = some row ∧ last.wallets user = db.wallets user) ∨
      ∃ balance, db.wallets user = some balance ∧ DueForRenewal txNow row balance ∧
        last.subscriptions user = some (autoRenewed row) ∧
        last.wallets user = some (balance - row.targetPlan.row.priceKopecks) := by
  have hcolumns := hvisited.column_cases (fun user db ↦ (db.subscriptions user, db.wallets user))
    (fun _ _ _ heffect ↦ heffect.frame) hnodup user
  rcases hcolumns with hsame | ⟨before, after, heffect, hbefore, hafter⟩
  · obtain ⟨hsubscription, hwallet⟩ := Prod.mk.inj hsame
    exact .inl ⟨hsubscription.trans hrow, hwallet⟩
  · obtain ⟨hfound, hhad⟩ := Prod.mk.inj hbefore
    obtain ⟨hleft, hleaves⟩ := Prod.mk.inj hafter
    rw [hleft, hleaves]
    rcases heffect.renews with
      rfl | ⟨found, balance, hrow', hbalance, hdue, hsubscriptions, hwallets⟩
    · exact .inl ⟨hfound.trans hrow, hhad⟩
    · cases (hfound.trans hrow).symm.trans hrow'
      rw [hsubscriptions, hwallets, Function.update_self, Function.update_self]
      exact .inr ⟨balance, hhad.symm.trans hbalance, hdue, rfl, rfl⟩

theorem lifecycle_frame {request : SubscriptionLifecycle}
    (hrun : (subscriptionLifecycle directory request).run db = .ok result) :
    ∃ moved : Database,
      moved = { db with
        wallets := moved.wallets
        ledger := moved.ledger
        ledgerKeys := moved.ledgerKeys
        subscriptions := moved.subscriptions } ∧
      result = (moved.enqueue request.txNow (graceOverrides directory request.txNow moved)).enqueue
        request.txNow (endedKicks directory request.txNow
          (moved.enqueue request.txNow (graceOverrides directory request.txNow moved))) := by
  obtain ⟨renewed, expired, graced, suspended, hrenewed, hexpired, hgraced, hsuspended, rfl⟩ :=
    run_subscriptionLifecycle hrun
  refine ⟨suspended, ?_, rfl⟩
  rw [hsuspended.update_frame, hgraced.update_frame, hexpired.update_frame, hrenewed.renew_frame]

def StatusMoved (txNow : ℤ) (row row' : Subscription) : Prop :=
  ∃ expired graced,
    MaybeUpdated (trialEnded txNow) (fun row ↦ { row with status := .expired }) row expired ∧
    MaybeUpdated (paidEnded txNow) (fun row ↦
      { row with status := .grace, graceEndsAt := some (txNow + 24 * hour) }) expired graced ∧
    MaybeUpdated (graceEnded txNow) (fun row ↦ { row with status := .suspended }) graced row'

theorem StatusMoved.kept {row' : Subscription} (hmoved : StatusMoved txNow row row') :
    row'.planCode = row.planCode ∧ row'.periodStartedAt = row.periodStartedAt ∧
      row'.periodEndsAt = row.periodEndsAt ∧ row'.quotaBytes = row.quotaBytes ∧
      row'.usedBytes = row.usedBytes := by
  obtain ⟨expired, graced, hexpired, hgraced, hsuspended⟩ := hmoved
  rcases hexpired with rfl | ⟨-, rfl⟩ <;> rcases hgraced with rfl | ⟨-, rfl⟩ <;>
    rcases hsuspended with rfl | ⟨-, rfl⟩ <;> exact ⟨rfl, rfl, rfl, rfl, rfl⟩

theorem StatusMoved.of_current {row' : Subscription} (hmoved : StatusMoved txNow row row')
    (hactive : row.status = .active) (hcurrent : ¬ row.EndedBy txNow) : row' = row := by
  obtain ⟨expired, graced, hexpired, hgraced, hsuspended⟩ := hmoved
  rcases hexpired with rfl | ⟨hdue, -⟩
  · rcases hgraced with rfl | ⟨hdue, -⟩
    · rcases hsuspended with rfl | ⟨hdue, -⟩
      · rfl
      · simp [graceEnded, hactive] at hdue
    · simp [paidEnded, hcurrent] at hdue
  · simp [trialEnded, hcurrent] at hdue

theorem lifecycle_user {request : SubscriptionLifecycle}
    (hrun : (subscriptionLifecycle directory request).run db = .ok result)
    (hrow : db.subscriptions user = some row) :
    ∃ renewed row', result.subscriptions user = some row' ∧ StatusMoved request.txNow renewed row' ∧
      ((renewed = row ∧ result.wallets user = db.wallets user) ∨
        ∃ balance, db.wallets user = some balance ∧ DueForRenewal request.txNow row balance ∧
          renewed = autoRenewed row ∧
          result.wallets user = some (balance - row.targetPlan.row.priceKopecks)) := by
  obtain ⟨last, expired, graced, suspended, hrenewed, hexpired, hgraced, hsuspended, rfl⟩ :=
    run_subscriptionLifecycle hrun
  have hwallet : suspended.wallets user = last.wallets user := by
    rw [hsuspended.update_frame, hgraced.update_frame, hexpired.update_frame]
  have hmoved : ∀ renewed, last.subscriptions user = some renewed → ∃ row',
      suspended.subscriptions user = some row' ∧ StatusMoved request.txNow renewed row' := by
    intro renewed hlast
    obtain ⟨rowExpired, hrowExpired, htrial⟩ := hexpired.update_row hlast
    obtain ⟨rowGraced, hrowGraced, hgrace⟩ := hgraced.update_row hrowExpired
    obtain ⟨row', hrow', hsuspend⟩ := hsuspended.update_row hrowGraced
    exact ⟨row', hrow', rowExpired, rowGraced, htrial, hgrace, hsuspend⟩
  rcases hrenewed.renew_row request.renewals.nodup hrow with
    ⟨hkept, hsame⟩ | ⟨balance, hbalance, hdue, hauto, hdebited⟩
  · obtain ⟨row', hrow', hmoved⟩ := hmoved row hkept
    exact ⟨row, row', hrow', hmoved, .inl ⟨rfl, hwallet.trans hsame⟩⟩
  · obtain ⟨row', hrow', hmoved⟩ := hmoved (autoRenewed row) hauto
    exact ⟨autoRenewed row, row', hrow', hmoved,
      .inr ⟨balance, hbalance, hdue, rfl, hwallet.trans hdebited⟩⟩

/-! ### Devices -/

/-- What a committed call of `provisionDevice` does: it queues the device alone, or grants a lease
and queues both. -/
inductive Provisioned (environment : Environment) (request : ProvisionDevice) (db : Database) :
    Database → Prop
  | refreshed {user : UserId} {device : DeviceRow} {row : Subscription}
      (howner : environment.directory.owner request.deviceId = some user)
      (hdevice : db.devices request.deviceId = some device)
      (hrow : db.subscriptions user = some row)
      (hstatus : row.status = .active ∨ row.status = .grace)
      (hactive : 0 < reservedBytes request.txNow (db.leases request.deviceId)) :
      Provisioned environment request db (db.enqueue request.txNow
        [(request.nodeId, upsertMessage request.deviceId device row)])
  | leased {key : String} {user : UserId} {device : DeviceRow} {row : Subscription} {grant : ℤ}
      (hkey : environment.quotaPrivateKey = some key)
      (howner : environment.directory.owner request.deviceId = some user)
      (hdevice : db.devices request.deviceId = some device)
      (hrow : db.subscriptions user = some row)
      (hstatus : row.status = .active ∨ row.status = .grace)
      (hactive : reservedBytes request.txNow (db.leases request.deviceId) ≤ 0)
      (hgrant : grant = reservableBytes row.remaining
        (reservedBytes request.txNow (db.leases request.deviceId)) 1000000000)
      (hsome : grant ≠ 0) :
      Provisioned environment request db ((db.setLeases request.deviceId
        (db.leases request.deviceId ++
          [QuotaLease.row (issuedLease environment key request grant)])).enqueue request.txNow
            [(request.nodeId, upsertMessage request.deviceId device row),
              (request.nodeId, .quotaLease (issuedLease environment key request grant))])

theorem provisionDevice_found {request : ProvisionDevice}
    (hrun : (provisionDevice environment request).run db = .ok result) :
    ∃ key user device row, environment.quotaPrivateKey = some key ∧
      environment.directory.owner request.deviceId = some user ∧
      db.devices request.deviceId = some device ∧ device.revokedAt = none ∧
      db.subscriptions user = some row ∧
      (provisionRow environment key request device row (db.leases request.deviceId)).run db =
        .ok result := by
  unfold provisionDevice at hrun
  cases hkey : environment.quotaPrivateKey with
  | none =>
    simp only [hkey] at hrun
    cases hrun
  | some key =>
    cases howner : environment.directory.owner request.deviceId with
    | none =>
      simp only [hkey, howner] at hrun
      cases hrun
    | some user =>
      simp only [hkey, howner, Txn.run_select] at hrun
      cases hdevice : db.devices request.deviceId with
      | none =>
        simp only [hdevice] at hrun
        cases hrun
      | some device =>
        cases hrow : db.subscriptions user with
        | none =>
          simp only [hdevice, hrow] at hrun
          cases hrun
        | some row =>
          simp only [hdevice, hrow] at hrun
          split_ifs at hrun with hrevoked
          · cases hrun
          · exact ⟨key, user, device, row, rfl, rfl, rfl,
              Option.not_isSome_iff_eq_none.mp hrevoked, hrow, hrun⟩

theorem run_provisionRow {key : String} {request : ProvisionDevice} {device : DeviceRow}
    {leases : List LeaseRow}
    (hrun : (provisionRow environment key request device row leases).run db = .ok result) :
    (row.status = .active ∨ row.status = .grace) ∧
      request.nodeId ∈ environment.directory.nodes ∧
      (0 < reservedBytes request.txNow leases ∧ result = db.enqueue request.txNow
          [(request.nodeId, upsertMessage request.deviceId device row)] ∨
        reservedBytes request.txNow leases ≤ 0 ∧ ∃ grant,
          grant = reservableBytes row.remaining
            (reservedBytes request.txNow leases) 1000000000 ∧ grant ≠ 0 ∧
          result = (db.setLeases request.deviceId (leases ++
            [QuotaLease.row (issuedLease environment key request grant)])).enqueue request.txNow
              [(request.nodeId, upsertMessage request.deviceId device row),
                (request.nodeId, .quotaLease (issuedLease environment key request grant))]) := by
  simp only [provisionRow] at hrun
  split_ifs at hrun with hinactive hactive hnode hgrant hnode
  all_goals cases hrun
  all_goals have hstatus : row.status = .active ∨ row.status = .grace := by tauto
  · exact ⟨hstatus, hnode, .inl ⟨hactive, rfl⟩⟩
  · exact ⟨hstatus, hnode, .inr ⟨Int.not_lt.mp hactive, _, rfl, hgrant, rfl⟩⟩

theorem run_provisionDevice {request : ProvisionDevice}
    (hrun : (provisionDevice environment request).run db = .ok result) :
    Provisioned environment request db result := by
  obtain ⟨key, user, device, row, hkey, howner, hdevice, -, hrow, hrest⟩ :=
    provisionDevice_found hrun
  obtain ⟨hstatus, -, ⟨hactive, rfl⟩ | ⟨hactive, grant, hgrant, hsome, rfl⟩⟩ :=
    run_provisionRow hrest
  · exact .refreshed howner hdevice hrow hstatus hactive
  · exact .leased hkey howner hdevice hrow hstatus hactive hgrant hsome

theorem run_bindHwid {request : BindDevice} (hrun : (bindHwid request).run db = .ok result) :
    result = db ∨ ∃ device, db.devices request.deviceId = some device ∧
      result = db.setDevice request.deviceId { device with
        hwidHmac := some request.fingerprint, lastBoundAt := some request.txNow } := by
  unfold bindHwid at hrun
  rw [Txn.run_select] at hrun
  cases hdevice : db.devices request.deviceId with
  | none =>
    simp only [hdevice, Txn.run_commit] at hrun
    cases hrun
    exact .inl rfl
  | some device =>
    simp only [hdevice, Txn.run_update, Txn.run_commit] at hrun
    cases hrun
    exact .inr ⟨device, rfl, rfl⟩

theorem run_bindDevice {request : BindDevice}
    (hrun : (bindDevice directory request).run db = .ok result) :
    ∃ middle, (middle = db ∨ ∃ user row, db.subscriptions user = some row ∧
        row.status = .pendingTrial ∧ middle = db.setSubscription user (trialRow row request.now)) ∧
      (result = middle ∨ ∃ device, middle.devices request.deviceId = some device ∧
        result = middle.setDevice request.deviceId { device with
          hwidHmac := some request.fingerprint, lastBoundAt := some request.txNow }) := by
  unfold bindDevice at hrun
  split_ifs at hrun with hpending hreused
  · cases hrun
  · cases howner : directory.owner request.deviceId with
    | none =>
      simp only [howner] at hrun
      exact ⟨db, .inl rfl, run_bindHwid hrun⟩
    | some user =>
      simp only [howner, Txn.run_select] at hrun
      cases hrow : db.subscriptions user with
      | none =>
        simp only [hrow] at hrun
        exact ⟨db, .inl rfl, run_bindHwid hrun⟩
      | some row =>
        simp only [hrow] at hrun
        split_ifs at hrun with hstatus
        · exact ⟨_, .inr ⟨user, row, hrow, hstatus, rfl⟩, run_bindHwid hrun⟩
        · exact ⟨db, .inl rfl, run_bindHwid hrun⟩
  · exact ⟨db, .inl rfl, run_bindHwid hrun⟩

theorem run_assignNode {request : AssignNode}
    (hrun : (assignNode directory request).run db = .ok result) :
    result = db.assign request.deviceId request.nodeId := by
  unfold assignNode at hrun
  split_ifs at hrun
  · cases hrun
  · cases hrun
    rfl

theorem run_rebindDevice {request : RebindDevice}
    (hrun : (rebindDevice directory request).run db = .ok result) :
    ∃ device, db.devices request.deviceId = some device ∧
      result = (db.setDevice request.deviceId { device with
        credentialHash := request.credentialHash, hwidHmac := none, lastBoundAt := none }).setLeases
          request.deviceId [] := by
  unfold rebindDevice at hrun
  dsimp only at hrun
  split_ifs at hrun with howner
  · cases hrun
  · rw [Txn.run_select] at hrun
    cases hdevice : db.devices request.deviceId with
    | none =>
      simp only [hdevice] at hrun
      cases hrun
    | some device =>
      simp only [hdevice] at hrun
      split_ifs at hrun
      all_goals cases hrun
      exact ⟨device, rfl, rfl⟩

theorem run_revokeCredential {request : RevokeCredential}
    (hrun : (revokeCredential request).run db = .ok result) :
    result = db.enqueue request.txNow ((db.assignments request.deviceId).toList.map fun node ↦
      (node, .deviceRevoke ⟨request.deviceId, "credential rotation"⟩)) := by
  cases hrun
  rfl

theorem mem_deviceResync {blocked : UserId → Bool} {node : NodeId} {message : Message}
    (hmessage : message ∈ deviceResync directory blocked node db) :
    ∃ id user device row, directory.owner id = some user ∧ db.devices id = some device ∧
      db.subscriptions user = some row ∧ (row.status = .active ∨ row.status = .grace) ∧
      message = upsertMessage id device row := by
  obtain ⟨⟨id, user⟩, hfound, hselected⟩ := List.mem_filterMap.mp hmessage
  unfold resyncRow at hselected
  dsimp only at hselected
  split at hselected
  · rename_i device row assigned hdevice hrow _
    obtain ⟨⟨-, -, -, hstatus⟩, hsame⟩ := Option.ite_none_right_eq_some.mp hselected
    exact ⟨id, user, device, row, directory.owner_of_mem hfound, hdevice, hrow, hstatus,
      (Option.some.inj hsame).symm⟩
  · cases hselected

/-! ### Usage -/

/-- What the body of the loop of `NodeHub.usage` does: nothing for a known event, and for a new one
it inserts the event and bills it to the subscription of the device's user, if there is one. -/
inductive UsageEffect (directory : Directory) (batch : UsageBatch) (event : UsageEvent)
    (db : Database) : Database → Prop
  | known {row : UsageRow} (hrow : db.usageEvents (batch.nodeId, event.eventId) = some row) :
      UsageEffect directory batch event db db
  | unbilled {user : UserId} {kicks : List (NodeId × Message)}
      (hnew : db.usageEvents (batch.nodeId, event.eventId) = none)
      (howner : directory.owner event.deviceId = some user)
      (hsubscription : db.subscriptions user = none)
      (hkicks : ∀ kick ∈ kicks, ∃ data, kick.2 = .sessionKick data) :
      UsageEffect directory batch event db
        ((db.insertUsage batch.nodeId event.eventId (usageRow event)).enqueue batch.txNow kicks)
  | billed {user : UserId} {subscription : Subscription} {used : ℤ}
      {kicks : List (NodeId × Message)}
      (hnew : db.usageEvents (batch.nodeId, event.eventId) = none)
      (howner : directory.owner event.deviceId = some user)
      (hsubscription : db.subscriptions user = some subscription)
      (hused : used = subscription.usedBytes + wrap64 (event.rxBytes + event.txBytes))
      (hkicks : ∀ kick ∈ kicks, ∃ data, kick.2 = .sessionKick data) :
      UsageEffect directory batch event db
        (((db.insertUsage batch.nodeId event.eventId (usageRow event)).bill batch.nodeId
          event.eventId user { subscription with usedBytes := used }).enqueue batch.txNow kicks)

theorem exhaustedKicks_kick {id : DeviceId} :
    ∀ kick ∈ exhaustedKicks directory id db, ∃ data, kick.2 = .sessionKick data := by
  intro kick hkick
  unfold exhaustedKicks at hkick
  split at hkick
  · split_ifs at hkick
    · exact ⟨_, congrArg Prod.snd (List.mem_singleton.mp hkick)⟩
    · cases hkick
  · cases hkick

theorem usageEvent_effect (directory : Directory) (batch : UsageBatch) (event : UsageEvent)
    (rest : Program) (db result : Database)
    (hrun : (usageEvent directory batch event rest).run db = .ok result) :
    ∃ middle, UsageEffect directory batch event db middle ∧ rest.run middle = .ok result := by
  unfold usageEvent at hrun
  by_cases hcheck : event.rxBytes < 0 ∨ event.txBytes < 0
  · rw [if_pos hcheck] at hrun
    cases hrun
  · rw [if_neg hcheck, Txn.run_select] at hrun
    cases hrow : db.usageEvents (batch.nodeId, event.eventId) with
    | some row =>
      simp only [hrow] at hrun
      exact ⟨db, .known hrow, hrun⟩
    | none =>
      cases howner : directory.owner event.deviceId with
      | none =>
        simp only [hrow, howner] at hrun
        cases hrun
      | some user =>
        simp only [hrow, howner] at hrun
        by_cases hnode : batch.nodeId ∉ directory.nodes
        · rw [if_pos hnode] at hrun
          cases hrun
        · rw [if_neg hnode] at hrun
          simp only [billUsage, Txn.run_update, Txn.run_select] at hrun
          cases hsubscription : db.subscriptions user with
          | none =>
            have hseen : (db.insertUsage batch.nodeId event.eventId
                (usageRow event)).subscriptions user = none := hsubscription
            simp only [hseen, run_insertCommands] at hrun
            exact ⟨_, .unbilled hrow howner hsubscription exhaustedKicks_kick, hrun⟩
          | some subscription =>
            have hseen : (db.insertUsage batch.nodeId event.eventId
                (usageRow event)).subscriptions user = some subscription := hsubscription
            simp only [hseen] at hrun
            split_ifs at hrun with hrange
            · simp only [Txn.run_update, run_insertCommands] at hrun
              exact ⟨_, .billed hrow howner hsubscription rfl exhaustedKicks_kick, hrun⟩
            · cases hrun

theorem run_usage {batch : UsageBatch} (hrun : (usage directory batch).run db = .ok result) :
    Visited (UsageEffect directory batch) batch.events db result := by
  obtain ⟨middle, hvisited, hcommit⟩ := run_forEach (usageEvent_effect directory batch) _ hrun
  cases hcommit
  exact hvisited

end RiseVpn.Control
