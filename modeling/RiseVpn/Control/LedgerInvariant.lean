import RiseVpn.Control.RowEffects
import RiseVpn.Library.DecimalText

/-!
# Wallets and their ledger

A wallet is `Settled` when its balance is not negative, is the sum of the amounts in the ledger of
its user and the balance the last entry names, and every entry names the balance that results from
the one before. Every money transaction posts an entry for what it debits or credits, with one
exception: the renewal of `subscriptionLifecycle` debits the wallet and leaves the entry out when
its ledger key is taken, and the key of a credit is whatever the client of `creditWallet` sends.

`wallets_settled` says that wallets stay settled in every interleaved run in which no committed
renewal finds its key taken, and `renewal_unposted` is a run in which one does.
-/

set_option autoImplicit false

namespace RiseVpn.Control

open RowLocking GuardedRun

/-! ### Settled wallets -/

/-- Every entry names the balance before it, `opening` for the first, plus its amount. -/
def RunningFrom : ℤ → List LedgerEntry → Prop
  | _, [] => True
  | opening, entry :: rest =>
    entry.balanceAfterKopecks = opening + entry.amountKopecks ∧
      RunningFrom entry.balanceAfterKopecks rest

def lastBalance (ledger : List LedgerEntry) : ℤ :=
  (ledger.getLast?.map LedgerEntry.balanceAfterKopecks).getD 0

structure Settled (balance : ℤ) (ledger : List LedgerEntry) : Prop where
  nonneg : 0 ≤ balance
  sum : balance = (ledger.map LedgerEntry.amountKopecks).sum
  last : balance = lastBalance ledger
  running : RunningFrom 0 ledger

theorem settled_nil : Settled 0 [] := ⟨le_refl 0, rfl, rfl, trivial⟩

theorem RunningFrom.append {entry : LedgerEntry} :
    ∀ {ledger : List LedgerEntry} {opening : ℤ}, RunningFrom opening ledger →
      entry.balanceAfterKopecks =
        opening + (ledger.map LedgerEntry.amountKopecks).sum + entry.amountKopecks →
      RunningFrom opening (ledger ++ [entry]) := by
  intro ledger
  induction ledger with
  | nil =>
    intro opening _ hentry
    exact ⟨by simpa using hentry, trivial⟩
  | cons first rest ih =>
    intro opening hrunning hentry
    refine ⟨hrunning.1, ih hrunning.2 ?_⟩
    rw [List.map_cons, List.sum_cons] at hentry
    rw [hrunning.1, hentry]
    omega

theorem Settled.post {balance : ℤ} {ledger : List LedgerEntry} (hsettled : Settled balance ledger)
    {entry : LedgerEntry} (hafter : entry.balanceAfterKopecks = balance + entry.amountKopecks)
    (hnonneg : 0 ≤ entry.balanceAfterKopecks) :
    Settled entry.balanceAfterKopecks (ledger ++ [entry]) where
  nonneg := hnonneg
  sum := by
    rw [hafter, List.map_append, List.sum_append, ← hsettled.sum]
    simp
  last := by simp [lastBalance]
  running := hsettled.running.append (by rw [hafter, ← hsettled.sum, Int.zero_add])

def AllSettled (db : Database) : Prop :=
  ∀ user, ∀ balance ∈ db.wallets user, Int64Range balance ∧ Settled balance (db.ledger user)

section Postings

variable {db db' : Database}

theorem AllSettled.same (hsettled : AllSettled db) (hwallets : db'.wallets = db.wallets)
    (hledger : db'.ledger = db.ledger) : AllSettled db' := by
  intro user balance hbalance
  rw [hwallets] at hbalance
  rw [hledger]
  exact hsettled user balance hbalance

theorem AllSettled.post (hsettled : AllSettled db) {user : UserId} {balance : ℤ}
    {entry : LedgerEntry}
    (hledger : db'.ledger = Function.update db.ledger user (db.ledger user ++ [entry]))
    (hwallets : db'.wallets = Function.update db.wallets user (some entry.balanceAfterKopecks))
    (hbalance : db.wallets user = some balance)
    (hafter : entry.balanceAfterKopecks = balance + entry.amountKopecks)
    (hnonneg : 0 ≤ entry.balanceAfterKopecks) (hrange : Int64Range entry.balanceAfterKopecks) :
    AllSettled db' := by
  intro other found hfound
  rw [hwallets] at hfound
  rw [hledger]
  by_cases hother : other = user
  · subst hother
    rw [Function.update_self] at hfound ⊢
    cases hfound
    exact ⟨hrange, (hsettled other balance hbalance).2.post hafter hnonneg⟩
  · rw [Function.update_of_ne hother] at hfound ⊢
    exact hsettled other found hfound

end Postings

/-! ### The transactions -/

variable {db result : Database}

theorem wrap64_balance {balance amount : ℤ} (hbalance : 0 ≤ balance) (hrange : Int64Range balance)
    (hamount : Int64Range amount) (hnonneg : 0 ≤ wrap64 (balance + amount)) :
    wrap64 (balance + amount) = balance + amount := by
  obtain ⟨-, hbalance'⟩ := hrange
  obtain ⟨hlow, hhigh⟩ := hamount
  unfold wrap64 at hnonneg ⊢
  rw [Int.bmod_def] at hnonneg ⊢
  split_ifs at hnonneg ⊢ <;> omega

theorem settled_creditWallet {request : CreditWallet} (hsettled : AllSettled db)
    (hrun : (creditWallet request).run db = .ok result) : AllSettled result := by
  obtain ⟨current, event, hwallet, hnonneg, hrange, -, rfl, -⟩ := run_creditWallet hrun
  exact hsettled.post rfl rfl hwallet rfl hnonneg hrange

theorem settled_adjustWallet {request : AdjustWallet} (hsettled : AllSettled db)
    (hrun : (adjustWallet request).run db = .ok result) : AllSettled result := by
  obtain ⟨current, event, hwallet, hnonneg, hrange, rfl, -⟩ := run_adjustWallet hrun
  obtain ⟨hcurrent, hwas⟩ := hsettled request.userId current hwallet
  exact hsettled.post rfl rfl hwallet
    (wrap64_balance hwas.nonneg hcurrent request.amount_range hnonneg) hnonneg hrange

theorem settled_changePlan {request : ChangePlan} (hsettled : AllSettled db)
    (hrun : (changePlan request).run db = .ok result) : AllSettled result := by
  cases run_changePlan hrun with
  | renewed _ hbalance _ _ _ hamount hafter hnonneg hrange =>
    exact hsettled.post rfl rfl hbalance (by rw [hafter, hamount]; rfl) hnonneg hrange
  | scheduled => exact hsettled.same rfl rfl
  | purchased _ hbalance _ _ _ hamount hafter hnonneg hrange =>
    exact hsettled.post rfl rfl hbalance (by rw [hafter, hamount]; rfl) hnonneg hrange

/-! ### The renewal worker -/

theorem renewalKey_ne {user other : UserId} (hne : user ≠ other) (ends ends' : ℤ) :
    renewalKey user ends ≠ renewalKey other ends' := by
  intro hkey
  have hlist := congrArg String.toList hkey
  simp only [renewalKey, String.toList_append, List.append_assoc] at hlist
  have htail := List.append_cancel_left hlist
  have htext : ∀ n : ℤ, ':' ∉ (toString n).toList :=
    DecimalText.not_mem_toString (by decide) (by decide)
  exact hne (String.ext (DecimalText.append_cons_left_inj (htext _) (htext _) htail))

/-- No row of a scan that is due finds the key of its renewal taken. -/
def RenewalKeysFree (txNow : ℤ) (users : List UserId) (db : Database) : Prop :=
  ∀ user ∈ users, ∀ row ∈ db.subscriptions user, ∀ balance ∈ db.wallets user,
    DueForRenewal txNow row balance →
      db.ledgerKeys (renewalEntry user row balance).idempotencyKey = false

theorem RenewalKeysFree.step {txNow : ℤ} {user : UserId} {users : List UserId} {middle : Database}
    (hnotin : user ∉ users) (hfree : RenewalKeysFree txNow users db)
    (heffect : RenewEffect txNow user db middle) : RenewalKeysFree txNow users middle := by
  intro other hother row hrow balance hbalance hdue
  have hne : other ≠ user := fun h ↦ hnotin (h ▸ hother)
  obtain ⟨hsubscription, hwallet⟩ := Prod.mk.inj (heffect.frame other hne)
  have hbefore := hfree other hother row (hsubscription.symm.trans hrow) balance
    (hwallet.symm.trans hbalance) hdue
  cases heffect with
  | skipped => exact hbefore
  | @renewed row' balance' _ _ _ _ _ _ _ =>
    have hkey : (renewalEntry other row balance).idempotencyKey ≠
        (renewalEntry user row' balance').idempotencyKey := renewalKey_ne hne _ _
    simpa [Database.post, Database.setSubscription, Database.setWallet, hkey] using hbefore
  | debited => exact hbefore

theorem settled_renewals {txNow : ℤ} {users : List UserId} {last : Database}
    (hvisited : Visited (RenewEffect txNow) users db last) (hnodup : users.Nodup)
    (hfree : RenewalKeysFree txNow users db) (hsettled : AllSettled db) : AllSettled last := by
  induction hvisited with
  | nil => exact hsettled
  | @cons user users db middle last heffect _ ih =>
    obtain ⟨hnotin, hnodup⟩ := List.nodup_cons.mp hnodup
    have hrest : RenewalKeysFree txNow users db := fun other hother ↦
      hfree other (List.mem_cons_of_mem _ hother)
    refine ih hnodup (hrest.step hnotin heffect) ?_
    cases heffect with
    | skipped => exact hsettled
    | renewed _ hbalance _ hnonneg hrange _ _ =>
      exact hsettled.post rfl rfl hbalance rfl hnonneg hrange
    | debited hrow hbalance hdue _ hused =>
      have hunused := hfree user List.mem_cons_self _ hrow _ hbalance hdue
      rw [hunused] at hused
      cases hused

theorem settled_subscriptionLifecycle {directory : Directory} {request : SubscriptionLifecycle}
    (hfree : RenewalKeysFree request.txNow request.renewals.users db) (hsettled : AllSettled db)
    (hrun : (subscriptionLifecycle directory request).run db = .ok result) : AllSettled result := by
  obtain ⟨renewed, expired, graced, suspended, hrenewed, hexpired, hgraced, hsuspended, rfl⟩ :=
    run_subscriptionLifecycle hrun
  have hafter := settled_renewals hrenewed request.renewals.nodup hfree hsettled
  rw [hexpired.update_frame] at hgraced
  rw [hgraced.update_frame] at hsuspended
  rw [hsuspended.update_frame]
  exact hafter.same rfl rfl

/-! ### Runs -/

/-- The condition on a committed transaction under which wallets stay settled: the lifecycle worker
finds the keys of the rows it renews free. -/
def RenewsWithFreeKeys : Request → Database → Prop
  | .subscriptionLifecycle request, db => RenewalKeysFree request.txNow request.renewals.users db
  | _, _ => True

theorem settled_program {environment : Environment} {request : Request} (hsettled : AllSettled db)
    (hfree : RenewsWithFreeKeys request db)
    (hrun : (program environment request).run db = .ok result) : AllSettled result := by
  cases run_program hrun with
  | credited => exact settled_creditWallet hsettled hrun
  | adjusted => exact settled_adjustWallet hsettled hrun
  | changed => exact settled_changePlan hsettled hrun
  | managed => exact settled_subscriptionLifecycle hfree hsettled hrun
  | bound hstarted hbound =>
    rcases hstarted with rfl | ⟨_, _, _, _, rfl⟩ <;> rcases hbound with rfl | ⟨_, _, rfl⟩ <;>
      exact hsettled.same rfl rfl
  | provisioned hcall => cases hcall <;> exact hsettled.same rfl rfl
  | booked hvisited =>
    refine hvisited.invariant AllSettled (fun _ _ _ heffect hbefore ↦ ?_) hsettled
    cases heffect <;> exact hbefore.same rfl rfl
  | assigned | rebound | revoked => exact hsettled.same rfl rfl

/-- Assumes: wallets that start empty with an empty ledger, and a run of interleaved transactions,
committed or rolled back at any statement, in which the lifecycle worker never commits a renewal
whose key is taken. Every wallet is settled in the state it reaches. -/
theorem wallets_settled (environment : Environment) {start : Database}
    (hwallets : ∀ user, ∀ balance ∈ start.wallets user, balance = 0)
    (hledger : ∀ user, start.ledger user = []) {controller : Controller}
    (hreach : ReachableUnder (Controller.step environment)
      (CommitMeets RenewsWithFreeKeys) (Controller.idle start) controller) :
    ∀ user, ∀ balance ∈ controller.db.wallets user,
      Settled balance (controller.db.ledger user) := by
  have hstart : AllSettled start := by
    intro user balance hbalance
    rw [hwallets user balance hbalance, hledger user]
    exact ⟨by decide, settled_nil⟩
  have hview : ∀ db db', (∀ key, view key db = view key db') → AllSettled db → AllSettled db' := by
    intro db db' hviews hsettled
    refine hsettled.same (funext fun user ↦ ?_) (funext fun user ↦ ?_)
    · exact (wallets_eq (hviews (.wallet user))).symm
    · exact (ledger_eq (hviews (.wallet user))).symm
  have hfinal := reachable_view_invariant (program_local environment) hview
    (fun request db result hsettled hfree ↦ settled_program hsettled hfree) hstart hreach
  exact fun user balance hbalance ↦ (hfinal user balance hbalance).2

theorem fresh_wallets {users : List UserId} {devices : DeviceId → Option DeviceRow}
    {assignments : DeviceId → Option NodeId} {user : UserId} {balance : ℤ}
    (hbalance : balance ∈ (Database.fresh users devices assignments).wallets user) :
    balance = 0 := by
  unfold Database.fresh at hbalance
  dsimp only at hbalance
  split_ifs at hbalance
  · exact (Option.some.inj hbalance).symm
  · cases hbalance

theorem wallets_settled_renewal : ∃ controller,
    ReachableUnder (Controller.step soloEnvironment) (CommitMeets RenewsWithFreeKeys)
      (Controller.idle soloDatabase) controller ∧
    controller.db.wallets "user" = some 70200 ∧
      Settled 70200 (controller.db.ledger "user") := by
  have hrun : runSerially soloEnvironment
      [soloCredit 100000 "first", soloPurchase .lite 0 "second"] soloDatabase = .ok _ := rfl
  have hpurchased : Reached soloEnvironment RenewsWithFreeKeys soloDatabase _ :=
    Reached.refl.serially _ (by simp [RenewsWithFreeKeys, soloCredit, soloPurchase]) hrun
  have hreached := hpurchased.next (soloLifecycle (30 * day)) ?_ rfl
  · exact ⟨_, hreached, rfl, wallets_settled soloEnvironment (fun _ _ ↦ fresh_wallets) (fun _ ↦ rfl)
      hreached "user" 70200 rfl⟩
  · intro user huser row hrow balance hbalance hdue
    rw [List.mem_singleton.mp huser] at hrow hbalance ⊢
    cases hrow
    rfl

/-- A run that leaves a wallet unsettled: a credit carries the key of the renewal to come, so the
renewal debits the wallet without an entry. -/
theorem renewal_unposted :
    (∀ user, ∀ balance ∈ soloDatabase.wallets user, balance = 0) ∧
    (∀ user, soloDatabase.ledger user = []) ∧
    ∃ controller, Reachable (Controller.step soloEnvironment)
      (Controller.idle soloDatabase) controller ∧
      ∃ user, ∃ balance ∈ controller.db.wallets user,
        ¬ Settled balance (controller.db.ledger user) := by
  have hrun : runSerially soloEnvironment
      [soloCredit 100000 "renew:user:2592000", soloPurchase .lite 0 "second",
        soloLifecycle (30 * day)] soloDatabase = .ok _ := rfl
  have hreached : Reached soloEnvironment (fun _ _ ↦ True) soloDatabase _ :=
    reached_serially _ hrun
  refine ⟨fun _ _ ↦ fresh_wallets, fun _ ↦ rfl, _,
    ReachableUnder.mono hreached fun _ _ _ _ ↦ trivial, "user", 70200, rfl, ?_⟩
  intro hsettled
  exact absurd hsettled.sum (by decide)

end RiseVpn.Control
