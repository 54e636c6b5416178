import RiseVpn.Control.RowEffects

/-!
# Credits with one idempotency key

`creditWallet` raises the balance first and inserts the ledger entry with the key of the request
after it. The unique index on the keys refuses the second entry with a key, also when both
transactions run at the same time: the second one waits for the first to end. The balance it has
raised by then is only pending, and goes away with the transaction.

`CreditDesk` is the controller with the list of the credits that have ended, each with the tables
before and after its last step. `ledgerKeys_program` says that no transaction frees a key, and
`credited_once` that of all credits with one key at most one commits, in any interleaving of the
transactions of the controller, and that every other one is answered with an error and leaves the
tables as they were.
-/

set_option autoImplicit false

namespace RiseVpn.Control

open RowLocking GuardedRun

/-! ### The credits that have ended -/

structure EndedCredit where
  request : CreditWallet
  answer : Except Failure Unit
  before : Database
  after : Database

def EndedCredit.Credited (ended : EndedCredit) : Prop := ended.answer = .ok ()

instance (ended : EndedCredit) : Decidable ended.Credited :=
  match ended with
  | ⟨_, .ok (), _, _⟩ => .isTrue rfl
  | ⟨_, .error _, _, _⟩ => .isFalse nofun

structure CreditDesk where
  controller : Controller
  ended : List EndedCredit

def CreditDesk.opened (db : Database) : CreditDesk := ⟨Controller.idle db, []⟩

/-- The answer to a credit that is rolled back: the failure its transaction ended in, or that of a
statement or commit which the connection did not survive. -/
def refusal : Program → Failure
  | .abort failure => failure
  | _ => .notCredited

def endedCredit (controller next : Controller) (event : ControllerEvent) : List EndedCredit :=
  match event with
  | .commit slot =>
    match controller.sessions slot with
    | some ⟨.creditWallet request, _, _, _⟩ => [⟨request, .ok (), controller.db, next.db⟩]
    | _ => []
  | .rollback slot =>
    match controller.sessions slot with
    | some ⟨.creditWallet request, _, _, rest⟩ =>
      [⟨request, .error (refusal rest), controller.db, next.db⟩]
    | _ => []
  | _ => []

def CreditDesk.step (environment : Environment) (desk : CreditDesk) (event : ControllerEvent) :
    Option CreditDesk :=
  (desk.controller.step environment event).map fun next ↦
    ⟨next, desk.ended ++ endedCredit desk.controller next event⟩

def CreditDesk.creditedWith (desk : CreditDesk) (key : String) : List EndedCredit :=
  desk.ended.filter fun ended ↦ ended.request.idempotencyKey = key ∧ ended.Credited

/-! ### Keys stay taken -/

section Keys

variable {db middle result : Database} {key : String}

def KeysKept (db result : Database) : Prop :=
  ∀ key, db.ledgerKeys key = true → result.ledgerKeys key = true

theorem KeysKept.same (hkeys : result.ledgerKeys = db.ledgerKeys) : KeysKept db result :=
  fun key hkey ↦ by rw [hkeys, hkey]

theorem KeysKept.post {entry : LedgerEntry}
    (hkeys : result.ledgerKeys = Function.update db.ledgerKeys entry.idempotencyKey true) :
    KeysKept db result := by
  intro key hkey
  rw [hkeys, Function.update_apply]
  split_ifs
  · rfl
  · exact hkey

theorem KeysKept.trans (hfirst : KeysKept db middle) (hsecond : KeysKept middle result) :
    KeysKept db result := fun key hkey ↦ hsecond key (hfirst key hkey)

theorem keysKept_renewals {txNow : ℤ} {users : List UserId}
    (hvisited : Visited (RenewEffect txNow) users db result) : KeysKept db result := by
  refine hvisited.invariant (KeysKept db) (fun user before after heffect hkept ↦ ?_)
    (KeysKept.same rfl)
  refine hkept.trans ?_
  cases heffect with
  | skipped => exact .same rfl
  | renewed => exact .post rfl
  | debited => exact .same rfl

theorem keysKept_subscriptionLifecycle {directory : Directory} {request : SubscriptionLifecycle}
    (hrun : (subscriptionLifecycle directory request).run db = .ok result) :
    KeysKept db result := by
  obtain ⟨renewed, expired, graced, suspended, hrenewed, hexpired, hgraced, hsuspended, rfl⟩ :=
    run_subscriptionLifecycle hrun
  have hkept := keysKept_renewals hrenewed
  rw [hexpired.update_frame] at hgraced
  rw [hgraced.update_frame] at hsuspended
  rw [hsuspended.update_frame]
  exact hkept.trans (.same rfl)

theorem ledgerKeys_program {environment : Environment} {request : Request}
    (hrun : (program environment request).run db = .ok result) : KeysKept db result := by
  cases run_program hrun with
  | credited | adjusted => exact .post rfl
  | changed hchanged =>
    cases hchanged with
    | renewed | purchased => exact .post rfl
    | scheduled => exact .same rfl
  | managed hrun => exact keysKept_subscriptionLifecycle hrun
  | bound hstarted hbound =>
    rcases hstarted with rfl | ⟨_, _, _, _, rfl⟩ <;> rcases hbound with rfl | ⟨_, _, rfl⟩ <;>
      exact .same rfl
  | provisioned hcall => cases hcall <;> exact .same rfl
  | booked hvisited =>
    refine hvisited.invariant (KeysKept db) (fun _ _ _ heffect hkept ↦ ?_) (.same rfl)
    refine hkept.trans ?_
    cases heffect <;> exact .same rfl
  | assigned | rebound | revoked => exact .same rfl

theorem ledgerKeys_creditWallet {request : CreditWallet}
    (hrun : (creditWallet request).run db = .ok result) :
    db.ledgerKeys request.key = false ∧ result.ledgerKeys request.key = true := by
  obtain ⟨_, _, _, _, _, hfree, rfl, -⟩ := run_creditWallet hrun
  exact ⟨hfree, Function.update_self _ _ _⟩

end Keys

/-! ### The invariant -/

theorem CreditWallet.key_eq {request : CreditWallet} (hkey : request.idempotencyKey ≠ "") :
    request.key = request.idempotencyKey := if_neg hkey

/-- The invariant: the transactions are in step with a serial run, the keys of committed credits are
taken, no two of them have one key, and a credit that was refused left the tables as they were. -/
structure CreditsSound (environment : Environment) (desk : CreditDesk) : Prop where
  serial : Serial view (program environment) desk.controller
  taken : ∀ ended ∈ desk.ended, ended.Credited → ended.request.idempotencyKey ≠ "" →
    desk.controller.db.ledgerKeys ended.request.idempotencyKey = true
  once : ∀ key, key ≠ "" → (desk.creditedWith key).length ≤ 1
  refused : ∀ ended ∈ desk.ended, ¬ ended.Credited → ended.after = ended.before

section Steps

variable {environment : Environment} {desk : CreditDesk} {next : Controller}

section

variable (hsound : CreditsSound environment desk) (hserial : Serial view (program environment) next)

include hsound hserial

theorem CreditsSound.silent (hkeys : KeysKept desk.controller.db next.db) :
    CreditsSound environment ⟨next, desk.ended ++ []⟩ := by
  rw [List.append_nil]
  exact ⟨hserial, fun ended hended hcredited hkey ↦
    hkeys _ (hsound.taken ended hended hcredited hkey), hsound.once, hsound.refused⟩

theorem CreditsSound.refuse (hdb : next.db = desk.controller.db) (request : CreditWallet)
    (failure : Failure) :
    CreditsSound environment
      ⟨next, desk.ended ++ [⟨request, .error failure, desk.controller.db, next.db⟩]⟩ := by
  refine ⟨hserial, ?_, ?_, ?_⟩
  · intro ended hended hcredited hkey
    rcases List.mem_append.mp hended with hold | hnew
    · have htaken := hsound.taken ended hold hcredited hkey
      rwa [← hdb] at htaken
    · rw [List.mem_singleton.mp hnew] at hcredited
      cases hcredited
  · intro key hkey
    have hnot : ¬ (EndedCredit.mk request (.error failure) desk.controller.db next.db).Credited :=
      nofun
    have honce := hsound.once key hkey
    simpa [CreditDesk.creditedWith, List.filter_append, hnot] using honce
  · intro ended hended hrefused
    rcases List.mem_append.mp hended with hold | hnew
    · exact hsound.refused ended hold hrefused
    · rw [List.mem_singleton.mp hnew]
      exact hdb

theorem CreditsSound.credit (hkeys : KeysKept desk.controller.db next.db) {request : CreditWallet}
    (hfree : desk.controller.db.ledgerKeys request.key = false)
    (htaken : next.db.ledgerKeys request.key = true) :
    CreditsSound environment
      ⟨next, desk.ended ++ [⟨request, .ok (), desk.controller.db, next.db⟩]⟩ := by
  refine ⟨hserial, ?_, ?_, ?_⟩
  · intro ended hended hcredited hkey
    rcases List.mem_append.mp hended with hold | hnew
    · exact hkeys _ (hsound.taken ended hold hcredited hkey)
    · rw [List.mem_singleton.mp hnew] at hkey ⊢
      rwa [CreditWallet.key_eq hkey] at htaken
  · intro key hkey
    by_cases hsame : request.idempotencyKey = key
    · have hnone : desk.creditedWith key = [] := by
        rw [CreditDesk.creditedWith, List.filter_eq_nil_iff]
        intro ended hended hboth
        obtain ⟨hold, hcredited⟩ := of_decide_eq_true hboth
        have hused := hsound.taken ended hended hcredited (by rwa [hold])
        rw [hold, ← hsame, ← CreditWallet.key_eq (by rwa [hsame]), hfree] at hused
        cases hused
      rw [CreditDesk.creditedWith] at hnone ⊢
      rw [List.filter_append, hnone]
      exact List.length_filter_le _ _
    · have honce := hsound.once key hkey
      simpa [CreditDesk.creditedWith, List.filter_append, hsame] using honce
  · intro ended hended hrefused
    rcases List.mem_append.mp hended with hold | hnew
    · exact hsound.refused ended hold hrefused
    · rw [List.mem_singleton.mp hnew] at hrefused
      exact absurd rfl hrefused

end

theorem CreditsSound.step {event : ControllerEvent} {after : CreditDesk}
    (hsound : CreditsSound environment desk)
    (hstep : desk.step environment event = some after) : CreditsSound environment after := by
  obtain ⟨next, hnext, rfl⟩ := Option.map_eq_some_iff.mp hstep
  have hserial := serial_step (program_local environment) hsound.serial hnext
  by_cases hcommit : ∃ slot, event = .commit slot
  · obtain ⟨slot, rfl⟩ := hcommit
    obtain ⟨session, result, hslot, hrun, hview⟩ := commit_serial hsound.serial hnext
    have hsame : next.db.ledgerKeys = result.ledgerKeys := funext fun key ↦
      ledgerKeys_eq (hview (.ledgerKey key))
    have hkeys : KeysKept desk.controller.db next.db :=
      (ledgerKeys_program hrun).trans (.same hsame)
    simp only [endedCredit, hslot]
    rcases session with ⟨request, held, pending, rest⟩
    cases request with
    | creditWallet request =>
      obtain ⟨hfree, htaken⟩ := ledgerKeys_creditWallet hrun
      exact hsound.credit hserial hkeys hfree (by rw [hsame, htaken])
    | _ => exact hsound.silent hserial hkeys
  · have hdb := db_of_not_commit hnext fun slot hevent ↦ hcommit ⟨slot, hevent⟩
    have hkeys : KeysKept desk.controller.db next.db := .same (congrArg Database.ledgerKeys hdb)
    unfold endedCredit
    split
    · exact absurd ⟨_, rfl⟩ hcommit
    · split
      · exact hsound.refuse hserial hdb _ _
      · exact hsound.silent hserial hkeys
    · exact hsound.silent hserial hkeys

end Steps

/-! ### Runs -/

/-- For any interleaved run of the transactions of the controller and any key that is not empty: of
the credits with the key that have ended at most one was committed, every other one was answered
with an error and left all tables as they were, and no step but a commit changes a table. -/
theorem credited_once (environment : Environment) (start : Database) {desk : CreditDesk}
    (hreach : Reachable (CreditDesk.step environment) (.opened start) desk)
    {key : String} (hkey : key ≠ "") :
    (desk.creditedWith key).length ≤ 1 ∧
    (∀ ended ∈ desk.ended, ended.request.idempotencyKey = key →
      ended ∉ desk.creditedWith key →
        (∃ failure, ended.answer = .error failure) ∧ ended.after = ended.before) ∧
    ∀ event after, desk.step environment event = some after →
      (∀ slot, event ≠ .commit slot) → after.controller.db = desk.controller.db := by
  have hsound : CreditsSound environment desk := by
    refine hreach.invariant (CreditsSound environment) ?_ fun _ _ _ hsound hstep ↦
      hsound.step hstep
    exact ⟨serial_idle start, by simp [CreditDesk.opened],
      by simp [CreditDesk.opened, CreditDesk.creditedWith], by simp [CreditDesk.opened]⟩
  refine ⟨hsound.once key hkey, ?_, ?_⟩
  · intro ended hended hsame hother
    have hrefused : ¬ ended.Credited := fun hcredited ↦
      hother (List.mem_filter.mpr ⟨hended, decide_eq_true ⟨hsame, hcredited⟩⟩)
    refine ⟨?_, hsound.refused ended hended hrefused⟩
    cases hanswer : ended.answer with
    | error failure => exact ⟨failure, rfl⟩
    | ok => exact absurd hanswer hrefused
  · intro event after hstep hevent
    obtain ⟨next, hnext, rfl⟩ := Option.map_eq_some_iff.mp hstep
    exact db_of_not_commit hnext hevent

def twoWallets : Database := Database.fresh ["user", "other"] (fun _ ↦ none) fun _ ↦ none

def sameKeyCredit (user : UserId) (amount : ℤ) : Request :=
  .creditWallet ⟨"admin", user, amount, "top-up", "key", ""⟩

def sameKeyCredits (first second : Connection) : List ControllerEvent :=
  [.start first (sameKeyCredit "user" 100), .start second (sameKeyCredit "other" 200), .exec first,
    .exec second, .exec first, .exec second, .exec first, .exec first, .exec first, .commit first,
    .exec second, .rollback second]

theorem credited_once_concurrently : ∃ desk,
    Reachable (CreditDesk.step soloEnvironment) (.opened twoWallets) desk ∧
      desk.ended.length = 2 ∧ (desk.creditedWith "key").length ≤ 1 ∧
      desk.controller.db.wallets "user" = some 100 ∧
      desk.controller.db.wallets "other" = some 0 := by
  have hrun : run (CreditDesk.step soloEnvironment) (.opened twoWallets)
      (sameKeyCredits 0 1) = some _ := rfl
  have hreach := reachable_of_run hrun
  exact ⟨_, hreach, rfl, (credited_once soloEnvironment twoWallets hreach (by decide)).1, rfl, rfl⟩

end RiseVpn.Control
