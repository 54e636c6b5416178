import RiseVpn.Control.SubscriptionStates
import Mathlib.Data.List.Pairwise

/-!
# The notifications of the lifecycle worker

At the end of its transaction `subscriptionLifecycle` inserts notifications for the subscriptions
that it finds then: warnings before the end of a trial and of a grace, and a note when a grace has
begun, a trial has ended and a grace has ended. Each insert is `ON CONFLICT DO NOTHING`, and the
table is `UNIQUE(user_id, kind, scheduled_at)`.

A `NotifiedController` is the database with the notifications of each user, under transactions one
after the other; the runs of the worker have increasing times. A row also carries the `episode` that
it is about, the end of the trial or of the grace: no column holds it, it is what inserting once is
about.

The time that a row is scheduled for is a function of its kind and its episode, except for
`grace.entered`, which is scheduled for the time of the run. `notified_once_iff` says that the rows
of a user are once for each kind and episode as long as no run finds the subscription in a grace
that goes on, and that a run that does breaks it. `entered_twice` are two runs during one grace.
-/

set_option autoImplicit false

namespace RiseVpn.Control

open RowLocking GuardedRun

/-! ### Rows -/

/-- The `kind` of a notification. -/
inductive NotificationKind
  /-- `trial.48h` and the like. -/
  | trialHours (hours : ℕ)
  /-- `trial.blocked`. -/
  | trialBlocked
  /-- `grace.entered`. -/
  | graceEntered
  /-- `grace.12h` and `grace.1h`. -/
  | graceHours (hours : ℕ)
  /-- `grace.blocked`. -/
  | graceBlocked
  deriving DecidableEq

/-- The `payload` of a notification. -/
inductive NotificationPayload
  | empty
  | trial (hours : ℕ) (periodEndsAt : ℤ)
  | grace (hours : ℕ) (graceEndsAt : ℤ)

/-- A row of `notifications`, without its user. `episode` is the end of the trial or of the grace
that it is about. -/
structure Notification where
  kind : NotificationKind
  payload : NotificationPayload
  scheduledAt : ℤ
  episode : ℤ

/-- `INSERT INTO notifications … ON CONFLICT DO NOTHING`, on the rows of the user. -/
def insertNotification (rows : List Notification) (row : Notification) : List Notification :=
  if ∃ other ∈ rows, other.kind = row.kind ∧ other.scheduledAt = row.scheduledAt then rows
  else rows ++ [row]

section Due

variable (txNow : ℤ) (row : Subscription)

/-- `trial.48h` to `trial.1h`. -/
def trialWarnings : List Notification :=
  match row.periodEndsAt with
  | none => []
  | some ends =>
    if row.planCode = .trial ∧ row.status = .active ∧ txNow < ends then
      [48, 24, 12, 6, 3, 1].map fun hours ↦
        ⟨.trialHours hours, .trial hours ends, ends - hours * hour, ends⟩
    else []

/-- `grace.entered`. -/
def graceEntries : List Notification :=
  match row.graceEndsAt with
  | none => []
  | some ends =>
    if row.status = .grace ∧ txNow - 2 * minute < ends then
      [⟨.graceEntered, .empty, txNow, ends⟩]
    else []

/-- `grace.12h` and `grace.1h`. -/
def graceWarnings : List Notification :=
  match row.graceEndsAt with
  | none => []
  | some ends =>
    if row.status = .grace then
      [12, 1].map fun hours ↦ ⟨.graceHours hours, .grace hours ends, ends - hours * hour, ends⟩
    else []

/-- `trial.blocked`. -/
def trialBlocks : List Notification :=
  match row.periodEndsAt with
  | none => []
  | some ends =>
    if row.planCode = .trial ∧ row.status = .expired ∧ txNow - 2 * minute < ends then
      [⟨.trialBlocked, .empty, ends, ends⟩]
    else []

/-- `grace.blocked`. -/
def graceBlocks : List Notification :=
  match row.graceEndsAt with
  | none => []
  | some ends =>
    if row.status = .suspended ∧ txNow - 2 * minute < ends then
      [⟨.graceBlocked, .empty, ends, ends⟩]
    else []

def dueNotifications : List Notification :=
  trialWarnings txNow row ++ graceEntries txNow row ++ graceWarnings row ++ trialBlocks txNow row ++
    graceBlocks txNow row

end Due

/-- The time that a row of a kind is scheduled for when its episode ends at an instant. For
`grace.entered` it is the start of the grace. -/
def NotificationKind.scheduledFor : NotificationKind → ℤ → ℤ
  | .trialHours hours, ends => ends - hours * hour
  | .trialBlocked, ends => ends
  | .graceEntered, ends => ends - 24 * hour
  | .graceHours hours, ends => ends - hours * hour
  | .graceBlocked, ends => ends

section

variable {txNow : ℤ} {row : Subscription} {notice : Notification}
  (hdue : notice ∈ dueNotifications txNow row)

include hdue

theorem dueNotifications_scheduled (hkind : notice.kind ≠ .graceEntered) :
    notice.scheduledAt = notice.kind.scheduledFor notice.episode := by
  simp only [dueNotifications, List.mem_append, trialWarnings, graceEntries, graceWarnings,
    trialBlocks, graceBlocks] at hdue
  rcases hdue with (((hdue | hdue) | hdue) | hdue) | hdue
  all_goals
    split at hdue
    · cases hdue
    · split_ifs at hdue
      · first
          | (obtain ⟨hours, -, rfl⟩ := List.mem_map.mp hdue; rfl)
          | (obtain rfl := List.mem_singleton.mp hdue; first | rfl | exact absurd rfl hkind)
      · cases hdue

theorem entered_due (hkind : notice.kind = .graceEntered) :
    row.status = .grace ∧ row.graceEndsAt = some notice.episode ∧
      txNow - 2 * minute < notice.episode ∧ notice.scheduledAt = txNow := by
  simp only [dueNotifications, List.mem_append, trialWarnings, graceEntries, graceWarnings,
    trialBlocks, graceBlocks] at hdue
  rcases hdue with (((hdue | hdue) | hdue) | hdue) | hdue
  all_goals
    split at hdue
    · cases hdue
    · rename_i ends hends
      split_ifs at hdue with hcondition
      · first
          | (obtain ⟨hours, -, rfl⟩ := List.mem_map.mp hdue; cases hkind)
          | (obtain rfl := List.mem_singleton.mp hdue
             first | exact ⟨hcondition.1, hends, hcondition.2, rfl⟩ | cases hkind)
      · cases hdue

end

theorem entered_mem_due {txNow ends : ℤ} {row : Subscription} (hgrace : row.status = .grace)
    (hends : row.graceEndsAt = some ends) (hrecent : txNow - 2 * minute < ends) :
    ⟨.graceEntered, .empty, txNow, ends⟩ ∈ dueNotifications txNow row := by
  have hentry : ⟨.graceEntered, .empty, txNow, ends⟩ ∈ graceEntries txNow row := by
    simp only [graceEntries, hends, if_pos (And.intro hgrace hrecent), List.mem_singleton]
  simp only [dueNotifications, List.mem_append]
  exact .inl (.inl (.inl (.inr hentry)))

/-! ### Inserting -/

/-- `UNIQUE(user_id, kind, scheduled_at)`. -/
def Unique (rows : List Notification) : Prop :=
  rows.Pairwise fun first second ↦
    ¬ (first.kind = second.kind ∧ first.scheduledAt = second.scheduledAt)

def OncePerEpisode (rows : List Notification) : Prop :=
  rows.Pairwise fun first second ↦
    ¬ (first.kind = second.kind ∧ first.episode = second.episode)

section Inserting

variable {rows due : List Notification} {row : Notification}

theorem mem_insertNotification_iff {other : Notification} :
    other ∈ insertNotification rows row ↔ other ∈ rows ∨ other = row ∧
      ¬ ∃ taken ∈ rows, taken.kind = row.kind ∧ taken.scheduledAt = row.scheduledAt := by
  unfold insertNotification
  split_ifs with htaken
  · simp [htaken]
  · simp [htaken]

theorem mem_insertAll (hrow : row ∈ due.foldl insertNotification rows) :
    row ∈ rows ∨ row ∈ due := by
  induction due generalizing rows with
  | nil => exact .inl hrow
  | cons first due ih =>
    rcases ih hrow with hinserted | hdue
    · rcases mem_insertNotification_iff.mp hinserted with hold | ⟨rfl, -⟩
      · exact .inl hold
      · exact .inr List.mem_cons_self
    · exact .inr (List.mem_cons_of_mem first hdue)

theorem subset_insertAll (rows due : List Notification) :
    rows ⊆ due.foldl insertNotification rows := by
  induction due generalizing rows with
  | nil => exact List.Subset.refl rows
  | cons first due ih =>
    intro row hrow
    exact ih (insertNotification rows first) (mem_insertNotification_iff.mpr (.inl hrow))

theorem exists_inserted (rows : List Notification) (hrow : row ∈ due) :
    ∃ other ∈ due.foldl insertNotification rows,
      other.kind = row.kind ∧ other.scheduledAt = row.scheduledAt := by
  induction due generalizing rows with
  | nil => cases hrow
  | cons first due ih =>
    rcases List.mem_cons.mp hrow with rfl | hlater
    · by_cases htaken : ∃ taken ∈ rows, taken.kind = row.kind ∧ taken.scheduledAt = row.scheduledAt
      · obtain ⟨taken, hmem, hsame⟩ := htaken
        exact ⟨taken, subset_insertAll rows _ hmem, hsame⟩
      · refine ⟨row, subset_insertAll (insertNotification rows row) due ?_, rfl, rfl⟩
        exact mem_insertNotification_iff.mpr (.inr ⟨rfl, htaken⟩)
    · exact ih (insertNotification rows first) hlater

theorem Unique.insertAll (hunique : Unique rows) : Unique (due.foldl insertNotification rows) := by
  induction due generalizing rows with
  | nil => exact hunique
  | cons first due ih =>
    refine ih ?_
    unfold insertNotification
    split_ifs with htaken
    · exact hunique
    · refine List.pairwise_append.mpr ⟨hunique, List.pairwise_singleton _ _, ?_⟩
      intro row hrow other hother hsame
      rw [List.mem_singleton.mp hother] at hsame
      exact htaken ⟨row, hrow, hsame⟩

theorem Unique.oncePerEpisode (hunique : Unique rows)
    (hscheduled : ∀ row ∈ rows, row.scheduledAt = row.kind.scheduledFor row.episode) :
    OncePerEpisode rows := by
  refine List.Pairwise.imp_of_mem (fun {first second} hfirst hsecond hdistinct hsame ↦ ?_) hunique
  refine hdistinct ⟨hsame.1, ?_⟩
  rw [hscheduled first hfirst, hscheduled second hsecond, hsame.1, hsame.2]

end Inserting

/-! ### Who is in grace -/

section Grace

variable {db result : Database} {user : UserId}

def NoNewGrace (db result : Database) : Prop :=
  ∀ user row, result.subscriptions user = some row → row.status = .grace →
    ∃ before, db.subscriptions user = some before ∧ before.status = .grace ∧
      before.graceEndsAt = row.graceEndsAt

theorem noNewGrace_program {environment : Environment} {request : Request}
    (hother : ∀ run, request ≠ .subscriptionLifecycle run)
    (hrun : (program environment request).run db = .ok result) : NoNewGrace db result := by
  intro user row hrow hgrace
  obtain ⟨before, hbefore, hmoved⟩ := exists_row_program hrun hrow
  cases hmoved with
  | kept | scheduled | counted => exact ⟨_, hbefore, hgrace, rfl⟩
  | renewed | purchased | started => cases hgrace
  | managed => exact absurd rfl (hother _)

theorem scannedRow_eq_some {scan : Scan} {due : Subscription → Bool}
    {change : Subscription → Subscription} {row : Option Subscription} {after : Subscription}
    (hscanned : scannedRow scan due change user row = some after) :
    ∃ before, row = some before ∧
      (after = before ∧ ¬ (due before = true ∧ user ∈ scan.users) ∨ after = change before) := by
  unfold scannedRow at hscanned
  split_ifs at hscanned with hfound
  · obtain ⟨before, hbefore, hafter⟩ := Option.map_eq_some_iff.mp hscanned
    refine ⟨before, hbefore, ?_⟩
    unfold updatedIf at hafter
    split_ifs at hafter with hdue
    · exact .inr hafter.symm
    · exact .inl ⟨hafter.symm, fun hboth ↦ hdue hboth.1⟩
  · exact ⟨after, hscanned, .inl ⟨rfl, fun hboth ↦ hfound hboth.2⟩⟩

theorem scannedRow_kept {scan : Scan} {due : Subscription → Bool}
    {change : Subscription → Subscription} {row : Subscription}
    (hkept : ¬ (due row = true ∧ user ∈ scan.users)) :
    scannedRow scan due change user (some row) = some row := by
  unfold scannedRow
  split_ifs with hfound
  · rw [Option.map_some, updatedIf, if_neg fun hdue ↦ hkept ⟨hdue, hfound⟩]
  · rfl

section

variable {directory : Directory} {run : SubscriptionLifecycle} {row : Subscription}
  (hrun : (subscriptionLifecycle directory run).run db = .ok result)

include hrun

theorem lifecycle_grace (hrow : result.subscriptions user = some row) (hgrace : row.status = .grace)
    :
    row.graceEndsAt = some (run.txNow + 24 * hour) ∨
      db.subscriptions user = some row ∧
        ¬ (graceEnded run.txNow row = true ∧ user ∈ run.suspensions.users) := by
  obtain ⟨renewed, hrenewed, hresult⟩ := lifecycle_statuses hrun user
  obtain ⟨graced, hgraced, hlast⟩ := scannedRow_eq_some (hresult.symm.trans hrow)
  rcases hlast with ⟨rfl, hkept⟩ | rfl
  · obtain ⟨expired, hexpired, hsecond⟩ := scannedRow_eq_some hgraced
    rcases hsecond with ⟨rfl, -⟩ | rfl
    · obtain ⟨found, hfound, hfirst⟩ := scannedRow_eq_some hexpired
      rcases hfirst with ⟨rfl, -⟩ | rfl
      · rcases hrenewed with hsame | ⟨before, balance, -, -, hauto⟩
        · exact .inr ⟨hsame.symm.trans hfound, hkept⟩
        · cases hauto.symm.trans hfound
          cases hgrace
      · cases hgrace
    · exact .inl rfl
  · cases hgrace

theorem lifecycle_grace_kept (hrow : db.subscriptions user = some row)
    (hgrace : row.status = .grace)
    (hkept : ¬ (graceEnded run.txNow row = true ∧ user ∈ run.suspensions.users)) :
    result.subscriptions user = some row := by
  obtain ⟨renewed, hrenewed, hresult⟩ := lifecycle_statuses hrun user
  have hsame : renewed = some row := by
    rcases hrenewed with hsame | ⟨before, balance, hbefore, hdue, -⟩
    · exact hsame.trans hrow
    · cases hbefore.symm.trans hrow
      cases hgrace.symm.trans hdue.2.1
  have htrial : ¬ (trialEnded run.txNow row = true ∧ user ∈ run.trials.users) := by
    simp [trialEnded, hgrace]
  have hpaid : ¬ (paidEnded run.txNow row = true ∧ user ∈ run.graces.users) := by
    simp [paidEnded, hgrace]
  rw [hresult, hsame, scannedRow_kept htrial, scannedRow_kept hpaid, scannedRow_kept hkept]

end

end Grace

/-! ### Runs -/

structure NotifiedController where
  db : Database
  notifications : UserId → List Notification
  clock : ℤ

namespace NotifiedController

def initial (db : Database) (clock : ℤ) : NotifiedController := ⟨db, fun _ ↦ [], clock⟩

def notified (controller : NotifiedController) (run : SubscriptionLifecycle) (db : Database) :
    NotifiedController where
  db := db
  notifications := fun user ↦
    ((db.subscriptions user).elim [] (dueNotifications run.txNow)).foldl insertNotification
      (controller.notifications user)
  clock := run.txNow

def step (environment : Environment) (controller : NotifiedController) (request : Request) :
    Option NotifiedController :=
  match (program environment request).run controller.db with
  | .error _ => some controller
  | .ok db =>
    match request with
    | .subscriptionLifecycle run =>
      if controller.clock < run.txNow then some (controller.notified run db) else none
    | _ => some { controller with db := db }

/-- The run of the worker finds the subscription in a grace that goes on, or has ended in the last
two minutes and is not found by the scan for ended ones. -/
def FoundInGrace (controller : NotifiedController) (user : UserId) (run : SubscriptionLifecycle) :
    Prop :=
  ∃ row ∈ controller.db.subscriptions user, row.status = .grace ∧
    ∃ ends ∈ row.graceEndsAt, run.txNow - 2 * minute < ends ∧
      ¬ (ends ≤ run.txNow ∧ user ∈ run.suspensions.users)
  deriving Decidable

/-- No run of the worker finds the subscription of a user in grace. -/
def Announces (user : UserId) (controller : NotifiedController) (request : Request)
    (_ : NotifiedController) : Prop :=
  match request with
  | .subscriptionLifecycle run => ¬ controller.FoundInGrace user run
  | _ => True

instance (user : UserId) (controller : NotifiedController) (request : Request)
    (next : NotifiedController) : Decidable (Announces user controller request next) := by
  unfold Announces
  split <;> infer_instance

structure Tracked (user : UserId) (controller : NotifiedController) : Prop where
  unique : Unique (controller.notifications user)
  scheduled : ∀ row ∈ controller.notifications user,
    row.scheduledAt = row.kind.scheduledFor row.episode
  past : ∀ row ∈ controller.notifications user, row.kind = .graceEntered →
    row.scheduledAt ≤ controller.clock
  entered : ∀ row ends, controller.db.subscriptions user = some row → row.status = .grace →
    row.graceEndsAt = some ends →
    ∃ notice ∈ controller.notifications user, notice.kind = .graceEntered ∧ notice.episode = ends

section Steps

variable {environment : Environment} {controller next : NotifiedController} {user : UserId}
variable {run : SubscriptionLifecycle} {db : Database}

theorem mem_notified {notice : Notification}
    (hnotice : notice ∈ (controller.notified run db).notifications user) :
    notice ∈ controller.notifications user ∨
      ∃ row, db.subscriptions user = some row ∧ notice ∈ dueNotifications run.txNow row := by
  rcases mem_insertAll hnotice with hold | hdue
  · exact .inl hold
  · cases hrow : db.subscriptions user with
    | none =>
      rw [hrow] at hdue
      cases hdue
    | some row =>
      rw [hrow] at hdue
      exact .inr ⟨row, rfl, hdue⟩

theorem exists_entered {row : Subscription} {ends : ℤ} (htracked : controller.Tracked user)
    (hclock : controller.clock < run.txNow) (hrow : db.subscriptions user = some row)
    (hgrace : row.status = .grace) (hends : row.graceEndsAt = some ends)
    (hrecent : run.txNow - 2 * minute < ends) :
    ∃ notice ∈ (controller.notified run db).notifications user,
      notice.kind = .graceEntered ∧ notice.episode = ends ∧ notice.scheduledAt = run.txNow := by
  have hdue := entered_mem_due hgrace hends hrecent
  have hlist : (db.subscriptions user).elim [] (dueNotifications run.txNow) =
      dueNotifications run.txNow row := by
    rw [hrow]
    rfl
  obtain ⟨notice, hnotice, hkind, hscheduled⟩ :=
    exists_inserted (controller.notifications user) hdue
  have hmem : notice ∈ (controller.notified run db).notifications user := by
    simp only [notified, hlist]
    exact hnotice
  refine ⟨notice, hmem, hkind, ?_, hscheduled⟩
  -- The row is not an old one, which all have earlier times.
  rcases mem_insertAll hnotice with hold | hnew
  · have hpast := htracked.past notice hold hkind
    rw [hscheduled] at hpast
    exact absurd hpast (not_le.mpr hclock)
  · obtain ⟨-, hepisode, -, -⟩ := entered_due hnew hkind
    exact (Option.mem_unique hends hepisode).symm

theorem foundInGrace_of_kept {row : Subscription} {ends : ℤ}
    (hrow : controller.db.subscriptions user = some row) (hgrace : row.status = .grace)
    (hends : row.graceEndsAt = some ends) (hrecent : run.txNow - 2 * minute < ends)
    (hkept : ¬ (graceEnded run.txNow row = true ∧ user ∈ run.suspensions.users)) :
    controller.FoundInGrace user run := by
  refine ⟨row, hrow, hgrace, ends, hends, hrecent, fun hended ↦ hkept ⟨?_, hended.2⟩⟩
  rw [graceEnded, decide_eq_true_eq]
  exact ⟨hgrace, ends, hends, hended.1⟩

theorem Tracked.notified (htracked : controller.Tracked user)
    (hrun : (subscriptionLifecycle environment.directory run).run controller.db = .ok db)
    (hclock : controller.clock < run.txNow) (hfound : ¬ controller.FoundInGrace user run) :
    (controller.notified run db).Tracked user where
  unique := htracked.unique.insertAll
  scheduled := by
    intro notice hnotice
    rcases mem_notified hnotice with hold | ⟨row, hrow, hdue⟩
    · exact htracked.scheduled notice hold
    · by_cases hkind : notice.kind = .graceEntered
      · obtain ⟨hgrace, hends, hrecent, hscheduled⟩ := entered_due hdue hkind
        rcases lifecycle_grace hrun hrow hgrace with hentered | ⟨hbefore, hkept⟩
        · rw [hscheduled, hkind, Option.mem_unique hends hentered,
            NotificationKind.scheduledFor]
          omega
        · exact absurd (foundInGrace_of_kept hbefore hgrace hends hrecent hkept) hfound
      · exact dueNotifications_scheduled hdue hkind
  past := by
    intro notice hnotice hkind
    rcases mem_notified hnotice with hold | ⟨row, hrow, hdue⟩
    · exact (htracked.past notice hold hkind).trans hclock.le
    · exact (entered_due hdue hkind).2.2.2.le
  entered := by
    intro row ends hrow hgrace hends
    rcases lifecycle_grace hrun hrow hgrace with hentered | ⟨hbefore, hkept⟩
    · have hrecent : run.txNow - 2 * minute < ends := by
        rw [Option.mem_unique hends hentered]
        simp only [hour, minute, second]
        omega
      obtain ⟨notice, hnotice, hkind, hepisode, -⟩ :=
        exists_entered htracked hclock hrow hgrace hends hrecent
      exact ⟨notice, hnotice, hkind, hepisode⟩
    · obtain ⟨notice, hnotice, hnote⟩ := htracked.entered row ends hbefore hgrace hends
      exact ⟨notice, subset_insertAll _ _ hnotice, hnote⟩

theorem Tracked.moved (htracked : controller.Tracked user)
    (hnone : NoNewGrace controller.db db) : Tracked user { controller with db := db } where
  unique := htracked.unique
  scheduled := htracked.scheduled
  past := htracked.past
  entered := by
    intro row ends hrow hgrace hends
    obtain ⟨before, hbefore, hstatus, hsame⟩ := hnone user row hrow hgrace
    exact htracked.entered before ends hbefore hstatus (hsame.trans hends)

theorem tracked_step (htracked : controller.Tracked user)
    {request : Request} (hannounces : Announces user controller request next)
    (hstep : controller.step environment request = some next) : next.Tracked user := by
  unfold step at hstep
  cases hrun : (program environment request).run controller.db with
  | error failure =>
    rw [hrun] at hstep
    cases hstep
    exact htracked
  | ok db =>
    simp only [hrun] at hstep
    cases request with
    | subscriptionLifecycle run =>
      dsimp only at hstep
      split_ifs at hstep with hclock
      cases hstep
      exact htracked.notified hrun hclock hannounces
    | _ =>
      cases hstep
      exact htracked.moved (noNewGrace_program (fun _ hsame ↦ by cases hsame) hrun)

end Steps

/-- Assumes: a subscription that is not in grace at the start, and a run in which the worker never
finds it in grace. Of each kind there is at most one notification for each trial and each grace.
After one more run of the worker this is so exactly when that run does not find the subscription in
grace either. -/
theorem notified_once_iff {environment : Environment} {start : Database} {clock : ℤ}
    {user : UserId} {controller : NotifiedController}
    (hstart : ∀ row, start.subscriptions user = some row → row.status ≠ .grace)
    (hreach : ReachableUnder (step environment) (Announces user) (initial start clock)
      controller) :
    OncePerEpisode (controller.notifications user) ∧
      ∀ run db, (program environment (.subscriptionLifecycle run)).run controller.db = .ok db →
        controller.clock < run.txNow →
        (OncePerEpisode ((controller.notified run db).notifications user) ↔
          ¬ controller.FoundInGrace user run) := by
  have hinitial : (initial start clock).Tracked user := by
    refine ⟨List.Pairwise.nil, nofun, nofun, fun row ends hrow hgrace ↦ ?_⟩
    exact absurd hgrace (hstart row hrow)
  have htracked : controller.Tracked user := hreach.invariant (Tracked user) hinitial
    fun before request after hbefore hannounces hstep ↦ tracked_step hbefore hannounces hstep
  refine ⟨htracked.unique.oncePerEpisode htracked.scheduled, fun run db hrun hclock ↦ ?_⟩
  constructor
  · rintro honce ⟨row, hrow, hgrace, ends, hends, hrecent, hgoes⟩
    have hkept : ¬ (graceEnded run.txNow row = true ∧ user ∈ run.suspensions.users) := by
      rintro ⟨hended, hscanned⟩
      rw [graceEnded, decide_eq_true_eq] at hended
      obtain ⟨-, other, hother, hle⟩ := hended
      cases Option.mem_unique hends hother
      exact hgoes ⟨hle, hscanned⟩
    -- The note of the start of the grace is there, and the run adds one of its own.
    obtain ⟨first, hfirst, hkind, hepisode⟩ := htracked.entered row ends hrow hgrace hends
    obtain ⟨second, hsecond, hkind', hepisode', hscheduled⟩ := exists_entered htracked hclock
      (lifecycle_grace_kept hrun hrow hgrace hkept) hgrace hends hrecent
    have hpast := htracked.past first hfirst hkind
    have hne : first ≠ second := by
      rintro rfl
      omega
    have : Std.Symm fun first second : Notification ↦
        ¬ (first.kind = second.kind ∧ first.episode = second.episode) :=
      ⟨fun _ _ hdistinct hsame ↦ hdistinct ⟨hsame.1.symm, hsame.2.symm⟩⟩
    exact honce.forall (subset_insertAll _ _ hfirst) hsecond hne
      ⟨hkind.trans hkind'.symm, hepisode.trans hepisode'.symm⟩
  · intro hfound
    have hnext := htracked.notified hrun hclock hfound
    exact hnext.unique.oncePerEpisode hnext.scheduled

def graceBegun : List Request :=
  [soloCredit 14900 "top-up", soloPurchase .lite 0 "first", soloLifecycle (31 * day)]

theorem notified_once_begun : ∃ controller,
    ReachableUnder (step soloEnvironment) (Announces "user") (initial soloDatabase 0) controller ∧
      (controller.notifications "user").map Notification.kind =
        [.graceEntered, .graceHours 12, .graceHours 1] ∧
      OncePerEpisode (controller.notifications "user") := by
  have hstart : ∀ row, soloDatabase.subscriptions "user" = some row → row.status ≠ .grace := by
    rintro _ ⟨⟩
    decide
  have hrun : runUnder (step soloEnvironment) (Announces "user") (initial soloDatabase 0)
    graceBegun = some _ := rfl
  have hreach := reachableUnder_of_runUnder hrun
  exact ⟨_, hreach, rfl, (notified_once_iff hstart hreach).1⟩

/-- The worker runs again a minute later, and the user is told a second time that the grace has
begun. -/
theorem entered_twice : ∃ controller,
    Reachable (step soloEnvironment) (initial soloDatabase 0) controller ∧
      ((controller.notifications "user").filter fun notice ↦
        notice.kind = .graceEntered ∧ notice.episode = 32 * day).map Notification.scheduledAt =
          [31 * day, 31 * day + minute] := by
  have hrun : run (step soloEnvironment) (initial soloDatabase 0)
    (graceBegun ++ [soloLifecycle (31 * day + minute)]) = some _ := rfl
  exact ⟨_, reachable_of_run hrun, rfl⟩

end NotifiedController

end RiseVpn.Control
