import RiseVpn.Control.Binding

/-!
# Trials

When a trial becomes active: fetches of `subscriptionDocument` look for an earlier trial of the
person or the machine, activate the subscription, and record the fingerprint, all in one transaction
and any number of them at the same time.

The activations of one person are at most one in every run (`trial_once_per_person`), since the
subscription is updated under its lock and only while its trial is pending; that no two requests
hold a lock is `exclusive_of_reachable`. For one machine nothing like this holds, as the unique
index is on the pair of subject and fingerprint. The search for an earlier trial has to come when no
other fetch with the fingerprint is between its own search and its commit: `TrialsApart` is this
condition on the steps, `trial_once` the result, and `trial_twice_on_one_machine` a run outside it.
-/

set_option autoImplicit false

namespace RiseVpn.Control

open Threads GuardedRun

/-! ### One trial per person -/

/-- What holds of the activations: the subscription of each has left the pending trial, and no two
are of one person. -/
structure ActivatedOnce (accounts : Accounts) (tables : BindingTables) : Prop where
  moved : ∀ activation ∈ tables.activations, ∀ user,
    accounts.subject user = activation.subject →
    ∃ row ∈ tables.subscriptions user, row.status ≠ .pendingTrial
  nodup : (tables.activations.map Activation.subject).Nodup

/-- What holds of a request in progress: it knows the subject of its user, and a subscription it has
locked is a pending trial. -/
structure BindingThread.Pending (accounts : Accounts) (tables : BindingTables)
    (thread : BindingThread) : Prop where
  subject : ∀ read phase, thread = .fetch read phase → read.subject = accounts.subject read.user
  pending : ∀ user, .subscription user ∈ thread.held →
    ∃ row ∈ tables.subscriptions user, row.status = .pendingTrial

section Persons

variable {accounts : Accounts} {hwidHmac : String → String} {tables tables' : BindingTables}
  {thread thread' : BindingThread} {fetch : Fetch}

theorem BindingStep.lockStep (hstep : BindingStep accounts tables thread tables' thread')
    (hheld : thread.held ⊆ tables.locks) :
    LockStep thread.held thread'.held tables.locks tables'.locks := by
  cases hstep with
  | read device hwid read phase hsubject hphase =>
    rcases hphase with rfl | ⟨status, rfl⟩ <;> exact .keep hheld
  | begun read phase hphase => rcases hphase with rfl | rfl <;> exact .keep hheld
  | searched | skipped | returned | decided => exact .keep hheld
  | activated _ _ _ hfree | recorded _ _ _ hfree | found _ _ hfree | selected _ _ hfree =>
    exact .acquire hheld hfree
  | bound | rebound | ended => exact .release

theorem enter_cases (accounts : Accounts) (hwidHmac : String → String) (tables : BindingTables)
    (request : BindingRequest) :
    ((bindingMachine accounts hwidHmac).enter tables request).held = ∅ ∧
    ∀ read phase, (bindingMachine accounts hwidHmac).enter tables request ≠ .fetch read phase := by
  cases request with
  | fetch device hwid =>
    simp only [bindingMachine]
    split_ifs
    · exact ⟨rfl, fun _ _ hread ↦ by cases hread⟩
    · exact ⟨rfl, fun _ _ hread ↦ by cases hread⟩
  | rebind call => exact ⟨rfl, fun _ _ hread ↦ by cases hread⟩

theorem exclusive_of_reachable
    {condition : BindingSystem → BindingEvent → BindingSystem → Prop} {start : BindingTables}
    {system : BindingSystem}
    (hreach : ReachableUnder (bindingMachine accounts hwidHmac).step condition
      (System.idle start) system) :
    Exclusive BindingThread.held BindingTables.locks system := by
  refine Machine.exclusive _ _ hreach
    (fun tables request ↦ (enter_cases accounts hwidHmac tables request).1)
    (fun tables thread outcome tables' thread' hheld hstep ↦ ?_)
    (fun tables change tables' hchange ↦ ?_)
  · exact (bindingStep_of_advance hstep).lockStep hheld
  · exact (leavesTrials_of_change hchange).locks


theorem ActivatedOnce.congr (honce : ActivatedOnce accounts tables)
    (hsubscriptions : tables'.subscriptions = tables.subscriptions)
    (hactivations : tables'.activations = tables.activations) : ActivatedOnce accounts tables' := by
  refine ⟨?_, ?_⟩
  · rw [hactivations, hsubscriptions]
    exact honce.moved
  · rw [hactivations]
    exact honce.nodup

theorem ActivatedOnce.commitFetch (honce : ActivatedOnce accounts tables)
    {writes : BindingWrites}
    (hthread : BindingThread.Pending accounts tables (.fetch fetch (.commit writes))) :
    ActivatedOnce accounts (tables.commitFetch fetch writes) := by
  obtain ⟨txNow, _ | _ | now⟩ := writes
  · exact honce.congr rfl rfl
  · exact honce.congr rfl rfl
  have hsubject : fetch.subject = accounts.subject fetch.user := hthread.subject _ _ rfl
  obtain ⟨row, hrow, hpending⟩ := hthread.pending fetch.user
    (by simp [BindingThread.held, Fetch.written, Fetch.activated])
  rw [Option.mem_def] at hrow
  have hnew : Function.update tables.subscriptions fetch.user
      ((tables.subscriptions fetch.user).map fun row ↦ trialRow row now) fetch.user =
        some (trialRow row now) := by
    simp [hrow]
  refine ⟨fun activation hmem user huser ↦ ?_, ?_⟩
  · by_cases hsame : user = fetch.user
    · subst hsame
      exact ⟨trialRow row now, hnew, by simp [trialRow]⟩
    · rcases List.mem_cons.mp hmem with rfl | hold
      · exact absurd (accounts.subject_injective (huser.trans hsubject)) hsame
      · obtain ⟨other, hother, hmoved⟩ := honce.moved activation hold user huser
        refine ⟨other, ?_, hmoved⟩
        simpa [BindingTables.commitFetch, hsame] using hother
  · refine List.nodup_cons.mpr ⟨fun hmem ↦ ?_, honce.nodup⟩
    obtain ⟨activation, hactivation, hperson⟩ := List.mem_map.mp hmem
    obtain ⟨other, hother, hmoved⟩ := honce.moved activation hactivation fetch.user
      (hsubject.symm.trans hperson.symm)
    rw [Option.mem_def, hrow] at hother
    cases hother
    exact hmoved hpending

theorem BindingThread.Pending.congr (hthread : thread.Pending accounts tables)
    (hsubscriptions : tables'.subscriptions = tables.subscriptions)
    (hsubject : ∀ read phase, thread' = .fetch read phase →
      read.subject = accounts.subject read.user)
    (hheld : ∀ user, .subscription user ∈ thread'.held → .subscription user ∈ thread.held ∨
      ∃ row ∈ tables.subscriptions user, row.status = .pendingTrial) :
    thread'.Pending accounts tables' := by
  refine ⟨hsubject, fun user hlock ↦ ?_⟩
  rw [hsubscriptions]
  exact (hheld user hlock).elim (hthread.pending user) id

theorem BindingThread.Pending.of_held_eq_empty
    (hsubject : ∀ read phase, thread = .fetch read phase →
      read.subject = accounts.subject read.user)
    (hheld : thread.held = ∅) : thread.Pending accounts tables := by
  refine ⟨hsubject, fun user hlock ↦ ?_⟩
  rw [hheld] at hlock
  exact absurd hlock (Finset.notMem_empty _)

section

variable (hstep : BindingStep accounts tables thread tables' thread')

include hstep

theorem ActivatedOnce.advance (honce : ActivatedOnce accounts tables)
    (hthread : thread.Pending accounts tables) : ActivatedOnce accounts tables' := by
  cases hstep with
  | bound read writes => exact honce.commitFetch hthread
  | _ => exact honce.congr rfl rfl

theorem BindingThread.Pending.advance (hthread : thread.Pending accounts tables) :
    thread'.Pending accounts tables' := by
  have hknown : ∀ {read phase}, thread = .fetch read phase → ∀ next found phase,
      BindingThread.fetch read next = .fetch found phase →
        found.subject = accounts.subject found.user := by
    rintro read phase rfl next found phase ⟨⟩
    exact hthread.subject _ _ rfl
  cases hstep with
  | read device hwid read phase hsubject hphase =>
    refine .of_held_eq_empty ?_ (by rcases hphase with rfl | ⟨status, rfl⟩ <;> rfl)
    rintro found next ⟨⟩
    exact hsubject
  | begun read phase hphase =>
    exact .of_held_eq_empty (hknown rfl _) (by rcases hphase with rfl | rfl <;> rfl)
  | searched | skipped | bound => exact .of_held_eq_empty (hknown rfl _) rfl
  | activated read txNow hpending =>
    refine hthread.congr rfl (hknown rfl _) fun user hlock ↦ .inr ?_
    cases Finset.mem_singleton.mp hlock
    exact hpending
  | recorded | found =>
    refine hthread.congr rfl (hknown rfl _) fun user hlock ↦ .inl ?_
    exact (Finset.mem_insert.mp hlock).resolve_left (by simp)
  | selected | decided =>
    refine ⟨fun _ _ hread ↦ (by cases hread), fun user hlock ↦ ?_⟩
    cases Finset.mem_singleton.mp hlock
  | returned | rebound | ended => exact .of_held_eq_empty (fun _ _ hread ↦ by cases hread) rfl

theorem BindingThread.Pending.of_other {other : BindingThread}
    (hother : other.Pending accounts tables) (hapart : ∀ lock ∈ other.held, lock ∉ thread.held) :
    other.Pending accounts tables' := by
  refine ⟨hother.subject, fun user hlock ↦ ?_⟩
  obtain ⟨row, hrow, hpending⟩ := hother.pending user hlock
  refine ⟨row, ?_, hpending⟩
  cases hstep with
  | bound read writes =>
    obtain ⟨txNow, _ | _ | now⟩ := writes
    · exact hrow
    · exact hrow
    · have huser : user ≠ read.user := by
        rintro rfl
        refine hapart _ hlock ?_
        simp [BindingThread.held, Fetch.written, Fetch.activated]
      simpa [BindingTables.commitFetch, huser] using hrow
  | _ => exact hrow

end

theorem ActivatedOnce.change (honce : ActivatedOnce accounts tables)
    (hleaves : LeavesTrials tables tables') : ActivatedOnce accounts tables' := by
  constructor
  · rw [hleaves.activations]
    intro activation hmem user huser
    obtain ⟨row, hrow, hmoved⟩ := honce.moved activation hmem user huser
    rcases hleaves.subscriptions user (Option.ne_none_iff_exists'.mpr ⟨row, hrow⟩) with
      hsame | ⟨-, hnew⟩
    · exact ⟨row, hsame.trans hrow, hmoved⟩
    · exact hnew
  · rw [hleaves.activations]
    exact honce.nodup

theorem BindingThread.Pending.change (hthread : thread.Pending accounts tables)
    (htaken : thread.held ⊆ tables.locks) (hleaves : LeavesTrials tables tables') :
    thread.Pending accounts tables' := by
  refine ⟨hthread.subject, fun user hlock ↦ ?_⟩
  obtain ⟨row, hrow, hpending⟩ := hthread.pending user hlock
  rcases hleaves.subscriptions user (Option.ne_none_iff_exists'.mpr ⟨row, hrow⟩) with
    hsame | ⟨hfree, -⟩
  · exact ⟨row, hsame.trans hrow, hpending⟩
  · exact absurd (htaken hlock) hfree

theorem trial_once_per_person
    {condition : BindingSystem → BindingEvent → BindingSystem → Prop} {start : BindingTables}
    (hstart : start.activations = []) {system : BindingSystem}
    (hreach : ReachableUnder (bindingMachine accounts hwidHmac).step condition
      (System.idle start) system) :
    (system.shared.activations.map Activation.subject).Nodup := by
  have halong := hreach.along _ fun _ hreached ↦ exclusive_of_reachable hreached
  refine (Machine.invariant (ActivatedOnce accounts)
    (fun tables thread ↦ thread.Pending accounts tables) halong
    ⟨by simp [hstart], by simp [hstart]⟩ (fun tables request _ ↦ ?_)
    (fun system slot outcome next thread thread' tables honce hslot hthread hcondition hmove ↦ ?_)
    (fun system change next tables honce hcondition hmove ↦ ?_)).1.nodup
  · obtain ⟨hheld, hfetch⟩ := enter_cases accounts hwidHmac tables request
    exact .of_held_eq_empty (fun read phase hread ↦ absurd hread (hfetch read phase)) hheld
  · have hstep := bindingStep_of_advance hmove
    refine ⟨honce.advance hstep hthread, hthread.advance hstep, ?_⟩
    intro other found hother hfound hpending
    exact hpending.of_other hstep (hcondition.2.apart other slot found thread hfound hslot hother)
  · have hleaves := leavesTrials_of_change hmove
    refine ⟨honce.change hleaves, fun slot thread hslot hthread ↦ ?_⟩
    exact hthread.change (hcondition.2.taken slot thread hslot) hleaves

end Persons

/-! ### One trial per machine -/

/-- The fingerprint of a fetch between its search for an earlier trial and its commit. -/
def BindingThread.activating : BindingThread → Option String
  | .fetch read (.activate _) => some read.fingerprint
  | .fetch read (.record _ _) => some read.fingerprint
  | .fetch read (.bind writes) => writes.trial.map fun _ ↦ read.fingerprint
  | .fetch read (.commit writes) => writes.trial.map fun _ ↦ read.fingerprint
  | _ => none

/-- The condition on the steps of a run for the trials of a machine: a fetch searches for an earlier
trial only when no other with its fingerprint is between its search and its commit. -/
def TrialsApart (system : BindingSystem) (event : BindingEvent) (_next : BindingSystem) : Prop :=
  match event with
  | .advance slot _ => ∀ read txNow, system.threads slot = some (.fetch read (.check txNow)) →
      ∀ other, other ≠ slot → ∀ thread ∈ system.threads other,
        thread.activating ≠ some read.fingerprint
  | _ => True

/-- No two fetches with one fingerprint are between their search and their commit. -/
def ActivatingApart (system : BindingSystem) : Prop :=
  system.Pairwise fun thread thread' ↦
    ∀ fingerprint ∈ thread.activating, fingerprint ∉ thread'.activating

/-- What holds of the activations: the fingerprint of each is recorded, and no two are of one
machine. -/
structure RecordedOnce (tables : BindingTables) : Prop where
  recorded : ∀ activation ∈ tables.activations, ∃ row ∈ tables.trialFingerprints,
    row.2 = activation.fingerprint
  nodup : (tables.activations.map Activation.fingerprint).Nodup

/-- The fingerprint of a fetch that has found no earlier trial is not recorded. -/
def BindingThread.Unrecorded (tables : BindingTables) (thread : BindingThread) : Prop :=
  ∀ fingerprint ∈ thread.activating, ∀ row ∈ tables.trialFingerprints, row.2 ≠ fingerprint

section Machines

variable {accounts : Accounts} {hwidHmac : String → String} {tables tables' : BindingTables}
  {thread thread' : BindingThread} {fetch : Fetch}

theorem enter_not_activating {request : BindingRequest} {fingerprint : String} :
    fingerprint ∉ ((bindingMachine accounts hwidHmac).enter tables request).activating := by
  intro hactivating
  cases hthread : (bindingMachine accounts hwidHmac).enter tables request with
  | fetch read phase => exact (enter_cases accounts hwidHmac tables request).2 read phase hthread
  | query | rebind | finished =>
    rw [hthread] at hactivating
    cases hactivating

theorem RecordedOnce.congr (honce : RecordedOnce tables)
    (hfingerprints : tables'.trialFingerprints = tables.trialFingerprints)
    (hactivations : tables'.activations = tables.activations) : RecordedOnce tables' := by
  refine ⟨?_, ?_⟩
  · rw [hactivations, hfingerprints]
    exact honce.recorded
  · rw [hactivations]
    exact honce.nodup

section

variable (hstep : BindingStep accounts tables thread tables' thread')

include hstep

theorem activating_advance {fingerprint : String} (hactivating : fingerprint ∈ thread'.activating) :
    fingerprint ∈ thread.activating ∨
    ∃ read txNow, thread = .fetch read (.check txNow) ∧ read.fingerprint = fingerprint ∧
      ¬ tables.reused read := by
  cases hstep with
  | searched read txNow hreused =>
    exact .inr ⟨read, txNow, rfl, Option.some.inj hactivating, hreused⟩
  | activated | skipped | recorded | found => exact .inl hactivating
  | read device hwid read phase hsubject hphase =>
    rcases hphase with rfl | ⟨status, rfl⟩ <;> cases hactivating
  | begun read phase hphase => rcases hphase with rfl | rfl <;> cases hactivating
  | _ => cases hactivating

theorem trialFingerprints_advance {row : String × String} (hrow : row ∈ tables'.trialFingerprints) :
    row ∈ tables.trialFingerprints ∨ row.2 ∈ thread.activating := by
  cases hstep with
  | bound read writes =>
    obtain ⟨txNow, _ | activatedAt⟩ := writes
    · exact .inl hrow
    · rcases Finset.mem_insert.mp hrow with rfl | hold
      · exact .inr rfl
      · exact .inl hold
  | _ => exact .inl hrow

theorem RecordedOnce.advance (honce : RecordedOnce tables) (hthread : thread.Unrecorded tables) :
    RecordedOnce tables' := by
  cases hstep with
  | bound read writes =>
    obtain ⟨txNow, _ | activatedAt⟩ := writes
    · exact honce.congr rfl rfl
    -- the fingerprint is recorded in the transaction that activates the trial
    have hkept : ∀ activation ∈ tables.activations,
        ∃ row ∈ insert (read.subject, read.fingerprint) tables.trialFingerprints,
          row.2 = activation.fingerprint := by
      intro activation hmem
      obtain ⟨row, hrow, hsame⟩ := honce.recorded activation hmem
      exact ⟨row, Finset.mem_insert_of_mem hrow, hsame⟩
    cases activatedAt with
    | none => exact ⟨hkept, honce.nodup⟩
    | some now =>
      refine ⟨fun activation hmem ↦ ?_, List.nodup_cons.mpr ⟨fun hmem ↦ ?_, honce.nodup⟩⟩
      · rcases List.mem_cons.mp hmem with rfl | hold
        · exact ⟨_, Finset.mem_insert_self _ _, rfl⟩
        · exact hkept activation hold
      · obtain ⟨activation, hactivation, hmachine⟩ := List.mem_map.mp hmem
        obtain ⟨row, hrow, hsame⟩ := honce.recorded activation hactivation
        exact hthread read.fingerprint rfl row hrow (hsame.trans hmachine)
  | _ => exact honce.congr rfl rfl

theorem trialFingerprints_of_activating {fingerprint : String}
    (hactivating : fingerprint ∈ thread'.activating) :
    tables'.trialFingerprints = tables.trialFingerprints := by
  cases hstep with
  | bound => cases hactivating
  | _ => rfl

theorem BindingThread.Unrecorded.advance (hthread : thread.Unrecorded tables) :
    thread'.Unrecorded tables' := by
  intro fingerprint hactivating row hrow hsame
  rw [trialFingerprints_of_activating hstep hactivating] at hrow
  rcases activating_advance hstep hactivating with hold | ⟨read, txNow, rfl, rfl, hreused⟩
  · exact hthread fingerprint hold row hrow hsame
  · exact hreused ⟨row, hrow, .inr hsame⟩

theorem BindingThread.Unrecorded.of_other {other : BindingThread} (hother : other.Unrecorded tables)
    (hapart : ∀ fingerprint ∈ other.activating, fingerprint ∉ thread.activating) :
    other.Unrecorded tables' := by
  rintro fingerprint hactivating row hrow rfl
  rcases trialFingerprints_advance hstep hrow with hold | hnew
  · exact hother row.2 hactivating row hold rfl
  · exact hapart row.2 hactivating hnew

end

theorem activatingApart_of_trialsApart {start : BindingTables} {system : BindingSystem}
    (hreach : ReachableUnder (bindingMachine accounts hwidHmac).step TrialsApart
      (System.idle start) system) : ActivatingApart system := by
  refine Machine.pairwise
    (fun thread thread' ↦ ∀ fingerprint ∈ thread.activating, fingerprint ∉ thread'.activating)
    (fun hapart fingerprint hactivating hactivating' ↦ hapart fingerprint hactivating' hactivating)
    hreach (fun _ _ _ _ _ _ _ _ _ _ ↦ enter_not_activating) ?_
  intro system slot outcome next thread thread' tables other found hcondition hslot hmove hother
    hfound hapart fingerprint hactivating hactivating'
  rcases activating_advance (bindingStep_of_advance hmove) hactivating' with
    hold | ⟨read, txNow, rfl, rfl, -⟩
  · exact hapart fingerprint hactivating hold
  · exact hcondition read txNow hslot other hother found hfound hactivating

/-- Assumes: a run from no activations, in which a fetch searches for an earlier trial only when no
other with its fingerprint is between its search and its commit. No two activations are of one
person, and no two of one machine. -/
theorem trial_once {start : BindingTables} (hstart : start.activations = [])
    {system : BindingSystem}
    (hreach : ReachableUnder (bindingMachine accounts hwidHmac).step TrialsApart
      (System.idle start) system) :
    (system.shared.activations.map Activation.subject).Nodup ∧
      (system.shared.activations.map Activation.fingerprint).Nodup := by
  refine ⟨trial_once_per_person hstart hreach, ?_⟩
  have halong := hreach.along _ fun _ hreached ↦ activatingApart_of_trialsApart hreached
  refine (Machine.invariant RecordedOnce (fun tables thread ↦ thread.Unrecorded tables) halong
    ⟨by simp [hstart], by simp [hstart]⟩
    (fun tables request _ fingerprint hactivating ↦ absurd hactivating enter_not_activating)
    (fun system slot outcome next thread thread' tables honce hslot hthread hcondition hmove ↦ ?_)
    (fun system change next tables honce hcondition hmove ↦ ?_)).1.nodup
  · have hstep := bindingStep_of_advance hmove
    refine ⟨honce.advance hstep hthread, hthread.advance hstep, ?_⟩
    intro other found hother hfound hunrecorded
    exact hunrecorded.of_other hstep (hcondition.2 other slot found thread hfound hslot hother)
  · have hleaves := leavesTrials_of_change hmove
    refine ⟨honce.congr hleaves.trialFingerprints hleaves.activations,
      fun slot thread _ hthread ↦ ?_⟩
    intro fingerprint hactivating row hrow
    rw [hleaves.trialFingerprints] at hrow
    exact hthread fingerprint hactivating row hrow

end Machines

/-! ### Two persons with one machine -/

def trialsOnTwoMachines : List BindingEvent :=
  [.start 0 (.fetch "first" "laptop"), .start 1 (.fetch "third" "phone")] ++ advances 0 3 ++
    advances 1 3 ++ advances 0 5 ++ advances 1 5

def trialsOnOneMachine : List BindingEvent :=
  [.start 0 (.fetch "first" "laptop"), .start 1 (.fetch "third" "laptop")] ++ advances 0 3 ++
    advances 1 3 ++ advances 0 5 ++ advances 1 5

theorem trial_once_on_two_machines :
    (bindingRun trialsOnTwoMachines).shared.activations =
      [⟨"other", "phone"⟩, ⟨"user", "laptop"⟩] ∧
    ((bindingRun trialsOnTwoMachines).shared.activations.map Activation.subject).Nodup ∧
    ((bindingRun trialsOnTwoMachines).shared.activations.map Activation.fingerprint).Nodup := by
  have hmeets : RunMeets (bindingMachine threeDevices id).step TrialsApart
      (System.idle unboundTables) trialsOnTwoMachines (bindingRun trialsOnTwoMachines) := by
    refine ⟨_, rfl, trivial, _, rfl, trivial, _, rfl, ?_, _, rfl, ?_, _, rfl, ?_, _, rfl, ?_,
      _, rfl, ?_, _, rfl, ?_, _, rfl, ?_, _, rfl, ?_, _, rfl, ?_, _, rfl, ?_, _, rfl, ?_,
      _, rfl, ?_, _, rfl, ?_, _, rfl, ?_, _, rfl, ?_, _, rfl, ?_, rfl⟩
    · rintro read txNow ⟨⟩
    · rintro read txNow ⟨⟩
    · -- the other person has not read anything yet
      rintro read txNow ⟨⟩ other hother thread hthread
      obtain _ | _ | other := other
      · exact absurd rfl hother
      · cases hthread
        rintro ⟨⟩
      · cases hthread
    · rintro read txNow ⟨⟩
    · rintro read txNow ⟨⟩
    · -- the other person is about to activate the trial of another machine
      rintro read txNow ⟨⟩ other hother thread hthread
      obtain _ | _ | other := other
      · cases hthread
        simp [BindingThread.activating]
      · exact absurd rfl hother
      · cases hthread
    all_goals rintro read txNow ⟨⟩
  exact ⟨rfl, trial_once rfl (reachableUnder_of_runMeets hmeets)⟩

/-- Both trials have become active. -/
theorem trial_twice_on_one_machine :
    Reachable (bindingMachine threeDevices id).step (System.idle unboundTables)
      (bindingRun trialsOnOneMachine) ∧
    (bindingRun trialsOnOneMachine).shared.activations =
      [⟨"other", "laptop"⟩, ⟨"user", "laptop"⟩] := by
  exact ⟨reachable_getD _, rfl⟩

end RiseVpn.Control
