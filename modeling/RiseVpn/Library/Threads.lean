import RiseVpn.Library.GuardedRun
import Mathlib.Data.Finset.SDiff

/-!
# Handlers that run at the same time on a shared state

A `Machine` describes the handlers of a server. A request enters as a thread, a thread advances by
one atomic operation on the shared state at a time, and the shared state may also change by itself.
An operation that waits for a lock is refused until the lock is free; an operation whose outcome is
not determined takes it as its input. A `System` holds the shared state and any number of threads,
and `Machine.step` is one event of it, so a run is an arbitrary interleaving.

`step_cases` says what an event can do. `Machine.invariant` is the rule for a property of the shared
state together with one of every thread: a thread keeps both with its own operations, and what it
does to the shared state disturbs no other thread. `Machine.pairwise` is the rule for a property of
every two threads, and `Machine.exclusive` the one for locks: threads that only make a `LockStep` at
a time never have a lock in common.
-/

set_option autoImplicit false

namespace Threads

/-- The handlers of a server: how a request enters, what a thread does next, and how the shared
state may change otherwise. -/
structure Machine (Shared Request Thread Input Change : Type*) where
  enter : Shared → Request → Thread
  advance : Shared → Thread → Input → Option (Shared × Thread)
  change : Shared → Change → Option Shared

structure System (Slot Shared Thread : Type*) where
  shared : Shared
  threads : Slot → Option Thread

/-- A request enters, a thread advances, or the shared state changes. -/
inductive Event (Slot Request Input Change : Type*)
  | start (slot : Slot) (request : Request)
  | advance (slot : Slot) (input : Input)
  | change (change : Change)

section Step

variable {Slot Shared Request Thread Input Change : Type*} [DecidableEq Slot]

def System.idle (shared : Shared) : System Slot Shared Thread := ⟨shared, fun _ ↦ none⟩

def System.set (system : System Slot Shared Thread) (slot : Slot) (thread : Thread) :
    System Slot Shared Thread :=
  { system with threads := Function.update system.threads slot (some thread) }

/-- One event of the system. A start on a busy slot is refused. -/
def Machine.step (machine : Machine Shared Request Thread Input Change)
    (system : System Slot Shared Thread) :
    Event Slot Request Input Change → Option (System Slot Shared Thread)
  | .start slot request =>
    match system.threads slot with
    | none => some (system.set slot (machine.enter system.shared request))
    | some _ => none
  | .advance slot input =>
    match system.threads slot with
    | none => none
    | some thread =>
      (machine.advance system.shared thread input).map fun result ↦
        { system.set slot result.2 with shared := result.1 }
  | .change change =>
    (machine.change system.shared change).map fun shared ↦ { system with shared }

variable {machine : Machine Shared Request Thread Input Change}
  {system next : System Slot Shared Thread} {event : Event Slot Request Input Change}

theorem step_cases (hstep : machine.step system event = some next) :
    (∃ slot request, event = .start slot request ∧ system.threads slot = none ∧
      next = system.set slot (machine.enter system.shared request)) ∨
    (∃ slot input thread shared thread', event = .advance slot input ∧
      system.threads slot = some thread ∧
      machine.advance system.shared thread input = some (shared, thread') ∧
      next = { system.set slot thread' with shared }) ∨
    (∃ change shared, event = .change change ∧
      machine.change system.shared change = some shared ∧ next = { system with shared }) := by
  cases event with
  | start slot request =>
    left
    simp only [Machine.step] at hstep
    split at hstep
    · rename_i hslot
      exact ⟨slot, request, rfl, hslot, (Option.some.inj hstep).symm⟩
    · cases hstep
  | advance slot input =>
    right; left
    simp only [Machine.step] at hstep
    split at hstep
    · cases hstep
    · rename_i thread hslot
      obtain ⟨⟨shared, thread'⟩, hadvance, rfl⟩ := Option.map_eq_some_iff.mp hstep
      exact ⟨slot, input, thread, shared, thread', rfl, hslot, hadvance, rfl⟩
  | change change =>
    right; right
    obtain ⟨shared, hchange, rfl⟩ := Option.map_eq_some_iff.mp hstep
    exact ⟨change, shared, rfl, hchange, rfl⟩

@[simp] theorem System.set_self (system : System Slot Shared Thread) (slot : Slot)
    (thread : Thread) : (system.set slot thread).threads slot = some thread := by
  simp [System.set]

theorem System.set_of_ne (system : System Slot Shared Thread) {slot other : Slot} (thread : Thread)
    (hother : other ≠ slot) : (system.set slot thread).threads other = system.threads other := by
  simp [System.set, hother]

theorem System.mem_set {slot other : Slot} {thread found : Thread}
    (hfound : (system.set slot thread).threads other = some found) :
    (other = slot ∧ found = thread) ∨ (other ≠ slot ∧ system.threads other = some found) := by
  by_cases hother : other = slot
  · subst hother
    rw [System.set_self] at hfound
    exact .inl ⟨rfl, (Option.some.inj hfound).symm⟩
  · rw [System.set_of_ne system thread hother] at hfound
    exact .inr ⟨hother, hfound⟩

/-- A property of every two threads. -/
def System.Pairwise (apart : Thread → Thread → Prop) (system : System Slot Shared Thread) : Prop :=
  ∀ slot slot' thread thread', system.threads slot = some thread →
    system.threads slot' = some thread' → slot ≠ slot' → apart thread thread'

theorem System.Pairwise.set {apart : Thread → Thread → Prop} {slot : Slot} {new : Thread}
    (hapart : system.Pairwise apart)
    (hsymm : ∀ {thread thread'}, apart thread thread' → apart thread' thread)
    (hnew : ∀ other found, other ≠ slot → system.threads other = some found → apart found new) :
    (system.set slot new).Pairwise apart := by
  intro first second one two hone htwo hne
  rcases System.mem_set hone with ⟨hfirst, rfl⟩ | ⟨hfirst, hone'⟩ <;>
    rcases System.mem_set htwo with ⟨hsecond, rfl⟩ | ⟨hsecond, htwo'⟩
  · exact absurd (hfirst.trans hsecond.symm) hne
  · exact hsymm (hnew second two hsecond htwo')
  · exact hnew first one hfirst hone'
  · exact hapart first second one two hone' htwo' hne

section

variable
  {condition : System Slot Shared Thread → Event Slot Request Input Change →
    System Slot Shared Thread → Prop}
  {start : Shared} {state : System Slot Shared Thread}

/-- The rule for a property of the shared state together with one of every thread. Assumes: both at
the start; a request that enters has the second; a thread that advances under the condition keeps
both and disturbs the second for no other thread; and so does a change. -/
theorem Machine.invariant (shares : Shared → Prop) (owns : Shared → Thread → Prop)
    (hreach : GuardedRun.ReachableUnder machine.step condition (System.idle start) state)
    (hstart : shares start)
    (henter : ∀ shared request, shares shared → owns shared (machine.enter shared request))
    (hadvance : ∀ system slot input next thread thread' shared, shares system.shared →
      system.threads slot = some thread → owns system.shared thread → condition system (.advance
      slot input) next → machine.advance system.shared thread input = some (shared, thread') →
      shares shared ∧ owns shared thread' ∧ ∀ other found, other ≠ slot → system.threads other =
      some found → owns system.shared found → owns shared found)
    (hchange : ∀ system change next shared, shares system.shared → condition system (.change change)
      next → machine.change system.shared change = some shared → shares shared ∧ ∀ slot thread,
      system.threads slot = some thread → owns system.shared thread → owns shared thread) :
    shares state.shared ∧ ∀ slot thread, state.threads slot = some thread →
      owns state.shared thread := by
  refine hreach.invariant
    (fun system ↦ shares system.shared ∧ ∀ slot thread, system.threads slot = some thread →
      owns system.shared thread) ⟨hstart, fun slot thread hthread ↦ by cases hthread⟩ ?_
  intro system event next hsystem hcondition hstep
  obtain ⟨hshares, howns⟩ := hsystem
  rcases step_cases hstep with ⟨slot, request, rfl, -, rfl⟩ |
    ⟨slot, input, thread, shared, thread', rfl, hslot, hmove, rfl⟩ |
    ⟨change, shared, rfl, hmove, rfl⟩
  · refine ⟨hshares, fun other found hfound ↦ ?_⟩
    rcases System.mem_set hfound with ⟨-, rfl⟩ | ⟨-, hold⟩
    · exact henter _ request hshares
    · exact howns other found hold
  · obtain ⟨hshared, hown, hothers⟩ :=
      hadvance system slot input _ thread thread' shared hshares hslot (howns slot thread hslot)
        hcondition hmove
    refine ⟨hshared, fun other found hfound ↦ ?_⟩
    rcases System.mem_set hfound with ⟨-, rfl⟩ | ⟨hother, hold⟩
    · exact hown
    · exact hothers other found hother hold (howns other found hold)
  · obtain ⟨hshared, hothers⟩ := hchange system change _ shared hshares hcondition hmove
    exact ⟨hshared, fun slot thread hthread ↦
      hothers slot thread hthread (howns slot thread hthread)⟩

/-- The rule for a property of every two threads. Assumes: a symmetric property, which a request
that enters has with every thread, and which a thread that advances keeps with every other. -/
theorem Machine.pairwise (apart : Thread → Thread → Prop)
    (hsymm : ∀ {thread thread'}, apart thread thread' → apart thread' thread)
    (hreach : GuardedRun.ReachableUnder machine.step condition (System.idle start) state)
    (henter : ∀ system slot request next other found, condition system (.start slot request) next →
      system.threads other = some found → apart found (machine.enter system.shared request))
    (hadvance : ∀ system slot input next thread thread' shared other found, condition system
      (.advance slot input) next → system.threads slot = some thread → machine.advance system.shared
      thread input = some (shared, thread') → other ≠ slot → system.threads other = some found →
      apart found thread → apart found thread') : state.Pairwise apart := by
  refine hreach.invariant (System.Pairwise apart) (fun _ _ _ _ hthread ↦ by cases hthread) ?_
  intro system event next hapart hcondition hstep
  rcases step_cases hstep with ⟨slot, request, rfl, -, rfl⟩ |
    ⟨slot, input, thread, shared, thread', rfl, hslot, hmove, rfl⟩ | ⟨change, shared, rfl, -, rfl⟩
  · exact hapart.set hsymm fun other found _ hfound ↦
      henter system slot request _ other found hcondition hfound
  · exact hapart.set hsymm fun other found hother hfound ↦
      hadvance system slot input _ thread thread' shared other found hcondition hslot hmove hother
        hfound (hapart other slot found thread hfound hslot hother)
  · exact hapart

end

end Step

/-! ### Locks -/

section Locks

variable {Lock : Type*} [DecidableEq Lock] {held held' taken taken' : Finset Lock}

/-- What an operation may do to the locks `held` by its thread and to all that are `taken`: it
acquires locks that are not taken, its own are taken afterwards, and it gives back no others. -/
structure LockStep (held held' taken taken' : Finset Lock) : Prop where
  free : ∀ lock ∈ held', lock ∉ held → lock ∉ taken
  own : held' ⊆ taken'
  others : taken \ held ⊆ taken'

theorem LockStep.keep (hheld : held ⊆ taken) : LockStep held held taken taken :=
  ⟨fun _ hlock hnot ↦ absurd hlock hnot, hheld, Finset.sdiff_subset⟩

theorem LockStep.acquire (hheld : held ⊆ taken) {lock : Lock} (hfree : lock ∉ taken) :
    LockStep held (insert lock held) taken (insert lock taken) := by
  refine ⟨fun other hother hnot ↦ ?_, Finset.insert_subset_insert lock hheld,
    Finset.sdiff_subset.trans (Finset.subset_insert lock taken)⟩
  rcases Finset.mem_insert.mp hother with rfl | hold
  · exact hfree
  · exact absurd hold hnot

theorem LockStep.release : LockStep held ∅ taken (taken \ held) :=
  ⟨fun _ hlock ↦ absurd hlock (Finset.notMem_empty _), Finset.empty_subset _, Finset.Subset.refl _⟩

variable {Slot Shared Request Thread Input Change : Type*} [DecidableEq Slot]
  {machine : Machine Shared Request Thread Input Change}

/-- The locks of every thread are taken, and no two threads have a lock in common. -/
structure Exclusive (held : Thread → Finset Lock) (taken : Shared → Finset Lock)
    (system : System Slot Shared Thread) : Prop where
  taken : ∀ slot thread, system.threads slot = some thread → held thread ⊆ taken system.shared
  apart : system.Pairwise fun thread thread' ↦ ∀ lock ∈ held thread, lock ∉ held thread'

/-- The rule for locks. Assumes: a request enters without locks, an operation makes a lock step, and
a change leaves the taken locks. -/
theorem Machine.exclusive
    {condition : System Slot Shared Thread → Event Slot Request Input Change →
      System Slot Shared Thread → Prop}
    {start : Shared} {state : System Slot Shared Thread} (held : Thread → Finset Lock)
    (taken : Shared → Finset Lock)
    (hreach : GuardedRun.ReachableUnder machine.step condition (System.idle start) state)
    (henter : ∀ shared request, held (machine.enter shared request) = ∅)
    (hadvance : ∀ shared thread input shared' thread', held thread ⊆ taken shared →
      machine.advance shared thread input = some (shared', thread') →
      LockStep (held thread) (held thread') (taken shared) (taken shared'))
    (hchange : ∀ shared change shared', machine.change shared change = some shared' →
      taken shared' = taken shared) : Exclusive held taken state := by
  refine hreach.invariant (Exclusive held taken)
    ⟨fun _ _ hthread ↦ (by cases hthread), fun _ _ _ _ hthread ↦ (by cases hthread)⟩ ?_
  rintro system event next ⟨htaken, hapart⟩ - hstep
  have hsymm : ∀ {thread thread'}, (∀ lock ∈ held thread, lock ∉ held thread') →
      ∀ lock ∈ held thread', lock ∉ held thread :=
    fun hnone lock hlock hlock' ↦ hnone lock hlock' hlock
  rcases step_cases hstep with ⟨slot, request, rfl, -, rfl⟩ |
    ⟨slot, input, thread, shared, thread', rfl, hslot, hmove, rfl⟩ |
    ⟨change, shared, rfl, hmove, rfl⟩
  · refine ⟨fun other found hfound ↦ ?_, hapart.set hsymm fun _ _ _ _ ↦ by simp [henter]⟩
    rcases System.mem_set hfound with ⟨-, rfl⟩ | ⟨-, hold⟩
    · simp [henter]
    · exact htaken other found hold
  · have hlocks := hadvance _ _ _ _ _ (htaken slot thread hslot) hmove
    have hnot : ∀ other found, other ≠ slot → system.threads other = some found →
        ∀ lock ∈ held found, lock ∉ held thread :=
      fun other found hother hfound ↦ hapart other slot found thread hfound hslot hother
    refine ⟨fun other found hfound ↦ ?_, hapart.set hsymm fun other found hother hfound ↦ ?_⟩
    · rcases System.mem_set hfound with ⟨-, rfl⟩ | ⟨hother, hold⟩
      · exact hlocks.own
      · exact fun lock hlock ↦ hlocks.others (Finset.mem_sdiff.mpr
          ⟨htaken other found hold hlock, hnot other found hother hold lock hlock⟩)
    · exact fun lock hlock hlock' ↦ hlocks.free lock hlock'
        (hnot other found hother hfound lock hlock) (htaken other found hfound hlock)
  · have hsame : taken shared = taken system.shared := hchange _ _ _ hmove
    exact ⟨fun slot thread hthread ↦ (htaken slot thread hthread).trans_eq hsame.symm, hapart⟩

end Locks

end Threads
