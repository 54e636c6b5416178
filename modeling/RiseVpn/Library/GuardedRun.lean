import Mathlib.Tactic.Common

/-!
# Runs of a step function and conditions on the steps they take

A system is a partial step function on states: an event is either refused or leads to one next
state, and all nondeterminism sits in the choice of the events. `run` folds a list of events, oldest
first. `ReachableUnder` holds of the states that runs reach whose steps all meet a condition on the
state before, the event and the state after; `Reachable` is reachability by any run.

`ReachableUnder.invariant` is the induction rule: what a step that meets the condition keeps, every
state reached under the condition has. `reachable_of_run` turns an executed list of events into
reachability, and `reachableUnder_of_runMeets` one whose steps meet a condition; `runUnder` checks
a decidable condition while it runs. `Passed` speaks of the states on the way.
-/

set_option autoImplicit false

namespace GuardedRun

variable {State Event : Type*} (step : State → Event → Option State)

/-- Runs a system over a list of events, oldest first. A refused event ends the run with nothing. -/
def run : State → List Event → Option State
  | state, [] => some state
  | state, event :: rest => (step state event).bind fun next ↦ run next rest

/-- The states reached from `initial` by steps that all meet a condition. -/
inductive ReachableUnder (condition : State → Event → State → Prop) (initial : State) : State → Prop
  | refl : ReachableUnder condition initial initial
  | next {state next : State} {event : Event} (hreach : ReachableUnder condition initial state)
      (hstep : step state event = some next) (hcondition : condition state event next) :
      ReachableUnder condition initial next

/-- The states reached from `initial`. -/
def Reachable (initial state : State) : Prop := ReachableUnder step (fun _ _ _ ↦ True) initial state

variable {step} {condition : State → Event → State → Prop} {initial middle state : State}

theorem ReachableUnder.trans (hfirst : ReachableUnder step condition initial middle)
    (hsecond : ReachableUnder step condition middle state) :
    ReachableUnder step condition initial state := by
  induction hsecond with
  | refl => exact hfirst
  | next _ hstep hcondition ih => exact .next ih hstep hcondition

theorem ReachableUnder.invariant (hreach : ReachableUnder step condition initial state)
    (invariant : State → Prop) (hinitial : invariant initial)
    (hkeeps : ∀ state event next, invariant state → condition state event next →
      step state event = some next → invariant next) : invariant state := by
  induction hreach with
  | refl => exact hinitial
  | next _ hstep hcondition ih => exact hkeeps _ _ _ ih hcondition hstep

/-- Assumes: an invariant of the states reached under a condition. They are reached under the
condition together with the invariant of the state before each step. -/
theorem ReachableUnder.along (hreach : ReachableUnder step condition initial state)
    (invariant : State → Prop)
    (hinvariant : ∀ state, ReachableUnder step condition initial state → invariant state) :
    ReachableUnder step (fun before event after ↦ condition before event after ∧ invariant before)
      initial state := by
  induction hreach with
  | refl => exact .refl
  | next hbefore hstep hcondition ih =>
    exact .next ih hstep ⟨hcondition, hinvariant _ hbefore⟩

theorem Reachable.refl : Reachable step initial initial := ReachableUnder.refl

theorem Reachable.next {event : Event} {next : State} (hreach : Reachable step initial state)
    (hstep : step state event = some next) : Reachable step initial next :=
  ReachableUnder.next hreach hstep trivial

theorem Reachable.trans (hfirst : Reachable step initial middle)
    (hsecond : Reachable step middle state) : Reachable step initial state :=
  ReachableUnder.trans hfirst hsecond

theorem ReachableUnder.mono {weaker : State → Event → State → Prop}
    (hreach : ReachableUnder step condition initial state)
    (hweaker : ∀ before event after, condition before event after → weaker before event after) :
    ReachableUnder step weaker initial state := by
  induction hreach with
  | refl => exact .refl
  | next _ hstep hcondition ih => exact .next ih hstep (hweaker _ _ _ hcondition)

theorem Reachable.invariant (hreach : Reachable step initial state) (invariant : State → Prop)
    (hinitial : invariant initial)
    (hkeeps : ∀ state event next, invariant state → step state event = some next →
      invariant next) : invariant state :=
  ReachableUnder.invariant hreach invariant hinitial fun before event after hbefore _ ↦
    hkeeps before event after hbefore

variable (step) in
/-- A state with the property was passed on the way from `initial`. -/
def Passed (initial : State) (property : State → Prop) (state : State) : Prop :=
  ∃ earlier, Reachable step initial earlier ∧ Reachable step earlier state ∧ property earlier

/-- Assumes: a note that is not there at the start, and that a step makes only where the property
holds. Where the note is there, a state with the property was passed. -/
theorem Reachable.passed {noted property : State → Prop} (hreach : Reachable step initial state)
    (hinitial : ¬ noted initial)
    (hmakes : ∀ before event after, step before event = some after → noted after →
      noted before ∨ property before)
    (hnoted : noted state) : Passed step initial property state := by
  induction hreach with
  | refl => exact absurd hnoted hinitial
  | next hbefore hstep _ ih =>
    rcases hmakes _ _ _ hstep hnoted with hold | hproperty
    · obtain ⟨earlier, hearlier, hlater, hproperty⟩ := ih hold
      exact ⟨earlier, hearlier, hlater.next hstep, hproperty⟩
    · exact ⟨_, hbefore, Reachable.refl.next hstep, hproperty⟩

theorem reachable_of_run {events : List Event} (hrun : run step initial events = some state) :
    Reachable step initial state := by
  induction events generalizing initial with
  | nil =>
    cases hrun
    exact .refl
  | cons event rest ih =>
    obtain ⟨next, hnext, hrest⟩ := Option.bind_eq_some_iff.mp hrun
    exact (Reachable.next .refl hnext).trans (ih hrest)

theorem reachable_getD (events : List Event) :
    Reachable step initial ((run step initial events).getD initial) := by
  cases hrun : run step initial events with
  | none => exact .refl
  | some state => exact reachable_of_run hrun

def RunMeets (step : State → Event → Option State) (condition : State → Event → State → Prop) :
    State → List Event → State → Prop
  | state, [], last => state = last
  | state, event :: rest, last => ∃ next, step state event = some next ∧
      condition state event next ∧ RunMeets step condition next rest last

theorem reachableUnder_of_runMeets {events : List Event}
    (hruns : RunMeets step condition initial events state) :
    ReachableUnder step condition initial state := by
  induction events generalizing initial with
  | nil =>
    cases hruns
    exact .refl
  | cons event rest ih =>
    obtain ⟨next, hnext, hcondition, hrest⟩ := hruns
    exact (ReachableUnder.next .refl hnext hcondition).trans (ih hrest)

def runUnder (step : State → Event → Option State) (condition : State → Event → State → Prop)
    [∀ state event next, Decidable (condition state event next)] :
    State → List Event → Option State
  | state, [] => some state
  | state, event :: rest => (step state event).bind fun next ↦
      if condition state event next then runUnder step condition next rest else none

theorem reachableUnder_of_runUnder [∀ state event next, Decidable (condition state event next)]
    {events : List Event} (hrun : runUnder step condition initial events = some state) :
    ReachableUnder step condition initial state := by
  induction events generalizing initial with
  | nil =>
    cases hrun
    exact .refl
  | cons event rest ih =>
    obtain ⟨next, hnext, hrest⟩ := Option.bind_eq_some_iff.mp hrun
    obtain ⟨hcondition, hrest⟩ := Option.ite_none_right_eq_some.mp hrest
    exact (ReachableUnder.next .refl hnext hcondition).trans (ih hrest)

theorem reachableUnder_getD [∀ state event next, Decidable (condition state event next)]
    {events : List Event}
    (hsame : runUnder step condition initial events = run step initial events) :
    ReachableUnder step condition initial ((run step initial events).getD initial) := by
  cases hrun : run step initial events with
  | none => exact .refl
  | some state => exact reachableUnder_of_runUnder (hsame.trans hrun)

end GuardedRun
