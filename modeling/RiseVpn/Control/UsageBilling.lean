import RiseVpn.Control.UsageBatches
import Mathlib.Algebra.Order.BigOperators.Group.List

/-!
# What a committed usage batch adds to the bills

`usage_events` checks that the two counters of an event are not negative, one by one, but
`NodeHub.usage` adds them in Go and bills the sum, which has wrapped around when it does not fit.
`usedBytes_visited` says what a batch adds to every subscription, and `billedBytes_eq_iff` which
events are billed with the sum of their counters.

`usage_billed_iff` is the result: a committed batch adds to every subscription the bytes of the
user's new events, and so lowers none, exactly when the sum of each of these events fits.
`usage_lowers_bill` is a batch of one event that does not.
-/

set_option autoImplicit false

namespace RiseVpn.Control

open RowLocking

def bytesOf (directory : Directory) (user : UserId) (events : List UsageEvent) : ℤ :=
  ((events.filter fun event ↦ directory.owner event.deviceId = some user).map
    fun event ↦ event.rxBytes + event.txBytes).sum

/-- No subscription has used less than before, and each has used the bytes of its user's events
more. -/
def BilledExactly (directory : Directory) (before after : Database) (events : List UsageEvent) :
    Prop :=
  ∀ user total, usedBytes before user = some total → ∃ billed, usedBytes after user = some billed ∧
    total ≤ billed ∧ billed = total + bytesOf directory user events

/-- The sum of the counters of each event that is billed to a subscription fits. -/
def SumsFit (directory : Directory) (db : Database) (events : List UsageEvent) : Prop :=
  ∀ event ∈ events, ∀ user, directory.owner event.deviceId = some user →
    usedBytes db user ≠ none → Int64Range (event.rxBytes + event.txBytes)

variable {directory : Directory} {db result : Database} {batch : UsageBatch} {event : UsageEvent}
  {events : List UsageEvent} {user : UserId} {taken : String → Bool}

/-! ### One event -/

/-- The counters of the event are those of a row of `usage_events`. -/
def Counters (event : UsageEvent) : Prop :=
  (0 ≤ event.rxBytes ∧ event.rxBytes < 2 ^ 63) ∧ 0 ≤ event.txBytes ∧ event.txBytes < 2 ^ 63

theorem billedBytes_eq_iff (hcounters : Counters event) :
    billedBytes event ≤ event.rxBytes + event.txBytes ∧
      (billedBytes event = event.rxBytes + event.txBytes ↔
        Int64Range (event.rxBytes + event.txBytes)) := by
  unfold Counters at hcounters
  unfold billedBytes wrap64 Int64Range
  rw [Int.bmod_def]
  omega

/-! ### A batch -/

theorem mem_of_mem_newEvents (hevent : event ∈ newEvents taken events) : event ∈ events := by
  induction events generalizing taken with
  | nil => exact hevent
  | cons first events ih =>
    cases htaken : taken first.eventId with
    | true =>
      rw [newEvents_taken htaken] at hevent
      exact List.mem_cons_of_mem _ (ih hevent)
    | false =>
      rw [newEvents_new htaken] at hevent
      rcases List.mem_cons.mp hevent with rfl | hrest
      · exact List.mem_cons_self
      · exact List.mem_cons_of_mem _ (ih hrest)

theorem usedBytes_visited (hvisited : Visited (UsageEffect directory batch) events db result)
    (user : UserId) :
    usedBytes result user = (usedBytes db user).map
      (· + billedTo directory user (newEvents (takenIds db batch.nodeId) events)) := by
  induction hvisited with
  | nil => simp [newEvents, billedTo]
  | @cons event events db middle last hfirst _ ih =>
    cases htaken : takenIds db batch.nodeId event.eventId with
    | true =>
      have hsame : takenIds middle batch.nodeId = takenIds db batch.nodeId := by
        rw [hfirst.ids]
        funext id
        by_cases hid : id = event.eventId
        · simp [hid, htaken]
        · simp [hid]
      rw [ih, hsame, hfirst.usedBytes_known htaken, newEvents_taken htaken]
    | false =>
      have hsplit : ∀ rest, billedTo directory user (event :: rest) =
          billedTo directory user [event] + billedTo directory user rest := fun rest ↦
        billedTo_append [event] rest
      rw [ih, hfirst.ids, hfirst.usedBytes_new htaken, newEvents_new htaken, hsplit,
        Option.map_map]
      congr 1
      funext total
      exact add_assoc _ _ _

theorem billedTo_eq_iff (hcounters : ∀ event ∈ events, Counters event) :
    billedTo directory user events ≤ bytesOf directory user events ∧
      (billedTo directory user events = bytesOf directory user events ↔
        ∀ event ∈ events, directory.owner event.deviceId = some user →
          Int64Range (event.rxBytes + event.txBytes)) := by
  induction events with
  | nil => simp [billedTo, bytesOf]
  | cons event events ih =>
    obtain ⟨hfirst, hrest⟩ := List.forall_mem_cons.mp hcounters
    obtain ⟨hle, hiff⟩ := ih hrest
    obtain ⟨hown, hownIff⟩ := billedBytes_eq_iff hfirst
    rw [List.forall_mem_cons, ← hiff]
    by_cases howner : directory.owner event.deviceId = some user
    · have hbilled : billedTo directory user (event :: events) =
          billedBytes event + billedTo directory user events := by simp [billedTo, howner]
      have hbytes : bytesOf directory user (event :: events) =
          event.rxBytes + event.txBytes + bytesOf directory user events := by
        simp [bytesOf, howner]
      rw [hbilled, hbytes, ← hownIff]
      refine ⟨by omega, fun hsum ↦ ⟨fun _ ↦ by omega, by omega⟩, ?_⟩
      rintro ⟨hsame, hsum⟩
      rw [hsame howner, hsum]
    · have hbilled : billedTo directory user (event :: events) =
          billedTo directory user events := by
        simp [billedTo, howner]
      have hbytes : bytesOf directory user (event :: events) = bytesOf directory user events := by
        simp [bytesOf, howner]
      rw [hbilled, hbytes]
      exact ⟨hle, fun hsum ↦ ⟨fun hsome ↦ absurd hsome howner, hsum⟩, And.right⟩

theorem bytesOf_nonneg (hcounters : ∀ event ∈ events, Counters event) :
    0 ≤ bytesOf directory user events := by
  refine List.sum_nonneg fun bytes hbytes ↦ ?_
  obtain ⟨event, hevent, rfl⟩ := List.mem_map.mp hbytes
  have hevent := hcounters event (List.mem_of_mem_filter hevent)
  unfold Counters at hevent
  omega

/-- Assumes: a committed batch of events with `int64` counters. It adds to every subscription the
bytes of the user's new events, and lowers none, if and only if the sum of each of them that is
billed to a subscription fits. -/
theorem usage_billed_iff {environment : Environment} {start before after : Database}
    {batch : UsageBatch} (hcommitted : Committed environment start (.usage batch) before after)
    (hint64 : ∀ event ∈ batch.events, Int64Range event.rxBytes ∧ Int64Range event.txBytes) :
    BilledExactly environment.directory before after
        (newEvents (takenIds before batch.nodeId) batch.events) ↔
      SumsFit environment.directory before
        (newEvents (takenIds before batch.nodeId) batch.events) := by
  obtain ⟨result, hrun, hview⟩ := hcommitted.run
  have hcounters : ∀ event ∈ newEvents (takenIds before batch.nodeId) batch.events,
      Counters event := by
    intro event hevent
    have hmem := mem_of_mem_newEvents hevent
    have hsigns := (run_usage_iff.mp ⟨result, hrun⟩).counters event hmem
    exact ⟨⟨hsigns.1, (hint64 event hmem).1.2⟩, hsigns.2, (hint64 event hmem).2.2⟩
  have hused : ∀ user, usedBytes after user = (usedBytes before user).map (· + billedTo
      environment.directory user (newEvents (takenIds before batch.nodeId) batch.events)) := by
    intro user
    rw [← usedBytes_visited (run_usage hrun) user, usedBytes, usedBytes,
      subscriptions_eq (hview (.subscription user))]
  constructor
  · intro hexact event hevent user howner hsubscribed
    obtain ⟨total, htotal⟩ := Option.ne_none_iff_exists'.mp hsubscribed
    obtain ⟨billed, hbilled, -, hsum⟩ := hexact user total htotal
    rw [hused, htotal, Option.map_some, hsum] at hbilled
    exact (billedTo_eq_iff hcounters).2.mp (add_left_cancel (Option.some.inj hbilled)) event hevent
      howner
  · intro hfit user total htotal
    have hsum := (billedTo_eq_iff hcounters).2.mpr fun event hevent howner ↦
      hfit event hevent user howner (by simp [htotal])
    have hnonneg := @bytesOf_nonneg environment.directory _ user hcounters
    refine ⟨_, by rw [hused, htotal, Option.map_some, hsum], by omega, rfl⟩

def soloBatch (rxBytes txBytes : ℤ) : UsageBatch :=
  ⟨"node", [⟨"event", "device", rxBytes, txBytes, 0, 0⟩], 0⟩

theorem usage_billed_largest :
    ∃ after, Committed soloEnvironment soloDatabase (.usage (soloBatch (2 ^ 63 - 2) 1)) soloDatabase
        after ∧
      BilledExactly soloEnvironment.directory soloDatabase after
        (newEvents (takenIds soloDatabase "node") (soloBatch (2 ^ 63 - 2) 1).events) := by
  have hcommitted : Committed soloEnvironment soloDatabase (.usage (soloBatch (2 ^ 63 - 2) 1))
      soloDatabase _ := (reached_serially [] rfl).committed rfl
  refine ⟨_, hcommitted, (usage_billed_iff hcommitted ?_).mpr ?_⟩
  · decide
  · intro event hevent user _ _
    obtain rfl := List.mem_singleton.mp hevent
    decide

/-- An event with counters that a row may have is committed and lowers the bill of its user. -/
theorem usage_lowers_bill :
    ∃ after, Committed soloEnvironment soloDatabase (.usage (soloBatch (2 ^ 63 - 1) 1)) soloDatabase
        after ∧
      usedBytes soloDatabase "user" = some 0 ∧ usedBytes after "user" = some (-2 ^ 63) := by
  have hcommitted : Committed soloEnvironment soloDatabase (.usage (soloBatch (2 ^ 63 - 1) 1))
      soloDatabase _ := (reached_serially [] rfl).committed rfl
  exact ⟨_, hcommitted, rfl, rfl⟩

end RiseVpn.Control
