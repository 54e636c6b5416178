import RiseVpn.Control.UsageIntake
import Mathlib.Algebra.BigOperators.Group.List.Basic
import Mathlib.Algebra.Order.Ring.Int

/-!
# Which usage batches are booked

`NodeHub.usage` books a batch in one transaction and acknowledges it after the commit, so that one
event the tables refuse leaves every other event of its batch unbooked and without an
acknowledgement. `usageReturns` is what it leaves behind.

`Bookable` says of a batch, in terms of the tables before it, that none of its events is refused:
the counters are not negative, the events that are not in the table yet are those of known devices
of a known node, and no total of a subscription leaves the range of its column on the way.
`run_usage_iff` is the result.
-/

set_option autoImplicit false

namespace RiseVpn.Control

open RowLocking

variable {directory : Directory} {db middle result : Database} {batch : UsageBatch}
  {event : UsageEvent} {events : List UsageEvent} {node : NodeId} {taken : String → Bool}
  {used : UserId → Option ℤ} {user : UserId}

/-! ### The batch as a whole -/

/-- The database that `NodeHub.usage` leaves, and the ids of the `usage.ack` that it sends. -/
def usageReturns (directory : Directory) (batch : UsageBatch) (db : Database) :
    Database × Option (List String) :=
  match (usage directory batch).run db with
  | .ok result => (result, some (batch.events.map UsageEvent.eventId))
  | .error _ => (db, none)

/-- The bytes that a usage event is billed with, a Go `int64` sum. -/
def billedBytes (event : UsageEvent) : ℤ := wrap64 (event.rxBytes + event.txBytes)

/-- The events that the loop inserts: of each id that is not `taken`, the first. -/
def newEvents (taken : String → Bool) : List UsageEvent → List UsageEvent
  | [] => []
  | event :: events =>
    if taken event.eventId then newEvents taken events
    else event :: newEvents (fun id ↦ taken id || id == event.eventId) events

def billedTo (directory : Directory) (user : UserId) (events : List UsageEvent) : ℤ :=
  ((events.filter fun event ↦ directory.owner event.deviceId = some user).map billedBytes).sum

def takenIds (db : Database) (node : NodeId) (eventId : String) : Bool :=
  (db.usageEvents (node, eventId)).isSome

def usedBytes (db : Database) (user : UserId) : Option ℤ :=
  (db.subscriptions user).map Subscription.usedBytes

/-- No event of the list is refused, when the ids `taken` are in the table and the subscriptions
have used `used`. -/
structure Bookable (directory : Directory) (node : NodeId) (taken : String → Bool)
    (used : UserId → Option ℤ) (events : List UsageEvent) : Prop where
  counters : ∀ event ∈ events, 0 ≤ event.rxBytes ∧ 0 ≤ event.txBytes
  known : ∀ event ∈ newEvents taken events,
    directory.owner event.deviceId ≠ none ∧ node ∈ directory.nodes
  range : ∀ front event rest, newEvents taken events = front ++ event :: rest →
    ∀ user total, directory.owner event.deviceId = some user → used user = some total →
      Int64Range (total + billedTo directory user (front ++ [event]))

/-! ### One event -/

structure Fits (directory : Directory) (node : NodeId) (event : UsageEvent) (db : Database) :
    Prop where
  counters : 0 ≤ event.rxBytes ∧ 0 ≤ event.txBytes
  inserted : db.usageEvents (node, event.eventId) = none → ∃ user,
    directory.owner event.deviceId = some user ∧ node ∈ directory.nodes ∧
      ∀ row, db.subscriptions user = some row → Int64Range (row.usedBytes + billedBytes event)

theorem run_billUsage_unsubscribed {rest : Program} (hnone : db.subscriptions user = none) :
    (billUsage node event user rest).run db = rest.run db := by
  simp only [billUsage, Txn.run_select, hnone]

theorem run_billUsage_subscribed {rest : Program} {row : Subscription}
    (hrow : db.subscriptions user = some row) :
    (billUsage node event user rest).run db =
      if Int64Range (row.usedBytes + billedBytes event) then
        rest.run (db.bill node event.eventId user
          { row with usedBytes := row.usedBytes + billedBytes event })
      else .error constraintViolated := by
  simp only [billUsage, Txn.run_select, hrow]
  rw [← billedBytes]
  split_ifs
  · rfl
  · rfl

theorem run_usageEvent_inserted {rest : Program}
    (hcheck : ¬ (event.rxBytes < 0 ∨ event.txBytes < 0))
    (hnew : db.usageEvents (batch.nodeId, event.eventId) = none)
    (howner : directory.owner event.deviceId = some user)
    (hnode : batch.nodeId ∈ directory.nodes) :
    (usageEvent directory batch event rest).run db =
      (billUsage batch.nodeId event user
        (insertCommands batch.txNow (exhaustedKicks directory event.deviceId) rest)).run
          (db.insertUsage batch.nodeId event.eventId (usageRow event)) := by
  simp only [usageEvent, if_neg hcheck, Txn.run_select, hnew, howner, if_neg (not_not.mpr hnode),
    Txn.run_update]

theorem Fits.run (hfits : Fits directory batch.nodeId event db) :
    ∃ middle, ∀ rest, (usageEvent directory batch event rest).run db = rest.run middle := by
  have hcheck : ¬ (event.rxBytes < 0 ∨ event.txBytes < 0) := by
    have hcounters := hfits.counters
    omega
  cases hrow : db.usageEvents (batch.nodeId, event.eventId) with
  | some row =>
    refine ⟨db, fun rest ↦ ?_⟩
    simp only [usageEvent, if_neg hcheck, Txn.run_select, hrow]
  | none =>
    obtain ⟨user, howner, hnode, hrange⟩ := hfits.inserted hrow
    have hinserted := fun rest ↦ @run_usageEvent_inserted _ _ _ _ _ rest hcheck hrow howner hnode
    cases hsubscription : db.subscriptions user with
    | none =>
      have hseen : (db.insertUsage batch.nodeId event.eventId
          (usageRow event)).subscriptions user = none := hsubscription
      exact ⟨_, fun rest ↦ (hinserted rest).trans
        ((run_billUsage_unsubscribed hseen).trans run_insertCommands)⟩
    | some row =>
      have hseen : (db.insertUsage batch.nodeId event.eventId
          (usageRow event)).subscriptions user = some row := hsubscription
      exact ⟨_, fun rest ↦ (hinserted rest).trans ((run_billUsage_subscribed hseen).trans
        ((if_pos (hrange row hsubscription)).trans run_insertCommands))⟩

theorem fits_of_run {rest : Program}
    (hrun : (usageEvent directory batch event rest).run db = .ok result) :
    Fits directory batch.nodeId event db := by
  by_cases hcheck : event.rxBytes < 0 ∨ event.txBytes < 0
  · rw [usageEvent, if_pos hcheck] at hrun
    cases hrun
  · refine ⟨by omega, fun hnew ↦ ?_⟩
    cases howner : directory.owner event.deviceId with
    | none =>
      simp only [usageEvent, if_neg hcheck, Txn.run_select, hnew, howner] at hrun
      cases hrun
    | some user =>
      by_cases hnode : batch.nodeId ∈ directory.nodes
      · refine ⟨user, rfl, hnode, fun row hrow ↦ ?_⟩
        have hseen : (db.insertUsage batch.nodeId event.eventId
            (usageRow event)).subscriptions user = some row := hrow
        rw [run_usageEvent_inserted hcheck hnew howner hnode,
          run_billUsage_subscribed hseen] at hrun
        split_ifs at hrun with hrange
        exact hrange
      · simp only [usageEvent, if_neg hcheck, Txn.run_select, hnew, howner, if_pos hnode] at hrun
        cases hrun

section

variable (heffect : UsageEffect directory batch event db middle)

include heffect

theorem UsageEffect.ids :
    takenIds middle batch.nodeId =
      fun id ↦ takenIds db batch.nodeId id || id == event.eventId := by
  funext id
  by_cases hid : id = event.eventId
  · subst hid
    have hpresent := heffect.present.1
    simp [takenIds, Option.isSome_iff_ne_none.mpr hpresent]
  · rcases heffect.usageEvents with ⟨-, hsame⟩ | hinserted
    · simp [takenIds, hsame, hid]
    · simp [takenIds, hinserted, hid]

theorem UsageEffect.usedBytes_known (htaken : takenIds db batch.nodeId event.eventId = true)
    : usedBytes middle = usedBytes db := by
  cases heffect with
  | known => rfl
  | unbilled hnew => simp [takenIds, hnew] at htaken
  | billed hnew => simp [takenIds, hnew] at htaken

theorem UsageEffect.usedBytes_new (htaken : takenIds db batch.nodeId event.eventId = false)
    :
    usedBytes middle =
      fun user ↦ (usedBytes db user).map (· + billedTo directory user [event]) := by
  funext user
  cases heffect with
  | known hrow => simp [takenIds, hrow] at htaken
  | @unbilled owner _ _ howner hnone =>
    by_cases hsame : user = owner
    · subst hsame
      simp [usedBytes, Database.enqueue, Database.insertUsage, hnone]
    · have hnothing : billedTo directory user [event] = 0 := by
        simp [billedTo, howner, Ne.symm hsame]
      simp only [hnothing, add_zero, Option.map_id']
      rfl
  | @billed owner _ _ _ _ howner hsome hused =>
    by_cases hsame : user = owner
    · subst hsame
      simp [usedBytes, Database.enqueue, Database.bill, billedTo, howner, hsome, hused, billedBytes]
    · have hnothing : billedTo directory user [event] = 0 := by
        simp [billedTo, howner, Ne.symm hsame]
      simp only [hnothing, add_zero, Option.map_id']
      simp [usedBytes, Database.enqueue, Database.bill, Database.insertUsage, hsame]

end

/-! ### The loop -/

theorem newEvents_taken (htaken : taken event.eventId = true) :
    newEvents taken (event :: events) = newEvents taken events := if_pos htaken

theorem newEvents_new (htaken : taken event.eventId = false) :
    newEvents taken (event :: events) =
      event :: newEvents (fun id ↦ taken id || id == event.eventId) events :=
  if_neg (Bool.not_eq_true _ ▸ htaken)

theorem billedTo_append (first second : List UsageEvent) :
    billedTo directory user (first ++ second) =
      billedTo directory user first + billedTo directory user second := by
  simp [billedTo]

theorem bookable_cons_taken (htaken : taken event.eventId = true) :
    Bookable directory node taken used (event :: events) ↔
      (0 ≤ event.rxBytes ∧ 0 ≤ event.txBytes) ∧ Bookable directory node taken used events := by
  constructor
  · rintro ⟨hcounters, hknown, hrange⟩
    rw [newEvents_taken htaken] at hknown hrange
    exact ⟨hcounters event List.mem_cons_self,
      fun other hother ↦ hcounters other (List.mem_cons_of_mem _ hother), hknown, hrange⟩
  · rintro ⟨hown, hcounters, hknown, hrange⟩
    refine ⟨List.forall_mem_cons.mpr ⟨hown, hcounters⟩, ?_, ?_⟩
    · rwa [newEvents_taken htaken]
    · rwa [newEvents_taken htaken]

theorem bookable_cons_new (htaken : taken event.eventId = false) :
    Bookable directory node taken used (event :: events) ↔
      (0 ≤ event.rxBytes ∧ 0 ≤ event.txBytes) ∧
      (directory.owner event.deviceId ≠ none ∧ node ∈ directory.nodes) ∧
      (∀ user total, directory.owner event.deviceId = some user → used user = some total →
        Int64Range (total + billedTo directory user [event])) ∧
      Bookable directory node (fun id ↦ taken id || id == event.eventId)
        (fun user ↦ (used user).map (· + billedTo directory user [event])) events := by
  constructor
  · rintro ⟨hcounters, hknown, hrange⟩
    rw [newEvents_new htaken] at hknown hrange
    refine ⟨hcounters event List.mem_cons_self, hknown event List.mem_cons_self,
      hrange [] event _ rfl, fun other hother ↦ hcounters other (List.mem_cons_of_mem _ hother),
      fun other hother ↦ hknown other (List.mem_cons_of_mem _ hother), ?_⟩
    intro front last rest hnew user after howner hafter
    obtain ⟨total, htotal, rfl⟩ := Option.map_eq_some_iff.mp hafter
    rw [add_assoc, ← billedTo_append]
    exact hrange (event :: front) last rest (congrArg (event :: ·) hnew) user total howner htotal
  · rintro ⟨hown, hfirst, hbytes, hcounters, hknown, hrange⟩
    refine ⟨List.forall_mem_cons.mpr ⟨hown, hcounters⟩, ?_, ?_⟩
    · rw [newEvents_new htaken]
      exact List.forall_mem_cons.mpr ⟨hfirst, hknown⟩
    · rw [newEvents_new htaken]
      intro front last rest hnew user total howner htotal
      cases front with
      | nil =>
        cases hnew
        exact hbytes user total howner htotal
      | cons first front =>
        obtain ⟨rfl, hlater⟩ := List.cons.inj hnew
        have hsum := hrange front last rest hlater user _ howner
          (Option.map_eq_some_iff.mpr ⟨total, htotal, rfl⟩)
        rwa [add_assoc, ← billedTo_append] at hsum

theorem fits_iff_taken (htaken : takenIds db node event.eventId = true) :
    Fits directory node event db ↔ 0 ≤ event.rxBytes ∧ 0 ≤ event.txBytes := by
  refine ⟨Fits.counters, fun hcounters ↦ ⟨hcounters, fun hnew ↦ ?_⟩⟩
  simp [takenIds, hnew] at htaken

theorem fits_iff_new (htaken : takenIds db node event.eventId = false) :
    Fits directory node event db ↔ (0 ≤ event.rxBytes ∧ 0 ≤ event.txBytes) ∧
      (directory.owner event.deviceId ≠ none ∧ node ∈ directory.nodes) ∧
      (∀ user total, directory.owner event.deviceId = some user →
        usedBytes db user = some total → Int64Range (total + billedTo directory user [event])) := by
  have hnew : db.usageEvents (node, event.eventId) = none := by
    simpa [takenIds] using htaken
  constructor
  · rintro ⟨hcounters, hinserted⟩
    obtain ⟨owner, howner, hnode, hrange⟩ := hinserted hnew
    refine ⟨hcounters, ⟨by simp [howner], hnode⟩, fun user total huser htotal ↦ ?_⟩
    cases howner.symm.trans huser
    obtain ⟨row, hrow, rfl⟩ := Option.map_eq_some_iff.mp htotal
    simpa [billedTo, howner] using hrange row hrow
  · rintro ⟨hcounters, ⟨hknown, hnode⟩, hrange⟩
    obtain ⟨user, howner⟩ := Option.ne_none_iff_exists'.mp hknown
    refine ⟨hcounters, fun _ ↦ ⟨user, howner, hnode, fun row hrow ↦ ?_⟩⟩
    simpa [billedTo, howner] using hrange user row.usedBytes howner (by simp [usedBytes, hrow])

theorem Bookable.fits (hbookable :
    Bookable directory node (takenIds db node) (usedBytes db) (event :: events)) :
    Fits directory node event db := by
  cases htaken : takenIds db node event.eventId with
  | true => exact (fits_iff_taken htaken).mpr ((bookable_cons_taken htaken).mp hbookable).1
  | false =>
    obtain ⟨hcounters, hknown, hrange, -⟩ := (bookable_cons_new htaken).mp hbookable
    exact (fits_iff_new htaken).mpr ⟨hcounters, hknown, hrange⟩

theorem UsageEffect.bookable_cons (heffect : UsageEffect directory batch event db middle) :
    Bookable directory batch.nodeId (takenIds db batch.nodeId) (usedBytes db)
        (event :: events) ↔
      Fits directory batch.nodeId event db ∧
        Bookable directory batch.nodeId (takenIds middle batch.nodeId) (usedBytes middle)
          events := by
  cases htaken : takenIds db batch.nodeId event.eventId with
  | true =>
    have hsame : takenIds middle batch.nodeId = takenIds db batch.nodeId := by
      rw [heffect.ids]
      funext id
      by_cases hid : id = event.eventId
      · simp [hid, htaken]
      · simp [hid]
    rw [bookable_cons_taken htaken, fits_iff_taken htaken, hsame, heffect.usedBytes_known htaken]
  | false =>
    rw [bookable_cons_new htaken, fits_iff_new htaken, heffect.ids,
      heffect.usedBytes_new htaken]
    simp only [and_assoc]

theorem run_events_iff (events : List UsageEvent) :
    ∀ db, (∃ result, (forEach (usageEvent directory batch) events .commit).run db = .ok result) ↔
      Bookable directory batch.nodeId (takenIds db batch.nodeId) (usedBytes db) events := by
  induction events with
  | nil =>
    intro db
    refine iff_of_true ⟨db, rfl⟩ ⟨by simp, by simp [newEvents], ?_⟩
    intro front event rest hnew
    cases front <;> cases hnew
  | cons event events ih =>
    intro db
    by_cases hfits : Fits directory batch.nodeId event db
    · obtain ⟨middle, hrun⟩ := hfits.run
      obtain ⟨_, heffect, hcommit⟩ := usageEvent_effect directory batch event .commit db middle
        (hrun .commit)
      cases hcommit
      rw [heffect.bookable_cons, and_iff_right hfits, ← ih middle]
      exact exists_congr fun result ↦ by rw [← hrun]; rfl
    · exact iff_of_false (fun ⟨_, hrun⟩ ↦ hfits (fits_of_run hrun))
        fun hbookable ↦ hfits hbookable.fits

/-! ### What a batch leaves -/

theorem run_usage_iff : (∃ result, (usage directory batch).run db = .ok result) ↔
    Bookable directory batch.nodeId (takenIds db batch.nodeId) (usedBytes db) batch.events :=
  run_events_iff batch.events db

theorem Bookable.returns (hbookable :
    Bookable directory batch.nodeId (takenIds db batch.nodeId) (usedBytes db) batch.events) :
    (usageReturns directory batch db).2 = some (batch.events.map UsageEvent.eventId) ∧
      ∀ event ∈ batch.events,
        (usageReturns directory batch db).1.usageEvents (batch.nodeId, event.eventId) ≠
          none := by
  obtain ⟨result, hrun⟩ := run_usage_iff.mpr hbookable
  have hreturns : usageReturns directory batch db =
      (result, some (batch.events.map UsageEvent.eventId)) := by
    rw [usageReturns, hrun]
  rw [hreturns]
  exact ⟨rfl, (present_visited (run_usage hrun)).1⟩

theorem usageReturns_of_not_bookable (hrefused : ¬ Bookable directory batch.nodeId
    (takenIds db batch.nodeId) (usedBytes db) batch.events) :
    usageReturns directory batch db = (db, none) := by
  unfold usageReturns
  split
  · rename_i result hrun
    exact absurd (run_usage_iff.mp ⟨result, hrun⟩) hrefused
  · rfl

end RiseVpn.Control
