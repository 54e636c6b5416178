import RiseVpn.Control.RowEffects

/-!
# Intake of usage by the controller

Which usage events a committed transaction books. `UsageEffect.usageEvents` says what the body of
the loop of `NodeHub.usage` does to the table, and `UsageKept` is what every other transaction
leaves of the usage.

`Tallied` is the invariant of the intake: an event that is in the table was added to a subscription
once, and one that is not was never added. `tallied_program` is its step. `Recorded` says where the
rows of the table come from. `present_visited` says that a batch leaves none of its events out of
the table, and `present_program` that no event leaves it.
-/

set_option autoImplicit false

namespace RiseVpn.Control

open RowLocking

variable {environment : Environment} {directory : Directory} {db middle result : Database}
  {batch : UsageBatch} {event : UsageEvent} {request : Request}

/-! ### One event -/

theorem UsageEffect.usageEvents (heffect : UsageEffect directory batch event db middle) :
    (db.usageEvents (batch.nodeId, event.eventId) ≠ none ∧ middle.usageEvents = db.usageEvents) ∨
      middle.usageEvents =
        Function.update db.usageEvents (batch.nodeId, event.eventId) (some (usageRow event)) := by
  cases heffect with
  | known hrow => exact .inl ⟨by simp [hrow], rfl⟩
  | unbilled => exact .inr rfl
  | billed => exact .inr rfl

theorem subscribed_update {user : UserId} {row : Subscription}
    (hresult : result.subscriptions = Function.update db.subscriptions user (some row))
    (other : UserId) (hother : db.subscriptions other ≠ none) :
    result.subscriptions other ≠ none := by
  rw [hresult, Function.update_apply]
  split_ifs
  · exact Option.some_ne_none row
  · exact hother

theorem UsageEffect.subscribed (heffect : UsageEffect directory batch event db middle)
    (user : UserId) (huser : db.subscriptions user ≠ none) :
    middle.subscriptions user ≠ none := by
  cases heffect with
  | known => exact huser
  | unbilled => exact huser
  | billed => exact subscribed_update rfl user huser

/-! ### The invariant of the intake -/

/-- Every event of the table was added to a subscription once, and no other event was. Every device
belongs to a user with a subscription. -/
structure Tallied (directory : Directory) (db : Database) : Prop where
  counted : ∀ key, db.applied key = if (db.usageEvents key).isSome then 1 else 0
  subscribed : ∀ id user, directory.owner id = some user → db.subscriptions user ≠ none

/-- The rows of the table are events that `sent` holds of. -/
def Recorded (sent : NodeId → UsageEvent → Prop) (db : Database) : Prop :=
  ∀ node eventId row, db.usageEvents (node, eventId) = some row →
    ∃ event, sent node event ∧ event.eventId = eventId ∧ row = usageRow event

theorem Tallied.of_view (htallied : Tallied directory db)
    (hview : ∀ key, view key db = view key result) : Tallied directory result := by
  refine ⟨fun key ↦ ?_, fun id user howner ↦ ?_⟩
  · have hkey := hview (.usageEvent key.1 key.2)
    rw [← usageEvents_eq hkey, ← applied_eq hkey]
    exact htallied.counted key
  · rw [← subscriptions_eq (hview (.subscription user))]
    exact htallied.subscribed id user howner

variable {sent : NodeId → UsageEvent → Prop}

theorem Recorded.of_view (hrecorded : Recorded sent db)
    (hview : ∀ key, view key db = view key result) : Recorded sent result := by
  intro node eventId row hrow
  rw [← usageEvents_eq (hview (.usageEvent node eventId))] at hrow
  exact hrecorded node eventId row hrow

theorem Tallied.usageEffect (htallied : Tallied directory db)
    (heffect : UsageEffect directory batch event db middle) : Tallied directory middle := by
  refine ⟨?_, fun id user howner ↦ heffect.subscribed user (htallied.subscribed id user howner)⟩
  cases heffect with
  | known => exact htallied.counted
  | unbilled _ howner hsubscription => exact absurd hsubscription (htallied.subscribed _ _ howner)
  | billed hnew =>
    intro key
    by_cases hkey : key = (batch.nodeId, event.eventId)
    · subst hkey
      simp [Database.enqueue, Database.bill, Database.insertUsage, htallied.counted, hnew]
    · simp [Database.enqueue, Database.bill, Database.insertUsage, htallied.counted, hkey]

theorem Recorded.usageEffect (hrecorded : Recorded sent db) (hsent : sent batch.nodeId event)
    (heffect : UsageEffect directory batch event db middle) : Recorded sent middle := by
  intro node eventId row hrow
  rcases heffect.usageEvents with ⟨-, hsame⟩ | hinserted
  · exact hrecorded node eventId row (hsame ▸ hrow)
  · rw [hinserted, Function.update_apply] at hrow
    split_ifs at hrow with hkey
    · cases hkey
      exact ⟨event, hsent, rfl, (Option.some.inj hrow).symm⟩
    · exact hrecorded node eventId row hrow

theorem UsageEffect.present (heffect : UsageEffect directory batch event db middle) :
    middle.usageEvents (batch.nodeId, event.eventId) ≠ none ∧
      ∀ key, db.usageEvents key ≠ none → middle.usageEvents key ≠ none := by
  rcases heffect.usageEvents with ⟨hknown, hsame⟩ | hinserted
  · rw [hsame]
    exact ⟨hknown, fun _ hkey ↦ hkey⟩
  · rw [hinserted]
    refine ⟨by simp, fun key hkey ↦ ?_⟩
    rw [Function.update_apply]
    split_ifs
    · exact Option.some_ne_none _
    · exact hkey

/-! ### Other transactions -/

structure UsageKept (db result : Database) : Prop where
  events : result.usageEvents = db.usageEvents
  applied : result.applied = db.applied
  subscribed : ∀ user, db.subscriptions user ≠ none → result.subscriptions user ≠ none

theorem usageKept_program (hrequest : ∀ batch, request ≠ .usage batch)
    (hrun : (program environment request).run db = .ok result) : UsageKept db result := by
  have hsubscribed : ∀ user, db.subscriptions user ≠ none → result.subscriptions user ≠ none :=
    fun user ↦ mt (row_program hrun user).absent_iff.mp
  cases run_program hrun with
  | changed hchanged => cases hchanged <;> exact ⟨rfl, rfl, hsubscribed⟩
  | managed hrun =>
    obtain ⟨moved, hmoved, rfl⟩ := lifecycle_frame hrun
    have hevents : moved.usageEvents = db.usageEvents := by rw [hmoved]
    have happlied : moved.applied = db.applied := by rw [hmoved]
    exact ⟨hevents, happlied, hsubscribed⟩
  | bound hstarted hbound =>
    rcases hbound with rfl | ⟨_, _, rfl⟩ <;> rcases hstarted with rfl | ⟨_, _, _, _, rfl⟩ <;>
      exact ⟨rfl, rfl, hsubscribed⟩
  | provisioned hcall => cases hcall <;> exact ⟨rfl, rfl, hsubscribed⟩
  | booked => exact absurd rfl (hrequest _)
  | credited | adjusted | assigned | rebound | revoked => exact ⟨rfl, rfl, hsubscribed⟩

/-! ### Whole transactions -/

theorem tallied_program (htallied : Tallied environment.directory db)
    (hrun : (program environment request).run db = .ok result) :
    Tallied environment.directory result := by
  by_cases hrequest : ∃ batch, request = .usage batch
  · obtain ⟨batch, rfl⟩ := hrequest
    exact (run_usage hrun).invariant (Tallied environment.directory)
      (fun _ _ _ heffect htallied ↦ htallied.usageEffect heffect) htallied
  · have hkept := usageKept_program (fun batch hbatch ↦ hrequest ⟨batch, hbatch⟩) hrun
    refine ⟨fun key ↦ ?_, fun id user howner ↦ ?_⟩
    · rw [hkept.applied, hkept.events]
      exact htallied.counted key
    · exact hkept.subscribed user (htallied.subscribed id user howner)

theorem Recorded.visited {events : List UsageEvent}
    (hsent : ∀ event ∈ events, sent batch.nodeId event) (hrecorded : Recorded sent db)
    (hvisited : Visited (UsageEffect directory batch) events db result) : Recorded sent result := by
  induction hvisited with
  | nil => exact hrecorded
  | cons hfirst _ ih =>
    exact ih (fun other hother ↦ hsent other (List.mem_cons_of_mem _ hother))
      (hrecorded.usageEffect (hsent _ List.mem_cons_self) hfirst)

theorem recorded_program
    (hsent : ∀ batch, request = .usage batch → ∀ event ∈ batch.events, sent batch.nodeId event)
    (hrecorded : Recorded sent db) (hrun : (program environment request).run db = .ok result) :
    Recorded sent result := by
  by_cases hrequest : ∃ batch, request = .usage batch
  · obtain ⟨batch, rfl⟩ := hrequest
    exact hrecorded.visited (hsent batch rfl) (run_usage hrun)
  · have hkept := usageKept_program (fun batch hbatch ↦ hrequest ⟨batch, hbatch⟩) hrun
    unfold Recorded
    rw [hkept.events]
    exact hrecorded

theorem present_visited {events : List UsageEvent}
    (hvisited : Visited (UsageEffect directory batch) events db result) :
    (∀ event ∈ events, result.usageEvents (batch.nodeId, event.eventId) ≠ none) ∧
      ∀ key, db.usageEvents key ≠ none → result.usageEvents key ≠ none := by
  induction hvisited with
  | nil => exact ⟨by simp, fun _ hkey ↦ hkey⟩
  | cons hfirst _ ih =>
    refine ⟨fun event hevent ↦ ?_, fun key hkey ↦ ih.2 key (hfirst.present.2 key hkey)⟩
    rcases List.mem_cons.mp hevent with rfl | hrest
    · exact ih.2 _ hfirst.present.1
    · exact ih.1 event hrest

theorem present_program (hrun : (program environment request).run db = .ok result)
    (key : NodeId × String) (hkey : db.usageEvents key ≠ none) : result.usageEvents key ≠ none := by
  by_cases hrequest : ∃ batch, request = .usage batch
  · obtain ⟨batch, rfl⟩ := hrequest
    exact (present_visited (run_usage hrun)).2 key hkey
  · rwa [(usageKept_program (fun batch hbatch ↦ hrequest ⟨batch, hbatch⟩) hrun).events]

end RiseVpn.Control
