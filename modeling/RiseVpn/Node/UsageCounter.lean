import RiseVpn.Node.DeviceCommands
import RiseVpn.Node.LeaseWorth
import RiseVpn.Library.GuardedRun

/-!
# The usage counter of a device

`devices.used_bytes` under control messages and collectors. `Client.handle` works on one message at
a time, but its calls of the store are separate statements, and `AddUsage` of the Xray manager or of
the Hysteria collector may fall between any two of them. `CounterState.step` takes the messages
apart into these calls: `device.upsert` reads the device, writes it and reads it back for the
provisioner, and `quota.lease` reads the whole device and writes it back with the lease. All other
messages make one call.

`since` remembers for each device the number of the last usage event before its period changed or
it was inserted, and `recorded` the calls of `AddUsage` that went through. `CounterWrite` says what
any call of a handler does to the counters; a lease writes back the period it read, so the `CASE` of
the upsert keeps the counter that the collectors have moved on. `used_bytes_conserved` is the
result: in every run in which the two counts of each call add up to an `int64` (`Unwrapped`), the
counter of a device is the sum of its usage events since then, the usage events are the recorded
calls, and only `ApplyPolicyOverride` changes an override. `counter_wraps` is a call whose sum wraps
around.
-/

set_option autoImplicit false

namespace RiseVpn

open GuardedRun

inductive MessageStage
  | idle
  | upsertPrevious (payload : DeviceUpsert)
  | upsertWrite (payload : DeviceUpsert)
  | upsertStored (payload : DeviceUpsert)
  | leaseKey (lease : QuotaLease)
  | leaseRead (lease : QuotaLease)
  | leaseWrite (device : Device)
  | apply (message : Message)

/-- The first call of a message; a malformed `device.upsert` makes none. -/
def MessageStage.enter : Message → MessageStage
  | .deviceUpsert data =>
    if data.deviceId = "" ∨ data.credentialHash = "" then .idle
    else match data.plan.policy with
    | none => .idle
    | some _ => .upsertPrevious data
  | .quotaLease lease => .leaseKey lease
  | message => .apply message

/-- The node's store, the message under handling, and what is remembered about the counters. -/
structure CounterState where
  store : Store
  stage : MessageStage
  /-- The last usage event before the period of a device changed or the device was inserted. -/
  since : DeviceId → ℕ
  /-- The calls of `AddUsage` that went through: the device, and the bytes sent and received. -/
  recorded : List (DeviceId × ℤ × ℤ)

/-- A message arrives, the handler makes its next call at a time, or a collector counts. -/
inductive CounterEvent
  | receive (message : Message)
  | proceed (now : ℤ)
  | addUsage (device : DeviceId) (txBytes rxBytes now : ℤ)

namespace CounterState

def periodOf (store : Store) (id : DeviceId) : Option ℤ :=
  (store.storedById id).map StoredDevice.periodEnds

/-- The state after a call of a handler that leaves `next`. -/
def written (state : CounterState) (next : Store) (stage : MessageStage) : CounterState :=
  { state with
    store := next
    stage
    since := fun id ↦
      if periodOf next id = periodOf state.store id then state.since id
      else state.store.lastUsageId }

def proceed (integrations : Integrations) (state : CounterState) (now : ℤ) : Option CounterState :=
  match state.stage with
  | .idle => none
  -- the device before the write only decides whether its sessions are kicked
  | .upsertPrevious payload => some { state with stage := .upsertWrite payload }
  | .upsertWrite payload =>
    match state.store.upsertDevice payload.device with
    | .error _ => some { state with stage := .idle }
    | .ok next => some (state.written next (.upsertStored payload))
  | .upsertStored _ => some { state with stage := .idle }
  | .leaseKey lease =>
    match state.store.checkLease integrations lease now with
    | .error _ => some { state with stage := .idle }
    | .ok () => some { state with stage := .leaseRead lease }
  | .leaseRead lease =>
    match state.store.deviceById lease.deviceId with
    | none => some { state with stage := .idle }
    | some found => some { state with stage := .leaseWrite (found.withLease lease) }
  | .leaseWrite device =>
    match state.store.upsertDevice device with
    | .error _ => some { state with stage := .idle }
    | .ok next => some (state.written next .idle)
  | .apply message => some (state.written (handle integrations state.store message now).1 .idle)

def step (integrations : Integrations) (state : CounterState) : CounterEvent → Option CounterState
  | .receive message =>
    match state.stage with
    | .idle => some { state with stage := .enter message }
    | _ => none
  | .proceed now => state.proceed integrations now
  | .addUsage device txBytes rxBytes now =>
    match state.store.addUsage device txBytes rxBytes now with
    | .error _ => some state
    | .ok (_, next) => some { state with
        store := next
        recorded := state.recorded ++ [(device, txBytes, rxBytes)] }

def fresh (values : String → Option String) : CounterState where
  store := { state := values, devices := ⟨[], .nil, .nil⟩, usageEvents := [], lastUsageId := 0 }
  stage := .idle
  since := fun _ ↦ 0
  recorded := []

end CounterState

variable (integrations : Integrations) (state : CounterState) in
inductive CounterStep : CounterEvent → CounterState → Prop
  | moves {event : CounterEvent} {stage : MessageStage}
      (hstage : ∀ device, stage ≠ .leaseWrite device) : CounterStep event { state with stage }
  | reads {now : ℤ} {lease : QuotaLease} {row : StoredDevice}
      (hrow : state.store.storedById lease.deviceId = some row) : CounterStep (.proceed now)
        { state with stage := .leaseWrite ((Store.scanDevice row).withLease lease) }
  | upserts {now : ℤ} {payload : DeviceUpsert} {next : Store}
      (hnext : state.store.upsertDevice payload.device = .ok next) :
      CounterStep (.proceed now) (state.written next (.upsertStored payload))
  | leases {now : ℤ} {device : Device} {next : Store} (hstage : state.stage = .leaseWrite device)
      (hnext : state.store.upsertDevice device = .ok next) :
      CounterStep (.proceed now) (state.written next .idle)
  | applies {now : ℤ} {message : Message} (hstage : state.stage = .apply message) :
      CounterStep (.proceed now)
        (state.written (handle integrations state.store message now).1 .idle)
  | fails {event : CounterEvent} : CounterStep event state
  | counts {device : DeviceId} {txBytes rxBytes now used : ℤ} {next : Store}
      (hnext : state.store.addUsage device txBytes rxBytes now = .ok (used, next)) :
      CounterStep (.addUsage device txBytes rxBytes now)
        { state with store := next, recorded := state.recorded ++ [(device, txBytes, rxBytes)] }

theorem MessageStage.enter_ne_leaseWrite (message : Message) (device : Device) :
    MessageStage.enter message ≠ .leaseWrite device := by
  unfold MessageStage.enter
  repeat' split
  all_goals
    intro hstage
    cases hstage

theorem CounterState.proceed_cases {integrations : Integrations} {state next : CounterState}
    {now : ℤ} (hproceed : state.proceed integrations now = some next) :
    CounterStep integrations state (.proceed now) next := by
  have hidle (device : Device) : MessageStage.idle ≠ .leaseWrite device := by
    intro hstage
    cases hstage
  unfold CounterState.proceed at hproceed
  split at hproceed
  · cases hproceed
  · cases hproceed
    exact .moves fun _ hstage ↦ by cases hstage
  · split at hproceed
    · cases hproceed
      exact .moves hidle
    · rename_i hnext
      cases hproceed
      exact .upserts hnext
  · cases hproceed
    exact .moves hidle
  · split at hproceed
    · cases hproceed
      exact .moves hidle
    · cases hproceed
      exact .moves fun _ hstage ↦ by cases hstage
  · split at hproceed
    · cases hproceed
      exact .moves hidle
    · rename_i found hfound
      cases hproceed
      obtain ⟨row, hrow, rfl⟩ := Option.map_eq_some_iff.mp hfound
      exact .reads hrow
  · rename_i device hstage
    split at hproceed
    · cases hproceed
      exact .moves hidle
    · rename_i hnext
      cases hproceed
      exact .leases hstage hnext
  · rename_i message hstage
    cases hproceed
    exact .applies hstage

variable {event : CounterEvent} {message : Message} {id : DeviceId} {row : StoredDevice}

theorem CounterState.step_cases {integrations : Integrations} {state next : CounterState}
    (hstep : state.step integrations event = some next) :
    CounterStep integrations state event next := by
  cases event with
  | receive message =>
    simp only [CounterState.step] at hstep
    split at hstep
    · cases hstep
      exact .moves (MessageStage.enter_ne_leaseWrite message)
    · cases hstep
  | proceed now => exact CounterState.proceed_cases hstep
  | addUsage device txBytes rxBytes now =>
    simp only [CounterState.step] at hstep
    split at hstep
    · cases hstep
      exact .fails
    · rename_i hnext
      cases hstep
      exact .counts hnext

/-! ### What a call of a handler does to a counter -/

inductive CounterRow : Option StoredDevice → Option StoredDevice → Prop
  | absent : CounterRow none none
  | inserted {row : StoredDevice} (hused : row.usedBytes = 0) : CounterRow none (some row)
  | reset {row row' : StoredDevice} (hperiod : row'.periodEnds ≠ row.periodEnds)
      (hused : row'.usedBytes = 0) : CounterRow (some row) (some row')
  | kept {row row' : StoredDevice} (hperiod : row'.periodEnds = row.periodEnds)
      (hused : row'.usedBytes = row.usedBytes) : CounterRow (some row) (some row')

theorem CounterRow.refl : (row : Option StoredDevice) → CounterRow row row
  | none => .absent
  | some _ => .kept rfl rfl

/-- What a call of a handler does: it treats every counter as above and records no usage. -/
structure CounterWrite (store next : Store) : Prop where
  rows : ∀ id, CounterRow (store.storedById id) (next.storedById id)
  events : ∃ ids now, next.usageEvents = store.usageEvents.map (Store.markedRow ids now)
  last : next.lastUsageId = store.lastUsageId

theorem usageEvents_unmarked (store : Store) :
    ∃ ids now, store.usageEvents = store.usageEvents.map (Store.markedRow ids now) := by
  refine ⟨[], 0, ?_⟩
  rw [← Store.markUsageSent_usageEvents]
  rfl

theorem CounterWrite.refl (store : Store) : CounterWrite store store :=
  ⟨fun _ ↦ .refl _, usageEvents_unmarked store, rfl⟩

theorem counterWrite_upsertDevice {store next : Store} {device : Device}
    (hdevice : device.usedBytes = 0 ∨
      CounterState.periodOf store device.id = some (unix device.periodEnds))
    (hnext : store.upsertDevice device = .ok next) : CounterWrite store next := by
  have hframe := Store.upsertDevice_frame hnext
  refine ⟨fun id ↦ ?_, ?_, ?_⟩
  · by_cases hid : id = device.id
    · rw [hid, Store.storedById_upsertDevice hnext]
      cases hrow : store.storedById device.id with
      | none =>
        refine .inserted (hdevice.resolve_right ?_)
        simp [CounterState.periodOf, hrow]
      | some row =>
        by_cases hperiod : row.periodEnds = unix device.periodEnds
        · exact .kept hperiod.symm (if_neg (not_not_intro hperiod))
        · refine .reset (Ne.symm hperiod) ((if_pos hperiod).trans (hdevice.resolve_right ?_))
          simpa [CounterState.periodOf, hrow] using hperiod
    · rw [Store.storedById_upsertDevice_of_ne hid hnext]
      exact .refl _
  · rw [hframe]
    exact usageEvents_unmarked store
  · rw [hframe]

theorem counterRow_rowEffect (hupsert : ∀ data, message ≠ .deviceUpsert data) :
    (row : Option StoredDevice) → CounterRow row (rowEffect message row)
  | none => by
    cases message with
    | deviceUpsert data => exact absurd rfl (hupsert data)
    | _ => exact .absent
  | some row => by
    cases message with
    | deviceUpsert data => exact absurd rfl (hupsert data)
    | _ => exact .kept rfl rfl

theorem counterRow_handle (integrations : Integrations) (store : Store) (now : ℤ)
    (hupsert : ∀ data, message ≠ .deviceUpsert data) (id : DeviceId) :
    CounterRow (store.storedById id) ((handle integrations store message now).1.storedById id) := by
  by_cases hwrites : message.WritesTo id
  · rcases storedById_handle_cases integrations store now hwrites with ⟨hsame, -⟩ | heffect
    · rw [hsame]
      exact .refl _
    · rw [heffect]
      exact counterRow_rowEffect hupsert _
  · rw [storedById_handle_other hwrites]
    exact .refl _

theorem counterWrite_handle (integrations : Integrations) (store : Store) (message : Message)
    (now : ℤ) : CounterWrite store (handle integrations store message now).1 := by
  by_cases hupsert : ∀ data, message ≠ .deviceUpsert data
  · have hrows := counterRow_handle integrations store now hupsert
    by_cases hack : ∀ eventIds, message ≠ .usageAck eventIds
    · obtain ⟨hevents, hlast⟩ := usage_handle integrations store now hack
      exact ⟨hrows, hevents ▸ usageEvents_unmarked store, hlast⟩
    · obtain ⟨eventIds, rfl⟩ := not_forall_not.mp hack
      rcases handle_usageAck_cases integrations store eventIds now with hsame | hmarked
      · rw [hsame]
        exact .refl store
      · refine ⟨hrows, ⟨ackedIds eventIds, now, ?_⟩, ?_⟩
        · rw [hmarked, Store.markUsageSent_usageEvents]
        · rw [hmarked, Store.markUsageSent]
          split_ifs <;> rfl
  · obtain ⟨data, rfl⟩ := not_forall_not.mp hupsert
    rcases handle_deviceUpsert_cases integrations store data now with hsame | hwritten
    · rw [hsame]
      exact .refl store
    · exact counterWrite_upsertDevice (.inl rfl) hwritten

/-! ### The counter and the usage events -/

def usedSince (events : List StoredUsage) (id : DeviceId) (since : ℕ) : ℤ :=
  ((events.filter fun event ↦ event.deviceId = id ∧ since < event.id).map fun event ↦
    event.txBytes + event.rxBytes).sum

theorem usedSince_map_markedRow (events : List StoredUsage) (ids : List ℤ) (now : ℤ)
    (id : DeviceId) (since : ℕ) :
    usedSince (events.map (Store.markedRow ids now)) id since = usedSince events id since := by
  have hmarked (event : StoredUsage) : ∃ sentAt, Store.markedRow ids now event =
      { event with sentAt } := by
    unfold Store.markedRow
    split_ifs
    · exact ⟨_, rfl⟩
    · exact ⟨event.sentAt, rfl⟩
  induction events with
  | nil => rfl
  | cons event rest ih =>
    obtain ⟨sentAt, hevent⟩ := hmarked event
    simp only [usedSince, List.map_cons, hevent, List.filter_cons] at ih ⊢
    split_ifs
    · rw [List.map_cons, List.map_cons, List.sum_cons, List.sum_cons, ih]
    · exact ih

theorem usedSince_append (events : List StoredUsage) (event : StoredUsage) (id : DeviceId)
    (since : ℕ) :
    usedSince (events ++ [event]) id since = usedSince events id since +
      if event.deviceId = id ∧ since < event.id then event.txBytes + event.rxBytes else 0 := by
  unfold usedSince
  rw [List.filter_append, List.map_append, List.sum_append]
  by_cases hlate : event.deviceId = id ∧ since < event.id
  · rw [if_pos hlate, List.filter_cons_of_pos (by simpa using hlate)]
    simp
  · rw [if_neg hlate, List.filter_cons_of_neg (by simpa using hlate)]
    simp

theorem usedSince_last {store : Store} (hnumbered : store.Numbered) (id : DeviceId) :
    usedSince store.usageEvents id store.lastUsageId = 0 := by
  have hnone : (store.usageEvents.filter fun event ↦
      event.deviceId = id ∧ store.lastUsageId < event.id) = [] := by
    refine List.filter_eq_nil_iff.mpr fun event hevent hlate ↦ ?_
    exact absurd (of_decide_eq_true hlate).2 (Nat.not_lt.mpr (hnumbered.bounded event hevent))
  rw [usedSince, hnone, List.map_nil, List.sum_nil]

def StoredUsage.traffic (event : StoredUsage) : DeviceId × ℤ × ℤ :=
  (event.deviceId, event.txBytes, event.rxBytes)

/-- Every counter is the sum of the usage events of its device since its period changed or it was
inserted, and the usage events are the calls of `AddUsage` that went through, each once. -/
structure Conserved (state : CounterState) : Prop where
  counted : ∀ id row, state.store.storedById id = some row →
    row.usedBytes = usedSince state.store.usageEvents id (state.since id)
  recorded : state.store.usageEvents.map StoredUsage.traffic = state.recorded

/-- The invariant: conservation, the numbering of the events, and that a device on its way back with
a lease has the period of the table. -/
structure CounterSound (state : CounterState) : Prop extends Conserved state where
  numbered : state.store.Numbered
  since_le : ∀ id, state.since id ≤ state.store.lastUsageId
  leased : ∀ device, state.stage = .leaseWrite device →
    CounterState.periodOf state.store device.id = some (unix device.periodEnds)

namespace CounterSound

variable {integrations : Integrations} {state : CounterState}

theorem fresh (values : String → Option String) : CounterSound (CounterState.fresh values) where
  counted := by
    intro id row hrow
    cases hrow
  recorded := rfl
  numbered := ⟨by simp [CounterState.fresh], .nil⟩
  since_le := fun _ ↦ Nat.le_refl 0
  leased := by
    intro device hstage
    cases hstage

theorem stage (hsound : CounterSound state) {stage : MessageStage}
    (hstage : ∀ device, stage ≠ .leaseWrite device) : CounterSound { state with stage } :=
  ⟨⟨hsound.counted, hsound.recorded⟩, hsound.numbered, hsound.since_le,
    fun device hdevice ↦ absurd hdevice (hstage device)⟩

variable {next : Store}

theorem counted_write (hsound : CounterSound state) {id : DeviceId} {row : StoredDevice}
    (hcounter : CounterRow (state.store.storedById id) (some row))
    (hrow : next.storedById id = some row) :
    row.usedBytes = usedSince state.store.usageEvents id
      (if CounterState.periodOf next id = CounterState.periodOf state.store id then state.since id
        else state.store.lastUsageId) := by
  cases hbefore : state.store.storedById id with
  | none =>
    rw [hbefore] at hcounter
    cases hcounter with
    | inserted hzero =>
      rw [if_neg (by simp [CounterState.periodOf, hrow, hbefore]), hzero,
        usedSince_last hsound.numbered]
  | some old =>
    rw [hbefore] at hcounter
    cases hcounter with
    | reset hperiod hzero =>
      rw [if_neg (by simpa [CounterState.periodOf, hrow, hbefore] using hperiod), hzero,
        usedSince_last hsound.numbered]
    | kept hperiod hkept =>
      rw [if_pos (by simpa [CounterState.periodOf, hrow, hbefore] using hperiod), hkept]
      exact hsound.counted id old hbefore

theorem written (hsound : CounterSound state) {stage : MessageStage}
    (hwrite : CounterWrite state.store next) (hstage : ∀ device, stage ≠ .leaseWrite device) :
    CounterSound (state.written next stage) := by
  obtain ⟨hrows, ⟨ids, now, hevents⟩, hlast⟩ := hwrite
  refine ⟨⟨fun id row hrow ↦ ?_, ?_⟩, ?_, fun id ↦ ?_, fun device hdevice ↦ ?_⟩
  · change next.storedById id = some row at hrow
    change row.usedBytes = usedSince next.usageEvents id _
    rw [hevents, usedSince_map_markedRow]
    exact hsound.counted_write (hrow ▸ hrows id) hrow
  · change next.usageEvents.map StoredUsage.traffic = state.recorded
    rw [← hsound.recorded, hevents, List.map_map]
    refine List.map_congr_left fun event _ ↦ ?_
    simp only [Function.comp, StoredUsage.traffic, Store.markedRow]
    split_ifs <;> rfl
  · exact hsound.numbered.marked hevents hlast
  · change (if _ then state.since id else state.store.lastUsageId) ≤ next.lastUsageId
    rw [hlast]
    split_ifs
    · exact hsound.since_le id
    · exact Nat.le_refl _
  · exact absurd hdevice (hstage device)

theorem addUsage (hsound : CounterSound state) {id : DeviceId} {txBytes rxBytes now used : ℤ}
    (hrange : Int64Range (txBytes + rxBytes))
    (hnext : state.store.addUsage id txBytes rxBytes now = .ok (used, next)) :
    CounterSound { state with
      store := next
      recorded := state.recorded ++ [(id, txBytes, rxBytes)] } := by
  obtain ⟨hevents, hlast⟩ := Store.addUsage_usageEvents hnext
  have hrows := Store.storedById_addUsage hnext
  have hlate (other : DeviceId) : state.since other < state.store.lastUsageId + 1 :=
    Nat.lt_succ_of_le (hsound.since_le other)
  refine ⟨⟨fun other row hrow ↦ ?_, ?_⟩, hsound.numbered.addUsage hnext, fun other ↦ ?_,
    fun device hdevice ↦ ?_⟩
  · change next.storedById other = some row at hrow
    change row.usedBytes = usedSince next.usageEvents other (state.since other)
    rw [hevents, usedSince_append]
    rw [hrows] at hrow
    split_ifs at hrow with hother
    · obtain ⟨old, hold, rfl⟩ := Option.map_eq_some_iff.mp hrow
      rw [if_pos ⟨hother.symm, hlate other⟩, hother, ← hsound.counted id old hold]
      change old.usedBytes + wrap64 (txBytes + rxBytes) = _
      rw [wrap64_of_range hrange]
    · rw [if_neg fun hsame ↦ hother hsame.1.symm, add_zero]
      exact hsound.counted other row hrow
  · change next.usageEvents.map StoredUsage.traffic = _
    rw [hevents, List.map_append, hsound.recorded]
    rfl
  · change state.since other ≤ next.lastUsageId
    rw [hlast]
    exact (hlate other).le
  · have hperiod := hsound.leased device hdevice
    change CounterState.periodOf next device.id = _
    rw [← hperiod, CounterState.periodOf, hrows]
    split_ifs with hsame
    · rw [hsame, Option.map_map]
      rfl
    · rfl

end CounterSound

/-- The condition on a step: the sum of the two counts of a call of `AddUsage` does not wrap
around. -/
def Unwrapped (_state : CounterState) : CounterEvent → CounterState → Prop
  | .addUsage _ txBytes rxBytes _, _ => Int64Range (txBytes + rxBytes)
  | _, _ => True

instance (state next : CounterState) (event : CounterEvent) :
    Decidable (Unwrapped state event next) := by
  unfold Unwrapped
  split <;> infer_instance

theorem CounterSound.step {integrations : Integrations} {state next : CounterState}
    (hsound : CounterSound state) (hunwrapped : Unwrapped state event next)
    (hstep : state.step integrations event = some next) : CounterSound next := by
  cases CounterState.step_cases hstep with
  | moves hstage => exact hsound.stage hstage
  | reads hrow =>
    refine ⟨⟨hsound.counted, hsound.recorded⟩, hsound.numbered, hsound.since_le, ?_⟩
    intro device hdevice
    obtain rfl := MessageStage.leaseWrite.inj hdevice
    rename_i lease row
    -- the device is read and not yet written, so the period is the one in the table
    have hid : ((Store.scanDevice row).withLease lease).id = lease.deviceId :=
      Store.storedById_id hrow
    change CounterState.periodOf state.store _ = some (unix (ofUnix row.periodEnds))
    rw [hid, CounterState.periodOf, hrow, unix_ofUnix, Option.map_some]
  | upserts hnext =>
    refine hsound.written (counterWrite_upsertDevice (.inl rfl) hnext) ?_
    intro device hdevice
    cases hdevice
  | leases hstage hnext =>
    refine hsound.written (counterWrite_upsertDevice (.inr (hsound.leased _ hstage)) hnext) ?_
    intro device hdevice
    cases hdevice
  | applies hstage =>
    refine hsound.written (counterWrite_handle ..) ?_
    intro device hdevice
    cases hdevice
  | fails => exact hsound
  | counts hnext => exact hsound.addUsage hunwrapped hnext

/-! ### The override columns -/

def StoredDevice.overrides (row : StoredDevice) : ℤ × ℤ × Bool × ℤ :=
  (row.overrideUpBps, row.overrideDownBps, row.overrideP2p, row.overrideExpires)

/-- The event is the call of `ApplyPolicyOverride` for a device. -/
def AppliesOverride (state : CounterState) (event : CounterEvent) (next : CounterState)
    (id : DeviceId) : Prop :=
  ∃ data now, state.stage = .apply (.policyOverride data) ∧ event = .proceed now ∧
    data.deviceId = id ∧ next.store = state.store.applyPolicyOverride id data.upBps data.downBps
      data.p2pAllowed data.expiresAt

theorem overrides_upsertDevice {store next : Store} {device : Device}
    (hnext : store.upsertDevice device = .ok next) (hrow : store.storedById id = some row) :
    ∃ row', next.storedById id = some row' ∧ row'.overrides = row.overrides := by
  by_cases hid : id = device.id
  · refine ⟨Store.conflictRow device row, ?_, rfl⟩
    rw [hid] at hrow ⊢
    rw [Store.storedById_upsertDevice hnext, hrow]
  · exact ⟨row, (Store.storedById_upsertDevice_of_ne hid hnext).trans hrow, rfl⟩

theorem overrides_handle (integrations : Integrations) (store : Store) (now : ℤ)
    (hmessage : ∀ data, message ≠ .policyOverride data) (hrow : store.storedById id = some row) :
    ∃ row', (handle integrations store message now).1.storedById id = some row' ∧
      row'.overrides = row.overrides := by
  by_cases hwrites : message.WritesTo id
  · rcases storedById_handle_cases integrations store now hwrites with ⟨hsame, -⟩ | heffect
    · exact ⟨row, hsame.trans hrow, rfl⟩
    · rw [heffect, hrow]
      cases message with
      | policyOverride data => exact absurd rfl (hmessage data)
      | deviceUpsert | quotaLease | deviceRevoke => exact ⟨_, rfl, rfl⟩
      | _ => exact ⟨_, rfl, rfl⟩
  · exact ⟨row, (storedById_handle_other hwrites).trans hrow, rfl⟩

theorem handle_policyOverride_cases (integrations : Integrations) (store : Store)
    (data : PolicyOverride) (now : ℤ) :
    (handle integrations store (.policyOverride data) now).1 = store ∨
      (handle integrations store (.policyOverride data) now).1 =
        store.applyPolicyOverride data.deviceId data.upBps data.downBps data.p2pAllowed
          data.expiresAt := by
  simp only [handle]
  split_ifs
  · exact .inl rfl
  · exact .inr rfl

theorem overrides_step {integrations : Integrations} {state next : CounterState}
    (hstep : state.step integrations event = some next)
    (hrow : state.store.storedById id = some row) :
    ∃ row', next.store.storedById id = some row' ∧
      (row'.overrides = row.overrides ∨ AppliesOverride state event next id) := by
  cases CounterState.step_cases hstep with
  | moves | reads | fails => exact ⟨row, hrow, .inl rfl⟩
  | upserts hnext | leases _ hnext =>
    obtain ⟨row', hrow', hkept⟩ := overrides_upsertDevice hnext hrow
    exact ⟨row', hrow', .inl hkept⟩
  | applies hstage =>
    rename_i now message
    by_cases hmessage : ∀ data, message ≠ .policyOverride data
    · obtain ⟨row', hrow', hkept⟩ := overrides_handle integrations state.store now hmessage hrow
      exact ⟨row', hrow', .inl hkept⟩
    · obtain ⟨data, rfl⟩ := not_forall_not.mp hmessage
      by_cases hid : data.deviceId = id
      · rcases handle_policyOverride_cases integrations state.store data now with hsame | happlied
        · exact ⟨row, (congrArg (·.storedById id) hsame).trans hrow, .inl rfl⟩
        · rw [hid] at happlied
          refine ⟨Store.overriddenRow data.upBps data.downBps data.p2pAllowed data.expiresAt row,
            ?_, .inr ⟨data, now, hstage, rfl, hid, happlied⟩⟩
          change (handle integrations state.store (.policyOverride data) now).1.storedById id = _
          rw [happlied, storedById_applyPolicyOverride, hrow, Option.map_some]
      · have hnot : ¬ (Message.policyOverride data).WritesTo id := hid
        exact ⟨row, (storedById_handle_other hnot).trans hrow, .inl rfl⟩
  | counts hnext =>
    rename_i device txBytes rxBytes now used store
    have hrow' := Store.storedById_addUsage hnext id
    split_ifs at hrow' with hid
    · rw [← hid, hrow] at hrow'
      exact ⟨_, hrow', .inl rfl⟩
    · exact ⟨row, hrow'.trans hrow, .inl rfl⟩

/-- In every run of control messages, handled one at a time, with calls of `AddUsage` between any
two calls of the store whose sums do not wrap around, the counter of each device is the sum of its
usage events since the last write that changed its period, or since its insertion; every call of
`AddUsage` that went through is in the usage events once; and an override column changes only by
`ApplyPolicyOverride`. -/
theorem used_bytes_conserved (integrations : Integrations) (values : String → Option String)
    {state : CounterState}
    (hreach : ReachableUnder (CounterState.step integrations) Unwrapped (CounterState.fresh values)
      state) :
    Conserved state ∧ ∀ event next, state.step integrations event = some next →
      ∀ id row, state.store.storedById id = some row →
        ∃ row', next.store.storedById id = some row' ∧
          (row'.overrides = row.overrides ∨ AppliesOverride state event next id) := by
  have hsound : CounterSound state := hreach.invariant CounterSound (.fresh values)
    fun _ _ _ hbefore hunwrapped hstep ↦ hbefore.step hunwrapped hstep
  exact ⟨hsound.toConserved, fun _ _ hstep _ _ hrow ↦ overrides_step hstep hrow⟩

def racingLease : List CounterEvent :=
  [.receive (.deviceUpsert soloUpsert), .proceed 0, .proceed 0, .proceed 0,
    .addUsage "device" 2 3 0, .receive (.quotaLease (soloLease 10)), .proceed 0, .proceed 0,
    .addUsage "device" 4 3 0, .proceed 0,
    .receive (.policyOverride ⟨"device", 1, 1, false, day⟩), .proceed 0]

def racedState : CounterState :=
  (run (CounterState.step soloIntegrations) (.fresh soloStore.state) racingLease).getD
    (.fresh soloStore.state)

theorem used_bytes_conserved_raced :
    (racedState.store.storedById "device").map (fun row ↦ (row.usedBytes, row.leaseBytes)) =
        some (12, 10) ∧
      Conserved racedState ∧ ∀ event next,
        racedState.step soloIntegrations event = some next →
          ∀ id row, racedState.store.storedById id = some row →
            ∃ row', next.store.storedById id = some row' ∧
              (row'.overrides = row.overrides ∨ AppliesOverride racedState event next id) := by
  exact ⟨rfl, used_bytes_conserved soloIntegrations soloStore.state (reachableUnder_getD rfl)⟩

def wrappedState : CounterState :=
  (run (CounterState.step soloIntegrations) (.fresh soloStore.state)
    [.receive (.deviceUpsert soloUpsert), .proceed 0, .proceed 0, .proceed 0,
      .addUsage "device" (2 ^ 63 - 1) 1 0]).getD (.fresh soloStore.state)

/-- A call that records 2 ^ 63 bytes and takes as many from the counter. -/
theorem counter_wraps :
    Reachable (CounterState.step soloIntegrations) (.fresh soloStore.state) wrappedState ∧
    wrappedState.recorded = [("device", 2 ^ 63 - 1, 1)] ∧
    (wrappedState.store.storedById "device").map StoredDevice.usedBytes = some (-2 ^ 63) ∧
    ¬ Conserved wrappedState := by
  refine ⟨reachable_getD _, rfl, rfl, fun hconserved ↦ ?_⟩
  exact absurd (hconserved.counted "device" _ rfl) (by decide)

end RiseVpn
