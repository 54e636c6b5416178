import RiseVpn.Node.Admission
import Mathlib.Data.List.Perm.Basic

/-!
# The collector of the Hysteria traffic

`Collector.Collect` asks the Hysteria server for the traffic of its users, which the server then
forgets, adds it to the devices and kicks devices that have used up a trial or a lease; afterwards
it counts who is online (`collectOnline`). The answers of the server are taken as they arrive
(`TrafficAnswer`, `OnlineAnswer`); what matters of the text of an answer is where its JSON value
ends, since the collector reads at most 4 MiB of it and the decoder stops at the end of the value.
The counters are a Go map, whose iteration order is not determined: the loop takes it as a list
(`collectEntries`).

`collectsAll_iff` says when no traffic of a device of the node is lost, whatever the order. The loop
ends at the first call of `AddUsage` that fails, and what it has not reached is gone, so traffic is
lost unless all entries with valid counters name devices of the table and their sums are `int64`
values (`Counter.Fits`), or none names a device. `traffic_lost` is a map with an unknown device.

`kick_exact_iff` compares the rule by which the loop kicks (`quotaKick`) with the admission rule
that the node applies to the next connection. They agree for devices without a lease inside their
subscription; the loop does not look at the end of a subscription or of a lease, and it kicks a paid
device past its quota that is admitted again (`throttled_device_kicked`).
-/

set_option autoImplicit false

namespace RiseVpn

open KeyedTable

/-! ### The run of a collector -/

structure Counter where
  tx : ℤ
  rx : ℤ
  deriving DecidableEq

def Counter.Valid (counter : Counter) : Prop := 0 ≤ counter.tx ∧ 0 ≤ counter.rx
  deriving Decidable

structure CounterMap where
  entries : List (DeviceId × Counter)
  nodup : (entries.map Prod.fst).Nodup

/-- What `GET /traffic?clear=1` comes to. The counters come with the number of bytes up to the end
of their JSON value and of those that follow it, and in the order in which the loop visits them. -/
inductive TrafficAnswer
  | failed (error : String)
  | status (code : ℕ) (body : String)
  | malformed (error : String)
  | counters (size rest : ℕ) (order : List (DeviceId × Counter))

/-- What `GET /online` comes to. -/
inductive OnlineAnswer
  | failed (error : String)
  | status (code : ℕ)
  | malformed (error : String)
  | counts (size rest : ℕ) (online : List (DeviceId × ℤ))

/-- What a run of `Collect` leaves: the store, the devices for which `Kick` was called, and what it
returns. -/
structure Collection where
  store : Store
  kicked : List DeviceId
  result : Except String Unit

/-- The rule by which the loop kicks a device, with the usage that `AddUsage` returned. -/
def quotaKick (device : Device) (used : ℤ) : Bool :=
  match device.plan.policy with
  | none => false
  | some base =>
    (device.plan = .code .trial ∧ device.effectiveQuota base ≤ used) ∨
      (0 < device.leaseBytes ∧ device.leaseBytes ≤ used)

/-- The body of the loop of `Collect`: the store it leaves, and whether it calls `Kick`. -/
def collectEntry (store : Store) (id : DeviceId) (counter : Counter) (now : ℤ) :
    Except String (Store × Bool) :=
  if counter.tx < 0 ∨ counter.rx < 0 then .ok (store, false)
  else match store.addUsage id counter.tx counter.rx now with
  | .error error => .error ("persist usage for " ++ id ++ ": " ++ error)
  | .ok (used, next) =>
    .ok (next, match next.deviceById id with
      | none => false
      | some device => quotaKick device used)

/-- The loop of `Collect`. `clock` is the time at which the entry of a device is reached. -/
def collectEntries (clock : DeviceId → ℤ) : List (DeviceId × Counter) → Store → Collection
  | [], store => ⟨store, [], .ok ()⟩
  | (id, counter) :: rest, store =>
    match collectEntry store id counter (clock id) with
    | .error error => ⟨store, [], .error error⟩
    | .ok (next, kicks) =>
      let later := collectEntries clock rest next
      { later with kicked := if kicks then id :: later.kicked else later.kicked }

def collectOnline (store : Store) : OnlineAnswer → Store × Except String Unit
  | .failed error => (store, .error error)
  | .status code => (store, .error ("online API returned " ++ toString code))
  | .malformed error => (store, .error error)
  | .counts size _ online =>
    if 2 ^ 20 < size then (store, .error "unexpected EOF")
    else
      let connections := wrap64 ((online.map Prod.snd).filter fun count ↦ 0 < count).sum
      (store.setStates [("online_devices", toString online.length),
        ("online_connections", toString connections)], .ok ())

/-- The bytes of an answer that `Collect` reads. -/
def bodyLimit : ℕ := 4 * 2 ^ 20

/-- `Collector.Collect`. What follows the JSON value of an answer is not read. The outcome of a kick
is only logged. -/
def collect (clock : DeviceId → ℤ) (online : OnlineAnswer) (store : Store) :
    TrafficAnswer → Collection
  | .failed error => ⟨store, [], .error error⟩
  | .status code body =>
    ⟨store, [], .error ("traffic API returned " ++ toString code ++ ": " ++ body)⟩
  | .malformed error => ⟨store, [], .error error⟩
  | .counters size _ order =>
    if bodyLimit < size then ⟨store, [], .error "unexpected EOF"⟩
    else
      let looped := collectEntries clock order store
      match looped.result with
      | .error error => { looped with result := .error error }
      | .ok () =>
        let counted := collectOnline looped.store online
        ⟨counted.1, looped.kicked, counted.2⟩

/-! ### Traffic that is recorded -/

def Store.usageOf (store : Store) (id : DeviceId) : List (ℤ × ℤ) :=
  (store.usageEvents.filter fun row ↦ row.deviceId = id).map fun row ↦ (row.txBytes, row.rxBytes)

theorem usageOf_addUsage {store next : Store} {id : DeviceId} {txBytes rxBytes now used : ℤ}
    (hnext : store.addUsage id txBytes rxBytes now = .ok (used, next)) (other : DeviceId) :
    next.usageOf other =
      if other = id then store.usageOf id ++ [(txBytes, rxBytes)] else store.usageOf other := by
  rw [Store.usageOf, (Store.addUsage_usageEvents hnext).1, List.filter_append, List.map_append]
  split_ifs with hsame
  · subst hsame
    simp [Store.usageOf]
  · have hother : ¬ id = other := Ne.symm hsame
    simp [Store.usageOf, hother]

/-- The bytes of the counter are in the counter of the device and among the usage events. -/
structure CountedOnce (store next : Store) (id : DeviceId) (counter : Counter) : Prop where
  row : next.storedById id = (store.storedById id).map fun row ↦
    Store.usedRow (row.usedBytes + (counter.tx + counter.rx)) row
  events : next.usageOf id = store.usageOf id ++ [(counter.tx, counter.rx)]

def SameUsage (store store' : Store) : Prop :=
  ∀ id, store.storedById id = store'.storedById id ∧ store.usageOf id = store'.usageOf id

/-- An answer with these counters is collected without a loss: whatever the order, the times and the
rest of the run, every valid counter of a device of the table is added once, and the order does not
show in the result. -/
structure CollectsAll (store : Store) (size rest : ℕ) (counters : CounterMap) : Prop where
  counted : ∀ order, order.Perm counters.entries → ∀ clock online, ∀ entry ∈ counters.entries,
    entry.2.Valid → store.storedById entry.1 ≠ none →
      CountedOnce store (collect clock online store (.counters size rest order)).store entry.1
        entry.2
  ordered : ∀ order order', order.Perm counters.entries → order'.Perm counters.entries →
    ∀ clock clock' online online',
      SameUsage (collect clock online store (.counters size rest order)).store
        (collect clock' online' store (.counters size rest order')).store

/-- The device is in the table, and neither sum of `AddUsage` leaves the range of `int64`. -/
def Counter.Fits (counter : Counter) (store : Store) (id : DeviceId) : Prop :=
  ∃ row, store.storedById id = some row ∧ Int64Range (counter.tx + counter.rx) ∧
    Int64Range (row.usedBytes + (counter.tx + counter.rx))

/-- The row of a device after `AddUsage`. -/
abbrev Counter.recorded (counter : Counter) (row : StoredDevice) : StoredDevice :=
  Store.countedRow (counter.tx + counter.rx) row

/-! ### What the loop leaves -/

section Loop

variable {store : Store} {id : DeviceId} {counter : Counter} {now : ℤ}

variable (store : Store) (id : DeviceId) (counter : Counter) (now : ℤ) in
/-- What the body of the loop does: it passes over an invalid counter, adds a valid one to a device
of the table, or ends the run. -/
inductive EntryCollected : Except String (Store × Bool) → Prop
  | skipped (hinvalid : ¬ counter.Valid) : EntryCollected (.ok (store, false))
  | added {row : StoredDevice} {next : Store} (hvalid : counter.Valid)
      (hrow : store.storedById id = some row)
      (hfits : Int64Range (counter.recorded row).usedBytes)
      (hnext : store.addUsage id counter.tx counter.rx now =
        .ok ((counter.recorded row).usedBytes, next))
      (hrow' : next.storedById id = some (counter.recorded row)) :
      EntryCollected (.ok (next, quotaKick (Store.scanDevice (counter.recorded row))
        (counter.recorded row).usedBytes))
  | stopped {error : String} (hvalid : counter.Valid)
      (hfailed : ∀ row, store.storedById id = some row →
        ¬ Int64Range (counter.recorded row).usedBytes) : EntryCollected (.error error)

theorem collectEntry_cases (store : Store) (id : DeviceId) (counter : Counter) (now : ℤ) :
    EntryCollected store id counter now (collectEntry store id counter now) := by
  unfold collectEntry
  by_cases hvalid : counter.Valid
  · obtain ⟨htx, hrx⟩ := hvalid
    rw [if_neg (by omega)]
    cases hrow : store.storedById id with
    | none =>
      rw [Store.addUsage_unknown hrow]
      refine .stopped ⟨htx, hrx⟩ fun row hfound ↦ ?_
      cases hrow.symm.trans hfound
    | some row =>
      by_cases hfits : Int64Range (counter.recorded row).usedBytes
      · obtain ⟨next, hnext, hrow'⟩ := Store.addUsage_ok hrow hfits now
        simp only [hnext, Store.deviceById, hrow', Option.map_some]
        exact .added ⟨htx, hrx⟩ hrow hfits hnext hrow'
      · simp only [Store.addUsage, hrow, if_neg hfits]
        refine .stopped ⟨htx, hrx⟩ fun found hfound ↦ ?_
        cases hrow.symm.trans hfound
        exact hfits
  · have hnegative : counter.tx < 0 ∨ counter.rx < 0 := by
      unfold Counter.Valid at hvalid
      omega
    rw [if_pos hnegative]
    exact .skipped hvalid

theorem Counter.Fits.counted {row : StoredDevice} (hfits : counter.Fits store id)
    (hrow : store.storedById id = some row) :
    counter.recorded row = Store.usedRow (row.usedBytes + (counter.tx + counter.rx)) row ∧
      Int64Range (counter.recorded row).usedBytes := by
  obtain ⟨found, hfound, hbytes, hsum⟩ := hfits
  cases hrow.symm.trans hfound
  unfold Counter.recorded Store.countedRow
  rw [wrap64_of_range hbytes]
  exact ⟨rfl, hsum⟩

theorem frame_addUsage {next : Store} {used : ℤ}
    (hnext : store.addUsage id counter.tx counter.rx now = .ok (used, next)) {other : DeviceId}
    (hother : other ≠ id) :
    next.storedById other = store.storedById other ∧
      next.usageOf other = store.usageOf other := by
  rw [Store.storedById_addUsage hnext, usageOf_addUsage hnext, if_neg hother, if_neg hother]
  exact ⟨rfl, rfl⟩

theorem collectEntries_frame (clock : DeviceId → ℤ) (order : List (DeviceId × Counter))
    (store : Store) {other : DeviceId}
    (hother : ∀ entry ∈ order, entry.2.Valid → entry.1 ≠ other) :
    (collectEntries clock order store).store.storedById other = store.storedById other ∧
      (collectEntries clock order store).store.usageOf other = store.usageOf other := by
  induction order generalizing store with
  | nil => exact ⟨rfl, rfl⟩
  | cons entry rest ih =>
    obtain ⟨id, counter⟩ := entry
    obtain ⟨hfirst, hlater⟩ := List.forall_mem_cons.mp hother
    have hcases := collectEntry_cases store id counter (clock id)
    unfold collectEntries
    generalize collectEntry store id counter (clock id) = collected at hcases
    cases hcases with
    | skipped => exact ih store hlater
    | @added row next hvalid _ _ hnext =>
      obtain ⟨hrow, hevents⟩ := frame_addUsage hnext (Ne.symm (hfirst hvalid))
      obtain ⟨hrow', hevents'⟩ := ih next hlater
      exact ⟨hrow'.trans hrow, hevents'.trans hevents⟩
    | stopped => exact ⟨rfl, rfl⟩

theorem collectEntries_known (clock : DeviceId → ℤ) {order : List (DeviceId × Counter)}
    (hnodup : (order.map Prod.fst).Nodup)
    (hknown : ∀ entry ∈ order, entry.2.Valid → entry.2.Fits store entry.1) :
    ∀ entry ∈ order, entry.2.Valid →
      CountedOnce store (collectEntries clock order store).store entry.1 entry.2 := by
  induction order generalizing store with
  | nil => simp
  | cons entry rest ih =>
    obtain ⟨id, counter⟩ := entry
    rw [List.map_cons, List.nodup_cons] at hnodup
    obtain ⟨hid, hrest⟩ := hnodup
    obtain ⟨hfirst, hlater⟩ := List.forall_mem_cons.mp hknown
    have hcases := collectEntry_cases store id counter (clock id)
    unfold collectEntries
    generalize collectEntry store id counter (clock id) = collected at hcases
    cases hcases with
    | skipped hinvalid =>
      exact List.forall_mem_cons.mpr ⟨fun hvalid ↦ absurd hvalid hinvalid, ih hrest hlater⟩
    | @added row next hvalid hrow _ hnext hrow' =>
      have hne : ∀ entry ∈ rest, entry.1 ≠ id := fun entry hentry ↦
        ne_of_mem_of_not_mem (List.mem_map_of_mem hentry) hid
      have hstill : ∀ entry ∈ rest, entry.2.Valid → entry.2.Fits next entry.1 := by
        intro entry hentry hcounts
        unfold Counter.Fits
        rw [(frame_addUsage hnext (hne entry hentry)).1]
        exact hlater entry hentry hcounts
      obtain ⟨hkept, hevents⟩ := collectEntries_frame clock rest next
        fun entry hentry _ ↦ hne entry hentry
      refine List.forall_mem_cons.mpr ⟨fun _ ↦ ⟨?_, ?_⟩, fun entry hentry hcounts ↦ ?_⟩
      · rw [hkept, hrow', ((hfirst hvalid).counted hrow).1, hrow, Option.map_some]
      · rw [hevents, usageOf_addUsage hnext, if_pos rfl]
      · obtain ⟨hsame, husage⟩ := frame_addUsage hnext (hne entry hentry)
        have hcounted := ih hrest hstill entry hentry hcounts
        exact ⟨hsame ▸ hcounted.row, husage ▸ hcounted.events⟩
    | stopped hvalid hfailed =>
      obtain ⟨row, hrow, -⟩ := hfirst hvalid
      exact absurd ((hfirst hvalid).counted hrow).2 (hfailed row hrow)

theorem collectEntries_unknown (clock : DeviceId → ℤ) {order : List (DeviceId × Counter)}
    (hunknown : ∀ entry ∈ order, entry.2.Valid → store.storedById entry.1 = none) :
    (collectEntries clock order store).store = store := by
  induction order with
  | nil => rfl
  | cons entry rest ih =>
    obtain ⟨id, counter⟩ := entry
    obtain ⟨hfirst, hlater⟩ := List.forall_mem_cons.mp hunknown
    have hcases := collectEntry_cases store id counter (clock id)
    unfold collectEntries
    generalize collectEntry store id counter (clock id) = collected at hcases
    cases hcases with
    | skipped hinvalid => exact ih hlater
    | added hvalid hrow =>
      rw [hfirst hvalid] at hrow
      cases hrow
    | stopped => rfl

/-- An entry that comes first and does not fit: it is not counted as it should be, or it ends the
run at once. -/
theorem collectEntries_first (clock : DeviceId → ℤ) {rest : List (DeviceId × Counter)}
    (hvalid : counter.Valid) (hid : id ∉ rest.map Prod.fst) (hnot : ¬ counter.Fits store id) :
    (collectEntries clock ((id, counter) :: rest) store).store = store ∨
      store.storedById id ≠ none ∧
      ¬ CountedOnce store (collectEntries clock ((id, counter) :: rest) store).store id
        counter := by
  have hcases := collectEntry_cases store id counter (clock id)
  unfold collectEntries
  generalize collectEntry store id counter (clock id) = collected at hcases
  cases hcases with
  | skipped hinvalid => exact absurd hvalid hinvalid
  | @added row next _ hrow hfits _ hrow' =>
    refine .inr ⟨hrow ▸ Option.some_ne_none row, fun hcounted ↦ hnot ?_⟩
    have hothers : ∀ entry ∈ rest, entry.2.Valid → entry.1 ≠ id := fun entry hentry _ ↦
      ne_of_mem_of_not_mem (List.mem_map_of_mem hentry) hid
    obtain ⟨hkept, -⟩ := collectEntries_frame clock rest next hothers
    have hsame := hrow'.symm.trans (hkept.symm.trans hcounted.row)
    rw [hrow, Option.map_some] at hsame
    have hused := congrArg StoredDevice.usedBytes (Option.some.inj hsame)
    have hexact : wrap64 (counter.tx + counter.rx) = counter.tx + counter.rx :=
      Int.add_left_cancel hused
    refine ⟨row, hrow, hexact ▸ int64Range_wrap64 _, ?_⟩
    rwa [hused] at hfits
  | stopped => exact .inl rfl

end Loop

theorem sameUsage_collectOnline (store : Store) (online : OnlineAnswer) :
    SameUsage (collectOnline store online).1 store := by
  intro id
  unfold collectOnline
  split
  · exact ⟨rfl, rfl⟩
  · exact ⟨rfl, rfl⟩
  · exact ⟨rfl, rfl⟩
  · split
    · exact ⟨rfl, rfl⟩
    · exact ⟨rfl, rfl⟩

theorem SameUsage.symm {store store' : Store} (hsame : SameUsage store store') :
    SameUsage store' store := fun id ↦ ⟨(hsame id).1.symm, (hsame id).2.symm⟩

theorem SameUsage.trans {store store' store'' : Store} (hfirst : SameUsage store store')
    (hsecond : SameUsage store' store'') : SameUsage store store'' := fun id ↦
  ⟨(hfirst id).1.trans (hsecond id).1, (hfirst id).2.trans (hsecond id).2⟩

theorem sameUsage_collect (clock : DeviceId → ℤ) (online : OnlineAnswer) (store : Store)
    {size : ℕ} (hsize : size ≤ bodyLimit) (rest : ℕ) (order : List (DeviceId × Counter)) :
    SameUsage (collect clock online store (.counters size rest order)).store
      (collectEntries clock order store).store := by
  simp only [collect, if_neg (Nat.not_lt.mpr hsize)]
  split
  · exact fun _ ↦ ⟨rfl, rfl⟩
  · exact sameUsage_collectOnline _ online

theorem collect_truncated (clock : DeviceId → ℤ) (online : OnlineAnswer) (store : Store)
    {size : ℕ} (hsize : bodyLimit < size) (rest : ℕ) (order : List (DeviceId × Counter)) :
    (collect clock online store (.counters size rest order)).store = store := by
  simp only [collect, if_pos hsize]

/-! ### No loss -/

section Collected

variable {store next next' : Store} {size rest : ℕ} {counters : CounterMap}
  {order : List (DeviceId × Counter)} {id : DeviceId} {counter : Counter}

theorem not_countedOnce (hsame : SameUsage next store) : ¬ CountedOnce store next id counter := by
  intro hcounted
  have hlength := congrArg List.length (hcounted.events.symm.trans (hsame id).2)
  simp at hlength

theorem CountedOnce.of_same (hsame : SameUsage next next')
    (hcounted : CountedOnce store next id counter) : CountedOnce store next' id counter :=
  ⟨(hsame id).1.symm.trans hcounted.row, (hsame id).2.symm.trans hcounted.events⟩

theorem collect_known (hsize : size ≤ bodyLimit) (rest : ℕ)
    (hknown : ∀ entry ∈ counters.entries, entry.2.Valid → entry.2.Fits store entry.1)
    (horder : order.Perm counters.entries) (clock : DeviceId → ℤ) (online : OnlineAnswer) :
    (∀ entry ∈ counters.entries, entry.2.Valid → CountedOnce store
        (collect clock online store (.counters size rest order)).store entry.1 entry.2) ∧
      ∀ other, (∀ entry ∈ counters.entries, entry.2.Valid → entry.1 ≠ other) →
        (collect clock online store (.counters size rest order)).store.storedById other =
            store.storedById other ∧
          (collect clock online store (.counters size rest order)).store.usageOf other =
            store.usageOf other := by
  have hnodup : (order.map Prod.fst).Nodup :=
    (horder.map Prod.fst).nodup_iff.mpr counters.nodup
  have hlooped := sameUsage_collect clock online store hsize rest order
  constructor
  · intro entry hentry hvalid
    refine .of_same hlooped.symm (collectEntries_known clock hnodup (fun other hother ↦
      hknown other (horder.mem_iff.mp hother)) entry (horder.mem_iff.mpr hentry) hvalid)
  · intro other hother
    obtain ⟨hrow, hevents⟩ := collectEntries_frame clock order store
      fun entry hentry ↦ hother entry (horder.mem_iff.mp hentry)
    exact ⟨(hlooped other).1.trans hrow, (hlooped other).2.trans hevents⟩

theorem collect_unknown
    (hunknown : ∀ entry ∈ counters.entries, entry.2.Valid → store.storedById entry.1 = none)
    (horder : order.Perm counters.entries) (clock : DeviceId → ℤ) (online : OnlineAnswer) :
    SameUsage (collect clock online store (.counters size rest order)).store store := by
  rcases le_or_gt size bodyLimit with hsize | hsize
  · have hlooped := sameUsage_collect clock online store hsize rest order
    rwa [collectEntries_unknown clock fun entry hentry ↦
      hunknown entry (horder.mem_iff.mp hentry)] at hlooped
  · rw [collect_truncated clock online store hsize rest order]
    exact fun _ ↦ ⟨rfl, rfl⟩

theorem CollectsAll.fits (hall : CollectsAll store size rest counters)
    {found entry : DeviceId × Counter} (hfound : found ∈ counters.entries)
    (hvalid : found.2.Valid) (hrow : store.storedById found.1 ≠ none)
    (hentry : entry ∈ counters.entries) (hcounts : entry.2.Valid) :
    size ≤ bodyLimit ∧ entry.2.Fits store entry.1 := by
  have hcounted := hall.counted
  have hsize : size ≤ bodyLimit := by
    by_contra hlarge
    have hlost := hcounted _ (.refl _) (fun _ ↦ 0) (.status 0) found hfound hvalid hrow
    rw [collect_truncated _ _ store (Nat.not_le.mp hlarge)] at hlost
    exact not_countedOnce (fun _ ↦ ⟨rfl, rfl⟩) hlost
  refine ⟨hsize, ?_⟩
  by_contra hnot
  -- In the order that begins with the entry, the run ends at once or counts something else.
  have horder := (List.perm_cons_erase hentry).symm
  have hid : entry.1 ∉ (counters.entries.erase entry).map Prod.fst := by
    have hnodup := (horder.map Prod.fst).nodup_iff.mpr counters.nodup
    exact (List.nodup_cons.mp hnodup).1
  have hlooped := sameUsage_collect (fun _ ↦ 0) (.status 0) store hsize rest
    (entry :: counters.entries.erase entry)
  rcases collectEntries_first (fun _ ↦ 0) hcounts hid hnot with hsame | ⟨hknown, hwrong⟩
  · have hlost := hcounted _ horder (fun _ ↦ 0) (.status 0) found hfound hvalid hrow
    rw [hsame] at hlooped
    exact not_countedOnce hlooped hlost
  · exact hwrong (.of_same hlooped (hcounted _ horder _ _ entry hentry hcounts hknown))

end Collected

/-- An answer is collected without a loss exactly when none of its valid counters belongs to a
device of the table, or its JSON value ends within what is read and all of them belong to devices of
the table and can be added. -/
theorem collectsAll_iff (store : Store) (size rest : ℕ) (counters : CounterMap) :
    CollectsAll store size rest counters ↔
      (∀ entry ∈ counters.entries, entry.2.Valid → store.storedById entry.1 = none) ∨
        (size ≤ bodyLimit ∧
          ∀ entry ∈ counters.entries, entry.2.Valid → entry.2.Fits store entry.1) := by
  constructor
  · intro hall
    refine or_iff_not_imp_left.mpr fun hsome ↦ ?_
    push Not at hsome
    obtain ⟨found, hfound, hvalid, hrow⟩ := hsome
    exact ⟨(hall.fits hfound hvalid hrow hfound hvalid).1, fun entry hentry hcounts ↦
      (hall.fits hfound hvalid hrow hentry hcounts).2⟩
  · rintro (hunknown | ⟨hsize, hknown⟩)
    · refine ⟨fun _ _ _ _ entry hentry hvalid hrow ↦ absurd (hunknown entry hentry hvalid) hrow, ?_⟩
      intro order order' horder horder' clock clock' online online'
      exact (collect_unknown hunknown horder clock online).trans
        (collect_unknown hunknown horder' clock' online').symm
    · refine ⟨fun order horder clock online entry hentry hvalid _ ↦
        (collect_known hsize rest hknown horder clock online).1 entry hentry hvalid, ?_⟩
      intro order order' horder horder' clock clock' online online' id
      obtain ⟨hcounted, hothers⟩ := collect_known hsize rest hknown horder clock online
      obtain ⟨hcounted', hothers'⟩  := collect_known hsize rest hknown horder' clock' online'
      by_cases hmet : ∃ entry ∈ counters.entries, entry.2.Valid ∧ entry.1 = id
      · obtain ⟨entry, hentry, hvalid, rfl⟩ := hmet
        have hfirst := hcounted entry hentry hvalid
        have hsecond := hcounted' entry hentry hvalid
        exact ⟨hfirst.row.trans hsecond.row.symm, hfirst.events.trans hsecond.events.symm⟩
      · have hnone : ∀ entry ∈ counters.entries, entry.2.Valid → entry.1 ≠ id :=
          fun entry hentry hvalid hid ↦ hmet ⟨entry, hentry, hvalid, hid⟩
        obtain ⟨hrow, hevents⟩ := hothers id hnone
        obtain ⟨hrow', hevents'⟩ := hothers' id hnone
        exact ⟨hrow.trans hrow'.symm, hevents.trans hevents'.symm⟩

def mixedCounters : CounterMap := ⟨[("device", ⟨12, 9⟩), ("stranger", ⟨1, 1⟩)], by decide⟩

/-- The traffic of the device is lost in the order in which the unknown device comes first, and not
in the other. -/
theorem traffic_lost :
    ("device", Counter.mk 12 9) ∈ mixedCounters.entries ∧
    throttledStore.storedById "device" ≠ none ∧
    mixedCounters.entries.reverse.Perm mixedCounters.entries ∧
    ¬ CountedOnce throttledStore (collect (fun _ ↦ 0) (.counts 2 0 []) throttledStore
      (.counters 60 0 mixedCounters.entries.reverse)).store "device" ⟨12, 9⟩ ∧
    ¬ SameUsage
      (collect (fun _ ↦ 0) (.counts 2 0 []) throttledStore
        (.counters 60 0 mixedCounters.entries.reverse)).store
      (collect (fun _ ↦ 0) (.counts 2 0 []) throttledStore
        (.counters 60 0 mixedCounters.entries)).store := by
  refine ⟨by decide, by decide, List.reverse_perm _, ?_, ?_⟩
  · rintro ⟨-, hevents⟩
    exact absurd hevents (by decide)
  · intro hsame
    exact absurd (hsame "device").2 (by decide)

/-! ### Whom the loop kicks -/

/-- The loop is right about a device whose usage is counted: its plan is known, and it is an
exhausted trial, or it has used up its lease and is refused, or it has done neither and is
admitted. -/
def KickExact (device : Device) (now : ℤ) : Prop :=
  ∃ base, device.plan.policy = some base ∧
    ((device.plan = .code .trial ∧ device.effectiveQuota base ≤ device.usedBytes) ∨
      (0 < device.leaseBytes ∧ device.leaseBytes ≤ device.usedBytes ∧
        (device.active = false ∨ device.subscriptionEnds ≤ now ∨
          device.usedBytes < device.effectiveQuota base)) ∨
      (device.active = true ∧ now < device.subscriptionEnds ∧
        (device.leaseBytes ≤ 0 ∨ (device.usedBytes < device.leaseBytes ∧
          (now < device.leaseExpires ∨ device.effectiveQuota base ≤ device.usedBytes)))))

theorem quotaKick_iff {device : Device} {base : PlanPolicy}
    (hbase : device.plan.policy = some base) (used : ℤ) :
    quotaKick device used = true ↔
      (device.plan = .code .trial ∧ device.effectiveQuota base ≤ used) ∨
        (0 < device.leaseBytes ∧ device.leaseBytes ≤ used) := by
  simp [quotaKick, hbase]

theorem kickExact_iff (device : Device) (now : ℤ) :
    (quotaKick device device.usedBytes = true ↔ allowed device now = false) ↔
      KickExact device now := by
  cases hpolicy : device.plan.policy with
  | none =>
    have hkick : quotaKick device device.usedBytes = false := by simp [quotaKick, hpolicy]
    have hrefused : allowed device now = false := by simp [allowed, hpolicy]
    simp [KickExact, hkick, hrefused, hpolicy]
  | some base =>
    rw [quotaKick_iff hpolicy, ← Bool.not_eq_true, allowed_iff]
    simp only [KickExact, hpolicy, Option.some.injEq, exists_eq_left', ← Bool.not_eq_true]
    -- What is left is arithmetic of the usage, the quota, the lease and the two ends.
    by_cases htrial : device.plan = .code .trial
    · grind
    · grind

/-- Assumes: a row of the table, a credential whose hash is stored in it, and a valid counter that
`AddUsage` can record. The loop counts the usage, and the gates of both servers judge the counted
row alike; the loop kicks the device exactly when the gates refuse it, if and only if it is right
about the counted row. -/
theorem kick_exact_iff {hash : String → String} {store : Store} {id : DeviceId}
    {row : StoredDevice} {credential : String} {counter : Counter} (hcredential : credential ≠ "")
    (hrow : store.storedById id = some row) (hhash : row.credentialHash = hash credential)
    (hvalid : counter.Valid)
    (hfits : Int64Range (counter.recorded row).usedBytes) (now : ℤ) :
    ∃ next kicks, collectEntry store id counter now = .ok (next, kicks) ∧
      next.storedById id = some (counter.recorded row) ∧
      (authenticate hash next credential now).ok =
        allowed (Store.scanDevice (counter.recorded row)) now ∧
      ((kicks = true ↔ (authenticate hash next credential now).ok = false) ↔
        KickExact (Store.scanDevice (counter.recorded row)) now) := by
  have hcases := collectEntry_cases store id counter now
  generalize collectEntry store id counter now = collected at hcases
  cases hcases with
  | skipped hinvalid => exact absurd hvalid hinvalid
  | @added found next _ hfound _ _ hrow' =>
    obtain rfl : row = found := Option.mem_unique hrow hfound
    have hjudged : (authenticate hash next credential now).ok =
        allowed (Store.scanDevice (counter.recorded row)) now := by
      rw [authenticate_of_stored hcredential hrow' hhash, authenticateDevice_ok]
    refine ⟨next, _, rfl, hrow', hjudged, ?_⟩
    rw [hjudged]
    exact kickExact_iff _ now
  | stopped _ hfailed => exact absurd hfits (hfailed row hrow)

def storeOf (row : StoredDevice) : Store :=
  { throttledStore with
    devices := ⟨[row], List.nodup_singleton _, List.nodup_singleton _⟩ }

def leasedTrialRow : StoredDevice :=
  { throttledRow with
    plan := .code .trial
    quotaBytes := 20
    usedBytes := 12
    leaseBytes := 20
    leaseExpires := 100 }

theorem kick_exact_trial : ∃ next kicks,
    collectEntry (storeOf leasedTrialRow) "device" ⟨4, 4⟩ (ofUnix 50) = .ok (next, kicks) ∧
    (kicks = true ↔ (authenticate id next "hash" (ofUnix 50)).ok = false) := by
  have hrow : (storeOf leasedTrialRow).storedById "device" = some leasedTrialRow := rfl
  have hhash : leasedTrialRow.credentialHash = id "hash" := rfl
  have hvalid : (Counter.mk 4 4).Valid := by decide
  obtain ⟨next, kicks, hentry, -, -, hiff⟩ :=
    kick_exact_iff (by decide) hrow hhash hvalid (by decide) (ofUnix 50)
  exact ⟨next, kicks, hentry, hiff.mpr ⟨_, rfl, .inl ⟨rfl, by decide⟩⟩⟩

/-- A paid device past its quota with a used lease is kicked, and the gates admit it; a device
inside its quota whose lease has expired is not kicked, and the gates refuse it. -/
theorem throttled_device_kicked :
    (∃ next, collectEntry (storeOf throttledRow) "device" ⟨4, 4⟩ (ofUnix 50) = .ok (next, true) ∧
      (authenticate id next "hash" (ofUnix 50)).ok = true) ∧
    ∃ next, collectEntry (storeOf { throttledRow with usedBytes := 0 }) "device" ⟨4, 4⟩
        (ofUnix 50) = .ok (next, false) ∧
      (authenticate id next "hash" (ofUnix 50)).ok = false :=
  ⟨⟨_, rfl, rfl⟩, ⟨_, rfl, rfl⟩⟩

end RiseVpn
