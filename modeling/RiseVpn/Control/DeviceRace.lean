import RiseVpn.Control.DeviceSlots
import RiseVpn.Library.Threads
import Mathlib.Data.Finset.Union

/-!
# Devices that are created at the same time

The calls of `createDevice` for one user on one plan, statement by statement. A statement reads the
rows that are committed when it begins. `SELECT … FOR UPDATE` counts the unrevoked devices in that
snapshot and then waits for the rows of the subscription and of the plan, which are one lock here.
Creating a device does not modify these rows, so nothing is read again when the lock is granted: a
call that had to wait goes on with the number from before it waited. `INSERT` takes the next slot
from its own, later snapshot, and the unique index on the slots also knows the rows that are not
committed yet.

The entries of the index are held like locks, so `Machine.exclusive` gives both that the calls
between their `SELECT` and their end exclude each other and that no slot is given twice. The limit
of the plan is kept as long as a call whose snapshot shows a free slot gets the lock while there is
one (`StillFree`): `creations_within_limit`. `two_devices_for_one_slot` has two calls that both
count before the first one commits.
-/

set_option autoImplicit false

namespace RiseVpn.Control

open Threads GuardedRun

/-! ### The devices of a user -/

/-- A row of `devices`. -/
structure SlotRow where
  slot : ℕ
  revoked : Bool
  committed : Bool

/-- The rows of a user with `UNIQUE (user_id, slot)`. -/
structure DeviceIndex where
  rows : List SlotRow
  distinct : (rows.map SlotRow.slot).Nodup

namespace DeviceIndex

section

variable (index : DeviceIndex)

def slots : Finset ℕ := (index.rows.map SlotRow.slot).toFinset

/-- `SELECT count(*) … WHERE revoked_at IS NULL`. -/
def unrevoked : ℕ :=
  index.rows.countP fun row ↦ row.committed && !row.revoked

/-- `COALESCE(max(slot),0)+1`. -/
def nextSlot : ℕ :=
  ((index.rows.filter SlotRow.committed).map SlotRow.slot).foldr max 0 + 1

def isCommitted (slot : ℕ) : Bool :=
  index.rows.any fun row ↦ row.slot = slot && row.committed

theorem mem_slots {index : DeviceIndex} {slot : ℕ} :
    slot ∈ index.slots ↔ slot ∈ index.rows.map SlotRow.slot := List.mem_toFinset

def insert (slot : ℕ) (hfree : slot ∉ index.slots) : DeviceIndex where
  rows := index.rows ++ [⟨slot, false, false⟩]
  distinct := by
    rw [List.map_append, List.nodup_append]
    refine ⟨index.distinct, List.nodup_singleton _, fun taken htaken other hother hsame ↦ ?_⟩
    rw [hsame, List.mem_singleton.mp hother] at htaken
    exact hfree (mem_slots.mpr htaken)

def commit (slot : ℕ) : DeviceIndex where
  rows := index.rows.map fun row ↦ if row.slot = slot then { row with committed := true } else row
  distinct := by
    have hslots : (fun row : SlotRow ↦ (if row.slot = slot then { row with committed := true }
        else row).slot) = SlotRow.slot := by
      funext row
      split_ifs <;> rfl
    rw [List.map_map, Function.comp_def, hslots]
    exact index.distinct

def rollback (slot : ℕ) : DeviceIndex where
  rows := index.rows.filter fun row ↦ row.slot ≠ slot
  distinct := index.distinct.sublist (List.filter_sublist.map _)

end

end DeviceIndex

/-! ### The calls -/

structure DeviceTables where
  index : DeviceIndex
  locked : Bool

/-- Where a call of `createDevice` stands. A call that waits knows the number of devices that its
snapshot shows. A call ends with an error, with the slot of its device, or with an error although
its commit was executed. -/
inductive CreatePhase
  | entered
  | begun
  | waiting (shown : ℕ)
  | counted (shown : ℕ)
  | inserting (slot : ℕ)
  | inserted (slot : ℕ)
  | refused (failure : Failure)
  | created (slot : ℕ)
  | unconfirmed (slot : ℕ) (failure : Failure)

/-- What the next statement comes to: it is executed, it fails, or it is executed and the report is
lost. -/
inductive CreateMove
  | proceed
  | fail
  | lose

def notCreated : Failure := .problem 500 "db" "Не удалось создать устройство" ""

/-- `App.createDevice` up to its transaction. -/
def CreatePhase.enter (request : CreateDevice) : CreatePhase :=
  if request.name = "" then .refused (.problem 400 "invalid" "Укажите название устройства" "")
  else .entered

/-- The transaction of `App.createDevice`. An `INSERT` of a slot that another transaction has
inserted and not committed waits. A report is only of use to the call at the commit; before, losing
it rolls the transaction back like a failure. -/
def CreatePhase.next (limit : ℕ) (tables : DeviceTables) :
    CreatePhase → CreateMove → Option (DeviceTables × CreatePhase)
  | .entered, .proceed => some (tables, .begun)
  | .entered, _ => some (tables, .refused notCreated)
  | .begun, .proceed => some (tables, .waiting tables.index.unrevoked)
  | .begun, _ => some (tables, .refused .deviceLimit)
  | .waiting shown, .proceed =>
    if tables.locked then none else some ({ tables with locked := true }, .counted shown)
  | .waiting _, _ => some (tables, .refused .deviceLimit)
  | .counted shown, .proceed =>
    if limit ≤ shown then some ({ tables with locked := false }, .refused .deviceLimit)
    else some (tables, .inserting tables.index.nextSlot)
  | .counted _, _ => some ({ tables with locked := false }, .refused notCreated)
  | .inserting slot, .proceed =>
    if hfree : slot ∈ tables.index.slots then
      if tables.index.isCommitted slot then
        some ({ tables with locked := false }, .refused notCreated)
      else none
    else some ({ tables with index := tables.index.insert slot hfree }, .inserted slot)
  | .inserting _, _ => some ({ tables with locked := false }, .refused notCreated)
  | .inserted slot, .proceed => some (⟨tables.index.commit slot, false⟩, .created slot)
  | .inserted slot, .fail => some (⟨tables.index.rollback slot, false⟩, .refused notCreated)
  | .inserted slot, .lose =>
    some (⟨tables.index.commit slot, false⟩, .unconfirmed slot notCreated)
  | .refused _, _ => none
  | .created _, _ => none
  | .unconfirmed _ _, _ => none

def creationMachine (limit : ℕ) :
    Machine DeviceTables CreateDevice CreatePhase CreateMove Empty where
  enter := fun _ request ↦ .enter request
  advance := fun tables phase move ↦ phase.next limit tables move
  change := fun _ change ↦ change.elim

/-! ### The locks -/

inductive CreateLock
  | rows
  | entry (slot : ℕ)
  deriving DecidableEq

/-- The locks of a call. The entry of a slot stays with the call that has inserted it. -/
def CreatePhase.held : CreatePhase → Finset CreateLock
  | .counted _ | .inserting _ => {.rows}
  | .inserted slot => {.rows, .entry slot}
  | .created slot | .unconfirmed slot _ => {.entry slot}
  | _ => ∅

def DeviceTables.taken (tables : DeviceTables) : Finset CreateLock :=
  tables.index.slots.image .entry ∪ if tables.locked then {.rows} else ∅

section Locks

variable {limit : ℕ} {tables tables' : DeviceTables} {phase phase' : CreatePhase}
  {move : CreateMove}

@[simp] theorem rows_mem_taken : .rows ∈ tables.taken ↔ tables.locked = true := by
  unfold DeviceTables.taken
  split_ifs with hlocked <;> simp [hlocked]

@[simp] theorem entry_mem_taken {slot : ℕ} :
    .entry slot ∈ tables.taken ↔ slot ∈ tables.index.slots := by
  unfold DeviceTables.taken
  split_ifs <;> simp

@[simp] theorem DeviceIndex.slots_insert (index : DeviceIndex) (slot : ℕ)
    (hfree : slot ∉ index.slots) :
    (index.insert slot hfree).slots = Insert.insert slot index.slots := by
  ext other
  simp [DeviceIndex.insert, DeviceIndex.slots]

@[simp] theorem DeviceIndex.slots_commit (index : DeviceIndex) (slot : ℕ) :
    (index.commit slot).slots = index.slots := by
  have hslot : ∀ row : SlotRow, (if row.slot = slot then { row with committed := true }
      else row).slot = row.slot := by
    intro row
    split_ifs <;> rfl
  simp [DeviceIndex.commit, DeviceIndex.slots, Function.comp_def, hslot]

@[simp] theorem DeviceIndex.slots_rollback (index : DeviceIndex) (slot : ℕ) :
    (index.rollback slot).slots = index.slots.erase slot := by
  ext other
  simp only [DeviceIndex.rollback, DeviceIndex.slots, List.mem_toFinset, List.mem_map,
    List.mem_filter, Finset.mem_erase, decide_eq_true_eq]
  constructor
  · rintro ⟨row, ⟨hrow, hne⟩, rfl⟩
    exact ⟨hne, row, hrow, rfl⟩
  · rintro ⟨hne, row, hrow, rfl⟩
    exact ⟨row, ⟨hrow, hne⟩, rfl⟩

variable (limit : ℕ) (tables : DeviceTables) in
inductive CreateStep : CreatePhase → DeviceTables → CreatePhase → Prop
  | begins : CreateStep .entered tables .begun
  | shows : CreateStep .begun tables (.waiting tables.index.unrevoked)
  | granted (shown : ℕ) (hfree : tables.locked = false) :
      CreateStep (.waiting shown) { tables with locked := true } (.counted shown)
  | chooses (shown : ℕ) (hroom : shown < limit) :
      CreateStep (.counted shown) tables (.inserting tables.index.nextSlot)
  | inserts (slot : ℕ) (hfree : slot ∉ tables.index.slots) : CreateStep (.inserting slot)
        { tables with index := tables.index.insert slot hfree } (.inserted slot)
  | commits (slot : ℕ) {phase : CreatePhase} (hheld : phase.held = {.entry slot}) :
      CreateStep (.inserted slot) ⟨tables.index.commit slot, false⟩ phase
  | rollsBack (slot : ℕ) (failure : Failure) :
      CreateStep (.inserted slot) ⟨tables.index.rollback slot, false⟩ (.refused failure)
  | givesUp {phase : CreatePhase} (hheld : phase.held = ∅) (failure : Failure) :
      CreateStep phase tables (.refused failure)
  | unlocks {phase : CreatePhase} (hheld : phase.held = {.rows}) (failure : Failure) :
      CreateStep phase { tables with locked := false } (.refused failure)

theorem createStep_of_next (hnext : phase.next limit tables move = some (tables', phase')) :
    CreateStep limit tables phase tables' phase' := by
  cases phase with
  | entered =>
    cases move <;> cases hnext
    · exact .begins
    · exact .givesUp rfl _
    · exact .givesUp rfl _
  | begun =>
    cases move <;> cases hnext
    · exact .shows
    · exact .givesUp rfl _
    · exact .givesUp rfl _
  | waiting shown =>
    cases move with
    | proceed =>
      simp only [CreatePhase.next] at hnext
      split_ifs at hnext with hlocked
      cases hnext
      exact .granted shown (Bool.eq_false_iff.mpr hlocked)
    | fail | lose =>
      cases hnext
      exact .givesUp rfl _
  | counted shown =>
    cases move with
    | proceed =>
      simp only [CreatePhase.next] at hnext
      split_ifs at hnext with hlimit <;> cases hnext
      · exact .unlocks rfl _
      · exact .chooses shown (Nat.lt_of_not_le hlimit)
    | fail | lose =>
      cases hnext
      exact .unlocks rfl _
  | inserting slot =>
    cases move with
    | proceed =>
      simp only [CreatePhase.next] at hnext
      split_ifs at hnext with htaken <;> cases hnext
      · exact .unlocks rfl _
      · exact .inserts slot htaken
    | fail | lose =>
      cases hnext
      exact .unlocks rfl _
  | inserted slot =>
    cases move <;> cases hnext
    · exact .commits slot rfl
    · exact .rollsBack slot _
    · exact .commits slot rfl
  | refused failure => cases hnext
  | created slot => cases hnext
  | unconfirmed slot failure => cases hnext

theorem CreateStep.lockStep (hstep : CreateStep limit tables phase tables' phase')
    (hheld : phase.held ⊆ tables.taken) :
    LockStep phase.held phase'.held tables.taken tables'.taken := by
  cases hstep with
  | begins | shows | chooses => exact .keep hheld
  | givesUp hnone failure =>
    rw [hnone]
    exact .keep (Finset.empty_subset _)
  | granted shown hfree =>
    refine ⟨?_, ?_, ?_⟩
    · simp [CreatePhase.held, hfree]
    · simp [CreatePhase.held]
    · intro lock
      cases lock <;> simp [CreatePhase.held]
  | inserts slot hfree =>
    have hlocked : tables.locked = true := rows_mem_taken.mp (hheld (by simp [CreatePhase.held]))
    refine ⟨?_, ?_, ?_⟩
    · simp [CreatePhase.held, hfree]
    · intro lock
      cases lock <;> simp +contextual [CreatePhase.held, hlocked]
    · intro lock
      cases lock <;> simp +contextual [CreatePhase.held]
  | commits slot hphase =>
    have hslot : slot ∈ tables.index.slots :=
      entry_mem_taken.mp (hheld (by simp [CreatePhase.held]))
    rw [hphase]
    refine ⟨?_, ?_, ?_⟩
    · simp [CreatePhase.held]
    · simp [hslot]
    · intro lock
      cases lock <;> simp +contextual [CreatePhase.held]
  | rollsBack slot failure =>
    refine ⟨?_, ?_, ?_⟩
    · simp [CreatePhase.held]
    · simp [CreatePhase.held]
    · intro lock
      cases lock <;> simp +contextual [CreatePhase.held]
  | unlocks hrows failure =>
    rw [hrows]
    refine ⟨?_, ?_, ?_⟩
    · simp [CreatePhase.held]
    · simp [CreatePhase.held]
    · intro lock
      cases lock <;> simp +contextual

end Locks

/-! ### The limit of the plan -/

section Limit

variable {Slot : Type*} [DecidableEq Slot] {limit : ℕ} {tables tables' : DeviceTables}
  {phase phase' : CreatePhase} {start : DeviceTables}
  {system : System Slot DeviceTables CreatePhase}
  {condition : System Slot DeviceTables CreatePhase → Event Slot CreateDevice CreateMove Empty →
    System Slot DeviceTables CreatePhase → Prop}

theorem creations_exclusive
    (hreach : ReachableUnder (creationMachine limit).step condition (System.idle start) system) :
    Exclusive CreatePhase.held DeviceTables.taken system := by
  refine Machine.exclusive CreatePhase.held DeviceTables.taken hreach ?_ ?_ ?_
  · intro tables request
    show (CreatePhase.enter request).held = ∅
    unfold CreatePhase.enter
    split_ifs <;> rfl
  · intro tables phase move tables' phase' hheld hnext
    exact (createStep_of_next hnext).lockStep hheld
  · intro tables change
    exact change.elim

def CreatePhase.assigned : CreatePhase → Option ℕ
  | .created slot | .unconfirmed slot _ => some slot
  | _ => none

omit [DecidableEq Slot] in
theorem assigned_ne (hexclusive : Exclusive CreatePhase.held DeviceTables.taken system)
    {call other : Slot} (hphase : system.threads call = some phase)
    (hphase' : system.threads other = some phase') (hne : call ≠ other) {slot slot' : ℕ}
    (hslot : phase.assigned = some slot) (hslot' : phase'.assigned = some slot') :
    slot ≠ slot' := by
  have hentry : ∀ {phase : CreatePhase} {slot : ℕ}, phase.assigned = some slot →
      CreateLock.entry slot ∈ phase.held := by
    intro phase slot hassigned
    cases phase <;> cases hassigned <;> exact Finset.mem_singleton_self _
  rintro rfl
  exact hexclusive.apart call other phase phase' hphase hphase' hne _ (hentry hslot) (hentry hslot')

def CreatePhase.shown : CreatePhase → Option ℕ
  | .waiting shown => some shown
  | _ => none

/-- A call whose snapshot shows a free slot is granted the lock only while there is one. -/
def StillFree (limit : ℕ) (system : System Slot DeviceTables CreatePhase)
    (event : Event Slot CreateDevice CreateMove Empty)
    (_next : System Slot DeviceTables CreatePhase) : Prop :=
  match event with
  | .advance slot .proceed => ∀ phase ∈ system.threads slot, ∀ shown ∈ phase.shown,
      shown < limit → system.shared.index.unrevoked < limit
  | _ => True

instance (system next : System Slot DeviceTables CreatePhase)
    (event : Event Slot CreateDevice CreateMove Empty) :
    Decidable (StillFree limit system event next) := by
  unfold StillFree
  split <;> infer_instance

def CreatePhase.HasRoom (limit : ℕ) (tables : DeviceTables) : CreatePhase → Prop
  | .counted shown => shown < limit → tables.index.unrevoked < limit
  | .inserting _ | .inserted _ => tables.index.unrevoked < limit
  | _ => True

theorem hasRoom_of_unlocked (hrows : CreateLock.rows ∉ phase.held) :
    phase.HasRoom limit tables := by
  cases phase with
  | counted shown | inserting slot => exact absurd (Finset.mem_singleton_self _) hrows
  | inserted slot => exact absurd (Finset.mem_insert_self _ _) hrows
  | _ => trivial

theorem CreatePhase.HasRoom.mono (hroom : phase.HasRoom limit tables)
    (hfewer : tables'.index.unrevoked ≤ tables.index.unrevoked) : phase.HasRoom limit tables' := by
  cases phase with
  | counted shown => exact fun hshown ↦ hfewer.trans_lt (hroom hshown)
  | inserting slot | inserted slot => exact hfewer.trans_lt hroom
  | _ => trivial

theorem DeviceIndex.unrevoked_insert (index : DeviceIndex) (slot : ℕ)
    (hfree : slot ∉ index.slots) : (index.insert slot hfree).unrevoked = index.unrevoked := by
  simp [DeviceIndex.unrevoked, DeviceIndex.insert]

theorem DeviceIndex.unrevoked_rollback_le (index : DeviceIndex) (slot : ℕ) :
    (index.rollback slot).unrevoked ≤ index.unrevoked :=
  List.filter_sublist.countP_le

theorem DeviceIndex.unrevoked_commit_le (index : DeviceIndex) (slot : ℕ) :
    (index.commit slot).unrevoked ≤ index.unrevoked + 1 := by
  obtain ⟨rows, hdistinct⟩ := index
  simp only [DeviceIndex.unrevoked, DeviceIndex.commit]
  induction rows with
  | nil => exact Nat.zero_le _
  | cons row rows ih =>
    obtain ⟨hrow, hrest⟩ := List.nodup_cons.mp hdistinct
    rw [List.map_cons, List.countP_cons, List.countP_cons]
    by_cases hslot : row.slot = slot
    · have hsame : (rows.map fun row ↦
          if row.slot = slot then { row with committed := true } else row) = rows := by
        rw [List.map_congr_left (g := id), List.map_id]
        intro other hother
        exact if_neg fun hsame ↦ hrow (List.mem_map.mpr ⟨other, hother, hsame.trans hslot.symm⟩)
      rw [hsame]
      split_ifs <;> omega
    · have hrows := ih hrest
      rw [if_neg hslot]
      omega

theorem within_of_reachable
    (hreach : ReachableUnder (creationMachine limit).step (StillFree limit) (System.idle start)
      system) :
    system.shared.index.unrevoked ≤ max limit start.index.unrevoked := by
  have halong := hreach.along (Exclusive CreatePhase.held DeviceTables.taken)
    fun state hstate ↦ creations_exclusive hstate
  refine (Machine.invariant
    (fun tables ↦ tables.index.unrevoked ≤ max limit start.index.unrevoked)
    (fun tables phase ↦ phase.HasRoom limit tables) halong (le_max_right _ _) ?_ ?_ ?_).1
  · intro tables request _
    show (CreatePhase.enter request).HasRoom limit tables
    unfold CreatePhase.enter
    split_ifs <;> trivial
  · intro system slot move next phase phase' tables' hwithin hphase hroom hcondition hnext
    obtain ⟨hfree, hexclusive⟩ := hcondition
    have hothers (hfewer : tables'.index.unrevoked ≤ system.shared.index.unrevoked)
        (other : Slot) (found : CreatePhase) (_ : other ≠ slot)
        (_ : system.threads other = some found) (hfound : found.HasRoom limit system.shared) :
        found.HasRoom limit tables' := hfound.mono hfewer
    have hstep := createStep_of_next hnext
    cases hstep with
    | begins | shows | givesUp => exact ⟨hwithin, trivial, hothers le_rfl⟩
    | unlocks => exact ⟨hwithin, trivial, hothers le_rfl⟩
    | granted shown hunlocked =>
      have hproceed : move = .proceed := by
        cases move with
        | proceed => rfl
        | fail | lose => cases congrArg Prod.snd (Option.some.inj hnext)
      subst hproceed
      exact ⟨hwithin, hfree _ hphase shown rfl, hothers le_rfl⟩
    | chooses shown hshown => exact ⟨hwithin, hroom hshown, hothers le_rfl⟩
    | inserts inserted hnew =>
      have hsame := DeviceIndex.unrevoked_insert system.shared.index inserted hnew
      exact ⟨hsame.trans_le hwithin, hsame.trans_lt hroom, hothers hsame.le⟩
    | rollsBack inserted failure =>
      have hfewer := DeviceIndex.unrevoked_rollback_le system.shared.index inserted
      exact ⟨hfewer.trans hwithin, trivial, hothers hfewer⟩
    | commits inserted hheld =>
      have hmore := DeviceIndex.unrevoked_commit_le system.shared.index inserted
      have hbelow : system.shared.index.unrevoked < limit := hroom
      -- the other calls do not have the lock, so they count on nothing
      refine ⟨(hmore.trans hbelow).trans (le_max_left _ _), ?_, ?_⟩
      · exact hasRoom_of_unlocked (by simp [hheld])
      · intro other found hother hfound _
        refine hasRoom_of_unlocked fun hrows ↦ ?_
        exact hexclusive.apart other slot found _ hfound hphase hother _ hrows
          (Finset.mem_insert_self _ _)
  · intro system change
    exact change.elim

end Limit

/-- The calls of `createDevice` for a user on a plan, in any interleaving. No two of them create a
device in one slot. As long as a call whose snapshot shows a free slot is granted the lock only
while there is one, the user has at most as many unrevoked devices as the plan allows, or as
before. -/
theorem creations_within_limit {Slot : Type*} [DecidableEq Slot] (plan : PlanCode)
    (index : DeviceIndex) :
    (∀ system : System Slot DeviceTables CreatePhase,
      Reachable (creationMachine plan.row.deviceLimit).step (System.idle ⟨index, false⟩) system →
      ∀ call other phase phase' slot slot', system.threads call = some phase →
        system.threads other = some phase' → call ≠ other → phase.assigned = some slot →
        phase'.assigned = some slot' → slot ≠ slot') ∧
    ∀ system : System Slot DeviceTables CreatePhase,
      ReachableUnder (creationMachine plan.row.deviceLimit).step (StillFree plan.row.deviceLimit)
        (System.idle ⟨index, false⟩) system →
      system.shared.index.unrevoked ≤ max plan.row.deviceLimit index.unrevoked := by
  constructor
  · intro system hreach call other phase phase' slot slot' hphase hphase' hne hslot hslot'
    exact assigned_ne (creations_exclusive hreach) hphase hphase' hne hslot hslot'
  · intro system hreach
    exact within_of_reachable hreach

/-! ### Two calls and one free slot -/

def noDevices : DeviceIndex := ⟨[], List.nodup_nil⟩

def someDevice : CreateDevice := ⟨"user", "phone", "device", "hash"⟩

def beginsCall (call : ℕ) : List (Event ℕ CreateDevice CreateMove Empty) :=
  [.start call someDevice, .advance call .proceed, .advance call .proceed]

def goesOn (call statements : ℕ) : List (Event ℕ CreateDevice CreateMove Empty) :=
  List.replicate statements (.advance call .proceed)

def liteAfter (events : List (Event ℕ CreateDevice CreateMove Empty)) :
    System ℕ DeviceTables CreatePhase :=
  (run (creationMachine PlanCode.lite.row.deviceLimit).step (System.idle ⟨noDevices, false⟩)
    events).getD (System.idle ⟨noDevices, false⟩)

def oneAfterTheOther : List (Event ℕ CreateDevice CreateMove Empty) :=
  beginsCall 0 ++ goesOn 0 4 ++ beginsCall 1 ++ goesOn 1 2

def bothCountFirst : List (Event ℕ CreateDevice CreateMove Empty) :=
  beginsCall 0 ++ beginsCall 1 ++ goesOn 0 4 ++ goesOn 1 4

theorem creations_within_lite :
    (∀ slot slot', (CreatePhase.created 1).assigned = some slot →
      (CreatePhase.created 2).assigned = some slot' → slot ≠ slot') ∧
    (liteAfter oneAfterTheOther).threads 1 = some (.refused .deviceLimit) ∧
      (liteAfter oneAfterTheOther).shared.index.unrevoked ≤
        max PlanCode.lite.row.deviceLimit noDevices.unrevoked := by
  have hboth : run (creationMachine PlanCode.lite.row.deviceLimit).step
      (System.idle ⟨noDevices, false⟩) bothCountFirst = some (liteAfter bothCountFirst) := rfl
  have hrun : runUnder (creationMachine PlanCode.lite.row.deviceLimit).step
      (StillFree PlanCode.lite.row.deviceLimit) (System.idle ⟨noDevices, false⟩)
      oneAfterTheOther = some (liteAfter oneAfterTheOther) := rfl
  obtain ⟨hslots, hlimit⟩ := @creations_within_limit ℕ _ PlanCode.lite noDevices
  refine ⟨fun slot slot' ↦ ?_, rfl, hlimit _ (reachableUnder_of_runUnder hrun)⟩
  exact hslots _ (reachable_of_run hboth) 0 1 _ _ slot slot' rfl rfl (by decide)

/-- Both calls create a device, in slots 1 and 2, on a plan with one device. -/
theorem two_devices_for_one_slot :
    Reachable (creationMachine PlanCode.lite.row.deviceLimit).step (System.idle ⟨noDevices, false⟩)
        (liteAfter bothCountFirst) ∧
      (liteAfter bothCountFirst).threads 0 = some (.created 1) ∧
      (liteAfter bothCountFirst).threads 1 = some (.created 2) ∧
      ¬ (liteAfter bothCountFirst).shared.index.unrevoked ≤
        max PlanCode.lite.row.deviceLimit noDevices.unrevoked := by
  exact ⟨reachable_getD _, rfl, rfl, by decide⟩

end RiseVpn.Control
