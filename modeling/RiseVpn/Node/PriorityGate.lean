import RiseVpn.Library.Threads
import Mathlib.Data.Set.Card

/-!
# The admission gate of authenticated sessions

`priorityGate`, which the Hysteria patch adds to cap the authenticated sessions of a node. A call of
`Acquire` takes a free slot or queues a channel under its priority and waits; `Release` closes the
channel that waits longest under the highest priority, which hands the slot over without touching
the counter, and frees the slot when nobody waits. A call that is cancelled takes its channel out of
the queue, and when it no longer finds it there it was granted a slot in the meantime.

Each section of the code between `Lock` and `Unlock` is one step, and so are the two ways out of the
`select`; the calls are threads on the gate. Channels are numbered in the order in which they are
made, which is the order of arrival, because a channel is queued in the section that makes it, and
`closed` logs the channels that were closed. A call that holds a slot releases it at most once.

`GateSound` is the invariant, `gateSound_of_reachable` the run lemma. `priorityGate_safe` reads off
what holds in every state and what a `Release` does in it.
-/

set_option autoImplicit false

namespace RiseVpn

open Threads GuardedRun Function

/-! ### The gate -/

abbrev WaitChannel := ℕ

/-- `priorityGate`, with the number of channels made so far and the channels closed so far. -/
structure PriorityGate where
  active : ℕ
  capacity : ℕ
  waiters : Fin 4 → List WaitChannel
  made : ℕ
  closed : List WaitChannel

def newPriorityGate (capacity : ℕ) : PriorityGate := ⟨0, capacity, fun _ ↦ [], 0, []⟩

/-- Where a call of `Acquire` is: before its first section, in the `select`, after `ctx.Done()` and
before the section that looks for the channel, after the return of nil, after the return of an
error, after the `Release`. A call that has waited keeps its channel. -/
inductive GateCall
  | acquire (priority : UInt8)
  | waiting (priority : Fin 4) (channel : WaitChannel)
  | cancelled (priority : Fin 4) (channel : WaitChannel)
  | granted (channel : Option WaitChannel)
  | failed (channel : WaitChannel)
  | released (channel : Option WaitChannel)

/-- What a call does next: the next section of `Acquire`, one of the two ways out of the `select`,
or `Release`. -/
inductive GateMove
  | proceed
  | wake
  | done
  | release

def clampPriority (priority : UInt8) : Fin 4 :=
  if h : priority.toNat > 3 then 3 else ⟨priority.toNat, by omega⟩

/-- The first section of `Acquire`. -/
def PriorityGate.acquire (gate : PriorityGate) (priority : UInt8) : PriorityGate × GateCall :=
  if gate.active < gate.capacity then
    ({ gate with active := gate.active + 1 }, .granted none)
  else
    let queue := clampPriority priority
    ({ gate with
        waiters := update gate.waiters queue (gate.waiters queue ++ [gate.made])
        made := gate.made + 1 },
      .waiting queue gate.made)

/-- The section after `ctx.Done()`. -/
def PriorityGate.withdraw (gate : PriorityGate) (priority : Fin 4) (channel : WaitChannel) :
    PriorityGate × GateCall :=
  if channel ∈ gate.waiters priority then
    ({ gate with
        waiters := update gate.waiters priority ((gate.waiters priority).erase channel) },
      .failed channel)
  else
    -- the waiter was granted while cancellation raced with `Release`
    (gate, .granted (some channel))

/-- The loop of `Release` over the priorities it still has to look at. -/
def PriorityGate.releaseFrom (gate : PriorityGate) : List (Fin 4) → PriorityGate
  | [] => if 0 < gate.active then { gate with active := gate.active - 1 } else gate
  | priority :: lower =>
    match gate.waiters priority with
    | [] => gate.releaseFrom lower
    | channel :: rest =>
      { gate with
        waiters := update gate.waiters priority rest
        closed := gate.closed ++ [channel] }

def PriorityGate.release (gate : PriorityGate) : PriorityGate := gate.releaseFrom [3, 2, 1, 0]

/-- The next step of a call on the gate. The `select` goes on with the channel once it is closed and
with `ctx.Done()` whenever the context of the call ends. -/
def GateCall.next (gate : PriorityGate) : GateCall → GateMove → Option (PriorityGate × GateCall)
  | .acquire priority, .proceed => some (gate.acquire priority)
  | .waiting _ channel, .wake =>
    if channel ∈ gate.closed then some (gate, .granted (some channel)) else none
  | .waiting priority channel, .done => some (gate, .cancelled priority channel)
  | .cancelled priority channel, .proceed => some (gate.withdraw priority channel)
  | .granted channel, .release => some (gate.release, .released channel)
  | _, _ => none

def gateMachine : Machine PriorityGate UInt8 GateCall GateMove Empty where
  enter := fun _ priority ↦ .acquire priority
  advance := GateCall.next
  change := fun _ change ↦ change.elim

/-! ### What a release does -/

/-- `Release` in its two cases: it closes the first channel of the highest queue that is not empty,
or every queue is empty and it takes one from the counter. -/
inductive GateReleased (gate : PriorityGate) : PriorityGate → Prop
  | handed (priority : Fin 4) (channel : WaitChannel) (rest : List WaitChannel)
      (hqueue : gate.waiters priority = channel :: rest)
      (hhigher : ∀ higher, priority < higher → gate.waiters higher = []) :
      GateReleased gate { gate with
        waiters := update gate.waiters priority rest
        closed := gate.closed ++ [channel] }
  | freed (hempty : ∀ priority, gate.waiters priority = []) :
      GateReleased gate { gate with active := gate.active - 1 }

theorem gateReleased_release (gate : PriorityGate) : GateReleased gate gate.release := by
  have hloop : ∀ (priorities : List (Fin 4)),
      (∀ priority, priority ∉ priorities → gate.waiters priority = []) →
      priorities.Pairwise (· > ·) → GateReleased gate (gate.releaseFrom priorities) := by
    intro priorities
    induction priorities with
    | nil =>
      intro hseen _
      have hfreed := GateReleased.freed fun priority ↦ hseen priority List.not_mem_nil
      unfold PriorityGate.releaseFrom
      split_ifs with hactive
      · exact hfreed
      · have hzero : gate.active - 1 = gate.active := by omega
        rw [hzero] at hfreed
        exact hfreed
    | cons priority lower ih =>
      intro hseen hsorted
      obtain ⟨hlower, hsorted⟩ := List.pairwise_cons.mp hsorted
      unfold PriorityGate.releaseFrom
      split
      · rename_i hqueue
        refine ih (fun other hother ↦ ?_) hsorted
        by_cases hsame : other = priority
        · rw [hsame, hqueue]
        · exact hseen other (by simp [hsame, hother])
      · rename_i channel rest hqueue
        refine .handed priority channel rest hqueue fun higher hhigher ↦ hseen higher fun hmem ↦ ?_
        rcases List.mem_cons.mp hmem with rfl | hmem
        · exact lt_irrefl _ hhigher
        · exact lt_asymm hhigher (hlower higher hmem)
  have hall : ∀ priority : Fin 4, priority ∈ [3, 2, 1, 0] := by decide
  exact hloop [3, 2, 1, 0] (fun priority hpriority ↦ absurd (hall priority) hpriority) (by decide)

theorem GateReleased.capacity_eq {gate next : PriorityGate} (hreleased : GateReleased gate next) :
    next.capacity = gate.capacity := by
  cases hreleased <;> rfl

/-! ### The invariant -/

def GateCall.waitsOn : GateCall → Option (Fin 4 × WaitChannel)
  | .waiting priority channel | .cancelled priority channel => some (priority, channel)
  | _ => none

def GateCall.channel : GateCall → Option WaitChannel
  | .acquire _ => none
  | .waiting _ channel | .cancelled _ channel | .failed channel => some channel
  | .granted channel | .released channel => channel

/-- The slots that a call holds: the grants it was given, by the counter or by closing its channel,
and has not released. -/
def GateCall.slots (closed : List WaitChannel) : GateCall → ℕ
  | .acquire _ | .released _ => 0
  | .granted none => 1
  | .waiting _ channel | .cancelled _ channel | .failed channel | .granted (some channel) =>
    closed.count channel

/-- What holds of a call: a channel that is waited on is queued or closed, one with which nil was
returned is closed, and one with which an error was returned is not. -/
def GateCall.Fits (gate : PriorityGate) : GateCall → Prop
  | .acquire _ | .granted none | .released none => True
  | .waiting priority channel | .cancelled priority channel =>
    channel < gate.made ∧ (channel ∈ gate.waiters priority ∨ channel ∈ gate.closed)
  | .granted (some channel) | .released (some channel) => channel ∈ gate.closed
  | .failed channel => channel < gate.made ∧ channel ∉ gate.closed

section Calls

variable {Slot : Type*}

def gateHolders (system : System Slot PriorityGate GateCall) : Set Slot :=
  {slot | ∃ call, system.threads slot = some call ∧ 0 < call.slots system.shared.closed}

structure GateSound (system : System Slot PriorityGate GateCall) : Prop where
  counted : (gateHolders system).encard = system.shared.active
  bounded : system.shared.active ≤ system.shared.capacity
  full : ∀ priority, system.shared.waiters priority ≠ [] →
    system.shared.active = system.shared.capacity
  ordered : ∀ priority, (system.shared.waiters priority).Pairwise (· < ·)
  closedOnce : system.shared.closed.Nodup
  closedMade : ∀ channel ∈ system.shared.closed, channel < system.shared.made
  owned : ∀ priority, ∀ channel ∈ system.shared.waiters priority, channel ∉ system.shared.closed ∧
    ∃ slot call, system.threads slot = some call ∧ call.waitsOn = some (priority, channel)
  fits : ∀ slot call, system.threads slot = some call → call.Fits system.shared
  single : system.Pairwise fun call call' ↦
    ∀ channel, call.channel = some channel → call'.channel ≠ some channel

variable {system : System Slot PriorityGate GateCall} {gate : PriorityGate} {slot : Slot}
  {call call' : GateCall}

variable {channel : WaitChannel} {priority : Fin 4} {waiters : Fin 4 → List WaitChannel}
  {own : Option WaitChannel}

theorem GateCall.channel_of_waitsOn (hwaits : call.waitsOn = some (priority, channel)) :
    call.channel = some channel := by
  cases call <;> simp_all [GateCall.waitsOn, GateCall.channel]

theorem GateCall.Fits.lt_made (hfits : call.Fits gate)
    (hclosed : ∀ channel ∈ gate.closed, channel < gate.made)
    (hchannel : call.channel = some channel) : channel < gate.made := by
  cases call with
  | acquire => cases hchannel
  | waiting | cancelled | failed =>
    cases hchannel
    exact hfits.1
  | granted own | released own =>
    cases hchannel
    exact hclosed _ hfits

theorem GateCall.Fits.queue (hfits : call.Fits gate) (queue : Fin 4) :
    call.Fits { gate with
      waiters := update gate.waiters queue (gate.waiters queue ++ [gate.made])
      made := gate.made + 1 } := by
  cases call with
  | waiting own channel | cancelled own channel =>
    refine ⟨hfits.1.trans (Nat.lt_succ_self _), hfits.2.imp_left fun hmem ↦ ?_⟩
    by_cases hown : own = queue
    · subst hown
      simp [hmem]
    · simpa [update_of_ne hown] using hmem
  | failed channel => exact ⟨hfits.1.trans (Nat.lt_succ_self _), hfits.2⟩
  | acquire => trivial
  | granted own | released own => cases own <;> exact hfits

section

variable (hfits : call.Fits gate)
  (hleft : ∀ queue waiting, waiting ∈ gate.waiters queue → waiting ≠ channel →
    waiting ∈ waiters queue)

include hfits hleft

theorem GateCall.Fits.remove (hne : call.channel ≠ some channel) :
    call.Fits { gate with waiters } := by
  cases call with
  | waiting own waiting | cancelled own waiting =>
    refine ⟨hfits.1, hfits.2.imp_left fun hmem ↦ hleft own waiting hmem ?_⟩
    exact fun hsame ↦ hne (congrArg some hsame)
  | acquire => trivial
  | failed => exact hfits
  | granted own | released own => cases own <;> exact hfits

theorem GateCall.Fits.close
    (hwaits : call.channel = some channel → call.waitsOn = some (priority, channel)) :
    call.Fits { gate with waiters, closed := gate.closed ++ [channel] } := by
  cases call with
  | waiting queue waiting | cancelled queue waiting =>
    refine ⟨hfits.1, ?_⟩
    by_cases hsame : waiting = channel
    · exact .inr (by simp [hsame])
    · exact hfits.2.imp (fun hmem ↦ hleft queue waiting hmem hsame) (List.mem_append_left _)
  | acquire => trivial
  | failed waiting =>
    refine ⟨hfits.1, fun hclosed ↦ ?_⟩
    rcases List.mem_append.mp hclosed with hclosed | hclosed
    · exact hfits.2 hclosed
    · cases hwaits (congrArg some (List.mem_singleton.mp hclosed))
  | granted own | released own =>
    cases own with
    | none => trivial
    | some own => exact List.mem_append_left _ hfits

end

section

variable (hsound : GateSound system)

include hsound

theorem GateSound.channel_ne {other : Slot} {found : GateCall}
    (hcall : system.threads slot = some call) (hchannel : call.channel = some channel)
    (hother : other ≠ slot) (hfound : system.threads other = some found) :
    found.channel ≠ some channel :=
  fun hsame ↦ hsound.single other slot found call hfound hcall hother channel hsame hchannel

theorem GateSound.queue_eq {other : Fin 4} (hqueued : channel ∈ system.shared.waiters priority)
    (hother : channel ∈ system.shared.waiters other) : priority = other := by
  obtain ⟨-, first, one, hone, hwaits⟩ := hsound.owned priority channel hqueued
  obtain ⟨-, second, two, htwo, hwaits'⟩ := hsound.owned other channel hother
  have hslots : first = second := by_contra fun hne ↦ hsound.channel_ne htwo
    (GateCall.channel_of_waitsOn hwaits') hne hone (GateCall.channel_of_waitsOn hwaits)
  subst hslots
  cases hone.symm.trans htwo
  cases hwaits.symm.trans hwaits'
  rfl

theorem GateSound.nodup (priority : Fin 4) : (system.shared.waiters priority).Nodup :=
  (hsound.ordered priority).imp fun hlt ↦ hlt.ne

theorem GateSound.mem_left {left : List WaitChannel}
    (hqueued : channel ∈ system.shared.waiters priority)
    (hleft : ∀ waiting, waiting ∈ left ↔ waiting ∈ system.shared.waiters priority ∧ waiting ≠
      channel) (other : Fin 4) (waiting : WaitChannel) :
    waiting ∈ update system.shared.waiters priority left other ↔
      waiting ∈ system.shared.waiters other ∧ waiting ≠ channel := by
  by_cases hother : other = priority
  · subst hother
    rw [update_self, hleft]
  · rw [update_of_ne hother]
    refine ⟨fun hmem ↦ ⟨hmem, ?_⟩, And.left⟩
    rintro rfl
    exact hother (hsound.queue_eq hmem hqueued)

theorem GateSound.ordered_left {left : List WaitChannel}
    (hleft : left.Sublist (system.shared.waiters priority)) (other : Fin 4) :
    (update system.shared.waiters priority left other).Pairwise (· < ·) :=
  (forall_update_iff _ fun _ ↦ List.Pairwise (· < ·)).mpr
    ⟨(hsound.ordered priority).sublist hleft, fun other _ ↦ hsound.ordered other⟩ other

end

theorem GateCall.slots_append {closed : List WaitChannel} (hchannel : call.channel ≠ some channel) :
    call.slots (closed ++ [channel]) = call.slots closed := by
  have hcount : ∀ own, some own ≠ some channel → (closed ++ [channel]).count own =
      closed.count own := by
    intro own hown
    have hne : channel ≠ own := fun hsame ↦ hown (congrArg some hsame.symm)
    rw [List.count_append, List.count_singleton, beq_false_of_ne hne]
    rfl
  cases call with
  | acquire | released => rfl
  | waiting queue own | cancelled queue own => exact hcount own hchannel
  | failed own => exact hcount own hchannel
  | granted own =>
    cases own with
    | none => rfl
    | some own => exact hcount own hchannel

theorem mem_gateHolders (hcall : system.threads slot = some call) :
    slot ∈ gateHolders system ↔ 0 < call.slots system.shared.closed := by
  simp [gateHolders, hcall]

theorem GateSound.granted_mem_gateHolders (hsound : GateSound system) {channel : Option WaitChannel}
    (hcall : system.threads slot = some (.granted channel)) : slot ∈ gateHolders system := by
  rw [mem_gateHolders hcall]
  cases channel with
  | none => exact Nat.one_pos
  | some channel => exact List.count_pos_iff.mpr (hsound.fits slot _ hcall)

variable [DecidableEq Slot]

theorem mem_gateHolders_of_ne {other : Slot} (hother : other ≠ slot)
    (hclosed : gate.closed = system.shared.closed) :
    other ∈ gateHolders { system.set slot call with shared := gate } ↔
      other ∈ gateHolders system := by
  simp [gateHolders, System.set_of_ne system call hother, hclosed]

theorem gateHolders_eq (hcall : system.threads slot = some call)
    (hclosed : gate.closed = system.shared.closed)
    (hslots : call'.slots gate.closed = call.slots gate.closed) :
    gateHolders { system.set slot call' with shared := gate } = gateHolders system := by
  ext other
  by_cases hother : other = slot
  · subst hother
    rw [mem_gateHolders hcall, ← hclosed, ← hslots]
    exact mem_gateHolders (System.set_self system other call')
  · exact mem_gateHolders_of_ne hother hclosed

theorem gateHolders_insert (hclosed : gate.closed = system.shared.closed)
    (hslots : 0 < call.slots gate.closed) :
    gateHolders { system.set slot call with shared := gate } =
      insert slot (gateHolders system) := by
  ext other
  by_cases hother : other = slot
  · subst hother
    simp [gateHolders, hslots]
  · simpa [hother] using mem_gateHolders_of_ne hother hclosed

theorem gateHolders_erase (hclosed : gate.closed = system.shared.closed)
    (hslots : call.slots gate.closed = 0) :
    gateHolders { system.set slot call with shared := gate } = gateHolders system \ {slot} := by
  ext other
  by_cases hother : other = slot
  · subst hother
    simp [gateHolders, hslots]
  · simpa [hother] using mem_gateHolders_of_ne hother hclosed

theorem GateSound.single_set (hsound : GateSound system)
    (hnew : ∀ other found, other ≠ slot → system.threads other = some found →
      ∀ channel, found.channel = some channel → call'.channel ≠ some channel) :
    (system.set slot call').Pairwise fun call call' ↦
      ∀ channel, call.channel = some channel → call'.channel ≠ some channel :=
  hsound.single.set (fun hapart channel hcall hcall' ↦ hapart channel hcall' hcall) hnew

theorem owner_set
    (howner : ∃ other found, system.threads other = some found ∧
      found.waitsOn = some (priority, channel))
    (hslot : ∀ found, system.threads slot = some found →
      found.waitsOn = some (priority, channel) → call'.waitsOn = some (priority, channel)) :
    ∃ other found, (system.set slot call').threads other = some found ∧
      found.waitsOn = some (priority, channel) := by
  obtain ⟨other, found, hfound, hwaits⟩ := howner
  by_cases hother : other = slot
  · subst hother
    exact ⟨other, call', System.set_self system other call', hslot found hfound hwaits⟩
  · exact ⟨other, found, (System.set_of_ne system call' hother).trans hfound, hwaits⟩

section

variable (hsound : GateSound system)

include hsound

theorem GateSound.relabel {active : ℕ} (hfits : call'.Fits system.shared)
    (hchannel : ∀ channel, call'.channel = some channel → ∃ call, system.threads slot = some call ∧
      call.channel = some channel)
    (hwaits : ∀ call priority channel, system.threads slot = some call → call.waitsOn = some
      (priority, channel) → channel ∈ system.shared.waiters priority → call'.waitsOn = some
      (priority, channel))
    (hcounted : (gateHolders { system.set slot call' with shared := { system.shared with active }
      }).encard = active) (hbounded : active ≤ system.shared.capacity)
    (hfull : ∀ priority, system.shared.waiters priority ≠ [] → active = system.shared.capacity) :
    GateSound { system.set slot call' with shared := { system.shared with active } } where
  counted := hcounted
  bounded := hbounded
  full := hfull
  ordered := hsound.ordered
  closedOnce := hsound.closedOnce
  closedMade := hsound.closedMade
  owned := fun priority channel hqueued ↦
    ⟨(hsound.owned priority channel hqueued).1, owner_set (hsound.owned priority channel hqueued).2
      fun call hcall hcallWaits ↦ hwaits call priority channel hcall hcallWaits hqueued⟩
  fits := by
    intro other found hfound
    rcases System.mem_set hfound with ⟨rfl, rfl⟩ | ⟨-, hold⟩
    · cases found <;> exact hfits
    · have hold := hsound.fits other found hold
      cases found <;> exact hold
  single := hsound.single_set fun other found hother hfound channel hsame hnew ↦ by
    obtain ⟨call, hcall, hold⟩ := hchannel channel hnew
    exact hsound.channel_ne hcall hold hother hfound hsame

theorem GateSound.queue {priority : UInt8} (hcall : system.threads slot = some (.acquire priority))
    (hfull : system.shared.capacity ≤ system.shared.active) (queue : Fin 4) :
    GateSound { system.set slot (.waiting queue system.shared.made) with
      shared := { system.shared with
        waiters := update system.shared.waiters queue
          (system.shared.waiters queue ++ [system.shared.made])
        made := system.shared.made + 1 } } := by
  have hfresh : system.shared.made ∉ system.shared.closed :=
    fun hclosed ↦ lt_irrefl _ (hsound.closedMade _ hclosed)
  have hqueued : ∀ priority channel, channel ∈ system.shared.waiters priority →
      channel < system.shared.made := by
    intro priority channel hmem
    obtain ⟨-, other, found, hfound, hwaits⟩ := hsound.owned priority channel hmem
    exact (hsound.fits other found hfound).lt_made hsound.closedMade
      (GateCall.channel_of_waitsOn hwaits)
  refine ⟨?_, hsound.bounded, fun _ _ ↦ le_antisymm hsound.bounded hfull, ?_, hsound.closedOnce,
    fun channel hclosed ↦ (hsound.closedMade channel hclosed).trans (Nat.lt_succ_self _), ?_, ?_,
    hsound.single_set fun other found _ hfound channel hchannel hnew ↦ ?_⟩
  · refine Eq.trans (congrArg Set.encard (gateHolders_eq hcall rfl ?_)) hsound.counted
    exact List.count_eq_zero.mpr hfresh
  · refine (forall_update_iff _ fun _ ↦ List.Pairwise (· < ·)).mpr
      ⟨List.pairwise_append.mpr ⟨hsound.ordered queue, List.pairwise_singleton _ _, ?_⟩,
        fun other _ ↦ hsound.ordered other⟩
    intro channel hmem new hnew
    rw [List.mem_singleton.mp hnew]
    exact hqueued queue channel hmem
  · intro other channel hmem
    have hcases : channel ∈ system.shared.waiters other ∨
        (other = queue ∧ channel = system.shared.made) := by
      by_cases hother : other = queue
      · subst hother
        simpa using hmem
      · exact .inl (by simpa [update_of_ne hother] using hmem)
    rcases hcases with hold | ⟨rfl, rfl⟩
    · refine ⟨(hsound.owned other channel hold).1, owner_set (hsound.owned other channel hold).2 ?_⟩
      intro found hfound hwaits
      cases hcall.symm.trans hfound
      cases hwaits
    · exact ⟨hfresh, slot, _, System.set_self system slot _, rfl⟩
  · intro other found hfound
    rcases System.mem_set hfound with ⟨rfl, rfl⟩ | ⟨-, hold⟩
    · exact ⟨Nat.lt_succ_self _, .inl (by simp)⟩
    · exact (hsound.fits other found hold).queue queue
  · cases hnew
    exact lt_irrefl _ ((hsound.fits other found hfound).lt_made hsound.closedMade hchannel)

theorem GateSound.withdraw (hcall : system.threads slot = some (.cancelled priority channel))
    (hqueued : channel ∈ system.shared.waiters priority) :
    GateSound { system.set slot (.failed channel) with
      shared := { system.shared with
        waiters := update system.shared.waiters priority
          ((system.shared.waiters priority).erase channel) } } := by
  have hopen : channel ∉ system.shared.closed := (hsound.owned priority channel hqueued).1
  have hleft := hsound.mem_left hqueued fun waiting ↦
    ((hsound.nodup priority).mem_erase_iff (b := channel)).trans and_comm
  refine ⟨?_, hsound.bounded, fun other hother ↦ ?_, hsound.ordered_left List.erase_sublist,
    hsound.closedOnce, hsound.closedMade, fun other waiting hmem ↦ ?_, fun other found hfound ↦ ?_,
    hsound.single_set fun other found hother hfound waiting hsame hnew ↦ ?_⟩
  · exact Eq.trans (congrArg Set.encard (gateHolders_eq hcall rfl rfl)) hsound.counted
  · obtain ⟨waiting, hmem⟩ := List.exists_mem_of_ne_nil _ hother
    exact hsound.full other (List.ne_nil_of_mem ((hleft other waiting).mp hmem).1)
  · obtain ⟨hold, hne⟩ := (hleft other waiting).mp hmem
    obtain ⟨hwaiting, howner⟩ := hsound.owned other waiting hold
    refine ⟨hwaiting, owner_set howner fun found hfound hwaits ↦ ?_⟩
    cases hcall.symm.trans hfound
    cases hwaits
    exact absurd rfl hne
  · rcases System.mem_set hfound with ⟨rfl, rfl⟩ | ⟨hother, hold⟩
    · exact ⟨(hsound.fits _ _ hcall).1, hopen⟩
    · exact (hsound.fits other found hold).remove
        (fun queue waiting hmem hne ↦ (hleft queue waiting).mpr ⟨hmem, hne⟩)
        (hsound.channel_ne hcall rfl hother hold)
  · cases hnew
    exact hsound.channel_ne hcall rfl hother hfound hsame

theorem GateSound.gateHolders_hand {heir : Slot} (hne : heir ≠ slot)
    (hheir : system.threads heir = some call) (hwaits : call.waitsOn = some (priority, channel)) :
    gateHolders { system.set slot (.released own) with
      shared := { system.shared with waiters, closed := system.shared.closed ++ [channel] } } =
        insert heir (gateHolders system \ {slot}) := by
  ext other
  by_cases hother : other = slot
  · subst hother
    simp [gateHolders, GateCall.slots, hne.symm]
  by_cases hheirs : other = heir
  · subst hheirs
    have hcount : 0 < call.slots (system.shared.closed ++ [channel]) := by
      cases call <;> cases hwaits <;> simp [GateCall.slots]
    simpa [gateHolders, System.set_of_ne system _ hne, hheir] using hcount
  · have hkept : ∀ found, system.threads other = some found →
        found.slots (system.shared.closed ++ [channel]) = found.slots system.shared.closed :=
      fun found hfound ↦ GateCall.slots_append
        (hsound.channel_ne hheir (GateCall.channel_of_waitsOn hwaits) hheirs hfound)
    simp only [gateHolders, Set.mem_ofPred_eq, System.set_of_ne system _ hother, Set.mem_insert_iff,
      hheirs, Set.mem_sdiff, Set.mem_singleton_iff, hother, false_or, not_false_iff, and_true]
    exact exists_congr fun found ↦ and_congr_right fun hfound ↦ by rw [hkept found hfound]

theorem GateSound.hand {rest : List WaitChannel} (hcall : system.threads slot = some (.granted own))
    (hqueue : system.shared.waiters priority = channel :: rest) :
    GateSound { system.set slot (.released own) with
      shared := { system.shared with
        waiters := update system.shared.waiters priority rest
        closed := system.shared.closed ++ [channel] } } := by
  have hqueued : channel ∈ system.shared.waiters priority := hqueue ▸ List.mem_cons_self
  obtain ⟨hopen, heir, call, hheir, hwaits⟩ := hsound.owned priority channel hqueued
  have hne : heir ≠ slot := by
    rintro rfl
    cases hcall.symm.trans hheir
    cases hwaits
  have hnodup := hsound.nodup priority
  rw [hqueue] at hnodup
  have hrest : ∀ waiting, waiting ∈ rest ↔
      waiting ∈ system.shared.waiters priority ∧ waiting ≠ channel := by
    intro waiting
    rw [hqueue, List.mem_cons]
    refine ⟨fun hmem ↦ ⟨.inr hmem, ?_⟩, fun hmem ↦ hmem.1.resolve_left hmem.2⟩
    rintro rfl
    exact (List.nodup_cons.mp hnodup).1 hmem
  have hleft := hsound.mem_left hqueued hrest
  -- a call with the channel is the one that waits on it
  have howner : ∀ other found, system.threads other = some found → found.channel = some channel →
      found.waitsOn = some (priority, channel) := by
    intro other found hfound hchannel
    have hsame : other = heir := by_contra fun hother ↦ hsound.channel_ne hheir
      (GateCall.channel_of_waitsOn hwaits) hother hfound hchannel
    subst hsame
    cases hheir.symm.trans hfound
    exact hwaits
  refine ⟨?_, hsound.bounded, fun other hother ↦ ?_,
    hsound.ordered_left (hqueue ▸ List.sublist_cons_self channel rest), ?_,
    fun closed hclosed ↦ ?_, fun other waiting hmem ↦ ?_, fun other found hfound ↦ ?_,
    hsound.single_set fun other found hother hfound waiting hsame hnew ↦ ?_⟩
  · have hheirs : heir ∉ gateHolders system \ {slot} := by
      rintro ⟨⟨found, hfound, hslots⟩, -⟩
      cases hheir.symm.trans hfound
      have hcount : call.slots system.shared.closed = 0 := by
        cases call <;> cases hwaits <;> exact List.count_eq_zero.mpr hopen
      exact hslots.ne' hcount
    refine Eq.trans (congrArg Set.encard (hsound.gateHolders_hand hne hheir hwaits)) ?_
    rw [Set.encard_insert_of_notMem hheirs,
      Set.encard_sdiff_singleton_add_one (hsound.granted_mem_gateHolders hcall)]
    exact hsound.counted
  · obtain ⟨waiting, hmem⟩ := List.exists_mem_of_ne_nil _ hother
    exact hsound.full other (List.ne_nil_of_mem ((hleft other waiting).mp hmem).1)
  · refine List.nodup_append.mpr ⟨hsound.closedOnce, List.nodup_singleton channel, ?_⟩
    intro closed hclosed new hnew hsame
    rw [hsame, List.mem_singleton.mp hnew] at hclosed
    exact hopen hclosed
  · rcases List.mem_append.mp hclosed with hold | hnew
    · exact hsound.closedMade closed hold
    · rw [List.mem_singleton.mp hnew]
      exact (hsound.fits heir call hheir).lt_made hsound.closedMade
        (GateCall.channel_of_waitsOn hwaits)
  · obtain ⟨hold, hother⟩ := (hleft other waiting).mp hmem
    obtain ⟨hwaiting, hownerOf⟩ := hsound.owned other waiting hold
    refine ⟨by simp [hwaiting, hother], owner_set hownerOf fun found hfound hfoundWaits ↦ ?_⟩
    cases hcall.symm.trans hfound
    cases hfoundWaits
  · rcases System.mem_set hfound with ⟨rfl, rfl⟩ | ⟨hother, hold⟩
    · have hfits := hsound.fits _ _ hcall
      cases own with
      | none => trivial
      | some own => exact List.mem_append_left _ hfits
    · exact (hsound.fits other found hold).close
        (fun queue waiting hmem hne ↦ (hleft queue waiting).mpr ⟨hmem, hne⟩)
        (howner other found hold)
  · exact hsound.channel_ne hcall hnew hother hfound hsame

theorem GateSound.free (hcall : system.threads slot = some (.granted own))
    (hempty : ∀ priority, system.shared.waiters priority = []) :
    GateSound { system.set slot (.released own) with
      shared := { system.shared with active := system.shared.active - 1 } } := by
  refine hsound.relabel ?_ (fun channel hchannel ↦ ⟨_, hcall, hchannel⟩)
    (fun _ priority _ _ _ hqueued ↦ ?_) ?_ ((Nat.sub_le _ _).trans hsound.bounded)
    (fun priority hqueue ↦ absurd (hempty priority) hqueue)
  · have hfits := hsound.fits _ _ hcall
    cases own <;> exact hfits
  · rw [hempty priority] at hqueued
    exact absurd hqueued List.not_mem_nil
  · refine Eq.trans (congrArg Set.encard (gateHolders_erase rfl rfl)) ?_
    rw [Set.encard_sdiff_singleton_of_mem (hsound.granted_mem_gateHolders hcall), hsound.counted]
    norm_cast

theorem GateSound.grant (hcall : system.threads slot = some call)
    (hwaits : call.waitsOn = some (priority, channel)) (hclosed : channel ∈ system.shared.closed) :
    GateSound { system.set slot (.granted (some channel)) with shared := system.shared } := by
  refine hsound.relabel hclosed (fun _ hchannel ↦ ?_) (fun found _ _ hfound hother hqueued ↦ ?_) ?_
    hsound.bounded hsound.full
  · cases hchannel
    exact ⟨call, hcall, GateCall.channel_of_waitsOn hwaits⟩
  · cases hcall.symm.trans hfound
    cases hwaits.symm.trans hother
    exact absurd hclosed (hsound.owned priority channel hqueued).1
  · have hslots : GateCall.slots system.shared.closed (.granted (some channel)) =
        call.slots system.shared.closed := by
      cases call <;> cases hwaits <;> rfl
    exact Eq.trans (congrArg Set.encard (gateHolders_eq hcall rfl hslots)) hsound.counted

theorem GateSound.take {priority : UInt8} (hcall : system.threads slot = some (.acquire priority))
    (hfree : system.shared.active < system.shared.capacity) :
    GateSound { system.set slot (.granted none) with
      shared := { system.shared with active := system.shared.active + 1 } } := by
  have hempty : ∀ queue, system.shared.waiters queue = [] := fun queue ↦ by
    by_contra hqueue
    exact hfree.ne (hsound.full queue hqueue)
  have hnone : slot ∉ gateHolders system :=
    fun hmem ↦ lt_irrefl 0 ((mem_gateHolders hcall).mp hmem)
  refine hsound.relabel trivial (fun _ hchannel ↦ by cases hchannel)
    (fun found _ _ hfound hwaits ↦ ?_) ?_ hfree fun queue hqueue ↦ absurd (hempty queue) hqueue
  · cases hcall.symm.trans hfound
    cases hwaits
  · refine Eq.trans (congrArg Set.encard (gateHolders_insert rfl Nat.one_pos)) ?_
    rw [Set.encard_insert_of_notMem hnone, hsound.counted]
    norm_cast

theorem GateSound.advance (hcall : system.threads slot = some call) {move : GateMove}
    (hnext : call.next system.shared move = some (gate, call')) :
    GateSound { system.set slot call' with shared := gate } ∧
      gate.capacity = system.shared.capacity := by
  cases call with
  | acquire priority =>
    cases move with
    | proceed =>
      simp only [GateCall.next, PriorityGate.acquire] at hnext
      split_ifs at hnext with hfree <;> cases hnext
      · exact ⟨hsound.take hcall hfree, rfl⟩
      · exact ⟨hsound.queue hcall (Nat.le_of_not_lt hfree) _, rfl⟩
    | wake | done | release => cases hnext
  | waiting priority channel =>
    cases move with
    | wake =>
      simp only [GateCall.next] at hnext
      split_ifs at hnext with hclosed
      cases hnext
      exact ⟨hsound.grant hcall rfl hclosed, rfl⟩
    | done =>
      cases hnext
      have hfits := hsound.fits _ _ hcall
      refine ⟨hsound.relabel hfits (fun _ hchannel ↦ ⟨_, hcall, hchannel⟩)
        (fun found _ _ hfound hwaits _ ↦ ?_) ?_ hsound.bounded hsound.full, rfl⟩
      · cases hcall.symm.trans hfound
        exact hwaits
      · exact Eq.trans (congrArg Set.encard (gateHolders_eq hcall rfl rfl)) hsound.counted
    | proceed | release => cases hnext
  | cancelled priority channel =>
    cases move with
    | proceed =>
      simp only [GateCall.next, PriorityGate.withdraw] at hnext
      split_ifs at hnext with hqueued <;> cases hnext
      · exact ⟨hsound.withdraw hcall hqueued, rfl⟩
      · exact ⟨hsound.grant hcall rfl ((hsound.fits _ _ hcall).2.resolve_left hqueued), rfl⟩
    | wake | done | release => cases hnext
  | granted channel =>
    cases move with
    | release =>
      cases hnext
      have hreleased := gateReleased_release system.shared
      refine ⟨?_, hreleased.capacity_eq⟩
      generalize system.shared.release = next at hreleased
      cases hreleased with
      | handed priority woken rest hqueue => exact hsound.hand hcall hqueue
      | freed hempty => exact hsound.free hcall hempty
    | proceed | wake | done => cases hnext
  | failed channel | released channel => cases move <;> cases hnext

theorem GateSound.enter (hslot : system.threads slot = none) (priority : UInt8) :
    GateSound (system.set slot (.acquire priority)) := by
  have hnone : slot ∉ gateHolders system := by
    rintro ⟨call, hcall, -⟩
    cases hslot.symm.trans hcall
  refine hsound.relabel trivial (fun _ hchannel ↦ by cases hchannel) (fun call _ _ hcall ↦ ?_) ?_
    hsound.bounded hsound.full
  · cases hslot.symm.trans hcall
  · refine Eq.trans (congrArg Set.encard (gateHolders_erase rfl rfl)) ?_
    rw [Set.sdiff_singleton_eq_self hnone]
    exact hsound.counted

end

theorem gateSound_of_reachable {capacity : ℕ}
    (hreach : Reachable gateMachine.step (System.idle (newPriorityGate capacity)) system) :
    GateSound system ∧ system.shared.capacity = capacity := by
  refine hreach.invariant (fun system ↦ GateSound system ∧ system.shared.capacity = capacity)
    ⟨⟨?_, Nat.zero_le _, fun _ hqueue ↦ absurd rfl hqueue, fun _ ↦ .nil, List.nodup_nil,
      fun _ hclosed ↦ absurd hclosed List.not_mem_nil,
      fun _ _ hqueued ↦ absurd hqueued List.not_mem_nil, fun _ _ hcall ↦ (by cases hcall),
      fun _ _ _ _ _ hcall ↦ (by cases hcall)⟩, rfl⟩ ?_
  · have hempty : gateHolders (System.idle (newPriorityGate capacity)) = (∅ : Set Slot) := by
      ext slot
      simp [gateHolders, System.idle]
    rw [hempty, Set.encard_empty]
    rfl
  · rintro system event next ⟨hsound, hcapacity⟩ hstep
    rcases step_cases hstep with ⟨slot, priority, rfl, hslot, rfl⟩ |
      ⟨slot, move, call, gate, call', rfl, hslot, hmove, rfl⟩ | ⟨change, -, -, -, -⟩
    · exact ⟨hsound.enter hslot priority, hcapacity⟩
    · obtain ⟨hnext, hkept⟩ := hsound.advance hslot hmove
      exact ⟨hnext, hkept.trans hcapacity⟩
    · exact change.elim

end Calls

/-! ### Safety of the gate -/

section Safety

variable {Slot : Type*} {system : System Slot PriorityGate GateCall}

/-- A release closes the channel of a call that waits, for the first time, takes it and no other
out of the queues and leaves the counter. Every other channel in a queue has a lower priority or
came later. -/
def HandsOver (system : System Slot PriorityGate GateCall) : Prop :=
  ∃ slot call queue channel, system.threads slot = some call ∧
    call.waitsOn = some (queue, channel) ∧ channel ∉ system.shared.closed ∧
    system.shared.release.closed = system.shared.closed ++ [channel] ∧
    system.shared.release.active = system.shared.active ∧
    (∀ other, system.shared.release.waiters other = (system.shared.waiters other).erase channel) ∧
    ∀ other waiting, waiting ∈ system.shared.waiters other → waiting ≠ channel →
      other < queue ∨ (other = queue ∧ channel < waiting)

structure GateSafe (capacity : ℕ) (system : System Slot PriorityGate GateCall) : Prop where
  /-- The counter is the number of grants that are not released: that many calls hold a slot, and
  each holds one. -/
  counted : (gateHolders system).encard = system.shared.active ∧
    ∀ slot call, system.threads slot = some call → call.slots system.shared.closed ≤ 1
  bounded : system.shared.active ≤ capacity
  full : ∀ priority, system.shared.waiters priority ≠ [] → system.shared.active = capacity
  /-- A call that has returned nil and not released holds one slot, one that has returned an error
  none. -/
  granted : ∀ slot channel, system.threads slot = some (.granted channel) →
    GateCall.slots system.shared.closed (.granted channel) = 1
  failed : ∀ slot channel, system.threads slot = some (.failed channel) →
    GateCall.slots system.shared.closed (.failed channel) = 0
  /-- A call that waits is in its queue, or its channel was closed once and it is in none. -/
  waiting : ∀ slot call priority channel, system.threads slot = some call →
    call.waitsOn = some (priority, channel) →
    (channel ∈ system.shared.waiters priority ∧ system.shared.closed.count channel = 0) ∨
    ((∀ queue, channel ∉ system.shared.waiters queue) ∧ system.shared.closed.count channel = 1)
  released : ∀ priority, system.shared.waiters priority ≠ [] → HandsOver system

theorem GateSound.release (hsound : GateSound system) {priority : Fin 4}
    (hqueue : system.shared.waiters priority ≠ []) : HandsOver system := by
  unfold HandsOver
  generalize hrelease : system.shared.release = next
  have hreleased := gateReleased_release system.shared
  rw [hrelease] at hreleased
  cases hreleased with
  | freed hempty => exact absurd (hempty priority) hqueue
  | handed queue channel rest hhead hhigher =>
    have hqueued : channel ∈ system.shared.waiters queue := hhead ▸ List.mem_cons_self
    obtain ⟨hopen, slot, call, hcall, hwaits⟩ := hsound.owned queue channel hqueued
    refine ⟨slot, call, queue, channel, hcall, hwaits, hopen, rfl, rfl, fun other ↦ ?_,
      fun other waiting hwaiting hne ↦ ?_⟩
    · by_cases hother : other = queue
      · subst hother
        simp [hhead]
      · rw [List.erase_of_not_mem fun hmem ↦ hother (hsound.queue_eq hmem hqueued)]
        simp [update_of_ne hother]
    · rcases lt_trichotomy other queue with hlower | rfl | hhigherQueue
      · exact .inl hlower
      · have hordered := hsound.ordered other
        rw [hhead] at hwaiting hordered
        have hrest : waiting ∈ rest := (List.mem_cons.mp hwaiting).resolve_left hne
        exact .inr ⟨rfl, (List.pairwise_cons.mp hordered).1 waiting hrest⟩
      · rw [hhigher other hhigherQueue] at hwaiting
        exact absurd hwaiting List.not_mem_nil

end Safety

/-! ### A cancellation that races with a grant -/

def racingCancellation : List (Event ℕ UInt8 GateMove Empty) :=
  [.start 0 1, .advance 0 .proceed, .start 1 0, .advance 1 .proceed, .start 2 7,
    .advance 2 .proceed, .advance 2 .done, .advance 0 .release, .advance 2 .proceed]

def gateRun (events : List (Event ℕ UInt8 GateMove Empty)) : System ℕ PriorityGate GateCall :=
  (run gateMachine.step (System.idle (newPriorityGate 1)) events).getD
    (System.idle (newPriorityGate 0))

end RiseVpn
