import Mathlib.Data.Finset.Option
import RiseVpn.Library.FallibleStatements
import RiseVpn.Node.XrayMembership

/-!
# A revocation during a reconciliation

The two goroutines that change the users of Xray, call by call. `Manager.Run` runs `Reconcile` and
`CollectUsage` one after the other; the client handles one control message after the other and calls
`Manager.Upsert`, `Revoke` and `Kick`. The `blocked` map is read and written under its mutex, the
calls to Xray are not: between any two operations of one goroutine the other may get ahead. A call
to Xray is executed, fails, or is executed while its answer is lost.

`Reconcile` decides which devices are to be users from the rows it has read and from the `blocked`
map, and adds them later. A revocation that is handled in between blocks the device and removes it,
and the addition then brings it back. `AddsUnblocked` is the condition on the steps that excludes
this: when `Reconcile` adds a device, the device is not blocked. `revoked_stays_out` is the result
for all runs under the condition, and `revocation_undone` a run outside it.

`revoked` records the devices whose `device.revoke` was handled successfully and for which no upsert
or lease has reached the manager since. A restart of the node process is left out: it ends both
goroutines.
-/

set_option autoImplicit false

namespace RiseVpn

open KeyedTable GuardedRun FallibleStatements

/-! ### Calls to Xray -/

namespace XrayManager

/-- `Manager.remove`, as its call turns out. -/
def removeCall (manager : XrayManager) (id : DeviceId) : Outcome → XrayManager × Except String Unit
  | .done => manager.remove true id
  | .failed => manager.remove false id
  | .lost => ((manager.remove true id).1, .error unreachable)

/-- `Manager.add`, as its call turns out. -/
def addCall (vlessId : String → Option String) (manager : XrayManager) (device : Device) :
    Outcome → XrayManager × Except String Unit
  | .done => manager.add vlessId true device
  | .failed => manager.add vlessId false device
  | .lost => ((manager.add vlessId true device).1, .error unreachable)

def block (manager : XrayManager) (id : DeviceId) : XrayManager :=
  { manager with blocked := insert id manager.blocked }

def unblock (manager : XrayManager) (id : DeviceId) : XrayManager :=
  { manager with blocked := manager.blocked.erase id }

end XrayManager

def afterCall {Phase : Type} (stopped next : Phase) :
    XrayManager × Except String Unit → XrayManager × Phase
  | (manager, .ok ()) => (manager, next)
  | (manager, .error _) => (manager, stopped)

/-! ### The goroutine of the manager -/

/-- Where `Manager.Run` stands: between two runs; in `Reconcile`, after the devices were read, while
they are tested, in the loop over the users, between the two calls of a replacement, in the loop of
the additions; in `CollectUsage`, after the usage of a device was stored, after its row was read,
and with the device blocked. -/
inductive ManagerPhase
  | idle
  | listed (devices : List Device)
  | marking (current : Inbound) (left desired : List Device)
  | users (current : Inbound) (desired : List Device) (left : List DeviceId)
  | replacing (current : Inbound) (desired : List Device) (device : Device) (left : List DeviceId)
  | adding (left : List Device)
  | counted (id : DeviceId)
  | judged (updated : Device)
  | dropping (id : DeviceId)

/-- What an operation takes from outside: what its call comes to, and the orders in which the two
loops walk through their maps. -/
structure ManagerInput where
  outcome : Outcome
  users : List DeviceId
  additions : List Device

/-- The next operation of `Manager.Reconcile` or `Manager.CollectUsage`. -/
def ManagerPhase.next (vlessId : String → Option String) (node : XrayNode) (input : ManagerInput) :
    ManagerPhase → Option (XrayManager × ManagerPhase)
  | .idle => none
  | .listed devices =>
    if input.outcome = .done then some (node.xray, .marking node.xray.inbound devices [])
    else some (node.xray, .idle)
  | .marking current [] desired =>
    if input.users.Perm (current.users.map Prod.fst) then
      some (node.xray, .users current desired input.users)
    else none
  | .marking current (device :: left) desired =>
    if allowed device node.clock ∧ device.id ∉ node.xray.blocked then
      some (node.xray, .marking current left (desired ++ [device]))
    else some (node.xray, .marking current left desired)
  | .users current desired [] =>
    if input.additions.Perm (desired.filter fun device ↦ current.account device.id = none) then
      some (node.xray, .adding input.additions)
    else none
  | .users current desired (id :: left) =>
    match lookup Device.id id desired with
    | none =>
      some (afterCall .idle (.users current desired left)
        (node.xray.removeCall id input.outcome))
    | some device =>
      match vlessId device.credentialHash with
      | none => some (node.xray, .idle)
      | some expected =>
        if current.account id = some expected then some (node.xray, .users current desired left)
        else some (afterCall .idle (.replacing current desired device left)
          (node.xray.removeCall id input.outcome))
  | .replacing current desired device left =>
    some (afterCall .idle (.users current desired left)
      (node.xray.addCall vlessId device input.outcome))
  | .adding [] => some (node.xray, .idle)
  | .adding (device :: left) =>
    some (afterCall .idle (.adding left) (node.xray.addCall vlessId device input.outcome))
  | .counted id =>
    match node.store.deviceById id with
    | none => some (node.xray, .idle)
    | some updated => some (node.xray, .judged updated)
  | .judged updated =>
    if allowed updated node.clock then some (node.xray, .idle)
    else some (node.xray.block updated.id, .dropping updated.id)
  | .dropping id => some ((node.xray.removeCall id input.outcome).1, .idle)

def ManagerPhase.adds : ManagerPhase → Option Device
  | .replacing _ _ device _ => some device
  | .adding (device :: _) => some device
  | _ => none

/-! ### The goroutine of the client -/

/-- Where the client stands: between two messages; in `Manager.Revoke`, before the device is
blocked, before it is removed, and before its sessions are closed (`whole` tells a `device.revoke`
from a `session.kick`); in `Manager.Upsert`, before the device is unblocked, before it is removed,
before the users are read, and before the two calls of `ensure`. -/
inductive ClientPhase
  | idle
  | revoke (id : DeviceId) (whole : Bool)
  | revokeRemove (id : DeviceId) (whole : Bool)
  | revokeKick (id : DeviceId) (whole : Bool)
  | upsert (device : Device)
  | upsertRemove (device : Device)
  | ensure (device : Device)
  | ensureRemove (device : Device)
  | ensureAdd (device : Device)

/-- The next operation of `Manager.Upsert`, `Manager.Revoke` or `Manager.Kick`, and the calls of the
kickers at the end of a revocation. -/
def ClientPhase.next (vlessId : String → Option String) (node : XrayNode) (outcome : Outcome) :
    ClientPhase → Option (XrayManager × ClientPhase)
  | .idle => none
  | .revoke id whole => some (node.xray.block id, .revokeRemove id whole)
  | .revokeRemove id whole =>
    some (afterCall .idle (.revokeKick id whole) (node.xray.removeCall id outcome))
  | .revokeKick _ _ => some (node.xray, .idle)
  | .upsert device =>
    if allowed device node.clock then some (node.xray.unblock device.id, .ensure device)
    else some (node.xray.unblock device.id, .upsertRemove device)
  | .upsertRemove device =>
    some ((node.xray.removeCall device.id outcome).1, .idle)
  | .ensure device =>
    if outcome ≠ .done then some (node.xray, .idle)
    else match vlessId device.credentialHash with
    | none => some (node.xray, .idle)
    | some expected =>
      if node.xray.inbound.account device.id = some expected then some (node.xray, .idle)
      else if (node.xray.inbound.account device.id).isSome then
        some (node.xray, .ensureRemove device)
      else some (node.xray, .ensureAdd device)
  | .ensureRemove device =>
    some (afterCall .idle (.ensureAdd device) (node.xray.removeCall device.id outcome))
  | .ensureAdd device => some ((node.xray.addCall vlessId device outcome).1, .idle)

def ClientPhase.upserts : ClientPhase → Option Device
  | .upsert device | .upsertRemove device | .ensure device | .ensureRemove device
  | .ensureAdd device => some device
  | _ => none

def ClientPhase.blocks : ClientPhase → Option DeviceId
  | .revokeRemove id _ => some id
  | _ => none

def ClientPhase.removed : ClientPhase → Option DeviceId
  | .revokeKick id _ => some id
  | _ => none

/-- The device whose `device.revoke` is handled successfully if the kickers succeed. -/
def ClientPhase.revokes : ClientPhase → Option DeviceId
  | .revokeKick id true => some id
  | _ => none

def ManagerCall.phase : ManagerCall → ClientPhase
  | .upsert device => .upsert device
  | .revoke id => .revoke id true
  | .kick id => .revoke id false

def ManagerCall.unblocks : ManagerCall → Option DeviceId
  | .upsert device => some device.id
  | _ => none

/-! ### The node -/

/-- A node with its two goroutines. Nothing stores `revoked`. -/
structure RaceNode extends XrayNode where
  manager : ManagerPhase
  client : ClientPhase
  revoked : Finset DeviceId

/-- What happens on the node: time passes, the other collector stores usage, Xray restarts without
users, and the goroutines begin a run, a round of usage or a message, or go on. -/
inductive RaceEvent
  | tick (elapsed : ℕ)
  | hysteriaUsage (id : DeviceId) (txBytes rxBytes : ℤ)
  | xrayRestart
  | reconcile
  | xrayUsage (id : DeviceId) (uplink downlink : ℤ)
  | manager (input : ManagerInput)
  | message (message : Message)
  | client (outcome : Outcome)

namespace RaceNode

/-- A message is taken up. One that does not reach the manager is handled at once. -/
def receive (integrations : Integrations) (node : RaceNode) (message : Message) : RaceNode :=
  let store := (handle { integrations with provisioner := none } node.store message node.clock).1
  match managerCall integrations node.store message node.clock with
  | none => { node with store }
  | some call =>
    { node with
      store
      client := call.phase
      revoked := node.revoked \ call.unblocks.toFinset }

def step (vlessId : String → Option String) (integrations : Integrations) (node : RaceNode) :
    RaceEvent → Option RaceNode
  | .tick elapsed => some { node with clock := node.clock + elapsed }
  | .hysteriaUsage id txBytes rxBytes =>
    some { node with toXrayNode := node.toXrayNode.hysteriaUsage id txBytes rxBytes }
  | .xrayRestart => some { node with xray.inbound := ⟨[], List.nodup_nil⟩ }
  | .reconcile =>
    match node.manager with
    | .idle => some { node with manager := .listed node.store.allDevices }
    | _ => none
  | .xrayUsage id uplink downlink =>
    match node.manager with
    | .idle =>
      if 0 < uplink ∨ 0 < downlink then
        match node.store.addUsage id uplink downlink node.clock with
        | .error _ => some node
        | .ok (_, store) => some { node with store, manager := .counted id }
      else some node
    | _ => none
  | .manager input =>
    (node.manager.next vlessId node.toXrayNode input).map fun result ↦
      { node with xray := result.1, manager := result.2 }
  | .message message =>
    match node.client with
    | .idle => some (node.receive integrations message)
    | _ => none
  | .client outcome =>
    (node.client.next vlessId node.toXrayNode outcome).map fun result ↦
      { node with
        xray := result.1
        client := result.2
        revoked := if outcome = .done then node.revoked ∪ node.client.revokes.toFinset
          else node.revoked }

def started (node : XrayNode) : RaceNode := ⟨node, .idle, .idle, ∅⟩

end RaceNode

/-! ### Barred devices -/

structure XrayManager.Barred (manager : XrayManager) (id : DeviceId) : Prop where
  blocked : id ∈ manager.blocked
  out : manager.inbound.account id = none

variable (vlessId : String → Option String) (device : Option Device) (manager : XrayManager) in
/-- What an operation does to the manager and to Xray. Only the device of the operation is added or
unblocked. -/
inductive XrayWrite : XrayManager → Prop
  | same : XrayWrite manager
  | remove (id : DeviceId) (outcome : Outcome) : XrayWrite (manager.removeCall id outcome).1
  | add (added : Device) (hadded : added ∈ device) (outcome : Outcome) :
      XrayWrite (manager.addCall vlessId added outcome).1
  | block (id : DeviceId) : XrayWrite (manager.block id)
  | unblock (unblocked : Device) (hunblocked : unblocked ∈ device) :
      XrayWrite (manager.unblock unblocked.id)

section Writes

variable {vlessId : String → Option String} {device : Option Device}
  {manager manager' : XrayManager} {id other : DeviceId}

theorem Inbound.account_add_of_ne {inbound next : Inbound} {vless : String}
    (hadd : inbound.add id vless = .ok next) (hother : other ≠ id) :
    next.account other = inbound.account other := by
  have hfree : inbound.account id = none := by
    unfold Inbound.add at hadd
    split at hadd
    · rename_i hnone
      rw [Inbound.account, lookup_eq_none_iff.mpr hnone]
      rfl
    · cases hadd
  obtain ⟨added, hadded, -, hothers⟩ := Inbound.add_ok hfree vless
  cases hadd.symm.trans hadded
  exact hothers other hother

theorem XrayManager.removeCall_cases (manager : XrayManager) (id : DeviceId) (outcome : Outcome) :
    (manager.removeCall id outcome).1 = { manager with inbound := manager.inbound.remove id } ∨
      ((manager.removeCall id outcome).1 = manager ∧
        (manager.removeCall id outcome).2 = .error XrayManager.unreachable) := by
  cases outcome with
  | done | lost => exact .inl rfl
  | failed => exact .inr ⟨rfl, rfl⟩

theorem XrayManager.add_cases (vlessId : String → Option String) (manager : XrayManager)
    (answers : Bool) (added : Device) :
    (manager.add vlessId answers added).1 = manager ∨
      ∃ vless inbound, manager.inbound.add added.id vless = .ok inbound ∧
        (manager.add vlessId answers added).1 = { manager with inbound } := by
  unfold XrayManager.add
  split
  · exact .inl rfl
  · rename_i vless _
    split_ifs
    · split
      · exact .inl rfl
      · rename_i inbound hadd
        exact .inr ⟨vless, inbound, hadd, rfl⟩
    · exact .inl rfl

theorem XrayManager.addCall_cases (vlessId : String → Option String) (manager : XrayManager)
    (added : Device) (outcome : Outcome) :
    (manager.addCall vlessId added outcome).1 = manager ∨
      ∃ vless inbound, manager.inbound.add added.id vless = .ok inbound ∧
        (manager.addCall vlessId added outcome).1 = { manager with inbound } := by
  cases outcome with
  | done | lost => exact XrayManager.add_cases vlessId manager true added
  | failed => exact XrayManager.add_cases vlessId manager false added

theorem XrayWrite.blocked (hwrite : XrayWrite vlessId device manager manager')
    (hother : ∀ found ∈ device, found.id ≠ id) (hblocked : id ∈ manager.blocked) :
    id ∈ manager'.blocked := by
  cases hwrite with
  | same => exact hblocked
  | remove removed outcome =>
    rcases manager.removeCall_cases removed outcome with heq | ⟨heq, -⟩
    · rw [heq]
      exact hblocked
    · rwa [heq]
  | add added hadded outcome =>
    rcases manager.addCall_cases vlessId added outcome with heq | ⟨_, _, -, heq⟩
    · rwa [heq]
    · rw [heq]
      exact hblocked
  | block blocked => exact Finset.mem_insert_of_mem hblocked
  | unblock unblocked hunblocked =>
    exact Finset.mem_erase.mpr ⟨(hother unblocked hunblocked).symm, hblocked⟩

theorem Inbound.account_remove_none {inbound : Inbound} (hout : inbound.account id = none)
    (removed : DeviceId) : (inbound.remove removed).account id = none := by
  by_cases hsame : id = removed
  · rw [hsame, Inbound.account_remove_self]
  · rw [Inbound.account_remove_of_ne inbound hsame, hout]

theorem XrayWrite.barred (hwrite : XrayWrite vlessId device manager manager')
    (hother : ∀ found ∈ device, found.id ≠ id) (hbarred : manager.Barred id) :
    manager'.Barred id := by
  refine ⟨hwrite.blocked hother hbarred.blocked, ?_⟩
  cases hwrite with
  | same | block | unblock => exact hbarred.out
  | remove removed outcome =>
    rcases manager.removeCall_cases removed outcome with heq | ⟨heq, -⟩
    · rw [heq]
      exact Inbound.account_remove_none hbarred.out removed
    · rw [heq]
      exact hbarred.out
  | add added hadded outcome =>
    rcases manager.addCall_cases vlessId added outcome with heq | ⟨_, _, hadd, heq⟩
    · rw [heq]
      exact hbarred.out
    · rw [heq]
      exact (Inbound.account_add_of_ne hadd (hother added hadded).symm).trans hbarred.out

theorem XrayManager.removeCall_barred {outcome : Outcome}
    (hok : (manager.removeCall id outcome).2 = .ok ()) (hblocked : id ∈ manager.blocked) :
    (manager.removeCall id outcome).1.Barred id := by
  rcases manager.removeCall_cases id outcome with heq | ⟨-, herror⟩
  · rw [heq]
    exact ⟨hblocked, Inbound.account_remove_self _ _⟩
  · cases hok.symm.trans herror

end Writes

/-! ### The operations of the goroutines -/

section Operations

variable {vlessId : String → Option String} {node : XrayNode} {manager : XrayManager}
  {input : ManagerInput} {outcome : Outcome}

theorem eq_of_afterCall {Phase : Type} {stopped next phase : Phase}
    {result : XrayManager × Except String Unit}
    (hafter : some (afterCall stopped next result) = some (manager, phase)) :
    manager = result.1 := by
  obtain ⟨left, answer⟩ := result
  cases answer <;> cases hafter <;> rfl

theorem ManagerPhase.write_of_next {phase phase' : ManagerPhase}
    (hnext : phase.next vlessId node input = some (manager, phase')) :
    XrayWrite vlessId phase.adds node.xray manager := by
  cases phase with
  | idle => cases hnext
  | listed devices =>
    simp only [ManagerPhase.next] at hnext
    split_ifs at hnext <;> cases hnext <;> exact .same
  | marking current left desired =>
    cases left <;> simp only [ManagerPhase.next] at hnext <;> split_ifs at hnext <;>
      cases hnext <;> exact .same
  | users current desired left =>
    cases left with
    | nil =>
      simp only [ManagerPhase.next] at hnext
      split_ifs at hnext
      cases hnext
      exact .same
    | cons id left =>
      simp only [ManagerPhase.next] at hnext
      split at hnext
      · rw [eq_of_afterCall hnext]
        exact .remove id _
      · split at hnext
        · cases hnext
          exact .same
        · split_ifs at hnext
          · cases hnext
            exact .same
          · rw [eq_of_afterCall hnext]
            exact .remove id _
  | replacing current desired device left =>
    rw [eq_of_afterCall hnext]
    exact .add device rfl _
  | adding left =>
    cases left with
    | nil =>
      cases hnext
      exact .same
    | cons device left =>
      rw [eq_of_afterCall hnext]
      exact .add device rfl _
  | counted id =>
    simp only [ManagerPhase.next] at hnext
    split at hnext <;> cases hnext <;> exact .same
  | judged updated =>
    simp only [ManagerPhase.next] at hnext
    split_ifs at hnext <;> cases hnext
    · exact .same
    · exact .block _
  | dropping id =>
    cases hnext
    exact .remove id _

theorem ClientPhase.write_of_next {phase phase' : ClientPhase}
    (hnext : phase.next vlessId node outcome = some (manager, phase')) :
    XrayWrite vlessId phase.upserts node.xray manager := by
  cases phase with
  | idle => cases hnext
  | revoke id whole =>
    cases hnext
    exact .block id
  | revokeRemove id whole =>
    rw [eq_of_afterCall hnext]
    exact .remove id _
  | revokeKick id whole =>
    cases hnext
    exact .same
  | upsert device =>
    simp only [ClientPhase.next] at hnext
    split_ifs at hnext <;> cases hnext <;> exact .unblock device rfl
  | upsertRemove device =>
    cases hnext
    exact .remove _ _
  | ensure device =>
    simp only [ClientPhase.next] at hnext
    split at hnext
    · cases hnext
      exact .same
    · split at hnext
      · cases hnext
        exact .same
      · split_ifs at hnext <;> cases hnext <;> exact .same
  | ensureRemove device =>
    rw [eq_of_afterCall hnext]
    exact .remove _ _
  | ensureAdd device =>
    cases hnext
    exact .add device rfl _

/-- A revocation in progress has blocked its device, and the device is barred once the removal has
succeeded. -/
structure ClientPhase.Bars (manager : XrayManager) (phase : ClientPhase) : Prop where
  blocked : ∀ id ∈ phase.blocks, id ∈ manager.blocked
  barred : ∀ id ∈ phase.removed, manager.Barred id

theorem ClientPhase.bars_of_none {phase : ClientPhase} (hblocks : phase.blocks = none)
    (hremoved : phase.removed = none) : phase.Bars manager := by
  constructor
  · intro id hid
    rw [hblocks] at hid
    cases hid
  · intro id hid
    rw [hremoved] at hid
    cases hid

theorem ClientPhase.next_of_upserts {phase phase' : ClientPhase} {device : Device}
    (hupserts : phase.upserts = some device)
    (hnext : phase.next vlessId node outcome = some (manager, phase')) :
    phase' = .idle ∨ phase'.upserts = some device := by
  cases phase <;> cases hupserts
  case upsert =>
    simp only [ClientPhase.next] at hnext
    split_ifs at hnext <;> cases hnext <;> exact .inr rfl
  case upsertRemove =>
    cases hnext
    exact .inl rfl
  case ensure =>
    simp only [ClientPhase.next] at hnext
    split at hnext
    · cases hnext
      exact .inl rfl
    · split at hnext
      · cases hnext
        exact .inl rfl
      · split_ifs at hnext <;> cases hnext
        · exact .inl rfl
        · exact .inr rfl
        · exact .inr rfl
  case ensureRemove =>
    simp only [ClientPhase.next, afterCall] at hnext
    split at hnext <;> cases hnext
    · exact .inr rfl
    · exact .inl rfl
  case ensureAdd =>
    cases hnext
    exact .inl rfl

theorem ClientPhase.bars_of_upserts {phase : ClientPhase} {device : Device}
    (hupserts : phase.upserts = some device) : phase.Bars manager := by
  cases phase <;> cases hupserts <;> exact bars_of_none rfl rfl

theorem ClientPhase.Bars.next {phase phase' : ClientPhase} (hbars : phase.Bars node.xray)
    (hnext : phase.next vlessId node outcome = some (manager, phase')) :
    phase'.Bars manager ∧ ∀ device ∈ phase'.upserts, device ∈ phase.upserts := by
  cases hupserts : phase.upserts with
  | some device =>
    rcases ClientPhase.next_of_upserts hupserts hnext with rfl | hsame
    · exact ⟨bars_of_none rfl rfl, fun _ hdevice ↦ by cases hdevice⟩
    · exact ⟨bars_of_upserts hsame, fun other hother ↦ hsame ▸ hother⟩
  | none =>
    cases phase with
    | idle => cases hnext
    | revoke id whole =>
      cases hnext
      refine ⟨⟨?_, ?_⟩, fun _ hdevice ↦ by cases hdevice⟩
      · intro other hother
        cases hother
        exact Finset.mem_insert_self _ _
      · intro other hother
        cases hother
    | revokeRemove id whole =>
      cases hresult : node.xray.removeCall id outcome with
      | mk removed answer =>
        simp only [ClientPhase.next, hresult] at hnext
        cases answer with
        | error message =>
          cases hnext
          exact ⟨bars_of_none rfl rfl, fun _ hdevice ↦ by cases hdevice⟩
        | ok value =>
          cases hnext
          have hok : (node.xray.removeCall id outcome).2 = .ok () := by rw [hresult]
          have hbarred := XrayManager.removeCall_barred hok (hbars.blocked id rfl)
          rw [hresult] at hbarred
          refine ⟨⟨?_, ?_⟩, fun _ hdevice ↦ by cases hdevice⟩
          · intro other hother
            cases hother
          · intro other hother
            cases hother
            exact hbarred
    | revokeKick id whole =>
      cases hnext
      exact ⟨bars_of_none rfl rfl, fun _ hdevice ↦ by cases hdevice⟩
    | upsert | upsertRemove | ensure | ensureRemove | ensureAdd => cases hupserts

end Operations

/-! ### All runs -/

/-- `Reconcile` adds a device only while the device is not blocked. -/
def AddsUnblocked (node : RaceNode) (event : RaceEvent) (_next : RaceNode) : Prop :=
  match event with
  | .manager _ => ∀ device ∈ node.manager.adds, device.id ∉ node.xray.blocked
  | _ => True

instance (node : RaceNode) (event : RaceEvent) (next : RaceNode) :
    Decidable (AddsUnblocked node event next) := by
  unfold AddsUnblocked
  split <;> infer_instance

/-- The invariant: the revoked devices are barred, the client's revocation is on its way there, and
the device of an upsert in progress is not revoked. -/
structure RaceSound (node : RaceNode) : Prop where
  revoked : ∀ id ∈ node.revoked, node.xray.Barred id
  bars : node.client.Bars node.xray
  apart : ∀ device ∈ node.client.upserts, device.id ∉ node.revoked

section Runs

variable {vlessId : String → Option String} {integrations : Integrations} {node next : RaceNode}

theorem ClientPhase.removed_of_revokes {phase : ClientPhase} {id : DeviceId}
    (hrevokes : id ∈ phase.revokes) : id ∈ phase.removed ∧ phase.upserts = none := by
  cases phase with
  | revokeKick other whole =>
    cases whole with
    | true => exact ⟨hrevokes, rfl⟩
    | false => cases hrevokes
  | _ => cases hrevokes

section

variable (hsound : RaceSound node)

include hsound

theorem RaceSound.of_manager (hclient : next.client = node.client)
    (hrevoked : next.revoked = node.revoked)
    (hblocked : ∀ id ∈ node.xray.blocked, id ∈ next.xray.blocked)
    (hbarred : ∀ id, node.xray.Barred id → next.xray.Barred id) : RaceSound next := by
  refine ⟨?_, ?_, ?_⟩
  · intro id hid
    rw [hrevoked] at hid
    exact hbarred id (hsound.revoked id hid)
  · rw [hclient]
    exact ⟨fun id hid ↦ hblocked id (hsound.bars.blocked id hid),
      fun id hid ↦ hbarred id (hsound.bars.barred id hid)⟩
  · rw [hclient, hrevoked]
    exact hsound.apart

theorem RaceSound.of_same (hxray : next.xray = node.xray) (hclient : next.client = node.client)
    (hrevoked : next.revoked = node.revoked) : RaceSound next :=
  hsound.of_manager hclient hrevoked (fun _ hid ↦ by rwa [hxray]) fun _ hid ↦ by rwa [hxray]

theorem RaceSound.managerStep {input : ManagerInput}
    (hadds : ∀ device ∈ node.manager.adds, device.id ∉ node.xray.blocked)
    (hstep : node.step vlessId integrations (.manager input) = some next) : RaceSound next := by
  obtain ⟨⟨manager, phase⟩, hnext, rfl⟩ := Option.map_eq_some_iff.mp hstep
  have hwrite := ManagerPhase.write_of_next hnext
  have hother : ∀ id ∈ node.xray.blocked, ∀ device ∈ node.manager.adds, device.id ≠ id := by
    rintro id hid device hdevice rfl
    exact hadds device hdevice hid
  exact hsound.of_manager rfl rfl (fun id hid ↦ hwrite.blocked (hother id hid) hid)
    fun id hid ↦ hwrite.barred (hother id hid.blocked) hid

theorem RaceSound.clientStep {outcome : Outcome}
    (hstep : node.step vlessId integrations (.client outcome) = some next) : RaceSound next := by
  obtain ⟨⟨manager, phase⟩, hnext, rfl⟩ := Option.map_eq_some_iff.mp hstep
  have hwrite := ClientPhase.write_of_next hnext
  obtain ⟨hbars, hupserts⟩ := hsound.bars.next hnext
  -- a device is revoked by now or was removed by the revocation that ends here
  have hcases : ∀ id ∈ (if outcome = .done then node.revoked ∪ node.client.revokes.toFinset
      else node.revoked), id ∈ node.revoked ∨ id ∈ node.client.revokes := by
    intro id hid
    split_ifs at hid
    · exact (Finset.mem_union.mp hid).imp_right Option.mem_toFinset.mp
    · exact .inl hid
  refine ⟨fun id hid ↦ ?_, hbars, fun device hdevice hid ↦ ?_⟩
  · rcases hcases id hid with hold | hnew
    · refine hwrite.barred (fun device hdevice hsame ↦ ?_) (hsound.revoked id hold)
      exact hsound.apart device hdevice (hsame ▸ hold)
    · obtain ⟨hremoved, hnone⟩ := ClientPhase.removed_of_revokes hnew
      refine hwrite.barred (fun device hdevice ↦ ?_) (hsound.bars.barred id hremoved)
      rw [hnone] at hdevice
      cases hdevice
  · have hbefore := hupserts device hdevice
    rcases hcases device.id hid with hold | hnew
    · exact hsound.apart device hbefore hold
    · rw [(ClientPhase.removed_of_revokes hnew).2] at hbefore
      cases hbefore

theorem RaceSound.receive (integrations : Integrations) (message : Message) :
    RaceSound (node.receive integrations message) := by
  unfold RaceNode.receive
  dsimp only
  split
  · exact hsound.of_same rfl rfl rfl
  · rename_i call _
    refine ⟨fun id hid ↦ hsound.revoked id (Finset.mem_sdiff.mp hid).1, ?_, ?_⟩
    · cases call <;> exact ClientPhase.bars_of_none rfl rfl
    · intro device hdevice hid
      cases call with
      | upsert upserted =>
        cases hdevice
        exact (Finset.mem_sdiff.mp hid).2 (Option.mem_toFinset.mpr rfl)
      | revoke | kick => cases hdevice

theorem RaceSound.step {event : RaceEvent} (hcondition : AddsUnblocked node event next)
    (hstep : node.step vlessId integrations event = some next) : RaceSound next := by
  cases event with
  | tick elapsed =>
    cases hstep
    exact hsound.of_same rfl rfl rfl
  | hysteriaUsage id txBytes rxBytes =>
    cases hstep
    have hxray : (node.toXrayNode.hysteriaUsage id txBytes rxBytes).xray = node.xray := by
      unfold XrayNode.hysteriaUsage
      split_ifs
      · rfl
      · split <;> rfl
    exact hsound.of_same hxray rfl rfl
  | xrayRestart =>
    cases hstep
    exact hsound.of_manager rfl rfl (fun _ hid ↦ hid) fun _ hid ↦ ⟨hid.blocked, rfl⟩
  | reconcile =>
    simp only [RaceNode.step] at hstep
    split at hstep <;> cases hstep
    exact hsound.of_same rfl rfl rfl
  | xrayUsage id uplink downlink =>
    simp only [RaceNode.step] at hstep
    split at hstep
    · split_ifs at hstep
      · split at hstep <;> cases hstep
        · exact hsound
        · exact hsound.of_same rfl rfl rfl
      · cases hstep
        exact hsound
    · cases hstep
  | manager input => exact hsound.managerStep hcondition hstep
  | message message =>
    simp only [RaceNode.step] at hstep
    split at hstep <;> cases hstep
    exact hsound.receive integrations message
  | client outcome => exact hsound.clientStep hstep

end

/-- In every run in which `Reconcile` adds devices only while they are not blocked: from the moment
a `device.revoke` was handled successfully until an upsert or a lease for the device reaches the
manager, the device is no user of Xray. -/
theorem revoked_stays_out {start : XrayNode}
    (hreach : ReachableUnder (RaceNode.step vlessId integrations) AddsUnblocked (.started start)
      node) :
    ∀ id ∈ node.revoked, node.xray.inbound.account id = none := by
  have hstart : RaceSound (.started start) :=
    ⟨fun _ hid ↦ absurd hid (Finset.notMem_empty _), ClientPhase.bars_of_none rfl rfl,
      fun _ hdevice ↦ by cases hdevice⟩
  have hsound := hreach.invariant RaceSound hstart fun _ _ _ hbefore hcondition hstep ↦
    hbefore.step hcondition hstep
  exact fun id hid ↦ (hsound.revoked id hid).out

end Runs

/-! ### A revocation that is undone -/

def upsertedDevices : List Device :=
  (soloXrayNode.handle some soloIntegrations (.deviceUpsert soloXrayUpsert) true).store.allDevices

def losesUsers : List RaceEvent :=
  [.message (.deviceUpsert soloXrayUpsert), .client .done, .client .done, .client .done,
    .xrayRestart]

def decidesToAdd : List RaceEvent :=
  .reconcile :: List.replicate 4 (.manager ⟨.done, [], upsertedDevices⟩)

def addsDevice : List RaceEvent := [.manager ⟨.done, [], []⟩]

def revokesDevice : List RaceEvent :=
  [.message (.deviceRevoke soloXrayRef), .client .done, .client .done, .client .done]

def raceAfter (events : List RaceEvent) : RaceNode :=
  (run (RaceNode.step some soloIntegrations) (.started soloXrayNode) events).getD
    (.started soloXrayNode)

def addedThenRevoked : List RaceEvent := losesUsers ++ decidesToAdd ++ addsDevice ++ revokesDevice

theorem revoked_stays_out_after_adding :
    "device" ∈ (raceAfter addedThenRevoked).revoked ∧
      (raceAfter addedThenRevoked).xray.inbound.account "device" = none := by
  have hrevoked : "device" ∈ (raceAfter addedThenRevoked).revoked := by decide
  exact ⟨hrevoked, revoked_stays_out (reachableUnder_getD rfl) "device" hrevoked⟩

def revokedThenAdded : List RaceEvent := losesUsers ++ decidesToAdd ++ revokesDevice ++ addsDevice

/-- The revocation has succeeded, and the device is a user again. -/
theorem revocation_undone :
    Reachable (RaceNode.step some soloIntegrations) (.started soloXrayNode)
        (raceAfter revokedThenAdded) ∧
      "device" ∈ (raceAfter revokedThenAdded).revoked ∧
      (raceAfter revokedThenAdded).xray.inbound.account "device" = some "hash" := by
  exact ⟨reachable_getD _, by decide, rfl⟩

end RiseVpn
