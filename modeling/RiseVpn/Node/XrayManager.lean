import RiseVpn.Node.Admission
import Mathlib.Data.Finset.Erase
import Mathlib.Data.Finset.Insert
import Mathlib.Data.List.Perm.Basic

/-!
# The manager of the Xray server

`xray.Manager` keeps the users of the Xray inbound in step with the device table. A device is a user
of the inbound under its id, with the VLESS id derived from its credential hash; `Inbound` is what
Xray holds, where an email belongs to one user. The manager has a set of blocked devices in memory:
`revoke` and `kick` put a device into it, `upsert` takes it out, and `reconcile` leaves blocked
devices out of the inbound.

Not part of the repository, and parameters here: `vlessId`, the VLESS id of a credential hash, which
is absent when the hash is no digest, and whether the API of Xray answers a call.

The maps that `reconcile` walks through have no order; its two loops take theirs as arguments
(`Iterates`). They also take the name of a device in the inbound, which is its id here.
`reconcileInbound_ok` says what a run whose calls all succeed leaves, whatever the orders and
whatever the inbound held before.
-/

set_option autoImplicit false

namespace RiseVpn

open KeyedTable

/-! ### The inbound -/

structure Inbound where
  users : List (DeviceId × String)
  nodup : (users.map Prod.fst).Nodup

namespace Inbound

/-- The VLESS id of a user, `current[deviceID]`. -/
def account (inbound : Inbound) (id : DeviceId) : Option String :=
  (lookup Prod.fst id inbound.users).map Prod.snd

/-- `RemoveUserOperation`. A user that is not there is no error of the manager. -/
def remove (inbound : Inbound) (id : DeviceId) : Inbound where
  users := inbound.users.filter fun user ↦ user.1 ≠ id
  nodup := (List.filter_sublist.map Prod.fst).nodup inbound.nodup

/-- `AddUserOperation`, which refuses an email that is taken. -/
def add (inbound : Inbound) (id : DeviceId) (vlessId : String) : Except String Inbound :=
  if hfree : ∀ user ∈ inbound.users, user.1 ≠ id then
    .ok {
      users := inbound.users ++ [(id, vlessId)]
      nodup := by
        rw [List.map_append, List.nodup_append]
        exact ⟨inbound.nodup, List.nodup_singleton _, by simpa using hfree⟩ }
  else .error "user already exists"

variable {inbound next : Inbound} {id other : DeviceId} {vlessId : String}

theorem account_eq_none_iff : inbound.account id = none ↔ id ∉ inbound.users.map Prod.fst := by
  rw [account, Option.map_eq_none_iff, lookup_eq_none_iff, List.mem_map]
  push Not
  exact Iff.rfl

@[simp] theorem account_remove_self (inbound : Inbound) (id : DeviceId) :
    (inbound.remove id).account id = none := by
  rw [account_eq_none_iff]
  simp [remove]

theorem account_remove_of_ne (inbound : Inbound) (hother : other ≠ id) :
    (inbound.remove id).account other = inbound.account other := by
  have hkept : ∀ user : DeviceId × String, (user.1 ≠ id ∧ user.1 = other) ↔ user.1 = other := by
    intro user
    constructor
    · exact And.right
    · exact fun hsame ↦ ⟨hsame ▸ hother, hsame⟩
  simp only [account, lookup, remove, List.find?_filter, decide_eq_true_eq, hkept]

theorem add_ok (hfree : inbound.account id = none) (vlessId : String) :
    ∃ next, inbound.add id vlessId = .ok next ∧ next.account id = some vlessId ∧
      ∀ other, other ≠ id → next.account other = inbound.account other := by
  have hnone := lookup_eq_none_iff.mp (Option.map_eq_none_iff.mp hfree)
  refine ⟨_, dif_pos hnone, ?_, fun other hother ↦ ?_⟩
  · rw [account, lookup_append, lookup_eq_none_iff.mpr hnone, Option.none_or, lookup_cons]
    simp
  · rw [account, account, lookup_append, lookup_cons, if_neg (Ne.symm hother), lookup_nil,
      Option.or_none]

end Inbound

/-! ### The manager -/

/-- The manager's `blocked` map and what Xray holds. -/
structure XrayManager where
  blocked : Finset DeviceId
  inbound : Inbound

namespace XrayManager

section Calls

variable (vlessId : String → Option String) (answers : Bool)

def unreachable : String := "context deadline exceeded"

def remove (manager : XrayManager) (id : DeviceId) : XrayManager × Except String Unit :=
  if answers then ({ manager with inbound := manager.inbound.remove id }, .ok ())
  else (manager, .error unreachable)

def add (manager : XrayManager) (device : Device) : XrayManager × Except String Unit :=
  match vlessId device.credentialHash with
  | none => (manager, .error "invalid credential hash")
  | some id =>
    if ¬ answers then (manager, .error unreachable)
    else match manager.inbound.add device.id id with
    | .error message => (manager, .error message)
    | .ok inbound => ({ manager with inbound }, .ok ())

def ensure (manager : XrayManager) (device : Device) : XrayManager × Except String Unit :=
  if ¬ answers then (manager, .error unreachable)
  else match vlessId device.credentialHash with
  | none => (manager, .error "invalid credential hash")
  | some expected =>
    if manager.inbound.account device.id = some expected then (manager, .ok ())
    else if (manager.inbound.account device.id).isSome then
      ({ manager with inbound := manager.inbound.remove device.id }).add vlessId answers device
    else manager.add vlessId answers device

def upsert (manager : XrayManager) (device : Device) (now : ℤ) :
    XrayManager × Except String Unit :=
  let manager := { manager with blocked := manager.blocked.erase device.id }
  if ¬ allowed device now then manager.remove answers device.id
  else manager.ensure vlessId answers device

def revoke (manager : XrayManager) (id : DeviceId) : XrayManager × Except String Unit :=
  ({ manager with blocked := insert id manager.blocked }).remove answers id

def kick (manager : XrayManager) (id : DeviceId) : XrayManager × Except String Unit :=
  manager.revoke answers id

end Calls

/-- `m.isBlocked` in the negative: the devices that the map `desired` of `Manager.Reconcile`
holds. -/
def desired (manager : XrayManager) (devices : List Device) (now : ℤ) : List Device :=
  devices.filter fun device ↦ allowed device now && decide (device.id ∉ manager.blocked)

section Reconcile

variable (name : DeviceId → String) (vlessId : String → Option String)

/-- The first loop of `Manager.Reconcile`, over the users that Xray held when it started. -/
def reconcileUsers (current : Inbound) (desired : List Device) :
    List DeviceId → Inbound → Inbound × Except String Unit
  | [], inbound => (inbound, .ok ())
  | id :: rest, inbound =>
    match lookup Device.id id desired with
    | none => reconcileUsers current desired rest (inbound.remove (name id))
    | some device =>
      match vlessId device.credentialHash with
      | none => (inbound, .error "invalid credential hash")
      | some expected =>
        if current.account id = some expected then reconcileUsers current desired rest inbound
        else match (inbound.remove (name id)).add (name id) expected with
        | .error message => (inbound.remove (name id), .error message)
        | .ok next => reconcileUsers current desired rest next

/-- The second loop of `Manager.Reconcile`, over the devices that were no users. -/
def addUsers : List Device → Inbound → Inbound × Except String Unit
  | [], inbound => (inbound, .ok ())
  | device :: rest, inbound =>
    match vlessId device.credentialHash with
    | none => (inbound, .error "invalid credential hash")
    | some id =>
      match inbound.add (name device.id) id with
      | .error message => (inbound, .error message)
      | .ok next => addUsers rest next

/-- The two loops, one after the other. -/
def reconcileInbound (current : Inbound) (desired : List Device) (users : List DeviceId)
    (additions : List Device) (inbound : Inbound) : Inbound × Except String Unit :=
  match reconcileUsers name vlessId current desired users inbound with
  | (inbound, .error message) => (inbound, .error message)
  | (inbound, .ok ()) => addUsers name vlessId additions inbound

/-- `Manager.Reconcile` when Xray answers every call. -/
def reconcile (manager : XrayManager) (devices : List Device) (now : ℤ) (users : List DeviceId)
    (additions : List Device) : XrayManager × Except String Unit :=
  let result := reconcileInbound id vlessId manager.inbound (manager.desired devices now) users
    additions manager.inbound
  ({ manager with inbound := result.1 }, result.2)

end Reconcile

/-- The orders in which the two loops of `Manager.Reconcile` may walk: through the users of the
inbound, and through what is left of `desired`. -/
def Iterates (manager : XrayManager) (devices : List Device) (now : ℤ) (users : List DeviceId)
    (additions : List Device) : Prop :=
  users.Perm (manager.inbound.users.map Prod.fst) ∧
    additions.Perm ((manager.desired devices now).filter fun device ↦ device.id ∉ users)
  deriving Decidable

/-! ### The blocked devices -/

section Blocked

variable (vlessId : String → Option String) (answers : Bool) (manager : XrayManager)

theorem blocked_remove (id : DeviceId) :
    (manager.remove answers id).1.blocked = manager.blocked := by
  unfold remove
  split <;> rfl

theorem blocked_add (device : Device) :
    (manager.add vlessId answers device).1.blocked = manager.blocked := by
  unfold add
  repeat' split
  all_goals rfl

theorem blocked_ensure (device : Device) :
    (manager.ensure vlessId answers device).1.blocked = manager.blocked := by
  unfold ensure
  repeat' split
  all_goals first | rfl | exact blocked_add vlessId answers _ device

theorem blocked_upsert (device : Device) (now : ℤ) :
    (manager.upsert vlessId answers device now).1.blocked = manager.blocked.erase device.id := by
  unfold upsert
  dsimp only
  split
  · exact blocked_remove answers _ device.id
  · exact blocked_ensure vlessId answers _ device

theorem blocked_revoke (id : DeviceId) :
    (manager.revoke answers id).1.blocked = insert id manager.blocked :=
  blocked_remove answers _ id

theorem blocked_reconcile (devices : List Device) (now : ℤ) (users : List DeviceId)
    (additions : List Device) :
    (manager.reconcile vlessId devices now users additions).1.blocked = manager.blocked := rfl

end Blocked

/-! ### What a run leaves -/

section Spec

variable {name : DeviceId → String} {vlessId : String → Option String} {desired : List Device}

def wanted (vlessId : String → Option String) (desired : List Device) (id : DeviceId) :
    Option String :=
  (lookup Device.id id desired).bind fun device ↦ vlessId device.credentialHash

theorem reconcileUsers_ok (hname : Function.Injective name)
    (hdigests : ∀ device ∈ desired, vlessId device.credentialHash ≠ none)
    {users : List DeviceId} (hnodup : users.Nodup) (current inbound : Inbound)
    (hsame : ∀ id ∈ users, inbound.account (name id) = current.account id) :
    ∃ next, reconcileUsers name vlessId current desired users inbound = (next, .ok ()) ∧
      (∀ id ∈ users, next.account (name id) = wanted vlessId desired id) ∧
      ∀ user, user ∉ users.map name → next.account user = inbound.account user := by
  induction users generalizing inbound with
  | nil => exact ⟨inbound, rfl, by simp, fun _ _ ↦ rfl⟩
  | cons id rest ih =>
    obtain ⟨hid, hrest⟩ := List.nodup_cons.mp hnodup
    -- One round brings the user of the round to its wanted id and leaves the others.
    have hround : ∀ middle : Inbound, middle.account (name id) = wanted vlessId desired id →
        (∀ other, other ≠ name id → middle.account other = inbound.account other) →
        ∃ next, reconcileUsers name vlessId current desired rest middle = (next, .ok ()) ∧
          (∀ user ∈ id :: rest, next.account (name user) = wanted vlessId desired user) ∧
          ∀ user, user ∉ (id :: rest).map name → next.account user = inbound.account user := by
      intro middle hmiddle hothers
      have hstart : ∀ user ∈ rest, middle.account (name user) = current.account user := by
        intro user huser
        rw [hothers _ (hname.ne (ne_of_mem_of_not_mem huser hid))]
        exact hsame user (List.mem_cons_of_mem _ huser)
      obtain ⟨next, hnext, hvisited, hleft⟩ := ih hrest middle hstart
      have hkept := hleft (name id) fun hmem ↦ hid ((List.mem_map_of_injective hname).mp hmem)
      refine ⟨next, hnext, List.forall_mem_cons.mpr ⟨hkept.trans hmiddle, hvisited⟩, ?_⟩
      intro user huser
      rw [List.map_cons, List.mem_cons, not_or] at huser
      rw [hleft user huser.2, hothers user huser.1]
    unfold reconcileUsers
    cases hwanted : lookup Device.id id desired with
    | none =>
      refine hround (inbound.remove (name id)) ?_ fun other hother ↦
        inbound.account_remove_of_ne hother
      rw [Inbound.account_remove_self, wanted, hwanted, Option.bind_none]
    | some device =>
      obtain ⟨expected, hexpected⟩ :=
        Option.ne_none_iff_exists'.mp (hdigests device (lookup_some_mem hwanted))
      have hwant : wanted vlessId desired id = some expected := by
        rw [wanted, hwanted, Option.bind_some, hexpected]
      simp only [hexpected]
      by_cases hequal : current.account id = some expected
      · rw [if_pos hequal]
        refine hround inbound ?_ fun _ _ ↦ rfl
        rw [hsame id List.mem_cons_self, hequal, hwant]
      · rw [if_neg hequal]
        obtain ⟨added, hadded, hself, hothers⟩ :=
          Inbound.add_ok (inbound.account_remove_self (name id)) expected
        simp only [hadded]
        refine hround added (hself.trans hwant.symm) fun other hother ↦ ?_
        rw [hothers other hother, inbound.account_remove_of_ne hother]

theorem addUsers_ok (hname : Function.Injective name) {additions : List Device}
    (hdigests : ∀ device ∈ additions, vlessId device.credentialHash ≠ none)
    (hnodup : (additions.map Device.id).Nodup) (inbound : Inbound)
    (hfree : ∀ device ∈ additions, inbound.account (name device.id) = none) :
    ∃ next, addUsers name vlessId additions inbound = (next, .ok ()) ∧
      (∀ device ∈ additions, next.account (name device.id) = vlessId device.credentialHash) ∧
      ∀ user, (∀ device ∈ additions, user ≠ name device.id) →
        next.account user = inbound.account user := by
  induction additions generalizing inbound with
  | nil => exact ⟨inbound, rfl, by simp, fun _ _ ↦ rfl⟩
  | cons device rest ih =>
    rw [List.map_cons, List.nodup_cons] at hnodup
    obtain ⟨hdigest, hdigests⟩ := List.forall_mem_cons.mp hdigests
    obtain ⟨hnone, hfree⟩ := List.forall_mem_cons.mp hfree
    obtain ⟨id, hid⟩ := Option.ne_none_iff_exists'.mp hdigest
    obtain ⟨added, hadded, hself, hothers⟩ := Inbound.add_ok hnone id
    have hne : ∀ other ∈ rest, name other.id ≠ name device.id := fun other hother ↦
      hname.ne (ne_of_mem_of_not_mem (List.mem_map_of_mem hother) hnodup.1)
    obtain ⟨next, hnext, hvisited, hleft⟩ := ih hdigests hnodup.2 added fun other hother ↦
      (hothers _ (hne other hother)).trans (hfree other hother)
    refine ⟨next, ?_, List.forall_mem_cons.mpr ⟨?_, hvisited⟩, fun other hother ↦ ?_⟩
    · simp only [addUsers, hid, hadded, hnext]
    · rw [hleft _ fun other hother ↦ (hne other hother).symm, hself, hid]
    · obtain ⟨hdevice, hrest⟩ := List.forall_mem_cons.mp hother
      rw [hleft other hrest, hothers other hdevice]

/-- Assumes: names that are different for different devices, and that the first loop walks through
the users that Xray holds under such names. Then the devices that are desired are users with their
VLESS ids and no other device is one, and what has no name of a device stays. -/
theorem reconcileInbound_ok (hname : Function.Injective name) {users : List DeviceId}
    {additions : List Device} {current inbound : Inbound}
    (hids : (desired.map Device.id).Nodup)
    (hdigests : ∀ device ∈ desired, vlessId device.credentialHash ≠ none)
    (hcurrent : ∀ id, inbound.account (name id) = current.account id)
    (husers : users.Perm (current.users.map Prod.fst))
    (hadditions : additions.Perm (desired.filter fun device ↦ device.id ∉ users)) :
    ∃ next, reconcileInbound name vlessId current desired users additions inbound =
        (next, .ok ()) ∧
      (∀ id, next.account (name id) = wanted vlessId desired id) ∧
      ∀ user, (∀ id, user ≠ name id) → next.account user = inbound.account user := by
  have hmem : ∀ device ∈ additions, device ∈ desired ∧ device.id ∉ users := by
    intro device hdevice
    simpa using List.mem_filter.mp (hadditions.mem_iff.mp hdevice)
  obtain ⟨middle, hmiddle, hvisited, hleft⟩ := reconcileUsers_ok hname hdigests
    (husers.nodup_iff.mpr current.nodup) current inbound fun id _ ↦ hcurrent id
  have habsent : ∀ id, id ∉ users → middle.account (name id) = none := by
    intro id hid
    rw [hleft _ fun hin ↦ hid ((List.mem_map_of_injective hname).mp hin), hcurrent,
      Inbound.account_eq_none_iff, ← husers.mem_iff]
    exact hid
  have hnodup : (additions.map Device.id).Nodup :=
    (hadditions.map Device.id).nodup_iff.mpr ((List.filter_sublist.map Device.id).nodup hids)
  obtain ⟨next, hnext, hadded, hkept⟩ := addUsers_ok hname
    (fun device hdevice ↦ hdigests device (hmem device hdevice).1) hnodup middle
    fun device hdevice ↦ habsent _ (hmem device hdevice).2
  refine ⟨next, ?_, fun id ↦ ?_, fun user huser ↦ ?_⟩
  · simp only [reconcileInbound, hmiddle, hnext]
  · by_cases huser : id ∈ users
    · rw [hkept _ fun device hdevice hsame ↦ (hmem device hdevice).2 (hname hsame ▸ huser),
        hvisited id huser]
    · cases hlookup : lookup Device.id id desired with
      | none =>
        rw [hkept _ fun device hdevice hsame ↦
          lookup_eq_none_iff.mp hlookup device (hmem device hdevice).1 (hname hsame).symm,
          habsent id huser, wanted, hlookup, Option.bind_none]
      | some device =>
        obtain rfl := lookup_some_key hlookup
        have hdevice : device ∈ additions := by
          rw [hadditions.mem_iff, List.mem_filter]
          exact ⟨lookup_some_mem hlookup, by simpa using huser⟩
        rw [hadded device hdevice, wanted, hlookup, Option.bind_some]
  · rw [hkept user fun device _ ↦ huser device.id, hleft user fun hin ↦ ?_]
    obtain ⟨id, -, hid⟩ := List.mem_map.mp hin
    exact huser id hid.symm

theorem reconcile_ok {manager : XrayManager} {devices : List Device} {now : ℤ}
    {users : List DeviceId} {additions : List Device} (hids : (devices.map Device.id).Nodup)
    (hdigests : ∀ device ∈ manager.desired devices now, vlessId device.credentialHash ≠ none)
    (horder : manager.Iterates devices now users additions) :
    ∃ inbound, manager.reconcile vlessId devices now users additions =
        ({ manager with inbound }, .ok ()) ∧
      ∀ id, inbound.account id = wanted vlessId (manager.desired devices now) id := by
  have hdesired : ((manager.desired devices now).map Device.id).Nodup :=
    (List.filter_sublist.map Device.id).nodup hids
  obtain ⟨inbound, hrun, haccounts, -⟩ := reconcileInbound_ok Function.injective_id hdesired
    hdigests (fun _ ↦ rfl) horder.1 horder.2
  exact ⟨inbound, by rw [reconcile, hrun], haccounts⟩

end Spec

end XrayManager

end RiseVpn
