import RiseVpn.Control.Subscriptions
import Mathlib.Data.List.Perm.Subperm

/-!
# Device slots

`createDevice` next to the transactions of the controller, one after the other. A device is created
when the user has fewer unrevoked devices than the plan allows, and nothing looks at the number
afterwards: `changePlan` and the renewals of `subscriptionLifecycle` set the plan without counting
the devices, and `provisionDevice` serves every unrevoked one.

The plans that cost more allow more devices, so an upgrade of an active subscription is harmless.
The number gets out of step when a renewal applies a scheduled downgrade, and when a subscription
that is in grace or suspended is bought again with a smaller plan. `PlanHolds` is the condition on
the steps that excludes both, `SlotsWithin` the invariant, `devices_within_plan` the result for all
runs under the condition, and `downgrade_keeps_devices` a run outside it.

The slot number, the name and the tokens of a device are left out, and so is the race of two calls
of `createDevice` that count before either has inserted its device.
-/

set_option autoImplicit false

namespace RiseVpn.Control

open RowLocking GuardedRun

variable {environment : Environment} {directory : Directory} {db result : Database}
  {user : UserId} {row row' : Subscription}

/-! ### Creation of devices -/

def Database.unrevoked (db : Database) (id : DeviceId) : Bool :=
  (db.devices id).any fun row ↦ row.revokedAt.isNone

/-- `SELECT … FROM devices d WHERE d.user_id=s.user_id AND d.revoked_at IS NULL`. -/
def unrevokedDevices (directory : Directory) (db : Database) (user : UserId) : List DeviceId :=
  (directory.devicesOf user).filter db.unrevoked

/-- The unrevoked devices of a user whose subscription `provisionDevice` serves. -/
def provisionableDevices (directory : Directory) (db : Database) (user : UserId) : List DeviceId :=
  match db.subscriptions user with
  | none => []
  | some row =>
    if row.status = .active ∨ row.status = .grace then unrevokedDevices directory db user else []

/-- A request to `createDevice`: the name without the blanks around it, and the identifier and the
credential that are drawn for the device. -/
structure CreateDevice where
  userId : UserId
  name : String
  deviceId : DeviceId
  credentialHash : String

/-- `App.createDevice`. The directory says whose device an identifier becomes. -/
def createDevice (directory : Directory) (request : CreateDevice) : Program :=
  let full : Failure := .deviceLimit
  if request.name = "" then .abort (.problem 400 "invalid" "Укажите название устройства" "")
  else
    .select [.subscription request.userId]
      (fun db ↦ (db.subscriptions request.userId,
        (unrevokedDevices directory db request.userId).length, db.devices request.deviceId)) fun
    | (none, _, _) => .abort full
    | (some row, count, taken) =>
      if row.planCode.row.deviceLimit ≤ count then .abort full
      else if taken.isSome ∨ directory.owner request.deviceId ≠ some request.userId then
        .abort (.problem 500 "db" "Не удалось создать устройство" "")
      else
        .update [.device request.deviceId]
          (Database.setDevice request.deviceId ⟨request.credentialHash, none, none, none⟩) .commit

inductive SlotRequest
  | create (request : CreateDevice)
  | other (request : Request)

def slotProgram (environment : Environment) : SlotRequest → Program
  | .create request => createDevice environment.directory request
  | .other request => program environment request

/-- One request after the other; one that fails leaves the database as it is. -/
def slotStep (environment : Environment) (db : Database) (request : SlotRequest) :
    Option Database :=
  match (slotProgram environment request).run db with
  | .ok next => some next
  | .error _ => none

theorem run_createDevice {request : CreateDevice}
    (hrun : (createDevice directory request).run db = .ok result) :
    ∃ row, db.subscriptions request.userId = some row ∧
      (unrevokedDevices directory db request.userId).length < row.planCode.row.deviceLimit ∧
      directory.owner request.deviceId = some request.userId ∧
      result = db.setDevice request.deviceId ⟨request.credentialHash, none, none, none⟩ := by
  unfold createDevice at hrun
  dsimp only at hrun
  split_ifs at hrun with hname
  · cases hrun
  · rw [Txn.run_select] at hrun
    cases hrow : db.subscriptions request.userId with
    | none =>
      simp only [hrow] at hrun
      cases hrun
    | some row =>
      simp only [hrow] at hrun
      split_ifs at hrun with hlimit htaken
      · cases hrun
      · cases hrun
      · cases hrun
        exact ⟨row, rfl, Nat.lt_of_not_le hlimit, not_not.mp (not_or.mp htaken).2, rfl⟩

/-! ### Plans and devices -/

theorem deviceLimit_mono {code next : PlanCode}
    (hprice : code.row.priceKopecks ≤ next.row.priceKopecks) :
    code.row.deviceLimit ≤ next.row.deviceLimit := by
  cases code <;> cases next <;> first | decide | exact absurd hprice (by decide)

def SlotsWithin (directory : Directory) (db : Database) : Prop :=
  ∀ user row, db.subscriptions user = some row →
    (unrevokedDevices directory db user).length ≤ row.planCode.row.deviceLimit

def HasRoom (count : ℕ) : Plan → Prop
  | .code next => count ≤ next.row.deviceLimit
  | .other _ => True

instance (count : ℕ) : (plan : Plan) → Decidable (HasRoom count plan)
  | .code next => inferInstanceAs (Decidable (count ≤ next.row.deviceLimit))
  | .other _ => isTrue trivial

/-- The condition on the steps of a run: a subscription that is not active is bought again only with
a plan that has room for the devices of its user, and a renewal finds room for them in the plan it
sets. -/
def PlanHolds (environment : Environment) (db : Database) (request : SlotRequest)
    (_next : Database) : Prop :=
  match request with
  | .other (.changePlan change) => ∀ row ∈ db.subscriptions change.userId, row.status ≠ .active →
      HasRoom (unrevokedDevices environment.directory db change.userId).length change.plan
  | .other (.subscriptionLifecycle run) => ∀ device ∈ environment.directory.devices,
      ∀ row ∈ db.subscriptions device.2, ∀ balance ∈ db.wallets device.2,
      DueForRenewal run.txNow row balance →
      (unrevokedDevices environment.directory db device.2).length ≤ row.targetPlan.row.deviceLimit
  | _ => True

instance (db next : Database) (request : SlotRequest) :
    Decidable (PlanHolds environment db request next) := by
  unfold PlanHolds
  split <;> infer_instance

theorem mem_devices_of_mem_devicesOf {directory : Directory} {id : DeviceId} {user : UserId}
    (hid : id ∈ directory.devicesOf user) : (id, user) ∈ directory.devices := by
  obtain ⟨⟨found, owner⟩, hfound, rfl⟩ := List.mem_map.mp hid
  obtain ⟨hentry, howner⟩ := List.mem_filter.mp hfound
  rw [← of_decide_eq_true howner]
  exact hentry

theorem unrevoked_setDevice {id : DeviceId} {old new : DeviceRow} (hold : db.devices id = some old)
    (hsame : new.revokedAt = old.revokedAt) : (db.setDevice id new).unrevoked = db.unrevoked := by
  funext other
  by_cases hother : other = id
  · simp [Database.unrevoked, Database.setDevice, hother, hold, hsame]
  · simp [Database.unrevoked, Database.setDevice, Function.update_of_ne hother]

theorem unrevoked_program {request : Request}
    (hrun : (program environment request).run db = .ok result) :
    result.unrevoked = db.unrevoked := by
  cases run_program hrun with
  | changed hchanged => cases hchanged <;> rfl
  | managed hrun =>
    obtain ⟨moved, hmoved, rfl⟩ := lifecycle_frame hrun
    change moved.unrevoked = db.unrevoked
    rw [hmoved]
    rfl
  | @bound request middle _ hstarted hbound =>
    have hmiddle : middle.unrevoked = db.unrevoked := by
      rcases hstarted with rfl | ⟨_, _, _, _, rfl⟩ <;> rfl
    rcases hbound with rfl | ⟨device, hdevice, rfl⟩
    · exact hmiddle
    · have hset : (middle.setDevice request.deviceId { device with
          hwidHmac := some request.fingerprint,
          lastBoundAt := some request.txNow }).unrevoked = middle.unrevoked :=
        unrevoked_setDevice hdevice rfl
      exact hset.trans hmiddle
  | @rebound request device hdevice =>
    have hset : (db.setDevice request.deviceId { device with
        credentialHash := request.credentialHash, hwidHmac := none,
        lastBoundAt := none }).unrevoked = db.unrevoked := unrevoked_setDevice hdevice rfl
    exact hset
  | provisioned hcall => cases hcall <;> rfl
  | booked hvisited =>
    refine hvisited.invariant (fun middle ↦ middle.unrevoked = db.unrevoked) ?_ rfl
    intro event before after heffect hbefore
    cases heffect <;> exact hbefore
  | credited | adjusted | assigned | revoked => rfl

theorem unrevokedDevices_eq (hunrevoked : result.unrevoked = db.unrevoked) (user : UserId) :
    unrevokedDevices directory result user = unrevokedDevices directory db user := by
  rw [unrevokedDevices, hunrevoked, unrevokedDevices]

theorem SlotsWithin.move (hwithin : SlotsWithin directory db)
    (hunrevoked : result.unrevoked = db.unrevoked)
    (hrows : ∀ user row', result.subscriptions user = some row' →
      ∃ row, db.subscriptions user = some row ∧ (row'.planCode = row.planCode ∨
        (unrevokedDevices directory db user).length ≤ row'.planCode.row.deviceLimit)) :
    SlotsWithin directory result := by
  intro user row' hrow'
  rw [unrevokedDevices_eq hunrevoked]
  obtain ⟨row, hrow, hplan | hroom⟩ := hrows user row' hrow'
  · rw [hplan]
    exact hwithin user row hrow
  · exact hroom

theorem rows_update {property : UserId → Subscription → Subscription → Prop}
    (hresult : result.subscriptions = Function.update db.subscriptions user (some row'))
    (hrow : db.subscriptions user = some row) (hnew : property user row row')
    (hsame : ∀ user row, property user row row) :
    ∀ other found, result.subscriptions other = some found →
      ∃ old, db.subscriptions other = some old ∧ property other old found := by
  intro other found hfound
  rw [hresult, Function.update_apply] at hfound
  split_ifs at hfound with hother
  · cases hfound
    exact ⟨row, hother ▸ hrow, hother ▸ hnew⟩
  · exact ⟨found, hfound, hsame other found⟩

theorem run_scheduled {request : ChangePlan} {next : PlanCode}
    (hrow : db.subscriptions request.userId = some row) (hplan : request.plan = .code next)
    (hcheaper : next.row.priceKopecks < row.planCode.row.priceKopecks)
    (hactive : row.status = .active) (hrun : (changePlan request).run db = .ok result) :
    result.subscriptions = Function.update db.subscriptions request.userId
      (some { row with pendingPlanCode := some next }) := by
  have hother : next ≠ row.planCode := by
    rintro rfl
    exact lt_irrefl _ hcheaper
  unfold changePlan at hrun
  split_ifs at hrun
  · cases hrun
  · rw [Txn.run_select] at hrun
    cases hbalance : db.wallets request.userId with
    | none =>
      simp only [hrow, hbalance] at hrun
      cases hrun
    | some balance =>
      simp only [hrow, hbalance, hplan, hother, false_and, if_false] at hrun
      rw [if_pos ⟨hcheaper, hactive⟩] at hrun
      simp only [scheduleDowngrade, run_updateSubscription, run_insertAudit, Txn.run_commit] at hrun
      cases hrun
      rfl

theorem planCode_changePlan {request : ChangePlan}
    (hrun : (changePlan request).run db = .ok result)
    (hrow' : result.subscriptions user = some row') :
    ∃ row, db.subscriptions user = some row ∧ (row'.planCode = row.planCode ∨
      user = request.userId ∧ request.plan = .code row'.planCode ∧ (row.status = .active →
        row.planCode.row.priceKopecks ≤ row'.planCode.row.priceKopecks)) := by
  let property (user : UserId) (row row' : Subscription) : Prop :=
    row'.planCode = row.planCode ∨ user = request.userId ∧ request.plan = .code row'.planCode ∧
      (row.status = .active → row.planCode.row.priceKopecks ≤ row'.planCode.row.priceKopecks)
  have hsame : ∀ user row, property user row row := fun _ _ ↦ .inl rfl
  cases run_changePlan hrun with
  | renewed hrow => exact rows_update rfl hrow (.inl rfl) hsame user row' hrow'
  | scheduled hrow => exact rows_update rfl hrow (.inl rfl) hsame user row' hrow'
  | @purchased row balance next entry event hrow _ hplan =>
    refine rows_update rfl hrow (.inr ⟨rfl, hplan, fun hactive ↦ ?_⟩) hsame user row' hrow'
    -- a cheaper plan would have been scheduled
    by_contra hcheaper
    have hscheduled := run_scheduled hrow hplan (Int.not_le.mp hcheaper) hactive hrun
    have hrows := congrFun hscheduled request.userId
    simp only [Database.record, Database.post, Database.setSubscription, Function.update_self,
      Option.some.injEq] at hrows
    have hnext : next = row.planCode := congrArg Subscription.planCode hrows
    exact hcheaper (hnext ▸ le_refl _)

theorem SlotsWithin.changePlan {request : ChangePlan} (hwithin : SlotsWithin directory db)
    (hunrevoked : result.unrevoked = db.unrevoked)
    (hroom : ∀ row ∈ db.subscriptions request.userId, row.status ≠ .active →
      HasRoom (unrevokedDevices directory db request.userId).length request.plan)
    (hrun : (changePlan request).run db = .ok result) : SlotsWithin directory result := by
  refine hwithin.move hunrevoked fun user row' hrow' ↦ ?_
  obtain ⟨row, hrow, hplan | ⟨rfl, hplan, hprice⟩⟩ := planCode_changePlan hrun hrow'
  · exact ⟨row, hrow, .inl hplan⟩
  · refine ⟨row, hrow, .inr ?_⟩
    by_cases hactive : row.status = .active
    · exact (hwithin _ row hrow).trans (deviceLimit_mono (hprice hactive))
    · have hfits := hroom row hrow hactive
      rw [hplan] at hfits
      exact hfits

theorem SlotsWithin.subscriptionLifecycle {run : SubscriptionLifecycle}
    (hwithin : SlotsWithin directory db) (hunrevoked : result.unrevoked = db.unrevoked)
    (hroom : ∀ device ∈ directory.devices, ∀ row ∈ db.subscriptions device.2,
      ∀ balance ∈ db.wallets device.2, DueForRenewal run.txNow row balance →
      (unrevokedDevices directory db device.2).length ≤ row.targetPlan.row.deviceLimit)
    (hrun : (subscriptionLifecycle directory run).run db = .ok result) :
    SlotsWithin directory result := by
  refine hwithin.move hunrevoked fun user row' hrow' ↦ ?_
  cases hrow : db.subscriptions user with
  | none =>
    cases (lifecycle_absent hrun hrow).symm.trans hrow'
  | some row =>
    obtain ⟨renewed, found, hfound, hmoved, hrenewed⟩ := lifecycle_user hrun hrow
    cases hrow'.symm.trans hfound
    refine ⟨row, rfl, ?_⟩
    rw [hmoved.kept.1]
    rcases hrenewed with ⟨rfl, -⟩ | ⟨balance, hbalance, hdue, rfl, -⟩
    · exact .inl rfl
    · right
      cases hdevices : unrevokedDevices directory db user with
      | nil => exact Nat.zero_le _
      | cons id rest =>
        -- a user with a device is a user of the directory
        have hdevice : (id, user) ∈ directory.devices := mem_devices_of_mem_devicesOf
          (List.mem_of_mem_filter (hdevices ▸ List.mem_cons_self))
        rw [← hdevices]
        exact hroom _ hdevice row hrow balance hbalance hdue

theorem length_unrevoked_setDevice {id : DeviceId} {device : DeviceRow} (owner user : UserId)
    (howner : directory.owner id = some owner) :
    (unrevokedDevices directory (db.setDevice id device) user).length ≤
      (unrevokedDevices directory db user).length + if user = owner then 1 else 0 := by
  have hnodup : (unrevokedDevices directory (db.setDevice id device) user).Nodup := by
    refine List.Nodup.filter _ ?_
    exact directory.devices_nodup.sublist (List.filter_sublist.map _)
  have hmem : ∀ other ∈ unrevokedDevices directory (db.setDevice id device) user,
      other ∈ unrevokedDevices directory db user ∨ other = id ∧ user = owner := by
    intro other hother
    obtain ⟨howned, hunrevoked⟩ := List.mem_filter.mp hother
    by_cases hid : other = id
    · subst hid
      have hentry := directory.owner_of_mem (mem_devices_of_mem_devicesOf howned)
      exact .inr ⟨rfl, Option.mem_unique hentry howner⟩
    · refine .inl (List.mem_filter.mpr ⟨howned, ?_⟩)
      simpa [Database.unrevoked, Database.setDevice, Function.update_of_ne hid] using hunrevoked
  split_ifs with huser
  · have hsubset : unrevokedDevices directory (db.setDevice id device) user ⊆
        id :: unrevokedDevices directory db user := fun other hother ↦
      (hmem other hother).elim (List.mem_cons_of_mem _) fun hnew ↦ hnew.1 ▸ List.mem_cons_self
    exact (List.subperm_of_subset hnodup hsubset).length_le
  · have hsubset : unrevokedDevices directory (db.setDevice id device) user ⊆
        unrevokedDevices directory db user := fun other hother ↦
      (hmem other hother).resolve_right fun hnew ↦ huser hnew.2
    exact (List.subperm_of_subset hnodup hsubset).length_le

theorem SlotsWithin.createDevice {request : CreateDevice} (hwithin : SlotsWithin directory db)
    (hrun : (createDevice directory request).run db = .ok result) :
    SlotsWithin directory result := by
  obtain ⟨row, hrow, hfree, howner, rfl⟩ := run_createDevice hrun
  intro user found hfound
  have hfound : db.subscriptions user = some found := hfound
  have hslots : (unrevokedDevices directory (db.setDevice request.deviceId
      ⟨request.credentialHash, none, none, none⟩) user).length ≤
        (unrevokedDevices directory db user).length + if user = request.userId then 1 else 0 :=
    length_unrevoked_setDevice request.userId user howner
  split_ifs at hslots with huser
  · subst huser
    cases hrow.symm.trans hfound
    omega
  · exact hslots.trans (hwithin user found hfound)

def PlansKept (db result : Database) : Prop :=
  ∀ user row', result.subscriptions user = some row' →
    ∃ row, db.subscriptions user = some row ∧ row'.planCode = row.planCode

theorem plansKept_program {request : Request} (hchange : ∀ change, request ≠ .changePlan change)
    (hworker : ∀ run, request ≠ .subscriptionLifecycle run)
    (hrun : (program environment request).run db = .ok result) : PlansKept db result := by
  intro user row' hrow'
  obtain ⟨row, hrow, hmoved⟩ := exists_row_program hrun hrow'
  refine ⟨row, hrow, ?_⟩
  cases hmoved with
  | kept | started | counted => rfl
  | renewed | scheduled | purchased => exact absurd rfl (hchange _)
  | managed => exact absurd rfl (hworker _)

theorem SlotsWithin.step {request : SlotRequest} (hwithin : SlotsWithin environment.directory db)
    (hholds : PlanHolds environment db request result)
    (hstep : slotStep environment db request = some result) :
    SlotsWithin environment.directory result := by
  unfold slotStep at hstep
  split at hstep
  · rename_i next hrun
    cases hstep
    cases request with
    | create request => exact hwithin.createDevice hrun
    | other request =>
      have hunrevoked := unrevoked_program hrun
      by_cases hchange : ∃ change, request = .changePlan change
      · obtain ⟨change, rfl⟩ := hchange
        exact hwithin.changePlan hunrevoked hholds hrun
      by_cases hworker : ∃ run, request = .subscriptionLifecycle run
      · obtain ⟨run, rfl⟩ := hworker
        exact hwithin.subscriptionLifecycle hunrevoked hholds hrun
      refine hwithin.move hunrevoked fun user row' hrow' ↦ ?_
      have hkept := plansKept_program (fun change hsame ↦ hchange ⟨change, hsame⟩)
        (fun run hsame ↦ hworker ⟨run, hsame⟩) hrun
      obtain ⟨row, hrow, hplan⟩ := hkept user row' hrow'
      exact ⟨row, hrow, .inl hplan⟩
  · cases hstep

/-- Assumes: a run from a database in which no user has more devices than the plan allows, whose
steps meet the condition. In every database that it reaches, no more unrevoked devices of a user may
be provisioned than the current plan allows. -/
theorem devices_within_plan {start : Database} (hstart : SlotsWithin environment.directory start)
    (hreach : ReachableUnder (slotStep environment) (PlanHolds environment) start db)
    (hrow : db.subscriptions user = some row) :
    (provisionableDevices environment.directory db user).length ≤
      row.planCode.row.deviceLimit := by
  have hwithin : SlotsWithin environment.directory db :=
    hreach.invariant (SlotsWithin environment.directory) hstart
      fun _ _ _ hwithin hholds hstep ↦ hwithin.step hholds hstep
  simp only [provisionableDevices, hrow]
  split_ifs
  · exact hwithin user row hrow
  · exact Nat.zero_le _

/-! ### A downgrade -/

def slotEnvironment : Environment where
  directory := ⟨[("phone", "user"), ("laptop", "user"), ("tablet", "user")], ["node"], by decide⟩
  signatures := textSignatures
  quotaPrivateKey := some "key"

def slotDatabase : Database := Database.fresh ["user"] (fun _ ↦ none) fun _ ↦ none

def threeCreated : List SlotRequest :=
  [.other (soloCredit 59800 "credit"), .other (soloPurchase .plus 0 "first"),
    .create ⟨"user", "Phone", "phone", "first"⟩, .create ⟨"user", "Laptop", "laptop", "second"⟩,
    .create ⟨"user", "Tablet", "tablet", "third"⟩]

def slotRun (requests : List SlotRequest) : Database :=
  (run (slotStep slotEnvironment) slotDatabase requests).getD slotDatabase

theorem devices_within_plan_renewed :
    (provisionableDevices slotEnvironment.directory
      (slotRun (threeCreated ++ [.other (soloLifecycle (30 * day))])) "user").length = 3 ∧
    ∀ row ∈ (slotRun (threeCreated ++ [.other (soloLifecycle (30 * day))])).subscriptions "user",
      (provisionableDevices slotEnvironment.directory
        (slotRun (threeCreated ++ [.other (soloLifecycle (30 * day))])) "user").length ≤
          row.planCode.row.deviceLimit := by
  have hstart : SlotsWithin slotEnvironment.directory slotDatabase := by
    intro user row _
    have hnone : unrevokedDevices slotEnvironment.directory slotDatabase user = [] :=
      List.filter_eq_nil_iff.mpr fun _ _ ↦ Bool.false_ne_true
    rw [hnone]
    exact Nat.zero_le _
  exact ⟨rfl, fun row hrow ↦ devices_within_plan hstart
    (reachableUnder_getD rfl) hrow⟩

def downgraded : List SlotRequest :=
  threeCreated ++ [.other (soloPurchase .lite 1 "second"), .other (soloLifecycle (30 * day))]

/-- The plan allows one device, and three may be provisioned. -/
theorem downgrade_keeps_devices :
    Reachable (slotStep slotEnvironment) slotDatabase (slotRun downgraded) ∧
    ((slotRun downgraded).subscriptions "user").map Subscription.planCode = some .lite ∧
    PlanCode.lite.row.deviceLimit = 1 ∧
    provisionableDevices slotEnvironment.directory (slotRun downgraded) "user" =
      ["phone", "laptop", "tablet"] := by
  exact ⟨reachable_getD _, rfl, rfl, rfl⟩

end RiseVpn.Control
