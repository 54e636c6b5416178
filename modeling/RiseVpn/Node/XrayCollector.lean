import RiseVpn.Node.TrafficCollector
import RiseVpn.Node.XrayMembership

/-!
# The collector of the Xray traffic

`Manager.CollectUsage` asks Xray for the traffic of every device of the node, in two calls of
`GetStats`, one for each direction, which both reset the counter they return. The two directions are
the keys of a Go map, so either may come first; only after both calls is the usage of the device
recorded. A counter that Xray does not have counts as zero, any other error ends the run.

The answers of a run are a parameter (`StatsApi`). A run keeps the bytes that its calls returned
(`StatsRun.returned`), and `Balanced` says that they are all recorded. `xray_recorded_iff` says when
that is so, as far as `AddUsage` goes through (`StatsApi.Recordable`): a run loses what the first
call for a device has returned exactly when the second call for it is the one that fails.
`uplink_lost` is such a run.
-/

set_option autoImplicit false

namespace RiseVpn

/-! ### The run of the manager -/

/-- The keys of the map of directions in `CollectUsage`. -/
inductive Direction
  | uplink
  | downlink
  deriving DecidableEq

def Direction.other : Direction → Direction
  | .uplink => .downlink
  | .downlink => .uplink

/-- What a call of `GetStats` with `Reset_` comes to. A counter of bytes is not negative. -/
inductive StatsOutcome
  | value (bytes : ℕ)
  | notFound
  | failed (error : String)

def StatsOutcome.read : StatsOutcome → Except String ℕ
  | .value bytes => .ok bytes
  | .notFound => .ok 0
  | .failed error => .error error

/-- The outside of a run of `CollectUsage`: the connection, the direction that comes first for a
device, the outcomes of the calls, the times at which the usage of a device is recorded and judged,
and whether Xray answers when a device is removed. -/
structure StatsApi where
  dial : Except String Unit
  first : DeviceId → Direction
  stats : DeviceId → Direction → StatsOutcome
  recordedAt : DeviceId → ℤ
  judgedAt : DeviceId → ℤ
  answers : DeviceId → Bool

structure StatsRun where
  store : Store
  xray : XrayManager
  returned : List (DeviceId × Direction × ℕ)

def StatsRun.returns (run : StatsRun) (id : DeviceId) (direction : Direction) (bytes : ℕ) :
    StatsRun :=
  { run with returned := run.returned ++ [(id, direction, bytes)] }

/-- The end of a round of `CollectUsage`: usage is recorded, and a device that may not go on is
revoked, whatever becomes of the call. -/
def StatsRun.record (api : StatsApi) (run : StatsRun) (id : DeviceId) (uplink downlink : ℕ) :
    StatsRun × Except String Unit :=
  if ¬ (0 < uplink ∨ 0 < downlink) then (run, .ok ())
  else match run.store.addUsage id uplink downlink (api.recordedAt id) with
  | .error error => (run, .error error)
  | .ok (_, store) =>
    match store.deviceById id with
    | none => ({ run with store }, .ok ())
    | some updated =>
      if ¬ allowed updated (api.judgedAt id) then
        ({ run with store, xray := (run.xray.revoke (api.answers id) id).1 }, .ok ())
      else ({ run with store }, .ok ())

/-- A round of `CollectUsage`. -/
def collectDevice (api : StatsApi) (run : StatsRun) (id : DeviceId) :
    StatsRun × Except String Unit :=
  match (api.stats id (api.first id)).read with
  | .error error => (run, .error error)
  | .ok bytes =>
    match (api.stats id (api.first id).other).read with
    | .error error => (run.returns id (api.first id) bytes, .error error)
    | .ok otherBytes =>
      let run := (run.returns id (api.first id) bytes).returns id (api.first id).other otherBytes
      match api.first id with
      | .uplink => run.record api id bytes otherBytes
      | .downlink => run.record api id otherBytes bytes

/-- The loop of `CollectUsage` over the devices. -/
def collectDevices (api : StatsApi) : List DeviceId → StatsRun → StatsRun × Except String Unit
  | [], run => (run, .ok ())
  | id :: rest, run =>
    match collectDevice api run id with
    | (run, .error error) => (run, .error error)
    | (run, .ok ()) => collectDevices api rest run

def collectUsage (api : StatsApi) (store : Store) (xray : XrayManager) :
    StatsRun × Except String Unit :=
  match api.dial with
  | .error error => (⟨store, xray, []⟩, .error error)
  | .ok () => collectDevices api (store.allDevices.map Device.id) ⟨store, xray, []⟩

/-! ### The bytes returned and recorded -/

def Store.sentBytes (store : Store) (id : DeviceId) : ℤ := ((store.usageOf id).map Prod.fst).sum

def Store.receivedBytes (store : Store) (id : DeviceId) : ℤ := ((store.usageOf id).map Prod.snd).sum

def StatsRun.bytes (run : StatsRun) (id : DeviceId) (direction : Direction) : ℤ :=
  ((run.returned.filter fun row ↦ row.1 = id ∧ row.2.1 = direction).map fun row ↦
    (row.2.2 : ℤ)).sum

/-- Every byte that was returned is recorded for its device, and no other. -/
def Balanced (start : Store) (run : StatsRun) : Prop :=
  ∀ id, run.store.sentBytes id = start.sentBytes id + run.bytes id .uplink ∧
    run.store.receivedBytes id = start.receivedBytes id + run.bytes id .downlink

/-- A call for a device fails with another error than that the counter is missing. -/
def StatsApi.Fails (api : StatsApi) (id : DeviceId) (direction : Direction) : Prop :=
  ∃ error, api.stats id direction = .failed error

/-- `AddUsage` goes through for what the two calls for a device return. -/
def StatsApi.Recordable (api : StatsApi) (store : Store) (id : DeviceId) : Prop :=
  ∀ uplink downlink, (api.stats id .uplink).read = .ok uplink →
    (api.stats id .downlink).read = .ok downlink →
    ∃ counted, store.addUsage id uplink downlink (api.recordedAt id) = .ok counted

/-- No call takes the bytes of another with it: whenever the first call that fails is the second one
for its device, the first one for that device has returned nothing. -/
def LossFree (api : StatsApi) (devices : List DeviceId) : Prop :=
  ∀ before id after, devices = before ++ id :: after →
    (∀ earlier ∈ before, ∀ direction, ¬ api.Fails earlier direction) →
    api.Fails id (api.first id).other → ∀ bytes, api.stats id (api.first id) = .value bytes →
      bytes = 0

section Totals

variable {store next start : Store} {run : StatsRun} {id other : DeviceId} {direction : Direction}

@[simp] theorem store_returns (run : StatsRun) (id : DeviceId) (direction : Direction)
    (bytes : ℕ) : (run.returns id direction bytes).store = run.store := rfl

theorem bytes_returns (run : StatsRun) (id : DeviceId) (direction : Direction) (bytes : ℕ)
    (other : DeviceId) (direction' : Direction) :
    (run.returns id direction bytes).bytes other direction' =
      run.bytes other direction' +
        if other = id ∧ direction' = direction then (bytes : ℤ) else 0 := by
  unfold StatsRun.bytes StatsRun.returns
  rw [List.filter_append, List.map_append, List.sum_append]
  by_cases hsame : other = id ∧ direction' = direction
  · obtain ⟨rfl, rfl⟩ := hsame
    simp
  · have hnot : ¬ (id = other ∧ direction = direction') := fun h ↦ hsame ⟨h.1.symm, h.2.symm⟩
    simp [hsame, hnot]

theorem recorded_addUsage {txBytes rxBytes now used : ℤ}
    (hnext : store.addUsage id txBytes rxBytes now = .ok (used, next)) (other : DeviceId) :
    next.sentBytes other = store.sentBytes other + (if other = id then txBytes else 0) ∧
      next.receivedBytes other =
        store.receivedBytes other + (if other = id then rxBytes else 0) := by
  unfold Store.sentBytes Store.receivedBytes
  rw [usageOf_addUsage hnext]
  split_ifs with hsame
  · subst hsame
    simp
  · simp

end Totals

/-! ### A round of the loop -/

section Rounds

variable {api : StatsApi} {start : Store} {run next : StatsRun} {id : DeviceId}

theorem fails_iff_read {direction : Direction} :
    api.Fails id direction ↔ ∃ error, (api.stats id direction).read = .error error := by
  unfold StatsApi.Fails
  cases api.stats id direction with
  | value bytes => simp [StatsOutcome.read]
  | notFound => simp [StatsOutcome.read]
  | failed error => simp [StatsOutcome.read]

theorem not_fails_of_read {direction : Direction} {bytes : ℕ}
    (hread : (api.stats id direction).read = .ok bytes) : ¬ api.Fails id direction := by
  rw [fails_iff_read, hread]
  rintro ⟨error, herror⟩
  cases herror

theorem StatsApi.Recordable.congr {store next : Store} (hrecordable : api.Recordable store id)
    (hrow : next.storedById id = store.storedById id) : api.Recordable next id := by
  intro uplink downlink hup hdown
  obtain ⟨⟨used, counted⟩, hcounted⟩ := hrecordable uplink downlink hup hdown
  obtain ⟨-, row, hold, rfl, hfits⟩ := Store.addUsage_recorded hcounted
  obtain ⟨counted', hcounted', -⟩ :=
    Store.addUsage_ok (hrow.trans hold) hfits (api.recordedAt id)
  exact ⟨_, hcounted'⟩

/-- What a round changes is balanced: it records as much as its calls return, and leaves the rows of
the other devices alone. -/
structure RoundBalanced (id : DeviceId) (run next : StatsRun) : Prop where
  sent : ∀ other, next.store.sentBytes other + run.bytes other .uplink =
    run.store.sentBytes other + next.bytes other .uplink
  received : ∀ other, next.store.receivedBytes other + run.bytes other .downlink =
    run.store.receivedBytes other + next.bytes other .downlink
  frame : ∀ other, other ≠ id → next.store.storedById other = run.store.storedById other

theorem RoundBalanced.balanced (hround : RoundBalanced id run next)
    (hbalanced : Balanced start run) : Balanced start next := by
  intro other
  obtain ⟨hsent, hreceived⟩ := hbalanced other
  have hround := And.intro (hround.sent other) (hround.received other)
  constructor <;> omega

theorem record_balanced (hrecordable : api.Recordable run.store id) {uplink downlink : ℕ}
    (huplink : (api.stats id .uplink).read = .ok uplink)
    (hdownlink : (api.stats id .downlink).read = .ok downlink)
    (returned : StatsRun) (hstore : returned.store = run.store)
    (hup : ∀ other, returned.bytes other .uplink =
      run.bytes other .uplink + if other = id then (uplink : ℤ) else 0)
    (hdown : ∀ other, returned.bytes other .downlink =
      run.bytes other .downlink + if other = id then (downlink : ℤ) else 0) :
    ∃ next, returned.record api id uplink downlink = (next, .ok ()) ∧
      RoundBalanced id run next := by
  unfold StatsRun.record
  by_cases hsome : 0 < uplink ∨ 0 < downlink
  · rw [if_neg (not_not_intro hsome)]
    obtain ⟨⟨used, counted⟩, hcounted⟩ := hrecordable uplink downlink huplink hdownlink
    have hround : ∀ next : StatsRun, next.store = counted → next.returned = returned.returned →
        RoundBalanced id run next := by
      intro next hnext hreturned
      have hbytes : ∀ other direction,
          next.bytes other direction = returned.bytes other direction :=
        fun other direction ↦ by rw [StatsRun.bytes, hreturned, StatsRun.bytes]
      refine ⟨fun other ↦ ?_, fun other ↦ ?_, fun other hother ↦ ?_⟩
      · rw [hbytes, hnext, hup other, (recorded_addUsage hcounted other).1]
        omega
      · rw [hbytes, hnext, hdown other, (recorded_addUsage hcounted other).2]
        omega
      · rw [hnext, Store.storedById_addUsage hcounted, if_neg hother]
    simp only [hstore, hcounted]
    split
    · exact ⟨_, rfl, hround _ rfl rfl⟩
    · split_ifs
      · exact ⟨_, rfl, hround _ rfl rfl⟩
      · exact ⟨_, rfl, hround _ rfl rfl⟩
  · rw [if_pos hsome]
    refine ⟨returned, rfl, fun other ↦ ?_, fun other ↦ ?_, fun other _ ↦ by rw [hstore]⟩
    · rw [hstore, hup other]
      split_ifs <;> omega
    · rw [hstore, hdown other]
      split_ifs <;> omega

/-- What a round does: its first call fails, its second call fails and the bytes of the first are
gone, or both calls succeed and the round is balanced. -/
inductive DeviceCollected (api : StatsApi) (run : StatsRun) (id : DeviceId) :
    StatsRun × Except String Unit → Prop
  | refused {error : String} (hfirst : api.Fails id (api.first id)) :
      DeviceCollected api run id (run, .error error)
  | lost {error : String} {bytes : ℕ} (hfirst : (api.stats id (api.first id)).read = .ok bytes)
      (hsecond : api.Fails id (api.first id).other) :
      DeviceCollected api run id (run.returns id (api.first id) bytes, .error error)
  | done {next : StatsRun} (hcalls : ∀ direction, ¬ api.Fails id direction)
      (hround : RoundBalanced id run next) : DeviceCollected api run id (next, .ok ())

theorem collectDevice_cases (hrecordable : api.Recordable run.store id) :
    DeviceCollected api run id (collectDevice api run id) := by
  unfold collectDevice
  cases hfirst : (api.stats id (api.first id)).read with
  | error error => exact .refused (fails_iff_read.mpr ⟨error, hfirst⟩)
  | ok bytes =>
    cases hsecond : (api.stats id (api.first id).other).read with
    | error error => exact .lost hfirst (fails_iff_read.mpr ⟨error, hsecond⟩)
    | ok otherBytes =>
      have hcalls : ∀ direction, ¬ api.Fails id direction := by
        intro direction
        by_cases hdirection : direction = api.first id
        · exact hdirection ▸ not_fails_of_read hfirst
        · have hother : direction = (api.first id).other := by
            cases hkey : api.first id <;> cases direction <;> simp_all [Direction.other]
          exact hother ▸ not_fails_of_read hsecond
      dsimp only
      cases hkey : api.first id with
      | uplink =>
        rw [hkey] at hfirst hsecond
        obtain ⟨next, hnext, hround⟩ := record_balanced hrecordable hfirst hsecond
          ((run.returns id .uplink bytes).returns id .downlink otherBytes) rfl
          (fun other ↦ by simp [bytes_returns]) (fun other ↦ by simp [bytes_returns])
        simp only [Direction.other, hnext]
        exact .done hcalls hround
      | downlink =>
        rw [hkey] at hfirst hsecond
        obtain ⟨next, hnext, hround⟩ := record_balanced hrecordable hsecond hfirst
          ((run.returns id .downlink bytes).returns id .uplink otherBytes) rfl
          (fun other ↦ by simp [bytes_returns]) (fun other ↦ by simp [bytes_returns])
        simp only [Direction.other, hnext]
        exact .done hcalls hround

theorem balanced_returns_iff (hbalanced : Balanced start run) (direction : Direction) (bytes : ℕ) :
    Balanced start (run.returns id direction bytes) ↔ bytes = 0 := by
  constructor
  · intro hreturns
    obtain ⟨hsent, hreceived⟩ := hbalanced id
    obtain ⟨hsent', hreceived'⟩ := hreturns id
    rw [store_returns, bytes_returns] at hsent' hreceived'
    cases direction with
    | uplink =>
      rw [if_pos ⟨rfl, rfl⟩] at hsent'
      omega
    | downlink =>
      rw [if_pos ⟨rfl, rfl⟩] at hreceived'
      omega
  · rintro rfl other
    rw [bytes_returns, bytes_returns]
    simpa using hbalanced other

theorem lossFree_nil : LossFree api [] := by
  intro before id after hsplit
  cases before <;> cases hsplit

theorem lossFree_cons {rest : List DeviceId} :
    LossFree api (id :: rest) ↔
      (api.Fails id (api.first id).other → ∀ bytes, api.stats id (api.first id) = .value bytes →
        bytes = 0) ∧ ((∀ direction, ¬ api.Fails id direction) → LossFree api rest) := by
  constructor
  · intro hfree
    refine ⟨hfree [] id rest rfl (by simp), ?_⟩
    intro hcalls before later after hsplit hbefore
    refine hfree (id :: before) later after (by rw [hsplit, List.cons_append]) ?_
    exact List.forall_mem_cons.mpr ⟨hcalls, hbefore⟩
  · rintro ⟨hfirst, hrest⟩ before later after hsplit hbefore
    cases before with
    | nil =>
      cases hsplit
      exact hfirst
    | cons earlier before =>
      cases hsplit
      obtain ⟨hcalls, hbefore⟩ := List.forall_mem_cons.mp hbefore
      exact hrest hcalls before later after rfl hbefore

theorem collectDevices_balanced_iff {devices : List DeviceId} (hnodup : devices.Nodup)
    (hrecordable : ∀ id ∈ devices, api.Recordable run.store id) (hbalanced : Balanced start run) :
    Balanced start (collectDevices api devices run).1 ↔ LossFree api devices := by
  induction devices generalizing run with
  | nil => exact iff_of_true hbalanced lossFree_nil
  | cons id rest ih =>
    obtain ⟨hfirst, hrest⟩ := List.forall_mem_cons.mp hrecordable
    obtain ⟨hid, hnodup⟩ := List.nodup_cons.mp hnodup
    have hcases : DeviceCollected api run id (collectDevice api run id) :=
      collectDevice_cases hfirst
    unfold collectDevices
    generalize collectDevice api run id = collected at hcases
    rw [lossFree_cons]
    cases hcases with
    | refused hfails =>
      obtain ⟨error, herror⟩ := hfails
      refine iff_of_true hbalanced ⟨fun _ bytes hvalue ↦ ?_, fun hcalls ↦ ?_⟩
      · rw [herror] at hvalue
        cases hvalue
      · exact absurd ⟨error, herror⟩ (hcalls _)
    | @lost error bytes hread hfails =>
      rw [balanced_returns_iff hbalanced]
      constructor
      · rintro rfl
        refine ⟨fun _ bytes hvalue ↦ ?_, fun hcalls ↦ absurd hfails (hcalls _)⟩
        rw [hvalue] at hread
        exact Except.ok.inj hread
      · rintro ⟨hfree, -⟩
        cases hstats : api.stats id (api.first id) with
        | value found =>
          rw [hstats] at hread
          cases hread
          exact hfree hfails _ hstats
        | notFound =>
          rw [hstats] at hread
          exact (Except.ok.inj hread).symm
        | failed error =>
          rw [hstats] at hread
          cases hread
    | done hcalls hround =>
      have hframe : ∀ other ∈ rest, api.Recordable _ other := fun other hother ↦
        (hrest other hother).congr (hround.frame other fun hsame ↦ hid (hsame ▸ hother))
      have hnext := ih hnodup hframe (hround.balanced hbalanced)
      refine hnext.trans ⟨fun hfree ↦ ⟨fun hfails ↦ absurd hfails (hcalls _), fun _ ↦ hfree⟩, ?_⟩
      exact fun hfree ↦ hfree.2 hcalls

end Rounds

/-- A run of `CollectUsage` whose calls of `AddUsage` go through records every byte that its calls
returned exactly when it gets no connection, or no call takes the bytes of another with it. -/
theorem xray_recorded_iff (api : StatsApi) (store : Store) (xray : XrayManager)
    (hrecordable : ∀ device ∈ store.allDevices, api.Recordable store device.id) :
    Balanced store (collectUsage api store xray).1 ↔
      (api.dial = .ok () → LossFree api (store.allDevices.map Device.id)) := by
  have hstart : Balanced store ⟨store, xray, []⟩ := fun id ↦ by simp [StatsRun.bytes]
  unfold collectUsage
  cases hdial : api.dial with
  | error error =>
    refine iff_of_true hstart fun hok ↦ ?_
    cases hok
  | ok =>
    have hnodup : (store.allDevices.map Device.id).Nodup := by
      have hids : store.allDevices.map Device.id =
          store.devices.rows.map StoredDevice.deviceId := List.map_map
      exact hids ▸ store.devices.ids_nodup
    rw [collectDevices_balanced_iff hnodup (List.forall_mem_map.mpr hrecordable) hstart]
    exact ⟨fun hfree _ ↦ hfree, fun hfree ↦ hfree rfl⟩

def answeringStats : StatsApi where
  dial := .ok ()
  first := fun _ ↦ .downlink
  stats := fun _ direction ↦ match direction with
    | .uplink => .value 500
    | .downlink => .value 700
  recordedAt := fun _ ↦ 0
  judgedAt := fun _ ↦ 0
  answers := fun _ ↦ true

theorem xray_recorded_iff_answering :
    (collectUsage answeringStats throttledStore ⟨∅, ⟨[], .nil⟩⟩).1.store.usageOf "device" =
        [(500, 700)] ∧
      Balanced throttledStore (collectUsage answeringStats throttledStore ⟨∅, ⟨[], .nil⟩⟩).1 := by
  refine ⟨rfl, (xray_recorded_iff answeringStats throttledStore ⟨∅, ⟨[], .nil⟩⟩ ?_).mpr ?_⟩
  · intro device hdevice uplink downlink hup hdown
    cases List.mem_singleton.mp hdevice
    cases hup
    cases hdown
    exact ⟨_, rfl⟩
  · rintro - before id after - - ⟨error, herror⟩
    cases herror

def brokenStats : StatsApi where
  dial := .ok ()
  first := fun _ ↦ .uplink
  stats := fun _ direction ↦ match direction with
    | .uplink => .value 500
    | .downlink => .failed "transport is closing"
  recordedAt := fun _ ↦ 0
  judgedAt := fun _ ↦ 0
  answers := fun _ ↦ true

/-- The uplink is reset, and nothing is recorded. -/
theorem uplink_lost :
    (collectUsage brokenStats throttledStore ⟨∅, ⟨[], .nil⟩⟩).1.returned =
        [("device", .uplink, 500)] ∧
      (collectUsage brokenStats throttledStore ⟨∅, ⟨[], .nil⟩⟩).1.store.usageOf "device" = [] ∧
      ¬ Balanced throttledStore (collectUsage brokenStats throttledStore ⟨∅, ⟨[], .nil⟩⟩).1 := by
  refine ⟨rfl, rfl, fun hbalanced ↦ ?_⟩
  exact absurd (hbalanced "device").1 (by decide)

end RiseVpn
