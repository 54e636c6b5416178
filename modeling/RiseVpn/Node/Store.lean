import RiseVpn.Library.KeyedTable
import RiseVpn.Protocol

/-!
# The node's store

The SQLite tables of a node: its key-value state, its devices and its usage events. Every function
here is one method of `store.Store` and one SQLite transaction; a method that fails leaves the store
as it was. Instants are kept as whole Unix seconds.

The `PRIMARY KEY` and the `UNIQUE` credential hash of the `devices` table are fields of
`DeviceTable`, so a table that violates them cannot be built. `upsertDevice` writes every column of
a device except the usage of a running period and the override. `storedById_upsertDevice`,
`addUsage_ok` and their companions for the other devices are the specifications the rest of the
development uses: the row of a device after each method.
-/

set_option autoImplicit false

namespace RiseVpn

open KeyedTable

structure Device where
  id : DeviceId
  credentialHash : String
  plan : Plan
  active : Bool
  subscriptionEnds : ℤ
  periodEnds : ℤ
  quotaBytes : ℤ
  usedBytes : ℤ := 0
  leaseBytes : ℤ := 0
  leaseExpires : ℤ := zeroTime
  overrideUpBps : ℤ := 0
  overrideDownBps : ℤ := 0
  overrideP2p : Bool := false
  overrideExpires : ℤ := zeroTime
  deriving DecidableEq

/-- A row of the node's `devices` table. -/
structure StoredDevice where
  deviceId : DeviceId
  credentialHash : String
  plan : Plan
  active : Bool
  subscriptionEnds : ℤ
  periodEnds : ℤ
  quotaBytes : ℤ
  usedBytes : ℤ
  leaseBytes : ℤ
  leaseExpires : ℤ
  overrideUpBps : ℤ
  overrideDownBps : ℤ
  overrideP2p : Bool
  overrideExpires : ℤ
  deriving DecidableEq

/-- The node's `devices` table. -/
structure DeviceTable where
  rows : List StoredDevice
  ids_nodup : (rows.map StoredDevice.deviceId).Nodup
  hashes_nodup : (rows.map StoredDevice.credentialHash).Nodup

namespace DeviceTable

def modify (table : DeviceTable) (id : DeviceId) (change : StoredDevice → StoredDevice)
    (hid : ∀ row, (change row).deviceId = row.deviceId)
    (hhash : ∀ row, (change row).credentialHash = row.credentialHash) : DeviceTable where
  rows := updateAt StoredDevice.deviceId id change table.rows
  ids_nodup := by
    rw [map_updateAt change hid]
    exact table.ids_nodup
  hashes_nodup := by
    rw [map_updateAt change hhash]
    exact table.hashes_nodup

/-- Adds a row. Assumes: a new id and a new credential hash. -/
def insert (table : DeviceTable) (row : StoredDevice)
    (hid : ∀ old ∈ table.rows, old.deviceId ≠ row.deviceId)
    (hhash : ∀ old ∈ table.rows, old.credentialHash ≠ row.credentialHash) : DeviceTable where
  rows := table.rows ++ [row]
  ids_nodup := by
    rw [List.map_append, List.nodup_append]
    refine ⟨table.ids_nodup, by simp, ?_⟩
    simpa using hid
  hashes_nodup := by
    rw [List.map_append, List.nodup_append]
    refine ⟨table.hashes_nodup, by simp, ?_⟩
    simpa using hhash

/-- Rewrites the row of a device. Assumes: the id stays, and no other row has the new credential
hash. -/
def replace (table : DeviceTable) (id : DeviceId) (change : StoredDevice → StoredDevice)
    (hid : ∀ row, (change row).deviceId = row.deviceId)
    (hhash : ∀ row ∈ table.rows, row.deviceId ≠ id → ∀ old ∈ table.rows, old.deviceId = id →
      (change old).credentialHash ≠ row.credentialHash) : DeviceTable where
  rows := updateAt StoredDevice.deviceId id change table.rows
  ids_nodup := by
    rw [map_updateAt change hid]
    exact table.ids_nodup
  hashes_nodup := nodup_map_updateAt change table.ids_nodup table.hashes_nodup hhash

end DeviceTable

/-- A row of the node's `usage_events` table. -/
structure StoredUsage where
  id : ℕ
  deviceId : DeviceId
  txBytes : ℤ
  rxBytes : ℤ
  recordedAt : ℤ
  sentAt : Option ℤ

/-- The node's database. `lastUsageId` is the counter behind `AUTOINCREMENT`. -/
structure Store where
  state : String → Option String
  devices : DeviceTable
  usageEvents : List StoredUsage
  lastUsageId : ℕ

namespace Store

def setStates (store : Store) (values : List (String × String)) : Store :=
  { store with
    state := values.foldl (fun state entry ↦ Function.update state entry.1 (some entry.2))
      store.state }

variable {store next : Store} {id : DeviceId} {device : Device} {now rxBytes txBytes used : ℤ}

theorem state_setStates_of_ne {values : List (String × String)} {key : String}
    (hkey : ∀ entry ∈ values, entry.1 ≠ key) :
    (store.setStates values).state key = store.state key := by
  induction values generalizing store with
  | nil => rfl
  | cons entry rest ih =>
    have hsplit : store.setStates (entry :: rest) = (store.setStates [entry]).setStates rest := rfl
    rw [hsplit, ih fun other hother ↦ hkey other (List.mem_cons_of_mem _ hother)]
    exact Function.update_of_ne (hkey entry List.mem_cons_self).symm _ _

theorem state_setStates_of_notMem {keys : List String} {values : List (String × String)}
    (hvalues : ∀ entry ∈ values, entry.1 ∉ keys) :
    ∀ key ∈ keys, (store.setStates values).state key = store.state key :=
  fun _ hkey ↦ state_setStates_of_ne fun entry hentry hsame ↦ hvalues entry hentry (hsame ▸ hkey)

def scanDevice (row : StoredDevice) : Device where
  id := row.deviceId
  credentialHash := row.credentialHash
  plan := row.plan
  active := row.active
  subscriptionEnds := ofUnix row.subscriptionEnds
  periodEnds := ofUnix row.periodEnds
  quotaBytes := row.quotaBytes
  usedBytes := row.usedBytes
  leaseBytes := row.leaseBytes
  leaseExpires := ofUnix row.leaseExpires
  overrideUpBps := row.overrideUpBps
  overrideDownBps := row.overrideDownBps
  overrideP2p := row.overrideP2p
  overrideExpires := ofUnix row.overrideExpires

section

variable (store : Store)

def storedById (id : DeviceId) : Option StoredDevice :=
  lookup StoredDevice.deviceId id store.devices.rows

def deviceById (id : DeviceId) : Option Device :=
  (store.storedById id).map scanDevice

def deviceByCredentialHash (hash : String) : Option Device :=
  (lookup StoredDevice.credentialHash hash store.devices.rows).map scanDevice

/-- The row the `INSERT` of `UpsertDevice` writes for a new device. -/
def insertedRow (device : Device) : StoredDevice where
  deviceId := device.id
  credentialHash := device.credentialHash
  plan := device.plan
  active := device.active
  subscriptionEnds := unix device.subscriptionEnds
  periodEnds := unix device.periodEnds
  quotaBytes := device.quotaBytes
  usedBytes := device.usedBytes
  leaseBytes := device.leaseBytes
  leaseExpires := unix device.leaseExpires
  overrideUpBps := 0
  overrideDownBps := 0
  overrideP2p := false
  overrideExpires := 0

/-- The row the `DO UPDATE` of `UpsertDevice` leaves: the usage is reset when the period changes,
and the override columns stay. -/
def conflictRow (device : Device) (row : StoredDevice) : StoredDevice :=
  { insertedRow device with
    deviceId := row.deviceId
    usedBytes := if row.periodEnds ≠ unix device.periodEnds then device.usedBytes else row.usedBytes
    overrideUpBps := row.overrideUpBps
    overrideDownBps := row.overrideDownBps
    overrideP2p := row.overrideP2p
    overrideExpires := row.overrideExpires }

/-- No other device has the credential hash, as the `UNIQUE` column demands. -/
def CredentialFree (device : Device) : Prop :=
  ∀ row ∈ store.devices.rows, row.deviceId ≠ device.id → row.credentialHash ≠ device.credentialHash
  deriving Decidable

def upsertDevice (device : Device) : Except String Store :=
  if hfree : store.CredentialFree device then
    if hnew : ∀ row ∈ store.devices.rows, row.deviceId ≠ device.id then
      .ok { store with
        devices := store.devices.insert (insertedRow device) hnew
          fun row hrow ↦ hfree row hrow (hnew row hrow) }
    else
      .ok { store with
        devices := store.devices.replace device.id (conflictRow device) (fun _ ↦ rfl)
          fun row hrow hne _ _ _ ↦ (hfree row hrow hne).symm }
  else .error "UNIQUE constraint failed: devices.credential_hash"

def revokeDevice (id : DeviceId) : Store :=
  { store with
    devices := store.devices.modify id (fun row ↦ { row with active := false }) (fun _ ↦ rfl)
      fun _ ↦ rfl }

/-- The row `ApplyPolicyOverride` leaves. -/
def overriddenRow (up down : ℤ) (p2p : Bool) (expires : ℤ) (row : StoredDevice) : StoredDevice :=
  { row with
    overrideUpBps := up
    overrideDownBps := down
    overrideP2p := p2p
    overrideExpires := unix expires }

def applyPolicyOverride (id : DeviceId) (up down : ℤ) (p2p : Bool) (expires : ℤ) : Store :=
  { store with
    devices := store.devices.modify id (overriddenRow up down p2p expires) (fun _ ↦ rfl)
      fun _ ↦ rfl }

def usedRow (used : ℤ) (row : StoredDevice) : StoredDevice := { row with usedBytes := used }

/-- The row `AddUsage` leaves: its argument is a sum of Go's `int64`. -/
def countedRow (bytes : ℤ) (row : StoredDevice) : StoredDevice :=
  usedRow (row.usedBytes + wrap64 bytes) row

/-- What the statements of `AddUsage` write. -/
def withUsage (id : DeviceId) (txBytes rxBytes now : ℤ) : Store :=
  { store with
    devices := store.devices.modify id (countedRow (txBytes + rxBytes)) (fun _ ↦ rfl) fun _ ↦ rfl
    usageEvents := store.usageEvents ++
      [⟨store.lastUsageId + 1, id, txBytes, rxBytes, unix now, none⟩]
    lastUsageId := store.lastUsageId + 1 }

/-- `Store.AddUsage`: the transaction fails, and records nothing, when the device is not in the
table or the sum is out of range. SQLite then has a floating-point number, which `Scan` refuses. -/
def addUsage (id : DeviceId) (txBytes rxBytes : ℤ) (now : ℤ) : Except String (ℤ × Store) :=
  match store.storedById id with
  | none => .error "sql: no rows in result set"
  | some row =>
    let used := (countedRow (txBytes + rxBytes) row).usedBytes
    if Int64Range used then .ok (used, store.withUsage id txBytes rxBytes now)
    else .error "sql: Scan error on column index 0, name \"used_bytes\""

/-- `Store.PendingUsage`. Rows are appended with growing ids, so the table order is the id order. -/
def pendingUsage (limit : ℕ) : List StoredUsage :=
  let limit := if limit < 1 ∨ 5000 < limit then 1000 else limit
  (store.usageEvents.filter fun row ↦ row.sentAt.isNone).take limit

def markUsageSent (ids : List ℤ) (now : ℤ) : Store :=
  if ids = [] then store
  else { store with
    usageEvents := store.usageEvents.map fun row ↦
      if (row.id : ℤ) ∈ ids then { row with sentAt := some (unix now) } else row }

end

/-! ### The row of a device after each method -/

theorem storedById_id {row : StoredDevice} (hrow : store.storedById id = some row) :
    row.deviceId = id := lookup_some_key hrow

theorem deviceByCredentialHash_of_stored {row : StoredDevice}
    (hrow : store.storedById id = some row) :
    store.deviceByCredentialHash row.credentialHash = some (scanDevice row) := by
  have hfound : lookup StoredDevice.credentialHash row.credentialHash store.devices.rows =
      some row :=
    (lookup_eq_some_iff store.devices.hashes_nodup).mpr ⟨lookup_some_mem hrow, rfl⟩
  rw [deviceByCredentialHash, hfound, Option.map_some]

theorem credentialFree_iff :
    store.CredentialFree device ↔ ∀ id, id ≠ device.id → ∀ row, store.storedById id = some row →
      row.credentialHash ≠ device.credentialHash := by
  constructor
  · intro hfree id hid row hrow
    exact hfree row (lookup_some_mem hrow) (lookup_some_key hrow ▸ hid)
  · intro hfree row hrow hid
    exact hfree _ hid row ((lookup_eq_some_iff store.devices.ids_nodup).mpr ⟨hrow, rfl⟩)

theorem credentialFree_of_stored {row : StoredDevice} (hrow : store.storedById device.id = some row)
    (hhash : device.credentialHash = row.credentialHash) : store.CredentialFree device := by
  intro other hother hid hsame
  have hequal : other = row := List.inj_on_of_nodup_map store.devices.hashes_nodup hother
    (lookup_some_mem hrow) (hsame.trans hhash)
  exact hid (hequal ▸ lookup_some_key hrow)

theorem upsertDevice_frame (hnext : store.upsertDevice device = .ok next) :
    next = { store with devices := next.devices } := by
  unfold upsertDevice at hnext
  split_ifs at hnext <;> cases hnext <;> rfl

theorem upsertDevice_ok (hfree : store.CredentialFree device) :
    ∃ next, store.upsertDevice device = .ok next := by
  unfold upsertDevice
  rw [dif_pos hfree]
  split_ifs
  · exact ⟨_, rfl⟩
  · exact ⟨_, rfl⟩

theorem credentialFree_of_upsertDevice (hnext : store.upsertDevice device = .ok next) :
    store.CredentialFree device := by
  unfold upsertDevice at hnext
  split_ifs at hnext with hfree
  all_goals exact hfree

theorem storedById_upsertDevice (hnext : store.upsertDevice device = .ok next) :
    next.storedById device.id = some (match store.storedById device.id with
      | none => insertedRow device
      | some row => conflictRow device row) := by
  unfold upsertDevice at hnext
  split_ifs at hnext with hfree hnew
  · cases hnext
    have hnone : store.storedById device.id = none := lookup_eq_none_iff.mpr hnew
    rw [hnone]
    simp only [storedById, DeviceTable.insert] at hnone ⊢
    rw [lookup_append, hnone, Option.none_or, lookup_cons]
    exact if_pos rfl
  · cases hnext
    have hsome : store.storedById device.id ≠ none := fun hnone ↦
      hnew (lookup_eq_none_iff.mp hnone)
    obtain ⟨row, hrow⟩ := Option.ne_none_iff_exists'.mp hsome
    rw [hrow]
    exact lookup_updateAt_of_some (conflictRow device) (fun _ ↦ rfl) hrow

theorem storedById_upsertDevice_of_ne (hne : id ≠ device.id)
    (hnext : store.upsertDevice device = .ok next) : next.storedById id = store.storedById id := by
  unfold upsertDevice at hnext
  split_ifs at hnext with hfree hnew
  · cases hnext
    have hrow : (insertedRow device).deviceId ≠ id := hne.symm
    simp only [storedById, DeviceTable.insert]
    rw [lookup_append, lookup_cons, if_neg hrow, lookup_nil, Option.or_none]
  · cases hnext
    exact lookup_updateAt_of_ne (conflictRow device) (fun _ ↦ rfl) hne

def leasedRow (bytes expires : ℤ) (row : StoredDevice) : StoredDevice :=
  { row with leaseBytes := bytes, leaseExpires := unix expires }

theorem conflictRow_scanDevice (row : StoredDevice) (bytes expires : ℤ) :
    conflictRow { scanDevice row with leaseBytes := bytes, leaseExpires := expires } row =
      leasedRow bytes expires row := by
  simp [conflictRow, insertedRow, scanDevice, leasedRow, unix_ofUnix]

theorem storedById_withUsage (store : Store) (id : DeviceId) (txBytes rxBytes now : ℤ)
    (other : DeviceId) :
    (store.withUsage id txBytes rxBytes now).storedById other =
      if other = id then (store.storedById id).map (countedRow (txBytes + rxBytes))
      else store.storedById other := by
  split_ifs with hsame
  · rw [hsame]
    exact lookup_updateAt_self (countedRow (txBytes + rxBytes)) fun _ ↦ rfl
  · exact lookup_updateAt_of_ne (countedRow (txBytes + rxBytes)) (fun _ ↦ rfl) hsame

theorem addUsage_ok {row : StoredDevice} (hrow : store.storedById id = some row)
    (hfits : Int64Range (countedRow (txBytes + rxBytes) row).usedBytes) (now : ℤ) :
    ∃ next, store.addUsage id txBytes rxBytes now =
        .ok ((countedRow (txBytes + rxBytes) row).usedBytes, next) ∧
      next.storedById id = some (countedRow (txBytes + rxBytes) row) := by
  refine ⟨store.withUsage id txBytes rxBytes now, ?_, ?_⟩
  · simp only [addUsage, hrow, if_pos hfits]
  · rw [storedById_withUsage, if_pos rfl, hrow, Option.map_some]

theorem addUsage_unknown (hunknown : store.storedById id = none) (txBytes rxBytes now : ℤ) :
    store.addUsage id txBytes rxBytes now = .error "sql: no rows in result set" := by
  simp only [addUsage, hunknown]

/-! ### The usage events -/

/-- The ids of the usage events grow along the table, up to the counter. -/
structure Numbered (store : Store) : Prop where
  bounded : ∀ row ∈ store.usageEvents, row.id ≤ store.lastUsageId
  increasing : store.usageEvents.Pairwise fun first second ↦ first.id < second.id

theorem Numbered.eq_of_id (hnumbered : store.Numbered) {first second : StoredUsage}
    (hfirst : first ∈ store.usageEvents) (hsecond : second ∈ store.usageEvents)
    (hid : first.id = second.id) : first = second := by
  have hnodup : (store.usageEvents.map StoredUsage.id).Nodup :=
    List.pairwise_map.mpr (hnumbered.increasing.imp Nat.ne_of_lt)
  exact List.inj_on_of_nodup_map hnodup hfirst hsecond hid

section

variable (hnext : store.addUsage id txBytes rxBytes now = .ok (used, next))

include hnext

/-- What a call that went through has recorded. -/
theorem addUsage_recorded :
    next = store.withUsage id txBytes rxBytes now ∧ ∃ row, store.storedById id = some row ∧
      used = (countedRow (txBytes + rxBytes) row).usedBytes ∧ Int64Range used := by
  unfold addUsage at hnext
  cases hrow : store.storedById id with
  | none =>
    rw [hrow] at hnext
    cases hnext
  | some row =>
    simp only [hrow] at hnext
    split_ifs at hnext with hfits
    cases hnext
    exact ⟨rfl, row, rfl, rfl, hfits⟩

theorem storedById_addUsage (other : DeviceId) : next.storedById other =
      if other = id then (store.storedById id).map (countedRow (txBytes + rxBytes))
      else store.storedById other := by
  rw [(addUsage_recorded hnext).1, storedById_withUsage]

theorem addUsage_usageEvents : next.usageEvents = store.usageEvents ++
        [⟨store.lastUsageId + 1, id, txBytes, rxBytes, unix now, none⟩] ∧
      next.lastUsageId = store.lastUsageId + 1 := by
  rw [(addUsage_recorded hnext).1]
  exact ⟨rfl, rfl⟩

theorem Numbered.addUsage (hnumbered : store.Numbered) : next.Numbered := by
  obtain ⟨hevents, hlast⟩ := addUsage_usageEvents hnext
  refine ⟨fun row hrow ↦ ?_, ?_⟩
  · rw [hevents, List.mem_append, List.mem_singleton] at hrow
    rw [hlast]
    rcases hrow with hold | rfl
    · exact Nat.le_succ_of_le (hnumbered.bounded row hold)
    · exact Nat.le_refl _
  · rw [hevents]
    refine List.pairwise_append.mpr ⟨hnumbered.increasing, List.pairwise_singleton _ _, ?_⟩
    intro old hold new hnew
    rw [List.mem_singleton.mp hnew]
    exact Nat.lt_succ_of_le (hnumbered.bounded old hold)

end

/-- The row `MarkUsageSent` leaves of a usage event. -/
def markedRow (ids : List ℤ) (now : ℤ) (row : StoredUsage) : StoredUsage :=
  if (row.id : ℤ) ∈ ids then { row with sentAt := some (unix now) } else row

theorem subscriptionEnds_addUsage {other : DeviceId} {row' : StoredDevice}
    (hnext : store.addUsage other txBytes rxBytes now = .ok (used, next))
    (hrow' : next.storedById id = some row') :
    ∃ row, store.storedById id = some row ∧ row'.subscriptionEnds = row.subscriptionEnds := by
  rw [storedById_addUsage hnext] at hrow'
  split_ifs at hrow' with hsame
  · obtain ⟨row, hrow, rfl⟩ := Option.map_eq_some_iff.mp hrow'
    exact ⟨row, hsame ▸ hrow, rfl⟩
  · exact ⟨row', hrow', rfl⟩

theorem markUsageSent_usageEvents (store : Store) (ids : List ℤ) (now : ℤ) :
    (store.markUsageSent ids now).usageEvents = store.usageEvents.map (markedRow ids now) := by
  unfold markUsageSent
  split_ifs with hnone
  · subst hnone
    exact (List.map_id'' (fun row ↦ if_neg List.not_mem_nil) _).symm
  · rfl

theorem markedRow_id (ids : List ℤ) (now : ℤ) (row : StoredUsage) :
    (markedRow ids now row).id = row.id := by
  unfold markedRow
  split_ifs <;> rfl

theorem Numbered.marked (hnumbered : store.Numbered) {ids : List ℤ}
    (hevents : next.usageEvents = store.usageEvents.map (markedRow ids now))
    (hlast : next.lastUsageId = store.lastUsageId) : next.Numbered := by
  refine ⟨fun row hrow ↦ ?_, ?_⟩
  · rw [hevents] at hrow
    obtain ⟨old, hold, rfl⟩ := List.mem_map.mp hrow
    rw [markedRow_id, hlast]
    exact hnumbered.bounded old hold
  · rw [hevents, List.pairwise_map]
    simpa only [markedRow_id] using hnumbered.increasing

theorem Numbered.markUsageSent (hnumbered : store.Numbered) (ids : List ℤ) (now : ℤ) :
    (store.markUsageSent ids now).Numbered := by
  refine hnumbered.marked (store.markUsageSent_usageEvents ids now) ?_
  unfold Store.markUsageSent
  split_ifs <;> rfl

theorem Numbered.pending (hnumbered : store.Numbered) {row : StoredUsage}
    (hrow : row ∈ store.usageEvents) (hunsent : row.sentAt = none) :
    row ∈ store.pendingUsage 1000 ∨ (store.pendingUsage 1000).length = 1000 ∧
      ∀ older ∈ store.pendingUsage 1000, older.id < row.id := by
  let unsent := store.usageEvents.filter fun row ↦ row.sentAt.isNone
  have hmem : row ∈ unsent.take 1000 ++ unsent.drop 1000 := by
    rw [List.take_append_drop]
    exact List.mem_filter.mpr ⟨hrow, by rw [hunsent, Option.isNone_none]⟩
  have hsorted : (unsent.take 1000 ++ unsent.drop 1000).Pairwise fun first second ↦
      first.id < second.id := by
    rw [List.take_append_drop]
    exact hnumbered.increasing.filter _
  change row ∈ unsent.take 1000 ∨ (unsent.take 1000).length = 1000 ∧
    ∀ older ∈ unsent.take 1000, older.id < row.id
  rcases List.mem_append.mp hmem with htaken | hdropped
  · exact .inl htaken
  · have hlong : 0 < (unsent.drop 1000).length := List.length_pos_of_mem hdropped
    rw [List.length_drop] at hlong
    refine .inr ⟨?_, fun older holder ↦ ?_⟩
    · rw [List.length_take]
      omega
    · exact (List.pairwise_append.mp hsorted).2.2 older holder row hdropped

theorem mem_pendingUsage_addUsage (hnext : store.addUsage id txBytes rxBytes now = .ok (used, next))
    {row : StoredUsage} (hrow : row ∈ store.pendingUsage 1000) : row ∈ next.pendingUsage 1000 := by
  change row ∈ (next.usageEvents.filter _).take 1000
  rw [(addUsage_usageEvents hnext).1, List.filter_append, List.take_append]
  exact List.mem_append_left _ hrow

theorem mem_take_filter_map {keep : StoredUsage → Bool} {mark : StoredUsage → StoredUsage}
    (hmark : ∀ other, mark other = other ∨ keep (mark other) = false) {row : StoredUsage}
    (hself : mark row = row) (hkeep : keep row = true) (rows : List StoredUsage) :
    ∀ limit, row ∈ (rows.filter keep).take limit →
      row ∈ ((rows.map mark).filter keep).take limit := by
  induction rows with
  | nil => exact fun limit hrow ↦ hrow
  | cons first rows ih =>
    intro limit hrow
    rw [List.map_cons]
    cases hfirst : keep first with
    | false =>
      have hmarked : keep (mark first) = false := by
        rcases hmark first with hsame | hsent
        · rw [hsame, hfirst]
        · exact hsent
      rw [List.filter_cons_of_neg (by simp [hfirst])] at hrow
      rw [List.filter_cons_of_neg (by simp [hmarked])]
      exact ih limit hrow
    | true =>
      rw [List.filter_cons_of_pos hfirst] at hrow
      cases limit with
      | zero => cases hrow
      | succ limit =>
        rw [List.take_succ_cons, List.mem_cons] at hrow
        rcases hmark first with hsame | hsent
        · rw [hsame, List.filter_cons_of_pos hfirst, List.take_succ_cons, List.mem_cons]
          exact hrow.imp_right (ih limit)
        · rw [List.filter_cons_of_neg (by simp [hsent])]
          rcases hrow with rfl | hlater
          · rw [hself, hkeep] at hsent
            cases hsent
          · exact List.take_subset_take_left _ (Nat.le_succ limit) (ih limit hlater)

theorem mem_pendingUsage_markUsageSent {ids : List ℤ} {row : StoredUsage}
    (hrow : row ∈ store.pendingUsage 1000) (hid : (row.id : ℤ) ∉ ids) (now : ℤ) :
    row ∈ (store.markUsageSent ids now).pendingUsage 1000 := by
  have hunsent := (List.mem_filter.mp (List.mem_of_mem_take hrow)).2
  change row ∈ ((store.markUsageSent ids now).usageEvents.filter _).take 1000
  rw [markUsageSent_usageEvents]
  have hself : markedRow ids now row = row := if_neg hid
  refine mem_take_filter_map (fun other ↦ ?_) hself hunsent _ 1000 hrow
  unfold markedRow
  split_ifs
  · exact .inr rfl
  · exact .inl rfl

end Store

end RiseVpn
