import RiseVpn.Node.Client

/-!
# What a command does to its device

The four commands that write the row of one device: `device.upsert`, `quota.lease`, `device.revoke`
and `policy.override`. Whatever a handler answers and whenever it runs, it leaves the row or applies
the `rowEffect` of the message (`storedById_handle_cases`), and it applies it when it succeeds
(`storedById_handle_of_ok`). The effect is idempotent, so a command that is handled twice in a row
is as good as one (`rowEffect_rowEffect`), and the answer of a handler depends on the row only
through its effect (`handle_result_congr`).

`handleEach` handles commands one after the other and asks for success of each.
-/

set_option autoImplicit false

namespace RiseVpn

open KeyedTable

def Message.WritesTo (device : DeviceId) : Message → Prop
  | .deviceUpsert data => data.deviceId = device
  | .quotaLease lease => lease.deviceId = device
  | .deviceRevoke data => data.deviceId = device
  | .policyOverride data => data.deviceId = device
  | _ => False

instance (device : DeviceId) (message : Message) : Decidable (message.WritesTo device) := by
  unfold Message.WritesTo
  split <;> infer_instance

/-- What a message leaves of the row of its device when its handler applies it. -/
def rowEffect : Message → Option StoredDevice → Option StoredDevice
  | .deviceUpsert data, none => some (Store.insertedRow data.device)
  | .deviceUpsert data, some row => some (Store.conflictRow data.device row)
  | .quotaLease lease, row => row.map (Store.leasedRow lease.bytes lease.expiresAt)
  | .deviceRevoke _, row => row.map fun row ↦ { row with active := false }
  | .policyOverride data, row =>
    row.map (Store.overriddenRow data.upBps data.downBps data.p2pAllowed data.expiresAt)
  | _, row => row

/-- Handles messages one after the other, each at its time and with success. -/
def handleEach (integrations : Integrations) : Store → List (Message × ℤ) → Option Store
  | store, [] => some store
  | store, (message, time) :: rest =>
    match handle integrations store message time with
    | (next, .ok ()) => handleEach integrations next rest
    | (_, .error _) => none

section Effect

variable {integrations : Integrations} {store store' : Store} {device : DeviceId}
  {message : Message} {now : ℤ}

theorem rowEffect_rowEffect (message : Message) (row : Option StoredDevice) :
    rowEffect message (rowEffect message row) = rowEffect message row := by
  cases message with
  | deviceUpsert data => cases row <;> simp [rowEffect, Store.conflictRow, Store.insertedRow]
  | quotaLease lease => cases row <;> simp [rowEffect, Store.leasedRow]
  | deviceRevoke data => cases row <;> simp [rowEffect]
  | policyOverride data => cases row <;> simp [rowEffect, Store.overriddenRow]
  | _ => rfl

section

variable (store : Store) (device : DeviceId)

theorem storedById_revokeDevice :
    (store.revokeDevice device).storedById device =
      (store.storedById device).map fun row ↦ { row with active := false } :=
  lookup_updateAt_self (fun row : StoredDevice ↦ { row with active := false }) fun _ ↦ rfl

theorem revokeDevice_onlyDevice : OnlyDevice device store (store.revokeDevice device) :=
  ⟨rfl, fun _ hother ↦ lookup_updateAt_of_ne
    (fun row : StoredDevice ↦ { row with active := false }) (fun _ ↦ rfl) hother⟩

theorem storedById_applyPolicyOverride (up down : ℤ) (p2p : Bool) (expires : ℤ) :
    (store.applyPolicyOverride device up down p2p expires).storedById device =
      (store.storedById device).map (Store.overriddenRow up down p2p expires) :=
  lookup_updateAt_self (Store.overriddenRow up down p2p expires) fun _ ↦ rfl

theorem applyPolicyOverride_onlyDevice (up down : ℤ) (p2p : Bool) (expires : ℤ) :
    OnlyDevice device store (store.applyPolicyOverride device up down p2p expires) :=
  ⟨rfl, fun _ hother ↦
    lookup_updateAt_of_ne (Store.overriddenRow up down p2p expires) (fun _ ↦ rfl) hother⟩

end

theorem onlyDevice_handle (hwrites : message.WritesTo device) :
    OnlyDevice device store (handle integrations store message now).1 := by
  cases message with
  | deviceUpsert data =>
    cases hwrites
    exact handle_deviceUpsert_onlyDevice data
  | quotaLease lease =>
    cases hwrites
    exact handle_quotaLease_onlyDevice lease
  | deviceRevoke data =>
    cases hwrites
    exact revokeDevice_onlyDevice store data.deviceId
  | policyOverride data =>
    cases hwrites
    simp only [handle]
    split_ifs
    · exact .refl _ _
    · exact applyPolicyOverride_onlyDevice store data.deviceId ..
  | _ => cases hwrites

theorem others_handle {target : DeviceId} (hwrites : message.WritesTo target)
    (hother : device ≠ target) :
    (handle integrations store message now).1.storedById device = store.storedById device :=
  (onlyDevice_handle hwrites).others device hother

theorem storedById_handle_other (hnot : ¬ message.WritesTo device) :
    (handle integrations store message now).1.storedById device = store.storedById device := by
  cases message with
  | deviceUpsert | quotaLease | deviceRevoke | policyOverride =>
    exact others_handle rfl (Ne.symm hnot)
  | sessionKick data => rfl
  | complianceFeed feed => rfl
  | usageAck eventIds =>
    rcases handle_usageAck_cases integrations store eventIds now with hsame | hmarked
    · rw [hsame]
    · rw [hmarked, Store.markUsageSent]
      split_ifs <;> rfl
  | certificateRotate rotation =>
    simp only [handle, handleCertificateRotate]
    repeat' split
    all_goals rfl
  | other type => rfl
  | malformed type error => rfl

theorem storedById_upsert {data : DeviceUpsert} {next : Store}
    (hnext : store.upsertDevice data.device = .ok next) :
    next.storedById data.deviceId =
      rowEffect (.deviceUpsert data) (store.storedById data.deviceId) := by
  have hwritten := Store.storedById_upsertDevice hnext
  rw [show data.device.id = data.deviceId from rfl] at hwritten
  rw [hwritten]
  cases store.storedById data.deviceId <;> rfl

variable {lease : QuotaLease} {row row' : StoredDevice}

theorem storedById_lease {next : Store} (hrow : store.storedById lease.deviceId = some row)
    (hnext : store.upsertDevice ((Store.scanDevice row).withLease lease) = .ok next) :
    next.storedById lease.deviceId =
      rowEffect (.quotaLease lease) (store.storedById lease.deviceId) := by
  have hid : ((Store.scanDevice row).withLease lease).id = lease.deviceId :=
    Store.storedById_id hrow
  have hwritten := Store.storedById_upsertDevice hnext
  rw [hid, hrow] at hwritten
  rw [hwritten, hrow]
  exact congrArg some (Store.conflictRow_scanDevice row lease.bytes lease.expiresAt)

theorem storedById_handle_cases (integrations : Integrations) (store : Store) (now : ℤ)
    (hwrites : message.WritesTo device) :
    ((handle integrations store message now).1.storedById device = store.storedById device ∧
        (handle integrations store message now).2 ≠ .ok ()) ∨
      (handle integrations store message now).1.storedById device =
        rowEffect message (store.storedById device) := by
  cases message with
  | deviceUpsert data =>
    cases hwrites
    rcases handle_deviceUpsert_eq integrations store data now with
      ⟨error, hhandle⟩ | ⟨next, hnext, hhandle⟩
    · exact .inl (by rw [hhandle]; exact ⟨rfl, fun hok ↦ by cases hok⟩)
    · exact .inr (by rw [hhandle]; exact storedById_upsert hnext)
  | quotaLease lease =>
    cases hwrites
    rcases handle_quotaLease_outcome integrations store lease now with
      ⟨-, error, hhandle⟩ | ⟨-, row, next, hrow, hnext, hhandle⟩
    · exact .inl (by rw [hhandle]; exact ⟨rfl, fun hok ↦ by cases hok⟩)
    · exact .inr (by rw [hhandle]; exact storedById_lease hrow hnext)
  | deviceRevoke data =>
    cases hwrites
    exact .inr (storedById_revokeDevice store data.deviceId)
  | policyOverride data =>
    cases hwrites
    simp only [handle]
    split_ifs
    · exact .inl ⟨rfl, fun hok ↦ by cases hok⟩
    · exact .inr (storedById_applyPolicyOverride store data.deviceId ..)
  | _ => cases hwrites

theorem upserted_rowEffect {row : Option StoredDevice}
    (heffect : rowEffect message row = some row') :
    (∃ old, row = some old ∧ row'.subscriptionEnds = old.subscriptionEnds ∧
        row'.credentialHash = old.credentialHash) ∨
      ∃ data, message = .deviceUpsert data ∧ row'.subscriptionEnds = unix data.subscriptionEnds ∧
        row'.credentialHash = data.credentialHash := by
  cases message with
  | deviceUpsert data =>
    refine .inr ⟨data, rfl, ?_⟩
    cases row <;> cases heffect <;> exact ⟨rfl, rfl⟩
  | quotaLease | deviceRevoke | policyOverride =>
    obtain ⟨old, hold, rfl⟩ := Option.map_eq_some_iff.mp heffect
    exact .inl ⟨old, hold, rfl, rfl⟩
  | _ => exact .inl ⟨row', heffect, rfl, rfl⟩

theorem subscriptionEnds_handle
    (hrow' : (handle integrations store message now).1.storedById device = some row') :
    (∃ row, store.storedById device = some row ∧
        row'.subscriptionEnds = row.subscriptionEnds) ∨
      ∃ data, message = .deviceUpsert data ∧ data.deviceId = device ∧
        row'.subscriptionEnds = unix data.subscriptionEnds := by
  by_cases hwrites : message.WritesTo device
  · rcases storedById_handle_cases integrations store now hwrites with ⟨hsame, -⟩ | heffect
    · exact .inl ⟨row', hsame.symm.trans hrow', rfl⟩
    · rcases upserted_rowEffect (heffect.symm.trans hrow') with
        ⟨old, hold, hends, -⟩ | ⟨data, rfl, hends, -⟩
      · exact .inl ⟨old, hold, hends⟩
      · exact .inr ⟨data, rfl, hwrites, hends⟩
  · rw [storedById_handle_other hwrites] at hrow'
    exact .inl ⟨row', hrow', rfl⟩

theorem storedById_handle_of_ok (hwrites : message.WritesTo device)
    (hok : (handle integrations store message now).2 = .ok ()) :
    (handle integrations store message now).1.storedById device =
      rowEffect message (store.storedById device) :=
  (storedById_handle_cases integrations store now hwrites).resolve_left fun hfailed ↦ hfailed.2 hok

theorem OnlyDevice.of_common {first second : Store} (hfirst : OnlyDevice device store first)
    (hsecond : OnlyDevice device store second) : OnlyDevice device first second :=
  ⟨hsecond.state.trans hfirst.state.symm,
    fun other hother ↦ (hsecond.others other hother).trans (hfirst.others other hother).symm⟩

theorem OnlyDevice.credentialFree_iff (honly : OnlyDevice device store store')
    {written : Device} (hid : written.id = device) :
    store'.CredentialFree written ↔ store.CredentialFree written := by
  rw [Store.credentialFree_iff, Store.credentialFree_iff]
  subst hid
  constructor
  · intro hfree id hother row hrow
    exact hfree id hother row ((honly.others id hother).trans hrow)
  · intro hfree id hother row hrow
    exact hfree id hother row ((honly.others id hother).symm.trans hrow)

theorem deviceUpsert_result_congr {data : DeviceUpsert}
    (honly : OnlyDevice data.deviceId store store')
    (heffect : rowEffect (.deviceUpsert data) (store'.storedById data.deviceId) =
      rowEffect (.deviceUpsert data) (store.storedById data.deviceId)) :
    (handle integrations store' (.deviceUpsert data) now).2 =
      (handle integrations store (.deviceUpsert data) now).2 := by
  have hiff : store'.CredentialFree data.device ↔ store.CredentialFree data.device :=
    honly.credentialFree_iff rfl
  simp only [handle, handleDeviceUpsert]
  split
  · rfl
  · split
    · rfl
    · by_cases hfree : store.CredentialFree data.device
      · obtain ⟨next, hnext⟩ := Store.upsertDevice_ok hfree
        obtain ⟨next', hnext'⟩ := Store.upsertDevice_ok (hiff.mpr hfree)
        have hfound : next'.deviceById data.deviceId = next.deviceById data.deviceId := by
          rw [Store.deviceById, Store.deviceById, storedById_upsert hnext,
            storedById_upsert hnext', heffect]
        simp only [hnext, hnext', hfound]
      · have hbusy : ¬ store'.CredentialFree data.device :=
          fun hfree' ↦ hfree (hiff.mp hfree')
        simp only [Store.upsertDevice, dif_neg hfree, dif_neg hbusy]

theorem withLease_congr
    (hsame : Store.leasedRow lease.bytes lease.expiresAt row' =
      Store.leasedRow lease.bytes lease.expiresAt row) :
    (Store.scanDevice row').withLease lease = (Store.scanDevice row).withLease lease := by
  obtain ⟨⟩ := row
  obtain ⟨⟩ := row'
  simp only [Store.leasedRow, StoredDevice.mk.injEq] at hsame
  obtain ⟨rfl, rfl, rfl, rfl, rfl, rfl, rfl, rfl, -, -, rfl, rfl, rfl, rfl⟩ := hsame
  rfl

theorem quotaLease_result_congr
    (honly : OnlyDevice lease.deviceId store store')
    (heffect : rowEffect (.quotaLease lease) (store'.storedById lease.deviceId) =
      rowEffect (.quotaLease lease) (store.storedById lease.deviceId)) :
    (handle integrations store' (.quotaLease lease) now).2 =
      (handle integrations store (.quotaLease lease) now).2 := by
  have hcheck : store'.checkLease integrations lease now =
      store.checkLease integrations lease now := by
    simp only [Store.checkLease, Store.quotaKey, honly.state]
  simp only [handle, handleQuotaLease, hcheck]
  split
  · rfl
  · simp only [rowEffect] at heffect
    cases hrow : store.storedById lease.deviceId with
    | none =>
      rw [hrow, Option.map_none, Option.map_eq_none_iff] at heffect
      simp [Store.deviceById, hrow, heffect]
    | some row =>
      rw [hrow, Option.map_some, Option.map_eq_some_iff] at heffect
      obtain ⟨row', hrow', hsame⟩ := heffect
      obtain ⟨next, hnext⟩ := upsertDevice_withLease hrow
      obtain ⟨next', hnext'⟩ := upsertDevice_withLease hrow'
      rw [withLease_congr hsame] at hnext'
      simp only [Store.deviceById, hrow, hrow', Option.map_some, withLease_congr hsame, hnext,
        hnext']

theorem handle_result_congr (hwrites : message.WritesTo device)
    (honly : OnlyDevice device store store')
    (heffect : rowEffect message (store'.storedById device) =
      rowEffect message (store.storedById device)) :
    (handle integrations store' message now).2 = (handle integrations store message now).2 := by
  cases message with
  | deviceUpsert data =>
    cases hwrites
    exact deviceUpsert_result_congr honly heffect
  | quotaLease lease =>
    cases hwrites
    exact quotaLease_result_congr honly heffect
  | deviceRevoke data => rfl
  | policyOverride data =>
    simp only [handle]
    split <;> rfl
  | _ => cases hwrites

theorem handleEach_concat {messages : List (Message × ℤ)} {middle : Store}
    (hmiddle : handleEach integrations store messages = some middle)
    (hok : (handle integrations middle message now).2 = .ok ()) :
    handleEach integrations store (messages ++ [(message, now)]) =
      some (handle integrations middle message now).1 := by
  induction messages generalizing store with
  | nil =>
    cases hmiddle
    rw [List.nil_append, handleEach]
    split
    · rename_i next hhandle
      rw [hhandle]
      rfl
    · rename_i hhandle
      rw [hhandle] at hok
      cases hok
  | cons first rest ih =>
    rw [List.cons_append]
    simp only [handleEach] at hmiddle ⊢
    split at hmiddle
    · exact ih hmiddle
    · cases hmiddle

end Effect

end RiseVpn
