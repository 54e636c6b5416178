import RiseVpn.Node.FeedsInForce
import RiseVpn.Node.UsageCounter

/-!
# What an answer says about the tables

The controller takes an `ack` for a command that is applied and a `nack` for one that is not.
`handleTables` is `Client.handle` on all tables of the node, with the compliance service, and counts
the kickers it calls. `Sure` is what the controller relies on: after an error every table is as
before, and after success the tables hold what the message commands (`Commanded`).

The handlers check first and write then, in one statement, so an error of a check touches nothing.
Two things break the rule. `device.upsert`, `quota.lease` and `device.revoke` write before they call
Xray and the kickers, and answer with the error of these calls although the row is written. And
`policy.override` updates the row of its device without looking whether there is one.
`CommandSure` excludes both, and `answer_sure_iff` says that the rule holds for exactly these
messages.

SQLite itself does not fail here.
-/

set_option autoImplicit false

namespace RiseVpn

open KeyedTable

/-! ### The handler on all tables -/

/-- The tables of a node: its own, with the devices, the state and the usage events, and those of
the compliance service. -/
structure NodeTables where
  store : Store
  compliance : ComplianceStore

/-- What a handler leaves: the tables, its answer, and the number of kickers it has called. -/
structure HandlerOutcome where
  tables : NodeTables
  answer : Except String Unit
  kicked : ℕ

/-- The loop of `Client.kick`, with the errors and the calls so far. -/
def kickLoop (id : DeviceId) : List (DeviceId → Except String Unit) → List String → ℕ →
    List String × ℕ
  | [], errors, calls => (errors, calls)
  | kicker :: rest, errors, calls =>
    match kicker id with
    | .ok () => kickLoop id rest errors (calls + 1)
    | .error message => kickLoop id rest (errors ++ [message]) (calls + 1)

/-- The kickers that a `device.revoke` or a `session.kick` calls. A `device.upsert` with another
credential calls them too, and looks neither at their number nor at their errors. -/
def kickedBy (integrations : Integrations) : Message → ℕ
  | .deviceRevoke data =>
    match integrations.provision fun provisioner ↦ provisioner.revoke data.deviceId with
    | .error _ => 0
    | .ok () => (kickLoop data.deviceId integrations.kickers [] 0).2
  | .sessionKick data =>
    if data.deviceId = "" ∨ integrations.provisioner.isNone ∧ integrations.kickers = [] then 0
    else match integrations.provision fun provisioner ↦ provisioner.kick data.deviceId with
    | .error _ => 0
    | .ok () => (kickLoop data.deviceId integrations.kickers [] 0).2
  | _ => 0

/-- `Client.handle` on all tables of a node. -/
def handleTables (tools : ComplianceTools) (integrations : Integrations) (tables : NodeTables)
    (message : Message) (now : ℤ) : HandlerOutcome :=
  match message with
  | .complianceFeed feed =>
    let applied := handleFeed tools tables.store tables.compliance ⟨feed, now⟩
    ⟨{ tables with compliance := applied.1 }, applied.2, 0⟩
  | message =>
    let handled := handle integrations tables.store message now
    ⟨{ tables with store := handled.1 }, handled.2, kickedBy integrations message⟩

theorem kickLoop_eq (id : DeviceId) (kickers : List (DeviceId → Except String Unit))
    (errors : List String) (calls : ℕ) :
    kickLoop id kickers errors calls =
      (errors ++ kickers.filterMap fun kicker ↦ match kicker id with
        | .ok () => none
        | .error message => some message, calls + kickers.length) := by
  induction kickers generalizing errors calls with
  | nil => simp [kickLoop]
  | cons kicker rest ih =>
    rw [kickLoop, List.filterMap_cons]
    cases kicker id with
    | ok => simp [ih, Nat.add_assoc, Nat.add_comm 1]
    | error message => simp [ih, Nat.add_assoc, Nat.add_comm 1]

theorem kicked_of_ok (integrations : Integrations) (id : DeviceId)
    (provisioned : Except String Unit) :
    (match provisioned with
      | .error message => Except.error message
      | .ok () => integrations.kick id) = .ok () →
    (match provisioned with
      | .error _ => 0
      | .ok () => (kickLoop id integrations.kickers [] 0).2) = integrations.kickers.length := by
  intro hok
  cases provisioned with
  | error message => cases hok
  | ok => simp [kickLoop_eq]

theorem kick_eq_ok_iff (integrations : Integrations) (id : DeviceId) :
    integrations.kick id = .ok () ↔ ∀ kicker ∈ integrations.kickers, kicker id = .ok () := by
  have herrors : (integrations.kickers.filterMap fun kicker ↦ match kicker id with
      | .ok () => none
      | .error message => some message) = [] ↔
        ∀ kicker ∈ integrations.kickers, kicker id = .ok () := by
    rw [List.filterMap_eq_nil_iff]
    refine forall₂_congr fun kicker _ ↦ ?_
    cases kicker id <;> simp
  rw [← herrors]
  unfold Integrations.kick
  dsimp only
  split_ifs with hnone
  · exact iff_of_true rfl hnone
  · exact iff_of_false (fun hok ↦ by cases hok) hnone

/-! ### What the controller relies on -/

/-- A row that says what a message commands: the message would leave it. -/
def Message.Stands (message : Message) (row : StoredDevice) : Prop :=
  rowEffect message (some row) = some row

/-- The tables hold what a message commands. A `device.revoke` and a `session.kick` have reached
every kicker; no message of another type is ever applied. -/
def Commanded (integrations : Integrations) (message : Message) (outcome : HandlerOutcome) : Prop :=
  match message with
  | .deviceUpsert data => ∃ row, outcome.tables.store.storedById data.deviceId = some row ∧
      message.Stands row
  | .quotaLease lease => ∃ row, outcome.tables.store.storedById lease.deviceId = some row ∧
      message.Stands row
  | .policyOverride data => ∃ row, outcome.tables.store.storedById data.deviceId = some row ∧
      message.Stands row
  | .deviceRevoke data =>
    (∀ row, outcome.tables.store.storedById data.deviceId = some row → row.active = false) ∧
      outcome.kicked = integrations.kickers.length
  | .sessionKick _ => outcome.kicked = integrations.kickers.length
  | .complianceFeed feed => outcome.tables.compliance.feed = some feed.row
  | .usageAck eventIds => ∀ event ∈ outcome.tables.store.usageEvents,
      (event.id : ℤ) ∈ ackedIds eventIds → event.sentAt ≠ none
  | .certificateRotate rotation =>
    outcome.tables.store.state "node_certificate" = some rotation.certificatePem ∧
      (rotation.controllerCa ≠ "" →
        outcome.tables.store.state "controller_ca" = some rotation.controllerCa)
  | .other _ | .malformed _ _ => False

/-- An error leaves every table as it was, and success means that the tables hold what the message
commands. -/
structure Sure (integrations : Integrations) (message : Message) (before : NodeTables)
    (outcome : HandlerOutcome) : Prop where
  nack : ∀ error, outcome.answer = .error error → outcome.tables = before
  ack : outcome.answer = .ok () → Commanded integrations message outcome

/-- The checks of a `device.upsert`, that of the `UNIQUE` column included. -/
def UpsertPasses (store : Store) (data : DeviceUpsert) : Prop :=
  data.deviceId ≠ "" ∧ data.credentialHash ≠ "" ∧ data.plan.policy ≠ none ∧
    store.CredentialFree data.device

/-- The row a `device.upsert` writes. -/
def upsertedRow (store : Store) (data : DeviceUpsert) : StoredDevice :=
  match store.storedById data.deviceId with
  | none => Store.insertedRow data.device
  | some row => Store.conflictRow data.device row

/-- The condition under which the answer to a message can be relied on. -/
def CommandSure (integrations : Integrations) (store : Store) (message : Message) (now : ℤ) :
    Prop :=
  match message with
  | .deviceUpsert data => UpsertPasses store data →
      (∃ row, store.storedById data.deviceId = some row ∧ message.Stands row) ∨
      integrations.provision (fun provisioner ↦
        provisioner.upsert (Store.scanDevice (upsertedRow store data))) = .ok ()
  | .quotaLease lease => LeaseAccepted integrations store lease now →
      ∀ row, store.storedById lease.deviceId = some row → message.Stands row ∨
        integrations.provision (fun provisioner ↦
          provisioner.upsert ((Store.scanDevice row).withLease lease)) = .ok ()
  | .deviceRevoke data =>
    (∀ row, store.storedById data.deviceId = some row → row.active = false) ∨
      integrations.provision (fun provisioner ↦ provisioner.revoke data.deviceId) = .ok () ∧
        ∀ kicker ∈ integrations.kickers, kicker data.deviceId = .ok ()
  | .policyOverride data => data.deviceId ≠ "" → now < data.expiresAt →
      store.storedById data.deviceId ≠ none
  | _ => True

section Outcomes

variable {integrations : Integrations} {message : Message} {before : NodeTables}
  {outcome : HandlerOutcome}

theorem sure_iff_of_commanded
    (hcommanded : outcome.answer = .ok () → Commanded integrations message outcome) :
    Sure integrations message before outcome ↔
      outcome.tables = before ∨ outcome.answer = .ok () := by
  constructor
  · intro hsure
    cases hanswer : outcome.answer with
    | ok => exact .inr rfl
    | error error => exact .inl (hsure.nack error hanswer)
  · intro hcases
    refine ⟨fun error herror ↦ hcases.resolve_right fun hok ↦ ?_, hcommanded⟩
    rw [hok] at herror
    cases herror

theorem Sure.refused {error : String} (hanswer : outcome.answer = .error error)
    (htables : outcome.tables = before) : Sure integrations message before outcome := by
  refine (sure_iff_of_commanded fun hok ↦ ?_).mpr (.inl htables)
  rw [hanswer] at hok
  cases hok

theorem Sure.applied (hanswer : outcome.answer = .ok ())
    (hcommanded : Commanded integrations message outcome) :
    Sure integrations message before outcome :=
  (sure_iff_of_commanded fun _ ↦ hcommanded).mpr (.inr hanswer)

theorem NodeTables.withStore_eq_iff (tables : NodeTables) (store : Store) :
    { tables with store } = tables ↔ store = tables.store := by
  constructor
  · exact fun hsame ↦ congrArg NodeTables.store hsame
  · rintro rfl
    rfl

end Outcomes

/-! ### Writes that change nothing -/

theorem Store.withDevices_eq_self {store : Store} {devices : DeviceTable}
    (hrows : devices.rows = store.devices.rows) : { store with devices } = store := by
  obtain ⟨state, ⟨rows, hids, hhashes⟩, usageEvents, lastUsageId⟩ := store
  obtain ⟨rows', hids', hhashes'⟩ := devices
  cases hrows
  rfl

theorem upsertDevice_eq_self_iff {store next : Store} {device : Device}
    (hnext : store.upsertDevice device = .ok next) :
    next = store ↔ ∃ row, store.storedById device.id = some row ∧
      Store.conflictRow device row = row := by
  constructor
  · rintro rfl
    have hwritten := Store.storedById_upsertDevice hnext
    cases hrow : next.storedById device.id with
    | none =>
      rw [hrow] at hwritten
      cases hwritten
    | some row =>
      rw [hrow] at hwritten
      exact ⟨row, rfl, (Option.some.inj hwritten).symm⟩
  · rintro ⟨row, hrow, hsame⟩
    unfold Store.upsertDevice at hnext
    split_ifs at hnext with hfree hnew
    · exact absurd (lookup_some_key hrow) (hnew row (lookup_some_mem hrow))
    · obtain rfl := Except.ok.inj hnext
      have hfixed : (store.storedById device.id).map (Store.conflictRow device) =
          store.storedById device.id := by
        rw [hrow, Option.map_some, hsame]
      exact Store.withDevices_eq_self (updateAt_eq_self _ store.devices.ids_nodup hfixed)

theorem revokeDevice_eq_self_iff (store : Store) (id : DeviceId) :
    store.revokeDevice id = store ↔
      ∀ row, store.storedById id = some row → row.active = false := by
  constructor
  · intro hsame row hrow
    have hrevoked := storedById_revokeDevice store id
    rw [hsame, hrow, Option.map_some] at hrevoked
    exact congrArg StoredDevice.active (Option.some.inj hrevoked)
  · intro hinactive
    refine Store.withDevices_eq_self (updateAt_eq_self _ store.devices.ids_nodup ?_)
    change (store.storedById id).map _ = store.storedById id
    cases hrow : store.storedById id with
    | none => rfl
    | some row =>
      have hactive := hinactive row hrow
      obtain ⟨deviceId, hash, plan, active⟩ := row
      cases hactive
      rfl

/-! ### The messages that write before they call -/

section Writers

variable {tools : ComplianceTools} {integrations : Integrations} {tables : NodeTables} {now : ℤ}

theorem handle_deviceUpsert_outcome (integrations : Integrations) (store : Store)
    (data : DeviceUpsert) (now : ℤ) :
    (¬ UpsertPasses store data ∧
      ∃ error, handle integrations store (.deviceUpsert data) now = (store, .error error)) ∨
    (UpsertPasses store data ∧ ∃ next,
      store.upsertDevice data.device = .ok next ∧
      handle integrations store (.deviceUpsert data) now =
        (next, integrations.provision fun provisioner ↦
          provisioner.upsert (Store.scanDevice (upsertedRow store data)))) := by
  simp only [handle, handleDeviceUpsert]
  split
  · rename_i hmalformed
    refine .inl ⟨fun hpasses ↦ ?_, _, rfl⟩
    exact hmalformed.elim hpasses.1 hpasses.2.1
  · rename_i hformed
    obtain ⟨hid, hhash⟩ := not_or.mp hformed
    split
    · rename_i hplan
      exact .inl ⟨fun hpasses ↦ hpasses.2.2.1 hplan, _, rfl⟩
    · rename_i policy hplan
      split
      · rename_i message hfailed
        refine .inl ⟨fun hpasses ↦ ?_, _, rfl⟩
        obtain ⟨next, hnext⟩ := Store.upsertDevice_ok hpasses.2.2.2
        rw [hnext] at hfailed
        cases hfailed
      · rename_i next hnext
        have hknown : data.plan.policy ≠ none := by
          intro hunknown
          cases hunknown.symm.trans hplan
        have hfound : next.deviceById data.deviceId =
            some (Store.scanDevice (upsertedRow store data)) := by
          rw [Store.deviceById]
          exact congrArg (Option.map Store.scanDevice) (Store.storedById_upsertDevice hnext)
        have hfree := Store.credentialFree_of_upsertDevice hnext
        refine .inr ⟨⟨hid, hhash, hknown, hfree⟩, next, hnext, ?_⟩
        rw [hfound]

theorem stands_of_effect {message : Message} {row : Option StoredDevice} {row' : StoredDevice}
    (heffect : rowEffect message row = some row') : message.Stands row' := by
  rw [Message.Stands, ← heffect, rowEffect_rowEffect]

section

variable {message : Message} (hmessage : ∀ feed, message ≠ .complianceFeed feed) {next : Store}
  {answer : Except String Unit}
  (hhandle : handle integrations tables.store message now = (next, answer))

include hmessage hhandle

theorem handleTables_eq :
    handleTables tools integrations tables message now =
      ⟨{ tables with store := next }, answer, kickedBy integrations message⟩ := by
  unfold handleTables
  split
  · exact absurd rfl (hmessage _)
  · rw [hhandle]

theorem sure_written_iff
    (hcommanded : answer = .ok () → Commanded integrations message ⟨{ tables with store := next },
      answer, kickedBy integrations message⟩) :
    Sure integrations message tables (handleTables tools integrations tables message now) ↔
      next = tables.store ∨ answer = .ok () := by
  rw [handleTables_eq hmessage hhandle, sure_iff_of_commanded hcommanded,
    NodeTables.withStore_eq_iff]

end

theorem sure_deviceUpsert (data : DeviceUpsert) :
    Sure integrations (.deviceUpsert data) tables
        (handleTables tools integrations tables (.deviceUpsert data) now) ↔
      CommandSure integrations tables.store (.deviceUpsert data) now := by
  have hmessage (feed : SignedFeed) : Message.deviceUpsert data ≠ .complianceFeed feed := by
    intro hsame
    cases hsame
  rcases handle_deviceUpsert_outcome integrations tables.store data now with
    ⟨hfails, error, hhandle⟩ | ⟨hpasses, next, hnext, hhandle⟩
  · rw [handleTables_eq hmessage hhandle]
    exact iff_of_true (.refused rfl rfl) fun hpasses ↦ absurd hpasses hfails
  · have hwritten := Store.storedById_upsertDevice hnext
    have hstands (row : StoredDevice) : (Message.deviceUpsert data).Stands row ↔
        Store.conflictRow data.device row = row := Option.some_inj
    rw [sure_written_iff hmessage hhandle fun _ ↦
      ⟨_, hwritten, stands_of_effect ((storedById_upsert hnext).symm.trans hwritten)⟩,
      upsertDevice_eq_self_iff hnext]
    simp only [CommandSure, hstands]
    exact ⟨fun hsure _ ↦ hsure, fun hsure ↦ hsure hpasses⟩

theorem sure_quotaLease (lease : QuotaLease) :
    Sure integrations (.quotaLease lease) tables
        (handleTables tools integrations tables (.quotaLease lease) now) ↔
      CommandSure integrations tables.store (.quotaLease lease) now := by
  have hmessage (feed : SignedFeed) : Message.quotaLease lease ≠ .complianceFeed feed := by
    intro hsame
    cases hsame
  rcases handle_quotaLease_outcome integrations tables.store lease now with
    ⟨hfails, error, hhandle⟩ | ⟨haccepted, row, next, hrow, hnext, hhandle⟩
  · rw [handleTables_eq hmessage hhandle]
    refine iff_of_true (.refused rfl rfl) fun haccepted row hrow ↦ ?_
    rcases hfails with hnot | hmissing
    · exact absurd haccepted hnot
    · cases hmissing.symm.trans hrow
  · have hwritten := storedById_lease hrow hnext
    rw [hrow] at hwritten
    have heffect : rowEffect (.quotaLease lease) (some row) =
        some (Store.leasedRow lease.bytes lease.expiresAt row) := rfl
    have hstands (row : StoredDevice) : (Message.quotaLease lease).Stands row ↔
        Store.leasedRow lease.bytes lease.expiresAt row = row := Option.some_inj
    have hsame : next = tables.store ↔ Store.leasedRow lease.bytes lease.expiresAt row = row := by
      rw [upsertDevice_eq_self_iff hnext,
        show ((Store.scanDevice row).withLease lease).id = lease.deviceId from
          Store.storedById_id hrow, hrow]
      simp only [Option.some.injEq, exists_eq_left']
      exact Eq.congr_left (Store.conflictRow_scanDevice row lease.bytes lease.expiresAt)
    rw [sure_written_iff hmessage hhandle fun _ ↦
      ⟨_, hwritten, stands_of_effect heffect⟩, hsame]
    simp only [CommandSure, hstands, hrow, Option.some.injEq, forall_eq']
    exact ⟨fun hsure _ ↦ hsure, fun hsure ↦ hsure haccepted⟩

theorem sure_deviceRevoke (data : DeviceRef) :
    Sure integrations (.deviceRevoke data) tables
        (handleTables tools integrations tables (.deviceRevoke data) now) ↔
      CommandSure integrations tables.store (.deviceRevoke data) now := by
  have hmessage (feed : SignedFeed) : Message.deviceRevoke data ≠ .complianceFeed feed := by
    intro hsame
    cases hsame
  have hinactive (row : StoredDevice) (hrow : (tables.store.revokeDevice data.deviceId).storedById
      data.deviceId = some row) : row.active = false := by
    rw [storedById_revokeDevice] at hrow
    obtain ⟨old, -, rfl⟩ := Option.map_eq_some_iff.mp hrow
    rfl
  rw [sure_written_iff hmessage rfl, revokeDevice_eq_self_iff]
  · refine or_congr_right ?_
    rw [← kick_eq_ok_iff]
    cases integrations.provision fun provisioner ↦ provisioner.revoke data.deviceId with
    | error message => simp
    | ok => simp
  · intro hok
    exact ⟨hinactive, kicked_of_ok integrations data.deviceId _ hok⟩

theorem sure_policyOverride (data : PolicyOverride) :
    Sure integrations (.policyOverride data) tables
        (handleTables tools integrations tables (.policyOverride data) now) ↔
      CommandSure integrations tables.store (.policyOverride data) now := by
  have hmessage (feed : SignedFeed) : Message.policyOverride data ≠ .complianceFeed feed := by
    intro hsame
    cases hsame
  by_cases hinvalid : data.deviceId = "" ∨ ¬ now < data.expiresAt
  · have hhandle : handle integrations tables.store (.policyOverride data) now =
        (tables.store, .error "invalid policy override") := if_pos hinvalid
    rw [handleTables_eq hmessage hhandle]
    refine iff_of_true (.refused rfl rfl) fun hid hexpires ↦ ?_
    exact absurd hinvalid (not_or.mpr ⟨hid, not_not_intro hexpires⟩)
  · obtain ⟨hid, hexpires⟩ := not_or.mp hinvalid
    have hhandle : handle integrations tables.store (.policyOverride data) now =
        (tables.store.applyPolicyOverride data.deviceId data.upBps data.downBps data.p2pAllowed
          data.expiresAt, .ok ()) := if_neg hinvalid
    have happlied := storedById_applyPolicyOverride tables.store data.deviceId data.upBps
      data.downBps data.p2pAllowed data.expiresAt
    rw [handleTables_eq hmessage hhandle]
    constructor
    · intro hsure _ _ hmissing
      -- success commands a row, and an update cannot make one
      obtain ⟨row, hrow, -⟩ := hsure.ack rfl
      rw [happlied, hmissing] at hrow
      cases hrow
    · intro hsure
      obtain ⟨row, hrow⟩ := Option.ne_none_iff_exists'.mp (hsure hid (not_not.mp hexpires))
      have heffect : rowEffect (.policyOverride data) (some row) = some
          (Store.overriddenRow data.upBps data.downBps data.p2pAllowed data.expiresAt row) := rfl
      rw [hrow] at happlied
      exact .applied rfl ⟨_, happlied, stands_of_effect heffect⟩

end Writers

/-! ### The messages that keep the rule -/

section Safe

variable {tools : ComplianceTools} {integrations : Integrations} {tables : NodeTables} {now : ℤ}

theorem sure_sessionKick (data : DeviceRef) :
    Sure integrations (.sessionKick data) tables
      (handleTables tools integrations tables (.sessionKick data) now) := by
  refine ⟨fun _ _ ↦ rfl, fun hok ↦ ?_⟩
  change (if data.deviceId = "" then _ else if _ then _ else _) = _ at hok
  change kickedBy integrations (.sessionKick data) = _
  unfold kickedBy
  dsimp only
  split_ifs at hok with hid hkickers
  rw [if_neg (not_or.mpr ⟨hid, hkickers⟩)]
  exact kicked_of_ok integrations data.deviceId _ hok

theorem sure_complianceFeed (feed : SignedFeed) :
    Sure integrations (.complianceFeed feed) tables
      (handleTables tools integrations tables (.complianceFeed feed) now) := by
  unfold handleTables handleFeed
  dsimp only
  split
  · exact .refused rfl rfl
  · unfold ComplianceStore.apply
    split
    · exact .refused rfl rfl
    · exact .applied rfl rfl

theorem sure_usageAck (eventIds : List RawEventId) :
    Sure integrations (.usageAck eventIds) tables
      (handleTables tools integrations tables (.usageAck eventIds) now) := by
  unfold handleTables handle
  dsimp only
  split_ifs
  · exact .refused rfl rfl
  · refine .applied rfl fun event hevent hacked ↦ ?_
    change event ∈ (tables.store.markUsageSent (ackedIds eventIds) now).usageEvents at hevent
    rw [Store.markUsageSent_usageEvents] at hevent
    obtain ⟨old, -, rfl⟩ := List.mem_map.mp hevent
    rw [Store.markedRow_id] at hacked
    rw [Store.markedRow, if_pos hacked]
    exact Option.some_ne_none _

theorem sure_certificateRotate (rotation : CertificateRotate) :
    Sure integrations (.certificateRotate rotation) tables
      (handleTables tools integrations tables (.certificateRotate rotation) now) := by
  unfold handleTables handle
  dsimp only
  rcases handleCertificateRotate_eq integrations tables.store rotation now with
    ⟨error, hrefused⟩ | ⟨-, hstored⟩
  · rw [hrefused]
    exact .refused rfl rfl
  · rw [hstored]
    refine .applied rfl ⟨?_, fun hca ↦ ?_⟩
    · dsimp only
      split_ifs <;> simp [Store.setStates]
    · dsimp only
      rw [if_neg hca]
      simp [Store.setStates]

theorem sure_other (type : String) :
    Sure integrations (.other type) tables
      (handleTables tools integrations tables (.other type) now) := .refused rfl rfl

theorem sure_malformed (type error : String) :
    Sure integrations (.malformed type error) tables
      (handleTables tools integrations tables (.malformed type error) now) := .refused rfl rfl

end Safe

/-- For every message, all tables, and all outcomes of the external calls: an error leaves every
table as it was and success means that the message is applied, exactly when the message passes no
check, or its row stands already, or every external call after the write succeeds, and an override
names a device of the table. -/
theorem answer_sure_iff (tools : ComplianceTools) (integrations : Integrations)
    (tables : NodeTables) (message : Message) (now : ℤ) :
    Sure integrations message tables (handleTables tools integrations tables message now) ↔
      CommandSure integrations tables.store message now := by
  cases message with
  | deviceUpsert data => exact sure_deviceUpsert data
  | quotaLease lease => exact sure_quotaLease lease
  | deviceRevoke data => exact sure_deviceRevoke data
  | policyOverride data => exact sure_policyOverride data
  | sessionKick data => exact iff_of_true (sure_sessionKick data) trivial
  | complianceFeed feed => exact iff_of_true (sure_complianceFeed feed) trivial
  | usageAck eventIds => exact iff_of_true (sure_usageAck eventIds) trivial
  | certificateRotate rotation => exact iff_of_true (sure_certificateRotate rotation) trivial
  | other type => exact iff_of_true (sure_other type) trivial
  | malformed type error => exact iff_of_true (sure_malformed type error) trivial

def deafIntegrations : Integrations :=
  { soloIntegrations with
    provisioner := some ⟨fun _ ↦ .error "xray", fun _ ↦ .error "xray", fun _ ↦ .error "xray"⟩ }

def emptyTables : NodeTables := ⟨soloStore, ⟨none, none⟩⟩

def suppliedTables : NodeTables :=
  (handleTables plainTools soloIntegrations emptyTables (.deviceUpsert soloUpsert) 0).tables

theorem answer_sure_supplied :
    Sure deafIntegrations (.deviceUpsert soloUpsert) suppliedTables
        (handleTables plainTools deafIntegrations suppliedTables (.deviceUpsert soloUpsert) 0) ∧
      Sure deafIntegrations (.policyOverride ⟨"device", 1, 1, false, day⟩) suppliedTables
        (handleTables plainTools deafIntegrations suppliedTables
          (.policyOverride ⟨"device", 1, 1, false, day⟩) 0) := by
  constructor
  · exact (answer_sure_iff plainTools deafIntegrations suppliedTables _ 0).mpr fun _ ↦
      .inl ⟨_, rfl, rfl⟩
  · refine (answer_sure_iff plainTools deafIntegrations suppliedTables _ 0).mpr ?_
    intro _ _ hmissing
    cases hmissing

/-- With Xray down, a device is refused and nevertheless in the table; and an override for a device
that is not in the table is acknowledged and nowhere. -/
theorem refused_device_is_stored :
    emptyTables.store.storedById "device" = none ∧
      (handleTables plainTools deafIntegrations emptyTables (.deviceUpsert soloUpsert) 0).answer =
        .error "xray" ∧
      (handleTables plainTools deafIntegrations emptyTables
        (.deviceUpsert soloUpsert) 0).tables.store.storedById "device" ≠ none ∧
      (handleTables plainTools soloIntegrations emptyTables
        (.policyOverride ⟨"device", 1, 1, false, day⟩) 0).answer = .ok () ∧
      (handleTables plainTools soloIntegrations emptyTables
        (.policyOverride ⟨"device", 1, 1, false, day⟩) 0).tables.store.storedById "device" =
          none := by
  refine ⟨rfl, rfl, ?_, rfl, rfl⟩
  intro hmissing
  cases hmissing

end RiseVpn
