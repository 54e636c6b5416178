import RiseVpn.Node.DeviceCommands
import RiseVpn.Node.Enrollment

/-!
# Enrolment tokens are used once

Any number of `Ensure`, `Current`, `Reenroll` and `Claim` calls run at the same time on the tables
of a node, one statement at a time, while the control client handles messages and the other parts of
the node store their values. `EnrollmentWorld` keeps next to the tables what has happened so far:
the tokens that were issued and the claims that were stored, the newest first, and whether a
certificate was rotated since.

`EnrollmentWorld.Sound` ties the row to the newest entry: it has the token that was issued last, and
is unclaimed as long as no claim was stored since. A claim therefore finds the row only with the
token that was issued last, and only once. `tokens_single_use` is the result for every interleaving:
a stored claim directly follows the issue of its token, and the four values of the controller come
from the claim that was stored last. A call that overlaps with the claim (`Overlaps`) may answer
with the token after it, as in `current_reveals_claimed`: it has read the row before, or is inside
`Reenroll`, which an `Ensure` enters by itself. Without such calls no token is revealed until
`Reenroll` is called.
-/

set_option autoImplicit false

namespace RiseVpn

open Threads GuardedRun

/-! ### The system -/

inductive EnrollmentEntry
  | issued (token : String)
  | claimed (request : ClaimRequest)
  deriving DecidableEq

/-- The tables with what has happened to them. `rotated` says that a certificate was rotated since
the last claim. -/
structure EnrollmentWorld where
  tables : EnrollmentTables
  entries : List EnrollmentEntry
  rotated : Bool

def EnrollmentPhase.entry (phase phase' : EnrollmentPhase) : Option EnrollmentEntry :=
  match phase with
  | .replace =>
    match phase' with
    | .bundleId token _ => some (.issued token)
    | _ => none
  | .claiming request =>
    match phase' with
    | .optionalKeys _ => some (.claimed request)
    | _ => none
  | _ => none

def EnrollmentWorld.record (world : EnrollmentWorld) (tables : EnrollmentTables) :
    Option EnrollmentEntry → EnrollmentWorld
  | none => { world with tables }
  | some (.issued token) => { world with tables, entries := .issued token :: world.entries }
  | some (.claimed request) => ⟨tables, .claimed request :: world.entries, false⟩

def serviceKeys : List String :=
  ["online_devices", "online_connections", "reality_public_key", "reality_short_id",
    "xray_transport"]

inductive EnrollmentChange
  | message (message : Message) (now : ℤ)
  | setState (key value : String)

def rotates (message : Message) (answer : Except String Unit) : Bool :=
  match message, answer with
  | .certificateRotate _, .ok () => true
  | _, _ => false

def enrollmentMachine (service : EnrollmentService) (integrations : Integrations) :
    Machine EnrollmentWorld EnrollmentCall EnrollmentPhase EnrollmentInput EnrollmentChange where
  enter := fun _ call ↦ call.enter
  advance := fun world phase input ↦
    (phase.next service world.tables input).map fun result ↦
      (world.record result.1 (phase.entry result.2), result.2)
  change := fun world change ↦
    match change with
    | .message message now =>
      let result := handle integrations world.tables.store message now
      some { world with
        tables := { world.tables with store := result.1 }
        rotated := world.rotated || rotates message result.2 }
    | .setState key value =>
      if key ∈ serviceKeys then
        some { world with tables := world.tables.setStates [(key, value)] }
      else none

abbrev EnrollmentSystem := System ℕ EnrollmentWorld EnrollmentPhase

abbrev EnrollmentEvent := Event ℕ EnrollmentCall EnrollmentInput EnrollmentChange

def unenrolled (store : Store) : EnrollmentSystem := .idle ⟨⟨store, none⟩, [], false⟩

/-! ### What the entries say -/

def lastClaim (entries : List EnrollmentEntry) : Option ClaimRequest :=
  entries.findSome? fun entry ↦
    match entry with
    | .claimed request => some request
    | .issued _ => none

def issuedTokens (entries : List EnrollmentEntry) : List String :=
  entries.filterMap fun entry ↦
    match entry with
    | .issued token => some token
    | .claimed _ => none

def claimedTokens (entries : List EnrollmentEntry) : List String :=
  entries.filterMap fun entry ↦
    match entry with
    | .claimed request => some request.claimToken
    | .issued _ => none

/-- Every stored claim directly follows the issue of its token: no other claim was stored and no
other token was issued in between. -/
def UsedOnce (entries : List EnrollmentEntry) : Prop :=
  ∀ newer request older, entries = newer ++ .claimed request :: older →
    older.head? = some (.issued request.claimToken)

/-- The four values of the controller are those of a request, the certificates as long as none was
rotated. -/
structure ComesFrom (request : ClaimRequest) (world : EnrollmentWorld) : Prop where
  url : world.tables.store.state "controller_url" = some request.controllerUrl
  publicKey : world.tables.store.state "controller_public_key" = some request.controllerPublicKey
  certificate : world.rotated = false →
    world.tables.store.state "node_certificate" = some request.nodeCertificatePem
  ca : world.rotated = false →
    world.tables.store.state "controller_ca" = some request.controllerCaPem

def RowOf (hash : String → String) (entries : List EnrollmentEntry)
    (enrollment : Option EnrollmentRow) : Prop :=
  match entries with
  | [] => enrollment = none
  | .issued token :: _ => ∃ expires, enrollment = some ⟨token, hash token, expires, none⟩
  | .claimed _ :: _ => ∃ row, enrollment = some row ∧ row.claimedAt ≠ none

structure EnrollmentWorld.Sound (service : EnrollmentService) (world : EnrollmentWorld) : Prop where
  row : RowOf service.hash world.entries world.tables.enrollment
  once : UsedOnce world.entries
  trust : ∀ request ∈ lastClaim world.entries, ComesFrom request world

def EnrollmentPhase.Holds : EnrollmentPhase → Prop
  | .bundleId _ _ | .bundleKey _ _ _ | .revealed _ _ => True
  | _ => False

def EnrollmentPhase.Reveals : EnrollmentPhase → Prop
  | .revealed _ _ => True
  | _ => False

def EnrollmentPhase.stored : EnrollmentPhase → Option ClaimRequest
  | .optionalKeys request | .accepted request => some request
  | _ => none

/-- A call inside `Reenroll`, before it has issued its token. -/
def EnrollmentPhase.Reenrolls : EnrollmentPhase → Prop
  | .privateKey caller | .publicKey caller _ | .nodeId caller _ _ | .identity caller =>
    caller = .reenroll
  | .replace => True
  | _ => False

instance (phase : EnrollmentPhase) : Decidable phase.Reenrolls := by
  unfold EnrollmentPhase.Reenrolls
  split <;> infer_instance

instance (phase : EnrollmentPhase) : Decidable phase.Holds := by
  cases phase <;> first | exact isTrue trivial | exact isFalse id

instance (phase : EnrollmentPhase) : Decidable phase.Reveals := by
  cases phase <;> first | exact isTrue trivial | exact isFalse id

/-- The step is not a call of `Reenroll`. -/
def NotReenroll (_system : EnrollmentSystem) (event : EnrollmentEvent) (_next : EnrollmentSystem) :
    Prop := ∀ slot, event ≠ .start slot .reenroll

/-- A call that has read the row before and not answered yet, or is inside `Reenroll`. -/
def EnrollmentPhase.Overlaps (phase : EnrollmentPhase) : Prop :=
  (phase.Holds ∧ ¬ phase.Reveals) ∨ phase.Reenrolls
  deriving Decidable

/-- Of the calls of a later system, only those have answered with a token that had done so
before. -/
def NoneRevealed (system later : EnrollmentSystem) : Prop :=
  ∀ slot phase, later.threads slot = some phase → phase.Reveals →
    ∃ before, system.threads slot = some before ∧ before.Reveals

/-- Of the calls of a later system, only those have a token that had one before. -/
def HeldBefore (system later : EnrollmentSystem) : Prop :=
  ∀ slot phase, later.threads slot = some phase → phase.Holds →
    ∃ before, system.threads slot = some before ∧ before.Holds

/-! ### One statement -/

section Statement

variable {service : EnrollmentService} {tables tables' : EnrollmentTables}
  {phase phase' : EnrollmentPhase} {input : EnrollmentInput}

def trustKeys : List String :=
  ["controller_url", "controller_public_key", "node_certificate", "controller_ca"]

structure SameTrust (tables tables' : EnrollmentTables) : Prop where
  enrollment : tables'.enrollment = tables.enrollment
  state : ∀ key ∈ trustKeys, tables'.store.state key = tables.store.state key

theorem SameTrust.of_eq (hsame : tables' = tables) : SameTrust tables tables' := by
  subst hsame
  exact ⟨rfl, fun _ _ ↦ rfl⟩

theorem SameTrust.setStates (tables : EnrollmentTables) {values : List (String × String)}
    (hvalues : ∀ entry ∈ values, entry.1 ∉ trustKeys) :
    SameTrust tables (tables.setStates values) :=
  ⟨rfl, Store.state_setStates_of_notMem hvalues⟩

theorem optionalKeys_notMem_trustKeys (request : ClaimRequest) :
    ∀ entry ∈ request.optionalKeys, entry.1 ∉ trustKeys := by
  unfold ClaimRequest.optionalKeys
  split_ifs <;> simp [trustKeys]

variable (service : EnrollmentService) (tables : EnrollmentTables) in
inductive EnrollmentStep : EnrollmentPhase → EnrollmentTables → EnrollmentPhase → Prop
  | fail (phase : EnrollmentPhase) (message : String) :
    EnrollmentStep phase tables (.failed message)
  | readPrivate (caller : IdentityCaller) (stored : Option String) :
    EnrollmentStep (.privateKey caller) tables (.publicKey caller stored)
  | readPublic (caller : IdentityCaller) (stored : Option String) (hasPublic : Bool) :
    EnrollmentStep (.publicKey caller stored) tables (.nodeId caller stored hasPublic)
  | complete (caller : IdentityCaller) (stored : Option String) (hasPublic : Bool) :
    EnrollmentStep (.nodeId caller stored hasPublic) tables caller.identified
  | missing (caller : IdentityCaller) (stored : Option String) (hasPublic : Bool) :
    EnrollmentStep (.nodeId caller stored hasPublic) tables (.identity caller)
  | generate (caller : IdentityCaller) (values : List (String × String))
    (hvalues : ∀ entry ∈ values, entry.1 ∉ trustKeys) :
    EnrollmentStep (.identity caller) (tables.setStates values) caller.identified
  | ensureClaimed : EnrollmentStep .ensureRow tables .nothing
  | ensureRenews (hrow : ∀ row ∈ tables.enrollment, row.claimedAt = none) :
    EnrollmentStep .ensureRow tables (.privateKey .reenroll)
  | ensureReads (row : EnrollmentRow) (hrow : row ∈ tables.enrollment)
    (hunclaimed : row.claimedAt = none) :
    EnrollmentStep .ensureRow tables (.bundleId row.token (ofUnix row.expiresAt))
  | currentReads (row : EnrollmentRow) (hrow : row ∈ tables.enrollment)
    (hunclaimed : row.claimedAt = none) :
    EnrollmentStep .currentRow tables (.bundleId row.token (ofUnix row.expiresAt))
  | issue (token : String) (expires : ℤ) : EnrollmentStep .replace
      (tables.replaceEnrollment token (service.hash token) expires) (.bundleId token expires)
  | readId (token : String) (expires : ℤ) (id : NodeId) :
    EnrollmentStep (.bundleId token expires) tables (.bundleKey token expires id)
  | reveal (token : String) (expires : ℤ) (id : NodeId) (bundle : Bundle) (text : String) :
    EnrollmentStep (.bundleKey token expires id) tables (.revealed bundle text)
  | checked (request : ClaimRequest) : EnrollmentStep (.check request) tables (.claiming request)
  | claim (request : ClaimRequest) (row : EnrollmentRow) (now : ℤ) (hrow : row ∈ tables.enrollment)
    (hclaimable : row.Claimable (service.hash request.claimToken) now) :
    EnrollmentStep (.claiming request) (tables.claimed request row now) (.optionalKeys request)
  | keys (request : ClaimRequest) : EnrollmentStep (.optionalKeys request)
      (tables.setStates request.optionalKeys) (.accepted request)

theorem EnrollmentStep.execute {result : EnrollmentTables × EnrollmentPhase}
    (hstep : EnrollmentStep service tables phase result.1 result.2) :
    EnrollmentStep service tables phase (input.execute tables result).1
      (input.execute tables result).2 := by
  unfold EnrollmentInput.execute
  split
  · exact .fail phase _
  · exact hstep

theorem EnrollmentStep.identify (caller : IdentityCaller) (stored : Option String)
    (hasPublic hasId : Bool) :
    EnrollmentStep service tables (.nodeId caller stored hasPublic) tables
      (.identify caller stored hasPublic hasId) := by
  unfold EnrollmentPhase.identify
  split_ifs
  · exact .complete caller stored hasPublic
  · exact .fail _ _
  · exact .missing caller stored hasPublic

theorem EnrollmentStep.ensured (now : ℤ) :
    EnrollmentStep service tables .ensureRow tables (.ensured tables.enrollment now) := by
  unfold EnrollmentPhase.ensured
  split
  · rename_i hnone
    refine .ensureRenews fun row hrow ↦ ?_
    rw [hnone] at hrow
    cases hrow
  · rename_i row hrow
    split_ifs with hclaimed hexpired
    · exact .ensureClaimed
    · exact .ensureReads row hrow (Option.not_isSome_iff_eq_none.mp hclaimed)
    · refine .ensureRenews fun other hother ↦ ?_
      rw [hrow] at hother
      cases hother
      exact Option.not_isSome_iff_eq_none.mp hclaimed

theorem EnrollmentStep.currently (now : ℤ) :
    EnrollmentStep service tables .currentRow tables (.currently tables.enrollment now) := by
  unfold EnrollmentPhase.currently
  split
  · exact .fail _ _
  · rename_i row hrow
    split_ifs with hclaimed hexpired
    · exact .fail _ _
    · exact .currentReads row hrow (Option.not_isSome_iff_eq_none.mp hclaimed)
    · exact .fail _ _

theorem EnrollmentStep.bundle (token : String) (expires : ℤ) (id : NodeId) (publicKey : String) :
    EnrollmentStep service tables (.bundleKey token expires id) tables
      (service.bundle token expires id publicKey) := by
  unfold EnrollmentService.bundle
  dsimp only
  split
  · exact .reveal token expires id _ _
  · exact .fail _ _

theorem enrollmentStep_of_next (hnext : phase.next service tables input = some (tables', phase')) :
    EnrollmentStep service tables phase tables' phase' := by
  -- a statement that is executed or fails
  have hexecute : ∀ result, phase.next service tables input = some (input.execute tables result) →
      EnrollmentStep service tables phase result.1 result.2 →
      EnrollmentStep service tables phase tables' phase' := by
    intro result hresult hstep
    have hexecuted : EnrollmentStep service tables phase (input.execute tables result).1
        (input.execute tables result).2 := hstep.execute
    rwa [← Option.mem_unique hnext hresult] at hexecuted
  cases phase with
  | privateKey caller => exact hexecute _ rfl (.readPrivate caller _)
  | publicKey caller stored => exact hexecute _ rfl (.readPublic caller stored _)
  | nodeId caller stored hasPublic =>
    exact hexecute _ rfl (.identify caller stored hasPublic _)
  | identity caller => exact hexecute _ rfl (.generate caller _ (by simp [trustKeys]))
  | ensureRow => exact hexecute _ rfl (.ensured input.now)
  | currentRow => exact hexecute _ rfl (.currently input.now)
  | replace => exact hexecute _ rfl (.issue input.token _)
  | bundleId token expires =>
    cases hnext
    split
    · exact .readId token expires _
    · exact .fail _ _
  | bundleKey token expires id =>
    cases hnext
    split
    · exact .bundle token expires id _
    · exact .fail _ _
  | check request =>
    rcases next_check service tables request input with ⟨message, hsome, -⟩ | ⟨hsome, -⟩ <;>
      cases hnext.symm.trans hsome
    · exact .fail _ message
    · exact .checked request
  | claiming request =>
    rcases next_claiming service tables request input with
      ⟨message, hsome, -⟩ | ⟨row, hrow, hclaimable, -, hsome⟩ <;> cases hnext.symm.trans hsome
    · exact .fail _ message
    · exact .claim request row input.now hrow hclaimable
  | optionalKeys request =>
    rcases next_optionalKeys service tables request input with
      ⟨-, message, -, hsome⟩ | ⟨-, hsome⟩ <;> cases hnext.symm.trans hsome
    · exact .fail _ message
    · exact .keys request
  | nothing | revealed | accepted | failed => cases hnext

theorem entry_failed (phase : EnrollmentPhase) (message : String) :
    phase.entry (.failed message) = none := by
  cases phase <;> rfl

/-- What a statement does to a call when the row is claimed: it gives the call a token only by
issuing it, takes it into no `Reenroll`, and issues a token only inside of one. -/
structure StaysQuiet (phase phase' : EnrollmentPhase) : Prop where
  holds : phase'.Holds → phase.Holds ∨ phase.entry phase' ≠ none
  reenrolls : phase'.Reenrolls → phase.Reenrolls
  entry : phase.entry phase' = none ∨
    phase.Reenrolls ∧ ∃ token, phase.entry phase' = some (.issued token)

theorem EnrollmentStep.quiet (hstep : EnrollmentStep service tables phase tables' phase')
    (hclaimed : ∃ row, tables.enrollment = some row ∧ row.claimedAt ≠ none) :
    StaysQuiet phase phase' := by
  obtain ⟨found, hfound, hclaimed⟩ := hclaimed
  cases hstep with
  | fail phase message => exact ⟨False.elim, False.elim, .inl (entry_failed phase message)⟩
  | ensureClaimed | checked | keys => exact ⟨False.elim, False.elim, .inl rfl⟩
  | readPrivate | readPublic | missing => exact ⟨False.elim, id, .inl rfl⟩
  | complete caller | generate caller =>
    cases caller
    · exact ⟨False.elim, False.elim, .inl rfl⟩
    · exact ⟨False.elim, fun _ ↦ rfl, .inl rfl⟩
  | ensureRenews hrow => exact absurd (hrow found hfound) hclaimed
  | ensureReads row hrow hunclaimed | currentReads row hrow hunclaimed =>
    cases hrow.symm.trans hfound
    exact absurd hunclaimed hclaimed
  | issue token =>
    exact ⟨fun _ ↦ .inr (Option.some_ne_none _), False.elim, .inr ⟨trivial, token, rfl⟩⟩
  | readId | reveal => exact ⟨fun _ ↦ .inl trivial, False.elim, .inl rfl⟩
  | claim request row now hrow hclaimable =>
    cases hrow.symm.trans hfound
    exact absurd hclaimable.2.1 hclaimed

theorem EnrollmentStep.stored (hstep : EnrollmentStep service tables phase tables' phase')
    {request : ClaimRequest} (hrequest : request ∈ phase'.stored) :
    request ∈ phase.stored ∨ phase.entry phase' = some (.claimed request) ∧
      ∃ row ∈ tables.enrollment, ∃ now,
        row.Claimable (service.hash request.claimToken) now := by
  cases hstep with
  | claim other row now hrow hclaimable =>
    cases hrequest
    exact .inr ⟨rfl, row, hrow, now, hclaimable⟩
  | keys other => exact .inl hrequest
  | complete caller | generate caller => cases caller <;> cases hrequest
  | _ => cases hrequest

end Statement

/-! ### What the entries say after one more -/

section Entries

variable {entries : List EnrollmentEntry} {request : ClaimRequest} {token : String}

theorem UsedOnce.nil : UsedOnce [] := by
  intro newer request older hentries
  exact absurd hentries.symm (List.append_ne_nil_of_right_ne_nil newer (List.cons_ne_nil _ _))

theorem usedOnce_cons_iff {entry : EnrollmentEntry} :
    UsedOnce (entry :: entries) ↔ UsedOnce entries ∧
      ∀ request, entry = .claimed request → entries.head? = some (.issued request.claimToken) := by
  constructor
  · refine fun honce ↦ ⟨fun newer request older hentries ↦ ?_, fun request hentry ↦ ?_⟩
    · exact honce (entry :: newer) request older (by rw [hentries, List.cons_append])
    · exact honce [] request entries (by rw [hentry, List.nil_append])
  · rintro ⟨honce, hhead⟩ newer request older hentries
    cases newer with
    | nil =>
      cases hentries
      exact hhead request rfl
    | cons newest newer => exact honce newer request older (List.cons.inj hentries).2

theorem UsedOnce.sublist : {entries : List EnrollmentEntry} → UsedOnce entries →
    (claimedTokens entries).Sublist (issuedTokens entries)
  | [], _ => .slnil
  | .issued token :: entries, honce => .cons token (usedOnce_cons_iff.mp honce).1.sublist
  | .claimed request :: [], honce => by cases (usedOnce_cons_iff.mp honce).2 request rfl
  | .claimed request :: .claimed other :: entries, honce => by
    cases (usedOnce_cons_iff.mp honce).2 request rfl
  | .claimed request :: .issued token :: entries, honce => by
    obtain ⟨honce, hhead⟩ := usedOnce_cons_iff.mp honce
    cases hhead request rfl
    exact .cons_cons _ (usedOnce_cons_iff.mp honce).1.sublist

end Entries

/-! ### The tables in every interleaving -/

section Tables

variable {service : EnrollmentService} {integrations : Integrations}
  {world world' : EnrollmentWorld}

theorem ComesFrom.congr {request : ClaimRequest} (hfrom : ComesFrom request world)
    (hstate : ∀ key ∈ trustKeys, world'.tables.store.state key = world.tables.store.state key)
    (hrotated : world'.rotated = world.rotated) : ComesFrom request world' := by
  refine ⟨?_, ?_, fun hnot ↦ ?_, fun hnot ↦ ?_⟩
  · exact (hstate _ (by decide)).trans hfrom.url
  · exact (hstate _ (by decide)).trans hfrom.publicKey
  · exact (hstate _ (by decide)).trans (hfrom.certificate (hrotated ▸ hnot))
  · exact (hstate _ (by decide)).trans (hfrom.ca (hrotated ▸ hnot))

theorem EnrollmentWorld.Sound.congr (hsound : world.Sound service)
    (htrust : SameTrust world.tables world'.tables) (hentries : world'.entries = world.entries)
    (hrotated : world'.rotated = world.rotated) : world'.Sound service := by
  refine ⟨?_, ?_, fun request hrequest ↦ ?_⟩
  · rw [hentries, htrust.enrollment]
    exact hsound.row
  · rw [hentries]
    exact hsound.once
  · rw [hentries] at hrequest
    exact (hsound.trust request hrequest).congr htrust.state hrotated

theorem EnrollmentWorld.Sound.head_issued (hhash : Function.Injective service.hash)
    (hsound : world.Sound service) {row : EnrollmentRow} (hrow : row ∈ world.tables.enrollment)
    {token : String} {now : ℤ} (hclaimable : row.Claimable (service.hash token) now) :
    world.entries.head? = some (.issued token) := by
  have hof := hsound.row
  rw [Option.mem_def.mp hrow] at hof
  match hentries : world.entries with
  | [] =>
    rw [hentries] at hof
    cases hof
  | .issued issued :: older =>
    rw [hentries] at hof
    obtain ⟨expires, hsome⟩ := hof
    cases hsome
    rw [hhash hclaimable.1]
    rfl
  | .claimed request :: older =>
    rw [hentries] at hof
    obtain ⟨found, hsome, hclaimed⟩ := hof
    cases hsome
    exact absurd hclaimable.2.1 hclaimed

theorem comesFrom_claimed (tables : EnrollmentTables) (request : ClaimRequest) (row : EnrollmentRow)
    (now : ℤ) (entries : List EnrollmentEntry) :
    ComesFrom request ⟨tables.claimed request row now, entries, false⟩ := by
  constructor <;> simp [EnrollmentTables.claimed, EnrollmentTables.setStates, Store.setStates]

theorem EnrollmentWorld.Sound.next (hhash : Function.Injective service.hash)
    (hsound : world.Sound service) {phase phase' : EnrollmentPhase} {input : EnrollmentInput}
    {tables : EnrollmentTables}
    (hnext : phase.next service world.tables input = some (tables, phase')) :
    (world.record tables (phase.entry phase')).Sound service := by
  have hstep := enrollmentStep_of_next hnext
  cases hstep with
  | fail phase message =>
    rw [entry_failed]
    exact hsound.congr (.of_eq rfl) rfl rfl
  | readPrivate | readPublic | complete | missing | ensureClaimed | ensureRenews | ensureReads
  | currentReads | readId | reveal | checked => exact hsound.congr (.of_eq rfl) rfl rfl
  | generate caller values hvalues => exact hsound.congr (.setStates world.tables hvalues) rfl rfl
  | keys request =>
    exact hsound.congr (.setStates world.tables (optionalKeys_notMem_trustKeys request)) rfl rfl
  | issue token expires =>
    exact ⟨⟨_, rfl⟩, usedOnce_cons_iff.mpr ⟨hsound.once, nofun⟩,
      fun request hrequest ↦ (hsound.trust request hrequest).congr (fun _ _ ↦ rfl) rfl⟩
  | claim request row now hrow hclaimable =>
    refine ⟨⟨_, rfl, Option.some_ne_none _⟩, usedOnce_cons_iff.mpr ⟨hsound.once, ?_⟩, ?_⟩
    · rintro _ ⟨⟩
      exact hsound.head_issued hhash hrow hclaimable
    · rintro _ ⟨⟩
      exact comesFrom_claimed world.tables request row now _

theorem state_handle {message : Message}
    (hnot : ∀ rotation, message ≠ .certificateRotate rotation) (store : Store) (now : ℤ) :
    (handle integrations store message now).1.state = store.state := by
  cases message with
  | deviceUpsert data => exact (handle_deviceUpsert_onlyDevice data).state
  | quotaLease lease => exact (handle_quotaLease_onlyDevice lease).state
  | policyOverride data =>
    have honly : OnlyDevice data.deviceId store
        (handle integrations store (.policyOverride data) now).1 := onlyDevice_handle rfl
    exact honly.state
  | deviceRevoke | sessionKick | complianceFeed | other | malformed => rfl
  | usageAck eventIds =>
    rcases handle_usageAck_cases integrations store eventIds now with hsame | hmarked
    · rw [hsame]
    · rw [hmarked, Store.markUsageSent]
      split_ifs <;> rfl
  | certificateRotate rotation => exact absurd rfl (hnot rotation)

theorem enrollmentChange_cases {change : EnrollmentChange}
    (hchange : (enrollmentMachine service integrations).change world change = some world') :
    world'.entries = world.entries ∧ world'.tables.enrollment = world.tables.enrollment ∧
      ((world'.rotated = world.rotated ∧
        ∀ key ∉ serviceKeys, world'.tables.store.state key = world.tables.store.state key) ∨
      world'.rotated = true ∧ ∃ rotation now, change = .message (.certificateRotate rotation) now ∧
        RotationAccepted integrations world.tables.store rotation now ∧
        handleCertificateRotate integrations world.tables.store rotation now =
          (world'.tables.store, .ok ()) ∧
        world'.tables.store =
          world.tables.store.setStates (("node_certificate", rotation.certificatePem) ::
            if rotation.controllerCa = "" then []
            else [("controller_ca", rotation.controllerCa)])) := by
  cases change with
  | setState key value =>
    obtain ⟨hkey, hsome⟩ := Option.ite_none_right_eq_some.mp hchange
    cases hsome
    refine ⟨rfl, rfl, .inl ⟨rfl, fun other hother ↦ Store.state_setStates_of_ne ?_⟩⟩
    intro entry hentry
    cases List.mem_singleton.mp hentry
    exact ne_of_mem_of_not_mem hkey hother
  | message message now =>
    cases hchange
    refine ⟨rfl, rfl, ?_⟩
    by_cases hrotation : ∃ rotation, message = .certificateRotate rotation
    · obtain ⟨rotation, rfl⟩ := hrotation
      have hhandle : handle integrations world.tables.store (.certificateRotate rotation) now =
        handleCertificateRotate integrations world.tables.store rotation now := rfl
      dsimp only
      rw [hhandle]
      rcases handleCertificateRotate_eq integrations world.tables.store rotation now with
        ⟨error, hrefused⟩ | ⟨haccepted, hstored⟩
      · rw [hrefused]
        exact .inl ⟨Bool.or_false _, fun _ _ ↦ rfl⟩
      · rw [hstored]
        exact .inr ⟨Bool.or_true _, rotation, now, rfl, haccepted, hstored, rfl⟩
    · have hnot := not_exists.mp hrotation
      have hrotates : rotates message
          (handle integrations world.tables.store message now).2 = false := by
        cases message <;> first | rfl | exact absurd rfl (hnot _)
      dsimp only
      rw [hrotates, Bool.or_false, state_handle hnot]
      exact .inl ⟨rfl, fun _ _ ↦ rfl⟩

theorem EnrollmentWorld.Sound.change (hsound : world.Sound service) {change : EnrollmentChange}
    (hworld : (enrollmentMachine service integrations).change world change = some world') :
    world'.Sound service ∧ world'.entries = world.entries ∧
      world'.tables.enrollment = world.tables.enrollment := by
  obtain ⟨hentries, hrow, hcases⟩ := enrollmentChange_cases hworld
  refine ⟨?_, hentries, hrow⟩
  rcases hcases with ⟨hrotated, hstate⟩ | ⟨hrotated, rotation, now, -, -, -, hstored⟩
  · have hservice : ∀ key ∈ trustKeys, key ∉ serviceKeys := by decide
    exact hsound.congr ⟨hrow, fun key hkey ↦ hstate key (hservice key hkey)⟩ hentries hrotated
  · -- after a rotation only the address and the key are said to be those of the claim
    have hother : ∀ key ∈ ["controller_url", "controller_public_key"],
        world'.tables.store.state key = world.tables.store.state key := by
      rw [hstored]
      refine Store.state_setStates_of_notMem ?_
      split_ifs <;> simp
    refine ⟨?_, ?_, fun request hrequest ↦ ?_⟩
    · rw [hentries, hrow]
      exact hsound.row
    · rw [hentries]
      exact hsound.once
    · rw [hentries] at hrequest
      have hfrom := hsound.trust request hrequest
      have hnot : world'.rotated ≠ false := by simp [hrotated]
      exact ⟨(hother _ (by decide)).trans hfrom.url, (hother _ (by decide)).trans hfrom.publicKey,
        (absurd · hnot), (absurd · hnot)⟩

theorem mem_entries_record {entry : EnrollmentEntry} (hentry : entry ∈ world.entries)
    (tables : EnrollmentTables) (new : Option EnrollmentEntry) :
    entry ∈ (world.record tables new).entries := by
  match new with
  | none => exact hentry
  | some (.issued token) => exact List.mem_cons_of_mem _ hentry
  | some (.claimed request) => exact List.mem_cons_of_mem _ hentry

def ClaimRecorded (world : EnrollmentWorld) (phase : EnrollmentPhase) : Prop :=
  ∀ request ∈ phase.stored, .claimed request ∈ world.entries

theorem ClaimRecorded.record {phase : EnrollmentPhase} (hrecorded : ClaimRecorded world phase)
    (tables : EnrollmentTables) (new : Option EnrollmentEntry) :
    ClaimRecorded (world.record tables new) phase :=
  fun request hrequest ↦ mem_entries_record (hrecorded request hrequest) tables new

theorem enrollmentAdvance_cases {phase phase' : EnrollmentPhase} {input : EnrollmentInput}
    (hadvance : (enrollmentMachine service integrations).advance world phase input =
      some (world', phase')) :
    ∃ tables, phase.next service world.tables input = some (tables, phase') ∧
      world' = world.record tables (phase.entry phase') := by
  obtain ⟨⟨tables, found⟩, hnext, hresult⟩ := Option.map_eq_some_iff.mp hadvance
  cases hresult
  exact ⟨tables, hnext, rfl⟩

end Tables

/-! ### Runs -/

section Runs

variable {service : EnrollmentService} {integrations : Integrations} {store : Store}
  {system later : EnrollmentSystem}

theorem UsedOnce.claimToken_ne {entries : List EnrollmentEntry} {token : String}
    (honce : UsedOnce entries) (hhead : entries.head? = some (.issued token))
    (hnodup : (issuedTokens entries).Nodup) {request : ClaimRequest}
    (hmem : .claimed request ∈ entries) : request.claimToken ≠ token := by
  obtain ⟨older, rfl⟩ := List.head?_eq_some_iff.mp hhead
  have hold : .claimed request ∈ older :=
    (List.mem_cons.mp hmem).resolve_left EnrollmentEntry.noConfusion
  have hclaimed : request.claimToken ∈ claimedTokens older :=
    List.mem_filterMap.mpr ⟨.claimed request, hold, rfl⟩
  have hissued : request.claimToken ∈ issuedTokens older :=
    (usedOnce_cons_iff.mp honce).1.sublist.subset hclaimed
  have hnot : token ∉ issuedTokens older := (List.nodup_cons.mp hnodup).1
  exact fun hsame ↦ hnot (hsame ▸ hissued)

theorem issuedTokens_nodup_of_record {world : EnrollmentWorld} {tables : EnrollmentTables}
    {new : Option EnrollmentEntry}
    (hnodup : (issuedTokens (world.record tables new).entries).Nodup) :
    (issuedTokens world.entries).Nodup := by
  match new with
  | none => exact hnodup
  | some (.issued token) => exact (List.nodup_cons.mp hnodup).2
  | some (.claimed request) => exact hnodup

/-- Two calls have stored no claims of the same token. -/
def ClaimsApart (phase phase' : EnrollmentPhase) : Prop :=
  ∀ request ∈ phase.stored, ∀ request' ∈ phase'.stored, request.claimToken ≠ request'.claimToken

theorem ClaimsApart.symm {phase phase' : EnrollmentPhase} (hapart : ClaimsApart phase phase') :
    ClaimsApart phase' phase :=
  fun request hrequest request' hrequest' ↦ (hapart request' hrequest' request hrequest).symm

def NewestClaimed (world : EnrollmentWorld) : Prop :=
  ∃ request, world.entries.head? = some (.claimed request)

theorem NewestClaimed.row {world : EnrollmentWorld} (hnewest : NewestClaimed world)
    (hsound : world.Sound service) :
    ∃ row, world.tables.enrollment = some row ∧ row.claimedAt ≠ none := by
  obtain ⟨request, hhead⟩ := hnewest
  obtain ⟨older, hentries⟩ := List.head?_eq_some_iff.mp hhead
  have hrow := hsound.row
  rw [hentries] at hrow
  exact hrow

/-- What an event does to a node whose newest entry is a claim. Assumes: sound tables. Either a call
inside `Reenroll` issues a token, or the entries stay; a call that has a token afterwards had it
before or has just issued it, and one inside `Reenroll` was there before or has just entered. -/
structure AfterClaim (system : EnrollmentSystem) (event : EnrollmentEvent)
    (next : EnrollmentSystem) : Prop where
  entries : next.shared.entries = system.shared.entries ∨
    (∃ slot phase, system.threads slot = some phase ∧ phase.Reenrolls) ∧
      ∃ token, next.shared.entries = .issued token :: system.shared.entries
  holds : next.shared.entries = system.shared.entries → HeldBefore system next
  reenrolls : ∀ slot phase, next.threads slot = some phase → phase.Reenrolls →
    event = .start slot .reenroll ∨
      ∃ before, system.threads slot = some before ∧ before.Reenrolls

theorem afterClaim {next : EnrollmentSystem} {event : EnrollmentEvent}
    (hsound : system.shared.Sound service) (hnewest : NewestClaimed system.shared)
    (hstep : (enrollmentMachine service integrations).step system event = some next) :
    AfterClaim system event next := by
  rcases step_cases hstep with ⟨slot, call, rfl, hslot, rfl⟩ |
    ⟨slot, input, phase, world, phase', rfl, hslot, hadvance, rfl⟩ |
    ⟨change, world, rfl, hchange, rfl⟩
  · refine ⟨.inl rfl, fun _ other found hfound hholds ↦ ?_, fun other found hfound hin ↦ ?_⟩
    · rcases System.mem_set hfound with ⟨-, rfl⟩ | ⟨-, hold⟩
      · cases call <;> exact hholds.elim
      · exact ⟨found, hold, hholds⟩
    · rcases System.mem_set hfound with ⟨rfl, rfl⟩ | ⟨-, hold⟩
      · cases call with
        | reenroll => exact .inl rfl
        | ensure => cases hin
        | current | claim => exact hin.elim
      · exact .inr ⟨found, hold, hin⟩
  · obtain ⟨tables, hnext, rfl⟩ := enrollmentAdvance_cases hadvance
    have hquiet := (enrollmentStep_of_next hnext).quiet (hnewest.row hsound)
    refine ⟨?_, fun hsame other found hfound hholds ↦ ?_, fun other found hfound hin ↦ ?_⟩
    · rcases hquiet.entry with hentry | ⟨hin, token, hentry⟩
      · left
        rw [hentry]
        rfl
      · right
        rw [hentry]
        exact ⟨⟨slot, phase, hslot, hin⟩, token, rfl⟩
    · rcases System.mem_set hfound with ⟨rfl, rfl⟩ | ⟨-, hold⟩
      · rcases hquiet.holds hholds with hbefore | hentry
        · exact ⟨phase, hslot, hbefore⟩
        · rcases hquiet.entry with hnone | ⟨-, token, hissued⟩
          · exact absurd hnone hentry
          · rw [hissued] at hsame
            exact absurd hsame (List.cons_ne_self _ _)
      · exact ⟨found, hold, hholds⟩
    · rcases System.mem_set hfound with ⟨rfl, rfl⟩ | ⟨-, hold⟩
      · exact .inr ⟨phase, hslot, hquiet.reenrolls hin⟩
      · exact .inr ⟨found, hold, hin⟩
  · obtain ⟨-, hentries, -⟩ := hsound.change hchange
    exact ⟨.inl hentries, fun _ _ found hfound hholds ↦ ⟨found, hfound, hholds⟩,
      fun _ found hfound hin ↦ .inr ⟨found, hfound, hin⟩⟩

theorem HeldBefore.noneRevealed (hheld : HeldBefore system later)
    (hsettled : ∀ slot phase, system.threads slot = some phase → ¬ phase.Overlaps) :
    NoneRevealed system later := by
  intro slot phase hphase hreveals
  have hholds : phase.Holds := by
    cases phase with
    | revealed => trivial
    | _ => cases hreveals
  obtain ⟨before, hbefore, hheld⟩ := hheld slot phase hphase hholds
  exact ⟨before, hbefore, not_not.mp fun hnot ↦ hsettled slot before hbefore (.inl ⟨hheld, hnot⟩)⟩

section

variable (hhash : Function.Injective service.hash)
  (hreach : Reachable (enrollmentMachine service integrations).step (unenrolled store) system)

include hhash hreach

theorem enrollmentSound_of_reachable : system.shared.Sound service ∧
      ∀ slot phase, system.threads slot = some phase → ClaimRecorded system.shared phase := by
  refine Machine.invariant (fun world ↦ world.Sound service) ClaimRecorded hreach
    ⟨rfl, .nil, nofun⟩ ?_ ?_ ?_
  · intro world call _ request hrequest
    cases call <;> cases hrequest
  · intro system slot input next phase phase' world hsound hslot hrecorded _ hadvance
    obtain ⟨tables, hnext, rfl⟩ := enrollmentAdvance_cases hadvance
    refine ⟨hsound.next hhash hnext, fun request hrequest ↦ ?_,
      fun other found _ _ hfound ↦ hfound.record tables _⟩
    rcases (enrollmentStep_of_next hnext).stored hrequest with hbefore | ⟨hentry, -⟩
    · exact mem_entries_record (hrecorded request hbefore) tables _
    · rw [hentry]
      exact List.mem_cons_self
  · intro system change next world hsound _ hchange
    obtain ⟨hsound', hentries, -⟩ := hsound.change hchange
    refine ⟨hsound', fun slot phase _ hrecorded request hrequest ↦ ?_⟩
    rw [hentries]
    exact hrecorded request hrequest

theorem claimsApart_of_reachable (hnodup : (issuedTokens system.shared.entries).Nodup) :
    system.Pairwise ClaimsApart := by
  have halong := ReachableUnder.along hreach _
    fun state hstate ↦ enrollmentSound_of_reachable hhash hstate
  refine halong.invariant (fun state ↦ (issuedTokens state.shared.entries).Nodup →
    state.Pairwise ClaimsApart) (fun _ _ _ _ _ hphase ↦ by cases hphase) ?_ hnodup
  rintro state event next hapart ⟨-, hsound, hrecorded⟩ hstep hnodup
  rcases step_cases hstep with ⟨slot, call, rfl, -, rfl⟩ |
    ⟨slot, input, phase, world, phase', rfl, hslot, hadvance, rfl⟩ |
    ⟨change, world, rfl, hchange, rfl⟩
  · refine (hapart hnodup).set ClaimsApart.symm fun _ _ _ _ _ _ request hrequest ↦ ?_
    cases call <;> cases hrequest
  · obtain ⟨tables, hnext, rfl⟩ := enrollmentAdvance_cases hadvance
    have hold : (issuedTokens state.shared.entries).Nodup := issuedTokens_nodup_of_record hnodup
    refine (hapart hold).set ClaimsApart.symm ?_
    intro other found hother hfound request hrequest request' hrequest'
    rcases (enrollmentStep_of_next hnext).stored hrequest' with
      hbefore | ⟨hentry, row, hrow, now, hclaimable⟩
    · exact hapart hold other slot found phase hfound hslot hother request hrequest request' hbefore
    · exact hsound.once.claimToken_ne (hsound.head_issued hhash hrow hclaimable) hold
        (hrecorded other found hfound request hrequest)
  · obtain ⟨-, hentries, -⟩ := hsound.change hchange
    dsimp only at hnodup
    rw [hentries] at hnodup
    exact hapart hnodup

/-- Along a run without calls of `Reenroll` no call gets into it, so that none of its steps issues a
token. -/
theorem quiet_until_reenroll (hnewest : NewestClaimed system.shared)
    (hidle : ∀ slot phase, system.threads slot = some phase → ¬ phase.Reenrolls)
    (hlater : ReachableUnder (enrollmentMachine service integrations).step NotReenroll system
      later) :
    later.shared.entries = system.shared.entries ∧ HeldBefore system later := by
  refine (hlater.invariant (fun state ↦
    (Reachable (enrollmentMachine service integrations).step (unenrolled store) state ∧
      ∀ slot phase, state.threads slot = some phase → ¬ phase.Reenrolls) ∧
    state.shared.entries = system.shared.entries ∧ HeldBefore system state)
    ⟨⟨hreach, hidle⟩, rfl, fun _ phase hphase hholds ↦ ⟨phase, hphase, hholds⟩⟩ ?_).2
  rintro state event next ⟨⟨hstate, hnone⟩, hentries, hheld⟩ hnot hstep
  have hclaimed : NewestClaimed state.shared := by
    rw [NewestClaimed, hentries]
    exact hnewest
  have hafter := afterClaim (enrollmentSound_of_reachable hhash hstate).1 hclaimed hstep
  have hsame : next.shared.entries = state.shared.entries := by
    rcases hafter.entries with hsame | ⟨⟨slot, phase, hphase, hin⟩, -⟩
    · exact hsame
    · exact absurd hin (hnone slot phase hphase)
  refine ⟨⟨hstate.next hstep, fun slot phase hphase hin ↦ ?_⟩, hsame.trans hentries,
    fun slot phase hphase hholds ↦ ?_⟩
  · rcases hafter.reenrolls slot phase hphase hin with hstart | ⟨before, hbefore, hinside⟩
    · exact hnot slot hstart
    · exact hnone slot before hbefore hinside
  · obtain ⟨before, hbefore, hholds'⟩ := hafter.holds hsame slot phase hphase hholds
    exact hheld slot before hbefore hholds'

/-- Enrolment tokens are used once. Assumes: a hash that no two tokens share, and any interleaving
of calls on a node that has issued no token yet. Every stored claim directly follows the issue of
its token. The claims that calls have succeeded with are among the stored ones, of different tokens
if those that were issued all differ. The values of the controller come from the claim that was
stored last. If no call overlaps with it, no token is issued or revealed after it until `Reenroll`
is called. -/
theorem tokens_single_use : UsedOnce system.shared.entries ∧
    (∀ slot request, system.threads slot = some (.accepted request) →
      .claimed request ∈ system.shared.entries) ∧
    ((issuedTokens system.shared.entries).Nodup → ∀ slot slot' request request', slot ≠ slot' →
      system.threads slot = some (.accepted request) →
      system.threads slot' = some (.accepted request') →
      request.claimToken ≠ request'.claimToken) ∧
    (∀ request ∈ lastClaim system.shared.entries, ComesFrom request system.shared) ∧
    (NewestClaimed system.shared →
      (∀ slot phase, system.threads slot = some phase → ¬ phase.Overlaps) →
      ∀ later, ReachableUnder (enrollmentMachine service integrations).step
        NotReenroll system later →
        later.shared.entries = system.shared.entries ∧ NoneRevealed system later) := by
  obtain ⟨hsound, hrecorded⟩ := enrollmentSound_of_reachable hhash hreach
  refine ⟨hsound.once, fun slot request hslot ↦ hrecorded slot _ hslot request rfl, ?_,
    hsound.trust, fun hnewest hsettled later hlater ↦ ?_⟩
  · intro hnodup slot slot' request request' hne hslot hslot'
    have hapart := claimsApart_of_reachable hhash hreach hnodup
    exact hapart slot slot' _ _ hslot hslot' hne request rfl request' rfl
  · obtain ⟨hentries, hheld⟩ := quiet_until_reenroll hhash hreach hnewest
      (fun slot phase hphase hin ↦ hsettled slot phase hphase (.inr hin)) hlater
    exact ⟨hentries, hheld.noneRevealed hsettled⟩

end

end Runs

/-! ### Two claims with one token -/

def enrollmentStatements (slot count : ℕ) (token : String) : List EnrollmentEvent :=
  List.replicate count (.advance slot (soloInput token))

def twoClaims : List EnrollmentEvent :=
  [.start 0 .ensure] ++ enrollmentStatements 0 11 "token" ++
  [.start 1 (.claim (soloClaim "first" "token" "quota")),
    .start 2 (.claim (soloClaim "second" "token" ""))] ++
  ([1, 2, 1, 2, 1].flatMap fun slot ↦ enrollmentStatements slot 1 "") ++
  [.start 3 .current] ++ enrollmentStatements 3 1 ""

def claimedSystem : EnrollmentSystem :=
  (run (enrollmentMachine soloService soloIntegrations).step
    (unenrolled freshTables.store) twoClaims).getD (unenrolled freshTables.store)

theorem tokens_single_use_concurrent :
    claimedSystem.threads 1 = some (.accepted (soloClaim "first" "token" "quota")) ∧
    claimedSystem.threads 2 = some (.failed claimRefused) ∧
    claimedSystem.threads 3 = some (.failed "node is already claimed") ∧
    ComesFrom (soloClaim "first" "token" "quota") claimedSystem.shared ∧
    ∀ later, ReachableUnder (enrollmentMachine soloService soloIntegrations).step
      NotReenroll claimedSystem later → NoneRevealed claimedSystem later := by
  have hrun : run (enrollmentMachine soloService soloIntegrations).step
      (unenrolled freshTables.store) twoClaims = some claimedSystem := rfl
  have hsettled : ∀ slot, ∀ phase ∈ claimedSystem.threads slot, ¬ phase.Overlaps
    | 0 | 1 | 2 | 3 => by decide
    | slot + 4 => fun phase hphase ↦ absurd hphase (Option.not_mem_none phase)
  obtain ⟨-, -, -, htrust, hquiet⟩ := tokens_single_use Function.injective_id
    (reachable_of_run hrun)
  exact ⟨by decide, by decide, by decide, htrust _ (by decide), fun later hreach ↦
    (hquiet ⟨soloClaim "first" "token" "quota", by decide⟩ hsettled later hreach).2⟩

/-- A call of `Current` that has read the row when the claim comes. -/
def readThenClaimed : List EnrollmentEvent :=
  [.start 0 .ensure] ++ enrollmentStatements 0 11 "token" ++
  [.start 1 .current] ++ enrollmentStatements 1 1 "" ++
  [.start 2 (.claim (soloClaim "first" "token" "quota"))] ++ enrollmentStatements 2 3 ""

def overlappedSystem : EnrollmentSystem :=
  (run (enrollmentMachine soloService soloIntegrations).step
    (unenrolled freshTables.store) readThenClaimed).getD (unenrolled freshTables.store)

def revealedSystem : EnrollmentSystem :=
  (run (enrollmentMachine soloService soloIntegrations).step overlappedSystem
    (enrollmentStatements 1 2 "")).getD overlappedSystem

/-- A counterexample: `Current` answers with the token of the claim, and `Reenroll` was not
called. -/
theorem current_reveals_claimed :
    Reachable (enrollmentMachine soloService soloIntegrations).step
      (unenrolled freshTables.store) overlappedSystem ∧
    overlappedSystem.threads 2 = some (.accepted (soloClaim "first" "token" "quota")) ∧
    NewestClaimed overlappedSystem.shared ∧
    ReachableUnder (enrollmentMachine soloService soloIntegrations).step NotReenroll
      overlappedSystem revealedSystem ∧
    (∃ bundle text, revealedSystem.threads 1 = some (.revealed bundle text) ∧
      bundle.claimToken = "token") ∧
    ¬ NoneRevealed overlappedSystem revealedSystem := by
  refine ⟨reachable_getD _, by decide, ⟨soloClaim "first" "token" "quota", by decide⟩,
    ?_, ⟨_, _, rfl, rfl⟩, fun hnone ↦ ?_⟩
  · have hmeets : RunMeets (enrollmentMachine soloService soloIntegrations).step
        NotReenroll overlappedSystem (enrollmentStatements 1 2 "") revealedSystem :=
      ⟨_, rfl, nofun, _, rfl, nofun, rfl⟩
    exact reachableUnder_of_runMeets hmeets
  · obtain ⟨before, hbefore, hreveals⟩ := hnone 1 _ rfl trivial
    cases hbefore
    exact hreveals

end RiseVpn
