import RiseVpn.Node.EnrollmentTokens

/-!
# Dialing the controller

Before the node dials, `Client.tlsConfig` makes a key pair out of `node_private_key` and
`node_certificate` and a pool of roots out of `controller_ca`. Two writers store the certificates:
`Service.Claim`, which parses both, and `certificate.rotate`, which parses the first and stores the
second as it comes. What they accept and what `tlsConfig` needs is not the same. `tlsConfig` takes
the first block of the type `CERTIFICATE`, where a rotation takes the first block of any type; and
it takes no root from a block with headers, where a claim looks at no headers.

The system is that of `EnrollmentTokens`: any number of calls of the service at the same time, and
messages. `Dialing` is the invariant: the node keeps its identity, and once a claim is stored, the
certificates fit. `FitsKept` is the condition on the steps under which it holds, and
`claimed_node_dials` the result. `undialable_after_rotation` has the three ways around the
condition, after each of which a claimed node can no longer dial.

PEM and X.509 are functions of `DialTools`, with the acceptance rules of the functions that call
them written out.
-/

set_option autoImplicit false

namespace RiseVpn

open Threads GuardedRun

/-! ### The configuration of a connection -/

/-- `pem.Block`. -/
structure PemBlock where
  type : String
  headers : List (String × String)
  bytes : List UInt8

/-- What the writers and the reader of the certificates call outside the repository. Both writers
see the blocks of a text, as far as they look at them. -/
structure DialTools where
  service : EnrollmentService
  integrations : Integrations
  /-- `pem.Decode` until no block is left. -/
  blocks : String → List PemBlock
  /-- The public key of an Ed25519 private key. -/
  publicOf : List UInt8 → List UInt8
  /-- The error of `tls.X509KeyPair` for a text without a certificate, by the types it skipped. -/
  noCertificate : List String → String
  decodePem_eq : ∀ text, service.decodePem text =
    (blocks text).head?.map fun block ↦ (block.type, block.bytes)
  parse_eq : ∀ text, integrations.certificates.parse text =
    (blocks text).head?.bind fun block ↦ (service.parseX509 block.bytes).toOption

/-- `tls.Config`, with the leaf of its certificate and the roots it adds to those of the system. -/
structure TlsConfig where
  leaf : Certificate
  roots : List Certificate

def EnrollmentPhase.unstored : EnrollmentPhase → Option ClaimRequest
  | .claiming request => some request
  | _ => none

namespace DialTools

variable (tools : DialTools)

/-- `security.Decode` of a private key of `ed25519.PrivateKeySize` bytes. -/
def privateKey (value : String) : Except String (List UInt8) :=
  match tools.service.decode value with
  | .ok raw => if raw.length = 64 then .ok raw else .error "invalid node private key"
  | .error _ => .error "invalid node private key"

/-- `tls.X509KeyPair`: the leaf is the first block of the type `CERTIFICATE`. -/
def x509KeyPair (certificatePem : String) (privateRaw : List UInt8) : Except String Certificate :=
  match (tools.blocks certificatePem).find? fun block ↦ block.type = "CERTIFICATE" with
  | none => .error (tools.noCertificate ((tools.blocks certificatePem).map PemBlock.type))
  | some block =>
    match tools.service.parseX509 block.bytes with
    | .error message => .error message
    | .ok leaf =>
      if tools.service.hasKey leaf (tools.publicOf privateRaw) then .ok leaf
      else .error "tls: private key does not match public key"

/-- The certificates that `AppendCertsFromPEM` adds: those of the blocks of the type `CERTIFICATE`
without headers that are parsed. -/
def appendCertsFromPem (text : String) : List Certificate :=
  (tools.blocks text).filterMap fun block ↦
    if block.type = "CERTIFICATE" ∧ block.headers = [] then
      (tools.service.parseX509 block.bytes).toOption
    else none

def tlsConfig (store : Store) : Except String TlsConfig := do
  let privateEncoded ← (store.state "node_private_key").elim
    (.error "node private key is missing") .ok
  let privateRaw ← tools.privateKey privateEncoded
  let certificatePem ← (store.state "node_certificate").elim
    (.error "node certificate is missing") .ok
  let leaf ← tools.x509KeyPair certificatePem privateRaw
  let controllerCa ← (store.state "controller_ca").elim (.error "controller CA is missing") .ok
  checkThat (tools.appendCertsFromPem controllerCa ≠ []) "invalid controller CA"
  return ⟨leaf, tools.appendCertsFromPem controllerCa⟩

/-! ### What a writer has to leave -/

def Appendable (text : String) : Prop :=
  ∃ block ∈ tools.blocks text, block.type = "CERTIFICATE" ∧ block.headers = [] ∧
    (tools.service.parseX509 block.bytes).toOption ≠ none
  deriving Decidable

/-- The first block of the text has the type `CERTIFICATE`. -/
def StartsWithCertificate (text : String) : Prop :=
  (tools.blocks text).head?.map PemBlock.type = some "CERTIFICATE"
  deriving Decidable

structure Identity (store : Store) (privateRaw : List UInt8) : Prop where
  nodeId : (store.state "node_id").isSome = true
  privateKey : ∃ encoded, store.state "node_private_key" = some encoded ∧ encoded ≠ "" ∧
    tools.privateKey encoded = .ok privateRaw
  publicKey : ∃ encoded, store.state "node_public_key" = some encoded ∧
    tools.service.decode encoded = .ok (tools.publicOf privateRaw)

def Pairs (privateRaw : List UInt8) (text : String) : Prop :=
  ∃ leaf, tools.x509KeyPair text privateRaw = .ok leaf

structure Fits (store : Store) (privateRaw : List UInt8) : Prop where
  certificate : ∃ text, store.state "node_certificate" = some text ∧ tools.Pairs privateRaw text
  ca : ∃ text, store.state "controller_ca" = some text ∧ tools.Appendable text

/-- The condition on the steps of a run: a claim that is stored has a root in its CA text, and a
rotation that is accepted has a certificate as its first block and, if it has a CA text, a root in
it. -/
def FitsKept (system : EnrollmentSystem) (event : EnrollmentEvent) (_next : EnrollmentSystem) :
    Prop :=
  match event with
  | .advance slot _ => ∀ phase ∈ system.threads slot, ∀ request ∈ phase.unstored,
      tools.Appendable request.controllerCaPem
  | .change (.message (.certificateRotate rotation) now) =>
    rotates (.certificateRotate rotation)
        (handleCertificateRotate tools.integrations system.shared.tables.store rotation now).2 →
      tools.StartsWithCertificate rotation.certificatePem ∧
        (rotation.controllerCa = "" ∨ tools.Appendable rotation.controllerCa)
  | _ => True

instance (system : EnrollmentSystem) (event : EnrollmentEvent) (next : EnrollmentSystem) :
    Decidable (tools.FitsKept system event next) := by
  unfold FitsKept
  split <;> infer_instance

end DialTools

section Reader

variable {tools : DialTools} {store : Store} {privateRaw : List UInt8}

variable {text : String}

theorem appendCertsFromPem_ne_nil (happendable : tools.Appendable text) :
    tools.appendCertsFromPem text ≠ [] := by
  obtain ⟨block, hblock, htype, hheaders, hparsed⟩ := happendable
  obtain ⟨certificate, hcertificate⟩ := Option.ne_none_iff_exists'.mp hparsed
  have hmem : certificate ∈ tools.appendCertsFromPem text := by
    refine List.mem_filterMap.mpr ⟨block, hblock, ?_⟩
    rw [if_pos ⟨htype, hheaders⟩, hcertificate]
  exact List.ne_nil_of_mem hmem

theorem tlsConfig_ok (hidentity : tools.Identity store privateRaw)
    (hfits : tools.Fits store privateRaw) :
    ∃ config, tools.tlsConfig store = .ok config := by
  obtain ⟨encoded, hencoded, -, hprivate⟩ := hidentity.privateKey
  obtain ⟨text, htext, leaf, hleaf⟩ := hfits.certificate
  obtain ⟨ca, hca, happendable⟩ := hfits.ca
  refine ⟨⟨leaf, tools.appendCertsFromPem ca⟩, ?_⟩
  have hroots : checkThat (tools.appendCertsFromPem ca ≠ []) "invalid controller CA" = .ok () :=
    if_pos (appendCertsFromPem_ne_nil happendable)
  rw [DialTools.tlsConfig, hencoded, htext, hca]
  simp only [Option.elim_some, hprivate, hleaf, hroots, bind, Except.bind, pure, Except.pure]

/-! ### What the writers accept -/

theorem pairs_of_head {block : PemBlock} {certificate : Certificate}
    (hhead : (tools.blocks text).head? = some block) (htype : block.type = "CERTIFICATE")
    (hparsed : tools.service.parseX509 block.bytes = .ok certificate)
    (hkey : tools.service.hasKey certificate (tools.publicOf privateRaw) = true) :
    tools.Pairs privateRaw text := by
  obtain ⟨rest, hblocks⟩ := List.head?_eq_some_iff.mp hhead
  refine ⟨certificate, ?_⟩
  rw [DialTools.x509KeyPair, hblocks, List.find?_cons_of_pos (by simpa using htype)]
  simp only [hparsed, hkey, if_true]

theorem parseCertificate_ok {certificate : Certificate}
    (hok : tools.service.parseCertificate text = .ok certificate) :
    ∃ block, (tools.blocks text).head? = some block ∧ block.type = "CERTIFICATE" ∧
      tools.service.parseX509 block.bytes = .ok certificate := by
  unfold EnrollmentService.parseCertificate at hok
  rw [tools.decodePem_eq] at hok
  split at hok
  · rename_i bytes hdecoded
    obtain ⟨block, hhead, hblock⟩ := Option.map_eq_some_iff.mp hdecoded
    obtain ⟨htype, rfl⟩ := Prod.mk.inj hblock
    exact ⟨block, hhead, htype, hok⟩
  · cases hok

theorem parse_ok {certificate : Certificate}
    (hparse : tools.integrations.certificates.parse text = some certificate) :
    ∃ block, (tools.blocks text).head? = some block ∧
      tools.service.parseX509 block.bytes = .ok certificate := by
  rw [tools.parse_eq] at hparse
  obtain ⟨block, hhead, hoption⟩ := Option.bind_eq_some_iff.mp hparse
  cases hresult : tools.service.parseX509 block.bytes with
  | ok found =>
    rw [hresult] at hoption
    cases hoption
    exact ⟨block, hhead, hresult⟩
  | error message =>
    rw [hresult] at hoption
    cases hoption

theorem pairs_of_checkClaim (hidentity : tools.Identity store privateRaw) {request : ClaimRequest}
    {now : ℤ}
    (hchecked : tools.service.checkClaim (store.state "node_public_key") request now = .ok ()) :
    tools.Pairs privateRaw request.nodeCertificatePem := by
  obtain ⟨encoded, hencoded, hdecoded⟩ := hidentity.publicKey
  obtain ⟨nodeCert, publicEncoded, publicRaw, hparse, hpublic, hraw, hkey⟩ := checkClaim_ok hchecked
  rw [hencoded] at hpublic
  cases hpublic
  rw [hdecoded] at hraw
  cases hraw
  obtain ⟨block, hhead, htype, hparsed⟩ := parseCertificate_ok hparse
  exact pairs_of_head hhead htype hparsed hkey

theorem pairs_of_rotation (hidentity : tools.Identity store privateRaw)
    {rotation : CertificateRotate} {now : ℤ}
    (haccepted : RotationAccepted tools.integrations store rotation now)
    (hstarts : tools.StartsWithCertificate rotation.certificatePem) :
    tools.Pairs privateRaw rotation.certificatePem := by
  obtain ⟨encoded, hencoded, hdecoded⟩ := hidentity.publicKey
  obtain ⟨certificate, publicKey, hparse, hpublic, hkey, -⟩ := haccepted
  rw [hencoded] at hpublic
  cases hpublic
  obtain ⟨block, hhead, hparsed⟩ := parse_ok hparse
  have htype : block.type = "CERTIFICATE" := by
    rw [DialTools.StartsWithCertificate, hhead] at hstarts
    exact Option.some.inj hstarts
  refine pairs_of_head hhead htype hparsed ?_
  rw [EnrollmentService.hasKey, hkey]
  simp [hdecoded]

end Reader

/-! ### The invariant -/

def identityKeys : List String := ["node_id", "node_public_key", "node_private_key"]

/-- The keys that `tlsConfig` and the checks of the writers read. -/
def dialKeys : List String := ["node_certificate", "controller_ca"] ++ identityKeys

/-- The node has its identity, and its certificates fit once a claim is stored. -/
structure Dialing (tools : DialTools) (privateRaw : List UInt8) (world : EnrollmentWorld) :
    Prop where
  identity : tools.Identity world.tables.store privateRaw
  fits : lastClaim world.entries ≠ none → tools.Fits world.tables.store privateRaw

/-- What holds of a call: one that reads the identity has found it, none is about to generate
another, and a claim that has passed its checks has a certificate for the private key. -/
def EnrollmentPhase.Ready (tools : DialTools) (privateRaw : List UInt8) : EnrollmentPhase → Prop
  | .publicKey _ stored => stored.isSome = true ∧ stored ≠ some ""
  | .nodeId _ stored hasPublic => (stored.isSome = true ∧ stored ≠ some "") ∧ hasPublic = true
  | .identity _ => False
  | .claiming request => tools.Pairs privateRaw request.nodeCertificatePem
  | _ => True

section Invariant

variable {tools : DialTools} {privateRaw : List UInt8} {world world' : EnrollmentWorld}
  {store store' : Store}

theorem DialTools.Identity.congr (hidentity : tools.Identity store privateRaw)
    (hstate : ∀ key ∈ identityKeys, store'.state key = store.state key) :
    tools.Identity store' privateRaw := by
  constructor
  · rw [hstate _ (by decide)]
    exact hidentity.nodeId
  · rw [hstate _ (by decide)]
    exact hidentity.privateKey
  · rw [hstate _ (by decide)]
    exact hidentity.publicKey

theorem DialTools.Fits.congr (hfits : tools.Fits store privateRaw)
    (hstate : ∀ key ∈ dialKeys, store'.state key = store.state key) :
    tools.Fits store' privateRaw := by
  constructor
  · rw [hstate _ (by decide)]
    exact hfits.certificate
  · rw [hstate _ (by decide)]
    exact hfits.ca

theorem Dialing.congr (hdialing : Dialing tools privateRaw world)
    (hstate : ∀ key ∈ dialKeys, world'.tables.store.state key = world.tables.store.state key)
    (hlast : lastClaim world'.entries = lastClaim world.entries) :
    Dialing tools privateRaw world' := by
  constructor
  · exact hdialing.identity.congr fun key hkey ↦ hstate key (List.mem_append_right _ hkey)
  · intro hclaimed
    rw [hlast] at hclaimed
    exact (hdialing.fits hclaimed).congr hstate

theorem Dialing.claimed (hdialing : Dialing tools privateRaw world) {request : ClaimRequest}
    (hpairs : tools.Pairs privateRaw request.nodeCertificatePem)
    (happendable : tools.Appendable request.controllerCaPem) (row : EnrollmentRow) (now : ℤ)
    (entries : List EnrollmentEntry) :
    Dialing tools privateRaw ⟨world.tables.claimed request row now, entries, false⟩ := by
  have hfrom := comesFrom_claimed world.tables request row now entries
  constructor
  · refine hdialing.identity.congr (Store.state_setStates_of_notMem ?_)
    simp [identityKeys]
  · intro _
    exact ⟨⟨_, hfrom.certificate rfl, hpairs⟩, ⟨_, hfrom.ca rfl, happendable⟩⟩

theorem optionalKeys_notMem_dialKeys (request : ClaimRequest) :
    ∀ entry ∈ request.optionalKeys, entry.1 ∉ dialKeys := by
  unfold ClaimRequest.optionalKeys
  split_ifs <;> simp [dialKeys, identityKeys]

theorem notMem_serviceKeys : ∀ key ∈ dialKeys, key ∉ serviceKeys := by decide

variable {input : EnrollmentInput} {phase' : EnrollmentPhase} {tables : EnrollmentTables}

theorem Dialing.next {phase : EnrollmentPhase} (hdialing : Dialing tools privateRaw world)
    (hready : phase.Ready tools privateRaw)
    (hroot : ∀ request ∈ phase.unstored, tools.Appendable request.controllerCaPem)
    (hnext : phase.next tools.service world.tables input = some (tables, phase')) :
    Dialing tools privateRaw (world.record tables (phase.entry phase')) := by
  cases enrollmentStep_of_next hnext with
  | fail phase message =>
    rw [entry_failed]
    exact hdialing.congr (fun _ _ ↦ rfl) rfl
  | readPrivate | readPublic | complete | missing | ensureClaimed | ensureRenews | ensureReads
  | currentReads | readId | reveal | checked | issue =>
    exact hdialing.congr (fun _ _ ↦ rfl) rfl
  | generate caller values hvalues => exact hready.elim
  | keys request =>
    exact hdialing.congr (Store.state_setStates_of_notMem (optionalKeys_notMem_dialKeys request))
      rfl
  | claim request row now hrow hclaimable =>
    exact hdialing.claimed hready (hroot request rfl) row now _

theorem of_execute_eq {tables' : EnrollmentTables} {result : EnrollmentTables × EnrollmentPhase}
    (hexecute : input.execute tables result = (tables', phase'))
    (hnot : ∀ message, phase' ≠ .failed message) : result = (tables', phase') := by
  unfold EnrollmentInput.execute at hexecute
  split at hexecute
  · cases hexecute
    exact absurd rfl (hnot _)
  · exact hexecute

theorem ready_identified (caller : IdentityCaller) : caller.identified.Ready tools privateRaw := by
  cases caller <;> trivial

theorem EnrollmentPhase.Ready.next {phase : EnrollmentPhase} {tables' : EnrollmentTables}
    (hidentity : tools.Identity tables.store privateRaw) (hready : phase.Ready tools privateRaw)
    (hnext : phase.next tools.service tables input = some (tables', phase')) :
    phase'.Ready tools privateRaw := by
  cases enrollmentStep_of_next hnext with
  | readPrivate caller stored =>
    obtain ⟨encoded, hprivate, hnonempty, -⟩ := hidentity.privateKey
    cases of_execute_eq (Option.some.inj hnext) (fun _ hfailed ↦ by cases hfailed)
    rw [hprivate]
    exact ⟨rfl, fun hsame ↦ hnonempty (Option.some.inj hsame)⟩
  | readPublic caller stored hasPublic =>
    obtain ⟨encoded, hpublic, -⟩ := hidentity.publicKey
    cases of_execute_eq (Option.some.inj hnext) (fun _ hfailed ↦ by cases hfailed)
    exact ⟨hready, by rw [hpublic]; rfl⟩
  | missing caller stored hasPublic =>
    obtain ⟨⟨hsome, hnonempty⟩, rfl⟩ := hready
    have hidentify := congrArg Prod.snd
      (of_execute_eq (Option.some.inj hnext) (fun _ hfailed ↦ by cases hfailed))
    rw [hidentity.nodeId] at hidentify
    dsimp only at hidentify
    rw [EnrollmentPhase.identify, if_pos (.inl hsome), if_pos ⟨hsome, rfl, rfl, hnonempty⟩]
      at hidentify
    cases caller <;> cases hidentify
  | complete caller | generate caller => exact ready_identified caller
  | checked request =>
    rcases next_check tools.service tables request input with
      ⟨message, hrefused, -⟩ | ⟨-, -, hchecked⟩
    · rw [hrefused] at hnext
      cases hnext
    · exact pairs_of_checkClaim hidentity hchecked
  | _ => trivial

theorem Dialing.rotation (hdialing : Dialing tools privateRaw world)
    {rotation : CertificateRotate} {now : ℤ}
    (haccepted : RotationAccepted tools.integrations world.tables.store rotation now)
    (hstarts : tools.StartsWithCertificate rotation.certificatePem)
    (hroot : rotation.controllerCa = "" ∨ tools.Appendable rotation.controllerCa)
    (hentries : world'.entries = world.entries)
    (hstored : world'.tables.store =
      world.tables.store.setStates (("node_certificate", rotation.certificatePem) ::
        if rotation.controllerCa = "" then [] else [("controller_ca", rotation.controllerCa)])) :
    Dialing tools privateRaw world' := by
  constructor
  · rw [hstored]
    refine hdialing.identity.congr (Store.state_setStates_of_notMem ?_)
    split_ifs <;> simp [identityKeys]
  · rw [hentries, hstored]
    intro hclaimed
    refine ⟨⟨rotation.certificatePem, ?_,
      pairs_of_rotation hdialing.identity haccepted hstarts⟩, ?_⟩
    · split_ifs <;> simp [Store.setStates]
    · by_cases hempty : rotation.controllerCa = ""
      · obtain ⟨text, htext, happendable⟩ := (hdialing.fits hclaimed).ca
        refine ⟨text, ?_, happendable⟩
        rw [if_pos hempty]
        exact (Store.state_setStates_of_ne (by simp)).trans htext
      · refine ⟨rotation.controllerCa, ?_, hroot.resolve_left hempty⟩
        rw [if_neg hempty]
        simp [Store.setStates]

end Invariant

/-! ### Runs -/

section Runs

variable {tools : DialTools} {privateRaw : List UInt8}

theorem dialing_of_reachable {tables : EnrollmentTables}
    (hidentity : tools.Identity tables.store privateRaw) {system : EnrollmentSystem}
    (hreach : ReachableUnder (enrollmentMachine tools.service tools.integrations).step
      tools.FitsKept (System.idle ⟨tables, [], false⟩) system) :
    Dialing tools privateRaw system.shared ∧ ∀ slot phase, system.threads slot = some phase →
      phase.Ready tools privateRaw := by
  refine Machine.invariant (Dialing tools privateRaw)
    (fun _ phase ↦ phase.Ready tools privateRaw) hreach
    ⟨hidentity, fun hclaimed ↦ absurd rfl hclaimed⟩ ?_ ?_ ?_
  · intro world call _
    cases call <;> trivial
  · intro system slot input next phase phase' world hdialing hslot hready hkept hadvance
    obtain ⟨tables, hnext, rfl⟩ := enrollmentAdvance_cases hadvance
    exact ⟨hdialing.next hready (hkept phase hslot) hnext,
      hready.next hdialing.identity hnext, fun _ _ _ _ hother ↦ hother⟩
  · intro system change next world hdialing hkept hchange
    refine ⟨?_, fun _ _ _ hother ↦ hother⟩
    obtain ⟨hentries, -, hcases⟩ := enrollmentChange_cases hchange
    rcases hcases with ⟨-, hstate⟩ | ⟨-, rotation, now, rfl, haccepted, hhandled, hstored⟩
    · exact hdialing.congr (fun key hkey ↦ hstate key (notMem_serviceKeys key hkey))
        (congrArg lastClaim hentries)
    · obtain ⟨hstarts, hroot⟩ := hkept (by rw [hhandled]; rfl)
      exact hdialing.rotation haccepted hstarts hroot hentries hstored

/-- Assumes: a run from a node with an identity and no call in progress, in which every claim that
is stored and every rotation that is accepted meets the condition, and a claim was stored. The node
can dial its controller. -/
theorem claimed_node_dials {tables : EnrollmentTables}
    (hidentity : tools.Identity tables.store privateRaw) {system : EnrollmentSystem}
    (hreach : ReachableUnder (enrollmentMachine tools.service tools.integrations).step
      tools.FitsKept (System.idle ⟨tables, [], false⟩) system)
    (hclaimed : lastClaim system.shared.entries ≠ none) :
    ∃ config, tools.tlsConfig system.shared.tables.store = .ok config := by
  obtain ⟨hdialing, -⟩ := dialing_of_reachable hidentity hreach
  exact tlsConfig_ok hdialing.identity (hdialing.fits hclaimed)

end Runs

/-! ### A rotation that cuts a node off -/

def soloBlocks (text : String) : List PemBlock :=
  if text = "garbage" then []
  else if text = "trusted" then [⟨"TRUSTED CERTIFICATE", [], []⟩]
  else if text = "headers" then [⟨"CERTIFICATE", [("Issuer", "controller")], []⟩]
  else [⟨"CERTIFICATE", [], []⟩]

def soloTools : DialTools where
  service := { soloService with
    decode := fun value ↦
      .ok (List.replicate (if value = "private" then 64 else 32)
        (if value = "private" ∨ value = "public" then 1 else 0))
    decodePem := fun text ↦ (soloBlocks text).head?.map fun block ↦ (block.type, block.bytes) }
  integrations := { soloIntegrations with
    certificates := ⟨fun text ↦ (soloBlocks text).head?.bind fun block ↦
      (soloService.parseX509 block.bytes).toOption⟩ }
  blocks := soloBlocks
  publicOf := List.drop 32
  noCertificate := fun skipped ↦ "skipped " ++ String.intercalate " " skipped
  decodePem_eq := fun _ ↦ rfl
  parse_eq := fun _ ↦ rfl

def dialClaim (controllerCaPem : String) : List EnrollmentEvent :=
  .start 0 (.claim { soloClaim "first" "token" "quota" with controllerCaPem }) ::
    enrollmentStatements 0 3 ""

def dialRotation (certificatePem controllerCa : String) : EnrollmentEvent :=
  .change (.message (.certificateRotate ⟨certificatePem, controllerCa, 365 * day⟩) 0)

def dialRun (events : List EnrollmentEvent) : EnrollmentSystem :=
  (run (enrollmentMachine soloTools.service soloTools.integrations).step
    (System.idle ⟨startedTables, [], false⟩) events).getD (System.idle ⟨startedTables, [], false⟩)

theorem identity_started :
    soloTools.Identity startedTables.store (List.replicate 64 1) :=
  ⟨rfl, ⟨"private", rfl, by decide, rfl⟩, ⟨"public", rfl, rfl⟩⟩

theorem claimed_node_dials_rotated :
    (dialRun (dialClaim "ca" ++ [dialRotation "renewed" "root"])).shared.rotated = true ∧
    ∃ config, soloTools.tlsConfig
      (dialRun (dialClaim "ca" ++ [dialRotation "renewed" "root"])).shared.tables.store =
        .ok config := by
  exact ⟨rfl, claimed_node_dials identity_started (reachableUnder_getD rfl) nofun⟩

/-- A rotation with a CA text that has no certificate in it, a rotation whose certificate is a block
of another type, and a claim whose CA text has headers are all accepted, and the node can no longer
dial. -/
theorem undialable_after_rotation :
    (∃ system : EnrollmentSystem, Reachable
        (enrollmentMachine soloTools.service soloTools.integrations).step
        (System.idle ⟨startedTables, [], false⟩) system ∧
      lastClaim system.shared.entries ≠ none ∧ system.shared.rotated = true ∧
      soloTools.tlsConfig system.shared.tables.store = .error "invalid controller CA") ∧
    (∃ system : EnrollmentSystem, Reachable
        (enrollmentMachine soloTools.service soloTools.integrations).step
        (System.idle ⟨startedTables, [], false⟩) system ∧
      lastClaim system.shared.entries ≠ none ∧ system.shared.rotated = true ∧
      soloTools.tlsConfig system.shared.tables.store = .error "skipped TRUSTED CERTIFICATE") ∧
    ∃ system : EnrollmentSystem, Reachable
        (enrollmentMachine soloTools.service soloTools.integrations).step
        (System.idle ⟨startedTables, [], false⟩) system ∧
      lastClaim system.shared.entries ≠ none ∧ system.shared.rotated = false ∧
      soloTools.tlsConfig system.shared.tables.store = .error "invalid controller CA" := by
  exact ⟨⟨dialRun (dialClaim "ca" ++ [dialRotation "renewed" "garbage"]),
      reachable_getD _, by decide, rfl, rfl⟩,
    ⟨dialRun (dialClaim "ca" ++ [dialRotation "trusted" ""]),
      reachable_getD _, by decide, rfl, rfl⟩,
    ⟨dialRun (dialClaim "headers"), reachable_getD _, by decide, rfl, rfl⟩⟩

end RiseVpn
