import RiseVpn.Node.Dialing

/-!
# The identity of a node

A node has an id and a key pair, three values of its `state` table. `ensureIdentity` generates them
at the first start: it looks for each of the three, and if it finds none it stores all of them in
one transaction. `Claim` and `certificate.rotate` store a certificate once they have compared its
key with the stored one. Every other writer of the table uses keys of its own.

The system is that of `EnrollmentTokens`, in which the calls of the service interleave with messages
and with the values that the other parts of the node store; any statement may fail, and a process
that ends leaves its calls where they are. `DialTools.WholeIdentity` is the invariant: none or all
of the three values, and a certificate of the stored key. It holds, and the values are permanent,
as long as a call stores an identity only where there still is none (`GeneratesOnce`).

Nothing in the source ensures this. The three reads and the transaction of `ensureIdentity` are four
statements, and `serve` and `enrollment reenroll` are processes of their own.
`identity_replaced` is a run in which both find no identity: the second replaces the identity of a
node that a controller has claimed in the meantime.
-/

set_option autoImplicit false

namespace RiseVpn

open Threads GuardedRun

/-! ### Whole identities -/

def NoIdentity (store : Store) : Prop := ∀ key ∈ identityKeys, store.state key = none
  deriving Decidable

def IdentityKept (store later : Store) : Prop :=
  ∀ key ∈ identityKeys, ∀ value ∈ store.state key, later.state key = some value

def DialTools.Certifies (tools : DialTools) (store : Store) (text : String) : Prop :=
  ∃ certificate encoded publicRaw, tools.integrations.certificates.parse text = some certificate ∧
    store.state "node_public_key" = some encoded ∧
    tools.service.decode encoded = .ok publicRaw ∧
    tools.service.hasKey certificate publicRaw = true

/-- None or all of the values of the identity are stored, and a certificate only with its key. -/
structure DialTools.WholeIdentity (tools : DialTools) (store : Store) : Prop where
  whole : NoIdentity store ∨ ∀ key ∈ identityKeys, store.state key ≠ none
  certificate : ∀ text ∈ store.state "node_certificate", tools.Certifies store text

def DialTools.KeysEncoded (tools : DialTools) : Prop :=
  ∀ bytes certificate, tools.service.parseX509 bytes = .ok certificate →
    ∀ encoded ∈ certificate.publicKey, ∃ publicRaw, tools.service.decode encoded = .ok publicRaw

def EnrollmentPhase.generates : EnrollmentPhase → Bool
  | .identity _ => true
  | _ => false

/-- The condition on the steps of a run: a call stores an identity only where there is none. -/
def GeneratesOnce (system : EnrollmentSystem) (event : EnrollmentEvent) (_next : EnrollmentSystem) :
    Prop :=
  match event with
  | .advance slot _ => ∀ phase ∈ system.threads slot, phase.generates = true →
      NoIdentity system.shared.tables.store
  | _ => True

instance (system : EnrollmentSystem) : (event : EnrollmentEvent) → (next : EnrollmentSystem) →
      Decidable (GeneratesOnce system event next)
  | .advance _ _, _ => inferInstanceAs (Decidable (∀ _ ∈ _, _))
  | .start _ _, _ | .change _, _ => isTrue trivial

def EnrollmentPhase.Certified (tools : DialTools) (world : EnrollmentWorld) :
    EnrollmentPhase → Prop
  | .claiming request => tools.Certifies world.tables.store request.nodeCertificatePem
  | _ => True

section Values

variable {tools : DialTools} {store later : Store} {text : String}

theorem identityKept_of_same (hsame : ∀ key ∈ identityKeys, later.state key = store.state key) :
    IdentityKept store later :=
  fun key hkey _ hvalue ↦ (hsame key hkey).trans hvalue

theorem DialTools.Certifies.kept (hcertifies : tools.Certifies store text)
    (hkept : IdentityKept store later) : tools.Certifies later text := by
  obtain ⟨certificate, encoded, publicRaw, hparse, hencoded, hvalid⟩ := hcertifies
  exact ⟨certificate, encoded, publicRaw, hparse, hkept _ (by decide) encoded hencoded, hvalid⟩

theorem NoIdentity.not_certifies (hnone : NoIdentity store) : ¬ tools.Certifies store text := by
  rintro ⟨certificate, encoded, publicRaw, -, hencoded, -⟩
  cases (hnone "node_public_key" (by decide)).symm.trans hencoded

theorem DialTools.WholeIdentity.same (hwhole : tools.WholeIdentity store)
    (hsame : ∀ key ∈ identityKeys, later.state key = store.state key)
    (hcertificate : ∀ text ∈ later.state "node_certificate",
      text ∈ store.state "node_certificate" ∨ tools.Certifies store text) :
    tools.WholeIdentity later := by
  constructor
  · refine hwhole.whole.imp (fun hnone key hkey ↦ ?_) (fun hall key hkey ↦ ?_)
    · exact (hsame key hkey).trans (hnone key hkey)
    · rw [hsame key hkey]
      exact hall key hkey
  · intro text htext
    have hcertifies := (hcertificate text htext).elim (hwhole.certificate text) id
    exact hcertifies.kept (identityKept_of_same hsame)

end Values

/-! ### One step -/

section Step

variable {tools : DialTools} {world world' : EnrollmentWorld} {phase phase' : EnrollmentPhase}
  {input : EnrollmentInput} {tables : EnrollmentTables}

theorem record_tables (world : EnrollmentWorld) (tables : EnrollmentTables)
    (new : Option EnrollmentEntry) : (world.record tables new).tables = tables := by
  match new with
  | none | some (.issued _) | some (.claimed _) => rfl

theorem certifies_of_rotation (hkeys : tools.KeysEncoded) {store : Store}
    {rotation : CertificateRotate} {now : ℤ}
    (haccepted : RotationAccepted tools.integrations store rotation now) :
    tools.Certifies store rotation.certificatePem := by
  obtain ⟨certificate, encoded, hparse, hencoded, hkey, -⟩ := haccepted
  obtain ⟨block, -, hparsed⟩ := parse_ok hparse
  obtain ⟨publicRaw, hraw⟩ := hkeys block.bytes certificate hparsed encoded hkey
  refine ⟨certificate, encoded, publicRaw, hparse, hencoded, hraw, ?_⟩
  rw [EnrollmentService.hasKey, hkey]
  simp [hraw]

theorem change_identity (hkeys : tools.KeysEncoded) {change : EnrollmentChange}
    (hchange : (enrollmentMachine tools.service tools.integrations).change world change =
      some world') :
    (∀ key ∈ identityKeys,
      world'.tables.store.state key = world.tables.store.state key) ∧
    ∀ text ∈ world'.tables.store.state "node_certificate",
      text ∈ world.tables.store.state "node_certificate" ∨
        tools.Certifies world.tables.store text := by
  obtain ⟨-, -, hcases⟩ := enrollmentChange_cases hchange
  rcases hcases with ⟨-, hstate⟩ | ⟨-, rotation, now, -, haccepted, -, hstored⟩
  · have hsame := fun key hkey ↦ hstate key (notMem_serviceKeys key hkey)
    exact ⟨fun key hkey ↦ hsame key (List.mem_append_right _ hkey),
      fun text htext ↦ .inl ((hsame "node_certificate" (by decide)).symm.trans htext)⟩
  · rw [hstored]
    refine ⟨Store.state_setStates_of_notMem ?_, fun text htext ↦ .inr ?_⟩
    · split_ifs <;> simp [identityKeys]
    · have hnew : text = rotation.certificatePem := by
        split_ifs at htext <;> simpa [Store.setStates, eq_comm] using htext
      rw [hnew]
      exact certifies_of_rotation hkeys haccepted

section

variable (hnext : phase.next tools.service world.tables input = some (tables, phase'))

include hnext

theorem next_identity :
    (phase.generates = true ∧ (∀ key ∈ identityKeys, tables.store.state key ≠ none) ∧
      tables.store.state "node_certificate" = world.tables.store.state "node_certificate") ∨
    (∀ key ∈ identityKeys, tables.store.state key = world.tables.store.state key) ∧
      ∀ text ∈ tables.store.state "node_certificate",
        text ∈ world.tables.store.state "node_certificate" ∨
          ∃ request, phase = .claiming request ∧ text = request.nodeCertificatePem := by
  cases enrollmentStep_of_next hnext with
  | generate caller values =>
    left
    have hvalues := congrArg Prod.fst
      (of_execute_eq (Option.some.inj hnext) (fun _ hfailed ↦ by cases caller <;> cases hfailed))
    dsimp only at hvalues
    rw [← hvalues]
    refine ⟨rfl, ?_, Store.state_setStates_of_ne (by simp)⟩
    simp [identityKeys, EnrollmentTables.setStates, Store.setStates]
  | claim request row now =>
    refine .inr ⟨Store.state_setStates_of_notMem (by simp [identityKeys]), fun text htext ↦ .inr ?_⟩
    have hfrom := comesFrom_claimed world.tables request row now []
    exact ⟨request, rfl, Option.mem_unique htext (hfrom.certificate rfl)⟩
  | keys request =>
    have hsame := @Store.state_setStates_of_notMem world.tables.store _ _
      (optionalKeys_notMem_dialKeys request)
    refine .inr ⟨fun key hkey ↦ hsame key (List.mem_append_right _ hkey), fun text htext ↦ .inl ?_⟩
    exact (hsame "node_certificate" (by decide)).symm.trans htext
  | _ => exact .inr ⟨fun _ _ ↦ rfl, fun _ htext ↦ .inl htext⟩

theorem next_kept (honce : phase.generates = true → NoIdentity world.tables.store) :
    IdentityKept world.tables.store tables.store := by
  rcases next_identity hnext with ⟨hgenerates, -⟩ | ⟨hsame, -⟩
  · intro key hkey value hvalue
    cases (honce hgenerates key hkey).symm.trans hvalue
  · exact identityKept_of_same hsame

theorem DialTools.WholeIdentity.next (hwhole : tools.WholeIdentity world.tables.store)
    (hcertified : phase.Certified tools world)
    (honce : phase.generates = true → NoIdentity world.tables.store) :
    tools.WholeIdentity tables.store := by
  rcases next_identity hnext with ⟨hgenerates, hall, hcertificate⟩ | ⟨hsame, hcertificate⟩
  · refine ⟨.inr hall, fun text htext ↦ ?_⟩
    rw [hcertificate] at htext
    exact absurd (hwhole.certificate text htext) (honce hgenerates).not_certifies
  · refine hwhole.same hsame fun text htext ↦ ?_
    refine (hcertificate text htext).imp_right ?_
    rintro ⟨request, rfl, rfl⟩
    exact hcertified

theorem EnrollmentPhase.Certified.next :
    phase'.Certified tools (world.record tables (phase.entry phase')) := by
  cases enrollmentStep_of_next hnext with
  | checked request =>
    rcases next_check tools.service world.tables request input with
      ⟨message, hrefused, -⟩ | ⟨-, -, hchecked⟩
    · cases hnext.symm.trans hrefused
    obtain ⟨certificate, encoded, publicRaw, hparse, hencoded, hraw, hkey⟩ := checkClaim_ok hchecked
    obtain ⟨block, hhead, -, hparsed⟩ := parseCertificate_ok hparse
    refine ⟨certificate, encoded, publicRaw, ?_, hencoded, hraw, hkey⟩
    rw [tools.parse_eq, hhead, Option.bind_some, hparsed]
    rfl
  | complete caller | generate caller => cases caller <;> trivial
  | _ => trivial

end

end Step

/-! ### Runs -/

section Runs

variable {tools : DialTools} {tables : EnrollmentTables} {system later : EnrollmentSystem}

theorem wholeIdentity_of_reachable (hkeys : tools.KeysEncoded)
    (hstart : tools.WholeIdentity tables.store)
    (hreach : ReachableUnder (enrollmentMachine tools.service tools.integrations).step
      GeneratesOnce (System.idle ⟨tables, [], false⟩) system) :
    tools.WholeIdentity system.shared.tables.store := by
  have hcertified : ∀ {world world' : EnrollmentWorld} {phase : EnrollmentPhase},
      IdentityKept world.tables.store world'.tables.store → phase.Certified tools world →
        phase.Certified tools world' := by
    intro world world' phase hkept hphase
    cases phase with
    | claiming request => exact DialTools.Certifies.kept hphase hkept
    | _ => trivial
  refine (Machine.invariant (fun world ↦ tools.WholeIdentity world.tables.store)
    (fun world phase ↦ phase.Certified tools world) hreach hstart ?_ ?_ ?_).1
  · intro world call _
    cases call <;> trivial
  · intro system slot input next phase phase' world hwhole hslot hphase honce hadvance
    obtain ⟨tables, hnext, rfl⟩ := enrollmentAdvance_cases hadvance
    have htables := record_tables system.shared tables (phase.entry phase')
    refine ⟨?_, EnrollmentPhase.Certified.next hnext, fun other found _ _ hfound ↦ ?_⟩
    · rw [htables]
      exact hwhole.next hnext hphase (honce phase hslot)
    · refine hcertified ?_ hfound
      rw [htables]
      exact next_kept hnext (honce phase hslot)
  · intro system change next world hwhole _ hchange
    obtain ⟨hsame, hcertificate⟩ := change_identity hkeys hchange
    exact ⟨hwhole.same hsame hcertificate,
      fun _ _ _ hphase ↦ hcertified (identityKept_of_same hsame) hphase⟩

theorem identityKept_step (hkeys : tools.KeysEncoded) {event : EnrollmentEvent}
    (honce : GeneratesOnce system event later)
    (hstep : (enrollmentMachine tools.service tools.integrations).step system event =
      some later) :
    IdentityKept system.shared.tables.store later.shared.tables.store := by
  rcases step_cases hstep with ⟨slot, call, rfl, -, rfl⟩ |
    ⟨slot, input, phase, world, phase', rfl, hslot, hadvance, rfl⟩ |
    ⟨change, world, rfl, hchange, rfl⟩
  · exact identityKept_of_same fun _ _ ↦ rfl
  · obtain ⟨tables, hnext, rfl⟩ := enrollmentAdvance_cases hadvance
    dsimp only
    rw [record_tables]
    exact next_kept hnext (honce phase hslot)
  · exact identityKept_of_same (change_identity hkeys hchange).1

/-- Assumes: a run from a node with a whole identity or none, in which a call stores an identity
only where there is none. In every state none or all of the identity is stored and the stored
certificate is one of the stored key, and in every later state the identity is the same. -/
theorem identity_permanent (hkeys : tools.KeysEncoded)
    (hstart : tools.WholeIdentity tables.store)
    (hreach : ReachableUnder (enrollmentMachine tools.service tools.integrations).step
      GeneratesOnce (System.idle ⟨tables, [], false⟩) system) :
    tools.WholeIdentity system.shared.tables.store ∧
    ∀ later, ReachableUnder (enrollmentMachine tools.service tools.integrations).step
      GeneratesOnce system later →
        IdentityKept system.shared.tables.store later.shared.tables.store := by
  refine ⟨wholeIdentity_of_reachable hkeys hstart hreach, fun later hlater ↦ ?_⟩
  refine hlater.invariant
    (fun state ↦ IdentityKept system.shared.tables.store state.shared.tables.store)
    (identityKept_of_same fun _ _ ↦ rfl) ?_
  intro state event next hkept honce hstep key hkey value hvalue
  exact identityKept_step hkeys honce hstep key hkey value (hkept key hkey value hvalue)

end Runs

/-! ### Two processes at the first start -/

def firstClaim : List EnrollmentEvent :=
  .start 2 (.claim (soloClaim "first" "token" "quota")) :: enrollmentStatements 2 3 ""

def firstStart : List EnrollmentEvent :=
  [.start 0 .ensure] ++ enrollmentStatements 0 11 "token" ++ firstClaim ++
    [dialRotation "renewed" ""]

def otherInput : EnrollmentInput := ⟨0, "late", "other", "other", "other", none⟩

def twoStarts : List EnrollmentEvent :=
  [.start 0 .ensure, .start 1 .reenroll] ++ List.replicate 3 (.advance 1 otherInput) ++
    enrollmentStatements 0 11 "token" ++ firstClaim

def identityRun (events : List EnrollmentEvent) : EnrollmentSystem :=
  (run (enrollmentMachine soloTools.service soloTools.integrations).step
    (System.idle ⟨freshTables, [], false⟩) events).getD (System.idle ⟨freshTables, [], false⟩)

theorem identity_permanent_rotated :
    (identityRun firstStart).shared.tables.store.state "node_certificate" = some "renewed" ∧
    (identityRun firstStart).shared.tables.store.state "node_public_key" = some "public" ∧
    soloTools.WholeIdentity (identityRun firstStart).shared.tables.store := by
  have hfresh : soloTools.WholeIdentity freshTables.store :=
    ⟨.inl fun _ _ ↦ rfl, fun text htext ↦ by cases htext⟩
  exact ⟨rfl, rfl, (identity_permanent (fun _ _ _ _ _ ↦ ⟨_, rfl⟩) hfresh
    (reachableUnder_getD rfl)).1⟩

/-- The node has been claimed with the certificate of its key, and then its id and both of its keys
are replaced. -/
theorem identity_replaced :
    ∃ system later : EnrollmentSystem, Reachable
        (enrollmentMachine soloTools.service soloTools.integrations).step
        (System.idle ⟨freshTables, [], false⟩) system ∧
      (enrollmentMachine soloTools.service soloTools.integrations).step system
        (.advance 1 otherInput) = some later ∧
      system.threads 2 = some (.accepted (soloClaim "first" "token" "quota")) ∧
      identityKeys.map system.shared.tables.store.state =
        [some "node", some "public", some "private"] ∧
      identityKeys.map later.shared.tables.store.state =
        [some "other", some "other", some "other"] ∧
      ¬ soloTools.WholeIdentity later.shared.tables.store := by
  refine ⟨identityRun twoStarts, identityRun (twoStarts ++ [.advance 1 otherInput]),
    reachable_getD _, rfl, rfl, rfl, rfl, fun hwhole ↦ ?_⟩
  obtain ⟨certificate, encoded, publicRaw, hparse, hencoded, hraw, hkey⟩ :=
    hwhole.certificate "first" rfl
  cases hparse
  cases hencoded
  cases hraw
  exact absurd hkey (by decide)

end RiseVpn
