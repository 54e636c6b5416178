import RiseVpn.Control.Statements
import RiseVpn.Node.Client

/-!
# Rotation of node certificates

The row of one node in the controller, its `certificate.rotate` commands, the node, and the network
between them. The statements of `rotateCertificates`, of `NodeHub.deliver` and of the
acknowledgement branch of `NodeHub.readLoop` are separate steps, since each commits on its own. A
message or a reply that was ever sent may arrive at any time, any number of times and in any order,
or never.

A node is accepted by its stored certificate as long as the serial is in one of the two columns of
its row (`NodeRow.Accepts`). That is lost when an acknowledgement is processed twice (the second one
moves NULL into the column), when a new rotation starts while the node holds a certificate whose
acknowledgement was lost, and when an old command is applied or acknowledged late. `InOrder` is the
condition on the steps that excludes these, `RotationSound` the invariant, and
`rotation_keeps_access` the result for all runs under the condition. `rotation_locks_out` is a run
outside it: a command that is sent twice.
-/

set_option autoImplicit false

namespace RiseVpn.Fleet

open Control GuardedRun

/-! ### The system -/

/-- The `status` of a node. -/
inductive NodeStatus
  | pending
  | healthy
  | degraded
  | offline
  | draining
  deriving DecidableEq

/-- The columns of a row of `nodes` that rotation uses. -/
structure NodeRow where
  status : NodeStatus
  publicKey : String
  certificateSerial : Option ℕ
  certificateNotAfter : Option ℤ
  nextCertificateSerial : Option ℕ
  nextCertificateNotAfter : Option ℤ
  deriving DecidableEq

/-- `certificate_serial=$2 OR next_certificate_serial=$2`, the check of `NodeHub.Connect`. -/
def NodeRow.Accepts (row : NodeRow) (serial : ℕ) : Prop :=
  row.certificateSerial = some serial ∨ row.nextCertificateSerial = some serial
  deriving Decidable

/-- The controller's side and the node of one rotation after another. `rotating` is set between the
two statements of `rotateCertificates`, `selected` and `written` hold the commands that a call of
`deliver` has selected and not written, and written and not marked; `acked` holds those whose
acknowledgement was read and whose promotion is outstanding. `sent` and `replies` are everything
that was ever sent. -/
structure RotationWorld where
  clock : ℤ
  row : NodeRow
  commands : List Command
  rotating : Bool
  selected : List ℕ
  written : List ℕ
  sent : List ℕ
  client : Client
  replies : List Reply
  acked : List MessageId

inductive RotationEvent
  | tick (elapsed : ℕ)
  | connect
  | disconnect
  | rotateSelect
  | rotateIssue (certificatePem controllerCa : String) (serial : ℕ)
  | deliverSelect (id : ℕ)
  | deliverWrite (id : ℕ)
  | deliverMark (id : ℕ)
  | deliverExpire
  | receive (id : ℕ)
  | restart
  | readReply (reply : Reply)
  | promote (id : ℕ)

def storedSerial (certificates : Certificates) (store : Store) : Option ℕ :=
  ((store.state "node_certificate").bind certificates.parse).map Certificate.serialNumber

def Open (command : Command) : Prop := command.status = .pending ∨ command.status = .sent
  deriving Decidable

/-- The `WHERE` of `rotateCertificates`. -/
def RotationWorld.DueForRotation (world : RotationWorld) : Prop :=
  (∃ notAfter ∈ world.row.certificateNotAfter, notAfter < world.clock + 7 * day) ∧
    world.row.status ≠ .pending ∧ ∀ command ∈ world.commands, ¬ Open command
  deriving Decidable

/-- The row of a command after `deliver` has sent it. -/
def markedSent (now : ℤ) (command : Command) : Command :=
  { command with
    status := .sent
    attempts := command.attempts + 1
    notBefore := now + min (5 * minute) (2 * second * 2 ^ min command.attempts 7) }

/-- `UPDATE node_commands SET status=… WHERE id=…`. -/
def setStatus (replyTo : MessageId) (status : CommandStatus) (command : Command) : Command :=
  if Nat.repr command.id = replyTo then { command with status := status } else command

/-- The `UPDATE nodes` after the acknowledgement of a rotation. -/
def promoted (row : NodeRow) : NodeRow :=
  { row with
    certificateSerial := row.nextCertificateSerial
    certificateNotAfter := row.nextCertificateNotAfter
    nextCertificateSerial := none
    nextCertificateNotAfter := none }

/-- One event of the system. `Issue` draws a serial; its certificate is valid for 30 days and, as a
certificate, keeps whole seconds. -/
def RotationWorld.step (node : NodeId) (integrations : Integrations) (world : RotationWorld) :
    RotationEvent → Option RotationWorld
  | .tick elapsed => some { world with clock := world.clock + elapsed }
  | .connect =>
    match storedSerial integrations.certificates world.client.store with
    | none => none
    | some serial =>
      if world.row.Accepts serial then
        some { world with row := { world.row with status := .healthy } }
      else none
  | .disconnect => some { world with row := { world.row with status := .offline } }
  | .rotateSelect => if world.DueForRotation then some { world with rotating := true } else none
  | .rotateIssue certificatePem controllerCa serial =>
    if world.rotating ∧ integrations.certificates.parse certificatePem =
        some ⟨serial, some world.row.publicKey, ofUnix (unix (world.clock + 30 * day))⟩ then
      some { world with
        rotating := false
        row := { world.row with
          nextCertificateSerial := some serial
          nextCertificateNotAfter := some (world.clock + 30 * day) }
        commands := world.commands ++ [Database.newCommand world.clock world.commands.length
          (node, .certificateRotate ⟨certificatePem, controllerCa, world.clock + 30 * day⟩)] }
    else none
  | .deliverSelect id =>
    match world.commands[id]? with
    | none => none
    | some command =>
      if Open command ∧ command.notBefore ≤ world.clock ∧ world.clock < command.expiresAt then
        some { world with selected := id :: world.selected }
      else none
  | .deliverWrite id =>
    if id ∈ world.selected then
      some { world with
        selected := world.selected.erase id
        written := id :: world.written
        sent := id :: world.sent }
    else none
  | .deliverMark id =>
    if id ∈ world.written then
      some { world with
        written := world.written.erase id
        commands := world.commands.modify id (markedSent world.clock) }
    else none
  | .deliverExpire =>
    some { world with
      commands := world.commands.map fun command ↦
        if Open command ∧ command.expiresAt ≤ world.clock then { command with status := .expired }
        else command }
  | .receive id =>
    match world.commands[id]? with
    | none => none
    | some command =>
      if id ∈ world.sent then
        let (client, reply) :=
          world.client.receive integrations (Nat.repr id) command.message world.clock
        some { world with client, replies := reply :: world.replies }
      else none
  | .restart => some { world with client := { world.client with seen := [] } }
  | .readReply reply =>
    if reply ∈ world.replies then
      match reply with
      | .ack replyTo _ =>
        some { world with
          commands := world.commands.map (setStatus replyTo .acked)
          acked := replyTo :: world.acked }
      | .nack replyTo _ =>
        some { world with commands := world.commands.map (setStatus replyTo .nacked) }
    else none
  | .promote id =>
    if Nat.repr id ∈ world.acked then
      some { world with row := promoted world.row, acked := world.acked.erase (Nat.repr id) }
    else none

/-! ### Rotations in order -/

def RotationWorld.Newest (world : RotationWorld) (id : ℕ) : Prop := id + 1 = world.commands.length

/-- The condition on the steps of a run: a rotation starts only when the node presents the serial of
the first column, the node applies no command but the newest, and only an acknowledgement of the
newest command is processed, and only while its serial is still in the second column. -/
def InOrder (certificates : Certificates) (world : RotationWorld) (event : RotationEvent)
    (_next : RotationWorld) : Prop :=
  match event with
  | .rotateIssue _ _ _ =>
    storedSerial certificates world.client.store = world.row.certificateSerial
  | .receive id => Nat.repr id ∈ world.client.seen ∨ world.Newest id
  | .promote id => world.Newest id ∧ world.row.nextCertificateSerial ≠ none
  | _ => True

def serialAt (certificates : Certificates) (commands : List Command) (id : ℕ) : Option ℕ :=
  match (commands.map Command.message)[id]? with
  | some (.certificateRotate rotation) =>
    (certificates.parse rotation.certificatePem).map Certificate.serialNumber
  | _ => none

/-- The node has acknowledged a command, or would acknowledge it again. -/
def RotationWorld.Confirmed (world : RotationWorld) (id : MessageId) : Prop :=
  (∃ code, .ack id code ∈ world.replies) ∨ id ∈ world.acked ∨ id ∈ world.client.seen

/-- What holds of the system while rotations run in order. When no rotation is running the node has
the newest certificate and the first column names it; during a rotation the second column names the
newest one, and the node has that or the one of the first column. -/
structure RotationSound (certificates : Certificates) (world : RotationWorld) : Prop where
  rotations : ∀ command ∈ world.commands, ∃ rotation, command.message = .certificateRotate rotation
  known : ∀ id, world.Confirmed id → ∃ number < world.commands.length, id = Nat.repr number
  confirmed : ∀ id, world.Newest id → world.Confirmed (Nat.repr id) →
    storedSerial certificates world.client.store = serialAt certificates world.commands id
  access : ∃ serial, storedSerial certificates world.client.store = some serial ∧
    ((world.row.nextCertificateSerial = none ∧ world.row.certificateSerial = some serial ∧
        ∀ id, world.Newest id → serialAt certificates world.commands id = some serial) ∨
      ∃ fresh, world.row.nextCertificateSerial = some fresh ∧
        (∀ id, world.Newest id → serialAt certificates world.commands id = some fresh) ∧
        (world.row.certificateSerial = some serial ∨ serial = fresh))

section Invariant

variable {node : NodeId} {integrations : Integrations} {certificates : Certificates}
  {world next : RotationWorld}

theorem messages_modify (commands : List Command) (id : ℕ) (change : Command → Command)
    (hchange : ∀ command, (change command).message = command.message) :
    (commands.modify id change).map Command.message = commands.map Command.message := by
  refine List.ext_getElem? fun i ↦ ?_
  rw [List.getElem?_map, List.getElem?_map, List.getElem?_modify]
  split_ifs
  · cases commands[i]? <;> simp [hchange]
  · simp

theorem messages_map (commands : List Command) (change : Command → Command)
    (hchange : ∀ command, (change command).message = command.message) :
    (commands.map change).map Command.message = commands.map Command.message := by
  rw [List.map_map]
  exact List.map_congr_left fun command _ ↦ hchange command

theorem RotationSound.of_same (hsound : RotationSound certificates world)
    (hmessages : next.commands.map Command.message = world.commands.map Command.message)
    (hstore : next.client.store = world.client.store)
    (hcurrent : next.row.certificateSerial = world.row.certificateSerial)
    (hnext : next.row.nextCertificateSerial = world.row.nextCertificateSerial)
    (hconfirmed : ∀ id, next.Confirmed id → world.Confirmed id) :
    RotationSound certificates next := by
  have hlength : next.commands.length = world.commands.length := by
    simpa using congrArg List.length hmessages
  have hnewest : ∀ id, next.Newest id → world.Newest id := fun id hid ↦ hid.trans hlength
  have hserial : ∀ id, serialAt certificates next.commands id =
      serialAt certificates world.commands id := fun id ↦ by rw [serialAt, serialAt, hmessages]
  refine ⟨fun command hcommand ↦ ?_, fun id hid ↦ ?_, fun id hid hdone ↦ ?_, ?_⟩
  · have hmessage : command.message ∈ world.commands.map Command.message :=
      hmessages ▸ List.mem_map_of_mem hcommand
    obtain ⟨old, hold, hsame⟩ := List.mem_map.mp hmessage
    exact hsame ▸ hsound.rotations old hold
  · rw [hlength]
    exact hsound.known id (hconfirmed id hid)
  · rw [hstore, hserial]
    exact hsound.confirmed id (hnewest id hid) (hconfirmed _ hdone)
  · rw [hstore, hcurrent, hnext]
    simp only [hserial]
    obtain ⟨serial, hstored, hcases⟩ := hsound.access
    refine ⟨serial, hstored, ?_⟩
    rcases hcases with ⟨hnone, hcurrent, hserials⟩ | ⟨fresh, hsome, hserials, hone⟩
    · exact .inl ⟨hnone, hcurrent, fun id hid ↦ hserials id (hnewest id hid)⟩
    · exact .inr ⟨fresh, hsome, fun id hid ↦ hserials id (hnewest id hid), hone⟩

theorem RotationSound.issue (hsound : RotationSound certificates world)
    {rotation : CertificateRotate} {certificate : Certificate}
    (hparse : certificates.parse rotation.certificatePem = some certificate)
    (hcurrent : storedSerial certificates world.client.store = world.row.certificateSerial)
    {command : Command} (hcommand : command.message = .certificateRotate rotation)
    (hclient : next.client = world.client) (hreplies : next.replies = world.replies)
    (hacked : next.acked = world.acked) (hcommands : next.commands = world.commands ++ [command])
    (hrow : next.row.certificateSerial = world.row.certificateSerial)
    (hnext : next.row.nextCertificateSerial = some certificate.serialNumber) :
    RotationSound certificates next := by
  have hlength : next.commands.length = world.commands.length + 1 := by simp [hcommands]
  have hserial : ∀ id, next.Newest id →
      serialAt certificates next.commands id = some certificate.serialNumber := by
    intro id hid
    have hid : id = world.commands.length := Nat.succ.inj (hid.trans hlength)
    simp [serialAt, hcommands, hid, hcommand, hparse]
  have hconfirmed : ∀ id, next.Confirmed id → world.Confirmed id := by
    intro id hid
    rwa [RotationWorld.Confirmed, hreplies, hacked, hclient] at hid
  refine ⟨fun other hother ↦ ?_, fun id hid ↦ ?_, fun id hid hdone ↦ ?_, ?_⟩
  · rw [hcommands, List.mem_append, List.mem_singleton] at hother
    rcases hother with hold | rfl
    · exact hsound.rotations other hold
    · exact ⟨rotation, hcommand⟩
  · obtain ⟨number, hnumber, hsame⟩ := hsound.known id (hconfirmed id hid)
    exact ⟨number, by omega, hsame⟩
  · -- The id of the new command is new, so nothing has confirmed it.
    obtain ⟨number, hnumber, hsame⟩ := hsound.known _ (hconfirmed _ hdone)
    have hid : id + 1 = world.commands.length + 1 := hid.trans hlength
    have := DecimalText.repr_injective hsame
    omega
  · obtain ⟨serial, hstored, -⟩ := hsound.access
    rw [hclient, hrow]
    exact ⟨serial, hstored, .inr ⟨_, hnext, hserial, .inl (hcurrent ▸ hstored)⟩⟩

theorem RotationWorld.Confirmed.of_reply {client : Client} {reply : Reply} {other : MessageId}
    (hother : RotationWorld.Confirmed
      { world with client, replies := reply :: world.replies } other)
    (hreply : ∀ code, reply = .ack other code → world.Confirmed other)
    (hseen : other ∈ client.seen → world.Confirmed other) : world.Confirmed other := by
  rcases hother with ⟨code, hcode⟩ | hacked | hclient
  · rcases List.mem_cons.mp hcode with hnew | hold
    · exact hreply code hnew.symm
    · exact .inl ⟨code, hold⟩
  · exact .inr (.inl hacked)
  · exact hseen hclient

theorem RotationSound.receive (hsound : RotationSound integrations.certificates world) {id : ℕ}
    {command : Command} (hcommand : world.commands[id]? = some command)
    (horder : Nat.repr id ∈ world.client.seen ∨ world.Newest id)
    {client : Client} {reply : Reply}
    (hreceive : world.client.receive integrations (Nat.repr id) command.message world.clock =
      (client, reply)) :
    RotationSound integrations.certificates
      { world with client, replies := reply :: world.replies } := by
  obtain ⟨rotation, hrotation⟩ := hsound.rotations command (List.mem_of_getElem? hcommand)
  have hlength : id < world.commands.length := (List.getElem?_eq_some_iff.mp hcommand).1
  have hserial : serialAt integrations.certificates world.commands id =
      (integrations.certificates.parse rotation.certificatePem).map Certificate.serialNumber := by
    simp [serialAt, hcommand, hrotation]
  rw [hrotation] at hreceive
  rcases receive_rotate_cases integrations world.client (Nat.repr id) rotation world.clock with
    ⟨hseen, hduplicate⟩ | ⟨error, hrefused⟩ | ⟨hunseen, store, hstored, happlied⟩
  · cases hduplicate.symm.trans hreceive
    refine hsound.of_same rfl rfl rfl rfl fun other hother ↦
      hother.of_reply (fun code hack ↦ ?_) fun hknown ↦ .inr (.inr hknown)
    cases hack
    exact .inr (.inr hseen)
  · cases hrefused.symm.trans hreceive
    refine hsound.of_same rfl rfl rfl rfl fun other hother ↦
      hother.of_reply (fun code hack ↦ ?_) fun hknown ↦ .inr (.inr hknown)
    cases hack
  · cases happlied.symm.trans hreceive
    have hnewest : world.Newest id := horder.resolve_left hunseen
    have hstoredSerial : storedSerial integrations.certificates store =
        serialAt integrations.certificates world.commands id := by
      rw [hserial, storedSerial, hstored, Option.bind_some]
    refine ⟨hsound.rotations, fun other hother ↦ ?_, fun other hother _ ↦ ?_, ?_⟩
    · by_cases hsame : other = Nat.repr id
      · exact ⟨id, hlength, hsame⟩
      · refine hsound.known other (hother.of_reply (fun code hack ↦ ?_) fun hseen ↦ ?_)
        · cases hack
          exact absurd rfl hsame
        · exact .inr (.inr (mem_of_mem_markSeen hseen hsame))
    · have hsame : other = id := Nat.succ.inj (Eq.trans hother hnewest.symm)
      rw [hsame]
      exact hstoredSerial
    · obtain ⟨serial, -, hcases⟩ := hsound.access
      rcases hcases with ⟨hnone, hcurrent, hserials⟩ | ⟨fresh, hsome, hserials, -⟩
      · exact ⟨serial, hstoredSerial.trans (hserials id hnewest),
          .inl ⟨hnone, hcurrent, hserials⟩⟩
      · exact ⟨fresh, hstoredSerial.trans (hserials id hnewest),
          .inr ⟨fresh, hsome, hserials, .inr rfl⟩⟩

theorem RotationSound.promote (hsound : RotationSound certificates world) {id : ℕ}
    (hacked : Nat.repr id ∈ world.acked) (hnewest : world.Newest id)
    (hsome : world.row.nextCertificateSerial ≠ none) :
    RotationSound certificates
      { world with row := promoted world.row, acked := world.acked.erase (Nat.repr id) } := by
  have hstored := hsound.confirmed id hnewest (.inr (.inl hacked))
  have hconfirmed : ∀ other, RotationWorld.Confirmed { world with
      row := promoted world.row, acked := world.acked.erase (Nat.repr id) } other →
      world.Confirmed other := by
    rintro other (hreply | herased | hseen)
    · exact .inl hreply
    · exact .inr (.inl (List.mem_of_mem_erase herased))
    · exact .inr (.inr hseen)
  refine ⟨hsound.rotations, fun other hother ↦ hsound.known other (hconfirmed other hother),
    fun other hother hdone ↦ hsound.confirmed other hother (hconfirmed _ hdone), ?_⟩
  obtain ⟨serial, -, hcases⟩ := hsound.access
  rcases hcases with ⟨hnone, -, -⟩ | ⟨fresh, hfresh, hserials, -⟩
  · exact absurd hnone hsome
  · exact ⟨fresh, hstored.trans (hserials id hnewest), .inl ⟨rfl, hfresh, hserials⟩⟩

theorem RotationSound.step (hsound : RotationSound integrations.certificates world)
    {event : RotationEvent} (horder : InOrder integrations.certificates world event next)
    (hstep : world.step node integrations event = some next) :
    RotationSound integrations.certificates next := by
  cases event with
  | tick elapsed =>
    cases hstep
    exact hsound.of_same rfl rfl rfl rfl fun _ hid ↦ hid
  | connect =>
    simp only [RotationWorld.step] at hstep
    split at hstep
    · cases hstep
    · split_ifs at hstep
      cases hstep
      exact hsound.of_same rfl rfl rfl rfl fun _ hid ↦ hid
  | disconnect =>
    cases hstep
    exact hsound.of_same rfl rfl rfl rfl fun _ hid ↦ hid
  | rotateSelect =>
    simp only [RotationWorld.step] at hstep
    split_ifs at hstep
    cases hstep
    exact hsound.of_same rfl rfl rfl rfl fun _ hid ↦ hid
  | rotateIssue certificatePem controllerCa serial =>
    simp only [RotationWorld.step] at hstep
    split_ifs at hstep with hissued
    cases hstep
    exact hsound.issue hissued.2 horder rfl rfl rfl rfl rfl rfl rfl
  | deliverSelect id =>
    simp only [RotationWorld.step] at hstep
    split at hstep
    · cases hstep
    · split_ifs at hstep
      cases hstep
      exact hsound.of_same rfl rfl rfl rfl fun _ hid ↦ hid
  | deliverWrite id =>
    simp only [RotationWorld.step] at hstep
    split_ifs at hstep
    cases hstep
    exact hsound.of_same rfl rfl rfl rfl fun _ hid ↦ hid
  | deliverMark id =>
    simp only [RotationWorld.step] at hstep
    split_ifs at hstep
    cases hstep
    exact hsound.of_same (messages_modify _ _ _ fun _ ↦ rfl) rfl rfl rfl fun _ hid ↦ hid
  | deliverExpire =>
    cases hstep
    refine hsound.of_same (messages_map _ _ fun command ↦ ?_) rfl rfl rfl fun _ hid ↦ hid
    split_ifs <;> rfl
  | receive id =>
    simp only [RotationWorld.step] at hstep
    split at hstep
    · cases hstep
    · rename_i command hcommand
      split_ifs at hstep
      cases hstep
      exact hsound.receive hcommand horder rfl
  | restart =>
    cases hstep
    refine hsound.of_same rfl rfl rfl rfl fun id hid ↦ ?_
    rcases hid with hreply | hacked | hseen
    · exact .inl hreply
    · exact .inr (.inl hacked)
    · cases hseen
  | readReply reply =>
    have hstatus : ∀ replyTo status command, (setStatus replyTo status command).message =
        command.message := by
      intro replyTo status command
      unfold setStatus
      split_ifs <;> rfl
    simp only [RotationWorld.step] at hstep
    split_ifs at hstep with hreply
    cases reply with
    | ack replyTo code =>
      cases hstep
      refine hsound.of_same (messages_map _ _ (hstatus _ _)) rfl rfl rfl fun id hid ↦ ?_
      rcases hid with hold | hacked | hseen
      · exact .inl hold
      · rcases List.mem_cons.mp hacked with rfl | hold
        · exact .inl ⟨code, hreply⟩
        · exact .inr (.inl hold)
      · exact .inr (.inr hseen)
    | nack replyTo message =>
      cases hstep
      exact hsound.of_same (messages_map _ _ (hstatus _ _)) rfl rfl rfl fun _ hid ↦ hid
  | promote id =>
    simp only [RotationWorld.step] at hstep
    split_ifs at hstep with hacked
    cases hstep
    exact hsound.promote hacked horder.1 horder.2

def RotationWorld.enrolled (clock : ℤ) (row : NodeRow) (store : Store) : RotationWorld where
  clock := clock
  row := row
  commands := []
  rotating := false
  selected := []
  written := []
  sent := []
  client := ⟨store, []⟩
  replies := []
  acked := []

/-- Enrolment leaves the serial of the node's certificate in the first column of its row. -/
structure Enrolled (certificates : Certificates) (row : NodeRow) (store : Store) : Prop where
  serial : ∃ serial, storedSerial certificates store = some serial ∧
    row.certificateSerial = some serial
  next : row.nextCertificateSerial = none

theorem RotationSound.enrolled {clock : ℤ} {row : NodeRow} {store : Store}
    (henrolled : Enrolled certificates row store) :
    RotationSound certificates (.enrolled clock row store) := by
  refine ⟨fun command hcommand ↦ ?_, fun id hid ↦ ?_, fun id hid ↦ ?_, ?_⟩
  · cases hcommand
  · rcases hid with ⟨code, hcode⟩ | hacked | hseen
    · cases hcode
    · cases hacked
    · cases hseen
  · cases hid
  · obtain ⟨serial, hstored, hcurrent⟩ := henrolled.serial
    exact ⟨serial, hstored, .inl ⟨henrolled.next, hcurrent, fun id hid ↦ nomatch hid⟩⟩

/-- Assumes: a run from an enrolled node whose rotations are in order. In every state it reaches,
the serial of the certificate on the node is one that `NodeHub.Connect` accepts. -/
theorem rotation_keeps_access {clock : ℤ} {row : NodeRow} {store : Store}
    (henrolled : Enrolled integrations.certificates row store)
    (hreach : ReachableUnder (RotationWorld.step node integrations)
      (InOrder integrations.certificates) (.enrolled clock row store) world) :
    ∃ serial, storedSerial integrations.certificates world.client.store = some serial ∧
      world.row.Accepts serial := by
  have hsound : RotationSound integrations.certificates world := by
    refine hreach.invariant (RotationSound integrations.certificates) (.enrolled henrolled) ?_
    intro state event after hstate horder hstep
    exact hstate.step horder hstep
  obtain ⟨serial, hstored, hcases⟩ := hsound.access
  refine ⟨serial, hstored, ?_⟩
  rcases hcases with ⟨-, hcurrent, -⟩ | ⟨fresh, hfresh, -, hcurrent | rfl⟩
  · exact .inl hcurrent
  · exact .inl hcurrent
  · exact .inr hfresh

end Invariant

/-! ### A command that is sent twice -/

def twoCertificates : Integrations :=
  { soloIntegrations with
    certificates := ⟨fun pem ↦
      if pem = "first" then some ⟨1, some "public", day⟩
      else if pem = "second" then some ⟨2, some "public", 30 * day⟩ else none⟩ }

def expiringRow : NodeRow where
  status := .healthy
  publicKey := "public"
  certificateSerial := some 1
  certificateNotAfter := some day
  nextCertificateSerial := none
  nextCertificateNotAfter := none

def expiringStore : Store :=
  { soloStore with
    state := fun key ↦
      if key = "node_certificate" then some "first"
      else if key = "node_public_key" then some "public" else none }

theorem expiringStore_enrolled : Enrolled twoCertificates.certificates expiringRow expiringStore :=
  ⟨⟨1, rfl, rfl⟩, rfl⟩

def rotationSent : List RotationEvent :=
  [.rotateSelect, .rotateIssue "second" "" 2, .deliverSelect 0, .deliverWrite 0, .deliverMark 0]

def sentOnce : List RotationEvent :=
  rotationSent ++ [.receive 0, .readReply (.ack (Nat.repr 0) ""), .promote 0]

def sentTwice : List RotationEvent :=
  rotationSent ++ [.tick 2000000000, .deliverSelect 0, .deliverWrite 0, .deliverMark 0, .receive 0,
    .receive 0, .readReply (.ack (Nat.repr 0) ""), .promote 0,
    .readReply (.ack (Nat.repr 0) "duplicate"), .promote 0]

def rotated (events : List RotationEvent) : RotationWorld :=
  (run (RotationWorld.step "node" twoCertificates)
    (.enrolled 0 expiringRow expiringStore) events).getD (.enrolled 0 expiringRow expiringStore)

theorem rotation_keeps_access_once :
    (rotated sentOnce).row.certificateSerial = some 2 ∧
    ∃ serial,
      storedSerial twoCertificates.certificates (rotated sentOnce).client.store = some serial ∧
      (rotated sentOnce).row.Accepts serial := by
  have hruns : RunMeets (RotationWorld.step "node" twoCertificates)
      (InOrder twoCertificates.certificates) (.enrolled 0 expiringRow expiringStore) sentOnce
      (rotated sentOnce) :=
    ⟨_, rfl, trivial, _, rfl, rfl, _, rfl, trivial, _, rfl, trivial, _, rfl, trivial, _, rfl,
      .inr rfl, _, rfl, trivial, _, rfl, ⟨rfl, Option.some_ne_none _⟩, rfl⟩
  exact ⟨rfl, rotation_keeps_access expiringStore_enrolled
    (reachableUnder_of_runMeets hruns)⟩

/-- The second acknowledgement of one command empties both columns, and the node is locked out. -/
theorem rotation_locks_out :
    Enrolled twoCertificates.certificates expiringRow expiringStore ∧
    Reachable (RotationWorld.step "node" twoCertificates)
      (.enrolled 0 expiringRow expiringStore) (rotated sentTwice) ∧
    storedSerial twoCertificates.certificates (rotated sentTwice).client.store = some 2 ∧
    (rotated sentTwice).row.certificateSerial = none ∧
    (rotated sentTwice).row.nextCertificateSerial = none ∧ ¬ (rotated sentTwice).row.Accepts 2 := by
  exact ⟨expiringStore_enrolled, reachable_getD _, rfl, rfl, rfl, by decide⟩

end RiseVpn.Fleet
