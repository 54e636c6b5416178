import RiseVpn.Fleet.CertificateRotation

/-!
# Delivery of commands

The commands of one node, its connections to the controller and the node itself. A call of
`NodeHub.deliver` on a connection selects the commands that are due, and for each of them writes to
the socket and marks the row, every one a step of its own; the read loop of a connection changes the
status of a command when it reads a reply. Connections come, break with what is in flight, and
overlap; the node handles what it reads, and restarts with an empty memory of the messages it has
seen.

`Stepped` says what each event can do. The result of this module is about acknowledgements. The
update of `deliver` after the write is unconditional, so a reply that is read between the write and
the update is overwritten, and the command is delivered again. `Settled` is the condition on the
steps that excludes this and a refusal after an acknowledgement; `acked_stays` is the result, and
`acked_then_sent` a run outside the condition.
-/

set_option autoImplicit false

namespace RiseVpn.Fleet

open Control GuardedRun

/-! ### The system -/

/-- How far a call of `deliver` has come: the rows it has selected and not written, and in `marking`
also the one that is written and not marked. -/
inductive Delivery
  | idle
  | sending (rows : List (ℕ × Message))
  | marking (id : ℕ) (rows : List (ℕ × Message))
  deriving DecidableEq

/-- The commands that a call of `deliver` has not done with. -/
def Delivery.pending : Delivery → List ℕ
  | .idle => []
  | .sending rows => rows.map Prod.fst
  | .marking id rows => id :: rows.map Prod.fst

/-- The rows that a call of `deliver` has selected and not written. -/
def Delivery.unsent : Delivery → List (ℕ × Message)
  | .idle => []
  | .sending rows => rows
  | .marking _ rows => rows

/-- A connection. `connected` says that the node still reads it; `inbound` is what was written to
the node and not read, `outbound` the replies that the controller has not read, oldest first. -/
structure Link where
  connected : Bool
  delivery : Delivery
  inbound : List (ℕ × Message)
  outbound : List Reply

/-- A call of `Client.handle`. -/
structure Handling where
  id : ℕ
  time : ℤ
  succeeded : Bool

/-- The controller's rows for one node, its connections and the node. `log` is every call of
`Client.handle`, newest first; it is kept nowhere. -/
structure DeliveryWorld where
  clock : ℤ
  commands : List Command
  links : ℕ → Option Link
  client : Client
  log : List Handling

/-- What happens in the system. `fail` is a write that fails, which ends the call of `deliver`. -/
inductive DeliveryEvent
  | tick (elapsed : ℕ)
  | queue (message : Message) (lifetime : ℕ)
  | connect (link : ℕ)
  | drop (link : ℕ)
  | select (link : ℕ) (rows : List Command)
  | write (link : ℕ)
  | fail (link : ℕ)
  | mark (link : ℕ)
  | expire (link : ℕ)
  | receive (link : ℕ)
  | restart
  | reply (link : ℕ)

/-- The `WHERE` of the query of `deliver`. -/
def DueAt (now : ℤ) (command : Command) : Prop :=
  Open command ∧ command.notBefore ≤ now ∧ now < command.expiresAt
  deriving Decidable

/-- What the query of `deliver` may answer: at most 50 of the commands that are due, in the order of
their creation, and none left out that comes before one of them. -/
def Selection (commands : List Command) (now : ℤ) (rows : List Command) : Prop :=
  rows.Nodup ∧ (∀ row ∈ rows, row ∈ commands ∧ DueAt now row) ∧
    rows.Pairwise (fun first second ↦ first.createdAt ≤ second.createdAt) ∧ rows.length ≤ 50 ∧
    ∀ command ∈ commands, DueAt now command → command ∈ rows ∨
      (rows.length = 50 ∧ ∀ row ∈ rows, row.createdAt ≤ command.createdAt)
  deriving Decidable

def queuedCommand (node : NodeId) (now : ℤ) (id : ℕ) (message : Message) (lifetime : ℕ) :
    Command :=
  { Database.newCommand now id (node, message) with expiresAt := now + lifetime }

/-- The update of `deliver` after its write. -/
def markRow (now : ℤ) (id : ℕ) (command : Command) : Command :=
  if command.id = id then markedSent now command else command

/-- The last update of `deliver`. -/
def expireRow (now : ℤ) (command : Command) : Command :=
  if Open command ∧ command.expiresAt ≤ now then { command with status := .expired } else command

def replyRow : Reply → Command → Command
  | .ack replyTo _ => setStatus replyTo .acked
  | .nack replyTo _ => setStatus replyTo .nacked

def DeliveryWorld.setLink (world : DeliveryWorld) (number : ℕ) (link : Link) : DeliveryWorld :=
  { world with links := Function.update world.links number (some link) }

def DeliveryWorld.handled (integrations : Integrations) (world : DeliveryWorld) (id : ℕ)
    (message : Message) : DeliveryWorld :=
  { world with
    client := (world.client.receive integrations (Nat.repr id) message world.clock).1
    log := if Nat.repr id ∈ world.client.seen then world.log
      else ⟨id, world.clock,
        (handle integrations world.client.store message world.clock).2.isOk⟩ :: world.log }

/-- One event of the system. What is written to a connection that the node does not read any more is
lost. -/
def DeliveryWorld.step (node : NodeId) (integrations : Integrations) (world : DeliveryWorld) :
    DeliveryEvent → Option DeliveryWorld
  | .tick elapsed => some { world with clock := world.clock + elapsed }
  | .queue message lifetime =>
    some { world with
      commands := world.commands ++
        [queuedCommand node world.clock world.commands.length message lifetime] }
  | .connect number =>
    if world.links number = none then some (world.setLink number ⟨true, .idle, [], []⟩) else none
  | .drop number =>
    (world.links number).map fun link ↦ world.setLink number { link with connected := false }
  | .select number rows =>
    (world.links number).bind fun link ↦
      if link.delivery = .idle ∧ Selection world.commands world.clock rows then
        some (world.setLink number
          { link with delivery := .sending (rows.map fun row ↦ (row.id, row.message)) })
      else none
  | .write number =>
    (world.links number).bind fun link ↦
      match link.delivery with
      | .sending (row :: rows) =>
        some (world.setLink number { link with
          delivery := .marking row.1 rows
          inbound := if link.connected then link.inbound ++ [row] else link.inbound })
      | _ => none
  | .fail number =>
    (world.links number).bind fun link ↦
      match link.delivery with
      | .sending (_ :: _) => some (world.setLink number { link with delivery := .idle })
      | _ => none
  | .mark number =>
    (world.links number).bind fun link ↦
      match link.delivery with
      | .marking id rows =>
        some { world.setLink number { link with delivery := .sending rows } with
          commands := world.commands.map (markRow world.clock id) }
      | _ => none
  | .expire number =>
    (world.links number).bind fun link ↦
      match link.delivery with
      | .sending [] =>
        some { world.setLink number { link with delivery := .idle } with
          commands := world.commands.map (expireRow world.clock) }
      | _ => none
  | .receive number =>
    (world.links number).bind fun link ↦
      match link.connected, link.inbound with
      | true, (id, message) :: inbound =>
        some ((world.handled integrations id message).setLink number { link with
          inbound
          outbound := link.outbound ++
            [(world.client.receive integrations (Nat.repr id) message world.clock).2] })
      | _, _ => none
  | .restart =>
    some { world with
      client := { world.client with seen := [] }
      links := fun number ↦ (world.links number).map fun link ↦ { link with connected := false } }
  | .reply number =>
    (world.links number).bind fun link ↦
      match link.outbound with
      | reply :: outbound =>
        some { world.setLink number { link with outbound } with
          commands := world.commands.map (replyRow reply) }
      | [] => none

def DeliveryWorld.fresh (clock : ℤ) (store : Store) : DeliveryWorld :=
  ⟨clock, [], fun _ ↦ none, ⟨store, []⟩, []⟩

/-! ### What an event does -/

variable (node : NodeId) (integrations : Integrations) (world : DeliveryWorld) in
inductive Stepped : DeliveryEvent → DeliveryWorld → Prop
  | tick (elapsed : ℕ) : Stepped (.tick elapsed) { world with clock := world.clock + elapsed }
  | queue (message : Message) (lifetime : ℕ) : Stepped (.queue message lifetime) { world with
      commands := world.commands ++
        [queuedCommand node world.clock world.commands.length message lifetime] }
  | connect {number : ℕ} (hfree : world.links number = none) :
    Stepped (.connect number) (world.setLink number ⟨true, .idle, [], []⟩)
  | drop {number : ℕ} {link : Link} (hlink : world.links number = some link) :
    Stepped (.drop number) (world.setLink number { link with connected := false })
  | select {number : ℕ} {link : Link} {rows : List Command}
      (hlink : world.links number = some link) (hidle : link.delivery = .idle)
      (hrows : Selection world.commands world.clock rows) :
    Stepped (.select number rows) (world.setLink number
      { link with delivery := .sending (rows.map fun row ↦ (row.id, row.message)) })
  | write {number : ℕ} {link : Link} {row : ℕ × Message} {rows : List (ℕ × Message)}
      (hlink : world.links number = some link)
      (hdelivery : link.delivery = .sending (row :: rows)) :
    Stepped (.write number) (world.setLink number { link with
      delivery := .marking row.1 rows
      inbound := if link.connected then link.inbound ++ [row] else link.inbound })
  | fail {number : ℕ} {link : Link} (hlink : world.links number = some link) :
    Stepped (.fail number) (world.setLink number { link with delivery := .idle })
  | mark {number id : ℕ} {link : Link} {rows : List (ℕ × Message)}
      (hlink : world.links number = some link) (hdelivery : link.delivery = .marking id rows) :
    Stepped (.mark number) { world.setLink number { link with delivery := .sending rows } with
        commands := world.commands.map (markRow world.clock id) }
  | expire {number : ℕ} {link : Link} (hlink : world.links number = some link) :
    Stepped (.expire number) { world.setLink number { link with delivery := .idle } with
        commands := world.commands.map (expireRow world.clock) }
  | receive {number id : ℕ} {link : Link} {message : Message} {inbound : List (ℕ × Message)}
      (hlink : world.links number = some link)
      (hinbound : link.inbound = (id, message) :: inbound) : Stepped (.receive number)
      ((world.handled integrations id message).setLink number { link with
        inbound
        outbound := link.outbound ++
          [(world.client.receive integrations (Nat.repr id) message world.clock).2] })
  | restart : Stepped .restart { world with
      client := { world.client with seen := [] }
      links := fun number ↦ (world.links number).map fun link ↦ { link with connected := false } }
  | reply {number : ℕ} {link : Link} {reply : Reply} {outbound : List Reply}
      (hlink : world.links number = some link) (houtbound : link.outbound = reply :: outbound) :
    Stepped (.reply number) { world.setLink number { link with outbound } with
        commands := world.commands.map (replyRow reply) }

section Steps

variable {node : NodeId} {integrations : Integrations} {world next : DeliveryWorld}
  {event : DeliveryEvent}

theorem stepped (hstep : world.step node integrations event = some next) :
    Stepped node integrations world event next := by
  cases event with
  | tick elapsed =>
    cases hstep
    exact .tick elapsed
  | queue message lifetime =>
    cases hstep
    exact .queue message lifetime
  | connect number =>
    obtain ⟨hfree, hnext⟩ := Option.ite_none_right_eq_some.mp hstep
    cases hnext
    exact .connect hfree
  | drop number =>
    obtain ⟨link, hlink, rfl⟩ := Option.map_eq_some_iff.mp hstep
    exact .drop hlink
  | select number rows =>
    obtain ⟨link, hlink, hrest⟩ := Option.bind_eq_some_iff.mp hstep
    obtain ⟨⟨hidle, hrows⟩, hnext⟩ := Option.ite_none_right_eq_some.mp hrest
    cases hnext
    exact .select hlink hidle hrows
  | write number =>
    obtain ⟨link, hlink, hrest⟩ := Option.bind_eq_some_iff.mp hstep
    split at hrest
    · rename_i row rows hdelivery
      cases hrest
      exact .write hlink hdelivery
    · cases hrest
  | fail number =>
    obtain ⟨link, hlink, hrest⟩ := Option.bind_eq_some_iff.mp hstep
    split at hrest
    · cases hrest
      exact .fail hlink
    · cases hrest
  | mark number =>
    obtain ⟨link, hlink, hrest⟩ := Option.bind_eq_some_iff.mp hstep
    split at hrest
    · rename_i id rows hdelivery
      cases hrest
      exact .mark hlink hdelivery
    · cases hrest
  | expire number =>
    obtain ⟨link, hlink, hrest⟩ := Option.bind_eq_some_iff.mp hstep
    split at hrest
    · cases hrest
      exact .expire hlink
    · cases hrest
  | receive number =>
    obtain ⟨link, hlink, hrest⟩ := Option.bind_eq_some_iff.mp hstep
    split at hrest
    · rename_i id message inbound hconnected hinbound
      cases hrest
      exact .receive hlink hinbound
    · cases hrest
  | restart =>
    cases hstep
    exact .restart
  | reply number =>
    obtain ⟨link, hlink, hrest⟩ := Option.bind_eq_some_iff.mp hstep
    split at hrest
    · rename_i reply outbound houtbound
      cases hrest
      exact .reply hlink houtbound
    · cases hrest

theorem mem_setLink {number other : ℕ} {link found : Link}
    (hfound : (world.setLink number link).links other = some found) :
    (other = number ∧ found = link) ∨ (other ≠ number ∧ world.links other = some found) := by
  by_cases hother : other = number
  · subst hother
    have hset : (world.setLink other link).links other = some link := by
      simp [DeliveryWorld.setLink]
    exact .inl ⟨rfl, Option.mem_unique hfound hset⟩
  · refine .inr ⟨hother, ?_⟩
    simpa [DeliveryWorld.setLink, hother] using hfound

structure SameCommand (changed command : Command) : Prop where
  id : changed.id = command.id
  message : changed.message = command.message
  createdAt : changed.createdAt = command.createdAt

theorem sameCommand_markRow (now : ℤ) (id : ℕ) (command : Command) :
    SameCommand (markRow now id command) command := by
  unfold markRow
  split_ifs <;> exact ⟨rfl, rfl, rfl⟩

theorem sameCommand_expireRow (now : ℤ) (command : Command) :
    SameCommand (expireRow now command) command := by
  unfold expireRow
  split_ifs <;> exact ⟨rfl, rfl, rfl⟩

theorem sameCommand_replyRow (reply : Reply) (command : Command) :
    SameCommand (replyRow reply command) command := by
  cases reply <;>
  · simp only [replyRow, setStatus]
    split_ifs <;> exact ⟨rfl, rfl, rfl⟩

theorem Stepped.commands (hstepped : Stepped node integrations world event next) :
    (∃ change : Command → Command, next.commands = world.commands.map change ∧
      ∀ command, SameCommand (change command) command) ∨
    (∃ message lifetime, event = .queue message lifetime ∧ next.commands = world.commands ++
      [queuedCommand node world.clock world.commands.length message lifetime]) := by
  cases hstepped with
  | queue message lifetime => exact .inr ⟨message, lifetime, rfl, rfl⟩
  | mark => exact .inl ⟨_, rfl, sameCommand_markRow _ _⟩
  | expire => exact .inl ⟨_, rfl, sameCommand_expireRow _⟩
  | reply => exact .inl ⟨_, rfl, sameCommand_replyRow _⟩
  | _ => exact .inl ⟨id, (List.map_id _).symm, fun _ ↦ ⟨rfl, rfl, rfl⟩⟩

/-- What an event may do to a connection: a row that it has to write was selected, what it carries
to the node was to be written, and a new reply is that of the node. -/
structure LinkMoved (integrations : Integrations) (world : DeliveryWorld) (event : DeliveryEvent)
    (next : DeliveryWorld) (old link : Link) : Prop where
  pending : ∀ id ∈ link.delivery.pending, id ∈ old.delivery.pending ∨
    (∃ number rows, event = .select number rows) ∧ ∃ row ∈ world.commands, Open row ∧ row.id = id
  unsent : ∀ row ∈ link.delivery.unsent, row ∈ old.delivery.unsent ∨
    ∃ command ∈ world.commands, row = (command.id, command.message)
  inbound : ∀ row ∈ link.inbound, row ∈ old.inbound ∨ row ∈ old.delivery.unsent
  outbound : ∀ reply ∈ link.outbound, reply ∈ old.outbound ∨ ∃ id message,
    next.log = (world.handled integrations id message).log ∧
    reply = (world.client.receive integrations (Nat.repr id) message world.clock).2

def Moved (integrations : Integrations) (world : DeliveryWorld) (event : DeliveryEvent)
    (next : DeliveryWorld) (number : ℕ) (link : Link) : Prop :=
  ∃ old, (world.links number = some old ∨ old = ⟨true, .idle, [], []⟩) ∧
    LinkMoved integrations world event next old link

theorem Moved.of_eq {number : ℕ} {old link : Link} (hold : world.links number = some old)
    (hdelivery : link.delivery = old.delivery) (hinbound : link.inbound = old.inbound)
    (houtbound : link.outbound = old.outbound) :
    Moved integrations world event next number link := by
  refine ⟨old, .inl hold, ?_, ?_, ?_, ?_⟩
  · exact fun id hid ↦ .inl (hdelivery ▸ hid)
  · exact fun row hrow ↦ .inl (hdelivery ▸ hrow)
  · exact fun row hrow ↦ .inl (hinbound ▸ hrow)
  · exact fun reply hreply ↦ .inl (houtbound ▸ hreply)

theorem Moved.setLink {number other : ℕ} {link found : Link}
    (hfound : next.links other = some found)
    (hlinks : next.links = (world.setLink number link).links)
    (hmoved : Moved integrations world event next number link) :
    Moved integrations world event next other found := by
  rcases mem_setLink (hlinks ▸ hfound) with ⟨rfl, rfl⟩ | ⟨-, hold⟩
  · exact hmoved
  · exact .of_eq hold rfl rfl rfl

theorem Stepped.moved (hstepped : Stepped node integrations world event next) {number : ℕ}
    {link : Link} (hlink : next.links number = some link) :
    Moved integrations world event next number link := by
  cases hstepped with
  | tick | queue => exact .of_eq hlink rfl rfl rfl
  | connect hfree =>
    refine .setLink hlink rfl ⟨_, .inr rfl, ?_, ?_, ?_, ?_⟩ <;> exact fun _ hmem ↦ .inl hmem
  | drop hold => exact .setLink hlink rfl (.of_eq hold rfl rfl rfl)
  | select hold hidle hrows =>
    refine .setLink hlink rfl ⟨_, .inl hold, fun id hid ↦ .inr ⟨⟨_, _, rfl⟩, ?_⟩,
      fun row hrow ↦ .inr ?_, fun _ ↦ .inl, fun _ ↦ .inl⟩
    · simp only [Delivery.pending, List.map_map, List.mem_map] at hid
      obtain ⟨row, hrow, hid⟩ := hid
      exact ⟨row, (hrows.2.1 row hrow).1, (hrows.2.1 row hrow).2.1, hid⟩
    · obtain ⟨command, hcommand, rfl⟩ := List.mem_map.mp hrow
      exact ⟨command, (hrows.2.1 command hcommand).1, rfl⟩
  | write hold hdelivery =>
    refine .setLink hlink rfl ⟨_, .inl hold, fun id hid ↦ .inl ?_, fun row hrow ↦ .inl ?_,
      fun row hrow ↦ ?_, fun _ ↦ .inl⟩
    · exact hdelivery ▸ hid
    · exact hdelivery ▸ List.mem_cons_of_mem _ hrow
    · dsimp only at hrow
      split_ifs at hrow
      · rcases List.mem_append.mp hrow with hbefore | hnew
        · exact .inl hbefore
        · cases List.mem_singleton.mp hnew
          exact .inr (hdelivery ▸ List.mem_cons_self)
      · exact .inl hrow
  | fail hold | expire hold =>
    exact .setLink hlink rfl ⟨_, .inl hold, fun _ hmem ↦ (by cases hmem),
      fun _ hmem ↦ (by cases hmem), fun _ ↦ .inl, fun _ ↦ .inl⟩
  | mark hold hdelivery =>
    refine .setLink hlink rfl ⟨_, .inl hold, fun id hid ↦ .inl ?_, fun row hrow ↦ .inl ?_,
      fun _ ↦ .inl, fun _ ↦ .inl⟩
    · exact hdelivery ▸ List.mem_cons_of_mem _ hid
    · exact hdelivery ▸ hrow
  | receive hold hinbound =>
    refine .setLink hlink rfl ⟨_, .inl hold, fun _ ↦ .inl, fun _ ↦ .inl, fun row hrow ↦ .inl ?_,
      fun reply hreply ↦ ?_⟩
    · exact hinbound ▸ List.mem_cons_of_mem _ hrow
    · rcases List.mem_append.mp hreply with hbefore | hnew
      · exact .inl hbefore
      · exact .inr ⟨_, _, rfl, List.mem_singleton.mp hnew⟩
  | restart =>
    obtain ⟨old, hold, rfl⟩ := Option.map_eq_some_iff.mp hlink
    exact .of_eq hold rfl rfl rfl
  | reply hold houtbound =>
    refine .setLink hlink rfl ⟨_, .inl hold, fun _ ↦ .inl, fun _ ↦ .inl, fun _ ↦ .inl,
      fun reply hreply ↦ .inl ?_⟩
    exact houtbound ▸ List.mem_cons_of_mem _ hreply

theorem acked_of_replyRow {reply : Reply} {command : Command}
    (hacked : (replyRow reply command).status = .acked) :
    command.status = .acked ∨ ∃ code, reply = .ack (Nat.repr command.id) code := by
  cases reply with
  | ack replyTo code =>
    by_cases hreply : Nat.repr command.id = replyTo
    · exact .inr ⟨code, by rw [hreply]⟩
    · rw [replyRow, setStatus, if_neg hreply] at hacked
      exact .inl hacked
  | nack replyTo error =>
    simp only [replyRow, setStatus] at hacked
    split_ifs at hacked
    exact .inl hacked

theorem Stepped.acked (hstepped : Stepped node integrations world event next) {command : Command}
    (hmem : command ∈ next.commands) (hacked : command.status = .acked) :
    (∃ old ∈ world.commands, old.id = command.id ∧ old.status = .acked) ∨
    ∃ number link code outbound, event = .reply number ∧ world.links number = some link ∧
      link.outbound = .ack (Nat.repr command.id) code :: outbound := by
  cases hstepped with
  | tick | connect | drop | select | write | fail | receive | restart =>
    exact .inl ⟨command, hmem, rfl, hacked⟩
  | queue message lifetime =>
    rcases List.mem_append.mp hmem with hold | hnew
    · exact .inl ⟨command, hold, rfl, hacked⟩
    · cases List.mem_singleton.mp hnew
      cases hacked
  | mark | expire =>
    obtain ⟨old, hold, rfl⟩ := List.mem_map.mp hmem
    refine .inl ⟨old, hold, ?_⟩
    simp only [markRow, expireRow, markedSent] at hacked ⊢
    split_ifs at hacked ⊢
    exact ⟨rfl, hacked⟩
  | reply hlink houtbound =>
    obtain ⟨old, hold, rfl⟩ := List.mem_map.mp hmem
    rw [(sameCommand_replyRow _ old).id]
    rcases acked_of_replyRow hacked with hbefore | ⟨code, rfl⟩
    · exact .inl ⟨old, hold, rfl, hbefore⟩
    · exact .inr ⟨_, _, code, _, rfl, hlink, houtbound⟩

end Steps

/-! ### Acknowledgements -/

def Indexed (commands : List Command) : Prop :=
  commands.map Command.id = List.range commands.length

/-- The condition on the steps of a run: an acknowledgement is read only when no call of `deliver`
still has the command to write or to mark, and a refusal only of a command that is not
acknowledged. -/
def Settled (world : DeliveryWorld) (event : DeliveryEvent) (_next : DeliveryWorld) : Prop :=
  match event with
  | .reply number => ∀ link ∈ world.links number, match link.outbound.head? with
    | some (.ack replyTo _) => ∀ other found, world.links other = some found →
        ∀ id ∈ found.delivery.pending, Nat.repr id ≠ replyTo
    | some (.nack replyTo _) => ∀ command ∈ world.commands, Nat.repr command.id = replyTo →
        command.status ≠ .acked
    | none => True
  | _ => True

/-- What holds of the acknowledged commands: no call of `deliver` has them to write or to mark. -/
structure AckedSettled (world : DeliveryWorld) : Prop where
  indexed : Indexed world.commands
  settled : ∀ command ∈ world.commands, command.status = .acked →
    ∀ number link, world.links number = some link → command.id ∉ link.delivery.pending

section Acknowledged

variable {node : NodeId} {integrations : Integrations} {world next : DeliveryWorld}
  {event : DeliveryEvent}

theorem Indexed.of_stepped (hindexed : Indexed world.commands)
    (hstepped : Stepped node integrations world event next) : Indexed next.commands := by
  rcases hstepped.commands with ⟨change, hnext, hchange⟩ | ⟨message, lifetime, -, hnext⟩
  · have hids : (world.commands.map change).map Command.id = world.commands.map Command.id := by
      rw [List.map_map]
      exact List.map_congr_left fun command _ ↦ (hchange command).id
    rw [hnext, Indexed, hids, List.length_map]
    exact hindexed
  · rw [hnext, Indexed, List.map_append, hindexed, List.length_append, List.length_singleton,
      List.range_succ]
    rfl

theorem Indexed.eq_of_id {commands : List Command} (hindexed : Indexed commands)
    {first second : Command} (hfirst : first ∈ commands) (hsecond : second ∈ commands)
    (hid : first.id = second.id) : first = second := by
  have hnodup : (commands.map Command.id).Nodup := hindexed ▸ List.nodup_range
  exact List.inj_on_of_nodup_map hnodup hfirst hsecond hid

theorem not_open_of_acked {command : Command} (hacked : command.status = .acked) :
    ¬ Open command := by
  rintro (hpending | hsent)
  · cases hacked.symm.trans hpending
  · cases hacked.symm.trans hsent

section

variable (hacked : AckedSettled world) (hcondition : Settled world event next)
  (hstepped : Stepped node integrations world event next)

include hacked hcondition hstepped

theorem AckedSettled.acked_next {command : Command} (hmem : command ∈ world.commands)
    (hstatus : command.status = .acked) : command ∈ next.commands := by
  cases hstepped with
  | tick | connect | drop | select | write | fail | receive | restart => exact hmem
  | queue => exact List.mem_append_left _ hmem
  | mark hlink hdelivery =>
    rename_i number id link rows
    refine List.mem_map.mpr ⟨command, hmem, if_neg ?_⟩
    rintro rfl
    refine hacked.settled command hmem hstatus number link hlink ?_
    rw [hdelivery]
    exact List.mem_cons_self
  | expire => exact List.mem_map.mpr ⟨command, hmem, if_neg fun hopen ↦
      not_open_of_acked hstatus hopen.1⟩
  | reply hlink houtbound =>
    rename_i number link reply outbound
    refine List.mem_map.mpr ⟨command, hmem, ?_⟩
    have hread := hcondition link hlink
    rw [houtbound] at hread
    cases reply with
    | ack replyTo code =>
      simp only [replyRow, setStatus]
      split_ifs
      · rw [← hstatus]
      · rfl
    | nack replyTo error =>
      exact if_neg fun hreply ↦ hread command hmem hreply hstatus

theorem AckedSettled.of_stepped : AckedSettled next := by
  refine ⟨hacked.indexed.of_stepped hstepped, fun command hmem hstatus number link hlink hid ↦ ?_⟩
  obtain ⟨old, hold, hmoved⟩ := hstepped.moved hlink
  have hfound : ∀ id ∈ old.delivery.pending, world.links number = some old := by
    rintro id hid
    rcases hold with hfound | rfl
    · exact hfound
    · cases hid
  rcases hstepped.acked hmem hstatus with ⟨row, hrow, hsame, hbefore⟩ |
    ⟨reader, read, code, outbound, rfl, hread, houtbound⟩
  · rcases hmoved.pending command.id hid with hpending | ⟨-, other, hother, hopen, hid⟩
    · exact hacked.settled row hrow hbefore number old (hfound _ hpending) (hsame ▸ hpending)
    · -- a selected row is open, so it is not the acknowledged one
      cases hacked.indexed.eq_of_id hrow hother (hsame.trans hid.symm)
      exact not_open_of_acked hbefore hopen
  · have hnone := hcondition read hread
    rw [houtbound] at hnone
    rcases hmoved.pending command.id hid with hpending | ⟨⟨_, _, hevent⟩, -⟩
    · exact hnone number old (hfound _ hpending) command.id hpending rfl
    · cases hevent

end

/-- Assumes: a run from the first command on, in which an acknowledgement is read only when no call
of `deliver` still has the command to write or to mark, and a refusal only of a command that is not
acknowledged. The row of an acknowledged command stays as it is, and no query of `deliver` answers
the command again. -/
theorem acked_stays {clock : ℤ} {store : Store}
    (hreach : ReachableUnder (DeliveryWorld.step node integrations) Settled
      (.fresh clock store) world) {command : Command} (hmem : command ∈ world.commands)
    (hacked : command.status = .acked) {later : DeliveryWorld}
    (hlater : ReachableUnder (DeliveryWorld.step node integrations) Settled world
      later) :
    command ∈ later.commands ∧
    (∀ row ∈ later.commands, row.id = command.id → row.status = .acked) ∧
    ∀ rows, Selection later.commands later.clock rows → ∀ row ∈ rows, row.id ≠ command.id := by
  have hworld : AckedSettled world := hreach.invariant AckedSettled
    ⟨rfl, fun _ hmem ↦ by cases hmem⟩
    fun _ _ _ hsettled hcondition hstep ↦ hsettled.of_stepped hcondition (stepped hstep)
  obtain ⟨hsettled, hkept⟩ := hlater.invariant
    (fun world ↦ AckedSettled world ∧ command ∈ world.commands) ⟨hworld, hmem⟩
    fun _ _ _ ⟨hsettled, hkept⟩ hcondition hstep ↦
      ⟨hsettled.of_stepped hcondition (stepped hstep),
        hsettled.acked_next hcondition (stepped hstep) hkept hacked⟩
  refine ⟨hkept, fun row hrow hid ↦ ?_, fun rows hrows row hrow hid ↦ ?_⟩
  · rw [hsettled.indexed.eq_of_id hrow hkept hid]
    exact hacked
  · obtain ⟨hin, hdue⟩ := hrows.2.1 row hrow
    cases hsettled.indexed.eq_of_id hin hkept hid
    exact not_open_of_acked hacked hdue.1

end Acknowledged

/-! ### An acknowledgement between write and mark -/

def revocation : Message := .deviceRevoke ⟨"device", "account blocked"⟩

def oneDay : ℕ := 86400000000000

def writeRevocation : List DeliveryEvent :=
  [.queue revocation oneDay, .connect 0, .select 0 [queuedCommand "node" 0 0 revocation oneDay],
    .write 0]

def deliveryRun (start : DeliveryWorld) (events : List DeliveryEvent) : DeliveryWorld :=
  (run (DeliveryWorld.step "node" soloIntegrations) start events).getD start

def ackAfterMark : DeliveryWorld :=
  deliveryRun (.fresh 0 soloStore) (writeRevocation ++ [.mark 0, .expire 0, .receive 0, .reply 0])

def ackBeforeMark : DeliveryWorld :=
  deliveryRun (.fresh 0 soloStore) (writeRevocation ++ [.receive 0, .reply 0])

def revocationRow (status : CommandStatus) (attempts : ℕ) (notBefore : ℤ) : Command :=
  { queuedCommand "node" 0 0 revocation oneDay with status, attempts, notBefore }

theorem acked_stays_after_mark :
    ackAfterMark.commands = [revocationRow .acked 1 (2 * second)] ∧
    ∀ rows, Selection (deliveryRun ackAfterMark [.tick oneDay]).commands
      (deliveryRun ackAfterMark [.tick oneDay]).clock rows → ∀ row ∈ rows, row.id ≠ 0 := by
  have hmeets : RunMeets (DeliveryWorld.step "node" soloIntegrations) Settled
      (.fresh 0 soloStore) (writeRevocation ++ [.mark 0, .expire 0, .receive 0, .reply 0])
      ackAfterMark := by
    refine ⟨_, rfl, trivial, _, rfl, trivial, _, rfl, trivial, _, rfl, trivial, _, rfl, trivial,
      _, rfl, trivial, _, rfl, trivial, _, rfl, ?_, rfl⟩
    rintro link ⟨⟩ other found hfound id hid
    obtain _ | other := other
    · cases hfound
      cases hid
    · cases hfound
  have hlater : RunMeets (DeliveryWorld.step "node" soloIntegrations) Settled
      ackAfterMark [.tick oneDay] (deliveryRun ackAfterMark [.tick oneDay]) :=
    ⟨_, rfl, trivial, rfl⟩
  have hmem : revocationRow .acked 1 (2 * second) ∈ ackAfterMark.commands :=
    List.mem_singleton.mpr rfl
  exact ⟨rfl, (acked_stays (reachableUnder_of_runMeets hmeets) hmem rfl
    (reachableUnder_of_runMeets hlater)).2.2⟩

/-- The update after the write takes the acknowledgement back, and the command is selected again. -/
theorem acked_then_sent :
    Reachable (DeliveryWorld.step "node" soloIntegrations) (.fresh 0 soloStore)
      ackBeforeMark ∧
    ackBeforeMark.commands = [revocationRow .acked 0 0] ∧
    Reachable (DeliveryWorld.step "node" soloIntegrations) ackBeforeMark
      (deliveryRun ackBeforeMark [.mark 0, .expire 0, .tick 2000000000]) ∧
    (deliveryRun ackBeforeMark [.mark 0, .expire 0, .tick 2000000000]).commands =
      [revocationRow .sent 1 (2 * second)] ∧
    Selection (deliveryRun ackBeforeMark [.mark 0, .expire 0, .tick 2000000000]).commands
      (deliveryRun ackBeforeMark [.mark 0, .expire 0, .tick 2000000000]).clock
      [revocationRow .sent 1 (2 * second)] := by
  refine ⟨?_, rfl, reachable_getD _, rfl, by decide⟩
  exact reachable_getD (writeRevocation ++ [.receive 0, .reply 0])

end RiseVpn.Fleet
