import RiseVpn.Fleet.CommandDelivery
import RiseVpn.Node.DeviceCommands

/-!
# The order of the commands of a device

The commands of one device on the delivery system: what its row comes to when upserts, revocations,
leases and overrides are delivered at least once, over connections that break and by a node that
forgets which messages it has seen.

Every back-off is per command, so after a lost message a newer command overtakes an older one, and
the older one undoes it when it is delivered again. `HandledInOrder` is the condition on the steps
that excludes this: the node handles no command after a later one. Under it the commands that are
handled form blocks of one command each; a block leaves the row as it was or applies its command
(`Ordered.handle`), and a command is acknowledged only after a call that applied it (`Confirmed`).
So once every command is acknowledged the row is that of `handleEach`, which handles each command
once in the order of creation (`row_in_order`). `revoked_then_enabled` is a run outside the
condition: a lost upsert is delivered after the revocation of the device.
-/

set_option autoImplicit false

namespace RiseVpn.Fleet

open Control GuardedRun

/-! ### Histories -/

def DeliveryWorld.messages (world : DeliveryWorld) : List Message :=
  world.commands.map Command.message

/-- The condition on the steps of a run: the commands are about one device, and the node handles
none after a later one. -/
def HandledInOrder (device : DeviceId) (world : DeliveryWorld) (event : DeliveryEvent)
    (_next : DeliveryWorld) : Prop :=
  match event with
  | .queue message _ => message.WritesTo device
  | .receive number => ∀ link ∈ world.links number, ∀ row ∈ link.inbound.head?,
      Nat.repr row.1 ∈ world.client.seen ∨ ∀ entry ∈ world.log, entry.id ≤ row.1
  | _ => True

instance (device : DeviceId) (world : DeliveryWorld) (event : DeliveryEvent)
    (next : DeliveryWorld) : Decidable (HandledInOrder device world event next) := by
  unfold HandledInOrder
  split <;> infer_instance

def Succeeded (log : List Handling) (id : ℕ) : Prop :=
  ∃ entry ∈ log, entry.id = id ∧ entry.succeeded = true

def rowAfter (start : Option StoredDevice) (messages : List Message) (count : ℕ) :
    Option StoredDevice :=
  (messages.take count).foldl (fun row message ↦ rowEffect message row) start

section Rows

variable {start : Option StoredDevice} {messages : List Message} {count : ℕ} {message : Message}

theorem rowAfter_succ (hmessage : messages[count]? = some message) :
    rowAfter start messages (count + 1) = rowEffect message (rowAfter start messages count) := by
  rw [rowAfter, List.take_add_one, hmessage, Option.toList_some, List.foldl_append]
  rfl

theorem rowAfter_append (hcount : count ≤ messages.length) :
    rowAfter start (messages ++ [message]) count = rowAfter start messages count := by
  rw [rowAfter, List.take_append_of_le_length hcount, rowAfter]

end Rows

theorem Succeeded.cons {log : List Handling} {id : ℕ} (hsucceeded : Succeeded log id)
    (entry : Handling) : Succeeded (entry :: log) id := by
  obtain ⟨old, hold, hid⟩ := hsucceeded
  exact ⟨old, List.mem_cons_of_mem _ hold, hid⟩

theorem Succeeded.of_cons {log : List Handling} {id : ℕ} {entry : Handling}
    (hsucceeded : Succeeded (entry :: log) id) (hother : entry.id ≠ id) : Succeeded log id := by
  obtain ⟨old, hold, hid, hsuccess⟩ := hsucceeded
  rcases List.mem_cons.mp hold with rfl | hmem
  · exact absurd hid hother
  · exact ⟨old, hmem, hid, hsuccess⟩

/-! ### What is in flight -/

structure Link.Carries (messages : List Message) (link : Link) : Prop where
  unsent : ∀ row ∈ link.delivery.unsent, messages[row.1]? = some row.2
  inbound : ∀ row ∈ link.inbound, messages[row.1]? = some row.2

def AppliedId (log : List Handling) (replyTo : MessageId) : Prop :=
  ∃ id, Nat.repr id = replyTo ∧ Succeeded log id

structure Carried (world : DeliveryWorld) : Prop where
  indexed : Indexed world.commands
  links : ∀ number link, world.links number = some link → link.Carries world.messages

/-- A command is acknowledged, and a message remembered, only after a call of the handler that has
applied it. -/
structure Confirmed (world : DeliveryWorld) : Prop where
  acked : ∀ command ∈ world.commands, command.status = .acked → Succeeded world.log command.id
  outbound : ∀ number link, world.links number = some link → ∀ replyTo code,
    .ack replyTo code ∈ link.outbound → AppliedId world.log replyTo
  seen : ∀ replyTo ∈ world.client.seen, AppliedId world.log replyTo

section InFlight

variable {node : NodeId} {integrations : Integrations} {world next : DeliveryWorld}
  {event : DeliveryEvent}

theorem Indexed.getElem?_messages (hindexed : Indexed world.commands) {command : Command}
    (hmem : command ∈ world.commands) : world.messages[command.id]? = some command.message := by
  obtain ⟨index, hindex⟩ := List.getElem?_of_mem hmem
  have hid : (world.commands.map Command.id)[index]? = some command.id := by
    rw [List.getElem?_map, hindex, Option.map_some]
  obtain ⟨hbound, -⟩ := List.getElem?_eq_some_iff.mp hindex
  rw [hindexed, List.getElem?_range hbound] at hid
  rw [DeliveryWorld.messages, ← Option.some.inj hid, List.getElem?_map, hindex, Option.map_some]

theorem appliedId_handled (integrations : Integrations) (hconfirmed : Confirmed world) (id : ℕ)
    (message : Message) :
    (∀ replyTo ∈ (world.handled integrations id message).client.seen,
      AppliedId (world.handled integrations id message).log replyTo) ∧
    ∀ replyTo code,
      (world.client.receive integrations (Nat.repr id) message world.clock).2 =
        .ack replyTo code →
      AppliedId (world.handled integrations id message).log replyTo := by
  have hkept : ∀ entry replyTo, AppliedId world.log replyTo →
      AppliedId (entry :: world.log) replyTo := by
    rintro entry replyTo ⟨other, hother, hsucceeded⟩
    exact ⟨other, hother, hsucceeded.cons entry⟩
  rcases receive_cases integrations world.client (Nat.repr id) message world.clock with
    ⟨hseen, hreceive⟩ | ⟨hseen, error, herror, hreceive⟩ | ⟨hseen, hok, hreceive⟩
  · simp only [DeliveryWorld.handled, hreceive, if_pos hseen]
    refine ⟨hconfirmed.seen, fun replyTo code hreply ↦ ?_⟩
    cases hreply
    exact hconfirmed.seen _ hseen
  · simp only [DeliveryWorld.handled, hreceive, if_neg hseen]
    exact ⟨fun replyTo hmem ↦ hkept _ _ (hconfirmed.seen replyTo hmem),
      fun replyTo code hreply ↦ by cases hreply⟩
  · simp only [DeliveryWorld.handled, hreceive, if_neg hseen, hok]
    have hnew : AppliedId (⟨id, world.clock, true⟩ :: world.log) (Nat.repr id) :=
      ⟨id, rfl, _, List.mem_cons_self, rfl, rfl⟩
    refine ⟨fun replyTo hmem ↦ ?_, fun replyTo code hreply ↦ ?_⟩
    · by_cases hsame : replyTo = Nat.repr id
      · rw [hsame]
        exact hnew
      · exact hkept _ _ (hconfirmed.seen replyTo (mem_of_mem_markSeen hmem hsame))
    · cases hreply
      exact hnew

section

variable (hstepped : Stepped node integrations world event next)

include hstepped

theorem Stepped.messages : next.messages = world.messages ∨
    ∃ message lifetime, event = .queue message lifetime ∧
      next.messages = world.messages ++ [message] := by
  rcases hstepped.commands with ⟨change, hnext, hchange⟩ | ⟨message, lifetime, rfl, hnext⟩
  · left
    rw [DeliveryWorld.messages, DeliveryWorld.messages, hnext, List.map_map]
    exact List.map_congr_left fun command _ ↦ (hchange command).message
  · right
    refine ⟨message, lifetime, rfl, ?_⟩
    rw [DeliveryWorld.messages, DeliveryWorld.messages, hnext, List.map_append]
    rfl

theorem Stepped.getElem?_messages {id : ℕ} {message : Message}
    (hmessage : world.messages[id]? = some message) : next.messages[id]? = some message := by
  rcases hstepped.messages with hsame | ⟨other, -, -, hnext⟩
  · rw [hsame]
    exact hmessage
  · obtain ⟨hbound, -⟩ := List.getElem?_eq_some_iff.mp hmessage
    rw [hnext, List.getElem?_append_left hbound]
    exact hmessage

theorem Link.Carries.of_stepped {link : Link} (hcarries : link.Carries world.messages) :
    link.Carries next.messages :=
  ⟨fun row hrow ↦ hstepped.getElem?_messages (hcarries.unsent row hrow),
    fun row hrow ↦ hstepped.getElem?_messages (hcarries.inbound row hrow)⟩

theorem Carried.of_stepped (hcarried : Carried world) : Carried next := by
  refine ⟨hcarried.indexed.of_stepped hstepped, fun number link hlink ↦ ?_⟩
  obtain ⟨old, hold, hmoved⟩ := hstepped.moved hlink
  have hcarries : old.Carries next.messages := by
    rcases hold with hfound | rfl
    · exact (hcarried.links number old hfound).of_stepped hstepped
    · exact ⟨fun _ hrow ↦ (by cases hrow), fun _ hrow ↦ (by cases hrow)⟩
  refine ⟨fun row hrow ↦ ?_, fun row hrow ↦ ?_⟩
  · rcases hmoved.unsent row hrow with hbefore | ⟨command, hcommand, rfl⟩
    · exact hcarries.unsent row hbefore
    · exact hstepped.getElem?_messages (hcarried.indexed.getElem?_messages hcommand)
  · rcases hmoved.inbound row hrow with hbefore | hunsent
    · exact hcarries.inbound row hbefore
    · exact hcarries.unsent row hunsent

theorem Stepped.succeeded {id : ℕ} (hsucceeded : Succeeded world.log id) :
    Succeeded next.log id := by
  cases hstepped with
  | receive =>
    simp only [DeliveryWorld.setLink, DeliveryWorld.handled]
    split_ifs
    · exact hsucceeded
    · exact hsucceeded.cons _
  | _ => exact hsucceeded

theorem Stepped.appliedId {replyTo : MessageId} (happlied : AppliedId world.log replyTo) :
    AppliedId next.log replyTo := by
  obtain ⟨id, hid, hsucceeded⟩ := happlied
  exact ⟨id, hid, hstepped.succeeded hsucceeded⟩

theorem Confirmed.of_stepped (hconfirmed : Confirmed world) : Confirmed next := by
  refine ⟨fun command hmem hstatus ↦ hstepped.succeeded ?_, fun number link hlink replyTo code
    hmem ↦ ?_, ?_⟩
  · rcases hstepped.acked hmem hstatus with ⟨old, hold, hid, hbefore⟩ |
      ⟨number, link, code, outbound, -, hlink, houtbound⟩
    · exact hid ▸ hconfirmed.acked old hold hbefore
    · obtain ⟨id, hid, hsucceeded⟩ := hconfirmed.outbound number link hlink _ code
        (houtbound ▸ List.mem_cons_self)
      exact DecimalText.repr_injective hid ▸ hsucceeded
  · obtain ⟨old, hold, hmoved⟩ := hstepped.moved hlink
    rcases hmoved.outbound _ hmem with hbefore | ⟨id, message, hlog, hreply⟩
    · rcases hold with hfound | rfl
      · exact hstepped.appliedId (hconfirmed.outbound number old hfound replyTo code hbefore)
      · cases hbefore
    · rw [hlog]
      exact (appliedId_handled integrations hconfirmed id message).2 replyTo code hreply.symm
  · cases hstepped with
    | receive => exact (appliedId_handled integrations hconfirmed _ _).1
    | restart => exact fun _ hmem ↦ (by cases hmem)
    | _ => exact hconfirmed.seen

end

end InFlight

/-! ### The row of the device -/

/-- Where the row has got to. Unless a command before the last one that was handled has not been
applied, the row is that before or after the last one, and that after it once it was applied. -/
def RowReached (start : Option StoredDevice) (messages : List Message) (log : List Handling)
    (row : Option StoredDevice) : Prop :=
  match log with
  | [] => row = rowAfter start messages 0
  | last :: _ => (∃ id < last.id, ¬ Succeeded log id) ∨
      ((row = rowAfter start messages last.id ∨ row = rowAfter start messages (last.id + 1)) ∧
        (Succeeded log last.id → row = rowAfter start messages (last.id + 1)))

/-- What holds of the messages, the calls of the handler and the store of the node while commands
are handled in order. A call that has applied a command would also apply it to the row after the
commands before it. -/
structure Ordered (integrations : Integrations) (device : DeviceId) (start : Store)
    (messages : List Message) (log : List Handling) (store : Store) : Prop where
  writes : ∀ message ∈ messages, message.WritesTo device
  known : ∀ entry ∈ log, entry.id < messages.length
  sorted : log.Pairwise fun newer older ↦ older.id ≤ newer.id
  only : OnlyDevice device start store
  row : RowReached (start.storedById device) messages log (store.storedById device)
  replays : ∀ entry ∈ log, entry.succeeded = true → (∀ id < entry.id, Succeeded log id) →
    ∀ store', OnlyDevice device start store' →
      store'.storedById device = rowAfter (start.storedById device) messages entry.id →
      ∀ message, messages[entry.id]? = some message →
        (handle integrations store' message entry.time).2 = .ok ()

section Order

variable {integrations : Integrations} {device : DeviceId} {start store : Store}
  {messages : List Message} {log : List Handling}

theorem eq_ok_of_isOk {result : Except String Unit} (hok : result.isOk = true) :
    result = .ok () := by
  cases result with
  | ok => rfl
  | error => cases hok

theorem Ordered.le_last {last : Handling} {rest : List Handling}
    (hordered : Ordered integrations device start messages (last :: rest) store) {id : ℕ}
    (hsucceeded : Succeeded (last :: rest) id) : id ≤ last.id := by
  obtain ⟨entry, hentry, rfl, -⟩ := hsucceeded
  rcases List.mem_cons.mp hentry with rfl | hrest
  · exact le_rfl
  · exact List.rel_of_pairwise_cons hordered.sorted hrest

theorem Ordered.row_of_succeeded (hordered : Ordered integrations device start messages log store)
    {id : ℕ} (hlater : ∀ entry ∈ log, entry.id ≤ id) (hall : ∀ other < id, Succeeded log other) :
    (store.storedById device = rowAfter (start.storedById device) messages id ∨
      store.storedById device = rowAfter (start.storedById device) messages (id + 1)) ∧
    (Succeeded log id →
      store.storedById device = rowAfter (start.storedById device) messages (id + 1)) := by
  have hrow := hordered.row
  cases log with
  | nil =>
    have hzero : id = 0 := by
      by_contra hpositive
      obtain ⟨entry, hentry, -⟩ := hall 0 (Nat.pos_of_ne_zero hpositive)
      cases hentry
    subst hzero
    refine ⟨.inl hrow, fun ⟨entry, hentry, _⟩ ↦ ?_⟩
    cases hentry
  | cons last rest =>
    have hle : last.id ≤ id := hlater last List.mem_cons_self
    rcases hrow with ⟨other, hother, hfailed⟩ | ⟨hreached, happlied⟩
    · exact absurd (hall other (hother.trans_le hle)) hfailed
    rcases hle.eq_or_lt with hsame | hlt
    · rw [← hsame]
      exact ⟨hreached, happlied⟩
    -- the commands between the last one and this one would be applied without being handled
    have hnext : id = last.id + 1 := by
      by_contra hgap
      have hbeyond := hordered.le_last (hall (last.id + 1) (by omega))
      omega
    refine ⟨.inl ?_, fun hsucceeded ↦ ?_⟩
    · rw [hnext]
      exact happlied (hall last.id hlt)
    · have hbound := hordered.le_last hsucceeded
      omega

theorem Ordered.queue (hordered : Ordered integrations device start messages log store)
    {message : Message} (hwrites : message.WritesTo device) :
    Ordered integrations device start (messages ++ [message]) log store := by
  refine ⟨fun other hother ↦ ?_, fun entry hentry ↦ ?_, hordered.sorted, hordered.only, ?_, ?_⟩
  · rcases List.mem_append.mp hother with hold | hnew
    · exact hordered.writes other hold
    · rw [List.mem_singleton.mp hnew]
      exact hwrites
  · rw [List.length_append]
    exact Nat.lt_add_right _ (hordered.known entry hentry)
  · have hrow := hordered.row
    cases log with
    | nil =>
      rw [RowReached, rowAfter_append (Nat.zero_le _)]
      exact hrow
    | cons last rest =>
      have hbound := hordered.known last List.mem_cons_self
      rw [RowReached, rowAfter_append hbound.le, rowAfter_append hbound]
      exact hrow
  · intro entry hentry hsuccess hall store' honly hrow other hother
    have hbound := hordered.known entry hentry
    rw [rowAfter_append hbound.le] at hrow
    rw [List.getElem?_append_left hbound] at hother
    exact hordered.replays entry hentry hsuccess hall store' honly hrow other hother

theorem rowEffect_of_reached {row : Option StoredDevice} {id : ℕ} {message : Message}
    (hmessage : messages[id]? = some message)
    (hreached : row = rowAfter (start.storedById device) messages id ∨
      row = rowAfter (start.storedById device) messages (id + 1)) :
    rowEffect message row = rowAfter (start.storedById device) messages (id + 1) := by
  rcases hreached with rfl | rfl
  · exact (rowAfter_succ hmessage).symm
  · rw [rowAfter_succ hmessage, rowEffect_rowEffect]

section

variable (hordered : Ordered integrations device start messages log store) {id : ℕ}
  {message : Message} (hmessage : messages[id]? = some message)
  (hlater : ∀ entry ∈ log, entry.id ≤ id) (now : ℤ)

include hordered hmessage hlater

theorem Ordered.row_handled :
    RowReached (start.storedById device) messages
      (⟨id, now, (handle integrations store message now).2.isOk⟩ :: log)
      ((handle integrations store message now).1.storedById device) := by
  have hwrites : message.WritesTo device :=
    hordered.writes message (List.mem_of_getElem? hmessage)
  by_cases hall : ∀ other < id, Succeeded log other
  · right
    obtain ⟨hreached, happlied⟩ := hordered.row_of_succeeded hlater hall
    have heffect := rowEffect_of_reached hmessage hreached
    have hcases := storedById_handle_cases integrations store now hwrites
    refine ⟨?_, fun ⟨entry, hentry, hid, hsuccess⟩ ↦ ?_⟩
    · rcases hcases with ⟨hsame, -⟩ | hwritten
      · rwa [hsame]
      · exact .inr (hwritten.trans heffect)
    · rcases List.mem_cons.mp hentry with rfl | hold
      · exact (storedById_handle_of_ok hwrites (eq_ok_of_isOk hsuccess)).trans heffect
      · rcases hcases with ⟨hsame, -⟩ | hwritten
        · exact hsame.trans (happlied ⟨entry, hold, hid, hsuccess⟩)
        · exact hwritten.trans heffect
  · left
    push Not at hall
    obtain ⟨other, hother, hfailed⟩ := hall
    exact ⟨other, hother, fun hsucceeded ↦ hfailed (hsucceeded.of_cons hother.ne')⟩

theorem Ordered.handled :
    Ordered integrations device start messages
      (⟨id, now, (handle integrations store message now).2.isOk⟩ :: log)
      (handle integrations store message now).1 := by
  have hwrites : message.WritesTo device :=
    hordered.writes message (List.mem_of_getElem? hmessage)
  obtain ⟨hbound, -⟩ := List.getElem?_eq_some_iff.mp hmessage
  refine ⟨hordered.writes, fun entry hentry ↦ ?_, List.pairwise_cons.mpr ⟨hlater, hordered.sorted⟩,
    hordered.only.trans (onlyDevice_handle hwrites), hordered.row_handled hmessage hlater now, ?_⟩
  · rcases List.mem_cons.mp hentry with rfl | hold
    · exact hbound
    · exact hordered.known entry hold
  · intro entry hentry hsuccess hall store' honly hrow other hother
    have hbefore : ∀ earlier < entry.id, Succeeded log earlier := by
      intro earlier hearlier
      refine (hall earlier hearlier).of_cons ?_
      rcases List.mem_cons.mp hentry with rfl | hold
      · exact hearlier.ne'
      · exact (hearlier.trans_le (hlater entry hold)).ne'
    rcases List.mem_cons.mp hentry with rfl | hold
    · -- the row at the call has the same effect as the row after the commands before
      cases hmessage.symm.trans hother
      obtain ⟨hreached, -⟩ := hordered.row_of_succeeded hlater hbefore
      have heffect : rowEffect message (store'.storedById device) =
          rowEffect message (store.storedById device) := by
        rw [rowEffect_of_reached hmessage hreached, rowEffect_of_reached hmessage (.inl hrow)]
      rw [handle_result_congr hwrites (hordered.only.of_common honly) heffect]
      exact eq_ok_of_isOk hsuccess
    · exact hordered.replays entry hold hsuccess hbefore store' honly hrow other hother

end

theorem Ordered.of_stepped {node : NodeId} {world next : DeliveryWorld} {event : DeliveryEvent}
    (hordered : Ordered integrations device start world.messages world.log world.client.store)
    (hcarried : Carried world) (hcondition : HandledInOrder device world event next)
    (hstepped : Stepped node integrations world event next) :
    Ordered integrations device start next.messages next.log next.client.store := by
  have hmessages := hstepped.messages
  cases hstepped with
  | tick | connect | drop | select | write | fail | restart => exact hordered
  | mark | expire | reply =>
    rcases hmessages with hsame | ⟨_, _, hevent, _⟩
    · rw [hsame]
      exact hordered
    · cases hevent
  | queue message lifetime =>
    rcases hmessages with hsame | ⟨other, _, hevent, hnext⟩
    · rw [hsame]
      exact hordered
    · cases hevent
      rw [hnext]
      exact hordered.queue hcondition
  | receive hlink hinbound =>
    rename_i number id link message inbound
    have hhead : (id, message) ∈ link.inbound := hinbound ▸ List.mem_cons_self
    have hmessage : world.messages[id]? = some message :=
      (hcarried.links number link hlink).inbound _ hhead
    have hread := hcondition link hlink (id, message) (by rw [hinbound]; rfl)
    show Ordered integrations device start world.messages
      (world.handled integrations id message).log
      (world.handled integrations id message).client.store
    rcases receive_cases integrations world.client (Nat.repr id) message world.clock with
      ⟨hseen, hreceive⟩ | ⟨hseen, error, -, hreceive⟩ | ⟨hseen, -, hreceive⟩
    · simp only [DeliveryWorld.handled, hreceive, if_pos hseen]
      exact hordered
    · simp only [DeliveryWorld.handled, hreceive, if_neg hseen]
      exact hordered.handled hmessage (hread.resolve_left hseen) world.clock
    · simp only [DeliveryWorld.handled, hreceive, if_neg hseen]
      exact hordered.handled hmessage (hread.resolve_left hseen) world.clock

section

variable (hordered : Ordered integrations device start messages log store)
  (hall : ∀ id < messages.length, Succeeded log id)

include hordered hall

theorem Ordered.exists_handleEach {count : ℕ} (hcount : count ≤ messages.length) :
    ∃ handled final, handled.map Prod.fst = messages.take count ∧
      handleEach integrations start handled = some final ∧ OnlyDevice device start final ∧
      final.storedById device = rowAfter (start.storedById device) messages count := by
  induction count with
  | zero => exact ⟨[], start, by simp, rfl, .refl _ _, rfl⟩
  | succ count ih =>
    obtain ⟨handled, final, hmessages, hhandled, honly, hrow⟩ := ih (by omega)
    obtain ⟨message, hmessage⟩ : ∃ message, messages[count]? = some message :=
      ⟨_, List.getElem?_eq_getElem hcount⟩
    have hwrites : message.WritesTo device :=
      hordered.writes message (List.mem_of_getElem? hmessage)
    obtain ⟨entry, hentry, rfl, hsuccess⟩ := hall count hcount
    have hok := hordered.replays entry hentry hsuccess (fun id hid ↦ hall id (by omega)) final
      honly hrow message hmessage
    refine ⟨handled ++ [(message, entry.time)], (handle integrations final message entry.time).1,
      ?_, handleEach_concat hhandled hok, honly.trans (onlyDevice_handle hwrites), ?_⟩
    · rw [List.map_append, hmessages, List.take_add_one, hmessage]
      rfl
    · rw [storedById_handle_of_ok hwrites hok, hrow, rowAfter_succ hmessage]

theorem Ordered.row_of_all :
    store.storedById device = rowAfter (start.storedById device) messages messages.length := by
  have hrow := hordered.row
  cases log with
  | nil =>
    have hempty : messages.length = 0 := by
      by_contra hpositive
      obtain ⟨entry, hentry, -⟩ := hall 0 (Nat.pos_of_ne_zero hpositive)
      cases hentry
    rw [hempty]
    exact hrow
  | cons last rest =>
    have hbound := hordered.known last List.mem_cons_self
    have hlast : last.id + 1 = messages.length := by
      have hle := hordered.le_last (hall (messages.length - 1) (by omega))
      omega
    rcases hrow with ⟨other, hother, hfailed⟩ | ⟨-, happlied⟩
    · exact absurd (hall other (by omega)) hfailed
    · rw [← hlast]
      exact happlied (hall last.id hbound)

end

end Order

/-! ### Runs in order -/

structure CreatedInOrder (world : DeliveryWorld) : Prop where
  past : ∀ command ∈ world.commands, command.createdAt ≤ world.clock
  sorted : world.commands.Pairwise fun first second ↦ first.createdAt ≤ second.createdAt

section Runs

variable {node : NodeId} {integrations : Integrations} {device : DeviceId} {start : Store}
  {clock : ℤ} {world next : DeliveryWorld} {event : DeliveryEvent}

theorem Stepped.clock_le (hstepped : Stepped node integrations world event next) :
    world.clock ≤ next.clock := by
  cases hstepped with
  | tick elapsed =>
    dsimp only
    omega
  | _ => exact le_rfl

theorem CreatedInOrder.of_stepped (hcreated : CreatedInOrder world)
    (hstepped : Stepped node integrations world event next) : CreatedInOrder next := by
  have hclock := hstepped.clock_le
  rcases hstepped.commands with ⟨change, hnext, hchange⟩ | ⟨message, lifetime, rfl, hnext⟩
  · refine ⟨fun command hmem ↦ ?_, ?_⟩
    · rw [hnext] at hmem
      obtain ⟨old, hold, rfl⟩ := List.mem_map.mp hmem
      rw [(hchange old).createdAt]
      exact (hcreated.past old hold).trans hclock
    · rw [hnext, List.pairwise_map]
      refine hcreated.sorted.imp fun {first second} hle ↦ ?_
      rw [(hchange first).createdAt, (hchange second).createdAt]
      exact hle
  · have hnew : ∀ command ∈ world.commands, command.createdAt ≤
        (queuedCommand node world.clock world.commands.length message lifetime).createdAt :=
      hcreated.past
    refine ⟨fun command hmem ↦ ?_, ?_⟩
    · rw [hnext] at hmem
      rcases List.mem_append.mp hmem with hold | hlast
      · exact (hcreated.past command hold).trans hclock
      · rw [List.mem_singleton.mp hlast]
        exact hclock
    · rw [hnext, List.pairwise_append]
      refine ⟨hcreated.sorted, List.pairwise_singleton _ _, fun command hmem last hlast ↦ ?_⟩
      rw [List.mem_singleton.mp hlast]
      exact hnew command hmem

theorem ordered_of_reachable
    (hreach : ReachableUnder (DeliveryWorld.step node integrations)
      (HandledInOrder device) (.fresh clock start) world) :
    Carried world ∧ Confirmed world ∧ CreatedInOrder world ∧
      Ordered integrations device start world.messages world.log world.client.store := by
  refine hreach.invariant (fun world ↦ Carried world ∧ Confirmed world ∧ CreatedInOrder world ∧
    Ordered integrations device start world.messages world.log world.client.store) ?_ ?_
  · refine ⟨⟨rfl, fun _ _ hlink ↦ (by cases hlink)⟩, ⟨fun _ hmem ↦ (by cases hmem),
      fun _ _ hlink ↦ (by cases hlink), fun _ hmem ↦ (by cases hmem)⟩,
      ⟨fun _ hmem ↦ (by cases hmem), .nil⟩, ?_⟩
    exact ⟨fun _ hmem ↦ (by cases hmem), fun _ hmem ↦ (by cases hmem), .nil, .refl _ _, rfl,
      fun _ hmem ↦ (by cases hmem)⟩
  · rintro world event next ⟨hcarried, hconfirmed, hcreated, hordered⟩ hcondition hstep
    have hstepped := stepped hstep
    exact ⟨hcarried.of_stepped hstepped, hconfirmed.of_stepped hstepped,
      hcreated.of_stepped hstepped, hordered.of_stepped hcarried hcondition hstepped⟩

theorem Confirmed.succeeded_of_acked (hconfirmed : Confirmed world)
    (hindexed : Indexed world.commands)
    (hacked : ∀ command ∈ world.commands, command.status = .acked) {id : ℕ}
    (hid : id < world.messages.length) : Succeeded world.log id := by
  have hmem : id ∈ world.commands.map Command.id := by
    rw [hindexed, List.mem_range]
    simpa [DeliveryWorld.messages] using hid
  obtain ⟨command, hcommand, rfl⟩ := List.mem_map.mp hmem
  exact hconfirmed.acked command hcommand (hacked command hcommand)

theorem active_rowAfter_revoke {row : Option StoredDevice} {messages : List Message}
    {data : DeviceRef} (hlast : messages.getLast? = some (.deviceRevoke data)) :
    ∀ stored ∈ rowAfter row messages messages.length, stored.active = false := by
  intro stored hstored
  obtain ⟨front, rfl⟩ := List.getLast?_eq_some_iff.mp hlast
  have hmessage : (front ++ [Message.deviceRevoke data])[front.length]? =
      some (.deviceRevoke data) := by simp
  rw [List.length_append, List.length_singleton, rowAfter_succ hmessage] at hstored
  obtain ⟨old, -, rfl⟩ := Option.map_eq_some_iff.mp hstored
  rfl

/-- Assumes: a run in which the commands are about one device and the node handles none after a
later one, and in which every command is acknowledged at last. The commands stand in the order of
their creation, and the row of the device is that of handling each of them once in this order, with
success. In particular the device is not active when the last command is a revocation. -/
theorem row_in_order
    (hreach : ReachableUnder (DeliveryWorld.step node integrations)
      (HandledInOrder device) (.fresh clock start) world)
    (hacked : ∀ command ∈ world.commands, command.status = .acked) :
    (world.commands.Pairwise fun first second ↦ first.createdAt ≤ second.createdAt) ∧
    (∃ handled final, handled.map Prod.fst = world.messages ∧
      handleEach integrations start handled = some final ∧
      world.client.store.storedById device = final.storedById device) ∧
    ∀ data, world.messages.getLast? = some (.deviceRevoke data) →
      ∀ row ∈ world.client.store.storedById device, row.active = false := by
  obtain ⟨hcarried, hconfirmed, hcreated, hordered⟩ := ordered_of_reachable hreach
  have hall : ∀ id < world.messages.length, Succeeded world.log id := fun _ hid ↦
    hconfirmed.succeeded_of_acked hcarried.indexed hacked hid
  have hrow := hordered.row_of_all hall
  obtain ⟨handled, final, hmessages, hhandled, -, hfinal⟩ := hordered.exists_handleEach hall le_rfl
  refine ⟨hcreated.sorted, ⟨handled, final, ?_, hhandled, hrow.trans hfinal.symm⟩, ?_⟩
  · rw [hmessages, List.take_length]
  · intro data hlast
    rw [hrow]
    exact active_rowAfter_revoke hlast

/-- In every run, whatever is lost, repeated or reordered and however often the node restarts, a
command is acknowledged only after the node has handled it with success. -/
theorem acked_was_handled
    (hreach : Reachable (DeliveryWorld.step node integrations) (.fresh clock start)
      world) :
    ∀ command ∈ world.commands, command.status = .acked → Succeeded world.log command.id := by
  have hconfirmed : Confirmed world := by
    refine hreach.invariant Confirmed ⟨fun _ hmem ↦ (by cases hmem), fun _ _ hlink ↦
      (by cases hlink), fun _ hmem ↦ (by cases hmem)⟩ fun _ _ _ hconfirmed hstep ↦ ?_
    exact hconfirmed.of_stepped (stepped hstep)
  exact hconfirmed.acked

end Runs

/-! ### A revocation that is overtaken -/

def enabling : Message :=
  .deviceUpsert ⟨"device", "hash", .code .lite, true, day, day, 1, 0, zeroTime⟩

def numbered (id : ℕ) (message : Message) (attempts : ℕ) (status : CommandStatus)
    (notBefore : ℤ) : Command :=
  { queuedCommand "node" 0 id message oneDay with status, attempts, notBefore }

def deliverOne (link : ℕ) (row : Command) : List DeliveryEvent :=
  [.select link [row], .write link, .mark link, .expire link, .receive link, .reply link]

def enableThenRevoke : DeliveryWorld :=
  deliveryRun (.fresh 0 soloStore) ([.queue enabling oneDay, .connect 0] ++
    deliverOne 0 (numbered 0 enabling 0 .pending 0) ++ [.queue revocation oneDay] ++
    deliverOne 0 (numbered 1 revocation 0 .pending 0))

def enableOvertaken : DeliveryWorld :=
  deliveryRun (.fresh 0 soloStore) ([.queue enabling oneDay, .connect 0,
    .select 0 [numbered 0 enabling 0 .pending 0], .write 0, .mark 0, .expire 0, .drop 0,
    .queue revocation oneDay, .connect 1] ++ deliverOne 1 (numbered 1 revocation 0 .pending 0) ++
    [.tick 2000000000] ++ deliverOne 1 (numbered 0 enabling 1 .sent (2 * second)))

theorem row_in_order_revoked :
    enableThenRevoke.messages = [enabling, revocation] ∧
    (∀ command ∈ enableThenRevoke.commands, command.status = .acked) ∧
    ∀ row ∈ enableThenRevoke.client.store.storedById "device", row.active = false := by
  have hreach : ReachableUnder (DeliveryWorld.step "node" soloIntegrations)
      (HandledInOrder "device") (.fresh 0 soloStore) enableThenRevoke := by
    unfold enableThenRevoke
    exact reachableUnder_getD rfl
  have hacked : ∀ command ∈ enableThenRevoke.commands, command.status = .acked := by decide
  exact ⟨rfl, hacked, (row_in_order hreach hacked).2.2 _ rfl⟩

theorem acked_was_handled_overtaken :
    enableOvertaken.log.map Handling.id = [0, 1] ∧
    ∀ command ∈ enableOvertaken.commands, command.status = .acked →
      Succeeded enableOvertaken.log command.id := by
  have hreach : Reachable (DeliveryWorld.step "node" soloIntegrations)
      (.fresh 0 soloStore) enableOvertaken := by
    unfold enableOvertaken
    exact reachable_getD _
  exact ⟨rfl, acked_was_handled hreach⟩

/-- The device is active although its last command is a revocation and every command is
acknowledged; handling the commands in order leaves it revoked. -/
theorem revoked_then_enabled :
    Reachable (DeliveryWorld.step "node" soloIntegrations) (.fresh 0 soloStore)
      enableOvertaken ∧
    (∀ command ∈ enableOvertaken.commands, command.status = .acked) ∧
    enableOvertaken.messages = [enabling, revocation] ∧
    (enableOvertaken.client.store.storedById "device").map StoredDevice.active = some true ∧
    ∀ handled final, handled.map Prod.fst = enableOvertaken.messages →
      handleEach soloIntegrations soloStore handled = some final →
      (final.storedById "device").map StoredDevice.active = some false := by
  refine ⟨?_, by decide, rfl, rfl, fun handled final hmessages hhandled ↦ ?_⟩
  · unfold enableOvertaken
    exact reachable_getD _
  · have hboth : handled.map Prod.fst = [enabling, revocation] := hmessages
    obtain ⟨⟨first, firstTime⟩, rest, rfl, rfl, hrest⟩ := List.map_eq_cons_iff.mp hboth
    obtain ⟨⟨second, secondTime⟩, rest, rfl, rfl, hnone⟩ := List.map_eq_cons_iff.mp hrest
    obtain rfl := List.map_eq_nil_iff.mp hnone
    cases hhandled
    rfl

end RiseVpn.Fleet
