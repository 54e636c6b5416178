import Mathlib.Data.List.Induction
import RiseVpn.Library.GuardedRun
import RiseVpn.Node.Client

/-!
# The messages that a node has seen

`Client.readLoop` takes frames from its connection, hands envelopes to `Client.handle` and remembers
the ids of those that were handled successfully. A loop ends with its connection, and the next
connection goes on with the same client. `ReadHistory` is a client with all calls of `handle` it has
made; a run is any sequence of frames, with any changes of the store by the other goroutines of the
process between them.

The memory is bounded: `markSeen` empties it when it holds more than 2048 ids. So the ids are
remembered in blocks of 2049 successful messages, counted from the start of the process
(`Remembers`), and `handled_once_in_block` says that a message is not handled again, and is answered
as a duplicate, until a successful message begins the next block. `handled_again_after_block` is a
run in which the first message is handled again after the 2050th.
-/

set_option autoImplicit false

namespace RiseVpn

open GuardedRun

/-! ### The read loop -/

/-- What a call of `connection.Read` comes to: an error or a text that is no envelope, which both
end the loop, a binary message, or an envelope. An envelope without a message id has the empty
one. -/
inductive Frame
  | failed
  | malformed
  | binary
  | envelope (id : MessageId) (message : Message)

inductive LoopAnswer
  | silent
  | reply (reply : Reply)
  | error (message : String)

/-- A round of `Client.readLoop`. -/
def Client.readRound (integrations : Integrations) (client : Client) (now : ℤ) :
    Frame → Client × LoopAnswer
  | .failed => (client, .silent)
  | .malformed => (client, .silent)
  | .binary => (client, .silent)
  | .envelope id message =>
    if id = "" then
      match handle integrations client.store message now with
      | (store, .error error) => ({ client with store }, .error error)
      | (store, .ok ()) => ({ client with store }, .silent)
    else
      let received := client.receive integrations id message now
      (received.1, .reply received.2)

/-- The call of `handle` in a round: the id of its message, and whether it succeeds. -/
def Client.handles (integrations : Integrations) (client : Client) (now : ℤ) :
    Frame → List (MessageId × Bool)
  | .envelope id message =>
    if id ≠ "" ∧ id ∈ client.seen then []
    else [(id, (handle integrations client.store message now).2.isOk)]
  | _ => []

/-- A client, and the calls of `handle` it has made, oldest first. -/
structure ReadHistory where
  client : Client
  handled : List (MessageId × Bool)

inductive ReadEvent
  | frame (frame : Frame) (now : ℤ)
  | elsewhere (store : Store)

namespace ReadHistory

def step (integrations : Integrations) (history : ReadHistory) : ReadEvent → Option ReadHistory
  | .frame frame now => some {
      client := (history.client.readRound integrations now frame).1
      handled := history.handled ++ history.client.handles integrations now frame }
  | .elsewhere store => some { history with client.store := store }

def fresh (store : Store) : ReadHistory := ⟨⟨store, []⟩, []⟩

def succeeded (history : ReadHistory) : List MessageId :=
  (history.handled.filter fun call ↦ call.1 ≠ "" ∧ call.2 = true).map Prod.fst

/-- The calls of `handle` for a message id. -/
def callsFor (history : ReadHistory) (id : MessageId) : List (MessageId × Bool) :=
  history.handled.filter fun call ↦ call.1 = id

end ReadHistory

def emptyAck (id : MessageId) : ReadEvent := .frame (.envelope id (.usageAck [])) 0

def seenBlock : ℕ := 2049

/-- The memory holds the ids of the running block of successful messages, newest first. -/
def Remembers (history : ReadHistory) : Prop :=
  history.client.seen = (history.succeeded.drop
    (seenBlock * ((history.succeeded.length - 1) / seenBlock))).reverse

section Rounds

variable {integrations : Integrations} {history next later : ReadHistory} {event : ReadEvent}
  {id : MessageId}

/-- What a step does to the memory and to the calls: it makes no call, or one that is not
remembered, or one that succeeds and is remembered. -/
inductive Round (history next : ReadHistory) : Prop
  | idle (hseen : next.client.seen = history.client.seen) (hcalls : next.handled = history.handled)
  | unremembered {id : MessageId} {ok : Bool} (hnew : id = "" ∨ id ∉ history.client.seen)
      (hunmarked : id = "" ∨ ok = false) (hseen : next.client.seen = history.client.seen)
      (hcalls : next.handled = history.handled ++ [(id, ok)])
  | remembered {id : MessageId} (hid : id ≠ "") (hnew : id ∉ history.client.seen)
      (hseen : next.client.seen = markSeen history.client.seen id)
      (hcalls : next.handled = history.handled ++ [(id, true)])

theorem round_of_envelope (integrations : Integrations) (history : ReadHistory) (id : MessageId)
    (message : Message) (now : ℤ)
    (hstep : history.step integrations (.frame (.envelope id message) now) = some next) :
    Round history next := by
  cases hstep
  by_cases hid : id = ""
  · have hcalls : history.client.handles integrations now (.envelope id message) =
        [(id, (handle integrations history.client.store message now).2.isOk)] :=
      if_neg fun hseen ↦ hseen.1 hid
    refine .unremembered (.inl hid) (.inl hid) ?_ (congrArg _ hcalls)
    simp only [Client.readRound, if_pos hid]
    split <;> rfl
  · simp only [Client.readRound, if_neg hid, Client.handles]
    rcases receive_cases integrations history.client id message now with
      ⟨hseen, hreceive⟩ | ⟨hseen, error, herror, hreceive⟩ | ⟨hseen, hok, hreceive⟩
    · rw [hreceive, if_pos ⟨hid, hseen⟩]
      exact .idle rfl (List.append_nil _)
    · rw [hreceive, if_neg fun hboth ↦ hseen hboth.2, herror]
      exact .unremembered (.inr hseen) (.inr rfl) rfl rfl
    · rw [hreceive, if_neg fun hboth ↦ hseen hboth.2, hok]
      exact .remembered hid hseen rfl rfl

theorem round_of_step (hstep : history.step integrations event = some next) :
    Round history next := by
  cases event with
  | elsewhere store =>
    cases hstep
    exact .idle rfl rfl
  | frame frame now =>
    cases frame with
    | envelope id message => exact round_of_envelope integrations history id message now hstep
    | failed | malformed | binary =>
      cases hstep
      exact .idle rfl (List.append_nil _)

theorem succeeded_of_idle (hcalls : next.handled = history.handled) :
    next.succeeded = history.succeeded := by
  rw [ReadHistory.succeeded, ReadHistory.succeeded, hcalls]

theorem succeeded_append_success (hid : id ≠ "")
    (hcalls : next.handled = history.handled ++ [(id, true)]) :
    next.succeeded = history.succeeded ++ [id] := by
  simp [ReadHistory.succeeded, hcalls, hid]

theorem succeeded_append_other {ok : Bool} (hunmarked : id = "" ∨ ok = false)
    (hcalls : next.handled = history.handled ++ [(id, ok)]) :
    next.succeeded = history.succeeded := by
  have hskip : ¬ (id ≠ "" ∧ ok = true) := by
    rintro ⟨hid, hok⟩
    rcases hunmarked with hempty | hfailed
    · exact hid hempty
    · rw [hfailed] at hok
      cases hok
  simp [ReadHistory.succeeded, hcalls, hskip]

theorem Round.succeeded_prefixed (hround : Round history next) :
    history.succeeded <+: next.succeeded := by
  cases hround with
  | idle hseen hcalls => exact (succeeded_of_idle hcalls).symm ▸ List.prefix_refl _
  | unremembered hnew hunmarked hseen hcalls =>
    exact (succeeded_append_other hunmarked hcalls).symm ▸ List.prefix_refl _
  | remembered hid hnew hseen hcalls =>
    rw [succeeded_append_success hid hcalls]
    exact List.prefix_append _ _

theorem ne_empty_of_mem_succeeded (hid : id ∈ history.succeeded) : id ≠ "" := by
  obtain ⟨call, hcall, rfl⟩ := List.mem_map.mp hid
  exact (of_decide_eq_true (List.mem_filter.mp hcall).2).1

end Rounds

/-! ### The blocks of the memory -/

section Blocks

variable {integrations : Integrations} {history next later : ReadHistory} {event : ReadEvent}
  {id : MessageId} {store : Store}

theorem remembers_fresh (store : Store) : Remembers (.fresh store) := by
  show [] = (List.drop _ []).reverse
  rw [List.drop_nil, List.reverse_nil]

theorem markSeen_blocks (ids : List MessageId) (id : MessageId) :
    markSeen (ids.drop (seenBlock * ((ids.length - 1) / seenBlock))).reverse id =
      ((ids ++ [id]).drop (seenBlock * (((ids ++ [id]).length - 1) / seenBlock))).reverse := by
  have hlength : (ids ++ [id]).length - 1 = ids.length := by simp
  have hstart : seenBlock * (ids.length / seenBlock) ≤ ids.length := Nat.mul_div_le _ _
  rw [hlength, List.drop_append_of_le_length hstart, List.reverse_append, markSeen,
    List.length_reverse, List.length_drop]
  by_cases hfull : 2048 < ids.length - seenBlock * ((ids.length - 1) / seenBlock)
  · have hblock : seenBlock * (ids.length / seenBlock) = ids.length := by
      unfold seenBlock at hfull ⊢
      omega
    rw [if_pos hfull, hblock, List.drop_length]
    rfl
  · have hblock : ids.length / seenBlock = (ids.length - 1) / seenBlock := by
      unfold seenBlock at hfull ⊢
      omega
    rw [if_neg hfull, hblock]
    rfl

theorem Round.remembers (hround : Round history next) (hmemory : Remembers history) :
    Remembers next := by
  unfold Remembers at hmemory ⊢
  cases hround with
  | idle hseen hcalls => rw [hseen, succeeded_of_idle hcalls, hmemory]
  | unremembered hnew hunmarked hseen hcalls =>
    rw [hseen, succeeded_append_other hunmarked hcalls, hmemory]
  | remembered hid hnew hseen hcalls =>
    rw [hseen, succeeded_append_success hid hcalls, hmemory]
    exact markSeen_blocks _ _

theorem remembers_of_reachable
    (hreach : Reachable (ReadHistory.step integrations) (.fresh store) history) :
    Remembers history :=
  hreach.invariant Remembers (remembers_fresh store) fun _ _ _ hmemory hstep ↦
    (round_of_step hstep).remembers hmemory

theorem Remembers.mem_seen (hmemory : Remembers history) {i : ℕ}
    (hsuccess : history.succeeded[i]? = some id)
    (hblock : history.succeeded.length ≤ seenBlock * (i / seenBlock + 1)) :
    id ∈ history.client.seen := by
  obtain ⟨hlt, -⟩ := List.getElem?_eq_some_iff.mp hsuccess
  have hstart : seenBlock * ((history.succeeded.length - 1) / seenBlock) ≤ i := by
    unfold seenBlock at hblock ⊢
    omega
  rw [hmemory, List.mem_reverse]
  obtain ⟨offset, rfl⟩ := Nat.exists_eq_add_of_le hstart
  rw [← List.getElem?_drop] at hsuccess
  exact List.mem_of_getElem? hsuccess

theorem Round.callsFor_of_mem (hround : Round history next) (hid : id ≠ "")
    (hseen : id ∈ history.client.seen) : next.callsFor id = history.callsFor id := by
  cases hround with
  | idle _ hcalls => rw [ReadHistory.callsFor, ReadHistory.callsFor, hcalls]
  | @unremembered other ok hnew _ _ hcalls =>
    have hother : other ≠ id := by
      rintro rfl
      exact hnew.elim hid fun hfresh ↦ hfresh hseen
    simp [ReadHistory.callsFor, hcalls, hother]
  | @remembered other _ hnew _ hcalls =>
    have hother : other ≠ id := fun hsame ↦ hnew (hsame ▸ hseen)
    simp [ReadHistory.callsFor, hcalls, hother]

theorem readRound_duplicate (hid : id ≠ "") {client : Client} (hseen : id ∈ client.seen)
    (integrations : Integrations) (message : Message) (now : ℤ) :
    client.readRound integrations now (.envelope id message) =
      (client, .reply (.ack id "duplicate")) := by
  simp only [Client.readRound, if_neg hid, Client.receive, if_pos hseen]

theorem succeeded_prefixed_of_reachable
    (hreach : Reachable (ReadHistory.step integrations) history later) :
    history.succeeded <+: later.succeeded :=
  hreach.invariant (fun state ↦ history.succeeded <+: state.succeeded) (List.prefix_refl _)
    fun _ _ _ hprefixed hstep ↦ hprefixed.trans (round_of_step hstep).succeeded_prefixed

/-- A message that was handled successfully as number `i` of the process is not handled again, and
a repetition of it changes nothing and is answered as a duplicate, for as long as no successful
message of a later block has come. -/
theorem handled_once_in_block
    (hreach : Reachable (ReadHistory.step integrations) (.fresh store) history)
    (hlater : Reachable (ReadHistory.step integrations) history later) {i : ℕ}
    (hsuccess : history.succeeded[i]? = some id)
    (hblock : later.succeeded.length ≤ seenBlock * (i / seenBlock + 1)) :
    later.callsFor id = history.callsFor id ∧
      ∀ (message : Message) (now : ℤ),
        later.client.readRound integrations now (.envelope id message) =
          (later.client, .reply (.ack id "duplicate")) := by
  have hid : id ≠ "" := ne_empty_of_mem_succeeded (List.mem_of_getElem? hsuccess)
  have hseen : ∀ {state : ReadHistory}, Reachable (ReadHistory.step integrations) history state →
      state.succeeded.length ≤ seenBlock * (i / seenBlock + 1) → id ∈ state.client.seen := by
    intro state hstate hshort
    obtain ⟨hlt, hget⟩ := List.getElem?_eq_some_iff.mp hsuccess
    have hkept := List.prefix_iff_getElem?.mp (succeeded_prefixed_of_reachable hstate) i hlt
    rw [hget] at hkept
    exact (remembers_of_reachable (hreach.trans hstate)).mem_seen hkept hshort
  refine ⟨?_, readRound_duplicate hid (hseen hlater hblock) integrations⟩
  induction hlater with
  | refl => rfl
  | next hbefore hstep _ ih =>
    have hround := round_of_step hstep
    have hshort := hround.succeeded_prefixed.length_le.trans hblock
    rw [hround.callsFor_of_mem hid (hseen hbefore hshort), ih hshort]

theorem handled_once_repeated :
    ∃ history later : ReadHistory,
      run (ReadHistory.step soloIntegrations) (.fresh soloStore) [emptyAck "a"] = some history ∧
      run (ReadHistory.step soloIntegrations) history [emptyAck "b", emptyAck "a"] = some later ∧
      history.succeeded = ["a"] ∧ later.succeeded = ["a", "b"] ∧
      later.callsFor "a" = history.callsFor "a" ∧
      ∀ (message : Message) (now : ℤ),
        later.client.readRound soloIntegrations now (.envelope "a" message) =
          (later.client, .reply (.ack "a" "duplicate")) := by
  have hfirst : ∃ history, run (ReadHistory.step soloIntegrations) (.fresh soloStore)
      [emptyAck "a"] = some history ∧ history.succeeded = ["a"] := ⟨_, rfl, rfl⟩
  obtain ⟨history, hrun, hsucceeded⟩ := hfirst
  have hsecond : ∃ later, run (ReadHistory.step soloIntegrations) history
      [emptyAck "b", emptyAck "a"] = some later ∧ later.succeeded = ["a", "b"] := by
    cases hrun
    exact ⟨_, rfl, rfl⟩
  obtain ⟨later, hrest, hboth⟩ := hsecond
  refine ⟨history, later, hrun, hrest, hsucceeded, hboth, ?_⟩
  exact handled_once_in_block (reachable_of_run hrun) (reachable_of_run hrest)
    (show history.succeeded[0]? = some "a" by rw [hsucceeded]; rfl) (by rw [hboth]; decide)

end Blocks

/-! ### A block that ends -/

section Distinct

variable {integrations : Integrations} {history next : ReadHistory} {id : MessageId} {store : Store}

theorem step_emptyAck (integrations : Integrations) (hseen : id ∉ history.client.seen) :
    ∃ next, history.step integrations (emptyAck id) = some next ∧
      next.handled = history.handled ++ [(id, true)] := by
  refine ⟨_, rfl, congrArg (history.handled ++ ·) ?_⟩
  exact if_neg fun hboth ↦ hseen hboth.2

theorem mem_succeeded_of_mem_seen (hmemory : Remembers history)
    (hseen : id ∈ history.client.seen) : id ∈ history.succeeded := by
  rw [hmemory, List.mem_reverse] at hseen
  exact List.mem_of_mem_drop hseen

theorem succeeded_of_handled {ids : List MessageId} (hnonempty : "" ∉ ids)
    (hhandled : history.handled = ids.map fun id ↦ (id, true)) : history.succeeded = ids := by
  rw [ReadHistory.succeeded, hhandled, List.filter_eq_self.mpr, List.map_map]
  · exact List.map_id _
  · intro call hcall
    obtain ⟨id, hid, rfl⟩ := List.mem_map.mp hcall
    exact decide_eq_true ⟨fun hempty ↦ hnonempty (hempty ▸ hid), rfl⟩

theorem reachable_distinct (integrations : Integrations) (store : Store) {ids : List MessageId}
    (hdistinct : ids.Nodup) (hnonempty : "" ∉ ids) :
    ∃ history, Reachable (ReadHistory.step integrations) (.fresh store) history ∧
      history.handled = ids.map fun id ↦ (id, true) := by
  induction ids using List.reverseRecOn with
  | nil => exact ⟨_, .refl, rfl⟩
  | append_singleton ids id ih =>
    obtain ⟨hids, -, hnew⟩ := List.nodup_append.mp hdistinct
    have hempty : "" ∉ ids := fun hmem ↦ hnonempty (List.mem_append_left _ hmem)
    obtain ⟨history, hreach, hhandled⟩ := ih hids hempty
    have hseen : id ∉ history.client.seen := by
      intro hmem
      have hold := mem_succeeded_of_mem_seen (remembers_of_reachable hreach) hmem
      rw [succeeded_of_handled hempty hhandled] at hold
      exact hnew id hold id (List.mem_singleton_self id) rfl
    obtain ⟨next, hstep, hnext⟩ := step_emptyAck integrations hseen
    refine ⟨next, hreach.next hstep, ?_⟩
    rw [hnext, hhandled, List.map_append]
    rfl

end Distinct

def numberedIds (count : ℕ) : List MessageId := (List.range count).map Nat.repr

theorem nodup_numberedIds (count : ℕ) : (numberedIds count).Nodup :=
  List.nodup_range.map fun _ _ ↦ DecimalText.repr_injective

theorem empty_notMem_numberedIds (count : ℕ) : "" ∉ numberedIds count := by
  intro hmem
  obtain ⟨n, -, hn⟩ := List.mem_map.mp hmem
  simp at hn

/-- A node that has handled message "0" and then 2049 others handles "0" again. -/
theorem handled_again_after_block :
    ∃ history next, Reachable (ReadHistory.step soloIntegrations) (.fresh soloStore) history ∧
      ("0", true) ∈ history.handled ∧
      history.step soloIntegrations (emptyAck "0") = some next ∧
      next.handled = history.handled ++ [("0", true)] := by
  obtain ⟨history, hreach, hhandled⟩ := reachable_distinct soloIntegrations soloStore
    (nodup_numberedIds 2050) (empty_notMem_numberedIds 2050)
  have hsucceeded := succeeded_of_handled (empty_notMem_numberedIds 2050) hhandled
  have hseen : "0" ∉ history.client.seen := by
    have hmemory := remembers_of_reachable hreach
    rw [Remembers, hsucceeded, numberedIds, List.length_map, List.length_range] at hmemory
    rw [hmemory, List.mem_reverse, ← List.map_drop]
    intro hmem
    obtain ⟨n, hn, htext⟩ := List.mem_map.mp hmem
    have hzero : n = 0 := DecimalText.repr_injective htext
    rw [hzero, List.mem_drop_iff_getElem] at hn
    obtain ⟨i, hi, hget⟩ := hn
    rw [List.getElem_range] at hget
    have hstart : seenBlock * ((2050 - 1) / seenBlock) = 2049 := rfl
    omega
  obtain ⟨next, hstep, hnext⟩ := step_emptyAck soloIntegrations hseen
  refine ⟨history, next, hreach, ?_, hstep, hnext⟩
  rw [hhandled]
  exact List.mem_map.mpr ⟨"0", List.mem_map.mpr ⟨0, List.mem_range.mpr (by decide), rfl⟩, rfl⟩

end RiseVpn
