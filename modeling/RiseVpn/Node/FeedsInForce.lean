import RiseVpn.Node.Authorization
import RiseVpn.Node.Client

/-!
# The feeds in force on a node

What `Service.Apply` accepts is `Accepted`, in its own terms, and `checkFeed_eq_ok_iff` says that
the checks are these. The feed in force after any calls of `Apply` is the last one that was accepted
(`applyAll_feed`). Rules that were accepted decode and have networks that parse, and the service
decodes them again each time it is asked, so `Service.Blocked` has no error to return and
`Service.Authorize` never answers `compliance_error`: `feeds_in_force`.

A feed is accepted on its own merits: nothing compares it with the feed that is in force. The row of
the node keeps whole seconds, so which of two feeds is older is asked of the signed feeds themselves
(`InForce` keeps the one behind the row). The node goes back to an older feed exactly when the
messages that pass the checks come out of order (`no_rollback_iff`, `older_feed_replaces_newer`).
-/

set_option autoImplicit false

namespace RiseVpn

/-! ### What is accepted -/

section Checks

variable {tools : ComplianceTools}

/-- The rules decode, and each of them can be matched against an address. -/
def ValidRules (tools : ComplianceTools) (raw : String) : Prop :=
  ∃ rules, tools.json.decode raw = .ok rules ∧
    (∀ domain ∈ rules.blockedDomains, domainValid domain = true) ∧
    (∀ cidr ∈ rules.blockedCidrs, tools.networks.parseCidr cidr ≠ none) ∧
    ∀ port ∈ rules.blockedPorts, 1 ≤ port ∧ port ≤ 65535

theorem validateRules_eq_ok_iff {raw : String} :
    validateRules tools raw = .ok () ↔ ValidRules tools raw := by
  unfold validateRules ValidRules
  cases tools.json.decode raw with
  | error message => simp
  | ok rules =>
    dsimp only
    cases hdomains : rules.blockedDomains.find? fun domain ↦ !domainValid domain with
    | some domain =>
      have hinvalid : domainValid domain = false := by simpa using List.find?_some hdomains
      simp only [reduceCtorEq, false_iff]
      rintro ⟨_, ⟨⟩, hvalid, -⟩
      rw [hvalid domain (List.mem_of_find?_eq_some hdomains)] at hinvalid
      cases hinvalid
    | none =>
      cases hcidrs : rules.blockedCidrs.find? fun cidr ↦ (tools.networks.parseCidr cidr).isNone with
      | some cidr =>
        have hinvalid : tools.networks.parseCidr cidr = none := by
          simpa using List.find?_some hcidrs
        simp only [reduceCtorEq, false_iff]
        rintro ⟨_, ⟨⟩, -, hparse, -⟩
        exact hparse cidr (List.mem_of_find?_eq_some hcidrs) hinvalid
      | none =>
        cases hports : rules.blockedPorts.find? fun port ↦ port < 1 || 65535 < port with
        | some port =>
          have hinvalid : port < 1 ∨ 65535 < port := by simpa using List.find?_some hports
          simp only [reduceCtorEq, false_iff]
          rintro ⟨_, ⟨⟩, -, -, hrange⟩
          have := hrange port (List.mem_of_find?_eq_some hports)
          omega
        | none =>
          refine iff_of_true rfl ⟨rules, rfl, ?_, ?_, ?_⟩
          · simpa using hdomains
          · simpa [Option.isNone_iff_eq_none] using hcidrs
          · simpa using hports

/-- What `Service.Apply` accepts: sound metadata, a span of validity that covers the time, valid
rules, and a signature of the key. -/
structure Accepted (tools : ComplianceTools) (feed : SignedFeed) (publicKey : String) (now : ℤ) :
    Prop where
  version : feed.version ≠ ""
  rules : feed.rules ≠ ""
  span : feed.updatedAt < feed.expiresAt
  current : now < feed.expiresAt
  dated : feed.updatedAt ≤ now + 5 * minute
  valid : ValidRules tools feed.rules
  key : tools.signatures.isPublicKey publicKey = true
  encoding : tools.signatures.decodes feed.signature = true
  signature : ∃ payload, signingPayload tools.json feed = .ok payload ∧
    tools.signatures.verify publicKey payload feed.signature = true

theorem checkFeed_eq_ok_iff {feed : SignedFeed} {publicKey : String} {now : ℤ} :
    checkFeed tools feed publicKey now = .ok () ↔ Accepted tools feed publicKey now := by
  constructor
  · intro hcheck
    unfold checkFeed at hcheck
    by_cases hmetadata : feed.version = "" ∨ feed.rules = "" ∨ ¬ feed.updatedAt < feed.expiresAt
    · rw [if_pos hmetadata] at hcheck
      cases hcheck
    by_cases htime : ¬ now < feed.expiresAt ∨ now + 5 * minute < feed.updatedAt
    · rw [if_neg hmetadata, if_pos htime] at hcheck
      cases hcheck
    rw [if_neg hmetadata, if_neg htime] at hcheck
    rw [not_or, not_or, not_not] at hmetadata
    rw [not_or, not_not] at htime
    split at hcheck
    · cases hcheck
    · rename_i hvalid
      by_cases hkey : tools.signatures.isPublicKey publicKey = true
      · by_cases hencoding : tools.signatures.decodes feed.signature = true
        · rw [if_neg (not_not.mpr hkey), if_neg (not_not.mpr hencoding)] at hcheck
          split at hcheck
          · cases hcheck
          · rename_i payload hpayload
            split_ifs at hcheck with hverify
            exact ⟨hmetadata.1, hmetadata.2.1, hmetadata.2.2, htime.1, Int.not_lt.mp htime.2,
              validateRules_eq_ok_iff.mp hvalid, hkey, hencoding, payload, hpayload, hverify⟩
        · rw [if_neg (not_not.mpr hkey), if_pos hencoding] at hcheck
          cases hcheck
      · rw [if_pos hkey] at hcheck
        cases hcheck
  · intro haccepted
    obtain ⟨payload, hpayload, hverify⟩ := haccepted.signature
    simp only [checkFeed, haccepted.version, haccepted.rules, haccepted.span, haccepted.current,
      Int.not_lt.mpr haccepted.dated, validateRules_eq_ok_iff.mpr haccepted.valid, haccepted.key,
      haccepted.encoding, hpayload, hverify, not_true_eq_false, or_self, if_false]

end Checks

/-! ### Calls of `Apply` -/

/-- A call of `Service.Apply` at a time. -/
structure ApplyCall where
  feed : SignedFeed
  publicKey : String
  now : ℤ

def ApplyCall.Accepted (tools : ComplianceTools) (call : ApplyCall) : Prop :=
  RiseVpn.Accepted tools call.feed call.publicKey call.now

def ComplianceStore.called (tools : ComplianceTools) (store : ComplianceStore) (call : ApplyCall) :
    ComplianceStore :=
  (store.apply tools call.feed call.publicKey call.now).1

def ComplianceStore.applyAll (tools : ComplianceTools) (store : ComplianceStore)
    (calls : List ApplyCall) : ComplianceStore :=
  calls.foldl (fun store call ↦ store.called tools call) store

def SignedFeed.row (feed : SignedFeed) : StoredFeed :=
  ⟨feed.version, unix feed.updatedAt, unix feed.expiresAt, feed.rules, feed.signature⟩

section Calls

variable {tools : ComplianceTools} {store : ComplianceStore} {call : ApplyCall}

theorem called_of_accepted (haccepted : call.Accepted tools) :
    (store.called tools call).feed = some call.feed.row ∧
      (store.apply tools call.feed call.publicKey call.now).2 = .ok () := by
  have hcheck := checkFeed_eq_ok_iff.mpr haccepted
  rw [ComplianceStore.called, ComplianceStore.apply, hcheck]
  exact ⟨rfl, rfl⟩

theorem called_of_rejected (hrejected : ¬ call.Accepted tools) :
    store.called tools call = store ∧
      ∃ message, (store.apply tools call.feed call.publicKey call.now).2 = .error message := by
  rw [ComplianceStore.called, ComplianceStore.apply]
  cases hcheck : checkFeed tools call.feed call.publicKey call.now with
  | error message => exact ⟨rfl, message, rfl⟩
  | ok => exact absurd (checkFeed_eq_ok_iff.mp hcheck) hrejected

/-- The feed is that of the last call that passed the checks, or there was none. -/
inductive LastAccepted (tools : ComplianceTools) (calls : List ApplyCall) :
    Option StoredFeed → Prop
  | none (hrejected : ∀ call ∈ calls, ¬ call.Accepted tools) : LastAccepted tools calls none
  | some {before after : List ApplyCall} {call : ApplyCall}
      (hcalls : calls = before ++ call :: after)
      (haccepted : call.Accepted tools) (hrejected : ∀ later ∈ after, ¬ later.Accepted tools) :
      LastAccepted tools calls (some call.feed.row)

theorem LastAccepted.rejected {calls : List ApplyCall} {feed : Option StoredFeed}
    (hlast : LastAccepted tools calls feed) (hrejected : ¬ call.Accepted tools) :
    LastAccepted tools (calls ++ [call]) feed := by
  have hall : ∀ {others : List ApplyCall}, (∀ other ∈ others, ¬ other.Accepted tools) →
      ∀ other ∈ others ++ [call], ¬ other.Accepted tools := by
    intro others hothers other hother
    rcases List.mem_append.mp hother with hold | hnew
    · exact hothers other hold
    · exact List.mem_singleton.mp hnew ▸ hrejected
  cases hlast with
  | none hothers => exact .none (hall hothers)
  | @some before after last hcalls haccepted hothers =>
    have hsplit : calls ++ [call] = before ++ last :: (after ++ [call]) := by
      rw [hcalls, List.append_assoc, List.cons_append]
    exact .some hsplit haccepted (hall hothers)

theorem applyAll_append (calls : List ApplyCall) (call : ApplyCall) :
    store.applyAll tools (calls ++ [call]) = (store.applyAll tools calls).called tools call := by
  rw [ComplianceStore.applyAll, List.foldl_append]
  rfl

theorem applyAll_feed (alert : Option StaleAlert) (calls : List ApplyCall) :
    LastAccepted tools calls (ComplianceStore.applyAll tools ⟨none, alert⟩ calls).feed := by
  induction calls using List.reverseRecOn with
  | nil => exact .none nofun
  | append_singleton calls call ih =>
    rw [applyAll_append]
    by_cases haccepted : call.Accepted tools
    · rw [(called_of_accepted haccepted).1]
      exact .some rfl haccepted nofun
    · rw [(called_of_rejected haccepted).1]
      exact ih.rejected haccepted

end Calls

/-! ### What is in force -/

section Blocked

variable {tools : ComplianceTools}

theorem blockedBy_ok (ip : tools.networks.Ip) {cidrs : List String}
    (hparse : ∀ cidr ∈ cidrs, tools.networks.parseCidr cidr ≠ none) :
    ∃ answer, blockedBy tools ip cidrs = .ok answer := by
  induction cidrs with
  | nil => exact ⟨false, rfl⟩
  | cons cidr rest ih =>
    obtain ⟨hfirst, hrest⟩ := List.forall_mem_cons.mp hparse
    obtain ⟨network, hnetwork⟩ := Option.ne_none_iff_exists'.mp hfirst
    simp only [blockedBy, hnetwork]
    split_ifs
    · exact ⟨true, rfl⟩
    · exact ih hrest

theorem blocked_of_valid {store : ComplianceStore}
    (hvalid : ∀ feed ∈ store.feed, ValidRules tools feed.rulesJson) (address : Text) :
    ∃ answer, store.blocked tools address = .ok answer := by
  unfold ComplianceStore.blocked
  cases hfeed : store.feed with
  | none => exact ⟨false, rfl⟩
  | some feed =>
    obtain ⟨rules, hdecode, -, hparse, -⟩ := hvalid feed hfeed
    simp only [hdecode, Rules.blocked]
    split_ifs
    · exact ⟨true, rfl⟩
    · split
      · exact ⟨_, rfl⟩
      · rename_i ip _
        obtain ⟨answer, hanswer⟩ := blockedBy_ok ip hparse
        rw [hanswer]
        cases answer with
        | true => exact ⟨true, rfl⟩
        | false => exact ⟨_, rfl⟩

/-- After any calls of `Apply` on a node that had no feed: the feed is that of the last call that
passed the checks, a further call that does not pass them fails and leaves it, `Service.Blocked`
returns no error for any address, and `Service.Authorize` never answers `compliance_error`. -/
theorem feeds_in_force (tools : ComplianceTools) (alert : Option StaleAlert)
    (calls : List ApplyCall) :
    let store := ComplianceStore.applyAll tools ⟨none, alert⟩ calls
    LastAccepted tools calls store.feed ∧
    (∀ call : ApplyCall, ¬ call.Accepted tools →
      (store.apply tools call.feed call.publicKey call.now).1 = store ∧
      ∃ message, (store.apply tools call.feed call.publicKey call.now).2 = .error message) ∧
    (∀ address, ∃ answer, store.blocked tools address = .ok answer) ∧
    ∀ devices id address payload now,
      (authorize tools devices store id address payload now).2 ≠ "compliance_error" := by
  intro store
  have hlast : LastAccepted tools calls store.feed := applyAll_feed alert calls
  have hvalid : ∀ feed ∈ store.feed, ValidRules tools feed.rulesJson := by
    intro feed hfeed
    rw [Option.mem_def.mp hfeed] at hlast
    cases hlast with
    | some _ haccepted _ => exact haccepted.valid
  refine ⟨hlast, fun call ↦ called_of_rejected, blocked_of_valid hvalid, ?_⟩
  intro devices id address payload now herror
  obtain ⟨message, hblocked⟩ := authorize_complianceError herror
  obtain ⟨answer, hanswer⟩ := blocked_of_valid hvalid address
  cases hblocked.symm.trans hanswer

end Blocked

/-! ### Feeds out of order -/

/-- A `compliance.feed` message and the time at which the node handles it. -/
structure FeedMessage where
  feed : SignedFeed
  now : ℤ

/-- `Client.handle` on a `compliance.feed` message, with the service. -/
def handleFeed (tools : ComplianceTools) (node : Store) (compliance : ComplianceStore)
    (message : FeedMessage) : ComplianceStore × Except String Unit :=
  match node.complianceKey with
  | none => (compliance, .error "controller public key is missing")
  | some key => compliance.apply tools message.feed key message.now

def FeedMessage.Passes (tools : ComplianceTools) (node : Store) (message : FeedMessage) : Prop :=
  ∃ key ∈ node.complianceKey, checkFeed tools message.feed key message.now = .ok ()
  deriving Decidable

/-- The tables of the service and the signed feed that their row was written from. -/
structure InForce where
  compliance : ComplianceStore
  signed : Option SignedFeed
  row_eq : compliance.feed = signed.map SignedFeed.row

section Order

variable {tools : ComplianceTools} {node : Store} {compliance : ComplianceStore}
  {message : FeedMessage}

theorem handleFeed_of_passes (hpasses : message.Passes tools node) :
    (handleFeed tools node compliance message).1.feed = some message.feed.row := by
  obtain ⟨key, hkey, hcheck⟩ := hpasses
  rw [handleFeed, Option.mem_def.mp hkey]
  simp only [ComplianceStore.apply, hcheck]
  rfl

theorem handleFeed_of_not_passes (hfails : ¬ message.Passes tools node) :
    (handleFeed tools node compliance message).1 = compliance := by
  unfold handleFeed
  split
  · rfl
  · rename_i key hkey
    unfold ComplianceStore.apply
    split
    · rfl
    · rename_i hcheck
      exact absurd ⟨key, hkey, hcheck⟩ hfails

def InForce.handle (tools : ComplianceTools) (node : Store) (current : InForce)
    (message : FeedMessage) : InForce where
  compliance := (handleFeed tools node current.compliance message).1
  signed := if message.Passes tools node then some message.feed else current.signed
  row_eq := by
    split_ifs with hpasses
    · exact handleFeed_of_passes hpasses
    · rw [handleFeed_of_not_passes hpasses, current.row_eq]

/-- The instant of the stored feed has not decreased, and no older feed has replaced a newer one. -/
def NotRolledBack (before after : InForce) : Prop :=
  (∀ old ∈ before.compliance.feed, ∃ new ∈ after.compliance.feed, old.updatedAt ≤ new.updatedAt) ∧
    ∀ old ∈ before.signed, ∃ new ∈ after.signed, old.updatedAt ≤ new.updatedAt

/-- No message of a sequence takes the node back to an older feed. -/
def NeverRolledBack (tools : ComplianceTools) (node : Store) : InForce → List FeedMessage → Prop
  | _, [] => True
  | current, message :: rest =>
    NotRolledBack current (current.handle tools node message) ∧
      NeverRolledBack tools node (current.handle tools node message) rest

/-- The messages that pass the checks come in the order of their instants, and none of them is older
than the feed in force. -/
def InOrder (tools : ComplianceTools) (node : Store) (current : InForce)
    (messages : List FeedMessage) : Prop :=
  let passing := messages.filter fun message ↦ message.Passes tools node
  (∀ old ∈ current.signed, ∀ message ∈ passing, old.updatedAt ≤ message.feed.updatedAt) ∧
    passing.Pairwise fun first second ↦ first.feed.updatedAt ≤ second.feed.updatedAt

/-- The rows follow the feeds they were written from: only the order of the feeds is left to ask. -/
theorem notRolledBack_iff {before after : InForce} :
    NotRolledBack before after ↔
      ∀ old ∈ before.signed, ∃ new ∈ after.signed, old.updatedAt ≤ new.updatedAt := by
  refine ⟨And.right, fun hsigned ↦ ⟨fun row hrow ↦ ?_, hsigned⟩⟩
  rw [before.row_eq] at hrow
  obtain ⟨old, hold, rfl⟩ := Option.map_eq_some_iff.mp hrow
  obtain ⟨new, hnew, hle⟩ := hsigned old hold
  refine ⟨new.row, ?_, Int.ediv_le_ediv second_pos hle⟩
  rw [after.row_eq]
  exact Option.map_eq_some_iff.mpr ⟨new, hnew, rfl⟩

/-- For every sequence of messages: the node never goes back to an older feed exactly when the
messages that pass the checks come in order. -/
theorem no_rollback_iff (tools : ComplianceTools) (node : Store) (current : InForce)
    (messages : List FeedMessage) :
    NeverRolledBack tools node current messages ↔ InOrder tools node current messages := by
  induction messages generalizing current with
  | nil => simp [NeverRolledBack, InOrder]
  | cons message rest ih =>
    rw [NeverRolledBack, ih, notRolledBack_iff]
    by_cases hpasses : message.Passes tools node
    · have hsigned : (current.handle tools node message).signed = some message.feed :=
        if_pos hpasses
      simp only [InOrder, hsigned, List.filter_cons, hpasses, decide_true, if_true,
        List.pairwise_cons, List.forall_mem_cons, Option.mem_def, Option.some.injEq,
        forall_eq', exists_eq_left']
      constructor
      · rintro ⟨hfirst, hlater, hpairs⟩
        exact ⟨fun old hold ↦ ⟨hfirst old hold, fun other hother ↦
          (hfirst old hold).trans (hlater other hother)⟩, hlater, hpairs⟩
      · rintro ⟨hfirst, hlater, hpairs⟩
        exact ⟨fun old hold ↦ (hfirst old hold).1, hlater, hpairs⟩
    · have hsigned : (current.handle tools node message).signed = current.signed :=
        if_neg hpasses
      simp only [InOrder, hsigned, List.filter_cons, hpasses, decide_false, Bool.false_eq_true,
        if_false]
      exact and_iff_right fun old hold ↦ ⟨old, hold, le_rfl⟩

end Order

def feedNode : Store where
  state := fun key ↦ if key = "compliance_public_key" then some "key" else none
  devices := ⟨[], List.nodup_nil, List.nodup_nil⟩
  usageEvents := []
  lastUsageId := 0

def hourlyFeed (version : String) (updatedAt : ℤ) : SignedFeed where
  version := version
  updatedAt := updatedAt
  expiresAt := updatedAt + 6 * hour
  rules := "[example.org"
  signature := "key:" ++ version

def InForce.none : InForce := ⟨⟨.none, .none⟩, .none, rfl⟩

theorem no_rollback_hourly :
    NeverRolledBack plainTools feedNode .none
      [⟨hourlyFeed "first" hour, 2 * hour⟩, ⟨hourlyFeed "second" (2 * hour), 2 * hour⟩,
        ⟨hourlyFeed "second" (2 * hour), 3 * hour⟩] :=
  (no_rollback_iff _ _ _ _).mpr ⟨nofun, by decide +kernel⟩

/-- A counterexample: the feed of one o'clock arrives after that of two o'clock. Both are valid, and
the older one is in force in the end. -/
theorem older_feed_replaces_newer :
    let newer : FeedMessage := ⟨hourlyFeed "second" (2 * hour), 2 * hour⟩
    let older : FeedMessage := ⟨hourlyFeed "first" hour, 2 * hour⟩
    let before := InForce.none.handle plainTools feedNode newer
    let after := before.handle plainTools feedNode older
    before.compliance.feed = some newer.feed.row ∧ after.compliance.feed = some older.feed.row ∧
      ¬ NeverRolledBack plainTools feedNode .none [newer, older] := by
  intro newer older before after
  have hnewer : newer.Passes plainTools feedNode := ⟨"key", rfl, by decide +kernel⟩
  have holder : older.Passes plainTools feedNode := ⟨"key", rfl, by decide +kernel⟩
  refine ⟨handleFeed_of_passes hnewer, handleFeed_of_passes holder, ?_⟩
  rintro ⟨-, ⟨hback, -⟩, -⟩
  obtain ⟨new, hnew, hle⟩ := hback _ (handleFeed_of_passes hnewer)
  cases (handleFeed_of_passes holder).symm.trans hnew
  exact absurd hle (by decide)

end RiseVpn
