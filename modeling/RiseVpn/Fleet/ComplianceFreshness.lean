import RiseVpn.Fleet.ComplianceRefresh

/-!
# Freshness of the compliance feed

The controller runs `refreshCompliance` every 15 minutes, the nodes apply the feeds that it queues,
and the acknowledgements are read. All runs succeed, and the next one starts when every command is
acknowledged. How a command travels is left out: a node handles a command that is open, and its
reply is read later.

A node is fresh when the feed that it holds has not expired and its last acknowledgement is less
than 6 hours old. Only a run that gets a list publishes; one that is told that the list has not
changed does not, and a node that becomes healthy between two publications gets nothing. `Renewed`
is the condition on the steps that excludes this. `FeedSound` is the invariant and
`feeds_stay_fresh` the result.
`unchanged_list_expires` is a run outside the condition in which every request is answered.
-/

set_option autoImplicit false

namespace RiseVpn.Fleet

open Control GuardedRun

/-! ### The system -/

/-- The controller's tables and the stores of the nodes. `nextRun` is when `refreshCompliance` runs
next; `replies` are the commands that were handled and whether they were applied, as long as the
reply is not read; `published` are the instants of the publications, newest first, which are kept
nowhere. -/
structure FeedWorld where
  clock : ℤ
  nextRun : ℤ
  tables : ComplianceTables
  stores : NodeId → ComplianceStore
  replies : List (ℕ × Bool)
  published : List ℤ

inductive FeedEvent
  | tick (elapsed : ℕ)
  | enroll (id : NodeId)
  | connect (id : NodeId)
  | disconnect (id : NodeId)
  | refresh (answer : Answer Text)
  | handle (id : ℕ)
  | read (reply : ℕ × Bool)

def Answer.status : Answer Text → Option ℕ
  | .failed _ => none
  | .response status _ _ _ => some status

/-- `UPDATE nodes SET status=… WHERE id=…`. -/
def FeedNode.withStatus (id : NodeId) (status : NodeStatus) (node : FeedNode) : FeedNode :=
  if node.id = id then { node with status := status } else node

theorem FeedNode.withStatus_id (id : NodeId) (status : NodeStatus) (node : FeedNode) :
    (node.withStatus id status).id = node.id := by
  rw [FeedNode.withStatus]
  split_ifs <;> rfl

theorem FeedNode.withStatus_fetchedAt (id : NodeId) (status : NodeStatus) (node : FeedNode) :
    (node.withStatus id status).complianceFetchedAt = node.complianceFetchedAt := by
  rw [FeedNode.withStatus]
  split_ifs <;> rfl

def answered (succeeded : Bool) (command : Command) : Command :=
  { command with status := if succeeded then .acked else .nacked }

/-- One event of the system. A node that has never connected has no connection to lose. -/
def FeedWorld.step (source : FeedSource) (key : String) (world : FeedWorld) :
    FeedEvent → Option FeedWorld
  | .tick elapsed =>
    if world.clock + elapsed ≤ world.nextRun then
      some { world with clock := world.clock + elapsed }
    else none
  | .enroll id =>
    if ∃ node ∈ world.tables.nodes, node.id = id then some world
    else
      some { world with
        tables := { world.tables with
          nodes := world.tables.nodes ++ [⟨id, .pending, none, none⟩] } }
  | .connect id =>
    some { world with
      tables := { world.tables with
        nodes := world.tables.nodes.map (FeedNode.withStatus id .healthy) } }
  | .disconnect id =>
    if ∃ node ∈ world.tables.nodes, node.id = id ∧ node.status = .pending then none
    else
      some { world with
        tables := { world.tables with
          nodes := world.tables.nodes.map (FeedNode.withStatus id .offline) } }
  | .refresh answer =>
    if world.clock = world.nextRun ∧ ∀ command ∈ world.tables.commands, command.status = .acked then
      match refreshCompliance source (some key) world.tables answer world.clock with
      | (_, .error _) => none
      | (tables, .ok ()) =>
        some { world with
          tables := tables
          nextRun := world.nextRun + 15 * minute
          published :=
            if answer.status = some 200 then world.clock :: world.published else world.published }
    else none
  | .handle id =>
    match world.tables.commands[id]? with
    | none => none
    | some command =>
      match command.message with
      | .complianceFeed feed =>
        if Open command then
          let (store, result) := (world.stores command.nodeId).apply source.tools feed
            (source.tools.signatures.publicKey key) world.clock
          some { world with
            stores := Function.update world.stores command.nodeId store
            replies := (id, result.isOk) :: world.replies }
        else none
      | _ => none
  | .read reply =>
    match world.tables.commands[reply.1]? with
    | none => none
    | some command =>
      if reply ∈ world.replies then
        some { world with
          replies := world.replies.erase reply
          tables := { world.tables with
            commands := world.tables.commands.modify reply.1 (answered reply.2)
            nodes := if reply.2 then world.tables.nodes.map (FeedNode.fetched world.clock command)
              else world.tables.nodes } }
      else none

def FeedWorld.initial (clock : ℤ) : FeedWorld :=
  ⟨clock, clock, ⟨[], [], [], []⟩, fun _ ↦ ⟨none, none⟩, [], []⟩

/-- There was a publication, and if it is the only one its commands are acknowledged. -/
def FeedWorld.Distributed (world : FeedWorld) : Prop :=
  world.published ≠ [] ∧
    (world.published.length = 1 → ∀ command ∈ world.tables.commands, command.status = .acked)
  deriving Decidable

/-- Every node that is not pending holds a feed that has not expired and can be selected. -/
def FeedWorld.Fresh (world : FeedWorld) : Prop :=
  ∀ node ∈ world.tables.nodes, node.status ≠ .pending →
    (∃ feed, (world.stores node.id).feed = some feed ∧ world.clock < ofUnix feed.expiresAt) ∧
      node.Selectable world.clock

instance (world : FeedWorld) : Decidable world.Fresh :=
  inferInstanceAs (Decidable (∀ node ∈ world.tables.nodes, node.status ≠ .pending →
    (∃ feed ∈ (world.stores node.id).feed, world.clock < ofUnix feed.expiresAt) ∧
      ∃ fetchedAt ∈ node.complianceFetchedAt, world.clock - 6 * hour < fetchedAt))

/-- The condition: a request is answered with "not modified" only when the last publication remains
valid until the run after the next one, and a node leaves the status "pending" only before the first
publication. -/
def Renewed (world : FeedWorld) (event : FeedEvent) (_ : FeedWorld) : Prop :=
  match event with
  | .refresh answer => answer.status = some 304 → ∀ last ∈ world.published.head?,
      world.clock + 30 * minute + second ≤ last + 6 * hour
  | .connect id => (∃ node ∈ world.tables.nodes, node.id = id ∧ node.status = .pending) →
      world.published = []
  | _ => True

instance (world : FeedWorld) (event : FeedEvent) (next : FeedWorld) :
    Decidable (Renewed world event next) := by
  unfold Renewed
  split <;> infer_instance

section

variable {source : FeedSource} {key : String} {world next : FeedWorld} {event : FeedEvent}

/-! ### The invariant -/

/-- The node holds a feed that was published at the instant or later, and has acknowledged one
since. -/
def HoldsSince (stores : NodeId → ComplianceStore) (node : FeedNode) (since : ℤ) : Prop :=
  (∃ feed, (stores node.id).feed = some feed ∧ unix (since + 6 * hour) ≤ feed.expiresAt) ∧
    ∃ fetchedAt ∈ node.complianceFetchedAt, since ≤ fetchedAt

/-- What holds since the last publication. The commands that are not acknowledged carry it; a node
whose command was applied has stored it; a node without such a command has acknowledged it; and
after a second publication every node has at least one that stays valid until the next run. -/
structure SoundSince (source : FeedSource) (key : String) (world : FeedWorld) (last : ℤ) :
    Prop where
  le_clock : last ≤ world.clock
  renewed : world.nextRun + 15 * minute + second ≤ last + 6 * hour
  outstanding : ∀ command ∈ world.tables.commands, command.status ≠ .acked →
    ∃ domains feed, source.Signed key domains last feed ∧
      command.message = .complianceFeed (feed.received source.tools.json)
  applied : ∀ reply ∈ world.replies, ∀ command, world.tables.commands[reply.1]? = some command →
    command.status ≠ .acked → ∃ feed, (world.stores command.nodeId).feed = some feed ∧
      feed.expiresAt = unix (last + 6 * hour)
  acked : ∀ node ∈ world.tables.nodes, node.status ≠ .pending →
    (∀ command ∈ world.tables.commands, command.nodeId = node.id → command.status = .acked) →
    HoldsSince world.stores node last
  held : 2 ≤ world.published.length → ∀ node ∈ world.tables.nodes, node.status ≠ .pending →
    ∃ since ≤ last, world.nextRun + second ≤ since + 6 * hour ∧
      HoldsSince world.stores node since

/-- The invariant: every reply says that the feed was applied, and since the last publication the
above holds. -/
structure FeedSound (source : FeedSource) (key : String) (world : FeedWorld) : Prop where
  clock_le : world.clock ≤ world.nextRun
  commands_nil : world.published = [] → world.tables.commands = []
  replies : ∀ reply ∈ world.replies,
    reply.1 < world.tables.commands.length ∧ reply.2 = true
  since : ∀ last ∈ world.published.head?, SoundSince source key world last

theorem feedSound_initial (clock : ℤ) : FeedSound source key (FeedWorld.initial clock) where
  clock_le := le_refl clock
  commands_nil := fun _ ↦ rfl
  replies := fun _ hreply ↦ by cases hreply
  since := fun _ hlast ↦ by cases hlast

variable {node : FeedNode} {since now : ℤ} {stores : NodeId → ComplianceStore} {domains : List Text}
  {etag lastModified : String} {feed : SignedFeed} {command : Command}

theorem HoldsSince.congr {other : FeedNode} (hholds : HoldsSince stores node since)
    (hid : other.id = node.id) (hfetched : other.complianceFetchedAt = node.complianceFetchedAt) :
    HoldsSince stores other since := by
  rw [HoldsSince, hid, hfetched]
  exact hholds

theorem HoldsSince.update (hholds : HoldsSince stores node since) (id : NodeId)
    {store : ComplianceStore} {stored : StoredFeed} (hstored : store.feed = some stored)
    (hexpires : unix (since + 6 * hour) ≤ stored.expiresAt) :
    HoldsSince (Function.update stores id store) node since := by
  refine ⟨?_, hholds.2⟩
  rw [Function.update_apply]
  split_ifs
  · exact ⟨stored, hstored, hexpires⟩
  · exact hholds.1

theorem unix_add_mono {later : ℤ} (hle : since ≤ later) :
    unix (since + 6 * hour) ≤ unix (later + 6 * hour) :=
  Int.ediv_le_ediv second_pos (by omega)

theorem HoldsSince.fresh {clock : ℤ} (hholds : HoldsSince stores node since)
    (hvalid : clock + second ≤ since + 6 * hour) :
    (∃ feed, (stores node.id).feed = some feed ∧ clock < ofUnix feed.expiresAt) ∧
      node.Selectable clock := by
  obtain ⟨⟨feed, hfeed, hexpires⟩, fetchedAt, hfetched, hsince⟩ := hholds
  refine ⟨⟨feed, hfeed, ?_⟩, fetchedAt, hfetched, ?_⟩
  · have hunix := (unix_lt_unix hvalid).trans_le hexpires
    exact (Int.ediv_lt_iff_lt_mul second_pos).mp hunix
  · have hpos := second_pos
    omega

/-! ### What a step keeps -/

theorem exists_command_publish {tables : ComplianceTables} (hnode : node ∈ tables.nodes)
    (hstatus : node.status ≠ .pending) :
    ∃ command ∈ (tables.publish source feed etag lastModified domains now).commands,
      command.nodeId = node.id ∧ command.status ≠ .acked := by
  have hmem : node ∈ tables.nodes.filter fun node ↦ node.status ≠ .pending :=
    List.mem_filter.mpr ⟨hnode, by simpa using hstatus⟩
  obtain ⟨i, hi, hget⟩ := List.mem_iff_getElem.mp hmem
  refine ⟨Database.newCommand now (tables.commands.length + i)
    (node.id, .complianceFeed (feed.received source.tools.json)),
    List.mem_append_right _ (List.mem_mapIdx.mpr ⟨i, hi, by rw [hget]⟩), rfl, ?_⟩
  simp [Database.newCommand]

theorem mem_commands_publish {tables : ComplianceTables}
    (hcommand : command ∈ (tables.publish source feed etag lastModified domains now).commands) :
    command ∈ tables.commands ∨
      command.message = .complianceFeed (feed.received source.tools.json) := by
  rcases List.mem_append.mp hcommand with hold | hnew
  · exact .inl hold
  · obtain ⟨i, hi, rfl⟩ := List.mem_mapIdx.mp hnew
    exact .inr rfl

theorem SoundSince.accepted {last : ℤ} (hsince : SoundSince source key world last)
    (hclock : world.clock ≤ world.nextRun) (hcommand : command ∈ world.tables.commands)
    (hopen : command.status ≠ .acked) (hmessage : command.message = .complianceFeed feed)
    (store : ComplianceStore) :
    ∃ after stored, store.apply source.tools feed (source.tools.signatures.publicKey key)
        world.clock = (after, .ok ()) ∧
      after.feed = some stored ∧ stored.expiresAt = unix (last + 6 * hour) := by
  obtain ⟨domains, signed, hsigned, hcarries⟩ := hsince.outstanding command hcommand hopen
  obtain rfl : feed = signed.received source.tools.json := by
    rw [hmessage] at hcarries
    exact Message.complianceFeed.inj hcarries
  have hrenewed := hsince.renewed
  have hle := hsince.le_clock
  simp only [minute, second] at hrenewed
  refine ⟨_, _, apply_published hsigned store (by omega) ?_, rfl, ?_⟩
  · simp only [minute, second]
    omega
  · exact congrArg unix hsigned.received_eq.2

theorem ne_acked_of_open (hopen : Open command) : command.status ≠ .acked := by
  rcases hopen with hstatus | hstatus
  · rw [hstatus]
    decide
  · rw [hstatus]
    decide

theorem FeedNode.fetched_cases (now : ℤ) (command : Command) (node : FeedNode) :
    (node.fetched now command).id = node.id ∧ (node.fetched now command).status = node.status ∧
      ((node.fetched now command).complianceFetchedAt = node.complianceFetchedAt ∨
        (node.fetched now command).complianceFetchedAt = some now) := by
  unfold FeedNode.fetched
  split
  · split_ifs
    · exact ⟨rfl, rfl, .inr rfl⟩
    · exact ⟨rfl, rfl, .inl rfl⟩
  · exact ⟨rfl, rfl, .inl rfl⟩

theorem HoldsSince.fetched (hholds : HoldsSince stores node since) (command : Command)
    (hle : since ≤ now) : HoldsSince stores (node.fetched now command) since := by
  obtain ⟨hid, -, hsame | hnow⟩ := node.fetched_cases now command
  · exact hholds.congr hid hsame
  · rw [HoldsSince, hid, hnow]
    exact ⟨hholds.1, now, rfl, hle⟩

theorem FeedNode.fetched_self (hmessage : command.message = .complianceFeed feed)
    (hid : node.id = command.nodeId) :
    (node.fetched now command).complianceFetchedAt = some now := by
  rw [FeedNode.fetched, hmessage]
  simp only [if_pos hid]

theorem getElem?_modify_answered {commands : List Command} {id other : ℕ}
    (hcommand : (commands.modify id (answered true))[other]? = some command)
    (hopen : command.status ≠ .acked) : commands[other]? = some command := by
  rcases eq_or_ne id other with rfl | hid
  · rw [List.getElem?_modify_eq] at hcommand
    obtain ⟨before, -, rfl⟩ := Option.map_eq_some_iff.mp hcommand
    exact absurd rfl hopen
  · rwa [List.getElem?_modify_ne _ _ hid] at hcommand

section

variable (hsound : FeedSound source key world)

include hsound

theorem FeedSound.tick {elapsed : ℕ} (helapsed : world.clock + elapsed ≤ world.nextRun) :
    FeedSound source key { world with clock := world.clock + elapsed } where
  clock_le := helapsed
  commands_nil := hsound.commands_nil
  replies := hsound.replies
  since := fun last hlast ↦
    { hsound.since last hlast with
      le_clock := (hsound.since last hlast).le_clock.trans (by simp) }

theorem FeedSound.nodes {nodes : List FeedNode}
    (hnodes : ∀ node ∈ nodes, node.status ≠ .pending → ∃ before ∈ world.tables.nodes,
      node.id = before.id ∧ node.complianceFetchedAt = before.complianceFetchedAt ∧
        (before.status = .pending → world.published = [])) :
    FeedSound source key { world with tables := { world.tables with nodes := nodes } } where
  clock_le := hsound.clock_le
  commands_nil := hsound.commands_nil
  replies := hsound.replies
  since := by
    intro last hlast
    have hsince := hsound.since last hlast
    have hbefore : ∀ node ∈ nodes, node.status ≠ .pending → ∃ before ∈ world.tables.nodes,
        node.id = before.id ∧ node.complianceFetchedAt = before.complianceFetchedAt ∧
          before.status ≠ .pending := by
      intro node hnode hstatus
      obtain ⟨before, hbefore, hid, hfetched, hpending⟩ := hnodes node hnode hstatus
      refine ⟨before, hbefore, hid, hfetched, fun hwas ↦ ?_⟩
      rw [hpending hwas] at hlast
      cases hlast
    refine { hsince with acked := ?_, held := ?_ }
    · intro node hnode hstatus hcommands
      obtain ⟨before, hmem, hid, hfetched, hwas⟩ := hbefore node hnode hstatus
      exact (hsince.acked before hmem hwas (by rwa [← hid])).congr hid hfetched
    · intro htwo node hnode hstatus
      obtain ⟨before, hmem, hid, hfetched, hwas⟩ := hbefore node hnode hstatus
      obtain ⟨since, hle, hvalid, hholds⟩ := hsince.held htwo before hmem hwas
      exact ⟨since, hle, hvalid, hholds.congr hid hfetched⟩

theorem FeedSound.unchanged {alerts : List ControlAlert} (hclock : world.clock = world.nextRun)
    (hacked : ∀ command ∈ world.tables.commands, command.status = .acked)
    (hvalid : ∀ last ∈ world.published.head?,
      world.clock + 30 * minute + second ≤ last + 6 * hour) :
    FeedSound source key
      { world with
        tables := { world.tables with alerts := alerts }
        nextRun := world.nextRun + 15 * minute } where
  clock_le := by
    simp only [minute, second]
    omega
  commands_nil := hsound.commands_nil
  replies := hsound.replies
  since := by
    intro last hlast
    have hsince := hsound.since last hlast
    have hlong := hvalid last hlast
    simp only [minute] at hlong
    refine { hsince with renewed := ?_, held := ?_ }
    · simp only [minute]
      omega
    · intro _ node hnode hstatus
      refine ⟨last, le_refl last, ?_, hsince.acked node hnode hstatus fun command hcommand _ ↦
        hacked command hcommand⟩
      simp only [minute, second] at hlong ⊢
      omega

theorem FeedSound.published (hclock : world.clock = world.nextRun)
    (hacked : ∀ command ∈ world.tables.commands, command.status = .acked)
    (hfeed : source.Signed key domains world.clock feed) : FeedSound source key
      { world with
        tables := world.tables.publish source feed etag lastModified domains world.clock
        nextRun := world.nextRun + 15 * minute
        published := world.clock :: world.published } where
  clock_le := by
    simp only [minute, second]
    omega
  commands_nil := fun hnone ↦ by cases hnone
  replies := by
    intro reply hreply
    obtain ⟨hlt, hok⟩ := hsound.replies reply hreply
    refine ⟨hlt.trans_le ?_, hok⟩
    simp [ComplianceTables.publish]
  since := by
    intro last hlast
    cases hlast
    refine ⟨le_refl _, ?_, ?_, ?_, ?_, ?_⟩
    · simp only [hour, minute, second]
      omega
    · intro command hcommand hopen
      rcases mem_commands_publish hcommand with hold | hmessage
      · exact absurd (hacked command hold) hopen
      · exact ⟨domains, feed, hfeed, hmessage⟩
    · -- the replies that are not read belong to old commands
      intro reply hreply command hcommand hopen
      have hlt := (hsound.replies reply hreply).1
      rw [ComplianceTables.publish, List.getElem?_append_left hlt] at hcommand
      exact absurd (hacked command (List.mem_of_getElem? hcommand)) hopen
    · intro node hnode hstatus hcommands
      have hold : node ∈ world.tables.nodes := hnode
      obtain ⟨command, hcommand, hid, hopen⟩ := exists_command_publish hold hstatus
      exact absurd (hcommands command hcommand hid) hopen
    · -- until the new feed arrives a node has the one before
      intro htwo node hnode hstatus
      have hpublished : world.published ≠ [] :=
        List.ne_nil_of_length_pos (Nat.lt_of_succ_lt_succ htwo)
      have hsince := hsound.since _ (List.head?_eq_some_head hpublished)
      exact ⟨_, hsince.le_clock, hsince.renewed, hsince.acked node hnode hstatus
        fun command hcommand _ ↦ hacked command hcommand⟩

theorem FeedSound.handle {id : ℕ} {store : ComplianceStore}
    {result : Except String Unit}
    (hcommand : world.tables.commands[id]? = some command)
    (hmessage : command.message = .complianceFeed feed) (hopen : Open command)
    (happly : (world.stores command.nodeId).apply source.tools feed
      (source.tools.signatures.publicKey key) world.clock = (store, result)) :
    FeedSound source key
      { world with
        stores := Function.update world.stores command.nodeId store
        replies := (id, result.isOk) :: world.replies } := by
  have hmem := List.mem_of_getElem? hcommand
  have hstatus := ne_acked_of_open hopen
  have hpublished : world.published ≠ [] := by
    intro hnone
    rw [hsound.commands_nil hnone] at hmem
    cases hmem
  have hlast := List.head?_eq_some_head hpublished
  have hsince := hsound.since _ hlast
  obtain ⟨after, stored, haccepted, hfeed, hexpires⟩ :=
    hsince.accepted hsound.clock_le hmem hstatus hmessage (world.stores command.nodeId)
  rw [haccepted] at happly
  cases happly
  refine ⟨hsound.clock_le, hsound.commands_nil, ?_, ?_⟩
  · intro reply hreply
    rcases List.mem_cons.mp hreply with rfl | hold
    · exact ⟨(List.getElem?_eq_some_iff.mp hcommand).1, rfl⟩
    · exact hsound.replies reply hold
  · intro other hother
    obtain rfl := Option.mem_unique hother hlast
    refine { hsince with applied := ?_, acked := ?_, held := ?_ }
    · intro reply hreply other hother hotherOpen
      dsimp only
      by_cases hnode : other.nodeId = command.nodeId
      · rw [hnode, Function.update_self]
        exact ⟨stored, hfeed, hexpires⟩
      · rw [Function.update_of_ne hnode]
        rcases List.mem_cons.mp hreply with rfl | hold
        · rw [hcommand] at hother
          cases hother
          exact absurd rfl hnode
        · exact hsince.applied reply hold other hother hotherOpen
    · intro node hnode hnodeStatus hcommands
      exact (hsince.acked node hnode hnodeStatus hcommands).update _ hfeed hexpires.ge
    · intro htwo node hnode hnodeStatus
      obtain ⟨since, hle, hvalid, hholds⟩ := hsince.held htwo node hnode hnodeStatus
      exact ⟨since, hle, hvalid, hholds.update _ hfeed ((unix_add_mono hle).trans hexpires.ge)⟩

theorem FeedSound.read {reply : ℕ × Bool}
    (hcommand : world.tables.commands[reply.1]? = some command) (hreply : reply ∈ world.replies) :
    FeedSound source key
      { world with
        replies := world.replies.erase reply
        tables := { world.tables with
          commands := world.tables.commands.modify reply.1 (answered reply.2)
          nodes := if reply.2 then world.tables.nodes.map (FeedNode.fetched world.clock command)
            else world.tables.nodes } } := by
  have hok := (hsound.replies reply hreply).2
  rw [hok, if_pos rfl]
  refine ⟨hsound.clock_le, ?_, ?_, ?_⟩
  · intro hnone
    simp only [hsound.commands_nil hnone, List.modify_nil]
  · intro other hother
    have hold := hsound.replies other (List.mem_of_mem_erase hother)
    simpa using hold
  · intro last hlast
    have hsince := hsound.since last hlast
    refine { hsince with outstanding := ?_, applied := ?_, acked := ?_, held := ?_ }
    · intro other hother hopen
      obtain ⟨i, hi⟩ := List.mem_iff_getElem?.mp hother
      have hold := getElem?_modify_answered hi hopen
      exact hsince.outstanding other (List.mem_of_getElem? hold) hopen
    · intro other hother otherCommand hotherCommand hopen
      have hold := getElem?_modify_answered hotherCommand hopen
      exact hsince.applied other (List.mem_of_mem_erase hother) otherCommand hold hopen
    · intro node hnode hstatus hcommands
      obtain ⟨before, hbefore, rfl⟩ := List.mem_map.mp hnode
      obtain ⟨hid, hsame, -⟩ := before.fetched_cases world.clock command
      rw [hsame] at hstatus
      by_cases houtstanding : command.nodeId = before.id ∧ command.status ≠ .acked
      · -- the acknowledgement of the last publication
        obtain ⟨hnodeId, hopen⟩ := houtstanding
        obtain ⟨-, signed, -, hmessage⟩ :=
          hsince.outstanding command (List.mem_of_getElem? hcommand) hopen
        obtain ⟨feed, hfeed, hexpires⟩ := hsince.applied reply hreply command hcommand hopen
        refine ⟨⟨feed, ?_, hexpires.ge⟩, world.clock, ?_, hsince.le_clock⟩
        · rwa [hid, ← hnodeId]
        · exact FeedNode.fetched_self hmessage hnodeId.symm
      · -- the other commands of the node are as they were
        refine (hsince.acked before hbefore hstatus fun other hother hnodeId ↦ ?_).fetched command
          hsince.le_clock
        obtain ⟨i, hi⟩ := List.mem_iff_getElem?.mp hother
        rcases eq_or_ne reply.1 i with rfl | hne
        · obtain rfl : command = other := Option.mem_unique hcommand hi
          exact not_not.mp fun hopen ↦ houtstanding ⟨hnodeId, hopen⟩
        · rw [← List.getElem?_modify_ne (answered true) _ hne] at hi
          exact hcommands other (List.mem_of_getElem? hi) (hnodeId.trans hid.symm)
    · intro htwo node hnode hstatus
      obtain ⟨before, hbefore, rfl⟩ := List.mem_map.mp hnode
      rw [(before.fetched_cases world.clock command).2.1] at hstatus
      obtain ⟨since, hle, hvalid, hholds⟩ := hsince.held htwo before hbefore hstatus
      exact ⟨since, hle, hvalid, hholds.fetched command (hle.trans hsince.le_clock)⟩

theorem FeedSound.step (hrenewed : Renewed world event next)
    (hstep : world.step source key event = some next) : FeedSound source key next := by
  cases event with
  | tick elapsed =>
    obtain ⟨helapsed, hnext⟩ := Option.ite_none_right_eq_some.mp hstep
    cases hnext
    exact hsound.tick helapsed
  | enroll id =>
    simp only [FeedWorld.step] at hstep
    split_ifs at hstep with hknown
    · cases hstep
      exact hsound
    · cases hstep
      refine hsound.nodes fun node hnode hstatus ↦ ?_
      rcases List.mem_append.mp hnode with hold | hnew
      · exact ⟨node, hold, rfl, rfl, fun hpending ↦ absurd hpending hstatus⟩
      · rw [List.mem_singleton.mp hnew] at hstatus
        exact absurd rfl hstatus
  | connect id =>
    cases hstep
    refine hsound.nodes fun node hnode hstatus ↦ ?_
    obtain ⟨before, hbefore, rfl⟩ := List.mem_map.mp hnode
    refine ⟨before, hbefore, FeedNode.withStatus_id .., FeedNode.withStatus_fetchedAt ..,
      fun hpending ↦ hrenewed ⟨before, hbefore, ?_, hpending⟩⟩
    by_contra hid
    rw [FeedNode.withStatus, if_neg hid] at hstatus
    exact hstatus hpending
  | disconnect id =>
    obtain ⟨hconnected, hnext⟩ := Option.ite_none_left_eq_some.mp hstep
    cases hnext
    refine hsound.nodes fun node hnode hstatus ↦ ?_
    obtain ⟨before, hbefore, rfl⟩ := List.mem_map.mp hnode
    refine ⟨before, hbefore, FeedNode.withStatus_id .., FeedNode.withStatus_fetchedAt ..,
      fun hpending ↦ absurd ⟨before, hbefore, ?_, hpending⟩ hconnected⟩
    by_contra hid
    rw [FeedNode.withStatus, if_neg hid] at hstatus
    exact hstatus hpending
  | refresh answer =>
    obtain ⟨⟨hclock, hacked⟩, hnext⟩ := Option.ite_none_right_eq_some.mp hstep
    split at hnext
    · cases hnext
    · rename_i tables hrun
      cases hnext
      cases refreshCompliance_ok hrun with
      | unchanged etag lastModified body =>
        exact hsound.unchanged hclock hacked (hrenewed rfl)
      | published etag lastModified body domains feed hparse hfeed =>
        exact hsound.published hclock hacked hfeed
  | handle id =>
    simp only [FeedWorld.step] at hstep
    split at hstep
    · cases hstep
    · rename_i command hcommand
      split at hstep
      · rename_i feed hmessage
        obtain ⟨hopen, hnext⟩ := Option.ite_none_right_eq_some.mp hstep
        cases hnext
        exact hsound.handle hcommand hmessage hopen rfl
      · cases hstep
  | read reply =>
    simp only [FeedWorld.step] at hstep
    split at hstep
    · cases hstep
    · rename_i command hcommand
      obtain ⟨hreply, hnext⟩ := Option.ite_none_right_eq_some.mp hstep
      cases hnext
      exact hsound.read hcommand hreply

end

end

/-! ### Freshness -/

section

variable {source : FeedSource} {key : String}

theorem FeedSound.fresh {world : FeedWorld} (hsound : FeedSound source key world)
    (hdistributed : world.Distributed) : world.Fresh := by
  obtain ⟨hpublished, hfirst⟩ := hdistributed
  have hsince := hsound.since _ (List.head?_eq_some_head hpublished)
  intro node hnode hstatus
  by_cases hone : world.published.length = 1
  · have hholds := hsince.acked node hnode hstatus fun command hcommand _ ↦
      hfirst hone command hcommand
    refine hholds.fresh ?_
    have hclock := hsound.clock_le
    have hrenewed := hsince.renewed
    simp only [minute, second] at hrenewed ⊢
    omega
  · have htwo : 2 ≤ world.published.length := by
      have hpos := List.length_pos_iff.mpr hpublished
      omega
    obtain ⟨since, -, hvalid, hholds⟩ := hsince.held htwo node hnode hstatus
    exact hholds.fresh ((Int.add_le_add_right hsound.clock_le second).trans hvalid)

section

variable {clock : ℤ} {world : FeedWorld}
  (hreach : ReachableUnder (FeedWorld.step source key) Renewed (FeedWorld.initial clock) world)

include hreach

theorem feedSound_of_reachable : FeedSound source key world :=
  hreach.invariant (FeedSound source key) (feedSound_initial clock)
    fun _ _ _ hsound hrenewed hstep ↦ hsound.step hrenewed hstep

end

end

/-- In every run whose steps meet the condition: once the first publication is distributed, every
node that is not pending holds a feed that has not expired and can be selected. -/
theorem feeds_stay_fresh (source : FeedSource) (key : String) (clock : ℤ) {world : FeedWorld}
    (hreach : ReachableUnder (FeedWorld.step source key) Renewed (FeedWorld.initial clock) world)
    (hdistributed : world.Distributed) : world.Fresh :=
  (feedSound_of_reachable hreach).fresh hdistributed

def quarter : ℕ := 15 * 60 * 1000000000

def firstPublication : List FeedEvent :=
  [.enroll "node", .connect "node", .refresh (.response 200 "etag" "" "example.com\n".toList),
    .handle 0, .read (0, true)]

def unchangedRun : List FeedEvent := [.tick quarter, .refresh (.response 304 "etag" "" [])]

theorem feeds_stay_fresh_changed : ∃ world : FeedWorld,
    ReachableUnder (FeedWorld.step plainSource "key") Renewed (FeedWorld.initial 0) world ∧
      world.published = [30 * minute, 0] ∧ world.Fresh := by
  have hrun : (runUnder (FeedWorld.step plainSource "key") Renewed (FeedWorld.initial 0)
      (firstPublication ++ unchangedRun ++ [.tick quarter,
        .refresh (.response 200 "other" "" "example.com\nexample.org\n".toList)])).any
        (fun world ↦ world.Distributed ∧ world.published = [30 * minute, 0]) = true := by
    decide +kernel
  obtain ⟨world, hworld, hchecked⟩ := (Option.any_eq_true _ _).mp hrun
  obtain ⟨hdistributed, hpublished⟩ := of_decide_eq_true hchecked
  have hreach := reachableUnder_of_runUnder hworld
  exact ⟨world, hreach, hpublished, feeds_stay_fresh plainSource "key" 0 hreach hdistributed⟩

/-- All requests are answered and all commands acknowledged, and the list does not change for 6
hours. The feed of the node expires. -/
theorem unchanged_list_expires : ∃ world : FeedWorld,
    Reachable (FeedWorld.step plainSource "key") (FeedWorld.initial 0) world ∧
      world.Distributed ∧ ¬ world.Fresh := by
  have hrun : (run (FeedWorld.step plainSource "key") (FeedWorld.initial 0)
      (firstPublication ++ (List.replicate 23 unchangedRun).flatten ++ [.tick quarter])).any
        (fun world ↦ world.Distributed ∧ ¬ world.Fresh) = true := by
    decide +kernel
  obtain ⟨world, hworld, hchecked⟩ := (Option.any_eq_true _ _).mp hrun
  exact ⟨world, reachable_of_run hworld, of_decide_eq_true hchecked⟩

end RiseVpn.Fleet
