import RiseVpn.Fleet.CertificateRotation

/-!
# Connections of a node and its status

The part of `NodeHub` that keeps the column `status` of a node: `Connect` sets it to healthy and
registers the connection in `online`, in place of an older one; a heartbeat sets what the node
reports; the handler of a connection that ends takes it out of `online` if it is still the
registered one, and then sets the status to offline if the last heartbeat is more than 30 seconds
old. Connections of one node may overlap: the handler of one that was replaced ends some time later.

Route selection takes a node for alive when its status is healthy. The status is lowered only when a
handler ends, so a node that leaves within 30 seconds of its last heartbeat stays healthy from then
on. `LeavesStale` is the condition on the steps that excludes this, `HubSound` the invariant,
`healthy_means_alive` the result for all runs under the condition, and `healthy_after_leaving` a run
outside it.
-/

set_option autoImplicit false

namespace RiseVpn.Fleet

open Control GuardedRun Function

/-! ### The hub -/

/-- The values that the `CHECK` of the column admits. -/
def NodeStatus.ofText : String → Option NodeStatus
  | "pending" => some .pending
  | "healthy" => some .healthy
  | "degraded" => some .degraded
  | "offline" => some .offline
  | "draining" => some .draining
  | _ => none

/-- The columns of a row of `nodes` that say whether the node is alive. -/
structure HealthRow where
  status : NodeStatus
  lastHeartbeatAt : Option ℤ

/-- A `nodeConnection`, by its number. -/
abbrev HubConnection := ℕ

/-- The rows of the nodes, the connection registered for each, and the node of every connection
whose handler runs. -/
structure HubState where
  clock : ℤ
  rows : NodeId → HealthRow
  online : NodeId → Option HubConnection
  serving : HubConnection → Option NodeId

inductive HubEvent
  | tick (elapsed : ℕ)
  | connect (node : NodeId) (connection : HubConnection)
  | heartbeat (connection : HubConnection) (status : String)
  | disconnect (connection : HubConnection)

def reportedStatus (status : String) : Option NodeStatus :=
  if status = "" then some .healthy else NodeStatus.ofText status

def HealthRow.Stale (row : HealthRow) (now : ℤ) : Prop :=
  ∃ heartbeat ∈ row.lastHeartbeatAt, heartbeat < now - 30 * second
  deriving Decidable

/-- `UPDATE nodes SET status='offline' … AND last_heartbeat_at<now()-interval '30 seconds'`. -/
def HealthRow.lowered (row : HealthRow) (now : ℤ) : HealthRow :=
  if row.Stale now then { row with status := .offline } else row

/-- `online` after the handler of a connection has ended. -/
def HubState.onlineWithout (hub : HubState) (node : NodeId) (connection : HubConnection) :
    NodeId → Option HubConnection :=
  if hub.online node = some connection then update hub.online node none else hub.online

def HubState.step (hub : HubState) : HubEvent → Option HubState
  | .tick elapsed => some { hub with clock := hub.clock + elapsed }
  | .connect node connection =>
    match hub.serving connection with
    | some _ => none
    | none =>
      some { hub with
        rows := update hub.rows node ⟨.healthy, some hub.clock⟩
        online := update hub.online node (some connection)
        serving := update hub.serving connection (some node) }
  | .heartbeat connection status =>
    match hub.serving connection with
    | none => none
    | some node =>
      match reportedStatus status with
      -- the `UPDATE` violates the `CHECK`, and its error is dropped
      | none => some hub
      | some reported =>
        some { hub with rows := update hub.rows node ⟨reported, some hub.clock⟩ }
  | .disconnect connection =>
    match hub.serving connection with
    | none => none
    | some node =>
      some { hub with
        rows := update hub.rows node ((hub.rows node).lowered hub.clock)
        online := hub.onlineWithout node connection
        serving := update hub.serving connection none }

/-! ### Healthy nodes -/

def HubState.Connected (hub : HubState) (node : NodeId) : Prop :=
  ∃ connection, hub.online node = some connection ∧ hub.serving connection = some node

/-- A node that counts as healthy is connected or was heard of in the last 30 seconds. -/
def HubState.Alive (hub : HubState) (node : NodeId) : Prop :=
  (hub.rows node).status = .healthy → hub.Connected node ∨
    ∃ heartbeat ∈ (hub.rows node).lastHeartbeatAt, hub.clock - 30 * second ≤ heartbeat

/-- The condition on the steps of a run: when the registered connection of a node ends, the node is
not healthy or its last heartbeat is more than 30 seconds old, and a heartbeat that makes a node
healthy is handled while a connection of the node is registered. -/
def LeavesStale (hub : HubState) (event : HubEvent) (_next : HubState) : Prop :=
  match event with
  | .disconnect connection => ∀ node ∈ hub.serving connection, hub.online node = some connection →
      (hub.rows node).status = .healthy → (hub.rows node).Stale hub.clock
  | .heartbeat connection status => ∀ node ∈ hub.serving connection,
      reportedStatus status = some .healthy → hub.online node ≠ none
  | _ => True

instance (hub : HubState) (event : HubEvent) (next : HubState) :
    Decidable (LeavesStale hub event next) := by
  unfold LeavesStale
  split <;> infer_instance

/-- A healthy node has a registered connection, and the handler of a registered connection runs. -/
structure HubSound (hub : HubState) : Prop where
  healthy : ∀ node, (hub.rows node).status = .healthy → hub.online node ≠ none
  serving : ∀ node connection, hub.online node = some connection →
    hub.serving connection = some node

section Runs

variable {hub next : HubState}

theorem lowered_healthy {row : HealthRow} {now : ℤ}
    (hhealthy : (row.lowered now).status = .healthy) :
    row.status = .healthy ∧ ¬ row.Stale now := by
  unfold HealthRow.lowered at hhealthy
  split_ifs at hhealthy with hstale
  exact ⟨hhealthy, hstale⟩

section

variable (hsound : HubSound hub)

include hsound

theorem HubSound.connected {node : NodeId} (hhealthy : (hub.rows node).status = .healthy) :
    hub.Connected node := by
  obtain ⟨connection, honline⟩ := Option.ne_none_iff_exists'.mp (hsound.healthy node hhealthy)
  exact ⟨connection, honline, hsound.serving node connection honline⟩

theorem HubSound.connect (node : NodeId) {connection : HubConnection}
    (hfresh : hub.serving connection = none) : HubSound { hub with
      rows := update hub.rows node ⟨.healthy, some hub.clock⟩
      online := update hub.online node (some connection)
      serving := update hub.serving connection (some node) } := by
  refine ⟨fun other hhealthy ↦ ?_, fun other registered honline ↦ ?_⟩
  · by_cases hother : other = node
    · simp [hother]
    · simp only [update_of_ne hother] at hhealthy ⊢
      exact hsound.healthy other hhealthy
  · by_cases hother : other = node
    · subst hother
      simp only [update_self, Option.some.injEq] at honline
      simp [honline]
    · simp only [update_of_ne hother] at honline
      have hserving := hsound.serving other registered honline
      have hne : registered ≠ connection := by
        rintro rfl
        cases hfresh.symm.trans hserving
      simp only [update_of_ne hne]
      exact hserving

theorem HubSound.setRow {node : NodeId} {row : HealthRow}
    (hrow : row.status = .healthy → hub.online node ≠ none) :
    HubSound { hub with rows := update hub.rows node row } := by
  refine ⟨?_, hsound.serving⟩
  exact (forall_update_iff _ fun other (row : HealthRow) ↦ row.status = .healthy →
    hub.online other ≠ none).mpr ⟨hrow, fun other _ ↦ hsound.healthy other⟩

theorem HubSound.onlineWithout_eq_some_iff {node other : NodeId}
    {connection registered : HubConnection} (hserving : hub.serving connection = some node) :
    hub.onlineWithout node connection other = some registered ↔
      hub.online other = some registered ∧ registered ≠ connection := by
  have hown : hub.online other = some connection → other = node := fun hsame ↦
    Option.mem_unique (hsound.serving other connection hsame) hserving
  unfold HubState.onlineWithout
  split_ifs with hregistered
  · by_cases hother : other = node
    · subst hother
      simp [hregistered, eq_comm]
    · rw [update_of_ne hother]
      refine ⟨fun honline ↦ ⟨honline, ?_⟩, And.left⟩
      rintro rfl
      exact hother (hown honline)
  · refine ⟨fun honline ↦ ⟨honline, ?_⟩, And.left⟩
    rintro rfl
    exact hregistered (hown honline ▸ honline)

theorem HubSound.disconnect {node : NodeId} {connection : HubConnection}
    (hserving : hub.serving connection = some node)
    (hstale : hub.online node = some connection → (hub.rows node).status = .healthy →
      (hub.rows node).Stale hub.clock) :
    HubSound { hub with
      rows := update hub.rows node ((hub.rows node).lowered hub.clock)
      online := hub.onlineWithout node connection
      serving := update hub.serving connection none } := by
  refine ⟨fun other hhealthy ↦ ?_, fun other registered honline ↦ ?_⟩
  · -- a node that is healthy afterwards has another connection
    have hbefore : (hub.rows other).status = .healthy ∧ hub.online other ≠ some connection := by
      by_cases hother : other = node
      · subst hother
        simp only [update_self] at hhealthy
        obtain ⟨hbefore, hfresh⟩ := lowered_healthy hhealthy
        exact ⟨hbefore, fun hregistered ↦ hfresh (hstale hregistered hbefore)⟩
      · simp only [update_of_ne hother] at hhealthy
        refine ⟨hhealthy, fun hregistered ↦ hother ?_⟩
        exact Option.mem_unique (hsound.serving other connection hregistered) hserving
    obtain ⟨registered, hregistered, -⟩ := hsound.connected hbefore.1
    have hne : registered ≠ connection := by
      rintro rfl
      exact hbefore.2 hregistered
    exact Option.ne_none_iff_exists'.mpr
      ⟨registered, (hsound.onlineWithout_eq_some_iff hserving).mpr ⟨hregistered, hne⟩⟩
  · obtain ⟨hbefore, hne⟩ := (hsound.onlineWithout_eq_some_iff hserving).mp honline
    simp only [update_of_ne hne]
    exact hsound.serving other registered hbefore

theorem HubSound.step {event : HubEvent} (hcondition : LeavesStale hub event next)
    (hstep : hub.step event = some next) : HubSound next := by
  cases event with
  | tick elapsed =>
    cases hstep
    exact ⟨hsound.healthy, hsound.serving⟩
  | connect node connection =>
    simp only [HubState.step] at hstep
    split at hstep
    · cases hstep
    · rename_i hfresh
      cases hstep
      exact hsound.connect node hfresh
  | heartbeat connection status =>
    simp only [HubState.step] at hstep
    split at hstep
    · cases hstep
    · rename_i node hserving
      split at hstep
      · cases hstep
        exact hsound
      · rename_i reported hreported
        cases hstep
        exact hsound.setRow fun hhealthy ↦ hcondition node hserving
          (hreported.trans (congrArg some hhealthy))
  | disconnect connection =>
    simp only [HubState.step] at hstep
    split at hstep
    · cases hstep
    · rename_i node hserving
      cases hstep
      exact hsound.disconnect hserving (hcondition node hserving)

end

/-- Assumes: a run from a hub without connections and without healthy nodes, whose steps meet the
condition. A healthy node is alive in every state that it reaches. -/
theorem healthy_means_alive {start : HubState} (honline : ∀ node, start.online node = none)
    (hstatus : ∀ node, (start.rows node).status ≠ .healthy)
    (hreach : ReachableUnder HubState.step LeavesStale start hub) (node : NodeId) :
    hub.Alive node := by
  have hsound : HubSound hub := hreach.invariant HubSound
    ⟨fun node hhealthy ↦ absurd hhealthy (hstatus node),
      fun node connection hregistered ↦ by cases (honline node).symm.trans hregistered⟩
    fun _ _ _ hsound hcondition hstep ↦ hsound.step hcondition hstep
  exact fun hhealthy ↦ .inl (hsound.connected hhealthy)

end Runs

/-! ### A node that leaves -/

def emptyHub : HubState where
  clock := 0
  rows := fun _ ↦ ⟨.pending, none⟩
  online := fun _ ↦ none
  serving := fun _ ↦ none

def hubRun (events : List HubEvent) : HubState := (run HubState.step emptyHub events).getD emptyHub

def replacedAndLost : List HubEvent :=
  [.connect "node" 0, .heartbeat 0 "healthy", .connect "node" 1, .disconnect 0, .heartbeat 1 "",
    .tick 60000000000, .disconnect 1, .connect "node" 2]

theorem healthy_means_alive_replaced :
    ((hubRun replacedAndLost).rows "node").status = .healthy ∧
    (hubRun replacedAndLost).Alive "node" := by
  exact ⟨rfl, healthy_means_alive (fun _ ↦ rfl) (fun _ hhealthy ↦ by cases hhealthy)
    (reachableUnder_getD rfl) "node"⟩

def leavesAtOnce : List HubEvent := [.connect "node" 0, .disconnect 0, .tick 31000000000]

/-- The node is healthy without a connection and without a heartbeat in the last 30 seconds. -/
theorem healthy_after_leaving :
    Reachable HubState.step emptyHub (hubRun leavesAtOnce) ∧
    (hubRun leavesAtOnce).rows "node" = ⟨.healthy, some 0⟩ ∧
    (hubRun leavesAtOnce).clock = 31 * second ∧ ¬ (hubRun leavesAtOnce).Alive "node" := by
  refine ⟨reachable_getD _, rfl, rfl, fun halive ↦ ?_⟩
  rcases halive rfl with ⟨connection, honline, -⟩ | ⟨heartbeat, hheartbeat, hrecent⟩
  · cases honline
  · cases hheartbeat
    exact absurd hrecent (by decide)

end RiseVpn.Fleet
