import RiseVpn.Fleet.NodeHealth
import RiseVpn.Library.Threads
import Mathlib.Data.Rat.Defs
import Mathlib.Algebra.Order.Ring.Rat

/-!
# The routes that are served

`subscriptionDocument` from its first query to its answer, with the tables `nodes` and
`node_assignments`. A fetch of a device without an assignment chooses a node that is healthy, has a
compliance feed of the last 6 hours and can do the fallback transport, and stores the assignment. A
fetch of a device that has an assignment takes it as it is: nothing looks at the node again, and
nothing takes an assignment back when its node goes offline, drains or loses its feed.

Fetches run at the same time as each other and as the handlers that change the nodes
(`RouteChange`). `documents` collects the answers with the row of the node at that moment.
`RoutesStand` is the condition on the steps: a fetch finds its device unassigned or assigned to an
admissible node, and no node becomes inadmissible while a fetch is about to name it.
`served_routes_admissible` is the result for all runs under the condition, and
`draining_node_served` a run outside it.

What the other statements of a fetch come to (the token, the terms, the binding of the device, the
provisioning, the decryption of the credential) is the input of a step.
-/

set_option autoImplicit false

namespace RiseVpn.Fleet

open Control Threads GuardedRun

/-! ### The nodes -/

/-- A row of `nodes`. `fallback` says whether the capabilities contain `fallback.vless-ws-tls`. -/
structure RouteNode where
  id : NodeId
  domain : String
  status : NodeStatus
  fallback : Bool
  loadRatio : ℚ
  controllerRttMs : Option ℤ
  complianceFetchedAt : Option ℤ
  lastHeartbeatAt : Option ℤ
  deriving DecidableEq

/-- The table `nodes`, with its primary key and `UNIQUE (domain)`. -/
structure RouteNodes where
  rows : List RouteNode
  ids : (rows.map RouteNode.id).Nodup
  domains : (rows.map RouteNode.domain).Nodup

/-- `status='healthy' AND compliance_fetched_at>now()-interval '6 hours'`. -/
def RouteNode.Admissible (node : RouteNode) (now : ℤ) : Prop :=
  node.status = .healthy ∧ ∃ fetched ∈ node.complianceFetchedAt, now - 6 * hour < fetched
  deriving Decidable

/-- `controller_rtt_ms ASC NULLS LAST`. -/
def rttBefore : Option ℤ → Option ℤ → Bool
  | some first, some second => first < second
  | some _, none => true
  | none, _ => false

/-- `ORDER BY load_ratio ASC,controller_rtt_ms ASC NULLS LAST`. -/
def RouteNode.Before (first second : RouteNode) : Prop :=
  first.loadRatio < second.loadRatio ∨
    first.loadRatio = second.loadRatio ∧ rttBefore first.controllerRttMs second.controllerRttMs
  deriving Decidable

namespace RouteNodes

def lookup (nodes : RouteNodes) (id : NodeId) : Option RouteNode :=
  KeyedTable.lookup RouteNode.id id nodes.rows

def candidates (nodes : RouteNodes) (now : ℤ) : List RouteNode :=
  nodes.rows.filter fun node ↦ node.Admissible now ∧ node.fallback = true

/-- A row that the query with `LIMIT 1` may return: a candidate that no other comes before. -/
def Best (nodes : RouteNodes) (now : ℤ) (node : RouteNode) : Prop :=
  node ∈ nodes.candidates now ∧ ∀ other ∈ nodes.candidates now, ¬ other.Before node
  deriving Decidable

/-- An `UPDATE` of one row that keeps its id and its domain. -/
def update (nodes : RouteNodes) (id : NodeId) (change : RouteNode → RouteNode)
    (hid : ∀ node, (change node).id = node.id)
    (hdomain : ∀ node, (change node).domain = node.domain) : RouteNodes where
  rows := KeyedTable.updateAt RouteNode.id id change nodes.rows
  ids := by
    rw [KeyedTable.map_updateAt change hid]
    exact nodes.ids
  domains := by
    rw [KeyedTable.map_updateAt change hdomain]
    exact nodes.domains

end RouteNodes

def RouteNode.renamed (domain : String) (node : RouteNode) : RouteNode := { node with domain }

namespace RouteNodes

/-- The `INSERT … ON CONFLICT(id) DO UPDATE SET domain=…` of `enrollNode`. A domain that another
node has is refused. -/
def enroll (nodes : RouteNodes) (id : NodeId) (domain : String) : RouteNodes :=
  if htaken : ∃ node ∈ nodes.rows, node.domain = domain ∧ node.id ≠ id then nodes
  else if hknown : ∃ node ∈ nodes.rows, node.id = id then
    { rows := KeyedTable.updateAt RouteNode.id id (RouteNode.renamed domain) nodes.rows
      ids := by
        rw [KeyedTable.map_updateAt (RouteNode.renamed domain) fun _ ↦ rfl]
        exact nodes.ids
      domains := KeyedTable.nodup_map_updateAt (RouteNode.renamed domain) nodes.ids nodes.domains
        fun row hrow hother _ _ _ hsame ↦ htaken ⟨row, hrow, hsame.symm, hother⟩ }
  else
    { rows := nodes.rows ++ [⟨id, domain, .pending, false, 0, none, none, none⟩]
      ids := by
        rw [List.map_append, List.nodup_append]
        refine ⟨nodes.ids, List.nodup_singleton _, fun old hold new hnew hsame ↦ ?_⟩
        obtain ⟨node, hnode, rfl⟩ := List.mem_map.mp hold
        exact hknown ⟨node, hnode, hsame.trans (List.mem_singleton.mp hnew)⟩
      domains := by
        rw [List.map_append, List.nodup_append]
        refine ⟨nodes.domains, List.nodup_singleton _, fun old hold new hnew hsame ↦ ?_⟩
        obtain ⟨node, hnode, rfl⟩ := List.mem_map.mp hold
        exact htaken ⟨node, hnode, hsame.trans (List.mem_singleton.mp hnew),
          fun hid ↦ hknown ⟨node, hnode, hid⟩⟩ }

end RouteNodes

/-! ### Fetches -/

/-- The route that an answer names. `webSocket` chooses between its two transports. -/
structure Route where
  node : NodeId
  domain : String
  webSocket : Bool

/-- An answer of `subscriptionDocument`, with its time and the row of its node at that time. -/
structure ServedRoute where
  device : DeviceId
  route : Route
  time : ℤ
  row : Option RouteNode

/-- The tables. No table holds `documents`. -/
structure RouteTables where
  clock : ℤ
  nodes : RouteNodes
  assignments : DeviceId → Option NodeId
  documents : List ServedRoute

inductive RouteThread
  | query (device : DeviceId)
  | bind (device : DeviceId) (assigned : Option Route)
  | choose (device : DeviceId)
  | assign (device : DeviceId) (route : Route)
  | provision (device : DeviceId) (route : Route)
  | respond (device : DeviceId) (route : Route)
  | finished (answer : Except Failure Route)

/-- What a statement takes from outside: what it comes to, and the row that `LIMIT 1` picks. -/
structure RouteInput where
  outcome : Except Failure Unit
  chosen : Option RouteNode

/-- `LEFT JOIN node_assignments a … LEFT JOIN nodes n ON n.id=a.node_id`. -/
def RouteTables.assigned (tables : RouteTables) (device : DeviceId) : Option Route :=
  ((tables.assignments device).bind tables.nodes.lookup).map fun node ↦
    ⟨node.id, node.domain, node.fallback⟩

/-- `App.subscriptionDocument`. The outcome of a binding contains the check of the subscription; an
error of the assignment is ignored. A new route is always one of the first transport. -/
def RouteThread.next (tables : RouteTables) (input : RouteInput) :
    RouteThread → Option (RouteTables × RouteThread)
  | .query device =>
    match input.outcome with
    | .error failure => some (tables, .finished (.error failure))
    | .ok () => some (tables, .bind device (tables.assigned device))
  | .bind device assigned =>
    match input.outcome with
    | .error failure => some (tables, .finished (.error failure))
    | .ok () =>
      match assigned with
      | none => some (tables, .choose device)
      | some route =>
        if route.domain = "" then some (tables, .choose device)
        else some (tables, .provision device route)
  | .choose device =>
    match input.outcome, input.chosen with
    | .error _, _ => some (tables, .finished (.error .noRoute))
    | .ok (), none =>
      if tables.nodes.candidates tables.clock = [] then some (tables, .finished (.error .noRoute))
      else none
    | .ok (), some node =>
      if tables.nodes.Best tables.clock node then
        some (tables, .assign device ⟨node.id, node.domain, false⟩)
      else none
  | .assign device route =>
    match input.outcome with
    | .error _ => some (tables, .provision device route)
    | .ok () =>
      some ({ tables with
        assignments := Function.update tables.assignments device (some route.node) },
        .provision device route)
  | .provision device route =>
    match input.outcome with
    | .error _ => some (tables, .finished (.error .provisioning))
    | .ok () => some (tables, .respond device route)
  | .respond device route =>
    match input.outcome with
    | .error _ => some (tables, .finished (.error (.problem 500 "credential"
        "Не удалось открыть конфигурацию" "")))
    | .ok () =>
      some ({ tables with
        documents :=
          ⟨device, route, tables.clock, tables.nodes.lookup route.node⟩ :: tables.documents },
        .finished (.ok route))
  | .finished _ => none

/-! ### The other handlers -/

/-- What the other handlers do to the nodes: time passes, a node connects, sends a heartbeat or
acknowledges a feed, a connection ends, a node is enrolled for the first time or again. -/
inductive RouteChange
  | tick (elapsed : ℕ)
  | connect (id : NodeId) (fallback : Bool)
  | heartbeat (id : NodeId) (status : String) (load : ℚ) (rtt : ℤ)
  | acknowledge (id : NodeId)
  | disconnect (id : NodeId)
  | enroll (id : NodeId) (domain : String)

/-- The columns of the row that a handler of `NodeHub` writes. A status that the `CHECK` refuses
leaves the row. -/
def RouteChange.write (now : ℤ) : RouteChange → RouteNode → RouteNode
  | .connect _ fallback, node =>
    { node with status := .healthy, fallback, lastHeartbeatAt := some now }
  | .heartbeat _ status load rtt, node =>
    match reportedStatus status with
    | none => node
    | some reported =>
      { node with
        status := reported
        loadRatio := min 1 load
        controllerRttMs := some rtt
        lastHeartbeatAt := some now }
  | .acknowledge _, node => { node with complianceFetchedAt := some now }
  | .disconnect _, node =>
    if ∃ heartbeat ∈ node.lastHeartbeatAt, heartbeat < now - 30 * second then
      { node with status := .offline }
    else node
  | .tick _, node => node
  | .enroll _ _, node => node

theorem RouteChange.write_id (now : ℤ) (change : RouteChange) (node : RouteNode) :
    (change.write now node).id = node.id := by
  cases change <;> simp only [RouteChange.write] <;> split <;> rfl

theorem RouteChange.write_domain (now : ℤ) (change : RouteChange) (node : RouteNode) :
    (change.write now node).domain = node.domain := by
  cases change <;> simp only [RouteChange.write] <;> split <;> rfl

def RouteTables.change (tables : RouteTables) (change : RouteChange) : RouteTables :=
  match change with
  | .tick elapsed => { tables with clock := tables.clock + elapsed }
  | .enroll id domain => { tables with nodes := tables.nodes.enroll id domain }
  | .connect id _ | .heartbeat id _ _ _ | .acknowledge id | .disconnect id =>
    { tables with
      nodes := tables.nodes.update id (change.write tables.clock) (change.write_id tables.clock)
        (change.write_domain tables.clock) }

def routeMachine : Machine RouteTables DeviceId RouteThread RouteInput RouteChange where
  enter := fun _ device ↦ .query device
  advance := fun tables thread input ↦ thread.next tables input
  change := fun tables change ↦ some (tables.change change)

/-! ### Admissible routes -/

def RouteTables.Admits (tables : RouteTables) (route : Route) : Prop :=
  ∃ row ∈ tables.nodes.lookup route.node, row.domain = route.domain ∧ row.Admissible tables.clock
  deriving Decidable

def ServedRoute.Admissible (served : ServedRoute) : Prop :=
  ∃ row ∈ served.row, row.domain = served.route.domain ∧ row.Admissible served.time

def RouteThread.route : RouteThread → Option Route
  | .bind _ assigned => assigned
  | .assign _ route | .provision _ route | .respond _ route => some route
  | _ => none

def RouteThread.reads : RouteThread → Option DeviceId
  | .query device => some device
  | _ => none

section Runs

variable {Slot : Type*} [DecidableEq Slot] {tables tables' : RouteTables}
  {thread thread' : RouteThread} {input : RouteInput} {system : System Slot RouteTables RouteThread}

/-- The condition on the steps of a run: a fetch finds its device unassigned or assigned to an
admissible node, and a change leaves the nodes admissible that a fetch in progress is about to
name. -/
def RoutesStand (system : System Slot RouteTables RouteThread)
    (event : Event Slot DeviceId RouteInput RouteChange)
    (_next : System Slot RouteTables RouteThread) : Prop :=
  match event with
  | .start _ _ => True
  | .advance slot _ => ∀ thread ∈ system.threads slot, ∀ device ∈ thread.reads,
      ∀ route ∈ system.shared.assigned device, system.shared.Admits route
  | .change change => ∀ slot, ∀ thread ∈ system.threads slot, ∀ route ∈ thread.route,
      system.shared.Admits route → (system.shared.change change).Admits route

instance [Fintype Slot] (system next : System Slot RouteTables RouteThread)
    (event : Event Slot DeviceId RouteInput RouteChange) :
    Decidable (RoutesStand system event next) := by
  unfold RoutesStand
  split <;> infer_instance

/-- What a statement of a fetch does: it reads the assignment, ends or goes on with no other route
than before, chooses an admissible one, or answers with its route. -/
inductive RouteStep (tables : RouteTables) : RouteThread → RouteTables → RouteThread → Prop
  | reads (device : DeviceId) :
      RouteStep tables (.query device) tables (.bind device (tables.assigned device))
  | goesOn {thread thread' : RouteThread} {assignments : DeviceId → Option NodeId}
      (hroute : ∀ route ∈ thread'.route, route ∈ thread.route) :
      RouteStep tables thread { tables with assignments } thread'
  | chooses (device : DeviceId) (node : RouteNode)
      (hnode : node ∈ tables.nodes.candidates tables.clock) :
      RouteStep tables (.choose device) tables (.assign device ⟨node.id, node.domain, false⟩)
  | answers (device : DeviceId) (route : Route) :
      RouteStep tables (.respond device route)
        { tables with
          documents :=
            ⟨device, route, tables.clock, tables.nodes.lookup route.node⟩ :: tables.documents }
        (.finished (.ok route))

theorem routeStep_of_none (hnone : thread'.route = none) :
    RouteStep tables thread tables thread' := by
  refine .goesOn fun route hroute ↦ ?_
  rw [hnone] at hroute
  cases hroute

theorem routeStep_of_next (hnext : thread.next tables input = some (tables', thread')) :
    RouteStep tables thread tables' thread' := by
  obtain ⟨outcome, chosen⟩ := input
  cases thread with
  | query device =>
    cases outcome <;> cases hnext
    · exact routeStep_of_none rfl
    · exact .reads device
  | bind device assigned =>
    cases outcome with
    | error failure =>
      cases hnext
      exact routeStep_of_none rfl
    | ok value =>
      cases assigned with
      | none =>
        cases hnext
        exact routeStep_of_none rfl
      | some route =>
        simp only [RouteThread.next] at hnext
        split_ifs at hnext <;> cases hnext
        · exact routeStep_of_none rfl
        · exact .goesOn fun _ hroute ↦ hroute
  | choose device =>
    cases outcome with
    | error failure =>
      cases hnext
      exact routeStep_of_none rfl
    | ok value =>
      cases chosen with
      | none =>
        simp only [RouteThread.next] at hnext
        split_ifs at hnext
        cases hnext
        exact routeStep_of_none rfl
      | some node =>
        simp only [RouteThread.next] at hnext
        split_ifs at hnext with hbest
        cases hnext
        exact .chooses device node hbest.1
  | assign device route =>
    cases outcome <;> cases hnext <;> exact .goesOn fun _ hroute ↦ hroute
  | provision device route =>
    cases outcome <;> cases hnext
    · exact routeStep_of_none rfl
    · exact .goesOn fun _ hroute ↦ hroute
  | respond device route =>
    cases outcome <;> cases hnext
    · exact routeStep_of_none rfl
    · exact .answers device route
  | finished answer => cases hnext

theorem RouteStep.frame (hstep : RouteStep tables thread tables' thread') (route : Route) :
    tables'.Admits route ↔ tables.Admits route := by
  cases hstep <;> rfl

theorem admits_of_candidate {node : RouteNode}
    (hnode : node ∈ tables.nodes.candidates tables.clock) (webSocket : Bool) :
    tables.Admits ⟨node.id, node.domain, webSocket⟩ := by
  obtain ⟨hmem, hfilter⟩ := List.mem_filter.mp hnode
  refine ⟨node, ?_, rfl, (of_decide_eq_true hfilter).1⟩
  exact (KeyedTable.lookup_eq_some_iff tables.nodes.ids).mpr ⟨hmem, rfl⟩

def RouteTables.Served (tables : RouteTables) : Prop :=
  ∀ served ∈ tables.documents, served.Admissible

def RouteThread.Stands (tables : RouteTables) (thread : RouteThread) : Prop :=
  ∀ route ∈ thread.route, tables.Admits route

theorem RouteStep.stands (hstep : RouteStep tables thread tables' thread')
    (hstands : thread.Stands tables)
    (hreads : ∀ device ∈ thread.reads, ∀ route ∈ tables.assigned device, tables.Admits route) :
    thread'.Stands tables' := by
  intro route hroute
  rw [hstep.frame route]
  cases hstep with
  | reads device => exact hreads device rfl route hroute
  | goesOn hkept => exact hstands route (hkept route hroute)
  | chooses device node hnode =>
    cases hroute
    exact admits_of_candidate hnode false
  | answers device served => cases hroute

theorem RouteStep.served (hstep : RouteStep tables thread tables' thread')
    (hstands : thread.Stands tables) (hserved : tables.Served) : tables'.Served := by
  cases hstep with
  | reads | goesOn | chooses => exact hserved
  | answers device route =>
    intro served hmem
    rcases List.mem_cons.mp hmem with rfl | hold
    · exact hstands route rfl
    · exact hserved served hold

theorem RouteTables.change_documents (tables : RouteTables) (change : RouteChange) :
    (tables.change change).documents = tables.documents := by
  cases change <;> rfl

/-- In every run in which a fetch finds its device unassigned or assigned to an admissible node, and
no node becomes inadmissible while a fetch is about to name it, every answer names a node that is
healthy and has a feed of the last 6 hours at the time of the answer. -/
theorem served_routes_admissible {start : RouteTables} (hstart : start.documents = [])
    (hreach : ReachableUnder routeMachine.step RoutesStand (System.idle start) system) :
    ∀ served ∈ system.shared.documents, served.Admissible := by
  have hnone : start.Served := by
    intro served hserved
    rw [hstart] at hserved
    cases hserved
  refine (Machine.invariant RouteTables.Served RouteThread.Stands hreach hnone ?_ ?_ ?_).1
  · intro tables device _ route hroute
    cases hroute
  · intro system slot input next thread thread' tables' hserved hthread hstands hcondition hnext
    have hstep := routeStep_of_next hnext
    refine ⟨hstep.served hstands hserved, hstep.stands hstands (hcondition thread hthread), ?_⟩
    intro other found _ _ hfound route hroute
    rw [hstep.frame route]
    exact hfound route hroute
  · intro system change next tables' hserved hcondition hchange
    cases hchange
    refine ⟨?_, fun slot thread hthread hstands route hroute ↦ ?_⟩
    · unfold RouteTables.Served
      rw [RouteTables.change_documents]
      exact hserved
    · exact hcondition slot thread hthread route hroute (hstands route hroute)

end Runs

/-! ### A node that drains -/

def freshNode : RouteNode :=
  ⟨"node", "node.example.com", .healthy, true, 0, some 20, some 0, some 0⟩

def freshFleet : RouteTables :=
  ⟨0, ⟨[freshNode], List.nodup_singleton _, List.nodup_singleton _⟩, fun _ ↦ none, []⟩

def fetchRoute (slot : Fin 2) (statements : ℕ) :
    List (Event (Fin 2) DeviceId RouteInput RouteChange) :=
  .start slot "device" :: List.replicate statements (.advance slot ⟨.ok (), some freshNode⟩)

def routesAfter (events : List (Event (Fin 2) DeviceId RouteInput RouteChange)) :
    System (Fin 2) RouteTables RouteThread :=
  (run routeMachine.step (System.idle freshFleet) events).getD (System.idle freshFleet)

def twoFetches : List (Event (Fin 2) DeviceId RouteInput RouteChange) :=
  fetchRoute 0 6 ++ .change (.tick 3600000000000) :: fetchRoute 1 4

theorem served_routes_twice :
    (routesAfter twoFetches).shared.documents.map ServedRoute.route =
      [⟨"node", "node.example.com", true⟩, ⟨"node", "node.example.com", false⟩] ∧
    ∀ served ∈ (routesAfter twoFetches).shared.documents, served.Admissible := by
  exact ⟨rfl, served_routes_admissible rfl (reachableUnder_getD rfl)⟩

def fetchWhileDraining : List (Event (Fin 2) DeviceId RouteInput RouteChange) :=
  fetchRoute 0 6 ++ .change (.heartbeat "node" "draining" 0 20) :: fetchRoute 1 4

/-- The device gets the draining node as its route. -/
theorem draining_node_served :
    Reachable routeMachine.step (System.idle freshFleet) (routesAfter fetchWhileDraining) ∧
      ∃ served ∈ (routesAfter fetchWhileDraining).shared.documents,
        served.row.map RouteNode.status = some .draining ∧ ¬ served.Admissible := by
  refine ⟨reachable_getD _, _, List.mem_cons_self, rfl, ?_⟩
  rintro ⟨row, hrow, -, hhealthy, -⟩
  cases hrow
  cases hhealthy

end RiseVpn.Fleet
