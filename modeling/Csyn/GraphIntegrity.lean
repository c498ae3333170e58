import Csyn.GraphBuild

set_option autoImplicit false

/- The graph of a snapshot is one: no two of its nodes share an id, and its links end at its
nodes. -/
namespace Csyn

/-- Every link ends at nodes of the graph. -/
def GraphTopology.Closed (graph : GraphTopology) : Prop :=
  ∀ link ∈ graph.links, link.source ∈ graph.nodes ∧ link.target ∈ graph.nodes

/-- The id is that of a node these operations make. -/
def Makes (ops : List GraphOp) (id : Str) : Prop :=
  ∃ node : GraphNode, GraphOp.node node ∈ ops ∧ node.id = id

/-- Every link that is pushed ends at nodes that the same operations make. -/
def SelfContained (ops : List GraphOp) : Prop :=
  ∀ link, GraphOp.link link ∈ ops → Makes ops link.source ∧ Makes ops link.target

theorem Makes.of_subset {first second : List GraphOp} (contained : first ⊆ second) {id : Str}
    (made : Makes first id) : Makes second id := by
  obtain ⟨node, member, same⟩ := made
  exact ⟨node, contained member, same⟩

theorem makes_node {ops : List GraphOp} {node : GraphNode} (member : GraphOp.node node ∈ ops) :
    Makes ops node.id := ⟨node, member, rfl⟩

theorem selfContained_of_no_link {ops : List GraphOp}
    (unlinked : ∀ link, GraphOp.link link ∉ ops) : SelfContained ops :=
  fun link member => absurd member (unlinked link)

theorem SelfContained.append {first second : List GraphOp} (head : SelfContained first)
    (tail : SelfContained second) : SelfContained (first ++ second) := by
  intro link member
  rcases List.mem_append.mp member with here | later
  · obtain ⟨source, target⟩ := head link here
    exact ⟨source.of_subset (List.subset_append_left _ _),
      target.of_subset (List.subset_append_left _ _)⟩
  · obtain ⟨source, target⟩ := tail link later
    exact ⟨source.of_subset (List.subset_append_right _ _),
      target.of_subset (List.subset_append_right _ _)⟩

theorem SelfContained.flatMap {ι : Type} {ops : ι → List GraphOp} {items : List ι}
    (each : ∀ item ∈ items, SelfContained (ops item)) : SelfContained (items.flatMap ops) := by
  induction items with
  | nil => exact selfContained_of_no_link fun link => List.not_mem_nil
  | cons item rest ih =>
      rw [List.flatMap_cons]
      apply (each item List.mem_cons_self).append
      exact ih fun other member => each other (List.mem_cons_of_mem _ member)

/-- Operations that contain the ends of their links keep a graph closed. -/
theorem Built.closed {ops : List GraphOp} {before after : GraphTopology}
    (built : Built ops before after) (contained : SelfContained ops) (closed : before.Closed) :
    after.Closed := by
  intro link member
  rw [built.links] at member
  rcases List.mem_append.mp member with earlier | pushed
  · obtain ⟨source, target⟩ := closed link earlier
    exact ⟨(built.mem _).mpr (Or.inl source), (built.mem _).mpr (Or.inl target)⟩
  · obtain ⟨source, target⟩ := contained link (mem_links.mp pushed)
    exact ⟨(built.mem _).mpr (Or.inr source), (built.mem _).mpr (Or.inr target)⟩

/-! The parts of the admin space. -/

theorem listOps_selfContained (object : JsonObject) (field mode : Str) :
    SelfContained (listOps object field mode) := by
  apply selfContained_of_no_link
  intro link member
  obtain ⟨zid, -, impossible⟩ := List.mem_map.mp member
  cases impossible

theorem selfOps_selfContained (object : JsonObject) : SelfContained (selfOps object) := by
  apply selfContained_of_no_link
  intro link member
  unfold selfOps at member
  split at member
  · simp at member
  · simp at member

/-- A session links the router, made before the sessions, to the peer it makes. -/
theorem sessionOps_ends {routerId : Str} {session : JsonObject} {link : GraphLink}
    (member : GraphOp.link link ∈ sessionOps routerId session) :
    link.source = routerId ∧ Makes (sessionOps routerId session) link.target := by
  obtain ⟨peerZid, far, made | ⟨label, pushed⟩⟩ := of_mem_sessionOps member
  · cases made
  · cases pushed
    rw [sessionOps, far]
    exact ⟨rfl, makes_node List.mem_cons_self⟩

theorem sessionsOps_selfContained (object : JsonObject) : SelfContained (sessionsOps object) := by
  intro link member
  obtain ⟨routerZid, sessions, named, reported, made | ⟨session, present, pushed⟩⟩ :=
    of_mem_sessionsOps member
  · cases made
  · obtain ⟨source, target⟩ := sessionOps_ends pushed
    rw [sessionsOps, named, reported]
    constructor
    · rw [source]
      exact makes_node List.mem_cons_self
    · apply target.of_subset
      intro op member
      exact List.mem_cons_of_mem _ (List.mem_flatMap_of_mem present member)

theorem objectOps_selfContained (object : JsonObject) : SelfContained (objectOps object) :=
  (selfOps_selfContained object).append ((listOps_selfContained object _ _).append
    ((listOps_selfContained object _ _).append ((listOps_selfContained object _ _).append
      (sessionsOps_selfContained object))))

theorem entityOps_selfContained (entity : AdminEntity) : SelfContained (entityOps entity) := by
  intro link member
  have declared : Makes (entityOps entity) entity.nodeId :=
    ⟨_, List.mem_cons_of_mem _ List.mem_cons_self, rfl⟩
  simp only [entityOps, List.mem_cons, reduceCtorEq, GraphOp.link.injEq, false_or] at member
  rcases member with rfl | pushed
  · exact ⟨makes_node List.mem_cons_self, declared⟩
  · unfold topicOps at pushed
    split at pushed
    · rename_i known
      have topic : Makes (entityOps entity) (str "topic:" ++ entity.expr) := by
        have contained : topicOps entity ⊆ entityOps entity := by
          intro op member
          exact List.mem_cons_of_mem _ (List.mem_cons_of_mem _ (List.mem_cons_of_mem _ member))
        apply Makes.of_subset contained
        rw [topicOps, if_pos known]
        exact ⟨_, List.mem_cons_self, rfl⟩
      simp only [List.mem_cons, reduceCtorEq, GraphOp.link.injEq, List.not_mem_nil, or_false,
        false_or] at pushed
      rw [pushed]
      split
      · exact ⟨declared, topic⟩
      · exact ⟨topic, declared⟩
    · cases pushed

theorem adminOps_selfContained (fromStr : Str → Option JsonValue) (entries : Std.TreeMap Str Str) :
    SelfContained (adminOps fromStr entries) :=
  (SelfContained.flatMap fun object _ => objectOps_selfContained object).append
    (SelfContained.flatMap fun entity _ => entityOps_selfContained entity)

theorem GraphState.traffic_closed (s : GraphState) (nowMs : UInt64) :
    (s.traffic nowMs).Closed := by
  intro link member
  rw [s.traffic_links nowMs] at member
  obtain ⟨topic, observed, rfl⟩ := List.mem_map.mp member
  exact ⟨(s.traffic_mem nowMs _).mpr (Or.inl rfl),
    (s.traffic_mem nowMs _).mpr (Or.inr ⟨topic, observed, rfl⟩)⟩

/-- In every snapshot that returns, the ids of the nodes are distinct and every link ends at
nodes. -/
theorem graph_snapshot_integrity (fromStr : Str → Option JsonValue) (s : GraphState)
    (nowMs : UInt64) (snap : GraphSnapshot) (returned : s.snapshot fromStr nowMs = some snap) :
    (snap.nodes.map GraphNode.id).Nodup ∧ ∀ link ∈ snap.links,
      link.source ∈ snap.nodes.map GraphNode.id ∧ link.target ∈ snap.nodes.map GraphNode.id := by
  obtain ⟨graph, built, nodes, links⟩ := GraphState.snapshot_built returned
  have keys : snap.nodes.map GraphNode.id = graph.nodes.keys := by
    rw [nodes, values_map_eq_keys (built.keyed (s.traffic_keyed nowMs))]
  have closed := built.closed (adminOps_selfContained fromStr s.adminEntries)
    (s.traffic_closed nowMs)
  rw [keys, links]
  refine ⟨Std.TreeMap.nodup_keys, ?_⟩
  intro link member
  rw [Std.TreeMap.mem_keys, Std.TreeMap.mem_keys]
  exact closed link member

/-- What a router reports of itself and of one session. -/
def reportText : Str :=
  str "\x7b\"zid\":\"abc\",\"whatami\":\"router\",\"sessions\":[\x7b\"peer\":\"c1\"\x7d]\x7d"

/-- An observed topic, a subscriber to it, and a router that reports a session. -/
def linkedState : GraphState :=
  (GraphState.new (str "tcp/127.0.0.1:7447") (str "**")).run
    [.observe (str "att") 40 none 10,
      .adminPoll [(str "@/abc/router/subscriber/att/subscriber", []), (str "@/router", reportText)]
        20]

/-- A parser that knows the report. -/
def readsReport (payload : Str) : Option JsonValue :=
  if payload = reportText then
    some (.object [(str "zid", .string (str "abc")), (str "whatami", .string (str "router")),
      (str "sessions", .array [.object [(str "peer", .string (str "c1"))]])])
  else none

theorem graph_snapshot_integrity_linked :
    ∃ snap, linkedState.snapshot readsReport 30 = some snap ∧ snap.links.length = 4 ∧
      (snap.nodes.map GraphNode.id).Nodup ∧ ∀ link ∈ snap.links,
        link.source ∈ snap.nodes.map GraphNode.id ∧ link.target ∈ snap.nodes.map GraphNode.id := by
  have linked : ((linkedState.snapshot readsReport 30).map fun snap => snap.links.length) =
      some 4 := by decide
  obtain ⟨snap, returned, four⟩ := Option.map_eq_some_iff.mp linked
  exact ⟨snap, returned, four, graph_snapshot_integrity readsReport linkedState 30 snap returned⟩

end Csyn
