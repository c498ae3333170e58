import Csyn.Graph
import Csyn.Lib.Fallible

set_option autoImplicit false

/- What a snapshot puts into the graph: the traffic, and from the admin space nodes that are made
where their id is vacant and links that are appended. -/
namespace Csyn

/-- `or_insert_with` of a node, or `push` of a link. -/
inductive GraphOp where
  | node (node : GraphNode)
  | link (link : GraphLink)

def GraphOp.node? : GraphOp → Option GraphNode
  | .node made => some made
  | .link _ => none

def GraphOp.link? : GraphOp → Option GraphLink
  | .node _ => none
  | .link pushed => some pushed

/-- The node that these operations give to a vacant id: the first one with it. -/
def nodeOf (ops : List GraphOp) (id : Str) : Option GraphNode :=
  (ops.filterMap GraphOp.node?).find? fun node => node.id = id

/-- What operations make of a graph. -/
structure Built (ops : List GraphOp) (before after : GraphTopology) : Prop where
  nodes : ∀ id, after.nodes[id]? = before.nodes[id]?.or (nodeOf ops id)
  links : after.links = before.links ++ ops.filterMap GraphOp.link?

theorem nodeOf_append (first second : List GraphOp) (id : Str) :
    nodeOf (first ++ second) id = (nodeOf first id).or (nodeOf second id) := by
  rw [nodeOf, List.filterMap_append, List.find?_append]
  rfl

theorem built_sequential : Fallible.Sequential Built := by
  constructor
  · intro graph
    exact ⟨fun id => (Option.or_none).symm, (List.append_nil _).symm⟩
  · intro first second before middle after earlier later
    constructor
    · intro id
      rw [later.nodes, earlier.nodes, nodeOf_append, Option.or_assoc]
    · rw [later.links, earlier.links, List.filterMap_append, List.append_assoc]

theorem nodeOf_single (node : GraphNode) (id : Str) :
    nodeOf [.node node] id = if node.id = id then some node else none := by
  by_cases same : node.id = id
  · simp [nodeOf, GraphOp.node?, same]
  · simp [nodeOf, GraphOp.node?, same]

section

variable (graph : GraphTopology)

theorem built_occupied {node : GraphNode} (occupied : node.id ∈ graph.nodes) :
    Built [.node node] graph graph := by
  constructor
  · intro id
    rw [nodeOf_single]
    by_cases same : node.id = id
    · rw [same] at occupied
      rw [Std.TreeMap.getElem?_eq_some_getElem occupied, Option.some_or]
    · rw [if_neg same, Option.or_none]
  · exact (List.append_nil _).symm

theorem built_vacant {node : GraphNode} (vacant : node.id ∉ graph.nodes) :
    Built [.node node] graph { graph with nodes := graph.nodes.insert node.id node } := by
  constructor
  · intro id
    rw [nodeOf_single]
    show (graph.nodes.insert node.id node)[id]? = _
    rw [Std.TreeMap.getElem?_insert]
    by_cases same : node.id = id
    · rw [same] at vacant
      simp [same, Std.TreeMap.getElem?_eq_none vacant]
    · simp [same, Std.LawfulEqCmp.compare_eq_iff_eq]
  · exact (List.append_nil _).symm

theorem built_orInsert (node : GraphNode) : Built [.node node] graph (graph.orInsert node) := by
  constructor
  · intro id
    rw [nodeOf_single]
    show (graph.nodes.insertIfNew node.id node)[id]? = _
    rw [Std.TreeMap.getElem?_insertIfNew]
    by_cases same : node.id = id
    · by_cases occupied : id ∈ graph.nodes
      · simp [same, occupied]
      · simp [same, occupied]
    · simp [same, Std.LawfulEqCmp.compare_eq_iff_eq]
  · exact (List.append_nil _).symm

theorem built_pushLink (link : GraphLink) : Built [.link link] graph (graph.pushLink link) :=
  ⟨fun _ => (Option.or_none).symm, rfl⟩

end

/-- The node that `insert_admin_node` makes. -/
def adminNode (mode zid detail : Str) : GraphNode :=
  quietNode (adminNodeId mode zid) (adminKind mode ++ str " " ++ (shorten zid 8).getD [])
    (adminKind mode) detail false

theorem insertAdminNode_performs (mode zid detail : Str) :
    Fallible.Performs Built
      (fun graph => insertAdminNode graph (adminNodeId mode zid) mode zid detail)
      [.node (adminNode mode zid detail)] := by
  intro before after inserted
  dsimp only at inserted
  rw [insertAdminNode] at inserted
  split at inserted
  · rename_i occupied
    cases inserted
    exact built_occupied before (Std.TreeMap.mem_iff_contains.mpr occupied)
  · rename_i vacant
    obtain ⟨short, shortened, rfl⟩ := Option.map_eq_some_iff.mp inserted
    have made : adminNode mode zid detail =
        quietNode (adminNodeId mode zid) (adminKind mode ++ str " " ++ short) (adminKind mode)
          detail false := by
      rw [adminNode, shortened, Option.getD_some]
    rw [made]
    exact built_vacant before fun occupied => vacant (Std.TreeMap.mem_iff_contains.mp occupied)

/-! The operations of each part of the admin space. -/

def listOps (object : JsonObject) (field mode : Str) : List GraphOp :=
  (((arrayField object field).getD []).filterMap JsonValue.asStr).map fun zid =>
    .node (adminNode mode zid zid)

def selfOps (object : JsonObject) : List GraphOp :=
  match stringField object (str "zid"), stringField object (str "whatami") with
  | some zid, some whatami => [.node (adminNode whatami zid zid)]
  | _, _ => []

/-- The role of the far end of a session. -/
def sessionMode (session : JsonObject) : Str :=
  (stringField session (str "whatami")).getD (str "client")

def sessionRegion (session : JsonObject) : Str :=
  (stringField session (str "region")).getD []

def sessionDetail (session : JsonObject) (peerZid : Str) : Str :=
  match sessionLinks session with
  | some links =>
      if sessionRegion session = [] then links else sessionRegion session ++ str "; " ++ links
  | none => if sessionRegion session = [] then peerZid else sessionRegion session

def sessionOps (routerId : Str) (session : JsonObject) : List GraphOp :=
  match stringField session (str "peer") with
  | none => []
  | some peerZid =>
      [.node (adminNode (sessionMode session) peerZid (sessionDetail session peerZid)),
        .link ⟨routerId, adminNodeId (sessionMode session) peerZid,
          if sessionRegion session = [] then str "session" else sessionRegion session,
          str "admin"⟩]

def sessionsOps (object : JsonObject) : List GraphOp :=
  match stringField object (str "zid"), arrayField object (str "sessions") with
  | some routerZid, some sessions =>
      .node (adminNode (str "router") routerZid routerZid) ::
        (sessions.filterMap JsonValue.asObject).flatMap
          (sessionOps (adminNodeId (str "router") routerZid))
  | _, _ => []

/-- The operations of one object of `add_admin_topology`. -/
def objectOps (object : JsonObject) : List GraphOp :=
  selfOps object ++ (listOps object (str "routers") (str "router") ++
    (listOps object (str "peers") (str "peer") ++
      (listOps object (str "clients") (str "client") ++ sessionsOps object)))

/-- The id of a declared entity's node. -/
def AdminEntity.nodeId (entity : AdminEntity) : Str :=
  str "admin:" ++ entity.kind ++ str ":" ++ entity.zid ++ str ":" ++
    entity.expr.map fun byte => if byte = slash then 95 else byte

/-- Publishers and subscribers are linked to their topic. -/
def topicOps (entity : AdminEntity) : List GraphOp :=
  if entity.kind = str "publisher" ∨ entity.kind = str "subscriber" then
    [.node (quietNode (str "topic:" ++ entity.expr) entity.expr (str "topic")
        (str "declared in Zenoh admin space") true),
      .link (if entity.kind = str "publisher" then
          ⟨entity.nodeId, str "topic:" ++ entity.expr, entity.kind, entity.kind⟩
        else ⟨str "topic:" ++ entity.expr, entity.nodeId, entity.kind, entity.kind⟩)]
  else []

/-- The operations of one declared entity. -/
def entityOps (entity : AdminEntity) : List GraphOp :=
  .node (adminNode entity.mode entity.zid entity.zid) ::
    .node (quietNode entity.nodeId entity.kind entity.kind entity.expr false) ::
    .link ⟨adminNodeId entity.mode entity.zid, entity.nodeId, str "admin", str "admin"⟩ ::
    topicOps entity

theorem addAdminList_performs (object : JsonObject) (field mode : Str) :
    Fallible.Performs Built (addAdminList object field mode) (listOps object field mode) := by
  unfold listOps
  rw [List.map_eq_flatMap]
  exact .foldlM built_sequential fun zid _ => insertAdminNode_performs mode zid zid

theorem addAdminSelf_performs (object : JsonObject) :
    Fallible.Performs Built (addAdminSelf object) (selfOps object) := by
  unfold addAdminSelf selfOps
  cases stringField object (str "zid") with
  | none => exact .skip built_sequential
  | some zid =>
      cases stringField object (str "whatami") with
      | none => exact .skip built_sequential
      | some whatami => exact insertAdminNode_performs whatami zid zid

theorem addAdminSession_performs (routerId : Str) (session : JsonObject) :
    Fallible.Performs Built (fun graph => addAdminSession routerId graph session)
      (sessionOps routerId session) := by
  unfold addAdminSession sessionOps
  cases stringField session (str "peer") with
  | none => exact .skip built_sequential
  | some peerZid =>
      exact (insertAdminNode_performs _ _ _).map built_sequential
        fun graph => built_pushLink graph _

theorem addAdminSessions_performs (object : JsonObject) :
    Fallible.Performs Built (addAdminSessions object) (sessionsOps object) := by
  unfold addAdminSessions sessionsOps
  cases stringField object (str "zid") with
  | none => exact .skip built_sequential
  | some routerZid =>
      cases arrayField object (str "sessions") with
      | none => exact .skip built_sequential
      | some sessions =>
          exact (insertAdminNode_performs _ _ _).bind built_sequential
            (.foldlM built_sequential fun session _ => addAdminSession_performs _ session)

theorem addAdminObject_performs (object : JsonObject) :
    Fallible.Performs Built (addAdminObject object) (objectOps object) :=
  (addAdminSelf_performs object).bind built_sequential
    ((addAdminList_performs object _ _).bind built_sequential
      ((addAdminList_performs object _ _).bind built_sequential
        ((addAdminList_performs object _ _).bind built_sequential
          (addAdminSessions_performs object))))

theorem addAdminTopology_performs (fromStr : Str → Option JsonValue)
    (entries : Std.TreeMap Str Str) :
    Fallible.Performs Built (addAdminTopology fromStr entries)
      ((adminObjects fromStr entries).flatMap objectOps) :=
  .foldlM built_sequential fun object _ => addAdminObject_performs object

theorem addAdminEntity_performs (entity : AdminEntity) :
    Fallible.Performs Built (fun graph => addAdminEntity graph entity) (entityOps entity) := by
  refine (insertAdminNode_performs entity.mode entity.zid entity.zid).map built_sequential ?_
  intro graph
  have declared := built_sequential.append
    (built_orInsert graph (quietNode entity.nodeId entity.kind entity.kind entity.expr false))
    (built_pushLink _ ⟨adminNodeId entity.mode entity.zid, entity.nodeId, str "admin", str "admin"⟩)
  unfold topicOps
  dsimp only
  split
  · exact built_sequential.append declared
      (built_sequential.append (built_orInsert _ _) (built_pushLink _ _))
  · exact declared

/-- What the admin space adds to a snapshot. -/
def adminOps (fromStr : Str → Option JsonValue) (entries : Std.TreeMap Str Str) : List GraphOp :=
  (adminObjects fromStr entries).flatMap objectOps ++ (parseAdminEntities entries).flatMap entityOps

section

variable {fromStr : Str → Option JsonValue} {s : GraphState} {nowMs : UInt64}
  {snap : GraphSnapshot}

/-- A snapshot renders the traffic with what the admin space adds to it. -/
theorem GraphState.snapshot_built (returned : s.snapshot fromStr nowMs = some snap) :
    ∃ graph, Built (adminOps fromStr s.adminEntries) (s.traffic nowMs) graph ∧
      snap.nodes = graph.nodes.values ∧ snap.links = graph.links := by
  obtain ⟨topology, added, mapped⟩ := Option.bind_eq_some_iff.mp returned
  obtain ⟨graph, declared, rfl⟩ := Option.map_eq_some_iff.mp mapped
  have entities : Fallible.Performs Built
      (fun graph => (parseAdminEntities s.adminEntries).foldlM addAdminEntity graph) _ :=
    .foldlM built_sequential fun entity _ => addAdminEntity_performs entity
  have built := built_sequential.append (addAdminTopology_performs _ _ _ _ added)
    (entities _ _ declared)
  exact ⟨graph, built, rfl, rfl⟩

end

/-! Lookups. -/

theorem nodeOf_isSome {ops : List GraphOp} {id : Str} :
    (nodeOf ops id).isSome ↔ ∃ node : GraphNode, GraphOp.node node ∈ ops ∧ node.id = id := by
  rw [nodeOf, List.find?_isSome]
  constructor
  · rintro ⟨node, made, same⟩
    obtain ⟨op, member, found⟩ := List.mem_filterMap.mp made
    cases op with
    | node made =>
        cases found
        exact ⟨node, member, of_decide_eq_true same⟩
    | link pushed => cases found
  · rintro ⟨node, member, same⟩
    exact ⟨node, List.mem_filterMap.mpr ⟨.node node, member, rfl⟩, decide_eq_true same⟩

/-- An operation made the node that was found. -/
theorem nodeOf_eq_some {ops : List GraphOp} {id : Str} {node : GraphNode}
    (found : nodeOf ops id = some node) : GraphOp.node node ∈ ops ∧ node.id = id := by
  have same := List.find?_some found
  obtain ⟨op, member, made⟩ := List.mem_filterMap.mp (List.mem_of_find?_eq_some found)
  cases op with
  | node other =>
      cases made
      exact ⟨member, of_decide_eq_true same⟩
  | link pushed => cases made

theorem mem_links {ops : List GraphOp} {link : GraphLink} :
    link ∈ ops.filterMap GraphOp.link? ↔ GraphOp.link link ∈ ops := by
  rw [List.mem_filterMap]
  constructor
  · rintro ⟨op, member, pushed⟩
    cases op with
    | node made => cases pushed
    | link other =>
        cases pushed
        exact member
  · intro member
    exact ⟨.link link, member, rfl⟩

theorem Built.mem {ops : List GraphOp} {before after : GraphTopology}
    (built : Built ops before after) (id : Str) :
    id ∈ after.nodes ↔
      id ∈ before.nodes ∨ ∃ node : GraphNode, GraphOp.node node ∈ ops ∧ node.id = id := by
  rw [← nodeOf_isSome, Std.TreeMap.mem_iff_isSome_getElem?, Std.TreeMap.mem_iff_isSome_getElem?,
    built.nodes, Option.isSome_or, Bool.or_eq_true]

/-- A session makes the node of its peer and links the router to it. -/
theorem of_mem_sessionOps {routerId : Str} {session : JsonObject} {op : GraphOp}
    (member : op ∈ sessionOps routerId session) :
    ∃ peerZid, stringField session (str "peer") = some peerZid ∧
      (op = .node (adminNode (sessionMode session) peerZid (sessionDetail session peerZid)) ∨
        ∃ label, op = .link ⟨routerId, adminNodeId (sessionMode session) peerZid, label,
          str "admin"⟩) := by
  unfold sessionOps at member
  split at member
  · cases member
  · rename_i peerZid named
    refine ⟨peerZid, named, ?_⟩
    rcases List.mem_cons.mp member with made | pushed
    · exact Or.inl made
    · exact Or.inr ⟨_, List.mem_singleton.mp pushed⟩

theorem of_mem_sessionsOps {object : JsonObject} {op : GraphOp}
    (member : op ∈ sessionsOps object) :
    ∃ routerZid sessions, stringField object (str "zid") = some routerZid ∧
      arrayField object (str "sessions") = some sessions ∧
      (op = .node (adminNode (str "router") routerZid routerZid) ∨
        ∃ session ∈ sessions.filterMap JsonValue.asObject,
          op ∈ sessionOps (adminNodeId (str "router") routerZid) session) := by
  unfold sessionsOps at member
  split at member
  · rename_i routerZid sessions own reported
    refine ⟨routerZid, sessions, own, reported, ?_⟩
    rcases List.mem_cons.mp member with made | later
    · exact Or.inl made
    · exact Or.inr (List.mem_flatMap.mp later)
  · cases member

/-- Why an object makes a node of a mode for an identifier. -/
inductive NodeOrigin (object : JsonObject) : Str → Str → Prop
  | own {mode zid : Str} (named : stringField object (str "zid") = some zid)
      (told : stringField object (str "whatami") = some mode) : NodeOrigin object mode zid
  | router {zid : Str}
      (listed : zid ∈ ((arrayField object (str "routers")).getD []).filterMap JsonValue.asStr) :
      NodeOrigin object (str "router") zid
  | peer {zid : Str}
      (listed : zid ∈ ((arrayField object (str "peers")).getD []).filterMap JsonValue.asStr) :
      NodeOrigin object (str "peer") zid
  | client {zid : Str}
      (listed : zid ∈ ((arrayField object (str "clients")).getD []).filterMap JsonValue.asStr) :
      NodeOrigin object (str "client") zid
  | reporter {zid : Str} {sessions : List JsonValue}
      (named : stringField object (str "zid") = some zid)
      (reported : arrayField object (str "sessions") = some sessions) :
      NodeOrigin object (str "router") zid
  | session {routerZid zid : Str} {sessions : List JsonValue} {session : JsonObject}
      (named : stringField object (str "zid") = some routerZid)
      (reported : arrayField object (str "sessions") = some sessions)
      (member : session ∈ sessions.filterMap JsonValue.asObject)
      (far : stringField session (str "peer") = some zid) :
      NodeOrigin object (sessionMode session) zid

theorem listOps_made {object : JsonObject} {field mode : Str} {node : GraphNode}
    (member : GraphOp.node node ∈ listOps object field mode) :
    ∃ zid ∈ ((arrayField object field).getD []).filterMap JsonValue.asStr,
      node = adminNode mode zid zid := by
  obtain ⟨zid, listed, same⟩ := List.mem_map.mp member
  exact ⟨zid, listed, (GraphOp.node.inj same).symm⟩

/-- An object makes admin nodes, each for a reason, and no others. -/
theorem objectOps_made {object : JsonObject} {node : GraphNode}
    (member : GraphOp.node node ∈ objectOps object) :
    ∃ mode zid detail, node = adminNode mode zid detail ∧ NodeOrigin object mode zid := by
  simp only [objectOps, List.mem_append] at member
  rcases member with self | router | peer | client | session
  · unfold selfOps at self
    split at self
    · rename_i zid whatami named told
      exact ⟨whatami, zid, zid, GraphOp.node.inj (List.mem_singleton.mp self), .own named told⟩
    · cases self
  · obtain ⟨zid, listed, same⟩ := listOps_made router
    exact ⟨_, zid, zid, same, .router listed⟩
  · obtain ⟨zid, listed, same⟩ := listOps_made peer
    exact ⟨_, zid, zid, same, .peer listed⟩
  · obtain ⟨zid, listed, same⟩ := listOps_made client
    exact ⟨_, zid, zid, same, .client listed⟩
  · obtain ⟨routerZid, sessions, named, reported, made | ⟨session, present, later⟩⟩ :=
      of_mem_sessionsOps session
    · exact ⟨_, routerZid, _, GraphOp.node.inj made, .reporter named reported⟩
    · obtain ⟨peerZid, far, made | ⟨label, pushed⟩⟩ := of_mem_sessionOps later
      · exact ⟨_, peerZid, _, GraphOp.node.inj made, .session named reported present far⟩
      · cases pushed

/-- A session's link goes from the router's node to an admin node. -/
theorem sessionOps_linked {routerId : Str} {session : JsonObject} {link : GraphLink}
    (member : GraphOp.link link ∈ sessionOps routerId session) :
    link.source = routerId ∧ ∃ mode zid, link.target = adminNodeId mode zid := by
  obtain ⟨peerZid, -, made | ⟨label, pushed⟩⟩ := of_mem_sessionOps member
  · cases made
  · cases pushed
    exact ⟨rfl, _, _, rfl⟩

/-- The links of an object are its sessions. -/
theorem objectOps_linked {object : JsonObject} {link : GraphLink}
    (member : GraphOp.link link ∈ objectOps object) :
    ∃ routerZid sessions, stringField object (str "zid") = some routerZid ∧
      arrayField object (str "sessions") = some sessions ∧
      ∃ session ∈ sessions.filterMap JsonValue.asObject,
        GraphOp.link link ∈ sessionOps (adminNodeId (str "router") routerZid) session := by
  have unlisted (field mode : Str) : GraphOp.link link ∉ listOps object field mode := by
    intro here
    obtain ⟨zid, -, same⟩ := List.mem_map.mp here
    cases same
  have unlinked : GraphOp.link link ∉ selfOps object := by
    unfold selfOps
    split
    · simp
    · simp
  simp only [objectOps, List.mem_append, unlisted, unlinked, false_or] at member
  obtain ⟨routerZid, sessions, named, reported, made | later⟩ := of_mem_sessionsOps member
  · cases made
  · exact ⟨routerZid, sessions, named, reported, later⟩

/-- A declared entity makes the node of its router, its own, and perhaps that of its topic. -/
theorem entityOps_made {entity : AdminEntity} {node : GraphNode}
    (member : GraphOp.node node ∈ entityOps entity) :
    node = adminNode entity.mode entity.zid entity.zid ∨
      node = quietNode entity.nodeId entity.kind entity.kind entity.expr false ∨
      node = quietNode (str "topic:" ++ entity.expr) entity.expr (str "topic")
        (str "declared in Zenoh admin space") true := by
  simp only [entityOps, List.mem_cons, reduceCtorEq, GraphOp.node.injEq, false_or] at member
  rcases member with router | own | topic
  · exact Or.inl router
  · exact Or.inr (Or.inl own)
  · unfold topicOps at topic
    split at topic
    · simp only [List.mem_cons, reduceCtorEq, GraphOp.node.injEq, List.not_mem_nil,
        or_false] at topic
      exact Or.inr (Or.inr topic)
    · cases topic

/-- Nodes from the admin space carry no traffic. -/
theorem adminOps_quiet {fromStr : Str → Option JsonValue} {entries : Std.TreeMap Str Str}
    {node : GraphNode} (member : GraphOp.node node ∈ adminOps fromStr entries) :
    node.rateHz = 0 := by
  rcases List.mem_append.mp member with topology | declared
  · obtain ⟨object, -, made⟩ := List.mem_flatMap.mp topology
    obtain ⟨mode, zid, detail, rfl, -⟩ := objectOps_made made
    rfl
  · obtain ⟨entity, -, made⟩ := List.mem_flatMap.mp declared
    rcases entityOps_made made with rfl | rfl | rfl
    · rfl
    · rfl
    · rfl

/-- Every node stands under its own id. -/
def GraphTopology.Keyed (graph : GraphTopology) : Prop :=
  ∀ (id : Str) (node : GraphNode), graph.nodes[id]? = some node → node.id = id

theorem Built.keyed {ops : List GraphOp} {before after : GraphTopology}
    (built : Built ops before after) (keyed : before.Keyed) : after.Keyed := by
  intro id node found
  rw [built.nodes] at found
  cases earlier : before.nodes[id]? with
  | none =>
      rw [earlier, Option.none_or] at found
      exact (nodeOf_eq_some found).2
  | some occupant =>
      rw [earlier, Option.some_or, Option.some.injEq] at found
      exact found ▸ keyed id occupant earlier

section

universe u v

variable {α : Type u} {β : Type v} {cmp : α → α → Ordering}

theorem values_eq_map_toList [Std.TransCmp cmp] (t : Std.TreeMap α β cmp) :
    t.values = t.toList.map Prod.snd := by
  have folded : t.values = t.foldr (fun _ value rest => value :: rest) [] := rfl
  rw [folded, Std.TreeMap.foldr_eq_foldr_toList, List.map_eq_foldr]

theorem mem_values [Std.TransCmp cmp] [Std.LawfulEqCmp cmp] {t : Std.TreeMap α β cmp} {value : β} :
    value ∈ t.values ↔ ∃ key : α, t[key]? = some value := by
  rw [values_eq_map_toList, List.mem_map]
  constructor
  · rintro ⟨entry, member, rfl⟩
    exact ⟨entry.1, Std.TreeMap.mem_toList_iff_getElem?_eq_some.mp member⟩
  · rintro ⟨key, found⟩
    exact ⟨(key, value), Std.TreeMap.mem_toList_iff_getElem?_eq_some.mpr found, rfl⟩

/-- Where every value carries its key, the values carry the keys in order. -/
theorem values_map_eq_keys [Std.TransCmp cmp] [Std.LawfulEqCmp cmp] {t : Std.TreeMap α β cmp}
    {key : β → α} (keyed : ∀ (k : α) (value : β), t[k]? = some value → key value = k) :
    t.values.map key = t.keys := by
  rw [values_eq_map_toList, List.map_map, ← Std.TreeMap.map_fst_toList_eq_keys]
  apply List.map_congr_left
  intro entry member
  exact keyed entry.1 entry.2 (Std.TreeMap.mem_toList_iff_getElem?_eq_some.mp member)

end

/-! The traffic. -/

/-- The node of an observed topic. -/
def topicNode (nowMs : UInt64) (topic : TopicStats) : GraphNode where
  id := str "topic:" ++ topic.topic
  label := topic.topic
  kind := str "topic"
  detail := topic.rootType.getD (str "unknown payload")
  messages := topic.messages
  bytes := topic.bytes
  rateHz := (topic.recent.length : Rat) / 5
  stale := saturatingSub nowMs topic.lastSeenMs > 5000

theorem topicId_inj {topic other : Str} (same : str "topic:" ++ topic = str "topic:" ++ other) :
    topic = other := List.append_cancel_left same

/-- The link from the transport to an observed topic. -/
def topicLink (topic : TopicStats) : GraphLink :=
  ⟨str "zenoh", str "topic:" ++ topic.topic, decimal topic.messages.toNat ++ str " msg",
    str "traffic"⟩

def transportNode (connect : Str) : GraphNode :=
  quietNode (str "zenoh") (str "Zenoh") (str "transport") connect false

/-- A topic takes the place of what stood under its id. -/
theorem addTopics_nodes (nowMs : UInt64) (topics : List TopicStats) (graph : GraphTopology)
    (id : Str) :
    (topics.foldl (addTopic nowMs) graph).nodes[id]? =
      ((topics.reverse.map (topicNode nowMs)).find? fun node => node.id = id).or
        graph.nodes[id]? := by
  induction topics generalizing graph with
  | nil => rfl
  | cons topic rest ih =>
      rw [List.foldl_cons, ih, List.reverse_cons, List.map_append, List.find?_append,
        Option.or_assoc]
      congr 1
      show (graph.nodes.insert (str "topic:" ++ topic.topic) (topicNode nowMs topic))[id]? = _
      rw [Std.TreeMap.getElem?_insert]
      by_cases same : str "topic:" ++ topic.topic = id
      · simp [topicNode, same]
      · simp [topicNode, same, Std.LawfulEqCmp.compare_eq_iff_eq]

theorem addTopics_links (nowMs : UInt64) (topics : List TopicStats) (graph : GraphTopology) :
    (topics.foldl (addTopic nowMs) graph).links = graph.links ++ topics.map topicLink := by
  induction topics generalizing graph with
  | nil => exact (List.append_nil _).symm
  | cons topic rest ih =>
      rw [List.foldl_cons, ih, List.map_cons, List.append_cons]
      rfl

section

variable (s : GraphState) (nowMs : UInt64)

theorem GraphState.traffic_nodes (id : Str) :
    (s.traffic nowMs).nodes[id]? =
      ((s.topics.values.reverse.map (topicNode nowMs)).find? fun node => node.id = id).or
        (if str "zenoh" = id then some (transportNode s.connect) else none) := by
  rw [GraphState.traffic, addTopics_nodes]
  congr 1
  show ((∅ : Std.TreeMap Str GraphNode).insert (str "zenoh") (transportNode s.connect))[id]? = _
  rw [Std.TreeMap.getElem?_insert, Std.TreeMap.getElem?_emptyc]
  simp only [Std.LawfulEqCmp.compare_eq_iff_eq]

theorem GraphState.traffic_links :
    (s.traffic nowMs).links = s.topics.values.map topicLink := by
  rw [GraphState.traffic, addTopics_links, List.nil_append]

theorem GraphState.traffic_mem (id : Str) :
    id ∈ (s.traffic nowMs).nodes ↔
      id = str "zenoh" ∨ ∃ topic ∈ s.topics.values, id = str "topic:" ++ topic.topic := by
  rw [Std.TreeMap.mem_iff_isSome_getElem?, s.traffic_nodes nowMs, Option.isSome_or,
    Bool.or_eq_true, List.find?_isSome, or_comm]
  apply or_congr
  · by_cases same : str "zenoh" = id
    · simp [same]
    · simp [same, Ne.symm same]
  · constructor
    · rintro ⟨node, made, same⟩
      obtain ⟨topic, member, rfl⟩ := List.mem_map.mp made
      exact ⟨topic, List.mem_reverse.mp member, (of_decide_eq_true same).symm⟩
    · rintro ⟨topic, member, same⟩
      exact ⟨topicNode nowMs topic, List.mem_map_of_mem (List.mem_reverse.mpr member),
        decide_eq_true same.symm⟩

theorem GraphState.traffic_keyed : (s.traffic nowMs).Keyed := by
  intro id node found
  rw [s.traffic_nodes nowMs, Option.or_eq_some_iff] at found
  rcases found with topic | ⟨-, transport⟩
  · have same := List.find?_some topic
    exact of_decide_eq_true same
  · split at transport
    · rename_i same
      cases transport
      exact same
    · cases transport

end

end Csyn
