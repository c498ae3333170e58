import Csyn.GraphSnapshot

set_option autoImplicit false

/- Which nodes `add_admin_topology` makes for an identifier: those of the roles it is given, and
those of the roles it is taken to have. -/
namespace Csyn

/-- The sessions that an object lists. -/
def objectSessions (object : JsonObject) : List JsonObject :=
  ((arrayField object (str "sessions")).getD []).filterMap JsonValue.asObject

/-- The object gives the identifier a role: its own `whatami`, a list that names the identifier, or
the `whatami` of a session with it. -/
def GivesRole (object : JsonObject) (zid role : Str) : Prop :=
  (stringField object (str "zid") = some zid ∧
    ∃ whatami, stringField object (str "whatami") = some whatami ∧ role = adminKind whatami) ∨
  (zid ∈ listIdentifiers object (str "routers") ∧ role = str "router") ∨
  (zid ∈ listIdentifiers object (str "peers") ∧ role = str "peer") ∨
  (zid ∈ listIdentifiers object (str "clients") ∧ role = str "client") ∨
  ∃ session ∈ objectSessions object, stringField session (str "peer") = some zid ∧
    ∃ whatami, stringField session (str "whatami") = some whatami ∧ role = adminKind whatami

/-- The object reports the sessions of the identifier. -/
def Reports (object : JsonObject) (zid : Str) : Prop :=
  stringField object (str "zid") = some zid ∧ (arrayField object (str "sessions")).isSome

/-- The object reports a session with the identifier that does not say what it is. -/
def NamesUntold (object : JsonObject) (zid : Str) : Prop :=
  (∃ reporter, Reports object reporter) ∧ ∃ session ∈ objectSessions object,
    stringField session (str "peer") = some zid ∧ stringField session (str "whatami") = none

section

variable (objects : List JsonObject)

def RoleGiven (zid role : Str) : Prop := ∃ object ∈ objects, GivesRole object zid role

/-- Each identifier is given one role. -/
def SingleRoles : Prop :=
  ∀ zid role role', RoleGiven objects zid role → RoleGiven objects zid role' → role = role'

/-- Whoever reports sessions is given no role but router; whom a session names without saying what
it is is given no role but client, and reports no sessions. -/
structure RolesAsAssumed : Prop where
  reporter : ∀ object ∈ objects, ∀ zid, Reports object zid →
    ∀ role, RoleGiven objects zid role → role = str "router"
  untold : ∀ object ∈ objects, ∀ zid, NamesUntold object zid →
    (∀ role, RoleGiven objects zid role → role = str "client") ∧
      ∀ other ∈ objects, ¬ Reports other zid

/-- No identifier has nodes of two roles, every node has the role that its identifier is given, if
any, and the links that an object with a role of its own pushes start at its node. -/
structure OneNodeEach (start after : GraphTopology) : Prop where
  single : ∀ zid mode mode', adminNodeId mode zid ∈ after.nodes →
    adminNodeId mode' zid ∈ after.nodes → adminKind mode = adminKind mode'
  role : ∀ zid mode role, adminNodeId mode zid ∈ after.nodes → RoleGiven objects zid role →
    adminKind mode = role
  sources : ∀ before object rest zid whatami earlier later, objects = before ++ object :: rest →
    stringField object (str "zid") = some zid →
    stringField object (str "whatami") = some whatami →
    before.foldlM (fun graph object => addAdminObject object graph) start = some earlier →
    addAdminObject object earlier = some later →
    ∀ link ∈ later.links.drop earlier.links.length, link.source = adminNodeId whatami zid

end

/-! The nodes. -/

theorem adminNodeId_inj_kind {mode mode' zid zid' : Str}
    (same : adminNodeId mode zid = adminNodeId mode' zid') :
    adminKind mode = adminKind mode' ∧ zid = zid' := by
  obtain rfl := adminNodeId_inj same
  unfold adminNodeId at same
  rw [List.append_assoc, List.append_assoc] at same
  exact ⟨List.append_cancel_right same, rfl⟩

/-- Every node an object makes is of a role it gives, of a router that reports, or of a client that
a session does not tell. -/
theorem NodeOrigin.role {object : JsonObject} {mode zid : Str} (origin : NodeOrigin object mode zid) :
    GivesRole object zid (adminKind mode) ∨
      Reports object zid ∧ adminKind mode = str "router" ∨
      NamesUntold object zid ∧ adminKind mode = str "client" := by
  cases origin with
  | own named told => exact Or.inl (Or.inl ⟨named, mode, told, rfl⟩)
  | router listed => exact Or.inl (Or.inr (Or.inl ⟨listed, rfl⟩))
  | peer listed => exact Or.inl (Or.inr (Or.inr (Or.inl ⟨listed, rfl⟩)))
  | client listed => exact Or.inl (Or.inr (Or.inr (Or.inr (Or.inl ⟨listed, rfl⟩))))
  | reporter named reported =>
      exact Or.inr (Or.inl ⟨⟨named, Option.isSome_of_eq_some reported⟩, rfl⟩)
  | session named reported member far =>
      rename_i routerZid sessions session
      have reports : Reports object routerZid := ⟨named, Option.isSome_of_eq_some reported⟩
      have among : session ∈ objectSessions object := by
        rw [objectSessions, reported]
        exact member
      unfold sessionMode
      cases told : stringField session (str "whatami") with
      | none =>
          exact Or.inr (Or.inr ⟨⟨⟨routerZid, reports⟩, session, among, far, told⟩, rfl⟩)
      | some whatami =>
          apply Or.inl
          exact Or.inr (Or.inr (Or.inr (Or.inr ⟨session, among, far, whatami, told, rfl⟩)))

theorem sessionsOps_subset (object : JsonObject) : sessionsOps object ⊆ objectOps object := by
  intro op member
  simp [objectOps, member]

/-- Who reports sessions gets a router's node. -/
theorem Reports.made {object : JsonObject} {zid : Str} (reports : Reports object zid) :
    GraphOp.node (adminNode (str "router") zid zid) ∈ objectOps object := by
  obtain ⟨own, reported⟩ := reports
  obtain ⟨sessions, listed⟩ := Option.isSome_iff_exists.mp reported
  apply sessionsOps_subset
  rw [sessionsOps, own, listed]
  exact List.mem_cons_self

/-- Whom a session does not tell gets a client's node. -/
theorem NamesUntold.made {object : JsonObject} {zid : Str} (untold : NamesUntold object zid) :
    ∃ detail, GraphOp.node (adminNode (str "client") zid detail) ∈ objectOps object := by
  obtain ⟨⟨reporter, own, reported⟩, session, among, named, told⟩ := untold
  obtain ⟨sessions, listed⟩ := Option.isSome_iff_exists.mp reported
  have client : sessionMode session = str "client" := by
    rw [sessionMode, told]
    rfl
  have present : session ∈ sessions.filterMap JsonValue.asObject := by
    rw [objectSessions, listed] at among
    exact among
  have made : GraphOp.node (adminNode (str "client") zid (sessionDetail session zid)) ∈
      sessionOps (adminNodeId (str "router") reporter) session := by
    rw [sessionOps, named, client]
    exact List.mem_cons_self
  refine ⟨sessionDetail session zid, sessionsOps_subset object ?_⟩
  rw [sessionsOps, own, listed]
  exact List.mem_cons_of_mem _ (List.mem_flatMap_of_mem present made)

/-- The role is given to the identifier, or it is the one that the identifier is taken to have. -/
def MadeAs (objects : List JsonObject) (zid role : Str) : Prop :=
  RoleGiven objects zid role ∨
    (∃ object ∈ objects, Reports object zid) ∧ role = str "router" ∨
    (∃ object ∈ objects, NamesUntold object zid) ∧ role = str "client"

section

variable {fromStr : Str → Option JsonValue} {s : GraphState} {nowMs : UInt64}
  {graph : GraphTopology}

theorem topology_made
    (added : addAdminTopology fromStr s.adminEntries (s.traffic nowMs) = some graph)
    {mode zid : Str} (present : adminNodeId mode zid ∈ graph.nodes) :
    MadeAs (adminObjects fromStr s.adminEntries) zid (adminKind mode) := by
  have built := addAdminTopology_performs _ _ _ _ added
  rcases (built.mem _).mp present with traffic | ⟨node, made, same⟩
  · exact absurd traffic (s.traffic_adminNodeId nowMs mode zid)
  · obtain ⟨object, member, made⟩ := List.mem_flatMap.mp made
    obtain ⟨mode', zid', detail, rfl, origin⟩ := objectOps_made made
    obtain ⟨kind, rfl⟩ := adminNodeId_inj_kind same
    rw [← kind]
    rcases origin.role with given | ⟨reports, router⟩ | ⟨untold, client⟩
    · exact Or.inl ⟨object, member, given⟩
    · exact Or.inr (Or.inl ⟨⟨object, member, reports⟩, router⟩)
    · exact Or.inr (Or.inr ⟨⟨object, member, untold⟩, client⟩)

theorem topology_node
    (added : addAdminTopology fromStr s.adminEntries (s.traffic nowMs) = some graph)
    {object : JsonObject} (member : object ∈ adminObjects fromStr s.adminEntries)
    {mode zid detail : Str} (made : GraphOp.node (adminNode mode zid detail) ∈ objectOps object) :
    adminNodeId mode zid ∈ graph.nodes := by
  have built := addAdminTopology_performs _ _ _ _ added
  exact (built.mem _).mpr (Or.inr ⟨_, List.mem_flatMap_of_mem member made, rfl⟩)

end

section

variable {objects : List JsonObject} {zid role role' : Str}

/-- Where roles are as assumed, a made node's role is the given one. -/
theorem RolesAsAssumed.made_given (assumed : RolesAsAssumed objects) (single : SingleRoles objects)
    (made : MadeAs objects zid role) (given : RoleGiven objects zid role') : role = role' := by
  rcases made with given' | ⟨⟨object, member, reports⟩, rfl⟩ | ⟨⟨object, member, untold⟩, rfl⟩
  · exact single zid role role' given' given
  · exact (assumed.reporter object member zid reports role' given).symm
  · exact ((assumed.untold object member zid untold).1 role' given).symm

/-- Where roles are as assumed, an identifier has nodes of one role. -/
theorem RolesAsAssumed.made_unique (assumed : RolesAsAssumed objects) (single : SingleRoles objects)
    (made : MadeAs objects zid role) (made' : MadeAs objects zid role') : role = role' := by
  have apart {object other : JsonObject} (member : object ∈ objects) (member' : other ∈ objects)
      (untold : NamesUntold object zid) : ¬ Reports other zid :=
    (assumed.untold object member zid untold).2 other member'
  rcases made' with given | ⟨⟨object, member, reports⟩, rfl⟩ | ⟨⟨object, member, untold⟩, rfl⟩
  · exact assumed.made_given single made given
  · rcases made with given | ⟨-, router⟩ | ⟨⟨other, member', untold⟩, -⟩
    · exact assumed.reporter object member zid reports role given
    · exact router
    · exact absurd reports (apart member' member untold)
  · rcases made with given | ⟨⟨other, member', reports⟩, -⟩ | ⟨-, client⟩
    · exact (assumed.untold object member zid untold).1 role given
    · exact absurd reports (apart member member' untold)
    · exact client

end

/-- The links that an object pushes start at the router's node of its identifier. -/
theorem addAdminObject_sources {object : JsonObject} {zid : Str} {earlier later : GraphTopology}
    (own : stringField object (str "zid") = some zid)
    (added : addAdminObject object earlier = some later) {link : GraphLink}
    (pushed : link ∈ later.links.drop earlier.links.length) :
    Reports object zid ∧ link.source = adminNodeId (str "router") zid := by
  have built := addAdminObject_performs object earlier later added
  rw [built.links, List.drop_left, mem_links] at pushed
  obtain ⟨routerZid, sessions, named, listed, session, -, member⟩ := objectOps_linked pushed
  rw [own, Option.some.injEq] at named
  have reported : (arrayField object (str "sessions")).isSome := by
    rw [listed]
    rfl
  exact ⟨⟨own, reported⟩, named ▸ (sessionOps_linked member).1⟩

/-- Where each identifier is given one role, every identifier gets one node, of that role, and
session links start at the node of the reporting object's role, if and only if whoever reports
sessions is given no role but router, and whom a session names without a role is given no role but
client and reports none. -/
theorem one_node_each_iff (fromStr : Str → Option JsonValue) (s : GraphState) (nowMs : UInt64)
    (graph : GraphTopology) (single : SingleRoles (adminObjects fromStr s.adminEntries))
    (added : addAdminTopology fromStr s.adminEntries (s.traffic nowMs) = some graph) :
    OneNodeEach (adminObjects fromStr s.adminEntries) (s.traffic nowMs) graph ↔
      RolesAsAssumed (adminObjects fromStr s.adminEntries) := by
  have router : adminKind (str "router") = str "router" := by decide
  have client : adminKind (str "client") = str "client" := by decide
  constructor
  · intro each
    constructor
    · intro object member zid reports role given
      have node := topology_node added member reports.made
      exact (each.role zid (str "router") role node given).symm.trans router
    · intro object member zid untold
      obtain ⟨detail, made⟩ := untold.made
      have node := topology_node added member made
      constructor
      · intro role given
        exact (each.role zid (str "client") role node given).symm.trans client
      · intro other member' reports
        have both := each.single zid _ _ node (topology_node added member' reports.made)
        revert both
        decide
  · intro assumed
    constructor
    · intro zid mode mode' present present'
      exact assumed.made_unique single (topology_made added present)
        (topology_made added present')
    · intro zid mode role present given
      exact assumed.made_given single (topology_made added present) given
    · intro before object rest zid whatami earlier later split own told _ extended link pushed
      have member : object ∈ adminObjects fromStr s.adminEntries := by
        rw [split]
        simp
      obtain ⟨reports, source⟩ := addAdminObject_sources own extended pushed
      have given : RoleGiven (adminObjects fromStr s.adminEntries) zid (adminKind whatami) :=
        ⟨object, member, Or.inl ⟨own, whatami, told, rfl⟩⟩
      have kind := assumed.reporter object member zid reports _ given
      rw [source, adminNodeId, adminNodeId, router, kind]

/-- A state whose admin space holds one payload. -/
def reportedState (payload : Str) : GraphState :=
  (GraphState.new (str "c") (str "**")).run [.adminPoll [(str "@/status", payload)] 10]

/-- A parser that knows one object. -/
def readsObject (text : Str) (object : JsonObject) (payload : Str) : Option JsonValue :=
  if payload = text then some (.object object) else none

/-- A router with a client. -/
def routerText : Str :=
  str "\x7b\"zid\":\"r1\",\"whatami\":\"router\"," ++
    str "\"sessions\":[\x7b\"peer\":\"c1\",\"whatami\":\"client\"\x7d]\x7d"

def routerObject : JsonObject :=
  [(str "zid", .string (str "r1")), (str "whatami", .string (str "router")),
    (str "sessions", .array [.object [(str "peer", .string (str "c1")),
      (str "whatami", .string (str "client"))]])]

/-- A peer that lists its sessions, none so far. -/
def peerText : Str := str "\x7b\"zid\":\"p1\",\"whatami\":\"peer\",\"sessions\":[]\x7d"

def peerObject : JsonObject :=
  [(str "zid", .string (str "p1")), (str "whatami", .string (str "peer")),
    (str "sessions", .array [])]

theorem adminObjects_reported (text : Str) (object : JsonObject) :
    adminObjects (readsObject text object) (reportedState text).adminEntries = [object] := by
  have payloads : (reportedState text).adminEntries.values = [text] := rfl
  have parsed : (readsObject text object text).bind JsonValue.asObject = some object := by
    rw [readsObject, if_pos rfl]
    rfl
  simp [adminObjects, payloads, parsed]

/-- An object that gives each identifier the role that a function says gives it one role. -/
theorem singleRoles_of_function {object : JsonObject} (roleOf : Str → Str)
    (gives : ∀ zid role, GivesRole object zid role → role = roleOf zid) : SingleRoles [object] := by
  intro zid role role' given given'
  obtain ⟨one, member, given⟩ := given
  obtain ⟨other, member', given'⟩ := given'
  rw [List.mem_singleton] at member member'
  rw [gives zid role (member ▸ given), gives zid role' (member' ▸ given')]

theorem routerObject_roles : SingleRoles [routerObject] := by
  apply singleRoles_of_function fun zid => if zid = str "r1" then str "router" else str "client"
  intro zid role gives
  have sessions : objectSessions routerObject =
      [[(str "peer", .string (str "c1")), (str "whatami", .string (str "client"))]] := rfl
  rcases gives with ⟨own, whatami, told, rfl⟩ | ⟨listed, -⟩ | ⟨listed, -⟩ | ⟨listed, -⟩ |
    ⟨session, member, named, whatami, told, rfl⟩
  · cases own
    cases told
    decide
  · cases listed
  · cases listed
  · cases listed
  · rw [sessions, List.mem_singleton] at member
    rw [member] at named told
    cases named
    cases told
    decide

theorem peerObject_roles : SingleRoles [peerObject] := by
  apply singleRoles_of_function fun _ => str "peer"
  intro zid role gives
  rcases gives with ⟨own, whatami, told, rfl⟩ | ⟨listed, -⟩ | ⟨listed, -⟩ | ⟨listed, -⟩ |
    ⟨session, member, -⟩
  · cases told
    decide
  · cases listed
  · cases listed
  · cases listed
  · cases member

theorem one_node_each_iff_router :
    ∃ graph, addAdminTopology (readsObject routerText routerObject)
        (reportedState routerText).adminEntries ((reportedState routerText).traffic 20) =
          some graph ∧
      (OneNodeEach (adminObjects (readsObject routerText routerObject)
          (reportedState routerText).adminEntries) ((reportedState routerText).traffic 20) graph ↔
        RolesAsAssumed (adminObjects (readsObject routerText routerObject)
          (reportedState routerText).adminEntries)) := by
  have returns : (addAdminTopology (readsObject routerText routerObject)
      (reportedState routerText).adminEntries ((reportedState routerText).traffic 20)).isSome := by
    decide
  obtain ⟨graph, added⟩ := Option.isSome_iff_exists.mp returns
  have single := adminObjects_reported routerText routerObject ▸ routerObject_roles
  exact ⟨graph, added, one_node_each_iff (readsObject routerText routerObject)
    (reportedState routerText) 20 graph single added⟩

/-- The peer gets a peer's node and a router's. -/
theorem peer_with_sessions_made_twice :
    SingleRoles (adminObjects (readsObject peerText peerObject)
        (reportedState peerText).adminEntries) ∧
      ∃ graph, addAdminTopology (readsObject peerText peerObject)
          (reportedState peerText).adminEntries ((reportedState peerText).traffic 20) = some graph ∧
        ¬ OneNodeEach (adminObjects (readsObject peerText peerObject)
          (reportedState peerText).adminEntries) ((reportedState peerText).traffic 20) graph := by
  have nodes : (addAdminTopology (readsObject peerText peerObject)
      (reportedState peerText).adminEntries ((reportedState peerText).traffic 20)).map
        (fun graph => graph.nodes.keys) =
          some [str "peer:p1", str "router:p1", str "zenoh"] := by
    decide
  obtain ⟨graph, added, keys⟩ := Option.map_eq_some_iff.mp nodes
  constructor
  · exact adminObjects_reported peerText peerObject ▸ peerObject_roles
  · refine ⟨graph, added, ?_⟩
    intro each
    have peer : adminNodeId (str "peer") (str "p1") ∈ graph.nodes := by
      rw [← Std.TreeMap.mem_keys, keys]
      decide
    have router : adminNodeId (str "router") (str "p1") ∈ graph.nodes := by
      rw [← Std.TreeMap.mem_keys, keys]
      decide
    have same := each.single _ _ _ peer router
    revert same
    decide

end Csyn
