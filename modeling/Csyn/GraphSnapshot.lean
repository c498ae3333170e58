import Csyn.GraphBuild
import Csyn.Lib.Delimited

set_option autoImplicit false

/- When a snapshot of the graph panics: each identifier in the admin space passes through
`shorten`. -/
namespace Csyn

/-- The identifier is short, or a character ends at its eighth byte. -/
def Shortens (zid : Str) : Prop := zid.length ≤ 8 ∨ isCharBoundary zid 8 = true

instance (zid : Str) : Decidable (Shortens zid) := inferInstanceAs (Decidable (_ ∨ _))

theorem shorten_isSome (zid : Str) : (shorten zid 8).isSome ↔ Shortens zid := by
  unfold shorten sliceTo Shortens
  split
  · rename_i short
    simp [short]
  · rename_i long
    split
    · rename_i boundary
      simp [boundary]
    · rename_i inside
      simp [long, inside]

/-! Node ids. -/

theorem adminKind_mem (mode : Str) :
    adminKind mode ∈ [str "router", str "peer", str "client", str "other"] := by
  unfold adminKind
  split
  · rename_i known
    rcases known with rfl | rfl | rfl
    · decide
    · decide
    · decide
  · decide

/-- The id of a node tells its identifier. -/
theorem adminNodeId_inj {mode mode' zid zid' : Str}
    (same : adminNodeId mode zid = adminNodeId mode' zid') : zid = zid' := by
  have clean (kind : Str) (known : kind ∈ [str "router", str "peer", str "client", str "other"]) :
      (58 : UInt8) ∉ kind := by
    revert kind
    decide
  unfold adminNodeId at same
  rw [List.append_assoc, List.append_assoc] at same
  exact (Delimited.append_cons_inj (clean _ (adminKind_mem mode)) (clean _ (adminKind_mem mode'))
    same).2

/-- Ids of other nodes start differently. -/
theorem adminNodeId_head (mode zid : Str) :
    (adminNodeId mode zid).head? ∈ [some 114, some 112, some 99, some (111 : UInt8)] := by
  have heads : ∀ kind ∈ [str "router", str "peer", str "client", str "other"],
      kind ≠ [] ∧ kind.head? ∈ [some 114, some 112, some 99, some (111 : UInt8)] := by
    decide
  obtain ⟨spelt, head⟩ := heads _ (adminKind_mem mode)
  unfold adminNodeId
  rw [List.append_assoc, List.head?_append_of_ne_nil _ spelt]
  exact head

/-- No identifier that cannot be shortened has a node. -/
def GraphTopology.Clear (graph : GraphTopology) : Prop :=
  ∀ mode zid, ¬ Shortens zid → adminNodeId mode zid ∉ graph.nodes

section

variable {graph : GraphTopology}

theorem GraphTopology.Clear.insert (clear : graph.Clear) {id : Str} (node : GraphNode)
    (other : ∀ mode zid, ¬ Shortens zid → id ≠ adminNodeId mode zid) :
    ({ graph with nodes := graph.nodes.insert id node } : GraphTopology).Clear := by
  intro mode zid long present
  rcases Std.TreeMap.mem_insert.mp present with same | earlier
  · exact other mode zid long (Std.LawfulEqCmp.eq_of_compare same)
  · exact clear mode zid long earlier

theorem GraphTopology.Clear.orInsert (clear : graph.Clear) (node : GraphNode)
    (other : ∀ mode zid, ¬ Shortens zid → node.id ≠ adminNodeId mode zid) :
    (graph.orInsert node).Clear := by
  intro mode zid long present
  rcases Std.TreeMap.mem_insertIfNew.mp present with same | earlier
  · exact other mode zid long (Std.LawfulEqCmp.eq_of_compare same)
  · exact clear mode zid long earlier

theorem GraphTopology.Clear.pushLink (clear : graph.Clear) (link : GraphLink) :
    (graph.pushLink link).Clear := clear

end

/-- An id with another first byte is no admin node's. -/
theorem ne_adminNodeId {id : Str} (first : UInt8) (head : id.head? = some first)
    (other : some first ∉ [some 114, some 112, some 99, some (111 : UInt8)]) (mode zid : Str) :
    id ≠ adminNodeId mode zid := by
  intro same
  rw [← head, same] at other
  exact other (adminNodeId_head mode zid)

/-- Inserting a node fails on an identifier that cannot be shortened, and on no other. -/
theorem insertAdminNode_guarded (mode zid detail : Str) :
    Fallible.Guarded GraphTopology.Clear Shortens
      (fun graph => insertAdminNode graph (adminNodeId mode zid) mode zid detail) [zid] := by
  constructor
  · intro graph clear
    rw [List.forall_mem_singleton, ← shorten_isSome, insertAdminNode]
    split
    · rename_i occupied
      have short : Shortens zid := by
        by_contra long
        exact clear mode zid long (Std.TreeMap.mem_iff_contains.mpr occupied)
      simp [shorten_isSome, short]
    · rw [Option.isSome_map]
  · intro graph after clear inserted
    rw [insertAdminNode] at inserted
    split at inserted
    · cases inserted
      exact clear
    · obtain ⟨short, shortened, rfl⟩ := Option.map_eq_some_iff.mp inserted
      have fits : Shortens zid := (shorten_isSome zid).mp (Option.isSome_of_eq_some shortened)
      refine clear.insert _ ?_
      intro mode' zid' long same
      exact long (adminNodeId_inj same ▸ fits)

/-! The identifiers that the admin space names. -/

def listIdentifiers (object : JsonObject) (field : Str) : List Str :=
  ((arrayField object field).getD []).filterMap JsonValue.asStr

def selfIdentifiers (object : JsonObject) : List Str :=
  match stringField object (str "zid"), stringField object (str "whatami") with
  | some zid, some _ => [zid]
  | _, _ => []

def peerIdentifiers (session : JsonObject) : List Str := (stringField session (str "peer")).toList

def sessionIdentifiers (object : JsonObject) : List Str :=
  match stringField object (str "zid"), arrayField object (str "sessions") with
  | some routerZid, some sessions =>
      routerZid :: (sessions.filterMap JsonValue.asObject).flatMap peerIdentifiers
  | _, _ => []

/-- The identifiers of an object: its own, the routers, peers and clients it lists, and those of
a router and its sessions. -/
def objectIdentifiers (object : JsonObject) : List Str :=
  selfIdentifiers object ++ (listIdentifiers object (str "routers") ++
    (listIdentifiers object (str "peers") ++ (listIdentifiers object (str "clients") ++
      sessionIdentifiers object)))

/-- The identifiers in the payloads and in the keys of declared entities. -/
def adminIdentifiers (fromStr : Str → Option JsonValue) (entries : Std.TreeMap Str Str) :
    List Str :=
  (adminObjects fromStr entries).flatMap objectIdentifiers ++
    (parseAdminEntities entries).map fun entity => entity.zid

theorem addAdminList_guarded (object : JsonObject) (field mode : Str) :
    Fallible.Guarded GraphTopology.Clear Shortens (addAdminList object field mode)
      (listIdentifiers object field) := by
  rw [← List.flatMap_singleton' (listIdentifiers object field)]
  exact .foldlM fun zid _ => insertAdminNode_guarded mode zid zid

theorem addAdminSelf_guarded (object : JsonObject) :
    Fallible.Guarded GraphTopology.Clear Shortens (addAdminSelf object)
      (selfIdentifiers object) := by
  unfold addAdminSelf selfIdentifiers
  cases stringField object (str "zid") with
  | none => exact .skip
  | some zid =>
      cases stringField object (str "whatami") with
      | none => exact .skip
      | some whatami => exact insertAdminNode_guarded whatami zid zid

theorem addAdminSession_guarded (routerId : Str) (session : JsonObject) :
    Fallible.Guarded GraphTopology.Clear Shortens
      (fun graph => addAdminSession routerId graph session) (peerIdentifiers session) := by
  unfold addAdminSession peerIdentifiers
  split
  · rename_i missing
    rw [missing]
    exact .skip
  · rename_i peerZid present
    rw [present]
    exact (insertAdminNode_guarded _ _ _).map fun _ clear => clear.pushLink _

theorem addAdminSessions_guarded (object : JsonObject) :
    Fallible.Guarded GraphTopology.Clear Shortens (addAdminSessions object)
      (sessionIdentifiers object) := by
  unfold addAdminSessions sessionIdentifiers
  split
  · rename_i missing
    rw [missing]
    exact .skip
  · rename_i routerZid present
    rw [present]
    split
    · rename_i missing
      rw [missing]
      exact .skip
    · rename_i sessions listed
      rw [listed]
      exact (insertAdminNode_guarded _ _ _).bind
        (.foldlM fun session _ => addAdminSession_guarded _ session)

theorem addAdminObject_guarded (object : JsonObject) :
    Fallible.Guarded GraphTopology.Clear Shortens (addAdminObject object)
      (objectIdentifiers object) :=
  (addAdminSelf_guarded object).bind ((addAdminList_guarded object _ _).bind
    ((addAdminList_guarded object _ _).bind ((addAdminList_guarded object _ _).bind
      (addAdminSessions_guarded object))))

theorem addAdminTopology_guarded (fromStr : Str → Option JsonValue)
    (entries : Std.TreeMap Str Str) :
    Fallible.Guarded GraphTopology.Clear Shortens (addAdminTopology fromStr entries)
      ((adminObjects fromStr entries).flatMap objectIdentifiers) :=
  .foldlM fun object _ => addAdminObject_guarded object

theorem addAdminEntity_guarded (entity : AdminEntity) :
    Fallible.Guarded GraphTopology.Clear Shortens (fun graph => addAdminEntity graph entity)
      [entity.zid] := by
  refine (insertAdminNode_guarded entity.mode entity.zid entity.zid).map ?_
  intro graph clear
  dsimp only
  split
  · refine GraphTopology.Clear.pushLink (.orInsert (.pushLink (clear.orInsert _ ?_) _) _ ?_) _
    · exact fun mode zid _ => ne_adminNodeId 97 rfl (by decide) mode zid
    · exact fun mode zid _ => ne_adminNodeId 116 rfl (by decide) mode zid
  · refine GraphTopology.Clear.pushLink (clear.orInsert _ ?_) _
    exact fun mode zid _ => ne_adminNodeId 97 rfl (by decide) mode zid

/-- Observed topics are no admin nodes. -/
theorem GraphState.traffic_adminNodeId (s : GraphState) (nowMs : UInt64) (mode zid : Str) :
    adminNodeId mode zid ∉ (s.traffic nowMs).nodes := by
  intro present
  rcases (s.traffic_mem nowMs _).mp present with same | ⟨topic, -, same⟩
  · exact ne_adminNodeId 122 rfl (by decide) mode zid same.symm
  · exact ne_adminNodeId 116 rfl (by decide) mode zid same.symm

theorem GraphState.traffic_clear (s : GraphState) (nowMs : UInt64) : (s.traffic nowMs).Clear :=
  fun mode zid _ => s.traffic_adminNodeId nowMs mode zid

/-- A snapshot returns if and only if every identifier that its entries name can be shortened. -/
theorem GraphState.snapshot_isSome (fromStr : Str → Option JsonValue) (s : GraphState)
    (nowMs : UInt64) :
    (s.snapshot fromStr nowMs).isSome ↔
      ∀ zid ∈ adminIdentifiers fromStr s.adminEntries, Shortens zid := by
  have both := (addAdminTopology_guarded fromStr s.adminEntries).bind
    (.foldlM fun entity (_ : entity ∈ parseAdminEntities s.adminEntries) =>
      addAdminEntity_guarded entity)
  have returned := both.succeeds _ (s.traffic_clear nowMs)
  rw [adminIdentifiers, List.map_eq_flatMap, ← returned, GraphState.snapshot]
  cases addAdminTopology fromStr s.adminEntries (s.traffic nowMs) with
  | none => rfl
  | some graph => rw [Option.bind_some, Option.bind_some, Option.isSome_map]

def GraphEvent.replies : GraphEvent → Option (List (Str × Str))
  | .adminPoll replies _ => some replies
  | _ => none

/-- The admin entries after the events: those of the last poll. -/
def lastPoll (events : List GraphEvent) : Std.TreeMap Str Str :=
  match (events.filterMap GraphEvent.replies).getLast? with
  | none => ∅
  | some replies => collectReplies replies

theorem lastPoll_other {event : GraphEvent} (other : event.replies = none)
    (earlier : List GraphEvent) : lastPoll (earlier ++ [event]) = lastPoll earlier := by
  rw [lastPoll, List.filterMap_append, List.filterMap_cons_none other, List.filterMap_nil,
    List.append_nil]
  rfl

theorem lastPoll_poll (earlier : List GraphEvent) (replies : List (Str × Str)) (now : UInt64) :
    lastPoll (earlier ++ [.adminPoll replies now]) = collectReplies replies := by
  have polled : [GraphEvent.adminPoll replies now].filterMap GraphEvent.replies = [replies] := rfl
  rw [lastPoll, List.filterMap_append, polled, List.getLast?_concat]

theorem GraphState.run_adminEntries (connect keyexpr : Str) (events : List GraphEvent) :
    ((GraphState.new connect keyexpr).run events).adminEntries = lastPoll events := by
  induction events using List.reverseRecOn with
  | nil => rfl
  | append_singleton earlier event ih =>
      rw [GraphState.run, List.foldl_append, List.foldl_cons, List.foldl_nil]
      cases event with
      | observe topic payloadLen rootType now =>
          rw [lastPoll_other rfl]
          exact ih
      | observerError error =>
          rw [lastPoll_other rfl]
          exact ih
      | adminPoll replies now =>
          rw [lastPoll_poll]
          rfl
      | adminFailed error =>
          rw [lastPoll_other rfl]
          exact ih

/-- After any run of the observer and the poller, a snapshot does not panic if and only if every
identifier that the last poll named is at most eight bytes or can be cut there. -/
theorem graph_snapshot_returns_iff (fromStr : Str → Option JsonValue) (connect keyexpr : Str)
    (events : List GraphEvent) (nowMs : UInt64) :
    (((GraphState.new connect keyexpr).run events).snapshot fromStr nowMs).isSome ↔
      ∀ zid ∈ adminIdentifiers fromStr (lastPoll events), Shortens zid := by
  rw [GraphState.snapshot_isSome, GraphState.run_adminEntries]

/-- The key of a subscriber declared by the router `aéééé`, nine bytes in five characters. -/
def accentedKey : Str := str "@/aéééé/router/subscriber/att/subscriber"

/-- One such reply makes the next snapshot panic. -/
theorem graph_snapshot_panics :
    (((GraphState.new (str "tcp/127.0.0.1:7447") (str "**")).run
        [.observe (str "att") 40 none 10, .adminPoll [(accentedKey, str "null")] 20]).snapshot
      (fun payload => if payload = str "null" then some .null else none) 30).isNone := by
  decide

end Csyn
