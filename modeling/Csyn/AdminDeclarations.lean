import Csyn.AdminEntities
import Csyn.GraphSnapshot
import Mathlib.Data.List.Forall2

set_option autoImplicit false

/- Declared entities in a snapshot. The id of an entity's node joins kind, identifier and expression
with colons and writes the slashes of the expression as underscores. -/
namespace Csyn

/-- The two differ in kind, identifier or expression. -/
def AdminEntity.Differs (entity other : AdminEntity) : Prop :=
  entity.kind ≠ other.kind ∨ entity.zid ≠ other.zid ∨ entity.expr ≠ other.expr

instance (entity other : AdminEntity) : Decidable (entity.Differs other) :=
  inferInstanceAs (Decidable (_ ∨ _ ∨ _))

/-- `kind:zid:expr` -/
def AdminEntity.text (entity : AdminEntity) : Str :=
  entity.kind ++ str ":" ++ entity.zid ++ str ":" ++ entity.expr

/-- The same byte, or a slash and an underscore. -/
def LooksLike (a b : UInt8) : Prop := a = b ∨ a = slash ∧ b = 95 ∨ a = 95 ∧ b = slash

instance (a b : UInt8) : Decidable (LooksLike a b) :=
  inferInstanceAs (Decidable (_ ∨ _ ∧ _ ∨ _ ∧ _))

/-- Entities that read alike but for slashes and underscores agree in kind, identifier and
expression. -/
def NoLookalikes (entities : List AdminEntity) : Prop :=
  ∀ entity ∈ entities, ∀ other ∈ entities, List.Forall₂ LooksLike entity.text other.text →
    ¬ entity.Differs other

/-- Publishers and subscribers. -/
def AdminEntity.HasTopic (entity : AdminEntity) : Prop :=
  entity.kind = str "publisher" ∨ entity.kind = str "subscriber"

/-- The link joins the two nodes, in either direction. -/
def GraphLink.Joins (link : GraphLink) (a b : Str) : Prop :=
  link.source = a ∧ link.target = b ∨ link.source = b ∧ link.target = a

/-- Different entities have different ids; each publisher and subscriber has a node that shows its
expression, and is linked to the topic of its expression and to no other topic. -/
structure DeclarationsDistinct (entities : List AdminEntity) (snap : GraphSnapshot) : Prop where
  ids : ∀ entity ∈ entities, ∀ other ∈ entities, entity.Differs other →
    entity.nodeId ≠ other.nodeId
  shown : ∀ entity ∈ entities, entity.HasTopic →
    ∃ node ∈ snap.nodes, node.id = entity.nodeId ∧ node.detail = entity.expr
  linked : ∀ entity ∈ entities, entity.HasTopic →
    (∃ link ∈ snap.links, link.Joins entity.nodeId (str "topic:" ++ entity.expr)) ∧
      ∀ link ∈ snap.links, ∀ topic, link.Joins entity.nodeId (str "topic:" ++ topic) →
        topic = entity.expr

/-! Ids. -/

/-- `str::replace` of one byte. -/
def underscored (byte : UInt8) : UInt8 := if byte = slash then 95 else byte

theorem underscored_eq_iff (a b : UInt8) : underscored a = underscored b ↔ LooksLike a b := by
  unfold underscored LooksLike
  by_cases left : a = slash
  · by_cases right : b = slash
    · simp [left, right]
    · rw [if_pos left, if_neg right]
      constructor
      · intro same
        exact Or.inr (Or.inl ⟨left, same.symm⟩)
      · rintro (same | ⟨-, same⟩ | ⟨-, same⟩)
        · exact absurd (same ▸ left) right
        · exact same.symm
        · exact absurd same right
  · by_cases right : b = slash
    · rw [if_neg left, if_pos right]
      constructor
      · intro same
        exact Or.inr (Or.inr ⟨same, right⟩)
      · rintro (same | ⟨same, -⟩ | ⟨same, -⟩)
        · exact absurd (same ▸ right) left
        · exact absurd same left
        · exact same
    · simp [left, right]

theorem map_underscored_of_not_mem {text : Str} (clean : slash ∉ text) :
    text.map underscored = text := by
  have kept : text.map underscored = text.map id := by
    apply List.map_congr_left
    intro byte member
    apply if_neg
    intro same
    exact clean (same ▸ member)
  rw [kept, List.map_id]

/-- The id of a well-formed entity is its text with every slash written as an underscore. -/
theorem AdminEntity.WellFormed.nodeId_eq {entity : AdminEntity} (formed : entity.WellFormed) :
    entity.nodeId = str "admin:" ++ entity.text.map underscored := by
  have colon : (str ":").map underscored = str ":" := by decide
  simp only [AdminEntity.text, List.map_append, map_underscored_of_not_mem formed.kind,
    map_underscored_of_not_mem formed.zid, colon]
  simp only [AdminEntity.nodeId, List.append_assoc]
  rfl

/-- Two ids are equal exactly if the entities look alike. -/
theorem AdminEntity.WellFormed.nodeId_eq_iff {entity other : AdminEntity}
    (formed : entity.WellFormed) (formed' : other.WellFormed) :
    entity.nodeId = other.nodeId ↔ List.Forall₂ LooksLike entity.text other.text := by
  rw [formed.nodeId_eq, formed'.nodeId_eq, List.append_cancel_left_eq, ← List.forall₂_eq_eq_eq,
    List.forall₂_map_left_iff, List.forall₂_map_right_iff]
  simp only [underscored_eq_iff]

theorem AdminEntity.nodeId_head (entity : AdminEntity) : entity.nodeId.head? = some 97 := by
  simp only [AdminEntity.nodeId, List.append_assoc]
  rw [List.head?_append_of_ne_nil _ (by decide)]
  rfl

theorem AdminEntity.nodeId_ne_adminNodeId (entity : AdminEntity) (mode zid : Str) :
    entity.nodeId ≠ adminNodeId mode zid :=
  ne_adminNodeId 97 entity.nodeId_head (by decide) mode zid

theorem topicId_ne_nodeId (topic : Str) (entity : AdminEntity) :
    str "topic:" ++ topic ≠ entity.nodeId := by
  intro same
  have first := entity.nodeId_head
  rw [← same, List.head?_append_of_ne_nil _ (by decide)] at first
  revert first
  decide

theorem topicId_ne_adminNodeId (topic mode zid : Str) :
    str "topic:" ++ topic ≠ adminNodeId mode zid :=
  ne_adminNodeId 116 rfl (by decide) mode zid

/-! Lookups and links. -/

section

variable {fromStr : Str → Option JsonValue} {entries : Std.TreeMap Str Str}
  {entity : AdminEntity}

/-- What stands under the id of an entity was made by entities with that id. -/
theorem nodeOf_nodeId {node : GraphNode}
    (found : nodeOf (adminOps fromStr entries) entity.nodeId = some node) :
    ∃ other ∈ parseAdminEntities entries, other.nodeId = entity.nodeId ∧
      node = quietNode other.nodeId other.kind other.kind other.expr false := by
  obtain ⟨member, same⟩ := nodeOf_eq_some found
  rcases List.mem_append.mp member with topology | declared
  · obtain ⟨object, -, made⟩ := List.mem_flatMap.mp topology
    obtain ⟨mode, zid, detail, rfl, -⟩ := objectOps_made made
    exact absurd same.symm (entity.nodeId_ne_adminNodeId mode zid)
  · obtain ⟨other, parsed, made⟩ := List.mem_flatMap.mp declared
    rcases entityOps_made made with rfl | rfl | rfl
    · exact absurd same.symm (entity.nodeId_ne_adminNodeId _ _)
    · exact ⟨other, parsed, same, rfl⟩
    · exact absurd same (topicId_ne_nodeId _ entity)

theorem entityOps_nodeId (entity : AdminEntity) :
    GraphOp.node (quietNode entity.nodeId entity.kind entity.kind entity.expr false) ∈
      entityOps entity :=
  List.mem_cons_of_mem _ List.mem_cons_self

theorem nodeOf_declared (parsed : entity ∈ parseAdminEntities entries) :
    (nodeOf (adminOps fromStr entries) entity.nodeId).isSome := by
  have made : GraphOp.node (quietNode entity.nodeId entity.kind entity.kind entity.expr false) ∈
      adminOps fromStr entries :=
    List.mem_append_right _ (List.mem_flatMap_of_mem parsed (entityOps_nodeId entity))
  exact nodeOf_isSome.mpr ⟨_, made, rfl⟩

/-- The link between a publisher or subscriber and its topic. -/
theorem topicOps_joins {link : GraphLink} (member : GraphOp.link link ∈ topicOps entity) :
    link.Joins entity.nodeId (str "topic:" ++ entity.expr) := by
  unfold topicOps at member
  split at member
  · simp only [List.mem_cons, reduceCtorEq, GraphOp.link.injEq, List.not_mem_nil, or_false,
      false_or] at member
    rw [member]
    split
    · exact Or.inl ⟨rfl, rfl⟩
    · exact Or.inr ⟨rfl, rfl⟩
  · cases member

theorem topicOps_linked (topics : entity.HasTopic) :
    ∃ link, GraphOp.link link ∈ topicOps entity := by
  unfold AdminEntity.HasTopic at topics
  rw [topicOps, if_pos topics]
  exact ⟨_, List.mem_cons_of_mem _ List.mem_cons_self⟩

/-- Links from the admin space between an entity's node and a topic are those of entities with its
id. -/
theorem adminOps_joins {link : GraphLink} {topic : Str}
    (member : GraphOp.link link ∈ adminOps fromStr entries)
    (joins : link.Joins entity.nodeId (str "topic:" ++ topic)) :
    ∃ other ∈ parseAdminEntities entries, other.nodeId = entity.nodeId ∧ other.expr = topic := by
  rcases List.mem_append.mp member with topology | declared
  · obtain ⟨object, -, pushed⟩ := List.mem_flatMap.mp topology
    obtain ⟨routerZid, -, -, -, session, -, pushed⟩ := objectOps_linked pushed
    obtain ⟨source, mode, zid, target⟩ := sessionOps_linked pushed
    rcases joins with ⟨same, -⟩ | ⟨-, same⟩
    · exact absurd (same.symm.trans source) (entity.nodeId_ne_adminNodeId _ _)
    · exact absurd (same.symm.trans target) (entity.nodeId_ne_adminNodeId _ _)
  · obtain ⟨other, parsed, pushed⟩ := List.mem_flatMap.mp declared
    simp only [entityOps, List.mem_cons, reduceCtorEq, GraphOp.link.injEq, false_or] at pushed
    rcases pushed with rfl | pushed
    · rcases joins with ⟨same, -⟩ | ⟨same, -⟩
      · exact absurd same.symm (entity.nodeId_ne_adminNodeId _ _)
      · exact absurd same.symm (topicId_ne_adminNodeId _ _ _)
    · refine ⟨other, parsed, ?_⟩
      rcases topicOps_joins pushed with ⟨source, target⟩ | ⟨source, target⟩
      · rcases joins with ⟨same, there⟩ | ⟨same, -⟩
        · exact ⟨source.symm.trans same, topicId_inj (target.symm.trans there)⟩
        · exact absurd (same.symm.trans source) (topicId_ne_nodeId _ _)
      · rcases joins with ⟨same, -⟩ | ⟨there, same⟩
        · exact absurd (source.symm.trans same) (topicId_ne_nodeId _ _)
        · exact ⟨target.symm.trans same, topicId_inj (source.symm.trans there)⟩

/-- The traffic knows no entity. -/
theorem GraphState.traffic_nodeId (s : GraphState) (nowMs : UInt64) (entity : AdminEntity) :
    (s.traffic nowMs).nodes[entity.nodeId]? = none := by
  rw [Std.TreeMap.getElem?_eq_none]
  intro present
  rcases (s.traffic_mem nowMs _).mp present with same | ⟨topic, -, same⟩
  · have first := entity.nodeId_head
    rw [same] at first
    revert first
    decide
  · exact topicId_ne_nodeId _ entity same.symm

theorem GraphState.traffic_not_joins {s : GraphState} {nowMs : UInt64} {link : GraphLink}
    (member : link ∈ (s.traffic nowMs).links) (topic : Str) :
    ¬ link.Joins entity.nodeId (str "topic:" ++ topic) := by
  rw [s.traffic_links nowMs] at member
  obtain ⟨stats, -, rfl⟩ := List.mem_map.mp member
  rintro (⟨same, -⟩ | ⟨-, same⟩)
  · have transport : str "zenoh" = entity.nodeId := same
    have first := entity.nodeId_head
    rw [← transport] at first
    revert first
    decide
  · exact topicId_ne_nodeId _ entity same

end

section

variable {entries : Std.TreeMap Str Str} {entity other : AdminEntity}

theorem parsed_formed (parsed : entity ∈ parseAdminEntities entries) : entity.WellFormed :=
  (mem_parseAdminEntities.mp parsed).1

theorem parsed_nodeId_eq_iff (parsed : entity ∈ parseAdminEntities entries)
    (parsed' : other ∈ parseAdminEntities entries) :
    entity.nodeId = other.nodeId ↔ List.Forall₂ LooksLike entity.text other.text :=
  (parsed_formed parsed).nodeId_eq_iff (parsed_formed parsed')

/-- Without lookalikes an id tells the expression. -/
theorem NoLookalikes.expr_eq (unlike : NoLookalikes (parseAdminEntities entries))
    (parsed : entity ∈ parseAdminEntities entries) (parsed' : other ∈ parseAdminEntities entries)
    (same : other.nodeId = entity.nodeId) : other.expr = entity.expr := by
  by_contra apart
  have alike := (parsed_nodeId_eq_iff parsed' parsed).mp same
  exact unlike other parsed' entity parsed alike (Or.inr (Or.inr apart))

end

section

variable {fromStr : Str → Option JsonValue} {s : GraphState} {nowMs : UInt64}
  {snap : GraphSnapshot} {entity : AdminEntity}

/-- An entity has a node under its id, made by an entity with that id. -/
theorem GraphState.snapshot_declared (returned : s.snapshot fromStr nowMs = some snap)
    (parsed : entity ∈ parseAdminEntities s.adminEntries) :
    ∃ other ∈ parseAdminEntities s.adminEntries, other.nodeId = entity.nodeId ∧
      quietNode other.nodeId other.kind other.kind other.expr false ∈ snap.nodes := by
  obtain ⟨graph, built, nodes, -⟩ := GraphState.snapshot_built returned
  have declared : (nodeOf (adminOps fromStr s.adminEntries) entity.nodeId).isSome :=
    nodeOf_declared parsed
  obtain ⟨node, found⟩ := Option.isSome_iff_exists.mp declared
  obtain ⟨other, parsed', same, rfl⟩ := nodeOf_nodeId found
  refine ⟨other, parsed', same, ?_⟩
  rw [nodes, mem_values]
  refine ⟨entity.nodeId, ?_⟩
  rw [built.nodes, s.traffic_nodeId nowMs, Option.none_or, found]

/-- A publisher or subscriber is linked to its topic. -/
theorem GraphState.snapshot_linked (returned : s.snapshot fromStr nowMs = some snap)
    (parsed : entity ∈ parseAdminEntities s.adminEntries) (topics : entity.HasTopic) :
    ∃ link ∈ snap.links, link.Joins entity.nodeId (str "topic:" ++ entity.expr) := by
  obtain ⟨graph, built, -, links⟩ := GraphState.snapshot_built returned
  obtain ⟨link, pushed⟩ := topicOps_linked topics
  have member : GraphOp.link link ∈ entityOps entity :=
    List.mem_cons_of_mem _ (List.mem_cons_of_mem _ (List.mem_cons_of_mem _ pushed))
  refine ⟨link, ?_, topicOps_joins pushed⟩
  rw [links, built.links]
  exact List.mem_append_right _
    (mem_links.mpr (List.mem_append_right _ (List.mem_flatMap_of_mem parsed member)))

/-- A link between an entity's node and a topic is that of an entity with its id. -/
theorem GraphState.snapshot_joins (returned : s.snapshot fromStr nowMs = some snap)
    {link : GraphLink} (shown : link ∈ snap.links) {topic : Str}
    (joins : link.Joins entity.nodeId (str "topic:" ++ topic)) :
    ∃ other ∈ parseAdminEntities s.adminEntries, other.nodeId = entity.nodeId ∧
      other.expr = topic := by
  obtain ⟨graph, built, -, links⟩ := GraphState.snapshot_built returned
  rw [links, built.links] at shown
  rcases List.mem_append.mp shown with traffic | pushed
  · exact absurd joins (GraphState.traffic_not_joins traffic topic)
  · exact adminOps_joins (mem_links.mp pushed) joins

end

/-- In a snapshot, different declared entities have nodes of their own, which show and are linked to
their own expressions, if and only if no two different ones look alike. -/
theorem admin_declarations_distinct_iff (fromStr : Str → Option JsonValue) (s : GraphState)
    (nowMs : UInt64) (snap : GraphSnapshot) (returned : s.snapshot fromStr nowMs = some snap) :
    DeclarationsDistinct (parseAdminEntities s.adminEntries) snap ↔
      NoLookalikes (parseAdminEntities s.adminEntries) := by
  constructor
  · intro distinct entity parsed other parsed' alike differs
    apply distinct.ids entity parsed other parsed' differs
    exact (parsed_nodeId_eq_iff parsed parsed').mpr alike
  · intro unlike
    constructor
    · intro entity parsed other parsed' differs same
      exact unlike entity parsed other parsed' ((parsed_nodeId_eq_iff parsed parsed').mp same)
        differs
    · intro entity parsed _
      obtain ⟨other, parsed', same, shown⟩ := GraphState.snapshot_declared returned parsed
      exact ⟨_, shown, same, unlike.expr_eq parsed parsed' same⟩
    · intro entity parsed topics
      refine ⟨GraphState.snapshot_linked returned parsed topics, ?_⟩
      intro link shown topic joins
      obtain ⟨other, parsed', same, rfl⟩ := GraphState.snapshot_joins returned shown joins
      exact unlike.expr_eq parsed parsed' same

/-- A state whose admin space declares these entities. -/
def declaringState (entities : List AdminEntity) : GraphState :=
  (GraphState.new (str "c") (str "**")).run
    [.adminPoll (entities.map fun entity => (entity.key, [])) 10]

/-- A publisher and a subscriber of one key. -/
def publisherAndSubscriber : List AdminEntity :=
  [⟨str "abc", str "router", str "publisher", str "a/b"⟩,
    ⟨str "abc", str "router", str "subscriber", str "a/b"⟩]

theorem admin_declarations_distinct_iff_both :
    ∃ snap, (declaringState publisherAndSubscriber).snapshot (fun _ => none) 20 = some snap ∧
      (DeclarationsDistinct
          (parseAdminEntities (declaringState publisherAndSubscriber).adminEntries) snap ↔
        NoLookalikes (parseAdminEntities (declaringState publisherAndSubscriber).adminEntries)) := by
  have returns : ((declaringState publisherAndSubscriber).snapshot (fun _ => none) 20).isSome := by
    decide
  obtain ⟨snap, returned⟩ := Option.isSome_iff_exists.mp returns
  exact ⟨snap, returned, admin_declarations_distinct_iff (fun _ => none)
    (declaringState publisherAndSubscriber) 20 snap returned⟩

/-- Publishers of `a/b` and of `a_b`. -/
def lookalikes : List AdminEntity :=
  [⟨str "abc", str "router", str "publisher", str "a/b"⟩,
    ⟨str "abc", str "router", str "publisher", str "a_b"⟩]

/-- The two share one node. -/
theorem admin_declarations_merged :
    ∃ snap, (declaringState lookalikes).snapshot (fun _ => none) 20 = some snap ∧
      ¬ DeclarationsDistinct (parseAdminEntities (declaringState lookalikes).adminEntries) snap := by
  have returns : ((declaringState lookalikes).snapshot (fun _ => none) 20).isSome := by decide
  obtain ⟨snap, returned⟩ := Option.isSome_iff_exists.mp returns
  refine ⟨snap, returned, ?_⟩
  intro distinct
  have slashed : ⟨str "abc", str "router", str "publisher", str "a/b"⟩ ∈
      parseAdminEntities (declaringState lookalikes).adminEntries :=
    mem_parseAdminEntities.mpr ⟨⟨by decide, by decide, by decide, by decide⟩, by decide⟩
  have flat : ⟨str "abc", str "router", str "publisher", str "a_b"⟩ ∈
      parseAdminEntities (declaringState lookalikes).adminEntries :=
    mem_parseAdminEntities.mpr ⟨⟨by decide, by decide, by decide, by decide⟩, by decide⟩
  exact distinct.ids _ slashed _ flat (by decide) (by decide)

end Csyn
