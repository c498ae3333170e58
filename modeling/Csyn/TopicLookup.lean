import Csyn.RegistryInit

set_option autoImplicit false

/- Which topic a name finds. `csyn_topic_find` compares each topic with its declared key, its
catalog name and its catalog key in one pass, so an earlier topic can hide a later one. -/
namespace Csyn

/-- The first topic in section order that answers to the name is found. -/
theorem csynTopicFind_iff {registry : List CsynTopic} {name : Str} {i : Nat} :
    csynTopicFind registry (some name) = some i ↔
      (∃ topic, registry[i]? = some topic ∧ topic.answersTo name = true) ∧
        ∀ (j : Nat) other, j < i → registry[j]? = some other → other.answersTo name = false := by
  rw [csynTopicFind, List.findIdx?_eq_some_iff_getElem]
  constructor
  · rintro ⟨inside, answers, first⟩
    refine ⟨⟨_, List.getElem?_eq_getElem inside, answers⟩, ?_⟩
    intro j other before present
    obtain ⟨inside', rfl⟩ := List.getElem?_eq_some_iff.mp present
    exact Bool.not_eq_true _ ▸ first j before
  · rintro ⟨⟨topic, present, answers⟩, first⟩
    obtain ⟨inside, rfl⟩ := List.getElem?_eq_some_iff.mp present
    refine ⟨inside, answers, ?_⟩
    intro j before
    rw [Bool.not_eq_true]
    exact first j _ before (List.getElem?_eq_getElem (Nat.lt_trans before inside))

theorem CsynTopic.answersTo_own (topic : CsynTopic) : topic.answersTo topic.key = true := by
  rw [CsynTopic.answersTo, beq_self_eq_true, Bool.true_or]

/-- Besides its declared key a topic answers to the name and the key of its entry. -/
theorem CsynTopic.answersTo_other {topic : CsynTopic} {name : Str} (differs : topic.key ≠ name) :
    topic.answersTo name = true ↔
      ∃ info, topic.info = some info ∧ (info.name = name ∨ info.key = name) := by
  rw [CsynTopic.answersTo, beq_false_of_ne (Ne.symm differs), Bool.false_or]
  cases topic.info with
  | none => simp
  | some info =>
      simp only [Bool.or_eq_true, beq_iff_eq, Option.some.injEq, exists_eq_left']
      rw [eq_comm, @eq_comm _ name info.key]

/-- Every topic is found by its declared key. -/
def ReachableByKey (registry : List CsynTopic) : Prop :=
  ∀ (i : Nat) topic, registry[i]? = some topic →
    csynTopicFind registry (some topic.key) = some i

/-- The declared key of a topic is the catalog name or the catalog key of an earlier one. -/
def Shadowed (synapseTopicByKey : Str → Option SynapseTopicInfo)
    (declarations : List TopicDeclaration) : Prop :=
  ∃ (j i : Nat) (earlier d : TopicDeclaration) (info : SynapseTopicInfo), j < i ∧
    declarations[j]? = some earlier ∧ declarations[i]? = some d ∧
    resolveInfo synapseTopicByKey earlier.key = some info ∧ (info.name = d.key ∨ info.key = d.key)

/-- In an accepted registry with distinct keys every topic is found by its own key if and only if
no earlier topic has it for its catalog name or key. -/
theorem topics_found_by_key_iff (synapseTopicByKey : Str → Option SynapseTopicInfo)
    (declarations : List TopicDeclaration) (registry : List CsynTopic)
    (accepted : csynInit synapseTopicByKey (declarations.map TopicDeclaration.define) =
      (none, registry))
    (distinct : (declarations.map fun d => d.key).Nodup) :
    ReachableByKey registry ↔ ¬ Shadowed synapseTopicByKey declarations := by
  have resolved := csynInit_registry synapseTopicByKey accepted
  subst resolved
  have apart : ∀ (j i : Nat) earlier d, j < i → declarations[j]? = some earlier →
      declarations[i]? = some d → earlier.key ≠ d.key := by
    intro j i earlier d before first second same
    have inside := (List.getElem?_eq_some_iff.mp first).1
    have keys : (declarations.map fun d => d.key)[j]? = (declarations.map fun d => d.key)[i]? := by
      rw [List.getElem?_map, List.getElem?_map, first, second, Option.map_some, Option.map_some,
        same]
    have equal := (List.getElem?_inj (by rw [List.length_map]; exact inside) distinct).mp keys
    omega
  constructor
  · rintro reachable ⟨j, i, earlier, d, info, before, first, second, looked, names⟩
    have found := reachable i (d.resolved synapseTopicByKey) (by
      rw [List.getElem?_map, second, Option.map_some])
    have silent := (csynTopicFind_iff.mp found).2 j (earlier.resolved synapseTopicByKey) before (by
      rw [List.getElem?_map, first, Option.map_some])
    have answers : (earlier.resolved synapseTopicByKey).answersTo d.key = true :=
      (CsynTopic.answersTo_other (apart j i earlier d before first second)).mpr
        ⟨info, looked, names⟩
    have silent' : (earlier.resolved synapseTopicByKey).answersTo d.key = false := silent
    rw [answers] at silent'
    cases silent'
  · intro clear i topic present
    apply csynTopicFind_iff.mpr
    refine ⟨⟨topic, present, topic.answersTo_own⟩, ?_⟩
    intro j other before present'
    rw [List.getElem?_map, Option.map_eq_some_iff] at present present'
    obtain ⟨d, second, rfl⟩ := present
    obtain ⟨earlier, first, rfl⟩ := present'
    rw [← Bool.not_eq_true]
    intro answers
    obtain ⟨info, looked, names⟩ :=
      (CsynTopic.answersTo_other (apart j i earlier d before first second)).mp answers
    exact clear ⟨j, i, earlier, d, info, before, first, second, looked, names⟩

def fleetAttitudeInfo : SynapseTopicInfo where
  id := 3
  name := str "AttitudeEstimate"
  key := str "att"
  payloadSize := 2
  wireType := some (str "synapse.topic.AttitudeEstimateData")
  schemaHash := some (str "00112233445566778899aabbccddeeff")
  fixedLayout := true

/-- A catalog with the one topic "att". -/
def fleetCatalog (key : Str) : Option SynapseTopicInfo :=
  if keySegment key = str "att" then some fleetAttitudeInfo else none

/-- The own attitude before that of another vehicle. -/
def ownFirst : List TopicDeclaration := [⟨str "att", .tx, 2⟩, ⟨str "cub2/att", .rx, 2⟩]

theorem topics_found_by_key_iff_own_first :
    ∃ registry, csynInit fleetCatalog (ownFirst.map TopicDeclaration.define) =
        (none, registry) ∧ ReachableByKey registry := by
  refine ⟨_, rfl, (topics_found_by_key_iff fleetCatalog ownFirst _ rfl (by decide)).mpr ?_⟩
  rintro ⟨j, i, earlier, d, info, before, first, second, looked, names⟩
  have inside : i < 2 := (List.getElem?_eq_some_iff.mp second).1
  have single : j = 0 ∧ i = 1 := by omega
  obtain ⟨rfl, rfl⟩ := single
  cases first
  cases second
  cases looked
  exact absurd names (by decide)

/-- With the two the other way round, "att" finds the topic of the other vehicle. -/
theorem topic_hidden_by_earlier :
    ∃ registry, csynInit fleetCatalog (ownFirst.reverse.map TopicDeclaration.define) =
        (none, registry) ∧ registry.map (fun topic => topic.key) = [str "cub2/att", str "att"] ∧
      csynTopicFind registry (some (str "att")) = some 0 ∧ ¬ ReachableByKey registry := by
  refine ⟨_, rfl, rfl, by decide, ?_⟩
  intro reachable
  have found := reachable 1 _ rfl
  exact absurd found (by decide)

end Csyn
