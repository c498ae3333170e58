import Csyn.Registry

set_option autoImplicit false

/- What `csyn_init` leaves behind. Each topic gets its catalog entry before its size is compared
with it, and the loop returns at the first topic that fails. -/
namespace Csyn

/-- A topic as `CSYN_TOPIC_DEFINE` places it in the section. -/
def TopicDeclaration.define (d : TopicDeclaration) : CsynTopic :=
  csynTopicDefine d.key d.dir d.maxSize

section

variable (synapseTopicByKey : Str → Option SynapseTopicInfo)

/-- The topic once `csyn_init` has looked its key up. -/
def TopicDeclaration.resolved (d : TopicDeclaration) : CsynTopic :=
  { d.define with info := resolveInfo synapseTopicByKey d.key }

/-- No entry of the catalog, nor the legacy one, is for this key. -/
def TopicDeclaration.Unknown (d : TopicDeclaration) : Prop :=
  resolveInfo synapseTopicByKey d.key = none

/-- The entry has a fixed layout of another size. -/
def TopicDeclaration.MisSized (d : TopicDeclaration) : Prop :=
  ∃ info, resolveInfo synapseTopicByKey d.key = some info ∧ info.fixedLayout = true ∧
    info.payloadSize ≠ d.maxSize.toNat

/-- The topic resolves and has the size of its entry. -/
def TopicDeclaration.Passes (d : TopicDeclaration) : Prop :=
  ∃ info, resolveInfo synapseTopicByKey d.key = some info ∧
    (info.fixedLayout = true → info.payloadSize = d.maxSize.toNat)

end

/-- The slot has the size of the layout it is for. -/
def CsynTopic.WellSized (topic : CsynTopic) : Prop :=
  ∀ info, topic.info = some info → info.fixedLayout = true →
    info.payloadSize = topic.maxSize.toNat

section

variable {synapseTopicByKey : Str → Option SynapseTopicInfo} {d : TopicDeclaration}

theorem TopicDeclaration.cases (synapseTopicByKey : Str → Option SynapseTopicInfo)
    (d : TopicDeclaration) : d.Unknown synapseTopicByKey ∨ d.MisSized synapseTopicByKey ∨
      d.Passes synapseTopicByKey := by
  cases resolved : resolveInfo synapseTopicByKey d.key with
  | none => exact Or.inl resolved
  | some info =>
      by_cases sized : info.fixedLayout = true → info.payloadSize = d.maxSize.toNat
      · exact Or.inr (Or.inr ⟨info, resolved, sized⟩)
      · rw [Classical.not_imp] at sized
        exact Or.inr (Or.inl ⟨info, resolved, sized.1, sized.2⟩)

theorem TopicDeclaration.Passes.not_misSized (passes : d.Passes synapseTopicByKey) :
    ¬ d.MisSized synapseTopicByKey := by
  rintro ⟨other, found, fixed, differs⟩
  obtain ⟨info, resolved, sized⟩ := passes
  rw [resolved, Option.some.injEq] at found
  subst found
  exact differs (sized fixed)

theorem TopicDeclaration.Passes.wellSized (passes : d.Passes synapseTopicByKey) :
    (d.resolved synapseTopicByKey).WellSized := by
  obtain ⟨info, resolved, sized⟩ := passes
  intro other found fixed
  have same : resolveInfo synapseTopicByKey d.key = some other := found
  rw [resolved, Option.some.injEq] at same
  subst same
  exact sized fixed

/-- A topic that passes is resolved, and the loop goes on. -/
theorem csynInit_passes (passes : d.Passes synapseTopicByKey) (rest : List CsynTopic) :
    csynInit synapseTopicByKey (d.define :: rest) =
      ((csynInit synapseTopicByKey rest).1,
        d.resolved synapseTopicByKey :: (csynInit synapseTopicByKey rest).2) := by
  obtain ⟨info, resolved, sized⟩ := passes
  have looked : resolveInfo synapseTopicByKey d.define.key = some info := resolved
  rw [csynInit, TopicDeclaration.resolved]
  simp only [looked]
  rw [if_neg, ← resolved]
  rintro ⟨fixed, differs⟩
  exact differs (sized fixed)

/-- At a topic without an entry the loop ends, with `info` left NULL. -/
theorem csynInit_unknown (unknown : d.Unknown synapseTopicByKey) (rest : List CsynTopic) :
    csynInit synapseTopicByKey (d.define :: rest) =
      (some (.missingFromCatalog d.key), d.define :: rest) := by
  have looked : resolveInfo synapseTopicByKey d.define.key = none := unknown
  rw [csynInit]
  simp only [looked]
  rfl

/-- At a topic of another size the loop ends too, but its `info` is set. -/
theorem csynInit_misSized (misSized : d.MisSized synapseTopicByKey) (rest : List CsynTopic) :
    ∃ size, csynInit synapseTopicByKey (d.define :: rest) =
      (some (.sizeMismatch d.key size d.maxSize), d.resolved synapseTopicByKey :: rest) := by
  obtain ⟨info, resolved, fixed, differs⟩ := misSized
  have looked : resolveInfo synapseTopicByKey d.define.key = some info := resolved
  refine ⟨info.payloadSize, ?_⟩
  rw [csynInit, TopicDeclaration.resolved]
  simp only [looked]
  rw [if_pos ⟨fixed, differs⟩, ← resolved]
  rfl

theorem TopicDeclaration.define_wellSized (d : TopicDeclaration) : d.define.WellSized := by
  rintro info ⟨⟩

end

section

variable (synapseTopicByKey : Str → Option SynapseTopicInfo)

/-- `csyn_init` returns 0 exactly for a registry all of whose topics pass. -/
theorem csynInit_returns_iff (declarations : List TopicDeclaration) :
    (csynInit synapseTopicByKey (declarations.map TopicDeclaration.define)).1 = none ↔
      ∀ d ∈ declarations, d.Passes synapseTopicByKey := by
  induction declarations with
  | nil => simp [csynInit]
  | cons d rest ih =>
      rw [List.map_cons, List.forall_mem_cons]
      rcases d.cases synapseTopicByKey with unknown | misSized | passes
      · rw [csynInit_unknown unknown]
        constructor
        · rintro ⟨⟩
        · rintro ⟨⟨info, resolved, -⟩, -⟩
          rw [TopicDeclaration.Unknown, resolved] at unknown
          cases unknown
      · obtain ⟨size, result⟩ := csynInit_misSized misSized (rest.map TopicDeclaration.define)
        rw [result]
        constructor
        · rintro ⟨⟩
        · rintro ⟨passes, -⟩
          exact absurd misSized passes.not_misSized
      · rw [csynInit_passes passes]
        show (csynInit synapseTopicByKey (rest.map TopicDeclaration.define)).1 = none ↔ _
        rw [ih]
        exact ⟨fun later => ⟨passes, later⟩, fun both => both.2⟩

/-- Then it has resolved every topic. -/
theorem csynInit_registry {declarations : List TopicDeclaration} {registry : List CsynTopic}
    (accepted : csynInit synapseTopicByKey (declarations.map TopicDeclaration.define) =
      (none, registry)) :
    registry = declarations.map (TopicDeclaration.resolved synapseTopicByKey) := by
  have all := (csynInit_returns_iff synapseTopicByKey declarations).mp
    (congrArg Prod.fst accepted)
  have stored : (csynInit synapseTopicByKey (declarations.map TopicDeclaration.define)).2 =
      declarations.map (TopicDeclaration.resolved synapseTopicByKey) := by
    clear accepted
    induction declarations with
    | nil => rfl
    | cons d rest ih =>
        rw [List.forall_mem_cons] at all
        rw [List.map_cons, List.map_cons, csynInit_passes all.1]
        exact congrArg _ (ih all.2)
  rw [← stored, accepted]

/-- A registry for which `csyn_init` returned 0, whatever has been published on it since. -/
def Accepted (registry : List CsynTopic) : Prop :=
  ∃ (declarations : List TopicDeclaration) (boot : List CsynTopic),
    csynInit synapseTopicByKey (declarations.map TopicDeclaration.define) = (none, boot) ∧
      SameDeclarations registry boot

variable {synapseTopicByKey} in
/-- Every topic of an accepted registry has its entry, and its size. -/
theorem Accepted.topic {registry : List CsynTopic} {topic : CsynTopic}
    (accepted : Accepted synapseTopicByKey registry) (member : topic ∈ registry) :
    ∃ info, topic.info = some info ∧ resolveInfo synapseTopicByKey topic.key = some info ∧
      topic.WellSized := by
  obtain ⟨declarations, boot, init, same⟩ := accepted
  have all := (csynInit_returns_iff synapseTopicByKey declarations).mp (congrArg Prod.fst init)
  have resolved := csynInit_registry synapseTopicByKey init
  subst resolved
  obtain ⟨i, present⟩ := List.getElem?_of_mem member
  obtain ⟨before, there, declared⟩ := same.symm.get present
  rw [List.getElem?_map, Option.map_eq_some_iff] at there
  obtain ⟨d, place, rfl⟩ := there
  have passes := all d (List.mem_of_getElem? place)
  obtain ⟨info, looked, -⟩ := id passes
  have own : topic.info = resolveInfo synapseTopicByKey d.key := declared.info.symm
  refine ⟨info, own.trans looked, ?_, ?_⟩
  · rw [show topic.key = d.key from declared.key.symm]
    exact looked
  · intro other found fixed
    rw [← declared.maxSize]
    exact passes.wellSized other (declared.info.trans found) fixed

/-- The first topic that fails has an entry of another size. -/
def StopsAtMisSized (declarations : List TopicDeclaration) : Prop :=
  ∃ before d rest, declarations = before ++ d :: rest ∧
    (∀ earlier ∈ before, earlier.Passes synapseTopicByKey) ∧ d.MisSized synapseTopicByKey

theorem stopsAtMisSized_cons (d : TopicDeclaration) (rest : List TopicDeclaration) :
    StopsAtMisSized synapseTopicByKey (d :: rest) ↔ d.MisSized synapseTopicByKey ∨
      d.Passes synapseTopicByKey ∧ StopsAtMisSized synapseTopicByKey rest := by
  constructor
  · rintro ⟨before, stop, after, split, passed, misSized⟩
    cases before with
    | nil =>
        cases split
        exact Or.inl misSized
    | cons first before =>
        cases split
        rw [List.forall_mem_cons] at passed
        exact Or.inr ⟨passed.1, before, stop, after, rfl, passed.2, misSized⟩
  · rintro (misSized | ⟨passes, before, stop, after, rfl, passed, misSized⟩)
    · exact ⟨[], d, rest, rfl, by simp, misSized⟩
    · exact ⟨d :: before, stop, after, rfl, List.forall_mem_cons.mpr ⟨passes, passed⟩, misSized⟩

/-- Whatever `csyn_init` returned, the topics with an entry have its size, and it returned 0
exactly if all passed. -/
structure InitSound (declarations : List TopicDeclaration) : Prop where
  live : ∀ topic ∈ (csynInit synapseTopicByKey (declarations.map TopicDeclaration.define)).2,
    topic.WellSized
  returns : (csynInit synapseTopicByKey (declarations.map TopicDeclaration.define)).1 = none ↔
    ∀ d ∈ declarations, ∃ info, resolveInfo synapseTopicByKey d.key = some info ∧
      (info.fixedLayout = true → info.payloadSize = d.maxSize.toNat)

theorem csynInit_live_iff (declarations : List TopicDeclaration) :
    (∀ topic ∈ (csynInit synapseTopicByKey (declarations.map TopicDeclaration.define)).2,
      topic.WellSized) ↔ ¬ StopsAtMisSized synapseTopicByKey declarations := by
  have untouched : ∀ rest : List TopicDeclaration,
      ∀ topic ∈ rest.map TopicDeclaration.define, topic.WellSized := by
    intro rest topic member
    obtain ⟨d, -, rfl⟩ := List.mem_map.mp member
    exact d.define_wellSized
  induction declarations with
  | nil =>
      constructor
      · rintro - ⟨before, d, rest, split, -⟩
        exact absurd split (by simp)
      · rintro - topic ⟨⟩
  | cons d rest ih =>
      rw [List.map_cons, stopsAtMisSized_cons]
      rcases d.cases synapseTopicByKey with unknown | misSized | passes
      · rw [csynInit_unknown unknown]
        constructor
        · rintro - (⟨info, resolved, -⟩ | ⟨⟨info, resolved, -⟩, -⟩)
          all_goals
            rw [TopicDeclaration.Unknown, resolved] at unknown
            cases unknown
        · intro _
          exact untouched (d :: rest)
      · obtain ⟨size, result⟩ := csynInit_misSized misSized (rest.map TopicDeclaration.define)
        rw [result]
        constructor
        · intro live
          obtain ⟨info, resolved, fixed, differs⟩ := misSized
          exact absurd (live _ List.mem_cons_self info resolved fixed) differs
        · intro stops
          exact absurd (Or.inl misSized) stops
      · rw [csynInit_passes passes]
        show (∀ topic ∈ d.resolved synapseTopicByKey :: _, topic.WellSized) ↔ _
        rw [List.forall_mem_cons]
        constructor
        · rintro ⟨-, later⟩ (misSized | ⟨-, stops⟩)
          · exact passes.not_misSized misSized
          · exact ih.mp later stops
        · intro stops
          exact ⟨passes.wellSized, ih.mpr fun later => stops (Or.inr ⟨passes, later⟩)⟩

/-- `csyn_init` leaves no mis-sized topic live if and only if it does not stop at one. -/
theorem csynInit_sound_iff (declarations : List TopicDeclaration) :
    InitSound synapseTopicByKey declarations ↔
      ¬ StopsAtMisSized synapseTopicByKey declarations := by
  rw [← csynInit_live_iff]
  exact ⟨fun sound => sound.live,
    fun live => ⟨live, csynInit_returns_iff synapseTopicByKey declarations⟩⟩

end

/-- A legacy command topic that was declared with 41 bytes. -/
def longCommand : List TopicDeclaration := [⟨str "cub1/vehicle_command", .tx, 41⟩]

/-- `csyn_init` returns `-EINVAL` and leaves the topic with its entry of 40 bytes. -/
theorem csynInit_leaves_misSized :
    (csynInit (fun _ => none) (longCommand.map TopicDeclaration.define)).1 =
        some (.sizeMismatch (str "cub1/vehicle_command") 40 41) ∧
      (csynInit (fun _ => none) (longCommand.map TopicDeclaration.define)).2.map
        (fun topic => topic.info) = [some gVehicleCommandInfo] ∧
      ¬ InitSound (fun _ => none) longCommand := by
  refine ⟨by decide, by decide, ?_⟩
  intro sound
  have sized := sound.live _ List.mem_cons_self gVehicleCommandInfo (by decide) rfl
  exact absurd sized (by decide)

end Csyn
