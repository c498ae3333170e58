import Mathlib.Data.List.Forall2
import Csyn.Topic

set_option autoImplicit false

/- The registry as samples arrive: what is declared never changes, so neither does what
`csyn_topic_find` and `csyn_topic_by_catalog_id` return. -/
namespace Csyn

/-- The current sample, its length and the generation are those of another state. -/
structure CsynTopic.SameStore (topic before : CsynTopic) : Prop where
  slots : topic.slots = before.slots
  lengths : topic.lengths = before.lengths
  generation : topic.generation = before.generation

/-- Nothing about how a topic is declared differs. -/
structure CsynTopic.SameDeclaration (topic before : CsynTopic) : Prop where
  key : topic.key = before.key
  info : topic.info = before.info
  dir : topic.dir = before.dir
  maxSize : topic.maxSize = before.maxSize

theorem CsynTopic.SameStore.refl (topic : CsynTopic) : topic.SameStore topic := ⟨rfl, rfl, rfl⟩

theorem CsynTopic.SameDeclaration.refl (topic : CsynTopic) : topic.SameDeclaration topic :=
  ⟨rfl, rfl, rfl, rfl⟩

theorem CsynTopic.SameDeclaration.symm {a b : CsynTopic} (same : a.SameDeclaration b) :
    b.SameDeclaration a :=
  ⟨same.key.symm, same.info.symm, same.dir.symm, same.maxSize.symm⟩

theorem CsynTopic.SameDeclaration.trans {a b c : CsynTopic} (first : a.SameDeclaration b)
    (second : b.SameDeclaration c) : a.SameDeclaration c :=
  ⟨first.key.trans second.key, first.info.trans second.info, first.dir.trans second.dir,
    first.maxSize.trans second.maxSize⟩

theorem csynTopicPublish_sameDeclaration (topic : CsynTopic) (buf : Option (List UInt8)) :
    (csynTopicPublish topic buf).2.SameDeclaration topic := by
  obtain ⟨key, info, dir, maxSize⟩ := csynTopicPublish_declaration topic buf
  exact ⟨key, info, dir, maxSize⟩

theorem CsynTopic.SameDeclaration.accepts {topic before : CsynTopic}
    (same : topic.SameDeclaration before) (buf : Option (List UInt8)) :
    topic.accepts buf = before.accepts buf := by
  cases buf with
  | none => rfl
  | some bytes => rw [CsynTopic.accepts, CsynTopic.accepts, same.maxSize]

/-- The registries hold the same declarations in the same order. -/
def SameDeclarations (registry before : List CsynTopic) : Prop :=
  List.Forall₂ CsynTopic.SameDeclaration registry before

theorem SameDeclarations.refl (registry : List CsynTopic) : SameDeclarations registry registry :=
  List.forall₂_same.mpr fun topic _ => .refl topic

theorem SameDeclarations.trans {a b c : List CsynTopic} (first : SameDeclarations a b)
    (second : SameDeclarations b c) : SameDeclarations a c := by
  induction first generalizing c with
  | nil => exact second
  | cons head tail ih =>
      cases second with
      | cons head' tail' => exact .cons (head.trans head') (ih tail')

theorem SameDeclarations.symm {a b : List CsynTopic} (same : SameDeclarations a b) :
    SameDeclarations b a :=
  same.flip.imp fun _ _ declared => declared.symm

theorem SameDeclarations.get {registry before : List CsynTopic}
    (same : SameDeclarations registry before) {i : Nat} {topic : CsynTopic}
    (found : before[i]? = some topic) :
    ∃ now, registry[i]? = some now ∧ now.SameDeclaration topic := by
  obtain ⟨sameLength, position⟩ := List.forall₂_iff_get.mp same
  obtain ⟨inside, rfl⟩ := List.getElem?_eq_some_iff.mp found
  have present : i < registry.length := sameLength ▸ inside
  exact ⟨_, List.getElem?_eq_getElem present, position i present inside⟩

/-- Replacing one topic by a later state of it. -/
theorem sameDeclarations_set {registry : List CsynTopic} {i : Nat} {topic after : CsynTopic}
    (found : registry[i]? = some topic) (same : after.SameDeclaration topic) :
    SameDeclarations (registry.set i after) registry := by
  induction registry generalizing i with
  | nil => cases found
  | cons head tail ih =>
      cases i with
      | zero =>
          rw [List.getElem?_cons_zero, Option.some.injEq] at found
          subst found
          exact .cons same (SameDeclarations.refl tail)
      | succ i =>
          rw [List.getElem?_cons_succ] at found
          exact .cons (.refl head) (ih found)

theorem findIdx?_congr {registry before : List CsynTopic} {p : CsynTopic → Bool}
    (declared : ∀ topic earlier : CsynTopic, topic.SameDeclaration earlier → p topic = p earlier)
    (same : SameDeclarations registry before) : registry.findIdx? p = before.findIdx? p := by
  induction same with
  | nil => rfl
  | cons head tail ih =>
      rw [List.findIdx?_cons, List.findIdx?_cons, declared _ _ head, ih]

theorem csynTopicFind_congr {registry before : List CsynTopic}
    (same : SameDeclarations registry before) (name : Option Str) :
    csynTopicFind registry name = csynTopicFind before name := by
  cases name with
  | none => rfl
  | some name =>
      refine findIdx?_congr ?_ same
      intro topic earlier declared
      rw [CsynTopic.answersTo, CsynTopic.answersTo, declared.key, declared.info]

theorem csynTopicByCatalogId_congr {registry before : List CsynTopic}
    (same : SameDeclarations registry before) (id : UInt16) :
    csynTopicByCatalogId registry id = csynTopicByCatalogId before id := by
  refine findIdx?_congr ?_ same
  intro topic earlier declared
  rw [CsynTopic.hasCatalogId, CsynTopic.hasCatalogId, declared.info]

/-- A found topic is in the registry and answers to the name. -/
theorem csynTopicFind_some {registry : List CsynTopic} {name : Str} {i : Nat}
    (found : csynTopicFind registry (some name) = some i) :
    ∃ topic, registry[i]? = some topic ∧ topic.answersTo name = true := by
  obtain ⟨inside, answers, -⟩ := List.findIdx?_eq_some_iff_getElem.mp found
  exact ⟨_, List.getElem?_eq_getElem inside, answers⟩

/-! One sample offered to the store. -/

/-- An accepted sample moves the generation. -/
theorem csynTopicPublish_generation_ne {topic : CsynTopic} {bytes : List UInt8}
    (fits : topic.accepts (some bytes) = true) :
    (csynTopicPublish topic (some bytes)).2.generation ≠ topic.generation := by
  rw [csynTopicPublish_accepted fits]
  intro same
  have moved : topic.generation + 1 = topic.generation + 0 := by
    rw [UInt32.add_zero]
    exact same
  exact absurd ((UInt32.add_right_inj _).mp moved) (by decide)

/-- What was just published is what a copy returns. -/
theorem csynTopicCopy_publish {topic : CsynTopic} {bytes : List UInt8} {bufSize : Nat}
    (fits : topic.accepts (some bytes) = true) (live : topic.generation + 1 ≠ 0)
    (room : bytes.length ≤ bufSize) :
    csynTopicCopy (csynTopicPublish topic (some bytes)).2 bufSize =
      some (bytes, topic.generation + 1) := by
  obtain ⟨size, nonzero⟩ := CsynTopic.accepts_length fits
  rw [csynTopicPublish_accepted fits]
  unfold csynTopicCopy
  dsimp only
  rw [if_neg live, Function.update_self, if_neg]
  · rw [size]
    exact congrArg (fun loaded => some (loaded, _)) (ByteMemory.load_storeBytes _ _ _)
  · rw [not_or]
    exact ⟨nonzero, by omega⟩

/-! The registry with its stores. -/

/-- `csyn_topic_publish` on a topic of the registry. -/
def publishAt (registry : List CsynTopic) (i : Nat) (buf : Option (List UInt8)) :
    List CsynTopic :=
  match registry[i]? with
  | none => registry
  | some topic => registry.set i (csynTopicPublish topic buf).2

theorem publishAt_sameDeclarations (registry : List CsynTopic) (i : Nat)
    (buf : Option (List UInt8)) : SameDeclarations (publishAt registry i buf) registry := by
  unfold publishAt
  split
  · exact .refl registry
  · rename_i topic present
    exact sameDeclarations_set present (csynTopicPublish_sameDeclaration topic buf)

theorem publishAt_self {registry : List CsynTopic} {i : Nat} {topic : CsynTopic}
    {buf : Option (List UInt8)} (present : registry[i]? = some topic) :
    (publishAt registry i buf)[i]? = some (csynTopicPublish topic buf).2 := by
  unfold publishAt
  rw [present]
  exact List.getElem?_set_self (List.getElem?_eq_some_iff.mp present).1

theorem publishAt_other {registry : List CsynTopic} {i j : Nat} (buf : Option (List UInt8))
    (different : i ≠ j) : (publishAt registry i buf)[j]? = registry[j]? := by
  unfold publishAt
  split
  · rfl
  · exact List.getElem?_set_ne different

/-- Both slots are within their size. -/
def CsynTopic.Bounded (topic : CsynTopic) : Prop :=
  ∀ slot, (topic.lengths slot).toNat ≤ topic.maxSize.toNat

theorem csynTopicPublish_bounded {topic : CsynTopic} (buf : Option (List UInt8))
    (bounded : topic.Bounded) : (csynTopicPublish topic buf).2.Bounded := by
  cases fits : topic.accepts buf with
  | false =>
      rw [csynTopicPublish_rejected fits]
      exact bounded
  | true =>
      cases buf with
      | none => cases fits
      | some bytes =>
          rw [csynTopicPublish_accepted fits]
          obtain ⟨-, room⟩ := CsynTopic.accepts_some.mp fits
          intro slot
          dsimp only
          by_cases here : slot = slotOf (topic.generation + 1)
          · rw [here, Function.update_self, UInt16.toNat_ofNat']
            exact Nat.le_trans (Nat.mod_le _ _) room
          · rw [Function.update_of_ne here]
            exact bounded slot

theorem publishAt_bounded {registry : List CsynTopic} (i : Nat) (buf : Option (List UInt8))
    (bounded : ∀ topic ∈ registry, topic.Bounded) :
    ∀ topic ∈ publishAt registry i buf, topic.Bounded := by
  unfold publishAt
  split
  · exact bounded
  · rename_i topic present
    intro later member
    rcases List.mem_or_eq_of_mem_set member with old | rfl
    · exact bounded later old
    · exact csynTopicPublish_bounded buf (bounded topic (List.mem_of_getElem? present))

/-- What a copy returns is the slot that the generation selects, not empty and no longer than
the buffer. -/
theorem csynTopicCopy_cases {topic : CsynTopic} {bufSize : Nat} {bytes : List UInt8}
    {generation : UInt32} (copied : csynTopicCopy topic bufSize = some (bytes, generation)) :
    topic.generation ≠ 0 ∧ generation = topic.generation ∧
      bytes.length = (topic.lengths (slotOf generation)).toNat ∧ 0 < bytes.length ∧
      bytes.length ≤ bufSize := by
  unfold csynTopicCopy at copied
  dsimp only at copied
  split at copied
  · cases copied
  · rename_i live
    split at copied
    · cases copied
    · rename_i fit
      rw [not_or] at fit
      cases copied
      rw [ByteMemory.load_length]
      refine ⟨live, rfl, rfl, ?_, Nat.le_of_not_lt fit.2⟩
      apply Nat.pos_of_ne_zero
      intro zero
      exact fit.1 (UInt16.toNat_inj.mp zero)

/-- What a copy returns fits the topic and the buffer and is not empty. -/
theorem csynTopicCopy_sized {topic : CsynTopic} {bufSize : Nat} {bytes : List UInt8}
    {generation : UInt32} (bounded : topic.Bounded)
    (copied : csynTopicCopy topic bufSize = some (bytes, generation)) :
    topic.generation ≠ 0 ∧ 0 < bytes.length ∧ bytes.length ≤ topic.maxSize.toNat ∧
      bytes.length ≤ bufSize := by
  obtain ⟨live, -, sized, positive, room⟩ := csynTopicCopy_cases copied
  refine ⟨live, positive, ?_, room⟩
  rw [sized]
  exact bounded _

/-- A topic list as an application declares it. -/
structure TopicDeclaration where
  key : Str
  dir : CsynDir
  maxSize : UInt16

/-- The registry after `csyn_init`, whatever that returned. -/
def bootRegistry (synapseTopicByKey : Str → Option SynapseTopicInfo)
    (declarations : List TopicDeclaration) : List CsynTopic :=
  (csynInit synapseTopicByKey
    (declarations.map fun d => csynTopicDefine d.key d.dir d.maxSize)).2

/-- No sample has been stored. -/
structure CsynTopic.Unwritten (topic : CsynTopic) : Prop where
  generation : topic.generation = 0
  lengths : ∀ slot, topic.lengths slot = 0

/-- `csyn_init` only sets `info`, to what the key resolves to, and only on topics it reaches. -/
theorem csynInit_mem {synapseTopicByKey : Str → Option SynapseTopicInfo}
    {declared : List CsynTopic} {topic : CsynTopic}
    (member : topic ∈ (csynInit synapseTopicByKey declared).2) :
    ∃ before ∈ declared, topic = before ∨
      topic = { before with info := resolveInfo synapseTopicByKey before.key } := by
  induction declared with
  | nil => cases member
  | cons head tail ih =>
      have stopped : ∀ first : CsynTopic, topic ∈ first :: tail →
          first = { head with info := resolveInfo synapseTopicByKey head.key } →
          ∃ before ∈ head :: tail, topic = before ∨
            topic = { before with info := resolveInfo synapseTopicByKey before.key } := by
        rintro first inside rfl
        rcases List.mem_cons.mp inside with rfl | later
        · exact ⟨head, List.mem_cons_self, Or.inr rfl⟩
        · exact ⟨topic, List.mem_cons_of_mem _ later, Or.inl rfl⟩
      unfold csynInit at member
      dsimp only at member
      split at member
      · exact stopped _ member rfl
      · split at member
        · exact stopped _ member rfl
        · rcases List.mem_cons.mp member with rfl | later
          · exact ⟨head, List.mem_cons_self, Or.inr rfl⟩
          · obtain ⟨before, inside, same⟩ := ih later
            exact ⟨before, List.mem_cons_of_mem _ inside, same⟩

/-- In an accepted registry every key resolves, and each topic has the entry of its key. -/
theorem csynInit_accepted {synapseTopicByKey : Str → Option SynapseTopicInfo}
    {declared registry : List CsynTopic} {topic : CsynTopic}
    (accepted : csynInit synapseTopicByKey declared = (none, registry))
    (member : topic ∈ registry) :
    ∃ info, topic.info = some info ∧ resolveInfo synapseTopicByKey topic.key = some info := by
  induction declared generalizing registry with
  | nil =>
      cases accepted
      cases member
  | cons head tail ih =>
      unfold csynInit at accepted
      dsimp only at accepted
      split at accepted
      · cases accepted
      · rename_i info resolved
        split at accepted
        · cases accepted
        · rw [Prod.mk.injEq] at accepted
          obtain ⟨rest, rfl⟩ := accepted
          rcases List.mem_cons.mp member with rfl | later
          · exact ⟨info, resolved, resolved⟩
          · exact ih (Prod.ext rest rfl) later

/-- A topic of the booted registry holds nothing, and its entry, if any, is its key's. -/
theorem bootRegistry_topic {synapseTopicByKey : Str → Option SynapseTopicInfo}
    {declarations : List TopicDeclaration} {topic : CsynTopic}
    (member : topic ∈ bootRegistry synapseTopicByKey declarations) :
    topic.Unwritten ∧
      (topic.info = none ∨ topic.info = resolveInfo synapseTopicByKey topic.key) := by
  obtain ⟨before, defined, same⟩ := csynInit_mem member
  obtain ⟨d, -, rfl⟩ := List.mem_map.mp defined
  rcases same with rfl | rfl
  · exact ⟨⟨rfl, fun _ => rfl⟩, Or.inl rfl⟩
  · exact ⟨⟨rfl, fun _ => rfl⟩, Or.inr rfl⟩

/-- Before the first sample. -/
theorem bootRegistry_unwritten {synapseTopicByKey : Str → Option SynapseTopicInfo}
    {declarations : List TopicDeclaration} :
    ∀ topic ∈ bootRegistry synapseTopicByKey declarations, topic.Unwritten :=
  fun _ member => (bootRegistry_topic member).1

theorem CsynTopic.Unwritten.bounded {topic : CsynTopic} (unwritten : topic.Unwritten) :
    topic.Bounded := by
  intro slot
  rw [unwritten.lengths]
  exact Nat.zero_le _

theorem bootRegistry_bounded {synapseTopicByKey : Str → Option SynapseTopicInfo}
    {declarations : List TopicDeclaration} :
    ∀ topic ∈ bootRegistry synapseTopicByKey declarations, topic.Bounded :=
  fun topic member => (bootRegistry_unwritten topic member).bounded

/-- What the module relies on in the generated catalog: a key without a slash is the key of its
own entry, and an entry is named after a type, with a capital letter. -/
structure SynapseCatalog (synapseTopicByKey : Str → Option SynapseTopicInfo) : Prop where
  bare : ∀ key info, slash ∉ key → synapseTopicByKey key = some info → info.key = key
  named : ∀ key info, synapseTopicByKey key = some info →
    ∃ first rest, info.name = first :: rest ∧ first < 97

/-- A catalog key as the bridge spells them: one segment that begins with a small letter. -/
structure PlainKey (name : Str) : Prop where
  segment : slash ∉ name
  small : ∃ first rest, name = first :: rest ∧ 97 ≤ first

section

variable {synapseTopicByKey : Str → Option SynapseTopicInfo} {topic : CsynTopic}
  {info : SynapseTopicInfo}

theorem resolveInfo_cases {key : Str} (resolved : resolveInfo synapseTopicByKey key = some info) :
    synapseTopicByKey key = some info ∨
      keySegment key = str "vehicle_command" ∧ info = gVehicleCommandInfo := by
  unfold resolveInfo at resolved
  split at resolved
  · rename_i entry found
    exact Or.inl (found.trans resolved)
  · split at resolved
    · rename_i legacy
      cases resolved
      exact Or.inr ⟨legacy, rfl⟩
    · cases resolved

/-- The entry a plain key resolves to has no other plain key. -/
theorem resolveInfo_plain {key : Str} (catalog : SynapseCatalog synapseTopicByKey)
    (resolved : resolveInfo synapseTopicByKey key = some info) (plain : PlainKey key)
    (entry : PlainKey info.key) : info.key = key := by
  rcases resolveInfo_cases resolved with found | ⟨-, rfl⟩
  · exact catalog.bare key info plain.segment found
  · exact absurd entry.segment (by decide)

/-- A plain key a topic answers to is its declared key or its entry's key. -/
theorem answersTo_plain {name : Str} (catalog : SynapseCatalog synapseTopicByKey)
    (resolved : topic.info = none ∨ topic.info = resolveInfo synapseTopicByKey topic.key)
    (plain : PlainKey name) (answers : topic.answersTo name = true) :
    name = topic.key ∨
      ∃ info, topic.info = some info ∧ resolveInfo synapseTopicByKey topic.key = some info ∧
        name = info.key := by
  rw [CsynTopic.answersTo, Bool.or_eq_true, beq_iff_eq] at answers
  rcases answers with own | entry
  · exact Or.inl own
  · split at entry
    · cases entry
    · rename_i info present
      have looked : resolveInfo synapseTopicByKey topic.key = some info := by
        rcases resolved with missing | same
        · rw [present] at missing
          cases missing
        · rw [← same, present]
      rw [Bool.or_eq_true, beq_iff_eq, beq_iff_eq] at entry
      rcases entry with rfl | key
      · -- A plain key is not a type name.
        obtain ⟨first, rest, spelt, small⟩ := plain.small
        rcases resolveInfo_cases looked with found | ⟨-, rfl⟩
        · obtain ⟨capital, _, named, large⟩ := catalog.named _ _ found
          rw [spelt, List.cons.injEq] at named
          exact absurd (named.1 ▸ small) (UInt8.not_le.mpr large)
        · rw [show gVehicleCommandInfo.name = 86 :: str "ehicleCommand" from rfl,
            List.cons.injEq] at spelt
          rw [← spelt.1] at small
          exact absurd small (by decide)
      · exact Or.inr ⟨info, present, looked, key⟩

/-- A topic answers to one plain key only. -/
theorem answersTo_plain_unique {a b : Str} (catalog : SynapseCatalog synapseTopicByKey)
    (resolved : topic.info = none ∨ topic.info = resolveInfo synapseTopicByKey topic.key)
    (plain : PlainKey a) (plain' : PlainKey b) (answers : topic.answersTo a = true)
    (answers' : topic.answersTo b = true) : a = b := by
  rcases answersTo_plain catalog resolved plain answers with own | ⟨info, present, looked, key⟩
  · rcases answersTo_plain catalog resolved plain' answers' with own' | ⟨info, -, looked, key⟩
    · exact own.trans own'.symm
    · exact (own.trans (resolveInfo_plain catalog looked (own ▸ plain) (key ▸ plain')).symm).trans
        key.symm
  · rcases answersTo_plain catalog resolved plain' answers' with own' | ⟨info', present', -, key'⟩
    · exact (key.trans (resolveInfo_plain catalog looked (own' ▸ plain') (key ▸ plain))).trans
        own'.symm
    · rw [present, Option.some.injEq] at present'
      rw [key, key', present']

end

end Csyn
