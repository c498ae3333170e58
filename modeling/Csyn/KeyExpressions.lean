import Csyn.Lib.Wildcard
import Csyn.ValueEncoding
import Csyn.ZenohSession

set_option autoImplicit false

/- The keys that zephyr/src/csyn_zenoh.c declares against the key expressions that
rust/src/types.rs subscribes to. -/
namespace Csyn

section

variable (fbs : SynapseFbs)

/-- `subscribe_keyexpr` -/
def subscribeKeyexpr (arg : Str) : Str :=
  if slash ∈ arg then arg
  else
    match TopicType.find fbs arg with
    | some known => str "**/" ++ known.topic.key ++ str "/**"
    | none => arg

/-- `publish_key` -/
def publishKey (arg : Str) : Str :=
  if slash ∈ arg then arg
  else
    match TopicType.find fbs arg with
    | some known => known.topic.key
    | none => arg

end

/-! Matching, as Zenoh does it. A chunk that starts with '@' is matched by itself only. -/

/-- The chunks of a key or key expression. -/
def keyChunks (key : Str) : List Str := key.splitOn slash

/-- A chunk that wildcards match. -/
def plainChunk (chunk : Str) : Bool := chunk.head? != some 64

def chunkPiece (chunk : Str) : Wildcard.Piece Str :=
  if chunk = str "*" then .one else if chunk = str "**" then .many else .exact chunk

/-- The key is in the set of keys that the expression stands for. -/
def keyMatches (keyexpr key : Str) : Bool :=
  Wildcard.accepts plainChunk ((keyChunks keyexpr).map chunkPiece) (keyChunks key)

theorem chunkPiece_self (chunk : Str) :
    Wildcard.accepts plainChunk [chunkPiece chunk] [chunk] = true := by
  unfold chunkPiece
  split
  · rename_i same
    rw [same]
    decide
  · split
    · rename_i same
      rw [same]
      decide
    · exact Wildcard.accepts_exact.mpr ⟨[], rfl, rfl⟩

/-- Every key expression matches itself. -/
theorem chunkPieces_self (chunks : List Str) :
    Wildcard.accepts plainChunk (chunks.map chunkPiece) chunks = true := by
  induction chunks with
  | nil => rfl
  | cons chunk chunks ih => exact Wildcard.accepts_append (chunkPiece_self chunk) ih

theorem keyChunks_append (before after : Str) :
    keyChunks (before ++ slash :: after) = keyChunks before ++ keyChunks after :=
  List.splitOn_append_cons_self before after

theorem keyChunks_single {key : Str} (bare : slash ∉ key) : keyChunks key = [key] :=
  List.splitOn_eq_singleton bare

/-- The expression for all keys around a chunk. -/
theorem keyChunks_around (key : Str) :
    keyChunks (str "**/" ++ key ++ str "/**") = str "**" :: (keyChunks key ++ [str "**"]) := by
  have spelt : str "**/" ++ key ++ str "/**" =
      str "**" ++ slash :: (key ++ slash :: str "**") := by
    rw [show str "**/" = str "**" ++ [slash] from rfl,
      show str "/**" = slash :: str "**" from rfl]
    simp
  rw [spelt, keyChunks_append, keyChunks_append]
  rfl

/-- A key matches the expression for all keys around a plain chunk if and only if the chunk is
one of its own and wildcards match the others. -/
theorem keyMatches_around {chunk key : Str} (bare : slash ∉ chunk) (literal : 42 ∉ chunk) :
    keyMatches (str "**/" ++ chunk ++ str "/**") key = true ↔
      chunk ∈ keyChunks key ∧ ∀ other ∈ (keyChunks key).erase chunk, plainChunk other = true := by
  have exact_ : chunkPiece chunk = .exact chunk := by
    unfold chunkPiece
    split
    · rename_i same
      rw [same] at literal
      exact absurd (by decide) literal
    · split
      · rename_i same
        rw [same] at literal
        exact absurd (by decide) literal
      · rfl
  have pieces : (keyChunks (str "**/" ++ chunk ++ str "/**")).map chunkPiece =
      [.many, .exact chunk, .many] := by
    rw [keyChunks_around, keyChunks_single bare, List.map_cons, List.singleton_append,
      List.map_cons, exact_]
    rfl
  rw [keyMatches, pieces]
  exact Wildcard.accepts_around

theorem keyMatches_self (key : Str) : keyMatches key key = true := chunkPieces_self _

theorem keyMatches_around_self (key : Str) :
    keyMatches (str "**/" ++ key ++ str "/**") key = true := by
  rw [keyMatches, keyChunks_around, List.map_cons, List.map_append]
  refine Wildcard.accepts_many.mpr ⟨[], keyChunks key, rfl, by simp, ?_⟩
  rw [← List.append_nil (keyChunks key)]
  exact Wildcard.accepts_append (by rw [List.append_nil]; exact chunkPieces_self _) rfl

/-! The firmware's keys. -/

/-- What a format returns is the text. -/
theorem formatKey_some {text key : Str} {outSize : Nat}
    (formatted : formatKey text outSize = some key) : key = text := by
  by_cases fits : 0 < (snprintf outSize text).1 ∧ (snprintf outSize text).1 < outSize
  · rw [formatKey, if_pos fits, Option.some.injEq] at formatted
    rw [← formatted]
    apply List.take_of_length_le
    unfold snprintf at fits
    dsimp only at fits
    split at fits
    · omega
    · omega
  · rw [formatKey, if_neg fits] at formatted
    cases formatted

/-- The chunks of the key that a topic is deployed under. -/
def deploymentChunks (config : Kconfig) (topic : CsynTopic) : List Str :=
  if slash ∉ topic.key ∧ config.deploymentNamespace ≠ [] then
    keyChunks config.deploymentNamespace ++ [topic.key]
  else keyChunks topic.key

theorem topicKeyexpr_chunks {config : Kconfig} {topic : CsynTopic} {outSize : Nat} {key : Str}
    (formatted : topicKeyexpr config topic outSize = some key) :
    keyChunks key = deploymentChunks config topic := by
  unfold topicKeyexpr keyWithNamespace at formatted
  unfold deploymentChunks
  split at formatted
  · rename_i bare
    split at formatted
    · rename_i named
      rw [if_pos ⟨bare, named⟩, formatKey_some formatted, keyChunks_append, keyChunks_single bare]
    · rename_i unnamed
      rw [if_neg fun both => unnamed both.2, formatKey_some formatted]
  · rename_i declared
    rw [if_neg fun both => declared both.1, formatKey_some formatted]

/-! The catalogs on both sides. -/

/-- The comparison that `TopicType::find` tries first. -/
def TopicInfo.isNamed (topic : TopicInfo) (name : Str) : Bool :=
  eqIgnoreAsciiCase topic.name name || topic.key == name || eqIgnoreAsciiCase topic.rootTable name

/-- What the two sides rely on in the generated catalogs: a key resolves by its last chunk or
the one before an instance suffix, entries are the same, and keys and names, which are single
chunks without wildcards, identify them. -/
structure SharedCatalog (synapseTopicByKey : Str → Option SynapseTopicInfo) (fbs : SynapseFbs) :
    Prop where
  chunk : ∀ key info, synapseTopicByKey key = some info →
    ∃ before after, keyChunks key = before ++ info.key :: after ∧ after.length ≤ 1
  entry : ∀ key info, synapseTopicByKey key = some info →
    ∃ topic ∈ fbs.topics, SameEntry topic info
  single : ∀ topic ∈ fbs.topics, slash ∉ topic.key ∧ 42 ∉ topic.key ∧ slash ∉ topic.name
  identified : ∀ topic ∈ fbs.topics, ∀ other ∈ fbs.topics,
    other.isNamed topic.key = true ∨ other.isNamed topic.name = true → other = topic

section

variable {synapseTopicByKey : Str → Option SynapseTopicInfo} {fbs : SynapseFbs}

/-- The host finds a topic under a name that identifies it. -/
theorem TopicType.find_identified {topic : TopicInfo} {name : Str} (listed : topic ∈ fbs.topics)
    (named : topic.isNamed name = true)
    (identified : ∀ other ∈ fbs.topics, other.isNamed name = true → other = topic) :
    TopicType.find fbs name = some (TopicType.fromTopic fbs topic) := by
  have first : (fbs.topics.find? fun other => other.isNamed name) = some topic := by
    cases found : fbs.topics.find? fun other => other.isNamed name with
    | none => exact absurd named (List.find?_eq_none.mp found topic listed)
    | some other =>
        have matched : other.isNamed name = true :=
          List.find?_some (p := fun other : TopicInfo => other.isNamed name) found
        rw [identified other (List.mem_of_find?_eq_some found) matched]
  unfold TopicType.find
  dsimp only
  rw [show (fbs.topics.find? fun other => eqIgnoreAsciiCase other.name name || other.key == name ||
    eqIgnoreAsciiCase other.rootTable name) = some topic from first]
  rfl

/-- Both the key and the name of an entry subscribe to all keys around its chunk. -/
theorem SharedCatalog.subscribe (catalog : SharedCatalog synapseTopicByKey fbs) {key name : Str}
    {info : SynapseTopicInfo} (found : synapseTopicByKey key = some info)
    (asked : name = info.key ∨ name = info.name) :
    subscribeKeyexpr fbs name = str "**/" ++ info.key ++ str "/**" := by
  obtain ⟨topic, listed, same⟩ := catalog.entry key info found
  obtain ⟨bareKey, -, bareName⟩ := catalog.single topic listed
  rw [same.key, same.name] at asked
  have bare : slash ∉ name := by
    rcases asked with rfl | rfl
    · exact bareKey
    · exact bareName
  have named : topic.isNamed name = true := by
    unfold TopicInfo.isNamed eqIgnoreAsciiCase
    rcases asked with rfl | rfl
    · simp
    · simp
  have resolved := TopicType.find_identified listed named (by
    intro other member matched
    rcases asked with rfl | rfl
    · exact catalog.identified topic listed other member (Or.inl matched)
    · exact catalog.identified topic listed other member (Or.inr matched))
  rw [subscribeKeyexpr, if_neg bare, resolved, same.key]
  rfl

/-- The entry's key is a chunk of every key its topics are deployed under. -/
theorem SharedCatalog.deployed (catalog : SharedCatalog synapseTopicByKey fbs)
    {config : Kconfig} {topic : CsynTopic} {info : SynapseTopicInfo}
    (found : synapseTopicByKey topic.key = some info) :
    info.key ∈ deploymentChunks config topic := by
  obtain ⟨before, after, chunks, -⟩ := catalog.chunk topic.key info found
  have occurs : info.key ∈ keyChunks topic.key := by
    rw [chunks]
    exact List.mem_append_right _ List.mem_cons_self
  unfold deploymentChunks
  split
  · rename_i bare
    rw [keyChunks_single bare.1] at occurs
    exact List.mem_append_right _ occurs
  · exact occurs

/-- Host and firmware agree on where a sample is to be found. -/
theorem publishKey_subscribed (fbs : SynapseFbs) (arg : Str) :
    keyMatches (subscribeKeyexpr fbs arg) (publishKey fbs arg) = true := by
  unfold subscribeKeyexpr publishKey
  split
  · exact keyMatches_self arg
  · split
    · exact keyMatches_around_self _
    · exact keyMatches_self arg

end

/-- The host's expression for a topic's key or name matches the key that the firmware declares
if and only if no other chunk of that key starts with '@'; and what the host publishes for an
argument, it subscribes to with it. -/
theorem bare_name_subscribes (config : Kconfig)
    (synapseTopicByKey : Str → Option SynapseTopicInfo) (fbs : SynapseFbs)
    (catalog : SharedCatalog synapseTopicByKey fbs) (declared registry : List CsynTopic)
    (accepted : csynInit synapseTopicByKey declared = (none, registry)) :
    (∀ topic ∈ registry, ∀ info : SynapseTopicInfo, topic.info = some info →
        (synapseTopicByKey topic.key).isSome →
      ∀ key, topicKeyexpr config topic csynZenohKeyexprMax = some key →
      ∀ name, name = info.key ∨ name = info.name →
        (keyMatches (subscribeKeyexpr fbs name) key = true ↔
          ∀ chunk ∈ (deploymentChunks config topic).erase info.key, plainChunk chunk = true)) ∧
      ∀ arg, keyMatches (subscribeKeyexpr fbs arg) (publishKey fbs arg) = true := by
  refine ⟨?_, publishKey_subscribed fbs⟩
  intro topic member info entry known key formatted name asked
  obtain ⟨found, present, looked⟩ := csynInit_accepted accepted member
  rw [entry, Option.some.injEq] at present
  subst present
  have resolved : synapseTopicByKey topic.key = some info := by
    obtain ⟨own, here⟩ := Option.isSome_iff_exists.mp known
    rw [resolveInfo, here] at looked
    rw [here]
    exact looked
  obtain ⟨topicInfo, listed, same⟩ := catalog.entry topic.key info resolved
  obtain ⟨bare, literal, -⟩ := catalog.single topicInfo listed
  rw [← same.key] at bare literal
  rw [catalog.subscribe resolved asked, keyMatches_around bare literal,
    topicKeyexpr_chunks formatted]
  exact and_iff_right (catalog.deployed resolved)

/-- A catalog of one topic, looked up by chunk; an instance suffix is a number. -/
def healthByKey (key : Str) : Option SynapseTopicInfo :=
  match (keyChunks key).reverse with
  | [] => none
  | last :: rest =>
      if last = str "health" then some vehicleHealthInfo
      else if rest.head? = some (str "health") ∧ last.all fun byte => 48 ≤ byte ∧ byte ≤ 57 then
        some vehicleHealthInfo
      else none

theorem healthByKey_some {key : Str} {info : SynapseTopicInfo}
    (found : healthByKey key = some info) :
    info = vehicleHealthInfo ∧
      ∃ before after, keyChunks key = before ++ str "health" :: after ∧ after.length ≤ 1 := by
  unfold healthByKey at found
  split at found
  · cases found
  · rename_i last rest reversed
    have chunks := congrArg List.reverse reversed
    rw [List.reverse_reverse, List.reverse_cons] at chunks
    split at found
    · rename_i same
      cases found
      refine ⟨rfl, rest.reverse, [], ?_, by decide⟩
      rw [chunks, same]
    · split at found
      · rename_i instance_
        cases found
        cases rest with
        | nil => cases instance_.1
        | cons before rest =>
            have same : before = str "health" := Option.some.inj instance_.1
            refine ⟨rfl, rest.reverse, [last], ?_, Nat.le_refl 1⟩
            rw [chunks, List.reverse_cons, same, List.append_assoc]
            rfl
      · cases found

theorem healthByKey_shared : SharedCatalog healthByKey oneTopicFbs where
  chunk key info found := by
    obtain ⟨rfl, chunks⟩ := healthByKey_some found
    exact chunks
  entry key info found := by
    obtain ⟨rfl, -⟩ := healthByKey_some found
    exact ⟨vehicleHealthTopic, List.mem_singleton_self _, vehicleHealth_sameEntry⟩
  single topic member := by
    rw [List.mem_singleton.mp member]
    decide
  identified topic member other member' _ := by
    rw [List.mem_singleton.mp member, List.mem_singleton.mp member']

/-- The keys of three health topics: a bare one, a namespaced one and one with an instance. -/
def healthKeys : List Str := [str "health", str "vicon/cub1/health", str "lab/health/2"]

def healthTopic (key : Str) : CsynTopic :=
  { csynTopicDefine key .tx 16 with info := some vehicleHealthInfo }

theorem csynInit_healthKeys :
    csynInit healthByKey (healthKeys.map fun key => csynTopicDefine key .tx 16) =
      (none, healthKeys.map healthTopic) := rfl

def healthConfig (deploymentNamespace : Str) : Kconfig :=
  { Kconfig.default with deploymentNamespace := deploymentNamespace }

theorem bare_name_subscribes_lab :
    keyMatches (subscribeKeyexpr oneTopicFbs (str "VehicleHealth")) (str "lab/cub1/health") = true ∧
      keyMatches (subscribeKeyexpr oneTopicFbs (str "health")) (str "lab/health/2") = true := by
  have subscribes := (bare_name_subscribes (healthConfig (str "lab/cub1")) healthByKey oneTopicFbs
    healthByKey_shared _ _ csynInit_healthKeys).1
  have listed : healthTopic (str "lab/health/2") ∈ healthKeys.map healthTopic :=
    List.mem_map_of_mem (by decide)
  constructor
  · exact (subscribes (healthTopic (str "health")) List.mem_cons_self vehicleHealthInfo rfl
      (by decide) (str "lab/cub1/health") (by rfl) _ (Or.inr rfl)).mpr (by decide)
  · exact (subscribes (healthTopic (str "lab/health/2")) listed vehicleHealthInfo rfl
      (by decide) (str "lab/health/2") (by rfl) _ (Or.inl rfl)).mpr (by decide)

/-- In a namespace that starts with '@' the bare key is published as one that its name does not
subscribe to. -/
theorem bare_name_misses :
    SharedCatalog healthByKey oneTopicFbs ∧
      csynInit healthByKey (healthKeys.map fun key => csynTopicDefine key .tx 16) =
        (none, healthKeys.map healthTopic) ∧
      healthTopic (str "health") ∈ healthKeys.map healthTopic ∧
      topicKeyexpr (healthConfig (str "@cub1")) (healthTopic (str "health")) csynZenohKeyexprMax =
        some (str "@cub1/health") ∧
      keyMatches (subscribeKeyexpr oneTopicFbs (str "health")) (str "@cub1/health") = false :=
  ⟨healthByKey_shared, csynInit_healthKeys, List.mem_cons_self, by rfl, by decide⟩

end Csyn
