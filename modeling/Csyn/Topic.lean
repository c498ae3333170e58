import Csyn.Lib.ByteMemory
import Csyn.Lib.Counter

set_option autoImplicit false

/- The topic registry and the latest-sample store of zephyr/src/csyn.c, as
sequential functions. -/
namespace Csyn

/-- Bytes of a C string without its NUL, or of a Rust `str`. -/
abbrev Str : Type := List UInt8

def str (literal : String) : Str := literal.toUTF8.data.toList

/-- `choice CSYN_MOCAP_SOURCE` -/
inductive MocapSource where
  | frame
  | poseKey
  | odometry
  deriving DecidableEq, Repr

/-- The Kconfig options the modelled functions read, within their ranges. -/
structure Kconfig where
  flatbufferMaxSize : Nat
  flatbuffer_lower : 64 ≤ flatbufferMaxSize
  flatbuffer_upper : flatbufferMaxSize ≤ 4096
  mocapSource : MocapSource
  mocapRigidBodyId : Int
  zenohMocapPoseKey : Str
  zenohMocapSelectedHoldSamples : Int
  deploymentNamespace : Str

/-- The options as Kconfig defaults them. -/
def Kconfig.default : Kconfig where
  flatbufferMaxSize := 512
  flatbuffer_lower := by decide
  flatbuffer_upper := by decide
  mocapSource := .frame
  mocapRigidBodyId := 0
  zenohMocapPoseKey := []
  zenohMocapSelectedHoldSamples := 48
  deploymentNamespace := []

/-- `enum csyn_dir` -/
inductive CsynDir where
  | rx
  | tx
  deriving DecidableEq, Repr

/-- `synapse_topic_info_t`: the catalog fields the module reads. A NULL string is `none`. -/
structure SynapseTopicInfo where
  id : UInt16
  name : Str
  key : Str
  payloadSize : Nat
  wireType : Option Str
  schemaHash : Option Str
  fixedLayout : Bool
  deriving DecidableEq, Repr

/-- `struct csyn_topic`. The slot array holds `2 * max_size` bytes and the length
array two entries; no access below leaves these bounds. -/
structure CsynTopic where
  key : Str
  info : Option SynapseTopicInfo
  dir : CsynDir
  slots : ByteMemory
  maxSize : UInt16
  lengths : Nat → UInt16
  generation : UInt32
  lastContractWarningMs : Int

/-- `CSYN_TOPIC_DEFINE`: static storage starts zeroed. -/
def csynTopicDefine (key : Str) (dir : CsynDir) (maxSize : UInt16) : CsynTopic where
  key := key
  info := none
  dir := dir
  slots := fun _ => 0
  maxSize := maxSize
  lengths := fun _ => 0
  generation := 0
  lastContractWarningMs := 0

/-- `generation & 1U` -/
def slotOf (generation : UInt32) : Nat := (generation &&& 1).toNat

/-- `slot * topic->max_size` -/
def CsynTopic.slotBase (topic : CsynTopic) (slot : Nat) : Nat := slot * topic.maxSize.toNat

theorem slotOf_ofNat (n : Nat) : slotOf (UInt32.ofNat n) = n % 2 := Counter.low_bit n

/-- The argument check of `csyn_topic_publish`. A NULL buffer is `none`, otherwise
the list is the `len` bytes it points to. -/
def CsynTopic.accepts (topic : CsynTopic) : Option (List UInt8) → Bool
  | none => false
  | some bytes => bytes.length != 0 && decide (bytes.length ≤ topic.maxSize.toNat)

theorem CsynTopic.accepts_some {topic : CsynTopic} {bytes : List UInt8} :
    topic.accepts (some bytes) = true ↔ 0 < bytes.length ∧ bytes.length ≤ topic.maxSize.toNat := by
  simp only [CsynTopic.accepts, Bool.and_eq_true, bne_iff_ne, ne_eq, decide_eq_true_eq]
  omega

/-- An accepted length survives the cast to `uint16_t` and is not zero. -/
theorem CsynTopic.accepts_length {topic : CsynTopic} {bytes : List UInt8}
    (fits : topic.accepts (some bytes) = true) :
    (UInt16.ofNat bytes.length).toNat = bytes.length ∧ UInt16.ofNat bytes.length ≠ 0 := by
  obtain ⟨positive, bounded⟩ := CsynTopic.accepts_some.mp fits
  have narrow : bytes.length < 2 ^ 16 := Nat.lt_of_le_of_lt bounded (UInt16.toNat_lt _)
  have size : (UInt16.ofNat bytes.length).toNat = bytes.length := by
    rw [UInt16.toNat_ofNat', Nat.mod_eq_of_lt narrow]
  refine ⟨size, ?_⟩
  intro zero
  have none_ : (UInt16.ofNat bytes.length).toNat = 0 := by rw [zero]; rfl
  omega

/-- `csyn_topic_publish` of a writer that nothing disturbs. -/
def csynTopicPublish (topic : CsynTopic) (buf : Option (List UInt8)) : Bool × CsynTopic :=
  match buf with
  | none => (false, topic)
  | some bytes =>
      if topic.accepts (some bytes) then
        let nextGeneration := topic.generation + 1
        let slot := slotOf nextGeneration
        (true, { topic with
          slots := topic.slots.storeBytes (topic.slotBase slot) bytes
          lengths := Function.update topic.lengths slot (UInt16.ofNat bytes.length)
          generation := nextGeneration })
      else (false, topic)

/-- `csyn_topic_copy` of a reader that nothing disturbs: the second reading of the
generation equals the first, so the loop body runs once. -/
def csynTopicCopy (topic : CsynTopic) (bufSize : Nat) : Option (List UInt8 × UInt32) :=
  let generationStart := topic.generation
  if generationStart = 0 then none
  else
    let slot := slotOf generationStart
    let length := topic.lengths slot
    if length = 0 ∨ length.toNat > bufSize then none
    else some (topic.slots.load (topic.slotBase slot) length.toNat, generationStart)

/-- `csyn_topic_generation`; a NULL topic is `none`. -/
def csynTopicGeneration (topic : Option CsynTopic) : UInt32 :=
  match topic with
  | none => 0
  | some topic => topic.generation

/-! The registry is the iterable section of `struct csyn_topic` in link order; a
topic pointer is an index into it and NULL is `none`. -/

/-- `csyn_topic_count` -/
def csynTopicCount (registry : List CsynTopic) : Nat := registry.length

/-- The comparison of `csyn_topic_find`: declared key, catalog name or catalog key. -/
def CsynTopic.answersTo (topic : CsynTopic) (name : Str) : Bool :=
  name == topic.key ||
    match topic.info with
    | none => false
    | some info => name == info.name || name == info.key

/-- `csyn_topic_find` -/
def csynTopicFind (registry : List CsynTopic) (name : Option Str) : Option Nat :=
  match name with
  | none => none
  | some name => registry.findIdx? fun topic => topic.answersTo name

def CsynTopic.hasCatalogId (topic : CsynTopic) (id : UInt16) : Bool :=
  match topic.info with
  | none => false
  | some info => info.id == id

/-- `csyn_topic_by_catalog_id` -/
def csynTopicByCatalogId (registry : List CsynTopic) (id : UInt16) : Option Nat :=
  registry.findIdx? fun topic => topic.hasCatalogId id

/-- `g_vehicle_command_info`: the catalog entry kept for the legacy broadcast. -/
def gVehicleCommandInfo : SynapseTopicInfo where
  id := 65001
  name := str "VehicleCommand"
  key := str "synapse/v1/topic/vehicle_command"
  payloadSize := 40
  wireType := some (str "synapse.topic.VehicleCommandData")
  schemaHash := some (str "ffc2edbf80cfc1e45fd00c6d9443bc0f")
  fixedLayout := true

def slash : UInt8 := 47

/-- `strrchr(key, '/')` and what follows it, or the whole key. -/
def keySegment (key : Str) : Str := (key.splitOn slash).getLast?.getD key

/-- The two `LOG_ERR` lines of `csyn_init`, each with the `-EINVAL` return. -/
inductive InitError where
  | missingFromCatalog (key : Str)
  | sizeMismatch (key : Str) (catalog : Nat) (declared : UInt16)
  deriving DecidableEq, Repr

section

variable (synapseTopicByKey : Str → Option SynapseTopicInfo)

/-- What `csyn_init` stores in `topic->info`: the catalog entry or the legacy one. -/
def resolveInfo (key : Str) : Option SynapseTopicInfo :=
  match synapseTopicByKey key with
  | some info => some info
  | none => if keySegment key = str "vehicle_command" then some gVehicleCommandInfo else none

/-- `csyn_init`: the loop stops at the first topic that fails, leaving the later
ones unresolved. The returned error is `none` for the return value 0. -/
def csynInit : List CsynTopic → Option InitError × List CsynTopic
  | [] => (none, [])
  | declared :: rest =>
      let topic := { declared with info := resolveInfo synapseTopicByKey declared.key }
      match topic.info with
      | none => (some (.missingFromCatalog topic.key), topic :: rest)
      | some info =>
          if info.fixedLayout ∧ info.payloadSize ≠ topic.maxSize.toNat then
            (some (.sizeMismatch topic.key info.payloadSize topic.maxSize), topic :: rest)
          else
            let (rc, rest) := csynInit rest
            (rc, topic :: rest)

end

/-! Sequential facts about the store. -/

theorem csynTopicPublish_rejected {topic : CsynTopic} {buf : Option (List UInt8)}
    (refused : topic.accepts buf = false) : csynTopicPublish topic buf = (false, topic) := by
  cases buf with
  | none => rfl
  | some bytes => simp only [csynTopicPublish, refused, Bool.false_eq_true, ↓reduceIte]

theorem csynTopicPublish_accepted {topic : CsynTopic} {bytes : List UInt8}
    (fits : topic.accepts (some bytes) = true) :
    csynTopicPublish topic (some bytes) = (true, { topic with
      slots := topic.slots.storeBytes (topic.slotBase (slotOf (topic.generation + 1))) bytes
      lengths := Function.update topic.lengths (slotOf (topic.generation + 1))
        (UInt16.ofNat bytes.length)
      generation := topic.generation + 1 }) := by
  simp only [csynTopicPublish, fits, ↓reduceIte]

/-- Publishing keeps everything about a topic that is not its current sample. -/
theorem csynTopicPublish_declaration (topic : CsynTopic) (buf : Option (List UInt8)) :
    (csynTopicPublish topic buf).2.key = topic.key ∧
      (csynTopicPublish topic buf).2.info = topic.info ∧
      (csynTopicPublish topic buf).2.dir = topic.dir ∧
      (csynTopicPublish topic buf).2.maxSize = topic.maxSize := by
  cases buf with
  | none => exact ⟨rfl, rfl, rfl, rfl⟩
  | some bytes =>
      unfold csynTopicPublish
      dsimp only
      split
      · exact ⟨rfl, rfl, rfl, rfl⟩
      · exact ⟨rfl, rfl, rfl, rfl⟩

end Csyn
