import Csyn.Lib.LittleEndian
import Csyn.Contract

set_option autoImplicit false

/- rust/src/types.rs: catalog lookups and payload conversions of the host tool, over the
functions of the synapse_fbs crate it calls. -/
namespace Csyn

/-- `topic_catalog::TopicInfo`: the fields the tool reads. -/
structure TopicInfo where
  id : UInt16
  name : Str
  key : Str
  rootTable : Str
  encoding : Str
  wireType : Str
  schemaHash : Str
  schemaFile : Str
  mcapSchemaName : Str
  fixedLayout : Bool
  payloadSize : Option Nat
  deriving DecidableEq

/-- `schemas::EmbeddedSchema` -/
structure EmbeddedSchema where
  bfbs : List UInt8
  deriving DecidableEq

/-- What the tool uses of synapse_fbs. `schemaByName` is the lookup with its `expect`, and
`tableU64` reads a `u64` at a vtable slot of a verified root table. -/
structure SynapseFbs where
  topics : List TopicInfo
  topicByKey : Str → Option TopicInfo
  topicForEncoding : Str → Except Str TopicInfo
  decodeTopicDebug : TopicInfo → List UInt8 → Except Str Str
  schemaByName : Str → EmbeddedSchema
  tableU64 : List UInt8 → Nat → Option UInt64

structure TopicType where
  topic : TopicInfo
  schema : EmbeddedSchema
  deriving DecidableEq

/-- `u8::to_ascii_lowercase` -/
def asciiLowercase (byte : UInt8) : UInt8 := if 65 ≤ byte ∧ byte ≤ 90 then byte + 32 else byte

/-- `str::eq_ignore_ascii_case` -/
def eqIgnoreAsciiCase (a b : Str) : Bool := a.map asciiLowercase == b.map asciiLowercase

section

variable (fbs : SynapseFbs)

/-- `TopicType::from_topic` -/
def TopicType.fromTopic (topic : TopicInfo) : TopicType :=
  ⟨topic, fbs.schemaByName topic.schemaFile⟩

/-- `TopicType::all` -/
def TopicType.all : List TopicType := fbs.topics.map (TopicType.fromTopic fbs)

/-- `TopicType::infer` -/
def TopicType.infer (keyexpr : Str) : Option TopicType :=
  (fbs.topicByKey keyexpr).map (TopicType.fromTopic fbs)

/-- `TopicType::find` -/
def TopicType.find (name : Str) : Option TopicType :=
  let byName := (fbs.topics.find? fun topic =>
    eqIgnoreAsciiCase topic.name name || topic.key == name ||
      eqIgnoreAsciiCase topic.rootTable name).map (TopicType.fromTopic fbs)
  byName.orElse fun _ => (TopicType.infer fbs name).orElse fun _ =>
    (TopicType.all fbs).find? fun known =>
      eqIgnoreAsciiCase known.topic.wireType name ||
        eqIgnoreAsciiCase known.topic.mcapSchemaName name

def mediaPrefix : Str := str "application/x-"

/-- The transport wrapper stripped from a received encoding. -/
def canonicalEncoding (received : Str) : Str :=
  match Delimited.find? mediaPrefix received with
  | some idx => received.drop idx
  | none => received

/-- `TopicType::from_value_encoding` on the text of the encoding. -/
def TopicType.fromValueEncoding (received : Str) : Except Str TopicType :=
  (fbs.topicForEncoding (canonicalEncoding received)).map (TopicType.fromTopic fbs)

/-- `TopicType::decode` -/
def TopicType.decode (known : TopicType) (payload : List UInt8) : Except Str Str :=
  match fbs.decodeTopicDebug known.topic payload with
  | .ok text => .ok text
  | .error error => .error (known.topic.name ++ str ": " ++ error)

end

/-- `wrap_fixed_payload` -/
def wrapFixedPayload (payload : List UInt8) : Except Str (List UInt8) :=
  let objectSize := payload.length + 4
  if objectSize > 65535 ∨ payload.length > 4294967295 - 14 then
    .error (str "fixed payload is too large to wrap")
  else
    .ok (LittleEndian.bytes32 4 ++ LittleEndian.bytes32 (-(UInt32.ofNat objectSize)) ++ payload ++
      LittleEndian.bytes16 6 ++ LittleEndian.bytes16 (UInt16.ofNat objectSize) ++
      LittleEndian.bytes16 4)

/-- `payload.get(first..last)` -/
def getRange (payload : List UInt8) (first last : Nat) : Option (List UInt8) :=
  if first ≤ last ∧ last ≤ payload.length then some ((payload.drop first).take (last - first))
  else none

def decimal (n : Nat) : Str := str (toString n)

/-- `unwrap_fixed_payload` -/
def unwrapFixedPayload (payload : List UInt8) (expected : Nat) : Except Str (List UInt8) :=
  let expectedLen := expected + 14
  let objectSize := expected + 4
  if payload.length ≠ expectedLen ∨
      getRange payload 0 4 ≠ some (LittleEndian.bytes32 4) ∨
      getRange payload 4 8 ≠ some (LittleEndian.bytes32 (-(UInt32.ofNat objectSize))) ∨
      getRange payload (expected + 8) (expected + 10) ≠ some (LittleEndian.bytes16 6) ∨
      getRange payload (expected + 10) (expected + 12) ≠
        some (LittleEndian.bytes16 (UInt16.ofNat objectSize)) ∨
      getRange payload (expected + 12) (expected + 14) ≠ some (LittleEndian.bytes16 4) then
    .error (str "invalid fixed-layout MCAP wrapper (" ++ decimal payload.length ++
      str " bytes, expected " ++ decimal expectedLen ++ str ")")
  else .ok ((payload.drop 8).take expected)

section

variable (fbs : SynapseFbs)

/-- `TopicType::to_mcap_payload` -/
def TopicType.toMcapPayload (known : TopicType) (payload : List UInt8) :
    Except Str (List UInt8) :=
  match known.decode fbs payload with
  | .error error => .error error
  | .ok _ => if known.topic.fixedLayout then wrapFixedPayload payload else .ok payload

/-- `TopicType::mcap_publish_time_ns` -/
def TopicType.mcapPublishTimeNs (known : TopicType) (payload : List UInt8) (logTimeNs : UInt64) :
    Except Str UInt64 :=
  match known.decode fbs payload with
  | .error error => .error error
  | .ok _ =>
      let timestampNs :=
        if known.topic.fixedLayout then
          (getRange payload 0 8).map fun bytes => UInt64.ofNat (LittleEndian.value bytes)
        else fbs.tableU64 payload 4
      .ok (timestampNs.getD logTimeNs)

/-- `TopicType::mcap_to_zenoh_payload`; a fixed-layout topic has a payload size. -/
def TopicType.mcapToZenohPayload (known : TopicType) (payload : List UInt8) :
    Except Str (List UInt8) :=
  if known.topic.fixedLayout then unwrapFixedPayload payload (known.topic.payloadSize.getD 0)
  else
    match known.decode fbs payload with
    | .error error => .error error
    | .ok _ => .ok payload

end

end Csyn
