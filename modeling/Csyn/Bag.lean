import Csyn.Lib.Automaton
import Csyn.HostTypes

set_option autoImplicit false

/- rust/src/bag.rs: `BagWriter` and `channel_type`, over the MCAP writer and reader of
synapse_fbs, and the reading loop of `bag_play` and `bag_export_jsonl` in rust/src/main.rs. -/
namespace Csyn

/-- The schema record of a channel. -/
structure McapSchema where
  name : Str
  encoding : Str
  data : List UInt8
  deriving DecidableEq

/-- `mcap::Channel` -/
structure McapChannel where
  topic : Str
  schema : Option McapSchema
  messageEncoding : Str
  metadata : List (Str × Str)
  deriving DecidableEq

/-- A message as `MessageStream` yields it. -/
structure McapMessage where
  channel : McapChannel
  logTime : UInt64
  publishTime : UInt64
  data : List UInt8
  deriving DecidableEq

/-- The constants `MCAP_SCHEMA_ENCODING`, `MCAP_MESSAGE_ENCODING` and `MCAP_TOPIC_ID_KEY`. -/
structure McapProfile where
  schemaEncoding : Str
  messageEncoding : Str
  topicIdKey : Str

/-- `synapse_fbs::mcap::Writer`, its channel handles, the file and `MessageStream` over it. -/
structure McapIo (W C F : Type) where
  addTopic : W → TopicInfo → Str → Except Str C × W
  write : W → C → UInt64 → UInt64 → List UInt8 → Except Str Unit × W × C
  finish : W → Except Str F
  messageStream : F → Except Str (List McapMessage)

/-- `BagWriter`; the hash map of channels is a partial function. -/
structure BagWriter (W C : Type) where
  writer : Option W
  channels : Str → Option C

/-- The arguments of a `write_sample` call, and what reading a message back yields. -/
structure BagSample where
  key : Str
  known : TopicType
  logTime : UInt64
  payload : List UInt8
  deriving DecidableEq

/-- `BagWriter::create` once the file is started. -/
def BagWriter.create {W C : Type} (writer : W) : BagWriter W C := ⟨some writer, fun _ => none⟩

section

variable {W C F : Type} (io : McapIo W C F) (fbs : SynapseFbs)

/-- The channel of a key, added on its first sample. -/
def channelFor (writer : W) (channels : Str → Option C) (key : Str) (known : TopicType) :
    Except Str C × W × (Str → Option C) :=
  match channels key with
  | some channel => (.ok channel, writer, channels)
  | none =>
      match io.addTopic writer known.topic key with
      | (.error _, writer) =>
          (.error (str "failed to add Synapse MCAP channel " ++ key), writer, channels)
      | (.ok channel, writer) =>
          (.ok channel, writer, Function.update channels key (some channel))

/-- `BagWriter::write_sample` -/
def BagWriter.writeSample (bag : BagWriter W C) (sample : BagSample) :
    Except Str Unit × BagWriter W C :=
  match bag.writer with
  | none => (.error (str "bag writer is already finished"), bag)
  | some writer =>
      match channelFor io writer bag.channels sample.key sample.known with
      | (.error error, writer, channels) => (.error error, ⟨some writer, channels⟩)
      | (.ok channel, writer, channels) =>
          match sample.known.mcapPublishTimeNs fbs sample.payload sample.logTime with
          | .error error => (.error error, ⟨some writer, channels⟩)
          | .ok publishTime =>
              match sample.known.toMcapPayload fbs sample.payload with
              | .error error => (.error error, ⟨some writer, channels⟩)
              | .ok data =>
                  let (written, writer, channel) :=
                    io.write writer channel sample.logTime publishTime data
                  let bag := ⟨some writer, Function.update channels sample.key (some channel)⟩
                  match written with
                  | .error _ =>
                      (.error (str "failed to write Synapse MCAP sample on " ++ sample.key), bag)
                  | .ok () => (.ok (), bag)

/-- A `write_sample` call that returns `Ok`. -/
def BagWriter.step (bag : BagWriter W C) (sample : BagSample) : Option (BagWriter W C) :=
  match bag.writeSample io fbs sample with
  | (.ok (), bag) => some bag
  | (.error _, _) => none

end

section

variable (profile : McapProfile) (fbs : SynapseFbs)

/-- `channel_type` -/
def channelType (channel : McapChannel) : Except Str TopicType :=
  match channel.schema with
  | none =>
      .error (str "MCAP channel " ++ channel.topic ++ str " has no required Synapse schema")
  | some schema =>
      match TopicType.find fbs schema.name with
      | none => .error (str "unknown MCAP Synapse type " ++ schema.name)
      | some known =>
          if schema.name ≠ known.topic.mcapSchemaName ∨
              schema.encoding ≠ profile.schemaEncoding ∨
              schema.data ≠ known.schema.bfbs ∨
              channel.messageEncoding ≠ profile.messageEncoding ∨
              channel.metadata.lookup profile.topicIdKey ≠ some (decimal known.topic.id.toNat) then
            .error (str "MCAP channel " ++ channel.topic ++
              str " has an incompatible Synapse schema contract")
          else .ok known

/-- What the reading loops do with a message before they publish or export it. -/
def readMessage (message : McapMessage) : Except Str BagSample :=
  match channelType profile fbs message.channel with
  | .error error => .error error
  | .ok known =>
      match known.mcapToZenohPayload fbs message.data with
      | .error _ =>
          .error (str "MCAP payload on " ++ message.channel.topic ++ str " does not match " ++
            known.topic.name)
      | .ok payload =>
          match known.decode fbs payload with
          | .error error => .error error
          | .ok _ => .ok ⟨message.channel.topic, known, message.logTime, payload⟩

/-- Reading a whole bag back. -/
def readBack {W C F : Type} (io : McapIo W C F) (contents : F) :
    Except Str (List BagSample) :=
  match io.messageStream contents with
  | .error _ => .error (str "failed to open bag")
  | .ok messages => messages.mapM (readMessage profile fbs)

end

/-! What is assumed of synapse_fbs. -/

/-- A channel registered for a topic: its key, schema name, BFBS, encodings and id. -/
structure McapChannel.Registers (profile : McapProfile) (fbs : SynapseFbs)
    (channel : McapChannel) (entry : TopicInfo) (key : Str) : Prop where
  topic : channel.topic = key
  schema : channel.schema = some
    ⟨entry.mcapSchemaName, profile.schemaEncoding, (fbs.schemaByName entry.schemaFile).bfbs⟩
  messageEncoding : channel.messageEncoding = profile.messageEncoding
  metadata : channel.metadata.lookup profile.topicIdKey = some (decimal entry.id.toNat)

/-- The writer registers channels and appends messages verbatim, and the reader returns
them in file order with their channel. `logged` and `channel` say what a writer has
written and what a handle stands for. -/
structure McapIo.Faithful {W C F : Type} (io : McapIo W C F) (profile : McapProfile)
    (fbs : SynapseFbs) (logged : W → List McapMessage) (channel : C → McapChannel) : Prop where
  addTopic : ∀ writer topic key handle writer',
    io.addTopic writer topic key = (.ok handle, writer') →
    logged writer' = logged writer ∧ (channel handle).Registers profile fbs topic key
  write : ∀ writer handle logTime publishTime data writer' handle',
    io.write writer handle logTime publishTime data = (.ok (), writer', handle') →
    logged writer' = logged writer ++ [⟨channel handle, logTime, publishTime, data⟩] ∧
      channel handle' = channel handle
  finish : ∀ writer contents, io.finish writer = .ok contents →
    io.messageStream contents = .ok (logged writer)

/-- The catalog: no other entry answers to the MCAP schema name of one, under any of its
names, and a fixed-layout payload decodes only at its size. -/
structure SynapseFbs.Unambiguous (fbs : SynapseFbs) : Prop where
  named : ∀ topic ∈ fbs.topics, ∀ other ∈ fbs.topics,
    eqIgnoreAsciiCase other.name topic.mcapSchemaName ∨ other.key = topic.mcapSchemaName ∨
      eqIgnoreAsciiCase other.rootTable topic.mcapSchemaName ∨
      eqIgnoreAsciiCase other.wireType topic.mcapSchemaName ∨
      eqIgnoreAsciiCase other.mcapSchemaName topic.mcapSchemaName → other = topic
  inferred : ∀ topic ∈ fbs.topics, ∀ other,
    fbs.topicByKey topic.mcapSchemaName = some other → other = topic
  sized : ∀ topic payload text, topic.fixedLayout = true →
    fbs.decodeTopicDebug topic payload = .ok text → topic.payloadSize = some payload.length

end Csyn
