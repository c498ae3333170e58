import Csyn.BagRecord
import Csyn.KeyExpressions
import Csyn.Lib.Scan

set_option autoImplicit false

/- The commands of rust/src/main.rs that listen: `topic_list`, `topic_echo` and `observe_topic`.
The receptions of a loop end at the shutdown or the deadline. -/
namespace Csyn

/-- What opening the session and declaring the subscriber return. -/
structure Subscribing where
  session : Except Str Unit
  subscriber : Except Str Unit

def Subscribing.start (subscribing : Subscribing) (keyexpr : Str) : Except Str Unit :=
  match subscribing.session with
  | .error error => .error error
  | .ok () =>
      match subscribing.subscriber with
      | .error error => .error (str "failed to subscribe to " ++ keyexpr ++ str ": " ++ error)
      | .ok () => .ok ()

/-- The throttle of a loop and what it printed on stderr. -/
structure Listener where
  warnings : ContractWarningThrottle
  stderr : List Str

def Listener.reject (listener : Listener) (sample : ReceivedSample) (error : Str) : Listener :=
  let (line, warnings) := listener.warnings.warn sample.key error sample.now
  ⟨warnings, listener.stderr ++ line.toList⟩

section

variable (fbs : SynapseFbs)

/-- `TopicType::require` -/
def TopicType.require (name : Str) : Except Str TopicType :=
  match TopicType.find fbs name with
  | none => .error (str "unknown Synapse topic '" ++ name ++ str "'")
  | some known => .ok known

/-- `ty.as_deref().map(TopicType::require).transpose()` -/
def requireType : Option Str → Except Str (Option TopicType)
  | none => .ok none
  | some name => (TopicType.require fbs name).map some

def failedToReceive (error : Str) : Str := str "failed to receive sample: " ++ error

/-! ## topic list -/

/-- The locals of `topic_list`. -/
structure Listing where
  topics : Std.TreeMap Str Str
  listener : Listener

def listTurn (typeFilter : Option TopicType) (state : Listing) :
    Reception → Scan.Turn Listing Str
  | .failed error => .stop state (failedToReceive error)
  | .nothing => .next state
  | .sample sample =>
      match requireValueType fbs sample.key sample.encoding none with
      | .error error => .next { state with listener := state.listener.reject sample error }
      | .ok known =>
          if typeFilter.any fun expected => expected.topic.id ≠ known.topic.id then .next state
          else
            let after :=
              { state with topics := state.topics.insert sample.key known.topic.name }
            match state.topics[sample.key]? with
            | none => .next after
            | some previous =>
                if previous ≠ known.topic.name then
                  .stop after (str "topic " ++ sample.key ++ str " changed value type from " ++
                    previous ++ str " to " ++ known.topic.name)
                else .next after

def listLine (entry : Str × Str) : Str := entry.1 ++ str " [" ++ entry.2 ++ str "]"

/-- `topic_list`: the lines it prints. -/
def topicList (filter ty : Option Str) (subscribing : Subscribing) (duration : Except Str Unit)
    (receptions : List Reception) : Except Str (List Str) :=
  let keyexpr := (filter.map (subscribeKeyexpr fbs)).getD (str "**")
  match requireType fbs ty with
  | .error error => .error error
  | .ok typeFilter =>
      match subscribing.start keyexpr with
      | .error error => .error error
      | .ok () =>
          match duration with
          | .error error => .error error
          | .ok () =>
              match Scan.run (listTurn fbs typeFilter) ⟨∅, ⟨.default, []⟩⟩ receptions with
              | (_, some error) => .error error
              | (state, none) => .ok (state.topics.toList.map listLine)

/-! ## topic echo -/

/-- `TopicOutput` -/
inductive TopicOutput where
  | debug
  | json
  deriving DecidableEq

def hexDigit (digit : UInt8) : UInt8 := if digit < 10 then 48 + digit else 87 + digit

/-- `hex_dump` -/
def hexDump (bytes : List UInt8) : Str :=
  (str " ").intercalate (bytes.map fun byte => [hexDigit (byte / 16), hexDigit (byte % 16)])

/-- `EchoJson`, before the payload is rendered in base 64. -/
structure EchoJson where
  topic : Str
  wireType : Str
  payload : List UInt8
  decoded : Option Str
  deriving DecidableEq

/-- `print_sample` of a sample with a type. `json` is the serializer. -/
def printSample (json : EchoJson → Except Str Str) (topic : Str) (known : TopicType)
    (payload : List UInt8) : TopicOutput → Except Str (List Str)
  | .debug =>
      .ok [str "topic: " ++ topic, str "type: " ++ known.topic.wireType,
        match known.decode fbs payload with
        | .ok decoded => decoded
        | .error error => str "decode_error: " ++ error,
        str "---"]
  | .json =>
      match json ⟨topic, known.topic.wireType, payload, (known.decode fbs payload).toOption⟩ with
      | .error error => .error error
      | .ok line => .ok [line]

/-- The locals of `topic_echo`, and what it printed. `echoed` is a history variable: the samples
that were printed. -/
structure Echoing where
  listener : Listener
  stdout : List Str
  echoed : List (ReceivedSample × TopicType)

/-- What is printed of a sample. -/
def echoText (json : EchoJson → Except Str Str) (output : TopicOutput) (raw : Bool)
    (sample : ReceivedSample) (known : TopicType) : Except Str (List Str) :=
  if raw then .ok [hexDump sample.payload]
  else printSample fbs json sample.key known sample.payload output

def echoTurn (json : EchoJson → Except Str Str) (output : TopicOutput) (once raw : Bool)
    (forcedType : Option TopicType) (state : Echoing) :
    Reception → Scan.Turn Echoing (Except Str Unit)
  | .failed error => .stop state (.error (failedToReceive error))
  | .nothing => .next state
  | .sample sample =>
      match requireValueType fbs sample.key sample.encoding forcedType with
      | .error error => .next { state with listener := state.listener.reject sample error }
      | .ok known =>
          match echoText fbs json output raw sample known with
          | .error error => .stop state (.error error)
          | .ok lines =>
              let after := { state with
                stdout := state.stdout ++ lines
                echoed := state.echoed ++ [(sample, known)] }
              if once then .stop after (.ok ()) else .next after

/-- The loop of `topic_echo`. -/
def echoLoop (json : EchoJson → Except Str Str) (output : TopicOutput) (once raw : Bool)
    (forcedType : Option TopicType) (receptions : List Reception) : Except Str Unit × Echoing :=
  match Scan.run (echoTurn fbs json output once raw forcedType) ⟨⟨.default, []⟩, [], []⟩
      receptions with
  | (state, some result) => (result, state)
  | (state, none) => (.ok (), state)

/-- `topic_echo`: its result, and what the loop left where it came to it. -/
def topicEcho (json : EchoJson → Except Str Str) (topic : Str) (ty : Option Str)
    (output : TopicOutput) (once raw : Bool) (subscribing : Subscribing)
    (receptions : List Reception) : Except Str Unit × Option Echoing :=
  match subscribing.start (subscribeKeyexpr fbs topic) with
  | .error error => (.error error, none)
  | .ok () =>
      match requireType fbs ty with
      | .error error => (.error error, none)
      | .ok forcedType =>
          let (result, state) := echoLoop fbs json output once raw forcedType receptions
          (result, some state)

/-! ## topic info, hz and bw -/

/-- The locals of `observe_topic`, which become its `TopicStats`. -/
structure Observing where
  samples : UInt64
  bytes : UInt64
  knownType : Option TopicType
  listener : Listener

def observeTurn (state : Observing) : Reception → Scan.Turn Observing Str
  | .failed error => .stop state (failedToReceive error)
  | .nothing => .next state
  | .sample sample =>
      match requireValueType fbs sample.key sample.encoding state.knownType with
      | .error error => .next { state with listener := state.listener.reject sample error }
      | .ok known =>
          .next { state with
            samples := state.samples + 1
            bytes := state.bytes + UInt64.ofNat sample.payload.length
            knownType := some known }

/-- `observe_topic` -/
def observeTopic (topic : Str) (subscribing : Subscribing) (duration : Except Str Unit)
    (receptions : List Reception) : Except Str Observing :=
  match subscribing.start (subscribeKeyexpr fbs topic) with
  | .error error => .error error
  | .ok () =>
      match duration with
      | .error error => .error error
      | .ok () =>
          match Scan.run (observeTurn fbs) ⟨0, 0, none, ⟨.default, []⟩⟩ receptions with
          | (_, some error) => .error error
          | (state, none) => .ok state

end

end Csyn
