import Csyn.Contract
import Csyn.Lib.Automaton

set_option autoImplicit false

/- The callbacks of zephyr/src/csyn_zenoh.c: `input_handler`, `mocap_input_handler_common`
and `query_handler`, each on one sample or query. They run one after the other on
zenoh-pico's receive thread. -/
namespace Csyn

/-- `CSYN_CONTRACT_WARNING_INTERVAL_MS` -/
def csynContractWarningIntervalMs : Int := 10000

/-- A payload: the length `z_bytes_len` reports and what a reader yields. -/
structure ZBytes where
  len : Nat
  content : List UInt8

/-- The first `n` bytes a reader yields; fewer when the payload ends early. -/
def ZBytes.read (bytes : ZBytes) (n : Nat) : List UInt8 := bytes.content.take n

/-- `z_loaned_sample_t`. The encoding is the text `z_encoding_to_string` renders, or `none`
when it fails; the key is `none` for a NULL view. -/
structure ZSample where
  key : Option Str
  encoding : Option Str
  payload : ZBytes

/-- What a rejection does to the warning clock: whether it logs, and the new
`last_contract_warning_ms`. -/
def contractWarning (last now : Int) : Bool × Int :=
  if last = 0 ∨ now - last ≥ csynContractWarningIntervalMs then (true, max now 1)
  else (false, last)

/-- `sample_contract_matches`. `none` is the access through a NULL `info`. -/
def sampleContractMatches (topic : CsynTopic) (sample : ZSample) (now : Int) :
    Option (Bool × CsynTopic) :=
  match topic.info with
  | none => none
  | some info =>
      if checkContract (valueContract info csynValueContractMax) sample.encoding then
        some (true, topic)
      else
        let warning := contractWarning topic.lastContractWarningMs now
        some (false, { topic with lastContractWarningMs := warning.2 })

/-- `payload_len > MIN(sizeof(buf), (size_t)topic->max_size)` -/
def CsynTopic.tooLarge (config : Kconfig) (topic : CsynTopic) (sample : ZSample) : Bool :=
  decide (sample.payload.len > min config.flatbufferMaxSize topic.maxSize.toNat)

/-- `input_handler`, with what `csyn_topic_publish` returned or `false` without a call. -/
def inputHandler (config : Kconfig) (topic : CsynTopic) (sample : ZSample) (now : Int) :
    Option (Bool × CsynTopic) :=
  match sampleContractMatches topic sample now with
  | none => none
  | some (false, topic) => some (false, topic)
  | some (true, topic) =>
      if topic.tooLarge config sample then some (false, topic)
      else
        let buf := sample.payload.read sample.payload.len
        if buf.length ≠ sample.payload.len then some (false, topic)
        else some (csynTopicPublish topic (some buf))

/-- `key_contains` -/
def keyContains (key : Option Str) (needle : Str) : Bool :=
  match key with
  | none => false
  | some key => (Delimited.find? needle key).isSome

theorem keyContains_iff (key needle : Str) :
    keyContains (some key) needle = true ↔ needle <:+: key := by
  rw [keyContains, Delimited.find?_isSome]

/-- The tracking-lost sentinel has an all-0xff header. -/
def plausiblePose (buf : List UInt8) : Bool :=
  decide (4 ≤ buf.length) && !(buf.take 4 == [0xff, 0xff, 0xff, 0xff])

/-- `mocap_input_handler_common` once the sample is read: whether it goes on to publish, and
the new `suppress_fallback`. -/
def mocapArbitration (config : Kconfig) (suppressFallback : Int) (sample : ZSample)
    (buf : List UInt8) : Bool × Int :=
  if keyContains sample.key (str "/selected/") then
    (true, if plausiblePose buf then config.zenohMocapSelectedHoldSamples else suppressFallback)
  else if suppressFallback > 0 then (false, suppressFallback - 1)
  else (true, suppressFallback)

/-- `mocap_input_handler_common`: what was published, the topic and `suppress_fallback`. -/
def mocapInputHandlerCommon (config : Kconfig) (requireContract : Bool) (topic : CsynTopic)
    (suppressFallback : Int) (sample : ZSample) (now : Int) : Option (Bool × CsynTopic × Int) :=
  match if requireContract then sampleContractMatches topic sample now else some (true, topic) with
  | none => none
  | some (false, topic) => some (false, topic, suppressFallback)
  | some (true, topic) =>
      if topic.tooLarge config sample then some (false, topic, suppressFallback)
      else
        let buf := sample.payload.read sample.payload.len
        if buf.length ≠ sample.payload.len then some (false, topic, suppressFallback)
        else
          match mocapArbitration config suppressFallback sample buf with
          | (false, suppressFallback) => some (false, topic, suppressFallback)
          | (true, suppressFallback) =>
              let (stored, topic) := csynTopicPublish topic (some buf)
              some (stored, topic, suppressFallback)

/-- `struct csyn_queryable`; the handler behind it is the application's. -/
structure CsynQueryable where
  key : Str
  command : Option SynapseCommandInfo
  lastContractWarningMs : Int

/-- `CSYN_ZENOH_MAX_QUERYABLES` -/
def csynZenohMaxQueryables : Nat := 8

/-- `csyn_zenoh_register_queryable` -/
def csynZenohRegisterQueryable (synapseCommandByName : Str → Option SynapseCommandInfo)
    (queryables : List CsynQueryable) (key : Option Str) (handler : Bool) :
    Bool × List CsynQueryable :=
  match key with
  | none => (false, queryables)
  | some key =>
      if !handler ∨ queryables.length ≥ csynZenohMaxQueryables then (false, queryables)
      else (true, queryables ++ [⟨key, synapseCommandByName (keySegment key), 0⟩])

/-- `z_loaned_query_t` -/
structure ZQuery where
  encoding : Option Str
  payload : ZBytes

/-- `query_contract_matches` -/
def queryContractMatches (service : CsynQueryable) (query : ZQuery) (now : Int) :
    Bool × CsynQueryable :=
  match service.command with
  | none => (true, service)
  | some command =>
      if checkContract (commandContract command false csynValueContractMax) query.encoding then
        (true, service)
      else
        let warning := contractWarning service.lastContractWarningMs now
        (false, { service with lastContractWarningMs := warning.2 })

/-- What the application's handler answers a request with: its return value, the contents
of the reply buffer and `reply_len`. -/
structure ServiceAnswer where
  ok : Bool
  reply : List UInt8
  replyLen : Nat

/-- `options.encoding` when `z_query_reply` is called: NULL, or the address of the `encoding` of the
block that set it, which has ended by then. -/
inductive OptionsEncoding where
  | null
  | ended (held : Str)
  deriving DecidableEq

/-- A reply as passed to `z_query_reply`. -/
structure QueryReply where
  payload : List UInt8
  encoding : OptionsEncoding

/-- What a query led to: the request the handler was invoked with, and the reply. -/
structure QueryOutcome where
  service : CsynQueryable
  request : Option (List UInt8)
  reply : Option QueryReply

/-- What `query_handler` sets `options.encoding` to. `encodes` is `z_encoding_from_str` succeeding. -/
def replyEncoding (service : CsynQueryable) (encodes : Str → Bool) : OptionsEncoding :=
  match service.command with
  | none => .null
  | some command =>
      let contract := commandContract command true csynValueContractMax
      -- The owned encoding is a local of this block, and only its address leaves it.
      if 0 < contract.1 ∧ contract.1 < csynValueContractMax ∧ encodes contract.2 then
        .ended contract.2
      else .null

/-- The encoding that `z_query_reply` sends. `residue` is what a read of the object gives after its
block, by what it held; C promises nothing of it. -/
def OptionsEncoding.read (residue : Str → Option Str) : OptionsEncoding → Option Str
  | .null => none
  | .ended held => residue held

/-- `query_handler`. `copies` is `z_bytes_copy_from_buf` succeeding. -/
def queryHandler (config : Kconfig) (handler : List UInt8 → ServiceAnswer) (copies : Bool)
    (encodes : Str → Bool) (service : CsynQueryable) (query : ZQuery) (now : Int) :
    QueryOutcome :=
  match queryContractMatches service query now with
  | (false, service) => ⟨service, none, none⟩
  | (true, service) =>
      if query.payload.len > config.flatbufferMaxSize then ⟨service, none, none⟩
      else
        let request := query.payload.read query.payload.len
        if request.length ≠ query.payload.len then ⟨service, none, none⟩
        else
          let answer := handler request
          if !answer.ok ∨ answer.replyLen > config.flatbufferMaxSize then
            ⟨service, some request, none⟩
          else if copies then
            ⟨service, some request,
              some ⟨answer.reply.take answer.replyLen, replyEncoding service encodes⟩⟩
          else ⟨service, some request, none⟩

/-! The callbacks over the registry. -/

/-- The callback of a subscription. -/
inductive InputHandler where
  | input
  | mocap
  | legacyMocap
  deriving DecidableEq

/-- A sample that `csyn_topic_publish` accepted, and a request its handler was invoked with. -/
structure StoredSample where
  handler : InputHandler
  topic : Nat
  sample : ZSample

structure InvokedService where
  service : Nat
  query : ZQuery

/-- The state the callbacks share. `stored` and `invoked` are history variables. -/
structure ZenohInput where
  registry : List CsynTopic
  queryables : List CsynQueryable
  suppressFallback : Int
  stored : List StoredSample
  invoked : List InvokedService

inductive ZenohEvent where
  | sample (handler : InputHandler) (topic : Nat) (sample : ZSample) (now : Int)
  | query (service : Nat) (query : ZQuery) (now : Int) (handler : List UInt8 → ServiceAnswer)
      (copies : Bool) (encodes : Str → Bool)

def ZenohInput.boot (registry : List CsynTopic) (queryables : List CsynQueryable) :
    ZenohInput where
  registry := registry
  queryables := queryables
  suppressFallback := 0
  stored := []
  invoked := []

/-- The callback of a subscription on one topic. -/
def InputHandler.handle (config : Kconfig) (handler : InputHandler) (topic : CsynTopic)
    (suppressFallback : Int) (sample : ZSample) (now : Int) : Option (Bool × CsynTopic × Int) :=
  match handler with
  | .input => (inputHandler config topic sample now).map fun after =>
      (after.1, after.2, suppressFallback)
  | .mocap => mocapInputHandlerCommon config true topic suppressFallback sample now
  | .legacyMocap => mocapInputHandlerCommon config false topic suppressFallback sample now

/-- One callback; `none` where there is no such topic or service, or no `info` to check. -/
def ZenohInput.step (config : Kconfig) (s : ZenohInput) : ZenohEvent → Option ZenohInput
  | .sample handler i sample now =>
      match s.registry[i]? with
      | none => none
      | some topic =>
          (handler.handle config topic s.suppressFallback sample now).map fun after =>
            { s with
              registry := s.registry.set i after.2.1
              suppressFallback := after.2.2
              stored := if after.1 then s.stored ++ [⟨handler, i, sample⟩] else s.stored }
  | .query i query now handler copies encodes =>
      match s.queryables[i]? with
      | none => none
      | some service =>
          let outcome := queryHandler config handler copies encodes service query now
          some { s with
            queryables := s.queryables.set i outcome.service
            invoked := if outcome.request.isSome then s.invoked ++ [⟨i, query⟩] else s.invoked }

end Csyn
