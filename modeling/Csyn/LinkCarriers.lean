import Csyn.Link
import Csyn.TransportSizes

set_option autoImplicit false

/- The two transports as carriers of a topic: a board of zephyr/src/csyn_native_udp.c or
zephyr/src/csyn_zenoh.c at either end. -/
namespace Csyn

/-! ## UDP -/

/-- A sample arrives as the datagram that `tx_topic_if_updated` builds of it. -/
def udpCarrier (config : Kconfig) (info : SynapseTopicInfo) : Carrier where
  rule := txTopicIfUpdated config
  arrival payload _ := .datagram (txBuffer (fun _ => 0) info.id payload)

section

variable {config : Kconfig} {registry : List CsynTopic} {info : SynapseTopicInfo} {j room : Nat}
  {topic : CsynTopic}

/-- The receive buffer and the slots have room, and no earlier topic has the catalog id. -/
theorem udpCarrier_delivers (sending : Kconfig)
    (found : csynTopicByCatalogId registry info.id = some j) (present : registry[j]? = some topic)
    (roomy : room ≤ min topic.maxSize.toNat config.flatbufferMaxSize) :
    (udpCarrier sending info).Delivers config registry j room := by
  obtain ⟨slots, buffer⟩ := Nat.le_min.mp roomy
  refine ⟨⟨topic, present, slots⟩, ?_⟩
  intro board same bytes now _ bounded
  have framed : udpFrame (udpRecv config (udpDatagram info.id bytes)) = some (info.id, bytes) :=
    udpFrame_datagram info.id (Nat.le_trans bounded buffer)
  have routed := (csynTopicByCatalogId_congr same info.id).trans found
  simp only [udpCarrier, txBuffer_eq, Feed.handed, framed, routed, Option.map_some]

end

/-! ## Zenoh -/

/-- The subscription that the loop of `open_session` declares for a topic. -/
def rxSubscription (config : Kconfig) (registry : List CsynTopic) (j : Nat) :
    Option Subscription :=
  registry[j]?.bind fun topic =>
    (rxHandler config topic).bind fun handler =>
      (topicKeyexpr config topic csynZenohKeyexprMax).map fun key => ⟨key, handler, j⟩

/-- A put as the receiving zenoh-pico presents it, with its rendering of the encoding. -/
def ZPut.sample (put : ZPut) (wrapper : Str) : ZSample where
  key := some put.key
  encoding := some (wrapper ++ put.encoding)
  payload := ⟨put.payload.length, put.payload⟩

/-- What `zenoh_put` passes on arrives on the subscription with its key. -/
def zenohCarrier (config receiving : Kconfig) (topic : CsynTopic) (info : SynapseTopicInfo)
    (wrapper : Str) (registry : List CsynTopic) (j : Nat) : Carrier where
  rule := putTopicIfUpdated config
  arrival payload now :=
    match (zenohPut config .succeeding topic info payload).2, rxSubscription receiving registry j with
    | some put, some subscription =>
        if put.key = subscription.key then
          .sample subscription.handler subscription.topic (put.sample wrapper) now
        else .publish j none
    | _, _ => .publish j none

theorem zenohPut_key {config : Kconfig} {pico : ZenohPico} {topic : CsynTopic}
    {info : SynapseTopicInfo} {payload : List UInt8} {put : ZPut}
    (sent : (zenohPut config pico topic info payload).2 = some put) :
    topicKeyexpr config topic csynZenohKeyexprMax = some put.key := by
  unfold zenohPut at sent
  split at sent
  · cases sent
  · rename_i key keyed
    split at sent
    · cases sent
    · split at sent
      · cases sent
      · dsimp only at sent
        split at sent
        · cases sent
        · split at sent
          · cases sent
          · cases sent
            exact keyed

/-- A contract that `zenoh_put` can stamp names its entry, however the encoding is rendered. -/
theorem contract_named {info : SynapseTopicInfo} {contract wrapper : Str}
    (built : info.contract = some contract) (wrapped : wrapper ∈ transportWrappers) :
    info.ContractFits ∧ info.NamedBy (some (wrapper ++ contract)) := by
  obtain ⟨wireType, schemaHash, typed, hashed, rfl, fits⟩ := completeContract_some built
  constructor
  · intro wireType' schemaHash' typed' hashed'
    rw [typed] at typed'
    rw [hashed] at hashed'
    cases typed'
    cases hashed'
    exact fits
  · exact ⟨wireType, schemaHash, _, typed, hashed, rfl, wrapper, wrapped, rfl⟩

/-- `input_handler` hands a put with the topic's contract on, if the buffers have room. -/
theorem inputHandler_handsOn (config : Kconfig) {topic : CsynTopic} {info : SynapseTopicInfo}
    {put : ZPut} {wrapper : Str} (resolved : topic.info = some info)
    (built : info.contract = some put.encoding) (wrapped : wrapper ∈ transportWrappers)
    (roomy : put.payload.length ≤ min topic.maxSize.toNat config.flatbufferMaxSize)
    (suppressFallback : Int) :
    InputHandler.input.handsOn config topic suppressFallback (put.sample wrapper) =
      some put.payload := by
  have matched : topic.contractMatches (put.sample wrapper) = true := by
    unfold CsynTopic.contractMatches
    rw [resolved]
    exact (valueContract_check info _).mpr (contract_named built wrapped)
  have small : topic.tooLarge config (put.sample wrapper) = false := by
    unfold CsynTopic.tooLarge
    rw [decide_eq_false_iff_not, Nat.not_lt, Nat.min_comm]
    exact roomy
  have whole : (put.sample wrapper).payload.read (put.sample wrapper).payload.len =
      put.payload := List.take_length
  have admitted : topic.admits config true (put.sample wrapper) = some put.payload := by
    have sized : put.payload.length = (put.sample wrapper).payload.len := rfl
    simp only [CsynTopic.admits, matched, small, whole, sized, Bool.not_true, Bool.and_false,
      Bool.false_eq_true, ne_eq, not_true_eq_false, ↓reduceIte]
  unfold InputHandler.handsOn
  simp only [InputHandler.requiresContract, admitted, InputHandler.arbitrate, ↓reduceIte]

section

variable {config receiving : Kconfig} {registry : List CsynTopic} {info : SynapseTopicInfo}
  {j room : Nat} {source topic : CsynTopic} {key contract wrapper : Str}

/-- The subscription has the key of the puts, the entries agree and the buffers have room. -/
theorem zenohCarrier_delivers (keyed : topicKeyexpr config source csynZenohKeyexprMax = some key)
    (built : info.contract = some contract) (wrapped : wrapper ∈ transportWrappers)
    (subscribed : rxSubscription receiving registry j = some ⟨key, .input, j⟩)
    (present : registry[j]? = some topic) (resolved : topic.info = some info)
    (roomy : room ≤ min topic.maxSize.toNat receiving.flatbufferMaxSize) :
    (zenohCarrier config receiving source info wrapper registry j).Delivers receiving registry j
      room := by
  refine ⟨⟨topic, present, Nat.le_trans roomy (Nat.min_le_left _ _)⟩, ?_⟩
  intro board same bytes now _ bounded
  obtain ⟨put, passed⟩ := zenohPut_succeeds (zenohPut_succeeding keyed built bytes)
  obtain ⟨carried, stamped⟩ := zenohPut_stamped passed
  have named := zenohPut_key passed
  rw [keyed, Option.some.injEq] at named
  obtain ⟨now_, found, declared⟩ := same.get present
  have handed := inputHandler_handsOn receiving (declared.info.trans resolved) stamped
    wrapped (by rw [carried, declared.maxSize]; exact Nat.le_trans bounded roomy)
    board.suppressFallback
  simp only [zenohCarrier, passed, subscribed, ← named, ↓reduceIte, Feed.handed, found, handed,
    Option.map_some, carried]

end

/-- A topic that a board subscribes to through Zenoh follows the topic of the board that puts it,
through any number of sessions of that board and failed puts. -/
theorem zenoh_link_follows (config receiving : Kconfig)
    (synapseTopicByKey : Str → Option SynapseTopicInfo) (declarations : List TopicDeclaration)
    (declared : Str) (info : SynapseTopicInfo) (maxSize : UInt16) (j : Nat) (topic : CsynTopic)
    (key contract wrapper : Str)
    (keyed : topicKeyexpr config (Store.boot declared (some info) .tx maxSize).topic
      csynZenohKeyexprMax = some key)
    (built : info.contract = some contract) (wrapped : wrapper ∈ transportWrappers)
    (subscribed : rxSubscription receiving (bootRegistry synapseTopicByKey declarations) j =
      some ⟨key, .input, j⟩)
    (present : (bootRegistry synapseTopicByKey declarations)[j]? = some topic)
    (resolved : topic.info = some info)
    (roomy : maxSize.toNat ≤ min topic.maxSize.toNat receiving.flatbufferMaxSize)
    (schedule : List LinkAction) (s : Link)
    (reached : Automaton.run (Link.step (zenohCarrier config receiving
        (Store.boot declared (some info) .tx maxSize).topic info wrapper
        (bootRegistry synapseTopicByKey declarations) j) receiving j)
      (.boot (.boot declared (some info) .tx maxSize)
        (bootRegistry synapseTopicByKey declarations)) schedule = some s)
    (small : s.sender.store.published.length < 2 ^ 32) (few : s.arrived.length < 2 ^ 32) :
    s.Follows (putTopicIfUpdated config) j :=
  Link.run_follows _ receiving _ (Store.boot_consistent declared _ .tx maxSize) _
    bootRegistry_unwritten
    (zenohCarrier_delivers keyed built wrapped subscribed present resolved roomy) reached small few

/-- A put fails and the session is opened again, after which the sample is put and arrives. -/
def reopenedLink : List LinkAction :=
  [.sender (.writer (.call (some [7]))), .sender (.writer (.moveByte 0)),
    .sender (.writer .storeLength), .sender (.writer .setGeneration),
    .sender (.poll fun _ => 0), .sender (.copy .readGeneration), .sender (.copy .readLength),
    .sender (.copy (.moveByte 0)), .sender (.copy .rereadGeneration), .sender (.hand false),
    .sender .reopen, .sender (.poll fun _ => 0), .sender (.copy .readGeneration),
    .sender (.copy .readLength), .sender (.copy (.moveByte 0)), .sender (.copy .rereadGeneration),
    .sender (.hand true), .arrive 0 5]

/-- The command topic under its key in the namespace of the sending board. -/
def fleetConfig : Kconfig := { Kconfig.default with deploymentNamespace := str "cub1" }

set_option maxRecDepth 8192 in
theorem zenoh_link_follows_reopened :
    ∃ registry s p, registry = bootRegistry (fun _ => none) [⟨str "cub1/vehicle_command", .rx, 40⟩] ∧
      Automaton.run (Link.step (zenohCarrier fleetConfig .default
          (Store.boot (str "vehicle_command") (some gVehicleCommandInfo) .tx 1).topic
          gVehicleCommandInfo [semicolon] registry 0) .default 0)
        (.boot (.boot (str "vehicle_command") (some gVehicleCommandInfo) .tx 1) registry)
        reopenedLink = some s ∧
      s.sender.store.published.getLast? = some p ∧ p.payload = [7] ∧ s.Reads 0 p.payload := by
  have follows := zenoh_link_follows fleetConfig .default (fun _ => none)
    [⟨str "cub1/vehicle_command", .rx, 40⟩] (str "vehicle_command") gVehicleCommandInfo 1 0 _
    (str "cub1/vehicle_command") _ [semicolon] (by decide) rfl (by decide) rfl rfl rfl (by decide)
    reopenedLink _ rfl (by decide) (by decide)
  obtain ⟨p, last, reads⟩ := follows.latest rfl (by decide) rfl
  cases last
  exact ⟨_, _, _, rfl, rfl, rfl, rfl, reads⟩

end Csyn
