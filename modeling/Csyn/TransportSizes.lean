import Csyn.HandedOn
import Csyn.RegistryInit
import Csyn.UdpFrames
import Csyn.ZenohPut

set_option autoImplicit false

/- What the store accepts against what the transports carry. A sample passes three sizes: the
slot it is stored in, the buffers that CONFIG_CSYN_FLATBUFFER_MAX_SIZE gives the transports, and,
for a fixed layout, its catalog entry. -/
namespace Csyn

/-! ## The next poll after a publish -/

/-- What a poll copies right after an accepted sample. -/
theorem copyCsynTopicOnce_publish {topic : CsynTopic} {bytes buf : List UInt8} {bufSize : Nat}
    {lastGeneration generation : UInt32} (fits : topic.accepts (some bytes) = true) :
    copyCsynTopicOnce (csynTopicPublish topic (some bytes)).2 bufSize lastGeneration =
        some (buf, generation) ↔
      (topic.generation + 1 ≠ 0 ∧ topic.generation + 1 ≠ lastGeneration ∧
        bytes.length ≤ bufSize) ∧ buf = bytes ∧ generation = topic.generation + 1 := by
  have moved : (csynTopicPublish topic (some bytes)).2.generation = topic.generation + 1 := by
    rw [csynTopicPublish_accepted fits]
  have stored : ((csynTopicPublish topic (some bytes)).2.lengths
      (slotOf (topic.generation + 1))).toNat = bytes.length := by
    rw [csynTopicPublish_accepted fits]
    dsimp only
    rw [Function.update_self]
    exact (CsynTopic.accepts_length fits).1
  unfold copyCsynTopicOnce csynTopicGeneration
  dsimp only
  rw [moved]
  by_cases still : topic.generation + 1 = 0 ∨ topic.generation + 1 = lastGeneration
  · rw [if_pos still]
    constructor
    · intro copied
      cases copied
    · intro due
      exact absurd still (not_or.mpr ⟨due.1.1, due.1.2.1⟩)
  · rw [if_neg still]
    rw [not_or] at still
    by_cases room : bytes.length ≤ bufSize
    · rw [csynTopicCopy_publish fits still.1 room]
      simp only [Option.map_some, Option.some.injEq, Prod.mk.injEq]
      constructor
      · intro same
        exact ⟨⟨still.1, still.2, room⟩, same.1.symm, same.2.symm⟩
      · intro due
        exact ⟨due.2.1.symm, due.2.2.symm⟩
    · constructor
      · intro copied
        obtain ⟨⟨taken, recorded⟩, within, -⟩ := Option.map_eq_some_iff.mp copied
        obtain ⟨-, same, sized, -, upper⟩ := csynTopicCopy_cases within
        rw [same, moved, stored] at sized
        omega
      · intro due
        exact absurd due.1.2.2 room

section

variable {config : Kconfig} {topic : CsynTopic} {info : SynapseTopicInfo} {bytes : List UInt8}
  {lastGeneration : UInt32}

/-- The datagram that the next UDP poll sends. -/
theorem txTopicIfUpdatedOnce_publish (resolved : topic.info = some info)
    (fits : topic.accepts (some bytes) = true) (scratch : ByteMemory) :
    (∃ generation, txTopicIfUpdatedOnce config scratch (csynTopicPublish topic (some bytes)).2
        lastGeneration = some (udpDatagram info.id bytes, generation)) ↔
      topic.generation + 1 ≠ 0 ∧ topic.generation + 1 ≠ lastGeneration ∧
        bytes.length ≤ config.flatbufferMaxSize := by
  unfold txTopicIfUpdatedOnce
  rw [(csynTopicPublish_sameDeclaration topic _).info, resolved]
  dsimp only
  constructor
  · intro sent
    obtain ⟨generation, same⟩ := sent
    obtain ⟨copied, taken, -⟩ := Option.map_eq_some_iff.mp same
    exact ((copyCsynTopicOnce_publish fits).mp taken).1
  · intro due
    refine ⟨topic.generation + 1, ?_⟩
    rw [(copyCsynTopicOnce_publish fits).mpr ⟨due, rfl, rfl⟩, Option.map_some, txBuffer_eq]

/-- What the next Zenoh poll passes to `z_put`. -/
theorem putTopicIfUpdatedOnce_publish {pico : ZenohPico} (resolved : topic.info = some info)
    (fits : topic.accepts (some bytes) = true)
    (succeeds : (zenohPut config pico topic info bytes).1 = 0) :
    (∃ put, (putTopicIfUpdatedOnce config pico (csynTopicPublish topic (some bytes)).2
        lastGeneration).1 = some put ∧ put.payload = bytes) ↔
      topic.generation + 1 ≠ 0 ∧ topic.generation + 1 ≠ lastGeneration ∧
        bytes.length ≤ config.flatbufferMaxSize := by
  have declared := csynTopicPublish_sameDeclaration topic (some bytes)
  have resolved' : (csynTopicPublish topic (some bytes)).2.info = some info :=
    declared.info.trans resolved
  have keyed : topicKeyexpr config (csynTopicPublish topic (some bytes)).2 =
      topicKeyexpr config topic := by
    unfold topicKeyexpr
    rw [declared.key]
  constructor
  · intro sent
    obtain ⟨put, passed, -⟩ := sent
    unfold putTopicIfUpdatedOnce at passed
    rw [resolved'] at passed
    dsimp only at passed
    split at passed
    · cases passed
    · rename_i buf generation copied
      exact ((copyCsynTopicOnce_publish fits).mp copied).1
  · intro due
    have copied := (copyCsynTopicOnce_publish fits).mpr ⟨due, rfl, rfl⟩
    obtain ⟨put, passed⟩ := zenohPut_succeeds succeeds
    refine ⟨put, ?_, (zenohPut_stamped passed).1⟩
    rw [putTopicIfUpdatedOnce_copied resolved' copied]
    dsimp only
    rw [← passed]
    unfold zenohPut
    rw [keyed]

end

/-! ## Reception -/

theorem csynTopicPublish_stored {topic : CsynTopic} {buf : Option (List UInt8)}
    (fits : topic.accepts buf = true) :
    csynTopicPublish topic buf = (true, (csynTopicPublish topic buf).2) :=
  Prod.ext ((csynTopicPublish_returns topic buf).trans fits) rfl

/-- A sample that names the contract is stored by `input_handler` if that contract, the buffer
and the slot have room for it. -/
theorem inputHandler_stores_iff {config : Kconfig} {topic : CsynTopic} {info : SynapseTopicInfo}
    {bytes : List UInt8} {encoding : Option Str} (resolved : topic.info = some info)
    (named : info.NamedBy encoding) (key : Option Str) (now : Int) :
    (∃ after, csynTopicPublish topic (some bytes) = (true, after) ∧
        inputHandler config topic ⟨key, encoding, ⟨bytes.length, bytes⟩⟩ now =
          some (true, after)) ↔
      info.ContractFits ∧ bytes.length ≤ config.flatbufferMaxSize ∧
        topic.accepts (some bytes) = true := by
  have check := valueContract_check info encoding
  have whole : (ZBytes.mk bytes.length bytes).read bytes.length = bytes := List.take_length
  constructor
  · intro stored
    obtain ⟨after, published, handled⟩ := stored
    have fits : topic.accepts (some bytes) = true := by
      rw [← csynTopicPublish_returns, published]
    unfold inputHandler sampleContractMatches at handled
    rw [resolved] at handled
    dsimp only at handled
    by_cases matched :
        checkContract (valueContract info csynValueContractMax) encoding = true
    · rw [if_pos matched] at handled
      dsimp only at handled
      refine ⟨(check.mp matched).1, ?_, fits⟩
      by_cases large : topic.tooLarge config ⟨key, encoding, ⟨bytes.length, bytes⟩⟩ = true
      · rw [if_pos large] at handled
        cases handled
      · unfold CsynTopic.tooLarge at large
        rw [decide_eq_true_eq, Nat.not_lt, Nat.le_min] at large
        exact large.1
    · rw [if_neg matched] at handled
      cases handled
  · intro room
    obtain ⟨contractFits, small, fits⟩ := room
    refine ⟨_, csynTopicPublish_stored fits, ?_⟩
    have large : ¬ topic.tooLarge config ⟨key, encoding, ⟨bytes.length, bytes⟩⟩ = true := by
      unfold CsynTopic.tooLarge
      rw [decide_eq_true_eq, Nat.not_lt, Nat.le_min]
      exact ⟨small, (CsynTopic.accepts_some.mp fits).2⟩
    unfold inputHandler sampleContractMatches
    rw [resolved]
    dsimp only
    rw [if_pos (check.mpr ⟨contractFits, named⟩)]
    dsimp only
    rw [if_neg large, whole, if_neg (fun short => short rfl), ← csynTopicPublish_stored fits]

theorem getLe16_udpDatagram_size (catalogId : UInt16) (payload : List UInt8) :
    getLe16 (udpDatagram catalogId payload) 6 = UInt16.ofNat payload.length :=
  LittleEndian.word16_bytes _

/-- What `rx_drain` takes from a datagram of `tx_topic_if_updated` is its sample, whole. -/
theorem udpFrame_datagram_iff {config : Kconfig} {catalogId taken : UInt16}
    {payload bytes : List UInt8} (narrow : payload.length < 2 ^ 16) :
    udpFrame (udpRecv config (udpDatagram catalogId payload)) = some (taken, bytes) ↔
      payload.length ≤ config.flatbufferMaxSize ∧ taken = catalogId ∧ bytes = payload := by
  constructor
  · intro framed
    have room : payload.length ≤ config.flatbufferMaxSize := by
      obtain ⟨narrow', cut⟩ := (udpFrame_iff _ _ _).mp framed
      have lower := config.flatbuffer_lower
      have header : csynUdpHeaderSize = 8 := rfl
      have sizes := congrArg (fun buf => getLe16 buf 6) cut
      have lengths := congrArg List.length cut
      unfold udpRecv at sizes lengths
      rw [getLe16_take _ (by omega), getLe16_udpDatagram_size, getLe16_udpDatagram_size] at sizes
      have same := congrArg UInt16.toNat sizes
      rw [UInt16.toNat_ofNat', UInt16.toNat_ofNat', Nat.mod_eq_of_lt narrow,
        Nat.mod_eq_of_lt narrow'] at same
      rw [List.length_take, udpDatagram_length, udpDatagram_length] at lengths
      omega
    rw [udpFrame_datagram catalogId room, Option.some.injEq, Prod.mk.injEq] at framed
    exact ⟨room, framed.1.symm, framed.2.symm⟩
  · intro whole
    rw [udpFrame_datagram catalogId whole.1, whole.2.1, whole.2.2]

/-- A datagram with a sample for a topic is stored there if the buffer has room for it and no
earlier topic has its catalog id. -/
theorem rxDatagram_stores_iff {config : Kconfig} {s : UdpReceiver} {i : Nat} {topic : CsynTopic}
    {bytes : List UInt8} (present : s.registry[i]? = some topic)
    (fits : topic.accepts (some bytes) = true) (catalogId : UInt16) :
    (rxDatagram config s (udpDatagram catalogId bytes)).registry[i]? =
        some (csynTopicPublish topic (some bytes)).2 ↔
      bytes.length ≤ config.flatbufferMaxSize ∧
        csynTopicByCatalogId s.registry catalogId = some i := by
  have narrow : bytes.length < 2 ^ 16 :=
    Nat.lt_of_le_of_lt (CsynTopic.accepts_some.mp fits).2 (UInt16.toNat_lt _)
  have untouched : s.registry[i]? ≠ some (csynTopicPublish topic (some bytes)).2 := by
    intro same
    rw [present, Option.some.injEq] at same
    exact csynTopicPublish_generation_ne fits (congrArg CsynTopic.generation same.symm)
  constructor
  · intro stored
    rcases rxDatagram_cases config s (udpDatagram catalogId bytes) with
      same | ⟨j, payload, ⟨taken, framed, found⟩, published⟩
    · rw [same] at stored
      exact absurd stored untouched
    · obtain ⟨room, rfl, rfl⟩ := (udpFrame_datagram_iff narrow).mp framed
      by_cases here : j = i
      · rw [here] at found
        exact ⟨room, found⟩
      · rw [published, publishAt_other _ here] at stored
        exact absurd stored untouched
  · intro taken
    rw [rxDatagram_offers ⟨catalogId, udpFrame_datagram catalogId taken.1, taken.2⟩]
    exact publishAt_self present

/-! ## What the transports carry -/

/-- The stores and what the two transmitting threads recorded for each topic. -/
structure Transports where
  registry : List CsynTopic
  lastPut : Nat → UInt32
  lastTx : Nat → UInt32

/-- Everything the store accepts, the transports carry: what is accepted on an outbound topic is
sent by the next poll, and a sample of the size of an inbound fixed layout is stored. -/
structure TransportsCarry (config : Kconfig) (s : Transports) : Prop where
  put : ∀ (i : Nat) topic info bytes pico, s.registry[i]? = some topic → topic.dir = .tx →
    topic.info = some info → topic.accepts (some bytes) = true →
    (zenohPut config pico topic info bytes).1 = 0 →
      ∃ put, (putTopicIfUpdatedOnce config pico (csynTopicPublish topic (some bytes)).2
        (s.lastPut i)).1 = some put ∧ put.payload = bytes
  tx : ∀ (i : Nat) topic info bytes scratch, s.registry[i]? = some topic → topic.dir = .tx →
    topic.info = some info → topic.accepts (some bytes) = true →
      ∃ generation, txTopicIfUpdatedOnce config scratch (csynTopicPublish topic (some bytes)).2
        (s.lastTx i) = some (udpDatagram info.id bytes, generation)
  input : ∀ (i : Nat) topic info bytes key encoding now, s.registry[i]? = some topic →
    topic.dir = .rx → topic.info = some info → info.fixedLayout = true →
    bytes.length = info.payloadSize → info.NamedBy encoding →
      ∃ after, csynTopicPublish topic (some bytes) = (true, after) ∧
        inputHandler config topic ⟨key, encoding, ⟨bytes.length, bytes⟩⟩ now = some (true, after)
  drain : ∀ (i : Nat) topic info bytes logged unknown, s.registry[i]? = some topic →
    topic.dir = .rx → topic.info = some info → info.fixedLayout = true →
    bytes.length = info.payloadSize →
      ∃ after, csynTopicPublish topic (some bytes) = (true, after) ∧
        (rxDatagram config ⟨s.registry, logged, unknown⟩
          (udpDatagram info.id bytes)).registry[i]? = some after

/-- The Zenoh key and the contract of the topic can be formed. -/
def CsynTopic.Puttable (config : Kconfig) (topic : CsynTopic) : Prop :=
  ∃ info key contract, topic.info = some info ∧
    topicKeyexpr config topic csynZenohKeyexprMax = some key ∧ info.contract = some contract

/-- The buffers of the transports have room for what the topics are for, and nothing else stands
in the way: the next generation is neither 0 nor one that a thread still has recorded, an inbound
layout is not empty, its contract fits, and it is the first topic with its catalog id. -/
structure Carriable (config : Kconfig) (s : Transports) : Prop where
  outbound : ∀ (i : Nat) topic, s.registry[i]? = some topic → topic.dir = .tx →
    0 < topic.maxSize.toNat → topic.maxSize.toNat ≤ config.flatbufferMaxSize ∧
      topic.generation + 1 ≠ 0 ∧ topic.generation + 1 ≠ s.lastTx i ∧
      (topic.Puttable config → topic.generation + 1 ≠ s.lastPut i)
  inbound : ∀ (i : Nat) topic info, s.registry[i]? = some topic → topic.dir = .rx →
    topic.info = some info → info.fixedLayout = true →
      (0 < info.payloadSize ∧ info.payloadSize ≤ config.flatbufferMaxSize) ∧
        info.ContractFits ∧ csynTopicByCatalogId s.registry info.id = some i

/-- zenoh-pico when no call fails. -/
def ZenohPico.succeeding : ZenohPico := ⟨fun _ => 0, fun _ => 0, fun _ => 0, fun _ => 0⟩

theorem zenohPut_succeeding {config : Kconfig} {topic : CsynTopic} {info : SynapseTopicInfo}
    {key contract : Str} (keyed : topicKeyexpr config topic csynZenohKeyexprMax = some key)
    (built : info.contract = some contract) (payload : List UInt8) :
    (zenohPut config .succeeding topic info payload).1 = 0 := by
  rw [← valueContract_usable] at built
  unfold usableContract at built
  split at built
  · rename_i usable
    have zero : ¬ (0 : Int) < 0 := by omega
    unfold zenohPut
    rw [keyed]
    dsimp only
    rw [if_neg (show ¬ ZenohPico.succeeding.viewKeyexprFromStr key < 0 from zero),
      if_neg (show ¬ ZenohPico.succeeding.bytesCopyFromBuf payload < 0 from zero),
      if_neg (show ¬ (_ ∨ _) by omega),
      if_neg (show ¬ ZenohPico.succeeding.encodingFromStr _ < 0 from zero)]
    rfl
  · cases built

theorem zenohPut_puttable {config : Kconfig} {pico : ZenohPico} {topic : CsynTopic}
    {info : SynapseTopicInfo} {payload : List UInt8} (resolved : topic.info = some info)
    (succeeds : (zenohPut config pico topic info payload).1 = 0) : topic.Puttable config := by
  obtain ⟨put, passed⟩ := zenohPut_succeeds succeeds
  obtain ⟨-, built⟩ := zenohPut_stamped passed
  cases keyed : topicKeyexpr config topic csynZenohKeyexprMax with
  | none =>
      unfold zenohPut at passed
      rw [keyed] at passed
      cases passed
  | some key => exact ⟨info, key, _, resolved, keyed, built⟩

theorem accepts_replicate {topic : CsynTopic} {n : Nat} (positive : 0 < n)
    (bounded : n ≤ topic.maxSize.toNat) :
    topic.accepts (some (List.replicate n 0)) = true := by
  apply CsynTopic.accepts_some.mpr
  rw [List.length_replicate]
  exact ⟨positive, bounded⟩

section

variable {config : Kconfig} {s : Transports} {i : Nat} {topic : CsynTopic}
  {info : SynapseTopicInfo}

/-- What carrying the largest sample of an outbound topic takes. -/
theorem TransportsCarry.outbound (carry : TransportsCarry config s)
    (present : s.registry[i]? = some topic) (direction : topic.dir = .tx)
    (resolved : topic.info = some info) (room : 0 < topic.maxSize.toNat) :
    topic.maxSize.toNat ≤ config.flatbufferMaxSize ∧ topic.generation + 1 ≠ 0 ∧
      topic.generation + 1 ≠ s.lastTx i ∧
      (topic.Puttable config → topic.generation + 1 ≠ s.lastPut i) := by
  have fits := accepts_replicate room (Nat.le_refl topic.maxSize.toNat)
  obtain ⟨live, moved, small⟩ := (txTopicIfUpdatedOnce_publish resolved fits fun _ => 0).mp
    (carry.tx i topic info _ (fun _ => 0) present direction resolved fits)
  rw [List.length_replicate] at small
  refine ⟨small, live, moved, ?_⟩
  intro puttable
  obtain ⟨own, key, contract, resolved', keyed, built⟩ := puttable
  have succeeds := zenohPut_succeeding keyed built (List.replicate topic.maxSize.toNat 0)
  exact ((putTopicIfUpdatedOnce_publish resolved' fits succeeds).mp
    (carry.put i topic own _ _ present direction resolved' fits succeeds)).2.1

/-- What storing one struct of an inbound topic takes, over either transport. -/
theorem TransportsCarry.inbound (carry : TransportsCarry config s)
    (present : s.registry[i]? = some topic) (direction : topic.dir = .rx)
    (resolved : topic.info = some info) (fixed : info.fixedLayout = true) :
    (0 < info.payloadSize ∧ info.payloadSize ≤ config.flatbufferMaxSize) ∧
      info.ContractFits ∧ csynTopicByCatalogId s.registry info.id = some i := by
  have length : (List.replicate info.payloadSize (0 : UInt8)).length = info.payloadSize :=
    List.length_replicate
  obtain ⟨after, published, stored⟩ := carry.drain i topic info _ false false present direction
    resolved fixed length
  have fits : topic.accepts (some (List.replicate info.payloadSize 0)) = true := by
    rw [← csynTopicPublish_returns, published]
  have same : after = (csynTopicPublish topic
      (some (List.replicate info.payloadSize 0))).2 := by rw [published]
  rw [same] at stored
  obtain ⟨room, first⟩ := (rxDatagram_stores_iff present fits info.id).mp stored
  obtain ⟨positive, -⟩ := CsynTopic.accepts_some.mp fits
  rw [length] at room positive
  refine ⟨⟨positive, room⟩, ?_, first⟩
  intro wireType schemaHash typed hashed
  have named : info.NamedBy (some (contractText info.fixedLayout wireType schemaHash)) :=
    ⟨wireType, schemaHash, _, typed, hashed, rfl, [], List.mem_cons_self, rfl⟩
  exact ((inputHandler_stores_iff resolved named none 0).mp
    (carry.input i topic info _ none _ 0 present direction resolved fixed length named)).1
      wireType schemaHash typed hashed

/-- One struct of an inbound topic passes every check of the two transports. -/
theorem Carriable.struct_passes {bytes : List UInt8} (carriable : Carriable config s)
    (present : s.registry[i]? = some topic) (direction : topic.dir = .rx)
    (resolved : topic.info = some info) (fixed : info.fixedLayout = true)
    (sized : topic.WellSized) (length : bytes.length = info.payloadSize) :
    topic.accepts (some bytes) = true ∧ bytes.length ≤ config.flatbufferMaxSize ∧
      info.ContractFits ∧ csynTopicByCatalogId s.registry info.id = some i := by
  obtain ⟨⟨positive, room⟩, contractFits, first⟩ :=
    carriable.inbound i topic info present direction resolved fixed
  have size := sized info resolved fixed
  refine ⟨CsynTopic.accepts_some.mpr ⟨by omega, by omega⟩, by omega, contractFits, first⟩

end

/-- Everything the store accepts is carried if and only if the sizes fit. -/
theorem transports_carry_iff (synapseTopicByKey : Str → Option SynapseTopicInfo)
    (config : Kconfig) (s : Transports) (accepted : Accepted synapseTopicByKey s.registry) :
    TransportsCarry config s ↔ Carriable config s := by
  have entry : ∀ (i : Nat) topic, s.registry[i]? = some topic →
      ∃ info, topic.info = some info ∧ topic.WellSized := by
    intro i topic present
    obtain ⟨info, resolved, -, sized⟩ := accepted.topic (List.mem_of_getElem? present)
    exact ⟨info, resolved, sized⟩
  constructor
  · intro carry
    constructor
    · intro i topic present direction room
      obtain ⟨info, resolved, -⟩ := entry i topic present
      exact carry.outbound present direction resolved room
    · intro i topic info present direction resolved fixed
      exact carry.inbound present direction resolved fixed
  · intro carriable
    constructor
    · intro i topic info bytes pico present direction resolved fits succeeds
      obtain ⟨positive, bounded⟩ := CsynTopic.accepts_some.mp fits
      obtain ⟨room, live, -, moved⟩ := carriable.outbound i topic present direction (by omega)
      exact (putTopicIfUpdatedOnce_publish resolved fits succeeds).mpr
        ⟨live, moved (zenohPut_puttable resolved succeeds), by omega⟩
    · intro i topic info bytes scratch present direction resolved fits
      obtain ⟨positive, bounded⟩ := CsynTopic.accepts_some.mp fits
      obtain ⟨room, live, moved, -⟩ := carriable.outbound i topic present direction (by omega)
      exact (txTopicIfUpdatedOnce_publish resolved fits scratch).mpr ⟨live, moved, by omega⟩
    · intro i topic info bytes key encoding now present direction resolved fixed length named
      obtain ⟨-, -, sized⟩ := entry i topic present
      obtain ⟨fits, room, contractFits, -⟩ :=
        carriable.struct_passes present direction resolved fixed sized length
      exact (inputHandler_stores_iff resolved named key now).mpr ⟨contractFits, room, fits⟩
    · intro i topic info bytes logged unknown present direction resolved fixed length
      obtain ⟨-, -, sized⟩ := entry i topic present
      obtain ⟨fits, room, -, first⟩ :=
        carriable.struct_passes present direction resolved fixed sized length
      exact ⟨_, csynTopicPublish_stored fits, (rxDatagram_stores_iff present fits info.id).mpr
        ⟨room, first⟩⟩

def wideOdometryInfo : SynapseTopicInfo where
  id := 12
  name := str "Odometry"
  key := str "odom"
  payloadSize := 65
  wireType := some (str "synapse.topic.OdometryData")
  schemaHash := some (str "00112233445566778899aabbccddeeff")
  fixedLayout := true

def wideCatalog (key : Str) : Option SynapseTopicInfo :=
  if key = str "odom" then some wideOdometryInfo else none

/-- Odometry goes out, commands come in. -/
def carriedTopics : List TopicDeclaration :=
  [⟨str "odom", .tx, 65⟩, ⟨str "vehicle_command", .rx, 40⟩]

/-- Before anything was published or polled. -/
def Transports.boot (registry : List CsynTopic) : Transports := ⟨registry, fun _ => 0, fun _ => 0⟩

set_option maxRecDepth 4096 in
theorem transports_carry_iff_default :
    ∃ registry, csynInit wideCatalog (carriedTopics.map TopicDeclaration.define) =
        (none, registry) ∧ TransportsCarry .default (.boot registry) := by
  refine ⟨_, rfl, (transports_carry_iff wideCatalog .default (.boot _)
    ⟨carriedTopics, _, rfl, .refl _⟩).mpr ?_⟩
  constructor
  · intro i topic present outbound room
    match i, present with
    | 0, present =>
        cases present
        exact ⟨by decide, by decide, by decide, fun _ => by decide⟩
    | 1, present =>
        cases present
        cases outbound
  · intro i topic info present inbound resolved fixed
    match i, present with
    | 0, present =>
        cases present
        cases inbound
    | 1, present =>
        cases present
        cases resolved
        refine ⟨by decide, ?_, by decide⟩
        intro wireType schemaHash typed hashed
        cases typed
        cases hashed
        decide

/-- With the smallest buffers the odometry is accepted and never sent. -/
theorem transports_drop_wide :
    ∃ registry topic, csynInit wideCatalog (carriedTopics.map TopicDeclaration.define) =
        (none, registry) ∧ registry[0]? = some topic ∧
      (csynTopicPublish topic (some (List.replicate 65 1))).1 = true ∧
      (∀ scratch lastGeneration, txTopicIfUpdatedOnce smallestConfig scratch
        (csynTopicPublish topic (some (List.replicate 65 1))).2 lastGeneration = none) ∧
      ¬ TransportsCarry smallestConfig (.boot registry) := by
  have silent : ∀ topic : CsynTopic, topic.accepts (some (List.replicate 65 1)) = true →
      ∀ scratch lastGeneration, txTopicIfUpdatedOnce smallestConfig scratch
        (csynTopicPublish topic (some (List.replicate 65 1))).2 lastGeneration = none := by
    intro topic fits scratch lastGeneration
    unfold txTopicIfUpdatedOnce
    split
    · rfl
    · rw [Option.map_eq_none_iff, Option.eq_none_iff_forall_ne_some]
      intro copied taken
      have room := ((copyCsynTopicOnce_publish fits).mp taken).1.2.2
      rw [List.length_replicate] at room
      exact absurd room (by decide)
  refine ⟨_, _, rfl, rfl, by decide, silent _ (by decide), ?_⟩
  intro carry
  obtain ⟨generation, sent⟩ := carry.tx 0 _ wideOdometryInfo (List.replicate 65 1) (fun _ => 0) rfl rfl
    rfl (by decide)
  rw [silent _ (by decide)] at sent
  cases sent

end Csyn
