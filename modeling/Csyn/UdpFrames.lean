import Csyn.BridgeRefinement
import Csyn.NativeUdp
import Csyn.StoreHistory

set_option autoImplicit false

/- Frames on the wire of zephyr/src/csyn_native_udp.c: which datagrams `rx_drain` takes for a
frame, and what becomes of the datagrams that `tx_topic_if_updated` builds. -/
namespace Csyn

/-! ## Reception -/

/-- Some topic of the registry has this catalog id. -/
def Registered (registry : List CsynTopic) (catalogId : UInt16) : Prop :=
  ∃ topic ∈ registry, topic.hasCatalogId catalogId = true

theorem registered_iff {registry : List CsynTopic} {catalogId : UInt16} :
    Registered registry catalogId ↔ ∃ i, csynTopicByCatalogId registry catalogId = some i := by
  rw [← Option.isSome_iff_exists, csynTopicByCatalogId, List.findIdx?_isSome, List.any_eq_true]
  rfl

/-- The datagram is a frame for a registered topic, within the payload bound. -/
def InGrammar (config : Kconfig) (registry : List CsynTopic) (datagram payload : List UInt8) :
    Prop :=
  ∃ catalogId, UdpFrame datagram catalogId payload ∧
    payload.length ≤ config.flatbufferMaxSize ∧ Registered registry catalogId

/-- What `rx_drain` does with a datagram follows the grammar. -/
structure FollowsGrammar (config : Kconfig) (s : UdpReceiver) (datagram : List UInt8) : Prop where
  passes : ∀ payload, (∃ i, UdpOffers config s.registry datagram i payload) ↔
    InGrammar config s.registry datagram payload
  publishes : ∀ i payload, UdpOffers config s.registry datagram i payload →
    (rxDatagram config s datagram).registry = publishAt s.registry i (some payload)
  ignores : (∀ payload, ¬ InGrammar config s.registry datagram payload) →
    (rxDatagram config s datagram).registry = s.registry

/-- A datagram that `recv` cuts down to a frame: it is longer than the buffer, and its header
announces as much payload as the buffer holds. -/
structure CutToFrame (config : Kconfig) (registry : List CsynTopic) (datagram : List UInt8) :
    Prop where
  long : csynUdpHeaderSize + config.flatbufferMaxSize < datagram.length
  magic : datagram.take 4 = csynUdpMagic
  size : (getLe16 datagram 6).toNat = config.flatbufferMaxSize
  registered : Registered registry (getLe16 datagram 4)

theorem getLe16_take (buf : List UInt8) {n offset : Nat} (inside : offset + 1 < n) :
    getLe16 (buf.take n) offset = getLe16 buf offset := by
  rw [getLe16, getLe16, List.getElem?_take_of_lt inside,
    List.getElem?_take_of_lt (Nat.lt_of_succ_lt inside)]

/-- What is left of a datagram longer than the buffer is a frame when its header says so. -/
theorem udpFrame_cut {config : Kconfig} {datagram : List UInt8}
    (long : csynUdpHeaderSize + config.flatbufferMaxSize < datagram.length) :
    udpFrame (udpRecv config datagram) =
      if datagram.take 4 = csynUdpMagic ∧ (getLe16 datagram 6).toNat = config.flatbufferMaxSize then
        some (getLe16 datagram 4,
          (datagram.take (csynUdpHeaderSize + config.flatbufferMaxSize)).drop csynUdpHeaderSize)
      else none := by
  have lower := config.flatbuffer_lower
  have header : csynUdpHeaderSize = 8 := rfl
  have length : (udpRecv config datagram).length =
      csynUdpHeaderSize + config.flatbufferMaxSize := by
    rw [udpRecv, List.length_take, Nat.min_eq_left (Nat.le_of_lt long)]
  have magic : (udpRecv config datagram).take 4 = datagram.take 4 := by
    rw [udpRecv, List.take_take, Nat.min_eq_left (by omega)]
  have id : getLe16 (udpRecv config datagram) 4 = getLe16 datagram 4 := getLe16_take _ (by omega)
  have size : getLe16 (udpRecv config datagram) 6 = getLe16 datagram 6 := getLe16_take _ (by omega)
  unfold udpFrame
  dsimp only
  rw [length, magic, id, size]
  by_cases marked : datagram.take 4 = csynUdpMagic
  · rw [if_neg (not_or.mpr ⟨by omega, not_not.mpr marked⟩)]
    by_cases full : (getLe16 datagram 6).toNat = config.flatbufferMaxSize
    · rw [if_neg (not_not.mpr (by omega)), if_pos ⟨marked, full⟩]
      rfl
    · rw [if_pos (by omega), if_neg (fun both => full both.2)]
  · rw [if_pos (Or.inr marked), if_neg (fun both => marked both.1)]

/-- A datagram that fits the buffer is taken exactly when it is a frame. -/
theorem udpOffers_fitting {config : Kconfig} {registry : List CsynTopic} {datagram : List UInt8}
    (fits : datagram.length ≤ csynUdpHeaderSize + config.flatbufferMaxSize)
    (payload : List UInt8) :
    (∃ i, UdpOffers config registry datagram i payload) ↔
      InGrammar config registry datagram payload := by
  have whole : udpRecv config datagram = datagram := List.take_of_length_le fits
  constructor
  · rintro ⟨i, catalogId, framed, found⟩
    rw [whole, udpFrame_iff] at framed
    refine ⟨catalogId, framed, ?_, registered_iff.mpr ⟨i, found⟩⟩
    rw [framed.2, udpDatagram_length] at fits
    exact Nat.le_of_add_le_add_left fits
  · rintro ⟨catalogId, framed, -, registered⟩
    obtain ⟨i, found⟩ := registered_iff.mp registered
    refine ⟨i, catalogId, ?_, found⟩
    rw [whole, udpFrame_iff]
    exact framed

/-- A datagram longer than the buffer is no frame within the payload bound. -/
theorem InGrammar.fits {config : Kconfig} {registry : List CsynTopic}
    {datagram payload : List UInt8} (frame : InGrammar config registry datagram payload) :
    datagram.length ≤ csynUdpHeaderSize + config.flatbufferMaxSize := by
  obtain ⟨catalogId, ⟨-, rfl⟩, room, -⟩ := frame
  rw [udpDatagram_length]
  exact Nat.add_le_add_left room _

theorem rxDatagram_ignored {config : Kconfig} {s : UdpReceiver} {datagram : List UInt8}
    (refused : ∀ i payload, ¬ UdpOffers config s.registry datagram i payload) :
    (rxDatagram config s datagram).registry = s.registry := by
  rcases rxDatagram_cases config s datagram with same | ⟨i, payload, offers, -⟩
  · exact same
  · exact absurd offers (refused i payload)

/-- `rx_drain` accepts exactly the frame grammar if and only if `recv` does not cut the datagram
down to a frame. -/
theorem rx_drain_accepts_frames_iff (config : Kconfig) (s : UdpReceiver)
    (datagram : List UInt8) :
    FollowsGrammar config s datagram ↔ ¬ CutToFrame config s.registry datagram := by
  constructor
  · intro follows cut
    obtain ⟨i, found⟩ := registered_iff.mp cut.registered
    have offers : UdpOffers config s.registry datagram i _ :=
      ⟨_, (udpFrame_cut cut.long).trans (if_pos ⟨cut.magic, cut.size⟩), found⟩
    have frame := (follows.passes _).mp ⟨i, offers⟩
    exact absurd frame.fits (Nat.not_le.mpr cut.long)
  · intro whole
    have passes : ∀ payload, (∃ i, UdpOffers config s.registry datagram i payload) ↔
        InGrammar config s.registry datagram payload := by
      intro payload
      by_cases fits : datagram.length ≤ csynUdpHeaderSize + config.flatbufferMaxSize
      · exact udpOffers_fitting fits payload
      · have long := Nat.lt_of_not_le fits
        constructor
        · rintro ⟨i, catalogId, framed, found⟩
          rw [udpFrame_cut long] at framed
          split at framed
          · rename_i header
            cases framed
            exact absurd ⟨long, header.1, header.2, registered_iff.mpr ⟨i, found⟩⟩ whole
          · cases framed
        · intro frame
          exact absurd frame.fits fits
    refine ⟨passes, fun i payload offers => rxDatagram_offers offers, ?_⟩
    intro outside
    apply rxDatagram_ignored
    intro i payload offers
    exact outside payload ((passes payload).mp ⟨i, offers⟩)

def textStatusInfo : SynapseTopicInfo where
  id := 9
  name := str "TextStatus"
  key := str "text"
  payloadSize := 0
  wireType := some (str "synapse.topic.TextStatus")
  schemaHash := some (str "00112233445566778899aabbccddeeff")
  fixedLayout := false

def textCatalog (key : Str) : Option SynapseTopicInfo :=
  if key = str "text" then some textStatusInfo else none

/-- The smallest payload bound. -/
def smallestConfig : Kconfig :=
  { Kconfig.default with
    flatbufferMaxSize := 64
    flatbuffer_lower := by decide
    flatbuffer_upper := by decide }

/-- A frame of 64 bytes and one byte more. -/
def paddedFrame : List UInt8 := udpDatagram 9 (List.replicate 64 1) ++ [2]

/-- The receive buffer hides the last byte, and the rest is published. -/
theorem rx_drain_accepts_padded :
    ∃ registry, csynInit textCatalog [csynTopicDefine (str "text") .rx 64] = (none, registry) ∧
      (∀ payload, ¬ InGrammar smallestConfig registry paddedFrame payload) ∧
      (rxDatagram smallestConfig ⟨registry, false, false⟩ paddedFrame).registry.map
        (fun topic => topic.generation) = [1] ∧
      ¬ FollowsGrammar smallestConfig ⟨registry, false, false⟩ paddedFrame := by
  have outside : ∀ registry payload, ¬ InGrammar smallestConfig registry paddedFrame payload := by
    intro registry payload frame
    exact absurd frame.fits (by decide)
  refine ⟨_, rfl, outside _, rfl, ?_⟩
  intro follows
  have same := congrArg (List.map fun topic => topic.generation) (follows.ignores (outside _))
  exact absurd same (by decide)

/-! ## Transmission -/

/-- `put_le16(value, buf + offset)` -/
def putLe16 (value : UInt16) (buf : ByteMemory) (offset : Nat) : ByteMemory :=
  (buf.store offset value.toUInt8).store (offset + 1) (value >>> 8).toUInt8

/-- The buffer of `tx_topic_if_updated` with the sample behind its header, as `sendto` sends it.
`scratch` is what the buffer contains before. -/
def txBuffer (scratch : ByteMemory) (catalogId : UInt16) (sample : List UInt8) : List UInt8 :=
  let buf := scratch.storeBytes csynUdpHeaderSize sample
  let buf := buf.store 0 67
  let buf := buf.store 1 83
  let buf := buf.store 2 89
  let buf := buf.store 3 78
  let buf := putLe16 catalogId buf 4
  let buf := putLe16 (UInt16.ofNat sample.length) buf 6
  buf.load 0 (sample.length + csynUdpHeaderSize)

/-- `tx_topic_if_updated` on a topic nobody writes meanwhile: the datagram it sends and the
generation it records. -/
def txTopicIfUpdatedOnce (config : Kconfig) (scratch : ByteMemory) (topic : CsynTopic)
    (lastGeneration : UInt32) : Option (List UInt8 × UInt32) :=
  match topic.info with
  | none => none
  | some info =>
      (copyCsynTopicOnce topic config.flatbufferMaxSize lastGeneration).map fun copied =>
        (txBuffer scratch info.id copied.1, copied.2)

/-- Header and sample fill the buffer from its start. -/
theorem txBuffer_eq (scratch : ByteMemory) (catalogId : UInt16) (sample : List UInt8) :
    txBuffer scratch catalogId sample = udpDatagram catalogId sample := by
  have header : csynUdpHeaderSize = 8 := rfl
  have behind : ∀ buf : ByteMemory, buf = scratch.storeBytes csynUdpHeaderSize sample →
      ∀ first second : UInt16,
        ByteMemory.load (putLe16 second (putLe16 first
            ((((buf.store 0 67).store 1 83).store 2 89).store 3 78) 4) 6)
          (0 + csynUdpHeaderSize) sample.length = sample := by
    rintro buf rfl first second
    rw [Nat.zero_add]
    refine (ByteMemory.load_congr ?_).trans (ByteMemory.load_storeBytes scratch _ sample)
    intro i _
    unfold putLe16
    iterate 8 rw [ByteMemory.store_other _ _ (by omega)]
  unfold txBuffer
  dsimp only
  rw [Nat.add_comm sample.length, ByteMemory.load_add, behind _ rfl]
  rfl

/-- A poll that nothing disturbs sends the datagram of the sequential function. -/
theorem txTopicIfUpdated_undisturbed {config : Kconfig} {s t : Polling} {scratch : ByteMemory}
    {actions : List CopyAction} {sent : Bool} {info : SynapseTopicInfo}
    (resolved : s.store.topic.info = some info) (idle : s.poller.pc = .idle)
    (ran : Automaton.run (Polling.step (txTopicIfUpdated config)) s
      (.poll scratch :: (actions.map .copy ++ [.hand sent])) = some t) :
    ∃ h, t.handed = s.handed ++ [h] ∧
      txTopicIfUpdatedOnce config scratch s.store.topic s.poller.lastGeneration =
        some (udpDatagram info.id (h.buf.load 0 h.length.toNat), t.poller.lastGeneration) := by
  obtain ⟨bytes, generation, h, copied, handed, payload, -, recorded⟩ :=
    Polling.poll_undisturbed idle ran
  refine ⟨h, handed, ?_⟩
  unfold txTopicIfUpdatedOnce
  rw [resolved, payload, recorded]
  dsimp only
  rw [show copyCsynTopicOnce s.store.topic config.flatbufferMaxSize s.poller.lastGeneration =
    some (bytes, generation) from copied, Option.map_some, txBuffer_eq]
  rfl

/-- A datagram is sent when the generation is neither zero nor the recorded one. -/
theorem txTopicIfUpdatedOnce_holding {config : Kconfig} {topic : CsynTopic}
    {info : SynapseTopicInfo} {sample : List UInt8} (resolved : topic.info = some info)
    (holds : topic.HoldsSample (slotOf topic.generation) sample)
    (fits : topic.accepts (some sample) = true)
    (room : sample.length ≤ config.flatbufferMaxSize) (scratch : ByteMemory)
    (lastGeneration : UInt32) :
    txTopicIfUpdatedOnce config scratch topic lastGeneration =
      if topic.generation = 0 ∨ topic.generation = lastGeneration then none
      else some (udpDatagram info.id sample, topic.generation) := by
  unfold txTopicIfUpdatedOnce copyCsynTopicOnce csynTopicGeneration
  rw [resolved]
  dsimp only
  by_cases still : topic.generation = 0 ∨ topic.generation = lastGeneration
  · rw [if_pos still, if_pos still]
    rfl
  · rw [if_neg still, if_neg still, holds.copy (fun zero => still (Or.inl zero)) fits room]
    simp only [Option.map_some, txBuffer_eq]

/-- The datagram that `tx_topic_if_updated` builds for a current sample is parsed by `rx_drain`
to the catalog id and the sample. One is built unless nothing is new. -/
theorem udp_frame_round_trip (config : Kconfig) (topic : CsynTopic) (info : SynapseTopicInfo)
    (sample : List UInt8) (scratch : ByteMemory) (lastGeneration : UInt32)
    (resolved : topic.info = some info)
    (current : topic.HoldsSample (slotOf topic.generation) sample)
    (positive : 1 ≤ sample.length)
    (room : sample.length ≤ min topic.maxSize.toNat config.flatbufferMaxSize) :
    ((txTopicIfUpdatedOnce config scratch topic lastGeneration).isSome ↔
      topic.generation ≠ 0 ∧ topic.generation ≠ lastGeneration) ∧
    ∀ datagram generation,
      txTopicIfUpdatedOnce config scratch topic lastGeneration = some (datagram, generation) →
        udpFrame (udpRecv config datagram) = some (info.id, sample) ∧
        ∀ (s : UdpReceiver) (i : Nat), csynTopicByCatalogId s.registry info.id = some i →
          (rxDatagram config s datagram).registry = publishAt s.registry i (some sample) := by
  obtain ⟨bounded, small⟩ := Nat.le_min.mp room
  have fits : topic.accepts (some sample) = true := CsynTopic.accepts_some.mpr ⟨positive, bounded⟩
  rw [txTopicIfUpdatedOnce_holding resolved current fits small]
  constructor
  · split
    · rename_i still
      simp only [Option.isSome_none, Bool.false_eq_true, false_iff]
      rintro ⟨live, moved⟩
      exact still.elim live moved
    · rename_i due
      simp only [Option.isSome_some, true_iff]
      exact not_or.mp due
  · intro datagram generation sent
    split at sent
    · cases sent
    · cases sent
      have parsed := udpFrame_datagram info.id small
      refine ⟨parsed, ?_⟩
      intro s i found
      exact rxDatagram_offers ⟨info.id, parsed, found⟩

/-- A topic of 64 bytes with a sample of two. -/
def textTopic : CsynTopic :=
  (csynTopicPublish { csynTopicDefine (str "text") .tx 64 with info := some textStatusInfo }
    (some [5, 6])).2

theorem udp_frame_round_trip_text :
    ∃ datagram, txTopicIfUpdatedOnce smallestConfig (fun _ => 0) textTopic 0 =
        some (datagram, 1) ∧ datagram.length = 10 ∧
      udpFrame (udpRecv smallestConfig datagram) = some (9, [5, 6]) := by
  have holds : textTopic.HoldsSample (slotOf textTopic.generation) [5, 6] :=
    @csynTopicPublish_holds { csynTopicDefine (str "text") .tx 64 with info := some textStatusInfo }
      [5, 6] rfl
  obtain ⟨-, parsed⟩ := udp_frame_round_trip smallestConfig textTopic textStatusInfo [5, 6]
    (fun _ => 0) 0 rfl holds (by decide) (by decide)
  exact ⟨_, rfl, rfl, (parsed _ _ rfl).1⟩

end Csyn
