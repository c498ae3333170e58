import Csyn.Lib.LittleEndian
import Csyn.Registry

set_option autoImplicit false

/- Frames and their reception in zephyr/src/csyn_native_udp.c. -/
namespace Csyn

/-- `CSYN_UDP_MAGIC_0` to `CSYN_UDP_MAGIC_3` -/
def csynUdpMagic : List UInt8 := str "CSYN"

/-- `CSYN_UDP_HEADER_SIZE` -/
def csynUdpHeaderSize : Nat := 8

/-- `get_le16(buf + offset)` -/
def getLe16 (buf : List UInt8) (offset : Nat) : UInt16 :=
  LittleEndian.word16 (buf[offset]?.getD 0) (buf[offset + 1]?.getD 0)

/-- `recv` fills the buffer and drops the rest of the datagram. -/
def udpRecv (config : Kconfig) (datagram : List UInt8) : List UInt8 :=
  datagram.take (csynUdpHeaderSize + config.flatbufferMaxSize)

/-- The header checks of `rx_drain`: a whole frame is a catalog id and a payload. -/
def udpFrame (buf : List UInt8) : Option (UInt16 × List UInt8) :=
  if buf.length < csynUdpHeaderSize ∨ buf.take 4 ≠ csynUdpMagic then none
  else
    let catalogId := getLe16 buf 4
    let payloadLen := getLe16 buf 6
    if payloadLen.toNat + csynUdpHeaderSize ≠ buf.length then none
    else some (catalogId, buf.drop csynUdpHeaderSize)

/-- The datagram `tx_topic_if_updated` sends for a sample. -/
def udpDatagram (catalogId : UInt16) (payload : List UInt8) : List UInt8 :=
  csynUdpMagic ++ LittleEndian.bytes16 catalogId ++
    LittleEndian.bytes16 (UInt16.ofNat payload.length) ++ payload

/-- The frame grammar: the magic, a little-endian catalog id, the little-endian length of the
payload and the payload. -/
def UdpFrame (datagram : List UInt8) (catalogId : UInt16) (payload : List UInt8) : Prop :=
  payload.length < 2 ^ 16 ∧ datagram = udpDatagram catalogId payload

theorem udpDatagram_length (catalogId : UInt16) (payload : List UInt8) :
    (udpDatagram catalogId payload).length = csynUdpHeaderSize + payload.length := by
  simp only [udpDatagram, List.length_append, LittleEndian.bytes16_length]
  rfl

/-- The header checks accept exactly the frames. -/
theorem udpFrame_iff (buf : List UInt8) (catalogId : UInt16) (payload : List UInt8) :
    udpFrame buf = some (catalogId, payload) ↔ UdpFrame buf catalogId payload := by
  unfold udpFrame UdpFrame
  constructor
  · intro parsed
    split at parsed
    · cases parsed
    · rename_i header
      rw [not_or, not_not] at header
      obtain ⟨long, magic⟩ := header
      dsimp only at parsed
      split at parsed
      · cases parsed
      · rename_i sized
        rw [not_not] at sized
        cases parsed
        have room : 8 ≤ buf.length := Nat.le_of_not_lt long
        have narrow := (getLe16 buf 6).toNat_lt
        have payloadLength : (buf.drop csynUdpHeaderSize).length = (getLe16 buf 6).toNat := by
          rw [List.length_drop, ← sized, Nat.add_sub_cancel]
        refine ⟨by rw [payloadLength]; exact narrow, ?_⟩
        -- The eight header bytes are named, so that both words are pairs of them.
        obtain ⟨a, b, c, d, e, f, g, h, rest, rfl⟩ :
            ∃ a b c d e f g h rest, buf = a :: b :: c :: d :: e :: f :: g :: h :: rest := by
          match buf, room with
          | a :: b :: c :: d :: e :: f :: g :: h :: rest, _ =>
              exact ⟨a, b, c, d, e, f, g, h, rest, rfl⟩
        have first : getLe16 (a :: b :: c :: d :: e :: f :: g :: h :: rest) 4 =
          LittleEndian.word16 e f := rfl
        have second : getLe16 (a :: b :: c :: d :: e :: f :: g :: h :: rest) 6 =
          LittleEndian.word16 g h := rfl
        rw [udpDatagram, payloadLength, UInt16.ofNat_toNat, first, second,
          LittleEndian.bytes16_word16, LittleEndian.bytes16_word16, ← magic]
        rfl
  · rintro ⟨narrow, rfl⟩
    have header := udpDatagram_length catalogId payload
    have id : getLe16 (udpDatagram catalogId payload) 4 = catalogId :=
      LittleEndian.word16_bytes catalogId
    have size : (getLe16 (udpDatagram catalogId payload) 6).toNat = payload.length := by
      refine (congrArg UInt16.toNat (LittleEndian.word16_bytes _)).trans ?_
      rw [UInt16.toNat_ofNat', Nat.mod_eq_of_lt narrow]
    dsimp only
    rw [if_neg, id, size, header, Nat.add_comm, if_neg (fun other => other rfl)]
    · rfl
    · rw [not_or, header]
      exact ⟨by omega, fun other => other rfl⟩

/-- A frame that fits the receive buffer is received whole. -/
theorem udpFrame_datagram {config : Kconfig} (catalogId : UInt16) {payload : List UInt8}
    (room : payload.length ≤ config.flatbufferMaxSize) :
    udpFrame (udpRecv config (udpDatagram catalogId payload)) = some (catalogId, payload) := by
  have narrow : payload.length < 2 ^ 16 :=
    Nat.lt_of_le_of_lt (Nat.le_trans room config.flatbuffer_upper) (by decide)
  have whole : udpRecv config (udpDatagram catalogId payload) = udpDatagram catalogId payload := by
    apply List.take_of_length_le
    rw [udpDatagram_length]
    omega
  rw [whole, udpFrame_iff]
  exact ⟨narrow, rfl⟩

/-- The registry and the two static flags of `rx_drain`. -/
structure UdpReceiver where
  registry : List CsynTopic
  loggedOdometryRx : Bool
  loggedUnknownRx : Bool

/-- One turn of the loop in `rx_drain`. -/
def rxDatagram (config : Kconfig) (s : UdpReceiver) (datagram : List UInt8) : UdpReceiver :=
  match udpFrame (udpRecv config datagram) with
  | none => s
  | some (catalogId, payload) =>
      match csynTopicByCatalogId s.registry catalogId with
      | none => { s with loggedUnknownRx := true }
      | some i =>
          { s with
            registry := publishAt s.registry i (some payload)
            loggedOdometryRx := s.loggedOdometryRx ||
              (s.registry[i]?.bind fun topic => topic.info).any fun info => info.key == str "odom" }

/-- `rx_drain` on the datagrams that are waiting. -/
def rxDrain (config : Kconfig) (s : UdpReceiver) (datagrams : List (List UInt8)) : UdpReceiver :=
  datagrams.foldl (rxDatagram config) s

/-- The payload a datagram offers to a topic of the registry. -/
def UdpOffers (config : Kconfig) (registry : List CsynTopic) (datagram : List UInt8) (i : Nat)
    (payload : List UInt8) : Prop :=
  ∃ catalogId, udpFrame (udpRecv config datagram) = some (catalogId, payload) ∧
    csynTopicByCatalogId registry catalogId = some i

/-- What a datagram does to the registry. -/
theorem rxDatagram_cases (config : Kconfig) (s : UdpReceiver) (datagram : List UInt8) :
    (rxDatagram config s datagram).registry = s.registry ∨
      ∃ i payload, UdpOffers config s.registry datagram i payload ∧
        (rxDatagram config s datagram).registry = publishAt s.registry i (some payload) := by
  unfold rxDatagram
  split
  · exact Or.inl rfl
  · rename_i catalogId payload framed
    split
    · exact Or.inl rfl
    · rename_i i found
      exact Or.inr ⟨i, payload, ⟨catalogId, framed, found⟩, rfl⟩

theorem rxDatagram_offers {config : Kconfig} {s : UdpReceiver} {datagram payload : List UInt8}
    {i : Nat} (offers : UdpOffers config s.registry datagram i payload) :
    (rxDatagram config s datagram).registry = publishAt s.registry i (some payload) := by
  obtain ⟨catalogId, framed, found⟩ := offers
  simp only [rxDatagram, framed, found]

theorem rxDatagram_sameDeclarations (config : Kconfig) (s : UdpReceiver) (datagram : List UInt8) :
    SameDeclarations (rxDatagram config s datagram).registry s.registry := by
  rcases rxDatagram_cases config s datagram with same | ⟨i, payload, -, stored⟩
  · rw [same]
    exact .refl _
  · rw [stored]
    exact publishAt_sameDeclarations _ _ _

theorem rxDrain_sameDeclarations (config : Kconfig) (s : UdpReceiver)
    (datagrams : List (List UInt8)) :
    SameDeclarations (rxDrain config s datagrams).registry s.registry := by
  induction datagrams generalizing s with
  | nil => exact .refl _
  | cons datagram rest ih => exact (ih _).trans (rxDatagram_sameDeclarations config s datagram)

/-- A datagram offers its payload whatever has arrived before it. -/
theorem UdpOffers.congr {config : Kconfig} {registry before : List CsynTopic}
    {datagram payload : List UInt8} {i : Nat} (same : SameDeclarations registry before) :
    UdpOffers config registry datagram i payload ↔ UdpOffers config before datagram i payload := by
  simp only [UdpOffers, csynTopicByCatalogId_congr same]

end Csyn
