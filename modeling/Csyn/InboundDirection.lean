import Csyn.NativeUdp

set_option autoImplicit false

/- Which topics `rx_drain` writes: it looks a topic up by catalog id and never at its
direction. -/
namespace Csyn

/-- The store of every topic declared for sending is as it was. -/
def TxUntouched (registry before : List CsynTopic) : Prop :=
  ∀ (i : Nat) (topic : CsynTopic), before[i]? = some topic → topic.dir = .tx →
    ∃ now, registry[i]? = some now ∧ now.SameStore topic

/-- A whole frame whose catalog id selects a topic declared for sending, with a payload that
fits it. -/
def FeedsTx (config : Kconfig) (registry : List CsynTopic) (datagram : List UInt8) : Prop :=
  ∃ i payload topic, UdpOffers config registry datagram i payload ∧ registry[i]? = some topic ∧
    topic.dir = .tx ∧ topic.accepts (some payload) = true

theorem CsynTopic.SameStore.trans {a b c : CsynTopic} (first : a.SameStore b)
    (second : b.SameStore c) : a.SameStore c :=
  ⟨first.slots.trans second.slots, first.lengths.trans second.lengths,
    first.generation.trans second.generation⟩

theorem TxUntouched.refl (registry : List CsynTopic) : TxUntouched registry registry :=
  fun _ topic present _ => ⟨topic, present, .refl topic⟩

theorem FeedsTx.congr {config : Kconfig} {registry before : List CsynTopic} {datagram : List UInt8}
    (same : SameDeclarations registry before) (feeds : FeedsTx config before datagram) :
    FeedsTx config registry datagram := by
  obtain ⟨i, payload, topic, offers, present, sending, fits⟩ := feeds
  obtain ⟨now, presentNow, declared⟩ := same.get present
  exact ⟨i, payload, now, (UdpOffers.congr same).mpr offers, presentNow,
    declared.dir.trans sending, (declared.accepts _).trans fits⟩

/-- A datagram that feeds no sending topic leaves their stores alone. -/
theorem rxDatagram_txUntouched {config : Kconfig} {s : UdpReceiver} {datagram : List UInt8}
    (spared : ¬ FeedsTx config s.registry datagram) :
    TxUntouched (rxDatagram config s datagram).registry s.registry := by
  rcases rxDatagram_cases config s datagram with same | ⟨i, payload, offers, stored⟩
  · rw [same]
    exact .refl _
  · rw [stored]
    intro j topic present sending
    by_cases here : i = j
    · subst here
      refine ⟨_, publishAt_self present, ?_⟩
      cases fits : topic.accepts (some payload) with
      | false =>
          rw [csynTopicPublish_rejected fits]
          exact .refl topic
      | true => exact absurd ⟨i, payload, topic, offers, present, sending, fits⟩ spared
    · exact ⟨topic, (publishAt_other _ here).trans present, .refl topic⟩

/-- A datagram that feeds one moves its generation. -/
theorem rxDatagram_feeds {config : Kconfig} {s : UdpReceiver} {datagram : List UInt8}
    (feeds : FeedsTx config s.registry datagram) :
    ¬ TxUntouched (rxDatagram config s datagram).registry s.registry := by
  obtain ⟨i, payload, topic, offers, present, sending, fits⟩ := feeds
  intro untouched
  obtain ⟨now, presentNow, same⟩ := untouched i topic present sending
  rw [rxDatagram_offers offers, publishAt_self present, Option.some.injEq] at presentNow
  rw [← presentNow] at same
  exact csynTopicPublish_generation_ne fits same.generation

theorem TxUntouched.trans {a b c : List CsynTopic} (declared : SameDeclarations b c)
    (first : TxUntouched a b) (second : TxUntouched b c) : TxUntouched a c := by
  intro i topic present sending
  obtain ⟨mid, presentMid, same⟩ := second i topic present sending
  obtain ⟨mid', presentMid', declaration⟩ := declared.get present
  rw [presentMid, Option.some.injEq] at presentMid'
  subst presentMid'
  obtain ⟨now, presentNow, same'⟩ := first i mid presentMid (declaration.dir.trans sending)
  exact ⟨now, presentNow, same'.trans same⟩

/-- What one datagram after others did is seen between the two states. -/
theorem TxUntouched.between {after before start : List CsynTopic}
    (declared : SameDeclarations before start) (later : TxUntouched after start)
    (earlier : TxUntouched before start) : TxUntouched after before := by
  intro i topic present sending
  obtain ⟨original, presentStart, declaration⟩ := declared.symm.get present
  have sendingBefore : original.dir = .tx := declaration.dir.trans sending
  obtain ⟨now, presentNow, same⟩ := later i original presentStart sendingBefore
  obtain ⟨mid, presentMid, same'⟩ := earlier i original presentStart sendingBefore
  rw [present, Option.some.injEq] at presentMid
  subst presentMid
  exact ⟨now, presentNow, same.slots.trans same'.slots.symm,
    same.lengths.trans same'.lengths.symm, same.generation.trans same'.generation.symm⟩

theorem rxDrain_txUntouched {config : Kconfig} {datagrams : List (List UInt8)} {s : UdpReceiver}
    (spared : ∀ datagram ∈ datagrams, ¬ FeedsTx config s.registry datagram) :
    TxUntouched (rxDrain config s datagrams).registry s.registry := by
  induction datagrams generalizing s with
  | nil => exact .refl _
  | cons datagram rest ih =>
      have declared := rxDatagram_sameDeclarations config s datagram
      have first := rxDatagram_txUntouched (spared datagram List.mem_cons_self)
      have later : TxUntouched (rxDrain config (rxDatagram config s datagram) rest).registry
          (rxDatagram config s datagram).registry := by
        apply ih
        intro other member feeds
        exact spared other (List.mem_cons_of_mem _ member) (feeds.congr
          (declared.symm))
      exact later.trans declared first

/-- Draining datagrams leaves every topic declared for sending alone, at every moment, if and
only if no datagram is a whole frame whose catalog id selects one of them and whose payload
fits it. -/
theorem rx_drain_spares_tx_iff (config : Kconfig) (s : UdpReceiver)
    (datagrams : List (List UInt8)) :
    (∀ seen, seen <+: datagrams → TxUntouched (rxDrain config s seen).registry s.registry) ↔
      ∀ datagram ∈ datagrams, ¬ FeedsTx config s.registry datagram := by
  constructor
  · intro untouched datagram member feeds
    obtain ⟨seen, rest, rfl⟩ := List.append_of_mem member
    have before := untouched seen (List.prefix_append _ _)
    have after := untouched (seen ++ [datagram])
      ⟨rest, by rw [List.append_assoc, List.singleton_append]⟩
    have declared := rxDrain_sameDeclarations config s seen
    rw [rxDrain, List.foldl_append, List.foldl_cons, List.foldl_nil] at after
    exact rxDatagram_feeds (feeds.congr declared) (after.between declared before)
  · rintro spared seen ⟨rest, rfl⟩
    exact rxDrain_txUntouched fun datagram member =>
      spared datagram (List.mem_append_left _ member)

/-- One topic, declared for sending. -/
def sendingTopics : List CsynTopic := [csynTopicDefine (str "att") .tx 2]

def attitudeInfo : SynapseTopicInfo where
  id := 7
  name := str "AttitudeEstimate"
  key := str "att"
  payloadSize := 2
  wireType := some (str "synapse.topic.AttitudeEstimateData")
  schemaHash := some (str "00112233445566778899aabbccddeeff")
  fixedLayout := true

def attitudeCatalog (key : Str) : Option SynapseTopicInfo :=
  if key = str "att" then some attitudeInfo else none

/-- A frame with that topic's catalog id. -/
def attitudeFrame : List UInt8 := str "CSYN" ++ [7, 0, 2, 0] ++ [5, 6]

/-- It reaches the store of the topic the vehicle sends. -/
theorem rx_drain_feeds_tx :
    ∃ registry, csynInit attitudeCatalog sendingTopics = (none, registry) ∧
      ∃ before after, registry[0]? = some before ∧ before.dir = .tx ∧
        (rxDrain .default ⟨registry, false, false⟩ [attitudeFrame]).registry[0]? = some after ∧
        after.generation ≠ before.generation ∧ after.lengths 1 ≠ before.lengths 1 ∧
        after.slots.load 2 2 = [5, 6] ∧
        ¬ TxUntouched (rxDrain .default ⟨registry, false, false⟩ [attitudeFrame]).registry
          registry := by
  refine ⟨_, rfl, _, _, rfl, rfl, rfl, by decide, by decide, rfl, ?_⟩
  intro untouched
  obtain ⟨now, present, same⟩ := untouched 0 _ rfl rfl
  cases present
  exact absurd same.generation (by decide)

end Csyn
