import Csyn.UdpFrames

set_option autoImplicit false

/- Which topic a frame ends up in. It names its topic by catalog id, and two topics of one
catalog type differ only in their keys. -/
namespace Csyn

/-- Any number of `csyn_topic_publish` calls on the topics of a registry. -/
def publishesAt (registry : List CsynTopic) (calls : List (Nat × Option (List UInt8))) :
    List CsynTopic :=
  calls.foldl (fun registry call => publishAt registry call.1 call.2) registry

/-- `tx_topic_if_updated` sends this datagram for the topic with this key, after some samples. -/
def Emits (config : Kconfig) (registry : List CsynTopic) (key : Str) (datagram : List UInt8) :
    Prop :=
  ∃ (calls : List (Nat × Option (List UInt8))) (i : Nat) (topic : CsynTopic)
    (scratch : ByteMemory) (lastGeneration generation : UInt32),
    (publishesAt registry calls)[i]? = some topic ∧ topic.key = key ∧
      txTopicIfUpdatedOnce config scratch topic lastGeneration = some (datagram, generation)

/-- What is sent for one key changes no topic with another key on the peer. -/
def KeepsApart (config : Kconfig) (registry peer : List CsynTopic) : Prop :=
  ∀ key datagram, Emits config registry key datagram →
    ∀ s : UdpReceiver, SameDeclarations s.registry peer →
      ∀ (i : Nat) (u : CsynTopic), s.registry[i]? = some u → u.key ≠ key →
        (rxDatagram config s datagram).registry[i]? = some u

/-- On the peer, `u` is the first topic with the catalog id of `t`, its key is another one, and
a byte fits both. -/
structure Crosses (registry peer : List CsynTopic) (t u : CsynTopic) : Prop where
  sender : t ∈ registry
  first : ∃ (catalogId : UInt16) (i : Nat), t.hasCatalogId catalogId = true ∧ peer[i]? = some u ∧
    u.hasCatalogId catalogId = true ∧
    ∀ (j : Nat) (v : CsynTopic), j < i → peer[j]? = some v → v.hasCatalogId catalogId = false
  otherKey : u.key ≠ t.key
  room : 0 < t.maxSize.toNat ∧ 0 < u.maxSize.toNat

/-- Topics with different keys have different catalog ids. -/
def DistinctIds (registry : List CsynTopic) : Prop :=
  ∀ t ∈ registry, ∀ u ∈ registry, ∀ catalogId, t.hasCatalogId catalogId = true →
    u.hasCatalogId catalogId = true → t.key = u.key

theorem hasCatalogId_info {topic : CsynTopic} {catalogId : UInt16} :
    topic.hasCatalogId catalogId = true ↔ ∃ info, topic.info = some info ∧ info.id = catalogId := by
  unfold CsynTopic.hasCatalogId
  split
  · rename_i missing
    simp [missing]
  · rename_i info present
    simp [present]

/-- The search returns the first topic with the id. -/
theorem csynTopicByCatalogId_iff {registry : List CsynTopic} {catalogId : UInt16} {i : Nat} :
    csynTopicByCatalogId registry catalogId = some i ↔
      ∃ topic, registry[i]? = some topic ∧ topic.hasCatalogId catalogId = true ∧
        ∀ (j : Nat) (v : CsynTopic), j < i → registry[j]? = some v →
          v.hasCatalogId catalogId = false := by
  rw [csynTopicByCatalogId, List.findIdx?_eq_some_iff_getElem]
  constructor
  · rintro ⟨inside, found, earlier⟩
    refine ⟨_, List.getElem?_eq_getElem inside, found, ?_⟩
    intro j v before present
    obtain ⟨within, rfl⟩ := List.getElem?_eq_some_iff.mp present
    exact Bool.not_eq_true _ ▸ earlier j before
  · rintro ⟨topic, present, found, earlier⟩
    obtain ⟨inside, rfl⟩ := List.getElem?_eq_some_iff.mp present
    refine ⟨inside, found, ?_⟩
    intro j before
    rw [earlier j _ before (List.getElem?_eq_getElem (Nat.lt_trans before inside))]
    exact Bool.false_ne_true

theorem publishesAt_sameDeclarations (registry : List CsynTopic)
    (calls : List (Nat × Option (List UInt8))) :
    SameDeclarations (publishesAt registry calls) registry := by
  induction calls generalizing registry with
  | nil => exact .refl registry
  | cons call rest ih => exact (ih _).trans (publishAt_sameDeclarations registry call.1 call.2)

theorem publishesAt_bounded {registry : List CsynTopic}
    (calls : List (Nat × Option (List UInt8))) (bounded : ∀ topic ∈ registry, topic.Bounded) :
    ∀ topic ∈ publishesAt registry calls, topic.Bounded := by
  induction calls generalizing registry with
  | nil => exact bounded
  | cons call rest ih => exact ih (publishAt_bounded call.1 call.2 bounded)

/-- A datagram that is sent is the frame of a sample that fits its topic. -/
theorem Emits.frame {config : Kconfig} {registry : List CsynTopic} {key : Str}
    {datagram : List UInt8} (bounded : ∀ topic ∈ registry, topic.Bounded)
    (emits : Emits config registry key datagram) :
    ∃ t ∈ registry, t.key = key ∧ ∃ catalogId sample, t.hasCatalogId catalogId = true ∧
      udpFrame (udpRecv config datagram) = some (catalogId, sample) ∧
      0 < sample.length ∧ sample.length ≤ t.maxSize.toNat := by
  obtain ⟨calls, i, topic, scratch, lastGeneration, generation, present, rfl, sent⟩ := emits
  obtain ⟨t, there, declared⟩ :=
    (publishesAt_sameDeclarations registry calls).symm.get present
  have within := publishesAt_bounded calls bounded topic (List.mem_of_getElem? present)
  unfold txTopicIfUpdatedOnce at sent
  split at sent
  · cases sent
  · rename_i info resolved
    obtain ⟨⟨sample, recorded⟩, copied, same⟩ := Option.map_eq_some_iff.mp sent
    cases same
    unfold copyCsynTopicOnce at copied
    dsimp only at copied
    split at copied
    · cases copied
    · obtain ⟨⟨bytes, copiedGeneration⟩, taken, same⟩ := Option.map_eq_some_iff.mp copied
      cases same
      obtain ⟨-, positive, fits, room⟩ := csynTopicCopy_sized within taken
      refine ⟨t, List.mem_of_getElem? there, declared.key, info.id, bytes, ?_, ?_, positive, ?_⟩
      · exact hasCatalogId_info.mpr ⟨info, declared.info.trans resolved, rfl⟩
      · dsimp only
        rw [txBuffer_eq]
        exact udpFrame_datagram info.id room
      · rw [declared.maxSize]
        exact fits

/-- One byte published on a fresh topic is sent. -/
theorem emits_byte {config : Kconfig} {registry : List CsynTopic} {t : CsynTopic}
    {catalogId : UInt16} (member : t ∈ registry) (unwritten : t.Unwritten)
    (identified : t.hasCatalogId catalogId = true) (room : 0 < t.maxSize.toNat) :
    Emits config registry t.key (udpDatagram catalogId [0]) := by
  obtain ⟨k, present⟩ := List.getElem?_of_mem member
  obtain ⟨info, resolved, rfl⟩ := hasCatalogId_info.mp identified
  have fits : t.accepts (some [0]) = true := CsynTopic.accepts_some.mpr ⟨Nat.one_pos, room⟩
  have declared := csynTopicPublish_sameDeclaration t (some [0])
  have generation : (csynTopicPublish t (some [0])).2.generation = 1 := by
    rw [csynTopicPublish_accepted fits, unwritten.generation]
    rfl
  refine ⟨[(k, some [0])], k, (csynTopicPublish t (some [0])).2, fun _ => 0, 0, 1,
    publishAt_self present, declared.key, ?_⟩
  have lower := config.flatbuffer_lower
  rw [txTopicIfUpdatedOnce_holding (declared.info.trans resolved) (csynTopicPublish_holds fits)
    ((declared.accepts _).trans fits) (by change 1 ≤ _; omega), generation]
  rfl

/-- An accepted sample is stored, so its topic changes. -/
theorem publishAt_changes {registry : List CsynTopic} {i : Nat} {topic : CsynTopic}
    {bytes : List UInt8} (present : registry[i]? = some topic)
    (fits : topic.accepts (some bytes) = true) :
    (publishAt registry i (some bytes))[i]? ≠ some topic := by
  rw [publishAt_self present]
  intro same
  exact csynTopicPublish_generation_ne fits
    (congrArg (fun topic => topic.generation) (Option.some.inj same))

theorem keepsApart_iff {config : Kconfig} {registry peer : List CsynTopic}
    (unwritten : ∀ topic ∈ registry, topic.Unwritten) :
    KeepsApart config registry peer ↔ ∀ t u, ¬ Crosses registry peer t u := by
  constructor
  · intro apart t u crosses
    obtain ⟨catalogId, i, identified, present, found, earlier⟩ := crosses.first
    have emits : Emits config registry t.key (udpDatagram catalogId [0]) :=
      emits_byte crosses.sender (unwritten t crosses.sender) identified crosses.room.1
    have kept := apart t.key _ emits ⟨peer, false, false⟩ (.refl peer) i u present crosses.otherKey
    have lower := config.flatbuffer_lower
    have offers : UdpOffers config peer (udpDatagram catalogId [0]) i [0] :=
      ⟨catalogId, udpFrame_datagram catalogId (by change 1 ≤ _; omega),
        csynTopicByCatalogId_iff.mpr ⟨u, present, found, earlier⟩⟩
    have fits : u.accepts (some [0]) = true :=
      CsynTopic.accepts_some.mpr ⟨Nat.one_pos, crosses.room.2⟩
    rw [rxDatagram_offers offers] at kept
    exact publishAt_changes present fits kept
  · intro straight key datagram emits s same i u present otherKey
    obtain ⟨t, sender, rfl, catalogId, sample, identified, framed, positive, fits⟩ :=
      emits.frame fun topic member => (unwritten topic member).bounded
    rcases rxDatagram_cases config s datagram with unchanged | ⟨j, payload, offers, stored⟩
    · rw [unchanged]
      exact present
    · rw [stored]
      by_cases here : j = i
      · subst here
        obtain ⟨otherId, framed', found⟩ := offers
        rw [framed, Option.some.injEq, Prod.mk.injEq] at framed'
        obtain ⟨rfl, rfl⟩ := framed'
        rw [csynTopicByCatalogId_congr same] at found
        obtain ⟨v, there, selected, earlier⟩ := csynTopicByCatalogId_iff.mp found
        obtain ⟨now, presentNow, declared⟩ := same.get there
        rw [present, Option.some.injEq] at presentNow
        subst presentNow
        cases accepted : u.accepts (some sample) with
        | false =>
            rw [publishAt_self present, csynTopicPublish_rejected accepted]
        | true =>
            have roomy := CsynTopic.accepts_some.mp accepted
            refine absurd (⟨sender, ⟨catalogId, j, identified, there, selected, earlier⟩,
              declared.key ▸ otherKey, Nat.lt_of_lt_of_le positive fits, ?_⟩ :
                Crosses registry peer t v) (straight t v)
            rw [← declared.maxSize]
            exact Nat.lt_of_lt_of_le positive roomy.2
      · rw [publishAt_other _ here]
        exact present

/-- Where every topic has room for a byte, frames cross if and only if two keys share a
catalog id. -/
theorem crosses_iff_shared {synapseTopicByKey : Str → Option SynapseTopicInfo}
    {declared declaredPeer registry peer : List CsynTopic}
    (accepted : csynInit synapseTopicByKey declared = (none, registry))
    (acceptedPeer : csynInit synapseTopicByKey declaredPeer = (none, peer))
    (sameKeys : (registry.map fun t => t.key).Perm (peer.map fun t => t.key))
    (room : ∀ topic ∈ registry ++ peer, 0 < topic.maxSize.toNat) :
    (∀ t u, ¬ Crosses registry peer t u) ↔ DistinctIds registry := by
  -- Equal keys have equal catalog entries, on both sides.
  have sameInfo : ∀ t ∈ registry, ∀ u ∈ peer, t.key = u.key → t.info = u.info := by
    intro t member u member' key
    obtain ⟨info, present, resolved⟩ := csynInit_accepted accepted member
    obtain ⟨info', present', resolved'⟩ := csynInit_accepted acceptedPeer member'
    rw [present, present', ← resolved, ← resolved', key]
  constructor
  · intro straight t member u member' catalogId identified identified'
    by_contra different
    obtain ⟨v, there, key⟩ := List.mem_map.mp
      (sameKeys.mem_iff.mp (List.mem_map_of_mem (f := fun t => t.key) member))
    have held : v.hasCatalogId catalogId = true := by
      rw [CsynTopic.hasCatalogId, ← sameInfo t member v there key.symm]
      exact identified
    obtain ⟨i, found⟩ := registered_iff.mp ⟨v, there, held⟩
    obtain ⟨first, present, selected, earlier⟩ := csynTopicByCatalogId_iff.mp found
    have roomy := room first (List.mem_append_right _ (List.mem_of_getElem? present))
    by_cases own : first.key = t.key
    · exact straight u first ⟨member', ⟨catalogId, i, identified', present, selected, earlier⟩,
        fun same => different (own.symm.trans same),
        room u (List.mem_append_left _ member'), roomy⟩
    · exact straight t first ⟨member, ⟨catalogId, i, identified, present, selected, earlier⟩,
        own, room t (List.mem_append_left _ member), roomy⟩
  · intro distinct t u crosses
    obtain ⟨catalogId, i, identified, present, selected, -⟩ := crosses.first
    have there := List.mem_of_getElem? present
    obtain ⟨v, member, key⟩ := List.mem_map.mp
      (sameKeys.mem_iff.mpr (List.mem_map_of_mem (f := fun t => t.key) there))
    have held : v.hasCatalogId catalogId = true := by
      rw [CsynTopic.hasCatalogId, sameInfo v member u there key]
      exact selected
    exact crosses.otherKey (key.symm.trans (distinct v member t crosses.sender catalogId held
      identified))

/-- What `tx_topic_if_updated` sends for one topic is never published into another one, if and
only if no topic comes first on the peer with the catalog id of a topic that has another key
(and a byte fits both). Where a byte fits every topic: if and only if no two keys share a
catalog id. -/
theorem udp_keeps_topics_apart_iff (config : Kconfig)
    (synapseTopicByKey : Str → Option SynapseTopicInfo)
    (declarations declarationsPeer : List TopicDeclaration) (registry peer : List CsynTopic)
    (accepted : csynInit synapseTopicByKey
      (declarations.map fun d => csynTopicDefine d.key d.dir d.maxSize) = (none, registry))
    (acceptedPeer : csynInit synapseTopicByKey
      (declarationsPeer.map fun d => csynTopicDefine d.key d.dir d.maxSize) = (none, peer))
    (sameKeys : (registry.map fun t => t.key).Perm (peer.map fun t => t.key)) :
    (KeepsApart config registry peer ↔ ∀ t u, ¬ Crosses registry peer t u) ∧
      ((∀ topic ∈ registry ++ peer, 0 < topic.maxSize.toNat) →
        (KeepsApart config registry peer ↔ DistinctIds registry)) := by
  have unwritten : ∀ topic ∈ registry, topic.Unwritten := by
    have booted : bootRegistry synapseTopicByKey declarations = registry :=
      congrArg Prod.snd accepted
    rw [← booted]
    exact bootRegistry_unwritten
  refine ⟨keepsApart_iff unwritten, ?_⟩
  intro room
  exact (keepsApart_iff unwritten).trans
    (crosses_iff_shared accepted acceptedPeer sameKeys room)

def poseSourceInfo : SynapseTopicInfo where
  id := 12
  name := str "Odometry"
  key := str "odom"
  payloadSize := 2
  wireType := some (str "synapse.topic.OdometryData")
  schemaHash := some (str "00112233445566778899aabbccddeeff")
  fixedLayout := true

/-- A catalog of two types, looked up by the last segment of a key. -/
def segmentCatalog (key : Str) : Option SynapseTopicInfo :=
  if keySegment key = str "odom" then some poseSourceInfo
  else if keySegment key = str "text" then some textStatusInfo
  else none

/-- Two types, and the peer's link order is the other way round. -/
theorem udp_keeps_topics_apart_iff_two_types :
    ∃ registry peer,
      csynInit segmentCatalog [csynTopicDefine (str "vicon/cub1/odom") .tx 2,
        csynTopicDefine (str "cub1/text") .tx 64] = (none, registry) ∧
      csynInit segmentCatalog [csynTopicDefine (str "cub1/text") .rx 64,
        csynTopicDefine (str "vicon/cub1/odom") .rx 2] = (none, peer) ∧
      KeepsApart .default registry peer := by
  refine ⟨_, _, rfl, rfl, ?_⟩
  refine ((udp_keeps_topics_apart_iff .default segmentCatalog
    [⟨str "vicon/cub1/odom", .tx, 2⟩, ⟨str "cub1/text", .tx, 64⟩]
    [⟨str "cub1/text", .rx, 64⟩, ⟨str "vicon/cub1/odom", .rx, 2⟩] _ _ rfl rfl
    (List.Perm.swap _ _ _)).2 (by decide)).mpr ?_
  intro t member u member' catalogId identified identified'
  have apart : ∀ first second : UInt16, first ≠ second → (first == catalogId) = true →
      (second == catalogId) = true → False := by
    intro first second different here there
    exact different ((beq_iff_eq.mp here).trans (beq_iff_eq.mp there).symm)
  rcases List.mem_pair.mp member with rfl | rfl <;> rcases List.mem_pair.mp member' with rfl | rfl
  · rfl
  · exact (apart 12 9 (by decide) identified identified').elim
  · exact (apart 9 12 (by decide) identified identified').elim
  · rfl

/-- Two keys of one catalog type. -/
def twoPoseSources : List CsynTopic :=
  [csynTopicDefine (str "vicon/cub1/odom") .tx 2, csynTopicDefine (str "qualisys/cub1/odom") .tx 2]

/-- The frame of the second one is published into the first. -/
theorem udp_crosses_topics :
    ∃ registry, csynInit segmentCatalog twoPoseSources = (none, registry) ∧
      (registry.map fun t => t.key).Nodup ∧
      ∃ datagram u after, Emits .default registry (str "qualisys/cub1/odom") datagram ∧
        registry[0]? = some u ∧ u.key = str "vicon/cub1/odom" ∧
        (rxDatagram .default ⟨registry, false, false⟩ datagram).registry[0]? = some after ∧
        after.generation ≠ u.generation ∧ after.slots.load 2 2 = [5, 6] ∧
        ¬ KeepsApart .default registry registry := by
  have emits : ∀ registry, csynInit segmentCatalog twoPoseSources = (none, registry) →
      Emits .default registry (str "qualisys/cub1/odom") (udpDatagram 12 [5, 6]) := by
    rintro registry ⟨⟩
    exact ⟨[(1, some [5, 6])], 1, _, fun _ => 0, 0, 1, rfl, rfl, rfl⟩
  refine ⟨_, rfl, by decide, _, _, _, emits _ rfl, rfl, rfl, rfl, by decide, rfl, ?_⟩
  intro apart
  have kept := apart _ _ (emits _ rfl) ⟨_, false, false⟩ (.refl _) 0 _ rfl (by decide)
  exact absurd (congrArg (fun topic => topic.generation) (Option.some.inj kept)) (by decide)

end Csyn
