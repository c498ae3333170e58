import Csyn.BridgePublishers
import Csyn.ContractChecked
import Csyn.Vehicle

set_option autoImplicit false

/- Which stream the zros mocap topic is fed from, with both transports running. -/
namespace Csyn

/-- The update comes from the publish function of the selected stream. -/
def BridgeUpdate.FromSelected (source : MocapSource) (u : BridgeUpdate) : Prop :=
  match source with
  | .odometry => u.caller ≠ .mocap
  | .frame => u.caller ≠ .odometry
  | .poseKey => u.caller ≠ .odometry

/-- The images with a second stream: the pose is derived from odometry, and the UDP transport
also delivers mocap samples that decode. -/
structure VehicleImage.UdpFeedsMocap (image : VehicleImage) (registry : List CsynTopic) :
    Prop where
  source : image.bridge.config.mocapSource = .odometry
  nativeUdp : image.nativeUdp = true
  declared : image.bridge.declared .mocap = true
  delivered : ∃ i topic catalogId payload,
    csynTopicFind registry (some BridgePub.mocap.csynKey) = some i ∧
      registry[i]? = some topic ∧ csynTopicByCatalogId registry catalogId = some i ∧
      topic.accepts (some payload) = true ∧
      payload.length ≤ image.bridge.config.flatbufferMaxSize ∧
      (csynDecodeMocapFrame image.bridge.reader payload
        image.bridge.config.mocapRigidBodyId).isSome
  starts : ∀ pub, (image.bridge.topicOf registry pub).isSome → image.bridge.pubInit pub = true

section

variable {image : VehicleImage} {registry : List CsynTopic}

/-- What holds of every run: the bridge is sound, it mirrors into the topics `csyn_topic_find`
names, and a session subscribes for topics it declares a callback for. -/
structure Vehicle.Sound (image : VehicleImage) (registry : List CsynTopic) (s : Vehicle) :
    Prop where
  bridge : s.bridge.Sound image.bridge registry
  mirrored : ∀ map i, s.bridge.txCsyn map = some i →
    csynTopicFind registry (some map.csynKey) = some i
  subscribed : ∀ subscription ∈ s.session.subscriptions,
    subscription.Declared image.bridge.config registry

theorem Vehicle.boot_sound (bounded : ∀ topic ∈ registry, topic.Bounded) :
    (Vehicle.boot image registry).Sound image registry := by
  refine ⟨Bridge.boot_sound bounded, ?_, ?_⟩
  · rintro map i ⟨⟩
  · rintro subscription ⟨⟩

/-- A callback keeps the topic's declaration and the bound of its slots. -/
theorem Delivered.bounded {handler : InputHandler} {topic after : CsynTopic} {sample : ZSample}
    {stored : Bool} (delivered : Delivered handler topic sample stored after)
    (bounded : topic.Bounded) : after.Bounded := by
  cases delivered with
  | dropped store declared =>
      intro slot
      rw [store.lengths, declared.maxSize]
      exact bounded slot
  | published buf checked => exact csynTopicPublish_bounded _ bounded

theorem rxDrain_bounded {config : Kconfig} {s : UdpReceiver} (datagrams : List (List UInt8))
    (bounded : ∀ topic ∈ s.registry, topic.Bounded) :
    ∀ topic ∈ (rxDrain config s datagrams).registry, topic.Bounded := by
  induction datagrams generalizing s with
  | nil => exact bounded
  | cons datagram rest ih =>
      refine ih ?_
      rcases rxDatagram_cases config s datagram with same | ⟨i, payload, -, stored⟩
      · rw [same]
        exact bounded
      · rw [stored]
        exact publishAt_bounded i _ bounded

/-- Everything a step can do. -/
theorem Vehicle.step_cases {s t : Vehicle} {action : VehicleAction}
    (taken : s.step image action = some t) :
    (∃ act bridge, (∀ i buf, act ≠ .receive i buf) ∧
        s.bridge.step image.bridge act = some bridge ∧ t = { s with bridge := bridge }) ∨
      (∃ ok, t = { s with
        session := s.session.declare image.bridge.config s.bridge.registry image.queryables
          ok }) ∨
      t = { s with session := s.session.close } ∨
      (∃ subscription ∈ s.session.subscriptions, ∃ topic sample stored after suppressFallback,
        s.bridge.registry[subscription.topic]? = some topic ∧
          Delivered subscription.handler topic sample stored after ∧
          t = { s with
            bridge := { s.bridge with
              registry := s.bridge.registry.set subscription.topic after }
            suppressFallback := suppressFallback }) ∨
      (image.nativeUdp = true ∧ ∃ datagrams flag flag',
        t = { s with
          bridge := { s.bridge with
            registry := (rxDrain image.bridge.config ⟨s.bridge.registry, s.loggedOdometryRx,
              s.loggedUnknownRx⟩ datagrams).registry }
          loggedOdometryRx := flag
          loggedUnknownRx := flag' }) := by
  have bridged : ∀ act, (∀ i buf, act ≠ .receive i buf) → s.stepBridge image act = some t →
      ∃ act bridge, (∀ i buf, act ≠ .receive i buf) ∧
        s.bridge.step image.bridge act = some bridge ∧ t = { s with bridge := bridge } := by
    intro act own stepped
    obtain ⟨bridge, inner, same⟩ := Option.map_eq_some_iff.mp stepped
    exact ⟨act, bridge, own, inner, same.symm⟩
  cases action with
  | zrosUpdate map message => exact Or.inl (bridged _ (by rintro _ _ ⟨⟩) taken)
  | bridgeInit => exact Or.inl (bridged _ (by rintro _ _ ⟨⟩) taken)
  | bridgeCall uptime readOk => exact Or.inl (bridged _ (by rintro _ _ ⟨⟩) taken)
  | declare ok =>
      unfold Vehicle.step at taken
      dsimp only at taken
      split at taken
      · cases taken
        exact Or.inr (Or.inl ⟨ok, rfl⟩)
      · cases taken
  | closeSession =>
      unfold Vehicle.step at taken
      dsimp only at taken
      split at taken
      · cases taken
        exact Or.inr (Or.inr (Or.inl rfl))
      · cases taken
  | sample index sample now =>
      unfold Vehicle.step Vehicle.deliver at taken
      dsimp only at taken
      split at taken
      · cases taken
      · rename_i subscription subscribed
        split at taken
        · cases taken
        · rename_i topic present
          obtain ⟨after, handled, same⟩ := Option.map_eq_some_iff.mp taken
          exact Or.inr (Or.inr (Or.inr (Or.inl ⟨subscription,
            List.mem_of_getElem? subscribed, topic, sample, after.1, after.2.1, after.2.2, present,
            InputHandler.handle_delivered handled, same.symm⟩)))
  | rxDrain datagrams =>
      unfold Vehicle.step at taken
      dsimp only at taken
      split at taken
      · rename_i enabled
        cases taken
        exact Or.inr (Or.inr (Or.inr (Or.inr ⟨enabled, datagrams, _, _, rfl⟩)))
      · cases taken

theorem Vehicle.step_sound {s t : Vehicle} {action : VehicleAction}
    (taken : s.step image action = some t) (valid : s.Sound image registry) :
    t.Sound image registry := by
  rcases Vehicle.step_cases taken with ⟨act, bridge, own, stepped, rfl⟩ | ⟨ok, rfl⟩ | rfl |
    ⟨subscription, subscribed, topic, sample, stored, after, _, present, delivered, rfl⟩ |
    ⟨-, datagrams, _, _, rfl⟩
  · refine ⟨Bridge.step_sound stepped valid.bridge, ?_, valid.subscribed⟩
    intro map i found
    rcases Bridge.step_txCsyn stepped with same | looked
    · rw [same] at found
      exact valid.mirrored map i found
    · rw [looked] at found
      exact (csynTopicFind_congr valid.bridge.declared _).symm.trans found
  · refine ⟨valid.bridge, valid.mirrored, ?_⟩
    intro subscription member
    have before : ∀ earlier ∈ s.session.subscriptions,
        earlier.Declared image.bridge.config s.bridge.registry := fun earlier inside =>
      (valid.subscribed earlier inside).congr valid.bridge.declared.symm
    exact (ZenohSession.declare_declared before subscription member).congr valid.bridge.declared
  · exact ⟨valid.bridge, valid.mirrored, ZenohSession.close_declared valid.subscribed⟩
  · refine ⟨valid.bridge.store (sameDeclarations_set present delivered.sameDeclaration) ?_,
      valid.mirrored, valid.subscribed⟩
    intro later member
    rcases List.mem_or_eq_of_mem_set member with old | rfl
    · exact valid.bridge.bounded later old
    · exact delivered.bounded (valid.bridge.bounded topic (List.mem_of_getElem? present))
  · exact ⟨valid.bridge.store (rxDrain_sameDeclarations _ _ _)
      (rxDrain_bounded datagrams valid.bridge.bounded), valid.mirrored, valid.subscribed⟩

/-- A drain reaches only topics that a catalog id selects. -/
theorem rxDrain_other {config : Kconfig} {s : UdpReceiver} {i : Nat}
    (datagrams : List (List UInt8))
    (unaddressed : ∀ catalogId, csynTopicByCatalogId s.registry catalogId ≠ some i) :
    (rxDrain config s datagrams).registry[i]? = s.registry[i]? := by
  induction datagrams generalizing s with
  | nil => rfl
  | cons datagram rest ih =>
      have declared := rxDatagram_sameDeclarations config s datagram
      refine (ih fun catalogId => ?_).trans ?_
      · rw [csynTopicByCatalogId_congr declared]
        exact unaddressed catalogId
      · rcases rxDatagram_cases config s datagram with same | ⟨j, payload, offers, stored⟩
        · rw [same]
        · obtain ⟨catalogId, -, found⟩ := offers
          rw [stored]
          refine publishAt_other _ ?_
          rintro rfl
          exact unaddressed catalogId found

/-- Nothing has been stored in the topic. -/
def Vehicle.Silent (i : Nat) (s : Vehicle) : Prop :=
  ∀ topic, s.bridge.registry[i]? = some topic → topic.generation = 0

/-- A topic that is neither mirrored, nor subscribed, nor selected by a catalog id, stays
silent. -/
theorem Vehicle.step_silent {s t : Vehicle} {action : VehicleAction} {i : Nat}
    (taken : s.step image action = some t) (valid : s.Sound image registry)
    (unmirrored : ∀ map : TxMap, csynTopicFind registry (some map.csynKey) ≠ some i)
    (unsubscribed : ∀ subscription : Subscription,
      subscription.Declared image.bridge.config registry → subscription.topic ≠ i)
    (unaddressed : image.nativeUdp = true →
      ∀ catalogId, csynTopicByCatalogId registry catalogId ≠ some i)
    (silent : s.Silent i) : t.Silent i := by
  rcases Vehicle.step_cases taken with ⟨act, bridge, own, stepped, rfl⟩ | ⟨ok, rfl⟩ | rfl |
    ⟨subscription, subscribed, topic, sample, stored, after, _, present, delivered, rfl⟩ |
    ⟨enabled, datagrams, _, _, rfl⟩
  · rcases Bridge.step_registry stepped with same | ⟨j, buf, received, -⟩ |
      ⟨map, j, buf, found, stored⟩
    · unfold Vehicle.Silent
      dsimp only
      rw [same]
      exact silent
    · exact absurd received (own j buf)
    · have different : j ≠ i := by
        rintro rfl
        exact unmirrored map (valid.mirrored map j found)
      unfold Vehicle.Silent
      dsimp only
      rw [stored, publishAt_other buf different]
      exact silent
  · exact silent
  · exact silent
  · unfold Vehicle.Silent
    dsimp only
    rw [List.getElem?_set_ne (unsubscribed subscription (valid.subscribed _ subscribed))]
    exact silent
  · unfold Vehicle.Silent
    dsimp only
    rw [rxDrain_other datagrams fun catalogId => by
      rw [csynTopicByCatalogId_congr valid.bridge.declared]
      exact unaddressed enabled catalogId]
    exact silent

end

section

variable {image : VehicleImage} {synapseTopicByKey : Str → Option SynapseTopicInfo}
  {declarations : List TopicDeclaration}

theorem TxMap.plain (map : TxMap) : PlainKey map.csynKey := by
  cases map <;> exact ⟨by decide, _, _, rfl, by decide⟩

theorem mocapKey_plain : PlainKey BridgePub.mocap.csynKey :=
  ⟨by decide, _, _, rfl, by decide⟩

theorem TxMap.csynKey_ne_mocap (map : TxMap) : map.csynKey ≠ BridgePub.mocap.csynKey := by
  cases map <;> decide

/-- No mirrored topic answers to "mocap". -/
theorem csynTopicFind_txMap_ne_mocap (catalog : SynapseCatalog synapseTopicByKey) {i : Nat}
    (found : csynTopicFind (bootRegistry synapseTopicByKey declarations)
      (some BridgePub.mocap.csynKey) = some i) (map : TxMap) :
    csynTopicFind (bootRegistry synapseTopicByKey declarations) (some map.csynKey) ≠ some i := by
  intro mirrored
  obtain ⟨topic, present, answers⟩ := csynTopicFind_some found
  obtain ⟨topic', present', answers'⟩ := csynTopicFind_some mirrored
  rw [present, Option.some.injEq] at present'
  subst present'
  exact map.csynKey_ne_mocap (answersTo_plain_unique catalog
    (bootRegistry_topic (List.mem_of_getElem? present)).2 map.plain mocapKey_plain answers' answers)

/-- The entry of a topic that answers to "mocap" has that key. -/
theorem answersTo_mocap_info (catalog : SynapseCatalog synapseTopicByKey) {topic : CsynTopic}
    {info : SynapseTopicInfo}
    (resolved : topic.info = none ∨ topic.info = resolveInfo synapseTopicByKey topic.key)
    (answers : topic.answersTo BridgePub.mocap.csynKey = true) (present : topic.info = some info) :
    info.key = BridgePub.mocap.csynKey := by
  rcases answersTo_plain catalog resolved mocapKey_plain answers with own | ⟨other, here, -, key⟩
  · rw [present, ← own] at resolved
    rcases resolved with missing | looked
    · cases missing
    · rcases resolveInfo_cases looked.symm with found | ⟨legacy, -⟩
      · exact catalog.bare _ _ mocapKey_plain.segment found
      · exact absurd legacy (by decide)
  · rw [present, Option.some.injEq] at here
    rw [here, key]

/-- With the odometry source no subscription feeds the topic. -/
theorem Subscription.Declared.not_mocap (catalog : SynapseCatalog synapseTopicByKey)
    {config : Kconfig} {i : Nat} {subscription : Subscription}
    (source : config.mocapSource = .odometry)
    (found : csynTopicFind (bootRegistry synapseTopicByKey declarations)
      (some BridgePub.mocap.csynKey) = some i)
    (declared : subscription.Declared config (bootRegistry synapseTopicByKey declarations)) :
    subscription.topic ≠ i := by
  rintro rfl
  rcases declared with ⟨topic, present, handled⟩ | ⟨-, legacy⟩
  · obtain ⟨topic', present', answers⟩ := csynTopicFind_some found
    rw [present, Option.some.injEq] at present'
    subst present'
    unfold rxHandler at handled
    split at handled
    · cases handled
    · split at handled
      · cases handled
      · rename_i info resolved
        have key : info.key = str "mocap" := answersTo_mocap_info catalog
          (bootRegistry_topic (List.mem_of_getElem? present)).2 answers resolved
        rw [if_pos key, source] at handled
        cases handled
  · unfold legacyMocapTopic at legacy
    rw [source] at legacy
    cases legacy

/-- The topic behind the mocap publisher stays silent unless UDP addresses it. -/
def Vehicle.MocapSilent (image : VehicleImage) (registry : List CsynTopic) (s : Vehicle) : Prop :=
  image.bridge.config.mocapSource = .odometry → ∀ i,
    csynTopicFind registry (some BridgePub.mocap.csynKey) = some i →
    (image.nativeUdp = true → ∀ catalogId, csynTopicByCatalogId registry catalogId ≠ some i) →
    s.Silent i

/-- A call that copies a mocap sample with the odometry source copied it from UDP. -/
theorem BridgeImage.Made.fromSelected {registry : List CsynTopic} {s : Vehicle}
    {thread : BridgeThread} {u : BridgeUpdate} (single : ¬ image.UdpFeedsMocap registry)
    (valid : s.Sound image registry) (silent : s.MocapSilent image registry)
    (running : s.bridge.thread = some thread) (made : image.bridge.Made s.bridge thread u)
    (pub : u.pub = .mocap) : u.FromSelected image.bridge.config.mocapSource := by
  obtain ⟨topics, ready⟩ := valid.bridge.ready thread running
  obtain ⟨-, -, bytes, after, copied, origin⟩ := made
  have notOdometry : image.bridge.config.mocapSource ≠ .odometry → u.caller ≠ .odometry := by
    intro other caller
    rcases origin with ⟨own, -⟩ | ⟨-, -, source, -, -⟩
    · rw [pub, caller] at own
      cases own
    · exact other source
  unfold BridgeUpdate.FromSelected
  split
  · rename_i source
    intro caller
    rcases origin with ⟨-, decodes⟩ | ⟨odometry, -⟩
    · obtain ⟨⟨i, topic, generation, found, present, copy⟩, -, -⟩ := Bridge.copied_some copied
      rw [caller] at found copy
      rw [topics] at found
      obtain ⟨live, positive, fits, room⟩ := csynTopicCopy_sized
        (valid.bridge.bounded topic (List.mem_of_getElem? present)) copy
      have declared : image.bridge.declared .mocap = true := by
        cases here : image.bridge.declared .mocap with
        | true => rfl
        | false =>
            rw [BridgeImage.topicOf, here] at found
            cases found
      have answering := found
      rw [BridgeImage.topicOf, if_pos declared] at answering
      obtain ⟨before, presentBefore, declaration⟩ := valid.bridge.declared.symm.get present
      refine live (silent source i answering (fun enabled catalogId addressed => single
        ⟨source, enabled, declared, ⟨i, before, catalogId, bytes, answering, presentBefore,
          addressed, ?_, room, decodes caller⟩, fun other here => (ready other here).1⟩)
        topic present)
      rw [CsynTopic.accepts_some, declaration.maxSize]
      exact ⟨positive, fits⟩
    · rw [caller] at odometry
      cases odometry
  · rename_i source
    exact notOdometry (by rw [source]; decide)
  · rename_i source
    exact notOdometry (by rw [source]; decide)

/-- What every run keeps as long as there is one stream. -/
structure Vehicle.OneStream (image : VehicleImage) (registry : List CsynTopic) (s : Vehicle) :
    Prop where
  sound : s.Sound image registry
  silent : s.MocapSilent image registry
  selected : ∀ u ∈ s.bridge.updates, u.pub = .mocap →
    u.FromSelected image.bridge.config.mocapSource

theorem Vehicle.step_oneStream (catalog : SynapseCatalog synapseTopicByKey)
    (single : ¬ image.UdpFeedsMocap (bootRegistry synapseTopicByKey declarations))
    (s : Vehicle) (action : VehicleAction) (t : Vehicle) (taken : s.step image action = some t)
    (valid : s.OneStream image (bootRegistry synapseTopicByKey declarations)) :
    t.OneStream image (bootRegistry synapseTopicByKey declarations) := by
  refine ⟨Vehicle.step_sound taken valid.sound, ?_, ?_⟩
  · intro source i found unaddressed
    exact Vehicle.step_silent taken valid.sound (csynTopicFind_txMap_ne_mocap catalog found)
      (fun _ declared => declared.not_mocap catalog source found) unaddressed
      (valid.silent source i found unaddressed)
  · intro u made pub
    rcases Vehicle.step_cases taken with ⟨act, bridge, -, stepped, rfl⟩ | ⟨ok, rfl⟩ | rfl |
      ⟨_, -, _, _, _, _, _, -, -, rfl⟩ | ⟨-, _, _, _, rfl⟩
    · rcases Bridge.step_updates stepped made with earlier | ⟨thread, running, because⟩
      · exact valid.selected u earlier pub
      · exact because.fromSelected single valid.sound valid.silent running pub
    all_goals exact valid.selected u made pub

/-- A bridge run of calls is a vehicle run of calls. -/
theorem Vehicle.run_calls {s : Vehicle} {bridge : Bridge} (calls : Nat)
    (reached : Automaton.run (Bridge.step image.bridge) s.bridge
      (List.replicate calls (.call 0 false)) = some bridge) :
    Automaton.run (Vehicle.step image) s (List.replicate calls (.bridgeCall 0 false)) =
      some { s with bridge := bridge } := by
  induction calls generalizing s with
  | zero =>
      cases reached
      rfl
  | succ n ih =>
      rw [List.replicate_succ] at reached ⊢
      obtain ⟨mid, first, later⟩ := (Automaton.run_cons_some _).mp reached
      refine (Automaton.run_cons_some _).mpr ⟨{ s with bridge := mid }, ?_,
        ih (s := { s with bridge := mid }) later⟩
      exact congrArg (Option.map fun bridge => { s with bridge := bridge }) first

/-- With one of these images, the first mocap frame received over UDP is published although the
source is odometry. -/
theorem VehicleImage.UdpFeedsMocap.updates {registry : List CsynTopic}
    (feeds : image.UdpFeedsMocap registry)
    (unwritten : ∀ topic ∈ registry, topic.Unwritten) :
    ∃ schedule s, Automaton.run (Vehicle.step image) (Vehicle.boot image registry) schedule =
      some s ∧ ∃ u ∈ s.bridge.updates, u.pub = .mocap ∧ u.caller = .mocap := by
  obtain ⟨i, topic, catalogId, payload, found, present, addressed, fits, room, decodes⟩ :=
    feeds.delivered
  have bound : image.bridge.topicOf registry .mocap = some i := by
    rw [BridgeImage.topicOf, if_pos feeds.declared]
    exact found
  obtain ⟨thread, due⟩ := bridgeInit_due bound present
    (unwritten topic (List.mem_of_getElem? present)) feeds.starts fits room
  obtain ⟨calls, bridge, after, reached, due, -⟩ := due.reach
  obtain ⟨body, decoded⟩ := Option.isSome_iff_exists.mp decodes
  let booted : Vehicle := Vehicle.boot image registry
  let started : Vehicle := { booted with bridge := bridgeInit image.bridge booted.bridge }
  let drained := rxDrain image.bridge.config ⟨registry, false, false⟩
    [udpDatagram catalogId payload]
  have stored : drained.registry = publishAt registry i (some payload) :=
    rxDatagram_offers ⟨catalogId, udpFrame_datagram catalogId room, addressed⟩
  let received : Vehicle := { started with
    bridge := { started.bridge with registry := drained.registry }
    loggedOdometryRx := drained.loggedOdometryRx
    loggedUnknownRx := drained.loggedUnknownRx }
  obtain ⟨later, copied⟩ := due.waiting
  refine ⟨.bridgeInit :: .rxDrain [udpDatagram catalogId payload] ::
      (List.replicate calls (.bridgeCall 0 false) ++ [.bridgeCall 0 false]),
    { received with bridge := bridge.afterCall image.bridge after 0 false }, ?_, ?_⟩
  · refine (Automaton.run_cons_some _).mpr ⟨started, rfl, ?_⟩
    refine (Automaton.run_cons_some _).mpr ⟨received, if_pos feeds.nativeUdp, ?_⟩
    refine (Automaton.run_append_some _).mpr ⟨{ received with bridge := bridge }, ?_, ?_⟩
    · refine Vehicle.run_calls calls ?_
      dsimp only [received]
      rw [stored]
      exact reached
    · refine (Automaton.run_cons_some _).mpr ⟨_, ?_, rfl⟩
      exact congrArg (Option.map fun bridge => { received with bridge := bridge })
        (Bridge.step_call due.running 0 false)
  · refine ⟨⟨.mocap, .mocap, bridge.initialised .mocap, .mocap body⟩, ?_, rfl, rfl⟩
    dsimp only
    unfold Bridge.afterCall Bridge.call
    rw [due.calling]
    dsimp only
    unfold Bridge.publishMocapIfUpdated
    rw [show bridge.copied after .mocap image.bridge.config.flatbufferMaxSize = _ from copied]
    dsimp only
    rw [decoded]
    exact List.mem_append_right _ (List.mem_singleton_self _)

end

/-- In every run each mocap update comes from the selected stream if and only if no UDP frame
reaches the mocap topic of an image with the odometry source. -/
theorem mocap_from_selected_source_iff (image : VehicleImage)
    (synapseTopicByKey : Str → Option SynapseTopicInfo) (declarations : List TopicDeclaration)
    (catalog : SynapseCatalog synapseTopicByKey) :
    (∀ schedule s, Automaton.run (Vehicle.step image)
        (Vehicle.boot image (bootRegistry synapseTopicByKey declarations)) schedule = some s →
      ∀ u ∈ s.bridge.updates, u.pub = .mocap →
        u.FromSelected image.bridge.config.mocapSource) ↔
      ¬ image.UdpFeedsMocap (bootRegistry synapseTopicByKey declarations) := by
  constructor
  · intro selected feeds
    obtain ⟨schedule, s, reached, u, made, pub, caller⟩ := feeds.updates bootRegistry_unwritten
    have one := selected schedule s reached u made pub
    rw [feeds.source] at one
    exact one caller
  · intro single schedule s reached
    refine (Automaton.run_invariant (Vehicle.step_oneStream catalog single) reached
      ⟨Vehicle.boot_sound bootRegistry_bounded, ?_, ?_⟩).selected
    · intro _ i _ _ topic present
      exact (bootRegistry_unwritten topic (List.mem_of_getElem? present)).generation
    · rintro u ⟨⟩

def mocapPoseFrameInfo : SynapseTopicInfo where
  id := 5
  name := str "MocapPoseFrame"
  key := str "mocap"
  payloadSize := 0
  wireType := some (str "synapse.topic.MocapPoseFrame")
  schemaHash := some (str "ffeeddccbbaa99887766554433221100")
  fixedLayout := false

def poseCatalog (key : Str) : Option SynapseTopicInfo :=
  if key = str "mocap" then some mocapPoseFrameInfo else odometryCatalog key

theorem poseCatalog_catalog : SynapseCatalog poseCatalog := by
  refine ⟨?_, ?_⟩
  · intro key info _ found
    unfold poseCatalog odometryCatalog at found
    split at found
    · rename_i mocap
      cases found
      exact mocap.symm
    · split at found
      · rename_i odom
        cases found
        exact odom.symm
      · cases found
  · intro key info found
    unfold poseCatalog odometryCatalog at found
    split at found
    · cases found
      exact ⟨_, _, rfl, by decide⟩
    · split at found
      · cases found
        exact ⟨_, _, rfl, by decide⟩
      · cases found

/-- Topics for both streams. -/
def poseTopics : List TopicDeclaration := [⟨str "odom", .rx, 2⟩, ⟨str "mocap", .rx, 64⟩]

/-- The odometry source, with Zenoh or UDP as the transport. -/
def poseVehicle (nativeUdp : Bool) : VehicleImage where
  bridge := poseFromOdometry
  queryables := []
  zenoh := !nativeUdp
  nativeUdp := nativeUdp

theorem mocap_from_selected_source_iff_zenoh :
    ¬ (poseVehicle false).UdpFeedsMocap (bootRegistry poseCatalog poseTopics) ∧
      ∀ schedule s, Automaton.run (Vehicle.step (poseVehicle false))
          (.boot (poseVehicle false) (bootRegistry poseCatalog poseTopics)) schedule = some s →
        ∀ u ∈ s.bridge.updates, u.pub = .mocap → u.caller ≠ .mocap := by
  have single : ¬ (poseVehicle false).UdpFeedsMocap (bootRegistry poseCatalog poseTopics) := by
    intro feeds
    cases feeds.nativeUdp
  exact ⟨single, (mocap_from_selected_source_iff (poseVehicle false) poseCatalog poseTopics
    poseCatalog_catalog).mpr single⟩

/-- Over UDP a compact pose reaches the mocap publisher through `publish_mocap_if_updated`. -/
theorem mocap_from_other_source :
    (csynInit poseCatalog (poseTopics.map fun d => csynTopicDefine d.key d.dir d.maxSize)).1 =
        none ∧
      ∃ s, Automaton.run (Vehicle.step (poseVehicle true))
          (.boot (poseVehicle true) (bootRegistry poseCatalog poseTopics))
          [.bridgeInit, .rxDrain [udpDatagram 5 (List.replicate 28 0)], .bridgeCall 0 true,
            .bridgeCall 0 true] = some s ∧
        ∃ u ∈ s.bridge.updates, u.pub = .mocap ∧ u.caller = .mocap ∧
          ¬ u.FromSelected (poseVehicle true).bridge.config.mocapSource := by
  refine ⟨rfl, _, rfl, ⟨.mocap, .mocap, true, .mocap ⟨0, 0, 0, 0, 0, 0, 0, 0, true⟩⟩, ?_, rfl, rfl,
    fun selected => selected rfl⟩
  exact List.mem_singleton_self _

end Csyn
