import Csyn.BridgeSteps
import Csyn.Lib.Automaton

set_option autoImplicit false

/- Whether every publisher the bridge updates was initialised. -/
namespace Csyn

section

variable {image : BridgeImage}

theorem BridgeImage.topicOf_congr {registry before : List CsynTopic}
    (same : SameDeclarations registry before) (pub : BridgePub) :
    image.topicOf registry pub = image.topicOf before pub := by
  rw [BridgeImage.topicOf, BridgeImage.topicOf, csynTopicFind_congr same]

/-- What holds of every run: the declarations stand, and a running thread works on the topics
`bridge_init` saw, whose publishers are all set up. -/
structure Bridge.Sound (image : BridgeImage) (registry : List CsynTopic) (s : Bridge) : Prop where
  declared : SameDeclarations s.registry registry
  bounded : ∀ topic ∈ s.registry, topic.Bounded
  ready : ∀ thread, s.thread = some thread →
    (∀ pub, thread.topics pub = image.topicOf registry pub) ∧
      ∀ pub, (image.topicOf registry pub).isSome →
        image.pubInit pub = true ∧ s.initialised pub = true

theorem Bridge.boot_sound {registry : List CsynTopic}
    (bounded : ∀ topic ∈ registry, topic.Bounded) :
    (Bridge.boot image registry).Sound image registry :=
  ⟨.refl registry, bounded, by rintro thread ⟨⟩⟩

theorem bridgeInit_sound {registry : List CsynTopic} {s : Bridge}
    (valid : s.Sound image registry) : (bridgeInit image s).Sound image registry := by
  refine ⟨valid.declared, valid.bounded, ?_⟩
  intro thread started
  unfold bridgeInit at started ⊢
  dsimp only at started ⊢
  split at started
  · rename_i running
    cases started
    refine ⟨fun pub => BridgeImage.topicOf_congr valid.declared pub, ?_⟩
    intro pub bound
    rw [← BridgeImage.topicOf_congr valid.declared] at bound
    rcases initPubs_result image s.registry BridgePub.all s.initialised
      (TxMap.all.any fun map => image.txDeclared map &&
        (csynTopicFind s.registry (some map.csynKey)).isSome) with ⟨-, failed⟩ | ⟨succeeded, result⟩
    · rw [failed] at running
      cases running
    · refine ⟨succeeded pub (List.contains_iff_mem.mp pub.mem_all) bound, ?_⟩
      rw [result]
      dsimp only
      rw [bound, pub.mem_all]
      simp
  · cases started

/-- Nothing but the stores changes when samples arrive. -/
theorem Bridge.Sound.store {registry stored : List CsynTopic} {s : Bridge}
    (valid : s.Sound image registry) (declared : SameDeclarations stored s.registry)
    (bounded : ∀ topic ∈ stored, topic.Bounded) :
    ({ s with registry := stored } : Bridge).Sound image registry :=
  ⟨declared.trans valid.declared, bounded, valid.ready⟩

theorem Bridge.step_sound {registry : List CsynTopic} {s t : Bridge} {action : BridgeAction}
    (taken : s.step image action = some t) (valid : s.Sound image registry) :
    t.Sound image registry := by
  have stores : SameDeclarations t.registry registry ∧ ∀ topic ∈ t.registry, topic.Bounded := by
    rcases Bridge.step_registry taken with same | ⟨i, buf, -, stored⟩ | ⟨_, i, buf, -, stored⟩
    · rw [same]
      exact ⟨valid.declared, valid.bounded⟩
    all_goals
      rw [stored]
      exact ⟨(publishAt_sameDeclarations _ _ _).trans valid.declared,
        publishAt_bounded i buf valid.bounded⟩
  rcases Bridge.step_cases taken with ⟨_, _, -, rfl⟩ | ⟨_, _, rfl⟩ | ⟨-, -, rfl⟩ |
    ⟨thread, uptime, readOk, -, running, rfl⟩
  · exact ⟨stores.1, stores.2, valid.ready⟩
  · exact ⟨stores.1, stores.2, valid.ready⟩
  · exact bridgeInit_sound valid
  · have effect := s.call_effect image thread uptime readOk
    obtain ⟨topics, initialised⟩ := valid.ready thread running
    refine ⟨stores.1, stores.2, ?_⟩
    rintro _ ⟨⟩
    refine ⟨fun pub => (congrFun effect.topics pub).trans (topics pub), ?_⟩
    unfold Bridge.afterCall
    dsimp only
    rw [effect.initialised]
    exact initialised

/-- The images that drive a mocap publisher nobody set up: the pose is derived from odometry
samples, which can be delivered, but no csyn topic answers to "mocap". -/
structure BridgeImage.DrivesUninitialised (image : BridgeImage) (registry : List CsynTopic) :
    Prop where
  source : image.config.mocapSource = .odometry
  declared : image.declared .mocap = true
  unbound : csynTopicFind registry (some BridgePub.mocap.csynKey) = none
  delivered : ∃ i topic, image.topicOf registry .odometry = some i ∧ registry[i]? = some topic ∧
    image.layout.sizeofOdometryData ≤ topic.maxSize.toNat
  starts : ∀ pub, (image.topicOf registry pub).isSome → image.pubInit pub = true

/-- Otherwise an update is on a publisher that was set up. -/
theorem BridgeImage.Made.initialised_of {registry : List CsynTopic} {s : Bridge}
    {thread : BridgeThread} {u : BridgeUpdate} (bound : ¬ image.DrivesUninitialised registry)
    (valid : s.Sound image registry) (running : s.thread = some thread)
    (made : image.Made s thread u) : u.initialised = true := by
  obtain ⟨topics, ready⟩ := valid.ready thread running
  obtain ⟨same, -, bytes, after, copied, origin⟩ := made
  obtain ⟨⟨i, topic, generation, found, present, copy⟩, -, -⟩ := Bridge.copied_some copied
  rw [topics] at found
  rcases origin with ⟨own, -⟩ | ⟨caller, pub, source, declared, sized⟩
  · rw [same, own]
    exact (ready u.caller (Option.isSome_of_eq_some found)).2
  · rw [same, pub]
    by_cases mocap : (image.topicOf registry .mocap).isSome
    · exact (ready .mocap mocap).2
    -- The pose came from an odometry sample that fits its topic.
    · rw [caller] at found copy
      have size := csynTopicCopy_sized
        (valid.bounded topic (List.mem_of_getElem? present)) copy
      obtain ⟨before, presentBefore, declaration⟩ := valid.declared.symm.get present
      refine absurd ⟨source, declared, ?_, ⟨i, before, found, presentBefore, ?_⟩,
        fun other here => (ready other here).1⟩ bound
      · rw [BridgeImage.topicOf, if_pos declared, Option.isSome_iff_ne_none,
          not_not] at mocap
        exact mocap
      · rw [← sized, declaration.maxSize]
        exact size.2.2.1

theorem Bridge.step_initialised {registry : List CsynTopic}
    (bound : ¬ image.DrivesUninitialised registry) (s : Bridge) (action : BridgeAction)
    (t : Bridge) (taken : s.step image action = some t)
    (valid : s.Sound image registry ∧ ∀ u ∈ s.updates, u.initialised = true) :
    t.Sound image registry ∧ ∀ u ∈ t.updates, u.initialised = true := by
  refine ⟨Bridge.step_sound taken valid.1, ?_⟩
  intro u made
  rcases Bridge.step_updates taken made with earlier | ⟨thread, running, because⟩
  · exact valid.2 u earlier
  · exact because.initialised_of bound valid.1 running

/-- With one of these images, the first odometry sample updates the uninitialised publisher. -/
theorem BridgeImage.DrivesUninitialised.updates {registry : List CsynTopic}
    (drives : image.DrivesUninitialised registry)
    (unwritten : ∀ topic ∈ registry, topic.Unwritten) :
    ∃ schedule s, Automaton.run (Bridge.step image) (Bridge.boot image registry) schedule =
      some s ∧ ∃ u ∈ s.updates, u.pub = .mocap ∧ u.initialised = false := by
  obtain ⟨i, topic, bound, present, room⟩ := drives.delivered
  have whole : (List.replicate image.layout.sizeofOdometryData (0 : UInt8)).length =
      image.layout.sizeofOdometryData := List.length_replicate
  have fits : topic.accepts
      (some (List.replicate image.layout.sizeofOdometryData 0)) = true := by
    rw [CsynTopic.accepts_some, whole]
    exact ⟨image.layout.odometry_positive, room⟩
  obtain ⟨thread, due⟩ := bridgeInit_due bound present
    (unwritten topic (List.mem_of_getElem? present)) drives.starts fits (Nat.le_of_eq whole)
  obtain ⟨calls, s, after, reached, due, same⟩ := due.reach
  -- No csyn topic answers to "mocap", so its block of `bridge_init` was skipped.
  have unset : s.initialised .mocap = false := by
    rw [same]
    refine ((bridgeInit_starts (s := Bridge.boot image registry)
      (Option.isSome_of_eq_some bound) drives.starts).2 .mocap).trans ?_
    dsimp only [Bridge.boot]
    rw [BridgeImage.topicOf, if_pos drives.declared, drives.unbound]
    rfl
  obtain ⟨later, copied⟩ := due.waiting
  refine ⟨.init :: .receive i (some (List.replicate image.layout.sizeofOdometryData 0)) ::
      (List.replicate calls (.call 0 false) ++ [.call 0 false]),
    s.afterCall image after 0 false, ?_, ?_⟩
  · refine (Automaton.run_cons_some _).mpr ⟨_, rfl, ?_⟩
    refine (Automaton.run_cons_some _).mpr ⟨_, rfl, ?_⟩
    refine (Automaton.run_append_some _).mpr ⟨s, reached, ?_⟩
    exact (Automaton.run_cons_some _).mpr ⟨_, Bridge.step_call due.running 0 false, rfl⟩
  · unfold Bridge.afterCall Bridge.call
    rw [due.calling]
    dsimp only
    unfold Bridge.publishOdometryIfUpdated
    rw [show s.copied after .odometry image.layout.sizeofOdometryData = _ from copied]
    dsimp only
    rw [if_neg (by rw [whole]; exact fun other => other rfl),
      if_pos ⟨drives.source, drives.declared⟩]
    exact ⟨_, List.mem_append_right _ (List.mem_singleton_self _), rfl, unset⟩

end

/-- Every publisher updated in any run was set up by `bridge_init` if and only if the image does
not derive the pose from odometry for an application without a "mocap" topic. -/
theorem bridge_publishes_initialised_iff (image : BridgeImage)
    (synapseTopicByKey : Str → Option SynapseTopicInfo) (declarations : List TopicDeclaration) :
    (∀ schedule s, Automaton.run (Bridge.step image)
        (Bridge.boot image (bootRegistry synapseTopicByKey declarations)) schedule = some s →
      ∀ u ∈ s.updates, u.initialised = true) ↔
      ¬ image.DrivesUninitialised (bootRegistry synapseTopicByKey declarations) := by
  constructor
  · intro initialised drives
    obtain ⟨schedule, s, reached, u, made, -, unset⟩ := drives.updates bootRegistry_unwritten
    rw [initialised schedule s reached u made] at unset
    cases unset
  · intro bound schedule s reached
    refine (Automaton.run_invariant (Bridge.step_initialised bound) reached
      ⟨Bridge.boot_sound bootRegistry_bounded, ?_⟩).2
    rintro u ⟨⟩

def odometryInfo : SynapseTopicInfo where
  id := 9
  name := str "Odometry"
  key := str "odom"
  payloadSize := 2
  wireType := some (str "synapse.topic.OdometryData")
  schemaHash := some (str "00112233445566778899aabbccddeeff")
  fixedLayout := true

def odometryCatalog (key : Str) : Option SynapseTopicInfo :=
  if key = str "odom" then some odometryInfo else none

/-- An application that wants the pose of the odometry it receives: it defines both zros topics,
and "odom" as its only csyn topic. -/
def poseFromOdometry : BridgeImage where
  config := { Kconfig.default with mocapSource := .odometry }
  layout := sampleLayout
  reader := ⟨fun _ => -1, fun _ => none, 1⟩
  declared := fun pub => pub == .mocap || pub == .odometry
  txDeclared := fun _ => false
  txSize := fun _ => 0
  pubInit := fun _ => true

/-- One odometry sample makes it update a publisher that `bridge_init` skipped. -/
theorem bridge_publishes_uninitialised :
    ∃ registry, csynInit odometryCatalog [csynTopicDefine (str "odom") .rx 2] =
        (none, registry) ∧
      ∃ s, Automaton.run (Bridge.step poseFromOdometry) (.boot poseFromOdometry registry)
          [.init, .receive 0 (some [4, 3]), .call 0 true, .call 0 true, .call 0 true,
            .call 0 true] = some s ∧
        ∃ u ∈ s.updates, u.pub = .mocap ∧ u.caller = .odometry ∧ u.initialised = false := by
  refine ⟨_, rfl, _, rfl, _, List.mem_cons_of_mem _ List.mem_cons_self, rfl, rfl, rfl⟩

end Csyn
