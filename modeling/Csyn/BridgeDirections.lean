import Mathlib.Logic.Function.Iterate
import Csyn.BridgeProvenance
import Csyn.BridgePublishers
import Csyn.TopicLookup

set_option autoImplicit false

/- The directions of the topics that the bridge works on. It binds each of its functions to the
first topic that answers to a name, whatever its direction. -/
namespace Csyn

/-- The thread is about to call a publish function on this topic. -/
def Bridge.Reads (s : Bridge) (i : Nat) : Prop :=
  ∃ thread pub, s.thread = some thread ∧ thread.next = .publish pub ∧ thread.topics pub = some i

/-- Over all runs the publish functions read inbound topics only, and the calls of the thread
change outbound topics only. -/
structure RespectsDirections (image : BridgeImage) (registry : List CsynTopic) : Prop where
  reads : ∀ schedule s i topic,
    Automaton.run (Bridge.step image) (.boot image registry) schedule = some s →
    s.Reads i → s.registry[i]? = some topic → topic.dir = .rx
  writes : ∀ schedule s uptime readOk t (i : Nat) topic,
    Automaton.run (Bridge.step image) (.boot image registry) schedule = some s →
    s.step image (.call uptime readOk) = some t → s.registry[i]? = some topic →
    t.registry[i]? ≠ some topic → topic.dir = .tx

/-- The names find topics of the right direction: an inbound one for each zros topic that is
published, and an outbound one for each that is mirrored, if that has room for its message. -/
structure BridgeImage.WellBound (image : BridgeImage) (registry : List CsynTopic) : Prop where
  published : ∀ pub i topic, image.topicOf registry pub = some i → registry[i]? = some topic →
    topic.dir = .rx
  mirrored : ∀ map i topic, image.txDeclared map = true →
    csynTopicFind registry (some map.csynKey) = some i → registry[i]? = some topic →
    0 < image.txSize map → image.txSize map ≤ topic.maxSize.toNat → topic.dir = .tx

section

variable {image : BridgeImage} {s : Bridge} {thread : BridgeThread}

/-- A call changes the stores by mirroring a message into the topic of its map. -/
theorem Bridge.call_writes (s : Bridge) (image : BridgeImage) (thread : BridgeThread)
    (uptime : Int) (readOk : Bool) :
    (s.call image thread uptime readOk).1.registry = s.registry ∨
      ∃ map i, image.txDeclared map = true ∧ s.txCsyn map = some i ∧
        (s.call image thread uptime readOk).1.registry =
          publishAt s.registry i (some (s.zrosMessage map)) := by
  cases calling : thread.next with
  | publish pub =>
      obtain ⟨inertial, odometry, updates, same⟩ :=
        Bridge.call_publishing (s := s) calling uptime readOk
      rw [same]
      exact Or.inl rfl
  | mirror map rest =>
      rw [Bridge.call_mirroring calling]
      unfold Bridge.mirrorTxIfUpdated
      split
      · rename_i i declared found
        dsimp only
        split
        · exact Or.inl rfl
        · split
          · exact Or.inr ⟨map, i, declared, found, rfl⟩
          · exact Or.inl rfl
      · exact Or.inl rfl

/-! ## Every call has its turn -/

/-- What the mirror depends on is as before. -/
structure Bridge.SameMirror (after before : Bridge) : Prop where
  registry : after.registry = before.registry
  txCsyn : after.txCsyn = before.txCsyn
  zrosGeneration : after.zrosGeneration = before.zrosGeneration
  zrosMessage : after.zrosMessage = before.zrosMessage
  txLastGeneration : after.txLastGeneration = before.txLastGeneration

theorem Bridge.SameMirror.refl (s : Bridge) : s.SameMirror s := ⟨rfl, rfl, rfl, rfl, rfl⟩

/-- While no zros topic can be read, a call leaves all that alone. -/
theorem Bridge.call_sameMirror (s : Bridge) (image : BridgeImage) (thread : BridgeThread)
    (uptime : Int) :
    (s.call image thread uptime false).1.SameMirror s := by
  cases calling : thread.next with
  | publish pub =>
      obtain ⟨inertial, odometry, updates, same⟩ :=
        Bridge.call_publishing (s := s) calling uptime false
      rw [same]
      exact ⟨rfl, rfl, rfl, rfl, rfl⟩
  | mirror map rest =>
      rw [Bridge.call_mirroring calling]
      unfold Bridge.mirrorTxIfUpdated
      split
      · dsimp only
        split
        · exact .refl s
        · exact .refl s
      · exact .refl s

theorem Bridge.SameMirror.trans {a b c : Bridge} (first : a.SameMirror b)
    (second : b.SameMirror c) : a.SameMirror c :=
  ⟨first.registry.trans second.registry, first.txCsyn.trans second.txCsyn,
    first.zrosGeneration.trans second.zrosGeneration, first.zrosMessage.trans second.zrosMessage,
    first.txLastGeneration.trans second.txLastGeneration⟩

variable (image) in
/-- After some calls the thread is that much further in its loop. -/
theorem Bridge.run_calls (running : s.thread = some thread) (k : Nat) :
    ∃ t after, Automaton.run (Bridge.step image) s (List.replicate k (.call 0 false)) = some t ∧
      t.thread = some after ∧ after.next = BridgeCall.following^[k] thread.next ∧
      after.topics = thread.topics ∧ t.SameMirror s := by
  induction k generalizing s thread with
  | zero => exact ⟨s, thread, rfl, running, rfl, rfl, .refl s⟩
  | succ k ih =>
      have effect := s.call_effect image thread 0 false
      obtain ⟨t, after, reached, later, next, topics, same⟩ :=
        ih (s := s.afterCall image thread 0 false) rfl
      refine ⟨t, after, ?_, later, ?_, topics.trans effect.topics, same.trans ?_⟩
      · rw [List.replicate_succ]
        exact (Automaton.run_cons_some _).mpr ⟨_, Bridge.step_call running 0 false, reached⟩
      · rw [next, Function.iterate_succ_apply]
      · have kept := s.call_sameMirror image thread 0
        exact ⟨kept.registry, kept.txCsyn, kept.zrosGeneration, kept.zrosMessage,
          kept.txLastGeneration⟩

theorem BridgePub.reached (pub : BridgePub) :
    ∃ k, BridgeCall.following^[k] (.publish .manualControl) = .publish pub := by
  cases pub with
  | manualControl => exact ⟨0, rfl⟩
  | mocap => exact ⟨1, rfl⟩
  | inertialSample => exact ⟨2, rfl⟩
  | odometry => exact ⟨3, rfl⟩

theorem TxMap.reached (map : TxMap) :
    ∃ k rest, BridgeCall.following^[k] (.publish .manualControl) = .mirror map rest := by
  refine ⟨4 + TxMap.all.idxOf map, TxMap.all.drop (TxMap.all.idxOf map + 1), ?_⟩
  cases map <;> rfl

/-- What is invariant in every run: the wiring of `bridge_init`, and messages of their size. -/
structure Bridge.Wired (image : BridgeImage) (registry : List CsynTopic) (s : Bridge) : Prop where
  sound : s.Sound image registry
  mirrored : ∀ map i, s.txCsyn map = some i → csynTopicFind registry (some map.csynKey) = some i
  messages : ∀ map, (s.zrosMessage map).length = image.txSize map

theorem Bridge.boot_wired {registry : List CsynTopic}
    (bounded : ∀ topic ∈ registry, topic.Bounded) :
    (Bridge.boot image registry).Wired image registry := by
  refine ⟨Bridge.boot_sound bounded, ?_, ?_⟩
  · intro map i unbound
    cases unbound
  · intro map
    exact List.length_replicate

theorem Bridge.step_wired {registry : List CsynTopic} (s : Bridge) (action : BridgeAction)
    (t : Bridge) (taken : s.step image action = some t) (valid : s.Wired image registry) :
    t.Wired image registry := by
  refine ⟨Bridge.step_sound taken valid.sound, ?_, ?_⟩
  · intro map i bound
    rcases Bridge.step_txCsyn taken with same | looked
    · rw [same] at bound
      exact valid.mirrored map i bound
    · rw [looked] at bound
      rw [← csynTopicFind_congr valid.sound.declared]
      exact bound
  · cases action with
    | receive i buf =>
        cases taken
        exact valid.messages
    | init =>
        obtain ⟨-, same⟩ := Bridge.step_init taken
        rw [same]
        exact valid.messages
    | zrosUpdate map message =>
        obtain ⟨sized, same⟩ := Bridge.step_zrosUpdate taken
        rw [same]
        intro other
        by_cases here : other = map
        · subst here
          show (Function.update s.zrosMessage other message other).length = _
          rw [Function.update_self, sized]
        · show (Function.update s.zrosMessage map message other).length = _
          rw [Function.update_of_ne here]
          exact valid.messages other
    | call uptime readOk =>
        obtain ⟨thread, -, same⟩ := Bridge.step_called taken
        rw [same]
        intro map
        show ((s.call image thread uptime readOk).1.zrosMessage map).length = _
        rw [(s.call_mirrors image thread uptime readOk).zrosMessage]
        exact valid.messages map

/-- A thread that runs reads inbound topics only, if its topics are well bound. -/
theorem Bridge.Wired.reads_rx {registry : List CsynTopic} (valid : s.Wired image registry)
    (bound : image.WellBound registry) {i : Nat} {topic : CsynTopic} (reads : s.Reads i)
    (present : s.registry[i]? = some topic) : topic.dir = .rx := by
  obtain ⟨thread, pub, running, -, read⟩ := reads
  obtain ⟨before, there, declared⟩ := valid.sound.declared.symm.get present
  rw [(valid.sound.ready thread running).1 pub] at read
  rw [← declared.dir]
  exact bound.published pub i before read there

/-- It then changes outbound topics only. -/
theorem Bridge.Wired.writes_tx {registry : List CsynTopic} (valid : s.Wired image registry)
    (bound : image.WellBound registry) {uptime : Int} {readOk : Bool} {t : Bridge} {i : Nat}
    {topic : CsynTopic} (taken : s.step image (.call uptime readOk) = some t)
    (present : s.registry[i]? = some topic) (changed : t.registry[i]? ≠ some topic) :
    topic.dir = .tx := by
  obtain ⟨thread, -, after⟩ := Bridge.step_called taken
  have stores : t.registry = (s.call image thread uptime readOk).1.registry := by
    rw [after]
    rfl
  rw [stores] at changed
  rcases s.call_writes image thread uptime readOk with
    same | ⟨map, j, declared, found, stored⟩
  · rw [same] at changed
    exact absurd present changed
  · rw [stored] at changed
    by_cases here : j = i
    · subst here
      rw [publishAt_self present] at changed
      have fits : topic.accepts (some (s.zrosMessage map)) = true := by
        by_contra refused
        rw [Bool.not_eq_true] at refused
        rw [csynTopicPublish_rejected refused] at changed
        exact changed rfl
      obtain ⟨positive, room⟩ := CsynTopic.accepts_some.mp fits
      rw [valid.messages] at positive room
      obtain ⟨before, there, same⟩ := valid.sound.declared.symm.get present
      rw [← same.dir]
      apply bound.mirrored map j before declared (valid.mirrored map j found) there positive
      rw [same.maxSize]
      exact room
    · rw [publishAt_other _ here] at changed
      exact absurd present changed

/-- A publish function has its turn on the topic it is bound to. -/
theorem reads_bound {registry : List CsynTopic} {pub : BridgePub} {i : Nat}
    (starts : ∀ other, (image.topicOf registry other).isSome → image.pubInit other = true)
    (bound : image.topicOf registry pub = some i) :
    ∃ schedule s, Automaton.run (Bridge.step image) (.boot image registry) schedule = some s ∧
      s.Reads i ∧ s.registry = registry := by
  have running := bridgeInit_thread (s := Bridge.boot image registry)
    (Or.inr ⟨pub, Option.isSome_of_eq_some bound⟩) starts
  obtain ⟨k, turn⟩ := pub.reached
  obtain ⟨t, after, reached, later, next, topics, same⟩ := Bridge.run_calls image running k
  refine ⟨.init :: List.replicate k (.call 0 false), t, ?_, ?_, same.registry⟩
  · exact (Automaton.run_cons_some _).mpr ⟨_, rfl, reached⟩
  · refine ⟨after, pub, later, ?_, ?_⟩
    · rw [next]
      exact turn
    · rw [topics]
      exact bound

/-- The mirror of an update it has not seen yet. -/
theorem Bridge.call_mirrors_update {map : TxMap} {rest : List TxMap} {i : Nat}
    (calling : thread.next = .mirror map rest) (declared : image.txDeclared map = true)
    (bound : s.txCsyn map = some i) (updated : s.zrosGeneration map ≠ 0)
    (unseen : s.zrosGeneration map ≠ s.txLastGeneration map) (uptime : Int) :
    (s.call image thread uptime true).1.registry =
      publishAt s.registry i (some (s.zrosMessage map)) := by
  have due : ¬ (s.zrosGeneration map = 0 ∨ s.zrosGeneration map = s.txLastGeneration map) := by
    rw [not_or]
    exact ⟨updated, unseen⟩
  rw [Bridge.call_mirroring calling]
  unfold Bridge.mirrorTxIfUpdated
  rw [declared, bound]
  dsimp only
  rw [if_neg due, if_pos rfl]

/-- So has the mirror of a message that its topic has room for. -/
theorem writes_bound {registry : List CsynTopic} {map : TxMap} {i : Nat} {topic : CsynTopic}
    (starts : ∀ other, (image.topicOf registry other).isSome → image.pubInit other = true)
    (declared : image.txDeclared map = true)
    (found : csynTopicFind registry (some map.csynKey) = some i)
    (present : registry[i]? = some topic) (positive : 0 < image.txSize map)
    (room : image.txSize map ≤ topic.maxSize.toNat) :
    ∃ schedule s t, Automaton.run (Bridge.step image) (.boot image registry) schedule = some s ∧
      s.step image (.call 0 true) = some t ∧ s.registry = registry ∧
      t.registry[i]? ≠ some topic := by
  have member : map ∈ TxMap.all := by cases map <;> decide
  have running := bridgeInit_thread (s := Bridge.boot image registry)
    (Or.inl ⟨map, member, declared, Option.isSome_of_eq_some found⟩) starts
  let message := List.replicate (image.txSize map) (0 : UInt8)
  have length : message.length = image.txSize map := List.length_replicate
  have fits : topic.accepts (some message) = true := by
    apply CsynTopic.accepts_some.mpr
    rw [length]
    exact ⟨positive, room⟩
  -- One update of the zros topic, then calls up to the turn of its map.
  let wired := bridgeInit image (Bridge.boot image registry)
  let updated : Bridge := { wired with
    zrosGeneration := Function.update wired.zrosGeneration map (wired.zrosGeneration map + 1)
    zrosMessage := Function.update wired.zrosMessage map message }
  have second : wired.step image (.zrosUpdate map message) = some updated :=
    if_pos ⟨declared, length⟩
  obtain ⟨k, rest, turn⟩ := map.reached
  obtain ⟨s, after, reached, later, next, -, same⟩ :=
    Bridge.run_calls image (s := updated) running k
  have mirroring : after.next = .mirror map rest := next.trans turn
  refine ⟨.init :: .zrosUpdate map message :: List.replicate k (.call 0 false), s,
    s.afterCall image after 0 true, ?_, Bridge.step_call later 0 true, same.registry, ?_⟩
  · apply (Automaton.run_cons_some _).mpr
    refine ⟨wired, rfl, ?_⟩
    exact (Automaton.run_cons_some _).mpr ⟨updated, second, reached⟩
  · have written : (s.call image after 0 true).1.registry =
        publishAt s.registry i (some message) := by
      have bound : s.txCsyn map = some i := by
        rw [same.txCsyn]
        exact found
      have generation : s.zrosGeneration map = 1 := by
        rw [same.zrosGeneration]
        exact Function.update_self _ _ _
      have last : s.txLastGeneration map = 0 := by
        rw [same.txLastGeneration]
        rfl
      have current : s.zrosMessage map = message := by
        rw [same.zrosMessage]
        exact Function.update_self _ _ _
      rw [← current]
      apply Bridge.call_mirrors_update mirroring declared bound
      · rw [generation]
        decide
      · rw [generation, last]
        decide
    have there : s.registry[i]? = some topic := by
      rw [same.registry]
      exact present
    show (s.call image after 0 true).1.registry[i]? ≠ some topic
    rw [written, publishAt_self there, ne_eq, Option.some.injEq]
    intro unchanged
    exact csynTopicPublish_generation_ne fits (congrArg CsynTopic.generation unchanged)

end

/-- The bridge respects the declared directions in every run if and only if the names find topics
of the right direction, or a `zros_pub_init` fails, so that the thread never starts. -/
theorem bridge_respects_directions_iff (image : BridgeImage)
    (synapseTopicByKey : Str → Option SynapseTopicInfo) (declarations : List TopicDeclaration)
    (registry : List CsynTopic)
    (accepted : csynInit synapseTopicByKey (declarations.map TopicDeclaration.define) =
      (none, registry)) :
    RespectsDirections image registry ↔ image.WellBound registry ∨
      ∃ pub, (image.topicOf registry pub).isSome ∧ image.pubInit pub = false := by
  have bounded : ∀ topic ∈ registry, topic.Bounded := by
    rw [csynInit_registry synapseTopicByKey accepted]
    intro topic member slot
    obtain ⟨d, -, same⟩ := List.mem_map.mp member
    subst same
    exact Nat.zero_le _
  constructor
  · intro respects
    by_cases fails : ∃ pub, (image.topicOf registry pub).isSome ∧ image.pubInit pub = false
    · exact Or.inr fails
    · have starts : ∀ other, (image.topicOf registry other).isSome →
          image.pubInit other = true := by
        intro other bound
        by_contra failed
        rw [Bool.not_eq_true] at failed
        exact fails ⟨other, bound, failed⟩
      apply Or.inl
      constructor
      · intro pub i topic bound present
        obtain ⟨schedule, s, reached, reads, same⟩ := reads_bound starts bound
        apply respects.reads schedule s i topic reached reads
        rw [same]
        exact present
      · intro map i topic declared found present positive room
        obtain ⟨schedule, s, t, reached, taken, same, changed⟩ :=
          writes_bound starts declared found present positive room
        apply respects.writes schedule s 0 true t i topic reached taken _ changed
        rw [same]
        exact present
  · intro condition
    have wired : ∀ schedule s,
        Automaton.run (Bridge.step image) (.boot image registry) schedule = some s →
        s.Wired image registry := fun schedule s reached =>
      Automaton.run_invariant Bridge.step_wired reached (Bridge.boot_wired bounded)
    rcases condition with bound | ⟨pub, bound, fails⟩
    · constructor
      · intro schedule s i topic reached reads present
        exact (wired schedule s reached).reads_rx bound reads present
      · intro schedule s uptime readOk t i topic reached taken present changed
        exact (wired schedule s reached).writes_tx bound taken present changed
    · have idle : ∀ schedule s,
          Automaton.run (Bridge.step image) (.boot image registry) schedule = some s →
          ∀ thread, s.thread ≠ some thread := by
        intro schedule s reached thread running
        have ready := (((wired schedule s reached).sound.ready thread running).2 pub bound).1
        rw [fails] at ready
        cases ready
      constructor
      · intro schedule s i topic reached reads present
        obtain ⟨thread, -, running, -⟩ := reads
        exact absurd running (idle schedule s reached thread)
      · intro schedule s uptime readOk t i topic reached taken present changed
        obtain ⟨thread, running, -⟩ := Bridge.step_called taken
        exact absurd running (idle schedule s reached thread)

/-- An application that mirrors its attitude estimate. -/
def attitudeBridge : BridgeImage where
  config := .default
  layout := sampleLayout
  reader := ⟨fun _ => -1, fun _ => none, 1⟩
  declared := fun _ => false
  txDeclared := fun map => map == .attitudeEstimate
  txSize := fun _ => 2
  pubInit := fun _ => true

theorem bridge_respects_directions_iff_own_first :
    ∃ registry, csynInit fleetCatalog (ownFirst.map TopicDeclaration.define) = (none, registry) ∧
      RespectsDirections attitudeBridge registry := by
  refine ⟨_, rfl, (bridge_respects_directions_iff attitudeBridge fleetCatalog ownFirst _ rfl).mpr
    (Or.inl ⟨?_, ?_⟩)⟩
  · intro pub i topic bound
    cases bound
  · intro map i topic declared found present positive room
    rw [show map = .attitudeEstimate from eq_of_beq declared] at found
    have first : i = 0 := by
      apply Option.some.inj
      rw [← found]
      decide
    subst first
    cases present
    rfl

/-- One attitude, and calls up to the turn of its map. -/
def attitudeTurn : List BridgeAction :=
  .init :: .zrosUpdate .attitudeEstimate [1, 2] :: List.replicate 6 (.call 0 true)

/-- Where the topic of another vehicle comes first, its samples are overwritten by the own
attitude, which is not sent. -/
theorem bridge_writes_inbound :
    ∃ registry s t,
      csynInit fleetCatalog (ownFirst.reverse.map TopicDeclaration.define) = (none, registry) ∧
      registry.map (fun topic => topic.dir) = [.rx, .tx] ∧
      Automaton.run (Bridge.step attitudeBridge) (.boot attitudeBridge registry) attitudeTurn =
        some s ∧
      s.step attitudeBridge (.call 0 true) = some t ∧
      t.registry.map (fun topic => csynTopicCopy topic 2) = [some ([1, 2], 1), none] ∧
      ¬ RespectsDirections attitudeBridge registry := by
  obtain ⟨registry, s, t, topic, accepted, directions, reached, taken, copies, present, inbound,
      unpublished, published⟩ :
      ∃ registry s t topic,
        csynInit fleetCatalog (ownFirst.reverse.map TopicDeclaration.define) = (none, registry) ∧
        registry.map (fun topic => topic.dir) = [.rx, .tx] ∧
        Automaton.run (Bridge.step attitudeBridge) (.boot attitudeBridge registry) attitudeTurn =
          some s ∧
        s.step attitudeBridge (.call 0 true) = some t ∧
        t.registry.map (fun topic => csynTopicCopy topic 2) = [some ([1, 2], 1), none] ∧
        s.registry[0]? = some topic ∧ topic.dir = .rx ∧ topic.generation = 0 ∧
        t.registry[0]?.map (fun topic => topic.generation) = some 1 :=
    ⟨_, _, _, _, rfl, rfl, rfl, rfl, rfl, rfl, rfl, rfl, rfl⟩
  refine ⟨registry, s, t, accepted, directions, reached, taken, copies, ?_⟩
  intro respects
  have changed : t.registry[0]? ≠ some topic := by
    intro same
    rw [same, Option.map_some, unpublished] at published
    exact absurd published (by decide)
  have outbound := respects.writes attitudeTurn s 0 true t 0 topic reached taken present changed
  rw [inbound] at outbound
  cases outbound

end Csyn
