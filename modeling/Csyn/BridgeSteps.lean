import Csyn.Bridge
import Csyn.Lib.Automaton

set_option autoImplicit false

/- What `bridge_init` and one call of `bridge_thread` can do. -/
namespace Csyn

section

variable {image : BridgeImage}

/-- The size of the buffer each publish function copies into. -/
def BridgeImage.bufSize (image : BridgeImage) : BridgePub → Nat
  | .manualControl => sizeofManualControlData
  | .mocap => image.config.flatbufferMaxSize
  | .inertialSample => image.layout.sizeofInertialSampleData
  | .odometry => image.layout.sizeofOdometryData

/-- Why a call updates a publisher: its function copied a sample and either publishes that
sample on its own publisher, or derives a pose from an odometry sample. -/
structure BridgeImage.Made (image : BridgeImage) (s : Bridge) (thread : BridgeThread)
    (u : BridgeUpdate) : Prop where
  initialised : u.initialised = s.initialised u.pub
  calling : thread.next = .publish u.caller
  copied : ∃ bytes after, s.copied thread u.caller (image.bufSize u.caller) = some (bytes, after) ∧
    ((u.pub = u.caller ∧ (u.caller = .mocap →
        (csynDecodeMocapFrame image.reader bytes image.config.mocapRigidBodyId).isSome)) ∨
      (u.caller = .odometry ∧ u.pub = .mocap ∧ image.config.mocapSource = .odometry ∧
        image.declared .mocap = true ∧ bytes.length = image.layout.sizeofOdometryData))

/-- Everything a call can do. -/
structure BridgeImage.CallEffect (image : BridgeImage) (s : Bridge) (thread : BridgeThread)
    (after : Bridge × BridgeThread) : Prop where
  registry : after.1.registry = s.registry ∨ ∃ map rest i buf, thread.next = .mirror map rest ∧
    s.txCsyn map = some i ∧ after.1.registry = publishAt s.registry i buf
  txCsyn : after.1.txCsyn = s.txCsyn
  initialised : after.1.initialised = s.initialised
  initCalled : after.1.initCalled = s.initCalled
  topics : after.2.topics = thread.topics
  lastGeneration : ∀ pub, thread.next ≠ .publish pub →
    after.2.lastGeneration pub = thread.lastGeneration pub
  updates : ∃ made, after.1.updates = s.updates ++ made ∧ ∀ u ∈ made, image.Made s thread u

theorem BridgeImage.CallEffect.idle {s : Bridge} {thread : BridgeThread} :
    image.CallEffect s thread (s, thread) :=
  ⟨Or.inl rfl, rfl, rfl, rfl, rfl, fun _ _ => rfl, [], (List.append_nil _).symm, by simp⟩

/-- A successful copy, and what it records. -/
theorem Bridge.copied_some {s : Bridge} {thread after : BridgeThread} {pub : BridgePub}
    {bufSize : Nat} {bytes : List UInt8}
    (copied : s.copied thread pub bufSize = some (bytes, after)) :
    (∃ i topic generation, thread.topics pub = some i ∧ s.registry[i]? = some topic ∧
      csynTopicCopy topic bufSize = some (bytes, generation)) ∧
      after.topics = thread.topics ∧ ∀ other, other ≠ pub →
        after.lastGeneration other = thread.lastGeneration other := by
  unfold Bridge.copied at copied
  split at copied
  · cases copied
  · rename_i i bound
    split at copied
    · cases copied
    · rename_i topic present
      obtain ⟨result, once, same⟩ := Option.map_eq_some_iff.mp copied
      cases same
      unfold copyCsynTopicOnce at once
      dsimp only at once
      split at once
      · cases once
      · obtain ⟨result, inner, same⟩ := Option.map_eq_some_iff.mp once
        cases same
        exact ⟨⟨i, topic, result.2, bound, present, inner⟩, rfl, fun other different =>
          Function.update_of_ne different _ _⟩

/-- A call that updates at most publishers after a copy. -/
theorem BridgeImage.CallEffect.published {s after : Bridge} {thread later : BridgeThread}
    {pub : BridgePub} {bytes : List UInt8} (calling : thread.next = .publish pub)
    (copied : s.copied thread pub (image.bufSize pub) = some (bytes, later))
    (registry : after.registry = s.registry) (txCsyn : after.txCsyn = s.txCsyn)
    (initialised : after.initialised = s.initialised)
    (initCalled : after.initCalled = s.initCalled)
    (updates : ∃ made, after.updates = s.updates ++ made ∧ ∀ u ∈ made, image.Made s thread u) :
    image.CallEffect s thread (after, later) := by
  obtain ⟨-, topics, others⟩ := Bridge.copied_some copied
  refine ⟨Or.inl registry, txCsyn, initialised, initCalled, topics, ?_, updates⟩
  intro other idle
  apply others
  rintro rfl
  exact idle calling

/-- A copy that nothing is made of. -/
theorem BridgeImage.CallEffect.quiet {s after : Bridge} {thread later : BridgeThread}
    {pub : BridgePub} {bytes : List UInt8} (calling : thread.next = .publish pub)
    (copied : s.copied thread pub (image.bufSize pub) = some (bytes, later))
    (registry : after.registry = s.registry) (txCsyn : after.txCsyn = s.txCsyn)
    (initialised : after.initialised = s.initialised)
    (initCalled : after.initCalled = s.initCalled) (updates : after.updates = s.updates) :
    image.CallEffect s thread (after, later) := by
  refine .published calling copied registry txCsyn initialised initCalled ⟨[], ?_, ?_⟩
  · rw [updates, List.append_nil]
  · intro u member
    cases member

/-- A copy that one update is made of. -/
theorem BridgeImage.CallEffect.one {s after : Bridge} {thread later : BridgeThread}
    {pub : BridgePub} {bytes : List UInt8} {u : BridgeUpdate} (made : image.Made s thread u)
    (calling : thread.next = .publish pub)
    (copied : s.copied thread pub (image.bufSize pub) = some (bytes, later))
    (registry : after.registry = s.registry) (txCsyn : after.txCsyn = s.txCsyn)
    (initialised : after.initialised = s.initialised)
    (initCalled : after.initCalled = s.initCalled) (updates : after.updates = s.updates ++ [u]) :
    image.CallEffect s thread (after, later) := by
  refine .published calling copied registry txCsyn initialised initCalled ⟨[u], updates, ?_⟩
  intro other member
  rw [List.mem_singleton.mp member]
  exact made

section

variable {s : Bridge} {thread : BridgeThread}

theorem Bridge.publishManualControlIfUpdated_effect
    (calling : thread.next = .publish .manualControl) (uptime : Int) :
    image.CallEffect s thread (s.publishManualControlIfUpdated image thread uptime) := by
  unfold Bridge.publishManualControlIfUpdated
  split
  · exact .idle
  · rename_i buf later copied
    split
    · exact .quiet calling copied rfl rfl rfl rfl rfl
    · exact .one ⟨rfl, calling, buf, later, copied, Or.inl ⟨rfl, by rintro ⟨⟩⟩⟩ calling copied
        rfl rfl rfl rfl rfl

theorem Bridge.publishMocapIfUpdated_effect (calling : thread.next = .publish .mocap) :
    image.CallEffect s thread (s.publishMocapIfUpdated image thread) := by
  unfold Bridge.publishMocapIfUpdated
  split
  · exact .idle
  · rename_i buf later copied
    split
    · exact .quiet calling copied rfl rfl rfl rfl rfl
    · rename_i body decoded
      exact .one ⟨rfl, calling, buf, later, copied,
        Or.inl ⟨rfl, fun _ => Option.isSome_of_eq_some decoded⟩⟩ calling copied
        rfl rfl rfl rfl rfl

theorem Bridge.publishInertialSampleIfUpdated_effect
    (calling : thread.next = .publish .inertialSample) :
    image.CallEffect s thread (s.publishInertialSampleIfUpdated image thread) := by
  unfold Bridge.publishInertialSampleIfUpdated
  split
  · exact .idle
  · rename_i buf later copied
    dsimp only
    split
    · exact .quiet calling copied rfl rfl rfl rfl rfl
    · exact .one ⟨rfl, calling, buf, later, copied, Or.inl ⟨rfl, by rintro ⟨⟩⟩⟩ calling copied
        rfl rfl rfl rfl rfl

theorem Bridge.publishOdometryIfUpdated_effect (calling : thread.next = .publish .odometry) :
    image.CallEffect s thread (s.publishOdometryIfUpdated image thread) := by
  unfold Bridge.publishOdometryIfUpdated
  split
  · exact .idle
  · rename_i buf later copied
    dsimp only
    split
    · exact .quiet calling copied rfl rfl rfl rfl rfl
    · rename_i sized
      rw [not_not] at sized
      split
      -- The odometry and the pose derived from it.
      · rename_i driven
        refine .published calling copied rfl rfl rfl rfl ⟨_, List.append_assoc _ _ _, ?_⟩
        intro u member
        rcases List.mem_append.mp member with first | second
        · rw [List.mem_singleton.mp first]
          exact ⟨rfl, calling, buf, later, copied, Or.inl ⟨rfl, by rintro ⟨⟩⟩⟩
        · rw [List.mem_singleton.mp second]
          exact ⟨rfl, calling, buf, later, copied,
            Or.inr ⟨rfl, rfl, driven.1, driven.2, sized⟩⟩
      · exact .one ⟨rfl, calling, buf, later, copied, Or.inl ⟨rfl, by rintro ⟨⟩⟩⟩ calling copied
          rfl rfl rfl rfl rfl

theorem Bridge.mirrorTxIfUpdated_effect {map : TxMap} {rest : List TxMap}
    (mirroring : thread.next = .mirror map rest) (readOk : Bool) :
    image.CallEffect s thread (s.mirrorTxIfUpdated image map readOk, thread) := by
  unfold Bridge.mirrorTxIfUpdated
  split
  · rename_i i bridged found
    dsimp only
    split
    · exact .idle
    · split
      · exact ⟨Or.inr ⟨map, rest, i, _, mirroring, found, rfl⟩, rfl, rfl, rfl, rfl,
          fun _ _ => rfl, [], (List.append_nil _).symm, by simp⟩
      · exact .idle
  · exact .idle

end

theorem Bridge.call_effect (image : BridgeImage) (s : Bridge) (thread : BridgeThread)
    (uptime : Int) (readOk : Bool) :
    image.CallEffect s thread (s.call image thread uptime readOk) := by
  unfold Bridge.call
  split
  · rename_i calling
    exact Bridge.publishManualControlIfUpdated_effect calling uptime
  · rename_i calling
    exact Bridge.publishMocapIfUpdated_effect calling
  · rename_i calling
    exact Bridge.publishInertialSampleIfUpdated_effect calling
  · rename_i calling
    exact Bridge.publishOdometryIfUpdated_effect calling
  · rename_i map rest mirroring
    exact Bridge.mirrorTxIfUpdated_effect mirroring readOk

/-- A publish function writes its buffers and its messages, and nothing else of the bridge. -/
theorem Bridge.call_publishing {image : BridgeImage} {s : Bridge} {thread : BridgeThread}
    {pub : BridgePub} (calling : thread.next = .publish pub) (uptime : Int) (readOk : Bool) :
    ∃ inertial odometry updates, (s.call image thread uptime readOk).1 = { s with
      gInertialSample := inertial
      gOdometry := odometry
      updates := updates } := by
  unfold Bridge.call
  rw [calling]
  cases pub with
  | manualControl =>
      dsimp only
      unfold Bridge.publishManualControlIfUpdated
      split
      · exact ⟨_, _, _, rfl⟩
      · split
        · exact ⟨_, _, _, rfl⟩
        · exact ⟨_, _, _, rfl⟩
  | mocap =>
      dsimp only
      unfold Bridge.publishMocapIfUpdated
      split
      · exact ⟨_, _, _, rfl⟩
      · split
        · exact ⟨_, _, _, rfl⟩
        · exact ⟨_, _, _, rfl⟩
  | inertialSample =>
      dsimp only
      unfold Bridge.publishInertialSampleIfUpdated
      split
      · exact ⟨_, _, _, rfl⟩
      · dsimp only
        split
        · exact ⟨_, _, _, rfl⟩
        · exact ⟨_, _, _, rfl⟩
  | odometry =>
      dsimp only
      unfold Bridge.publishOdometryIfUpdated
      split
      · exact ⟨_, _, _, rfl⟩
      · dsimp only
        split
        · exact ⟨_, _, _, rfl⟩
        · split
          · exact ⟨_, _, _, rfl⟩
          · exact ⟨_, _, _, rfl⟩

theorem Bridge.call_mirroring {image : BridgeImage} {s : Bridge} {thread : BridgeThread}
    {map : TxMap} {rest : List TxMap} (calling : thread.next = .mirror map rest) (uptime : Int)
    (readOk : Bool) :
    (s.call image thread uptime readOk).1 = s.mirrorTxIfUpdated image map readOk := by
  unfold Bridge.call
  rw [calling]

theorem BridgePub.mem_all (pub : BridgePub) : BridgePub.all.contains pub = true := by
  cases pub <;> rfl

/-- A block of `bridge_init` that does not fail. -/
theorem initPubs_cons {registry : List CsynTopic} {pub : BridgePub}
    (succeeds : (image.topicOf registry pub).isSome → image.pubInit pub = true)
    (rest : List BridgePub) (initialised : BridgePub → Bool) (hasTopics : Bool) :
    initPubs image registry (pub :: rest) initialised hasTopics =
      initPubs image registry rest
        (fun other => initialised other || (other == pub && (image.topicOf registry pub).isSome))
        (hasTopics || (image.topicOf registry pub).isSome) := by
  rw [initPubs]
  by_cases present : (image.topicOf registry pub).isSome
  · rw [if_pos present, if_pos (succeeds present), present, Bool.or_true]
    congr 1
    funext other
    by_cases same : other = pub
    · subst same
      rw [Function.update_self, beq_self_eq_true, Bool.and_true, Bool.or_true]
    · rw [Function.update_of_ne same, beq_false_of_ne same, Bool.false_and, Bool.or_false]
  · rw [if_neg present]
    rw [Bool.not_eq_true] at present
    rw [present, Bool.or_false]
    congr 1
    funext other
    rw [Bool.and_false, Bool.or_false]

/-- The blocks of `bridge_init` set up exactly the publishers with both a zros and a csyn
topic, or one of these fails. -/
theorem initPubs_result (image : BridgeImage) (registry : List CsynTopic) (pubs : List BridgePub)
    (initialised : BridgePub → Bool) (hasTopics : Bool) :
    ((∃ pub ∈ pubs, (image.topicOf registry pub).isSome ∧ image.pubInit pub = false) ∧
        (initPubs image registry pubs initialised hasTopics).1 = none) ∨
      ((∀ pub ∈ pubs, (image.topicOf registry pub).isSome → image.pubInit pub = true) ∧
        initPubs image registry pubs initialised hasTopics =
          (some (hasTopics || pubs.any fun pub => (image.topicOf registry pub).isSome),
            fun pub => initialised pub ||
              (pubs.contains pub && (image.topicOf registry pub).isSome))) := by
  induction pubs generalizing initialised hasTopics with
  | nil =>
      refine Or.inr ⟨by simp, ?_⟩
      simp [initPubs]
  | cons pub rest ih =>
      by_cases fails : (image.topicOf registry pub).isSome ∧ image.pubInit pub = false
      · refine Or.inl ⟨⟨pub, List.mem_cons_self, fails⟩, ?_⟩
        rw [initPubs, if_pos fails.1, if_neg (by rw [fails.2]; exact Bool.false_ne_true)]
      · have succeeds : (image.topicOf registry pub).isSome → image.pubInit pub = true := by
          intro present
          by_contra failed
          exact fails ⟨present, Bool.not_eq_true _ ▸ failed⟩
        rw [initPubs_cons succeeds]
        rcases ih (fun other => initialised other ||
            (other == pub && (image.topicOf registry pub).isSome))
            (hasTopics || (image.topicOf registry pub).isSome) with
          ⟨⟨failed, member, bound⟩, result⟩ | ⟨all, result⟩
        · exact Or.inl ⟨⟨failed, List.mem_cons_of_mem _ member, bound⟩, result⟩
        · refine Or.inr ⟨List.forall_mem_cons.mpr ⟨succeeds, all⟩, ?_⟩
          rw [result, Prod.mk.injEq]
          refine ⟨by rw [List.any_cons, Bool.or_assoc], ?_⟩
          funext other
          rw [List.contains_cons, Bool.and_or_distrib_right, ← Bool.or_assoc]
          by_cases same : other = pub
          · rw [same]
          · rw [beq_false_of_ne same, Bool.false_and, Bool.false_and]

/-- Where every `zros_pub_init` succeeds, the blocks set up every publisher with both topics. -/
theorem initPubs_of_starts {image : BridgeImage} {registry : List CsynTopic}
    (starts : ∀ other, (image.topicOf registry other).isSome → image.pubInit other = true)
    (pubs : List BridgePub) (initialised : BridgePub → Bool) (hasTopics : Bool) :
    initPubs image registry pubs initialised hasTopics =
      (some (hasTopics || pubs.any fun pub => (image.topicOf registry pub).isSome),
        fun pub => initialised pub ||
          (pubs.contains pub && (image.topicOf registry pub).isSome)) := by
  rcases initPubs_result image registry pubs initialised hasTopics with
    ⟨⟨failed, -, present, fails⟩, -⟩ | ⟨-, result⟩
  · rw [starts failed present] at fails
    cases fails
  · exact result

/-- The bridge after a call of its thread. -/
def Bridge.afterCall (image : BridgeImage) (s : Bridge) (thread : BridgeThread) (uptime : Int)
    (readOk : Bool) : Bridge :=
  { (s.call image thread uptime readOk).1 with
    thread := some { (s.call image thread uptime readOk).2 with next := thread.next.following } }

/-! What each step can do. -/

theorem Bridge.step_zrosUpdate {s t : Bridge} {map : TxMap} {message : List UInt8}
    (taken : s.step image (.zrosUpdate map message) = some t) :
    message.length = image.txSize map ∧ t = { s with
      zrosGeneration := Function.update s.zrosGeneration map (s.zrosGeneration map + 1)
      zrosMessage := Function.update s.zrosMessage map message } := by
  unfold Bridge.step at taken
  dsimp only at taken
  split at taken
  · rename_i sized
    exact ⟨sized.2, (Option.some.inj taken).symm⟩
  · cases taken

theorem Bridge.step_init {s t : Bridge} (taken : s.step image .init = some t) :
    s.initCalled = false ∧ t = bridgeInit image s := by
  unfold Bridge.step at taken
  dsimp only at taken
  split at taken
  · cases taken
  · rename_i first
    rw [Bool.not_eq_true] at first
    exact ⟨first, (Option.some.inj taken).symm⟩

theorem Bridge.step_called {s t : Bridge} {uptime : Int} {readOk : Bool}
    (taken : s.step image (.call uptime readOk) = some t) :
    ∃ thread, s.thread = some thread ∧ t = s.afterCall image thread uptime readOk := by
  unfold Bridge.step at taken
  dsimp only at taken
  split at taken
  · cases taken
  · rename_i thread running
    exact ⟨thread, running, (Option.some.inj taken).symm⟩

theorem Bridge.step_cases {s t : Bridge} {action : BridgeAction}
    (taken : s.step image action = some t) :
    (∃ i buf, action = .receive i buf ∧ t = { s with registry := publishAt s.registry i buf }) ∨
      (∃ generation message, t = { s with
        zrosGeneration := generation
        zrosMessage := message }) ∨
      (action = .init ∧ s.initCalled = false ∧ t = bridgeInit image s) ∨
      ∃ thread uptime readOk, action = .call uptime readOk ∧ s.thread = some thread ∧
        t = s.afterCall image thread uptime readOk := by
  cases action with
  | receive i buf =>
      cases taken
      exact Or.inl ⟨i, buf, rfl, rfl⟩
  | zrosUpdate map message =>
      obtain ⟨-, same⟩ := Bridge.step_zrosUpdate taken
      exact Or.inr (Or.inl ⟨_, _, same⟩)
  | init =>
      obtain ⟨first, same⟩ := Bridge.step_init taken
      exact Or.inr (Or.inr (Or.inl ⟨rfl, first, same⟩))
  | call uptime readOk =>
      obtain ⟨thread, running, same⟩ := Bridge.step_called taken
      exact Or.inr (Or.inr (Or.inr ⟨thread, uptime, readOk, rfl, running, same⟩))

theorem Bridge.step_call {s : Bridge} {thread : BridgeThread} (running : s.thread = some thread)
    (uptime : Int) (readOk : Bool) :
    s.step image (.call uptime readOk) = some (s.afterCall image thread uptime readOk) := by
  unfold Bridge.step
  dsimp only
  rw [running]
  rfl

/-- An update is an earlier one or made by the call that ran. -/
theorem Bridge.step_updates {s t : Bridge} {action : BridgeAction} {u : BridgeUpdate}
    (taken : s.step image action = some t) (made : u ∈ t.updates) :
    u ∈ s.updates ∨ ∃ thread, s.thread = some thread ∧ image.Made s thread u := by
  rcases Bridge.step_cases taken with ⟨_, _, -, rfl⟩ | ⟨_, _, rfl⟩ | ⟨-, -, rfl⟩ |
    ⟨thread, uptime, readOk, -, running, rfl⟩
  · exact Or.inl made
  · exact Or.inl made
  · exact Or.inl made
  · obtain ⟨new, updates, because⟩ :=
      (s.call_effect image thread uptime readOk).updates
    unfold Bridge.afterCall at made
    dsimp only at made
    rw [updates] at made
    rcases List.mem_append.mp made with earlier | last
    · exact Or.inl earlier
    · exact Or.inr ⟨thread, running, because u last⟩

/-- `bridge_init` looks the mirrored topics up, once. -/
theorem Bridge.step_txCsyn {s t : Bridge} {action : BridgeAction}
    (taken : s.step image action = some t) :
    t.txCsyn = s.txCsyn ∨ t.txCsyn = fun map => csynTopicFind s.registry (some map.csynKey) := by
  rcases Bridge.step_cases taken with ⟨_, _, -, rfl⟩ | ⟨_, _, rfl⟩ | ⟨-, -, rfl⟩ |
    ⟨thread, uptime, readOk, -, -, rfl⟩
  · exact Or.inl rfl
  · exact Or.inl rfl
  · exact Or.inr rfl
  · exact Or.inl (s.call_effect image thread uptime readOk).txCsyn

/-- The stores change by the mirror and by samples arriving. -/
theorem Bridge.step_registry {s t : Bridge} {action : BridgeAction}
    (taken : s.step image action = some t) :
    t.registry = s.registry ∨
      (∃ i buf, action = .receive i buf ∧ t.registry = publishAt s.registry i buf) ∨
      ∃ map i buf, s.txCsyn map = some i ∧ t.registry = publishAt s.registry i buf := by
  rcases Bridge.step_cases taken with ⟨i, buf, received, rfl⟩ | ⟨_, _, rfl⟩ | ⟨-, -, rfl⟩ |
    ⟨thread, uptime, readOk, -, -, rfl⟩
  · exact Or.inr (Or.inl ⟨i, buf, received, rfl⟩)
  · exact Or.inl rfl
  · exact Or.inl rfl
  · rcases (s.call_effect image thread uptime readOk).registry with
      same | ⟨map, _, i, buf, -, found, stored⟩
    · exact Or.inl same
    · exact Or.inr (Or.inr ⟨map, i, buf, found, stored⟩)

/-! A sample waiting for its publish function. -/

/-- Whether a copy succeeds, and what it returns, depends on the stores, the topic and the
generation last recorded. -/
theorem Bridge.copied_congr {s t : Bridge} {thread other later : BridgeThread} {pub : BridgePub}
    {bufSize : Nat} {bytes : List UInt8} (registry : t.registry = s.registry)
    (topics : other.topics = thread.topics)
    (lastGeneration : other.lastGeneration pub = thread.lastGeneration pub)
    (copied : s.copied thread pub bufSize = some (bytes, later)) :
    ∃ after, t.copied other pub bufSize = some (bytes, after) := by
  unfold Bridge.copied at copied ⊢
  rw [registry, topics, lastGeneration]
  split at copied
  · cases copied
  · split at copied
    · cases copied
    · obtain ⟨result, once, same⟩ := Option.map_eq_some_iff.mp copied
      cases same
      exact ⟨_, by rw [once]; rfl⟩

/-- The thread is about to call the function of `next`, and that of `target` will find
`bytes` in its topic. -/
structure BridgeImage.Due (image : BridgeImage) (s : Bridge) (target next : BridgePub)
    (bytes : List UInt8) (thread : BridgeThread) : Prop where
  running : s.thread = some thread
  calling : thread.next = .publish next
  waiting : ∃ later, s.copied thread target (image.bufSize target) = some (bytes, later)

/-- The functions of other publishers leave the sample waiting. -/
theorem BridgeImage.Due.skip {s : Bridge} {target pub next : BridgePub} {bytes : List UInt8}
    {thread : BridgeThread} (due : image.Due s target pub bytes thread) (different : pub ≠ target)
    (following : (BridgeCall.publish pub).following = .publish next) :
    ∃ t after, s.step image (.call 0 false) = some t ∧ image.Due t target next bytes after ∧
      t.initialised = s.initialised := by
  have effect := s.call_effect image thread 0 false
  obtain ⟨later, waiting⟩ := due.waiting
  have kept : (s.call image thread 0 false).1.registry = s.registry := by
    rcases effect.registry with same | ⟨map, rest, -, -, mirroring, -⟩
    · exact same
    · rw [due.calling] at mirroring
      cases mirroring
  have unread := effect.lastGeneration target (by
    rw [due.calling]
    intro same
    exact different (BridgeCall.publish.inj same))
  exact ⟨s.afterCall image thread 0 false,
    { (s.call image thread 0 false).2 with next := thread.next.following },
    Bridge.step_call due.running 0 false,
    ⟨rfl, (congrArg BridgeCall.following due.calling).trans following,
      Bridge.copied_congr kept effect.topics unread waiting⟩, effect.initialised⟩

/-- Each publish function has its turn. -/
theorem BridgeImage.Due.reach {s : Bridge} {target : BridgePub} {bytes : List UInt8}
    {thread : BridgeThread} (due : image.Due s target .manualControl bytes thread) :
    ∃ calls t after, Automaton.run (Bridge.step image) s (List.replicate calls (.call 0 false)) =
        some t ∧ image.Due t target target bytes after ∧ t.initialised = s.initialised := by
  by_cases manual : BridgePub.manualControl = target
  · subst manual
    exact ⟨0, s, thread, rfl, due, rfl⟩
  obtain ⟨s₁, thread₁, step₁, due₁, same₁⟩ := due.skip manual rfl
  by_cases mocap : BridgePub.mocap = target
  · subst mocap
    refine ⟨1, s₁, thread₁, ?_, due₁, same₁⟩
    exact (Automaton.run_cons_some _).mpr ⟨s₁, step₁, rfl⟩
  obtain ⟨s₂, thread₂, step₂, due₂, same₂⟩ := due₁.skip mocap rfl
  by_cases inertial : BridgePub.inertialSample = target
  · subst inertial
    refine ⟨2, s₂, thread₂, ?_, due₂, same₂.trans same₁⟩
    exact (Automaton.run_cons_some _).mpr ⟨s₁, step₁, (Automaton.run_cons_some _).mpr
      ⟨s₂, step₂, rfl⟩⟩
  obtain ⟨s₃, thread₃, step₃, due₃, same₃⟩ := due₂.skip inertial rfl
  have odometry : target = .odometry := by
    cases target <;> first | rfl | contradiction
  subst odometry
  refine ⟨3, s₃, thread₃, ?_, due₃, (same₃.trans same₂).trans same₁⟩
  exact (Automaton.run_cons_some _).mpr ⟨s₁, step₁, (Automaton.run_cons_some _).mpr
    ⟨s₂, step₂, (Automaton.run_cons_some _).mpr ⟨s₃, step₃, rfl⟩⟩⟩

/-- When every `zros_pub_init` succeeds and some topic is bridged, the thread starts. -/
theorem bridgeInit_thread {s : Bridge}
    (bridged : (∃ map ∈ TxMap.all, image.txDeclared map = true ∧
        (csynTopicFind s.registry (some map.csynKey)).isSome) ∨
      ∃ pub, (image.topicOf s.registry pub).isSome)
    (starts : ∀ other, (image.topicOf s.registry other).isSome → image.pubInit other = true) :
    (bridgeInit image s).thread =
      some ⟨image.topicOf s.registry, fun _ => 0, .publish .manualControl⟩ := by
  unfold bridgeInit
  dsimp only
  rw [initPubs_of_starts starts]
  apply if_pos
  rw [Option.some.injEq, Bool.or_eq_true]
  rcases bridged with ⟨map, member, declared, found⟩ | ⟨pub, bound⟩
  · apply Or.inl
    rw [List.any_eq_true]
    exact ⟨map, member, by rw [declared, found]; rfl⟩
  · exact Or.inr (List.any_eq_true.mpr ⟨pub, List.contains_iff_mem.mp pub.mem_all, bound⟩)

/-- When every `zros_pub_init` succeeds and some publisher has both topics, the thread starts. -/
theorem bridgeInit_starts {s : Bridge} {pub : BridgePub}
    (bound : (image.topicOf s.registry pub).isSome)
    (starts : ∀ other, (image.topicOf s.registry other).isSome → image.pubInit other = true) :
    (bridgeInit image s).thread =
        some ⟨image.topicOf s.registry, fun _ => 0, .publish .manualControl⟩ ∧
      ∀ other, (bridgeInit image s).initialised other =
        (s.initialised other || (image.topicOf s.registry other).isSome) := by
  refine ⟨bridgeInit_thread (Or.inr ⟨pub, bound⟩) starts, ?_⟩
  intro other
  unfold bridgeInit
  dsimp only
  rw [initPubs_of_starts starts]
  dsimp only
  rw [other.mem_all, Bool.true_and]

/-- The first sample of a topic waits for its publish function. -/
theorem bridgeInit_due {registry : List CsynTopic} {target : BridgePub} {i : Nat}
    {topic : CsynTopic} {bytes : List UInt8} (bound : image.topicOf registry target = some i)
    (present : registry[i]? = some topic) (unwritten : topic.Unwritten)
    (starts : ∀ pub, (image.topicOf registry pub).isSome → image.pubInit pub = true)
    (fits : topic.accepts (some bytes) = true) (room : bytes.length ≤ image.bufSize target) :
    ∃ thread, image.Due { bridgeInit image (Bridge.boot image registry) with
      registry := publishAt registry i (some bytes) } target .manualControl bytes thread := by
  obtain ⟨running, -⟩ := bridgeInit_starts (s := Bridge.boot image registry)
    (Option.isSome_of_eq_some bound) starts
  have first : topic.generation + 1 = 1 := by
    rw [unwritten.generation]
    rfl
  have generation : (csynTopicPublish topic (some bytes)).2.generation = 1 := by
    rw [csynTopicPublish_accepted fits]
    exact first
  have copied := csynTopicCopy_publish fits (by rw [first]; decide) room
  refine ⟨_, running, rfl, ?_⟩
  unfold Bridge.copied
  dsimp only [Bridge.boot]
  rw [bound]
  dsimp only
  rw [publishAt_self present]
  dsimp only
  unfold copyCsynTopicOnce csynTopicGeneration
  dsimp only
  rw [if_neg (by rw [generation]; decide), copied]
  exact ⟨_, rfl⟩

end

end Csyn
