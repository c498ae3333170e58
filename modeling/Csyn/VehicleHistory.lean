import Csyn.BridgeMessages
import Csyn.Link
import Csyn.MocapSource

set_option autoImplicit false

/- From the transports to zros: what the publish functions of the bridge hand on, against what
arrived for their topics over a whole run of the vehicle. A call of the bridge is one step, and so
is an arrival: nothing arrives while a publish function copies, where it could make the function
hand on a sample twice. -/
namespace Csyn

open LatestValue (Reader)

/-! ## What arrives -/

section

variable (config : Kconfig) (j : Nat)

/-- The sample that an action of the transports stores in topic `j`. -/
def Feed.arrived (s : Feed) (action : FeedAction) : List (List UInt8) :=
  match s.handed config action, s.registry[j]? with
  | some (i, bytes), some topic => if i = j ∧ topic.accepts (some bytes) then [bytes] else []
  | _, _ => []

/-- The samples stored in topic `j` over a run, oldest first. -/
def Feed.arrivals (s : Feed) : List FeedAction → List (List UInt8)
  | [] => []
  | action :: rest =>
      s.arrived config j action ++
        match s.step config action with
        | none => []
        | some after => after.arrivals rest

end

/-- The registry and what the transports keep. -/
def Vehicle.feed (s : Vehicle) : Feed where
  registry := s.bridge.registry
  suppressFallback := s.suppressFallback
  loggedOdometryRx := s.loggedOdometryRx
  loggedUnknownRx := s.loggedUnknownRx

/-- The inbound traffic of an action. -/
def Vehicle.traffic (s : Vehicle) : VehicleAction → List FeedAction
  | .sample index sample now =>
      match s.session.subscriptions[index]? with
      | none => []
      | some subscription => [.sample subscription.handler subscription.topic sample now]
  | .rxDrain datagrams => datagrams.map .datagram
  | _ => []

section

variable (image : VehicleImage) (j : Nat)

/-- The samples that arrive for topic `j` in an action. -/
def Vehicle.arrived (s : Vehicle) (action : VehicleAction) : List (List UInt8) :=
  s.feed.arrivals image.bridge.config j (s.traffic action)

/-- The samples that arrive for topic `j` over a run, oldest first. -/
def Vehicle.arrivals (s : Vehicle) : List VehicleAction → List (List UInt8)
  | [] => []
  | action :: rest =>
      s.arrived image j action ++
        match s.step image action with
        | none => []
        | some after => after.arrivals rest

end

section

variable {config : Kconfig} {j : Nat} {s t : Feed} {action : FeedAction}
  {payloads : List (List UInt8)}

/-- The topic is then what publishing the arrival as well made of it. -/
theorem Feed.Shows.arrived {topic : CsynTopic} (shows_ : s.Shows j payloads)
    (present : s.registry[j]? = some topic) (taken : s.step config action = some t) :
    t.Shows j (payloads ++ s.arrived config j action) := by
  unfold Feed.arrived
  rw [present]
  cases handed : s.handed config action with
  | none =>
      rw [List.append_nil]
      exact shows_.apart (by rw [handed]; exact nofun) taken
  | some sample =>
      obtain ⟨i, bytes⟩ := sample
      dsimp only
      by_cases here : i = j
      · subst here
        cases fits : topic.accepts (some bytes) with
        | true =>
            rw [if_pos ⟨rfl, rfl⟩]
            exact shows_.handed present fits handed taken
        | false =>
            rw [if_neg (by simp), List.append_nil]
            have stored := Feed.step_handed taken present handed
            rw [csynTopicPublish_rejected fits] at stored
            intro own found
            rw [stored] at found
            exact shows_ own (present.trans found)
      · rw [if_neg (fun both => here both.1), List.append_nil]
        apply shows_.apart _ taken
        intro other same
        rw [handed, Option.some.injEq, Prod.mk.injEq] at same
        exact here same.1

theorem Feed.Shows.arrivals {topic : CsynTopic} {actions : List FeedAction}
    (shows_ : s.Shows j payloads) (present : s.registry[j]? = some topic)
    (reached : Automaton.run (Feed.step config) s actions = some t) :
    t.Shows j (payloads ++ s.arrivals config j actions) := by
  induction actions generalizing s topic payloads with
  | nil =>
      cases reached
      rw [Feed.arrivals, List.append_nil]
      exact shows_
  | cons action rest ih =>
      obtain ⟨mid, taken, later⟩ := (Automaton.run_cons_some _).mp reached
      obtain ⟨own, found, -⟩ := (Feed.step_sameDeclarations taken).get present
      have stepped := shows_.arrived present taken
      rw [Feed.arrivals, taken, ← List.append_assoc]
      exact ih stepped found later

end

section

variable {image : VehicleImage} {s t : Vehicle}

theorem Feed.run_datagrams (config : Kconfig) (s : Feed) (datagrams : List (List UInt8)) :
    Automaton.run (Feed.step config) s (datagrams.map .datagram) =
      some { s with
        registry := (rxDrain config s.receiver datagrams).registry
        loggedOdometryRx := (rxDrain config s.receiver datagrams).loggedOdometryRx
        loggedUnknownRx := (rxDrain config s.receiver datagrams).loggedUnknownRx } := by
  induction datagrams generalizing s with
  | nil => rfl
  | cons datagram rest ih => exact ih _

/-- A step of the bridge on its own. -/
theorem Vehicle.stepBridge_some {action : BridgeAction}
    (taken : s.stepBridge image action = some t) :
    ∃ bridge, s.bridge.step image.bridge action = some bridge ∧ t = { s with bridge := bridge } := by
  obtain ⟨bridge, stepped, same⟩ := Option.map_eq_some_iff.mp taken
  exact ⟨bridge, stepped, same.symm⟩

/-- What a step other than a call leaves of the bridge: a thread that starts has copied nothing. -/
structure Vehicle.Rests (s t : Vehicle) : Prop where
  updates : t.bridge.updates = s.bridge.updates
  gInertialSample : t.bridge.gInertialSample = s.bridge.gInertialSample
  gOdometry : t.bridge.gOdometry = s.bridge.gOdometry
  thread : (t.bridge.thread = s.bridge.thread ∧ t.bridge.initCalled = s.bridge.initCalled) ∨
    (s.bridge.initCalled = false ∧ t.bridge.initCalled = true ∧
      ∀ thread, t.bridge.thread = some thread → ∀ pub, thread.lastGeneration pub = 0)

theorem bridgeInit_lastGeneration {image : BridgeImage} {s : Bridge} {thread : BridgeThread}
    (started : (bridgeInit image s).thread = some thread) (pub : BridgePub) :
    thread.lastGeneration pub = 0 := by
  unfold bridgeInit at started
  dsimp only at started
  split at started
  · cases started
    rfl
  · cases started

/-- Between two calls of the bridge the stores change by the inbound traffic. -/
theorem Vehicle.step_between {action : VehicleAction} (taken : s.step image action = some t)
    (between : ∀ uptime readOk, action ≠ .bridgeCall uptime readOk) :
    Automaton.run (Feed.step image.bridge.config) s.feed (s.traffic action) = some t.feed ∧
      s.Rests t := by
  have alone : s.Rests s := ⟨rfl, rfl, rfl, Or.inl ⟨rfl, rfl⟩⟩
  cases action with
  | zrosUpdate map message =>
      obtain ⟨bridge, stepped, rfl⟩ := Vehicle.stepBridge_some taken
      obtain ⟨-, rfl⟩ := Bridge.step_zrosUpdate stepped
      exact ⟨rfl, rfl, rfl, rfl, alone.thread⟩
  | bridgeInit =>
      obtain ⟨bridge, stepped, rfl⟩ := Vehicle.stepBridge_some taken
      obtain ⟨first, rfl⟩ := Bridge.step_init stepped
      refine ⟨rfl, rfl, rfl, rfl, Or.inr ⟨first, rfl, ?_⟩⟩
      exact fun thread started pub => bridgeInit_lastGeneration started pub
  | bridgeCall uptime readOk => exact absurd rfl (between uptime readOk)
  | declare ok =>
      unfold Vehicle.step at taken
      dsimp only at taken
      split at taken
      · cases taken
        exact ⟨rfl, rfl, rfl, rfl, alone.thread⟩
      · cases taken
  | closeSession =>
      unfold Vehicle.step at taken
      dsimp only at taken
      split at taken
      · cases taken
        exact ⟨rfl, rfl, rfl, rfl, alone.thread⟩
      · cases taken
  | sample index sample now =>
      unfold Vehicle.step Vehicle.deliver at taken
      dsimp only at taken
      cases subscribed : s.session.subscriptions[index]? with
      | none =>
          rw [subscribed] at taken
          cases taken
      | some subscription =>
          rw [subscribed] at taken
          dsimp only at taken
          cases present : s.bridge.registry[subscription.topic]? with
          | none =>
              rw [present] at taken
              cases taken
          | some topic =>
              rw [present] at taken
              obtain ⟨after, handled, rfl⟩ := Option.map_eq_some_iff.mp taken
              refine ⟨?_, rfl, rfl, rfl, alone.thread⟩
              unfold Vehicle.traffic
              dsimp only
              rw [subscribed]
              apply Automaton.run_one
              unfold Feed.step Vehicle.feed
              dsimp only
              rw [present]
              dsimp only
              rw [handled]
              rfl
  | rxDrain datagrams =>
      unfold Vehicle.step at taken
      dsimp only at taken
      split at taken
      · cases taken
        exact ⟨Feed.run_datagrams _ _ _, rfl, rfl, rfl, alone.thread⟩
      · cases taken

theorem Vehicle.step_bridgeCall {uptime : Int} {readOk : Bool}
    (taken : s.step image (.bridgeCall uptime readOk) = some t) :
    ∃ thread, s.bridge.thread = some thread ∧
      t = { s with bridge := s.bridge.afterCall image.bridge thread uptime readOk } := by
  obtain ⟨bridge, stepped, rfl⟩ := Vehicle.stepBridge_some taken
  obtain ⟨thread, running, rfl⟩ := Bridge.step_called stepped
  exact ⟨thread, running, rfl⟩

end

/-! ## Over a run -/

/-- The function of `caller` has read its topic `j` and handed on as the reader did. -/
structure Vehicle.Refines (image : VehicleImage) (registry : List CsynTopic) (caller : BridgePub)
    (j : Nat) (s : Vehicle) (reader : Reader (List UInt8) Int) : Prop where
  sound : s.Sound image registry
  buffers : s.bridge.Buffers image.bridge
  valid : reader.Valid
  shown : s.feed.Shows j reader.written
  position : ∀ thread, s.bridge.thread = some thread →
    thread.lastGeneration caller = UInt32.ofNat reader.seen
  unstarted : s.bridge.initCalled = false → s.bridge.thread = none ∧ reader.seen = 0
  handed : s.bridge.handedBy caller =
    reader.taken.flatMap fun copy => image.bridge.messages caller copy.2 copy.1

section

variable {image : VehicleImage} {registry : List CsynTopic} {caller : BridgePub} {j : Nat}
  {s t : Vehicle} {reader : Reader (List UInt8) Int}

theorem Vehicle.boot_refines (bounded : ∀ topic ∈ registry, topic.Bounded)
    (unwritten : ∀ topic ∈ registry, topic.Unwritten) :
    (Vehicle.boot image registry).Refines image registry caller j .boot := by
  refine ⟨Vehicle.boot_sound bounded, Bridge.boot_buffers _ _, Reader.boot_valid, ?_, nofun,
    fun _ => ⟨rfl, rfl⟩, rfl⟩
  exact Feed.boot_shows j unwritten

/-- The topic of the function is there throughout. -/
theorem Vehicle.Refines.present (valid : s.Refines image registry caller j reader)
    (bound : image.bridge.topicOf registry caller = some j) :
    ∃ topic, s.bridge.registry[j]? = some topic := by
  unfold BridgeImage.topicOf at bound
  split at bound
  · obtain ⟨topic, present, -⟩ := csynTopicFind_some bound
    obtain ⟨own, found, -⟩ := valid.sound.bridge.declared.get present
    exact ⟨own, found⟩
  · cases bound

/-- What arrives between two calls is written. -/
theorem Vehicle.Refines.between {action : VehicleAction}
    (valid : s.Refines image registry caller j reader)
    (bound : image.bridge.topicOf registry caller = some j)
    (taken : s.step image action = some t)
    (between : ∀ uptime readOk, action ≠ .bridgeCall uptime readOk) :
    t.Refines image registry caller j (reader.write (s.arrived image j action)) := by
  obtain ⟨ran, rests⟩ := Vehicle.step_between taken between
  obtain ⟨topic, present⟩ := valid.present bound
  refine ⟨Vehicle.step_sound taken valid.sound, ⟨?_, ?_⟩, valid.valid.write _, ?_, ?_, ?_, ?_⟩
  · rw [rests.gInertialSample]
    exact valid.buffers.inertial
  · rw [rests.gOdometry]
    exact valid.buffers.odometry
  · exact valid.shown.arrivals present ran
  · intro thread running
    rcases rests.thread with ⟨same, -⟩ | ⟨first, -, fresh⟩
    · exact valid.position thread (same.symm.trans running)
    · show thread.lastGeneration caller = UInt32.ofNat reader.seen
      rw [fresh thread running, (valid.unstarted first).2]
      rfl
  · intro uninitialised
    rcases rests.thread with ⟨same, kept⟩ | ⟨-, done, -⟩
    · rw [same]
      exact valid.unstarted (kept.symm.trans uninitialised)
    · rw [done] at uninitialised
      cases uninitialised
  · unfold Bridge.handedBy
    rw [rests.updates]
    exact valid.handed

/-- Its own call is a poll. -/
theorem Vehicle.Refines.poll {thread : BridgeThread} {uptime : Int} {readOk : Bool}
    (valid : s.Refines image registry caller j reader)
    (bound : image.bridge.topicOf registry caller = some j)
    (taken : s.step image (.bridgeCall uptime readOk) = some t)
    (running : s.bridge.thread = some thread) (calling : thread.next = .publish caller) :
    t.Refines image registry caller j
      (reader.poll (2 ^ 32) (image.bridge.hasRoom caller) uptime) := by
  have sound := Vehicle.step_sound taken valid.sound
  obtain ⟨own, running', rfl⟩ := Vehicle.step_bridgeCall taken
  rw [running, Option.some.injEq] at running'
  subst running'
  obtain ⟨topic, present⟩ := valid.present bound
  have effect := s.bridge.call_effect image.bridge thread uptime readOk
  have buffers := (Bridge.call_messages valid.buffers thread uptime readOk).buffers
  have topics := (valid.sound.bridge.ready thread running).1 caller
  have poll := image.bridge.copied_reader (topics.trans bound) present
    (valid.shown topic present) (valid.position thread running)
  have stores : (s.bridge.call image.bridge thread uptime readOk).1.registry =
      s.bridge.registry := by
    obtain ⟨_, _, _, same⟩ := Bridge.call_publishing (s := s.bridge) calling uptime readOk
    rw [same]
  have started : s.bridge.initCalled ≠ false := by
    intro first
    rw [(valid.unstarted first).1] at running
    cases running
  have unstarted : ∀ P : Prop, (s.bridge.call image.bridge thread uptime readOk).1.initCalled =
      false → P := by
    intro P first
    rw [effect.initCalled] at first
    exact absurd first started
  cases due : reader.due (2 ^ 32) (image.bridge.hasRoom caller) with
  | none =>
      rw [due] at poll
      have idle := Bridge.call_idle calling uptime readOk poll
      rw [Reader.poll_idle due]
      refine ⟨sound, ⟨buffers.inertial, buffers.odometry⟩, valid.valid, ?_, ?_, unstarted _, ?_⟩
      · unfold Vehicle.feed Bridge.afterCall
        dsimp only
        rw [stores]
        exact valid.shown
      · rintro _ ⟨⟩
        rw [idle]
        exact valid.position thread running
      · unfold Bridge.afterCall
        rw [idle]
        exact valid.handed
  | some bytes =>
      rw [due, Option.map_some] at poll
      have publishes := Bridge.call_publishes valid.buffers calling uptime readOk poll
      have polled : (reader.poll (2 ^ 32) (image.bridge.hasRoom caller) uptime).Valid :=
        valid.valid.poll uptime
      rw [Reader.poll_taken due] at polled ⊢
      refine ⟨sound, ⟨buffers.inertial, buffers.odometry⟩, polled, ?_, ?_, unstarted _, ?_⟩
      · unfold Vehicle.feed Bridge.afterCall
        dsimp only
        rw [stores]
        exact valid.shown
      · rintro _ ⟨⟩
        rw [publishes.thread]
        exact Function.update_self _ _ _
      · rw [List.flatMap_append, ← valid.handed, List.flatMap_singleton]
        exact Bridge.handedBy_updatesBy publishes.updates

/-- The other calls leave its topic alone. -/
theorem Vehicle.Refines.other {thread : BridgeThread} {uptime : Int} {readOk : Bool}
    (valid : s.Refines image registry caller j reader)
    (unmirrored : ∀ map : TxMap, csynTopicFind registry (some map.csynKey) ≠ some j)
    (taken : s.step image (.bridgeCall uptime readOk) = some t)
    (running : s.bridge.thread = some thread) (elsewhere : thread.next ≠ .publish caller) :
    t.Refines image registry caller j reader := by
  have sound := Vehicle.step_sound taken valid.sound
  obtain ⟨own, running', rfl⟩ := Vehicle.step_bridgeCall taken
  rw [running, Option.some.injEq] at running'
  subst running'
  have effect := s.bridge.call_effect image.bridge thread uptime readOk
  have buffers := (Bridge.call_messages valid.buffers thread uptime readOk).buffers
  refine ⟨sound, ⟨buffers.inertial, buffers.odometry⟩, valid.valid, ?_, ?_, ?_, ?_⟩
  · intro topic present
    apply valid.shown topic
    rcases effect.registry with same | ⟨map, _, i, buf, -, found, stored⟩
    · exact (congrArg (·[j]?) same).symm.trans present
    · have apart : i ≠ j := by
        rintro rfl
        exact unmirrored map (valid.sound.mirrored map i found)
      unfold Vehicle.feed Bridge.afterCall at present
      dsimp only at present
      rw [stored, publishAt_other buf apart] at present
      exact present
  · rintro _ ⟨⟩
    exact (effect.lastGeneration caller elsewhere).trans (valid.position thread running)
  · intro first
    have before : s.bridge.initCalled = false := effect.initCalled.symm.trans first
    rw [(valid.unstarted before).1] at running
    cases running
  · exact (Bridge.call_handedBy elsewhere uptime readOk).trans valid.handed

/-- The last step of the run was a call of the function of `caller`. -/
def Vehicle.JustCalled (image : VehicleImage) (start : Vehicle) (caller : BridgePub)
    (schedule : List VehicleAction) : Prop :=
  ∃ before uptime readOk mid thread, schedule = before ++ [.bridgeCall uptime readOk] ∧
    Automaton.run (Vehicle.step image) start before = some mid ∧
    mid.bridge.thread = some thread ∧ thread.next = .publish caller

/-- The last sample that was taken is the last one that arrived, if the function has room for
it. -/
def BridgeImage.TakesLatest (image : BridgeImage) (caller : BridgePub)
    (arrived : List (List UInt8)) (taken : List (List UInt8 × Int)) : Prop :=
  arrived.length < 2 ^ 32 → ∀ bytes, arrived.getLast? = some bytes →
    image.hasRoom caller bytes = true → taken.getLast?.map Prod.fst = some bytes

theorem Vehicle.arrivals_append {start mid : Vehicle} {before : List VehicleAction}
    (action : VehicleAction)
    (ran : Automaton.run (Vehicle.step image) start before = some mid) :
    start.arrivals image j (before ++ [action]) =
      start.arrivals image j before ++ mid.arrived image j action := by
  induction before generalizing start with
  | nil =>
      cases ran
      rw [List.nil_append, Vehicle.arrivals, Vehicle.arrivals, List.nil_append]
      cases mid.step image action with
      | none => exact List.append_nil _
      | some after => exact List.append_nil _
  | cons first rest ih =>
      obtain ⟨next, taken, later⟩ := (Automaton.run_cons_some _).mp ran
      rw [List.cons_append, Vehicle.arrivals, Vehicle.arrivals, taken]
      dsimp only
      rw [ih later, List.append_assoc]

theorem Vehicle.run_refines {schedule : List VehicleAction}
    (bounded : ∀ topic ∈ registry, topic.Bounded) (unwritten : ∀ topic ∈ registry, topic.Unwritten)
    (bound : image.bridge.topicOf registry caller = some j)
    (unmirrored : ∀ map : TxMap, csynTopicFind registry (some map.csynKey) ≠ some j)
    (reached : Automaton.run (Vehicle.step image) (.boot image registry) schedule = some s) :
    ∃ reader, s.Refines image registry caller j reader ∧
      reader.written = (Vehicle.boot image registry).arrivals image j schedule ∧
      (Vehicle.JustCalled image (.boot image registry) caller schedule →
        image.bridge.TakesLatest caller reader.written reader.taken) := by
  induction schedule using List.reverseRecOn generalizing s with
  | nil =>
      cases reached
      refine ⟨.boot, Vehicle.boot_refines bounded unwritten, rfl, ?_⟩
      exact fun _ _ bytes last => nomatch last
  | append_singleton before action ih =>
      obtain ⟨mid, ran, last⟩ := (Automaton.run_append_some _).mp reached
      obtain ⟨next, taken, ended⟩ := (Automaton.run_cons_some _).mp last
      cases ended
      obtain ⟨reader, valid, written, -⟩ := ih ran
      by_cases called : ∃ uptime readOk, action = .bridgeCall uptime readOk
      · obtain ⟨uptime, readOk, rfl⟩ := called
        obtain ⟨thread, running, -⟩ := Vehicle.step_bridgeCall taken
        have arrivals := Vehicle.arrivals_append (j := j) (.bridgeCall uptime readOk) ran
        have nothing : mid.arrived image j (.bridgeCall uptime readOk) = [] := rfl
        rw [nothing, List.append_nil] at arrivals
        rw [arrivals]
        by_cases calling : thread.next = .publish caller
        · refine ⟨_, valid.poll bound taken running calling, ?_, ?_⟩
          · exact (Reader.poll_written ..).trans written
          · intro _ few bytes latest room
            rw [Reader.poll_written] at few latest
            exact valid.valid.poll_latest few latest room uptime
        · refine ⟨reader, valid.other unmirrored taken running calling, written, ?_⟩
          rintro ⟨before', uptime', readOk', mid', thread', same, ran', running', calling'⟩
          obtain ⟨rfl, -⟩ := List.append_inj' same rfl
          rw [ran, Option.some.injEq] at ran'
          subst ran'
          rw [running, Option.some.injEq] at running'
          subst running'
          exact absurd calling' calling
      · have between : ∀ uptime readOk, action ≠ .bridgeCall uptime readOk :=
          fun uptime readOk same => called ⟨uptime, readOk, same⟩
        refine ⟨_, valid.between bound taken between, ?_, ?_⟩
        · rw [Vehicle.arrivals_append action ran, ← written]
          rfl
        · rintro ⟨_, uptime', readOk', _, _, same, -⟩
          obtain ⟨-, last⟩ := List.append_inj' same rfl
          exact absurd (List.cons.inj last).1 (between uptime' readOk')

end

/-! ## The whole vehicle -/

theorem BridgePub.plain (pub : BridgePub) : PlainKey pub.csynKey := by
  cases pub <;> exact ⟨by decide, _, _, rfl, by decide⟩

theorem TxMap.csynKey_ne (map : TxMap) (pub : BridgePub) : map.csynKey ≠ pub.csynKey := by
  cases map <;> cases pub <;> decide

section

variable {image : VehicleImage} {synapseTopicByKey : Str → Option SynapseTopicInfo}
  {declarations : List TopicDeclaration} {caller : BridgePub} {j : Nat}

/-- The bridge mirrors into no topic that it also publishes from. -/
theorem BridgeImage.topicOf_unmirrored (catalog : SynapseCatalog synapseTopicByKey)
    (bound : image.bridge.topicOf (bootRegistry synapseTopicByKey declarations) caller = some j)
    (map : TxMap) :
    csynTopicFind (bootRegistry synapseTopicByKey declarations) (some map.csynKey) ≠ some j := by
  intro mirrored
  unfold BridgeImage.topicOf at bound
  split at bound
  · obtain ⟨topic, present, answers⟩ := csynTopicFind_some bound
    obtain ⟨topic', present', answers'⟩ := csynTopicFind_some mirrored
    rw [present, Option.some.injEq] at present'
    subst present'
    exact map.csynKey_ne caller (answersTo_plain_unique catalog
      (bootRegistry_topic (List.mem_of_getElem? present)).2 map.plain caller.plain answers' answers)
  · cases bound

/-- Only a function with a topic hands anything on. -/
theorem Vehicle.step_bound (registry : List CsynTopic) (s : Vehicle) (action : VehicleAction)
    (t : Vehicle) (taken : s.step image action = some t)
    (valid : s.Sound image registry ∧
      ∀ u ∈ s.bridge.updates, (image.bridge.topicOf registry u.caller).isSome) :
    t.Sound image registry ∧
      ∀ u ∈ t.bridge.updates, (image.bridge.topicOf registry u.caller).isSome := by
  obtain ⟨sound, bound⟩ := valid
  refine ⟨Vehicle.step_sound taken sound, ?_⟩
  intro u member
  rcases Vehicle.step_cases taken with ⟨act, bridge, -, stepped, rfl⟩ | ⟨ok, rfl⟩ | rfl |
    ⟨_, -, _, _, _, _, _, -, -, rfl⟩ | ⟨-, _, _, _, rfl⟩
  · rcases Bridge.step_updates stepped member with earlier | ⟨thread, running, made⟩
    · exact bound u earlier
    · obtain ⟨bytes, later, copied, -⟩ := made.copied
      obtain ⟨⟨i, _, _, found, -⟩, -⟩ := Bridge.copied_some copied
      rw [← (sound.bridge.ready thread running).1, found]
      rfl
  all_goals exact bound u member

variable (image) in
/-- The samples that arrive for the topic of a publish function over a run. -/
def Vehicle.arrivalsFor (start : Vehicle) (caller : BridgePub) (schedule : List VehicleAction) :
    List (List UInt8) :=
  match image.bridge.topicOf start.bridge.registry caller with
  | none => []
  | some j => start.arrivals image j schedule

end

/-- What a publish function handed to zros over a run. It took some of the arrivals, in order and
none of them twice, and handed on exactly what it makes of these; and when it has just been called,
the last of these is the last arrival. -/
structure Vehicle.HandsOnArrivals (image : VehicleImage) (start : Vehicle) (caller : BridgePub)
    (schedule : List VehicleAction) (s : Vehicle) (taken : List (List UInt8 × Int)) : Prop where
  handed : s.bridge.handedBy caller =
    taken.flatMap fun copy => image.bridge.messages caller copy.2 copy.1
  inOrder : (taken.map Prod.fst).Sublist (start.arrivalsFor image caller schedule)
  latest : Vehicle.JustCalled image start caller schedule →
    image.bridge.TakesLatest caller (start.arrivalsFor image caller schedule) taken

/-- From the wire to zros: in every run of a vehicle, with both transports, sessions that open and
close, the mirror and whole calls of the bridge interleaved in any order, what each publish function
hands on is what it makes of the samples that arrived for its topic, in order, none of them twice,
and up to the latest when it is called. -/
theorem arrivals_reach_zros (image : VehicleImage)
    (synapseTopicByKey : Str → Option SynapseTopicInfo) (declarations : List TopicDeclaration)
    (catalog : SynapseCatalog synapseTopicByKey) (schedule : List VehicleAction) (s : Vehicle)
    (reached : Automaton.run (Vehicle.step image)
      (.boot image (bootRegistry synapseTopicByKey declarations)) schedule = some s)
    (caller : BridgePub) :
    ∃ taken, Vehicle.HandsOnArrivals image
      (.boot image (bootRegistry synapseTopicByKey declarations)) caller schedule s taken := by
  cases bound : image.bridge.topicOf (bootRegistry synapseTopicByKey declarations) caller with
  | none =>
      have nothing : (Vehicle.boot image (bootRegistry synapseTopicByKey declarations)).arrivalsFor
          image caller schedule = [] := by
        unfold Vehicle.arrivalsFor
        rw [show image.bridge.topicOf (Vehicle.boot image (bootRegistry synapseTopicByKey
          declarations)).bridge.registry caller = none from bound]
      have callers := (Automaton.run_invariant (Vehicle.step_bound _) reached
        ⟨Vehicle.boot_sound bootRegistry_bounded, nofun⟩).2
      have unhanded : s.bridge.handedBy caller = [] := by
        unfold Bridge.handedBy
        rw [List.filter_eq_nil_iff.mpr, List.map_nil]
        intro u member
        simp only [decide_eq_true_eq]
        rintro rfl
        have present := callers u member
        rw [bound] at present
        cases present
      refine ⟨[], unhanded, List.nil_sublist _, ?_⟩
      rw [nothing]
      exact fun _ _ bytes last => nomatch last
  | some j =>
      have arrived : (Vehicle.boot image (bootRegistry synapseTopicByKey declarations)).arrivalsFor
          image caller schedule =
            (Vehicle.boot image (bootRegistry synapseTopicByKey declarations)).arrivals image j
              schedule := by
        unfold Vehicle.arrivalsFor
        rw [show image.bridge.topicOf (Vehicle.boot image (bootRegistry synapseTopicByKey
          declarations)).bridge.registry caller = some j from bound]
      obtain ⟨reader, valid, written, latest⟩ := Vehicle.run_refines bootRegistry_bounded
        bootRegistry_unwritten bound (BridgeImage.topicOf_unmirrored catalog bound) reached
      refine ⟨reader.taken, valid.handed, ?_, ?_⟩
      · rw [arrived, ← written]
        exact valid.valid.sublist
      · rw [arrived, ← written]
        exact latest

/-- A vehicle behind both transports. -/
def bothTransports : VehicleImage := { poseVehicle true with zenoh := true }

/-- A session subscribes to the odometry. A sample arrives through it and another one over UDP
before the bridge reads the topic, and a third one after that. -/
def odometryThrice : List VehicleAction :=
  [.bridgeInit, .declare true, .declare true,
    .sample 0 ⟨some (str "odom"), some (valueContract odometryInfo csynValueContractMax).2,
      ⟨2, [1, 3]⟩⟩ 0,
    .rxDrain [udpDatagram 9 [2, 3], udpDatagram 7 [0]],
    .bridgeCall 0 true, .bridgeCall 0 true, .bridgeCall 0 true, .bridgeCall 0 true,
    .rxDrain [udpDatagram 9 [5, 0]]] ++ List.replicate 14 (.bridgeCall 9 true)

set_option maxRecDepth 4096 in
theorem arrivals_reach_zros_both :
    ∃ s, Automaton.run (Vehicle.step bothTransports)
        (.boot bothTransports (bootRegistry poseCatalog poseTopics)) odometryThrice = some s ∧
      (Vehicle.boot bothTransports (bootRegistry poseCatalog poseTopics)).arrivalsFor bothTransports
        .odometry odometryThrice = [[1, 3], [2, 3], [5, 0]] ∧
      s.bridge.handedBy .odometry =
        bothTransports.bridge.messages .odometry 0 [2, 3] ++
          bothTransports.bridge.messages .odometry 9 [5, 0] ∧
      ∃ taken, Vehicle.HandsOnArrivals bothTransports
        (.boot bothTransports (bootRegistry poseCatalog poseTopics)) .odometry odometryThrice s
        taken :=
  ⟨_, rfl, rfl, rfl, arrivals_reach_zros bothTransports poseCatalog poseTopics poseCatalog_catalog
    odometryThrice _ rfl .odometry⟩

end Csyn
