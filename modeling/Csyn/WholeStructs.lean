import Csyn.HandedOn
import Csyn.NativeUdp
import Csyn.RegistryInit

set_option autoImplicit false

/- Whole structs on the topics of a fixed layout. Three producers write the store: the
application, the sample callbacks of the Zenoh transport and `rx_drain` of the UDP transport. -/
namespace Csyn

/-- The registry with what the two receiving transports keep. -/
structure Feed where
  registry : List CsynTopic
  suppressFallback : Int
  loggedOdometryRx : Bool
  loggedUnknownRx : Bool

/-- A call of `csyn_topic_publish` by the application, a sample for a callback, or a datagram. -/
inductive FeedAction where
  | publish (topic : Nat) (buf : Option (List UInt8))
  | sample (handler : InputHandler) (topic : Nat) (sample : ZSample) (now : Int)
  | datagram (datagram : List UInt8)

def Feed.boot (registry : List CsynTopic) : Feed := ⟨registry, 0, false, false⟩

def Feed.receiver (s : Feed) : UdpReceiver := ⟨s.registry, s.loggedOdometryRx, s.loggedUnknownRx⟩

section

variable (config : Kconfig)

/-- One action; `none` where there is no such topic, or no `info` for a callback to check. -/
def Feed.step (s : Feed) : FeedAction → Option Feed
  | .publish i buf => some { s with registry := publishAt s.registry i buf }
  | .sample handler i sample now =>
      match s.registry[i]? with
      | none => none
      | some topic =>
          (handler.handle config topic s.suppressFallback sample now).map fun after =>
            { s with
              registry := s.registry.set i after.2.1
              suppressFallback := after.2.2 }
  | .datagram datagram =>
      let after := rxDatagram config s.receiver datagram
      some { s with
        registry := after.registry
        loggedOdometryRx := after.loggedOdometryRx
        loggedUnknownRx := after.loggedUnknownRx }

/-- The topic and the buffer for which an action calls `csyn_topic_publish`. -/
def Feed.handed (s : Feed) : FeedAction → Option (Nat × List UInt8)
  | .publish i buf => buf.map fun bytes => (i, bytes)
  | .sample handler i sample _ =>
      match s.registry[i]? with
      | none => none
      | some topic =>
          (handler.handsOn config topic s.suppressFallback sample).map fun bytes => (i, bytes)
  | .datagram datagram =>
      match udpFrame (udpRecv config datagram) with
      | none => none
      | some (catalogId, payload) =>
          (csynTopicByCatalogId s.registry catalogId).map fun i => (i, payload)

/-- The buffer is a part of the struct that the topic is for, and is going to be current. -/
def CsynTopic.takesPart (topic : CsynTopic) (bytes : List UInt8) : Bool :=
  match topic.info with
  | none => false
  | some info =>
      info.fixedLayout && decide (0 < bytes.length) && decide (bytes.length < info.payloadSize) &&
        topic.generation + 1 != 0

/-- The action hands no part of a struct on. -/
def Feed.handsWhole (s : Feed) (action : FeedAction) : Bool :=
  match s.handed config action with
  | none => true
  | some (i, bytes) =>
      match s.registry[i]? with
      | none => true
      | some topic => !topic.takesPart bytes

end

/-- The current sample of the topic, if there is one, is a whole struct. -/
def CsynTopic.HoldsWhole (topic : CsynTopic) : Prop :=
  ∀ info, topic.info = some info → info.fixedLayout = true → topic.generation ≠ 0 →
    (topic.lengths (slotOf topic.generation)).toNat = info.payloadSize

def Feed.HoldsWhole (s : Feed) : Prop := ∀ topic ∈ s.registry, topic.HoldsWhole

/-- Every topic has its entry, and its size. -/
def Feed.Entered (s : Feed) : Prop :=
  ∀ topic ∈ s.registry, (∃ info, topic.info = some info) ∧ topic.WellSized

/-! ## One topic -/

section

variable {topic before : CsynTopic} {bytes : List UInt8}

theorem CsynTopic.SameDeclaration.wellSized (same : topic.SameDeclaration before)
    (sized : before.WellSized) : topic.WellSized := by
  unfold CsynTopic.WellSized
  rw [same.info, same.maxSize]
  exact sized

theorem CsynTopic.SameStore.holdsWhole (same : topic.SameStore before)
    (declared : topic.SameDeclaration before) : topic.HoldsWhole ↔ before.HoldsWhole := by
  unfold CsynTopic.HoldsWhole
  rw [declared.info, same.generation, same.lengths]

/-- A publish keeps the struct whole unless it is handed a part of one. -/
theorem csynTopicPublish_holdsWhole (entered : ∃ info, topic.info = some info)
    (sized : topic.WellSized) (whole : topic.HoldsWhole) :
    (csynTopicPublish topic (some bytes)).2.HoldsWhole ↔ topic.takesPart bytes = false := by
  obtain ⟨info, resolved⟩ := entered
  unfold CsynTopic.takesPart
  rw [resolved]
  dsimp only
  by_cases fits : topic.accepts (some bytes) = true
  · obtain ⟨positive, bounded⟩ := CsynTopic.accepts_some.mp fits
    have length := (CsynTopic.accepts_length fits).1
    have current : (csynTopicPublish topic (some bytes)).2.HoldsWhole ↔
        (info.fixedLayout = true → topic.generation + 1 ≠ 0 →
          bytes.length = info.payloadSize) := by
      unfold CsynTopic.HoldsWhole
      rw [csynTopicPublish_accepted fits]
      dsimp only
      rw [resolved, Function.update_self, length]
      simp only [Option.some.injEq, forall_eq']
    rw [current]
    have size := sized info resolved
    cases fixed : info.fixedLayout with
    | false => simp
    | true =>
        have same := size fixed
        by_cases live : topic.generation + 1 = 0
        · simp [live]
        · simp [live, positive]
          omega
  · have refused : (info.fixedLayout && decide (0 < bytes.length) &&
        decide (bytes.length < info.payloadSize) && topic.generation + 1 != 0) = false := by
      rw [← Bool.not_eq_true]
      intro part
      simp only [Bool.and_eq_true, decide_eq_true_eq] at part
      obtain ⟨⟨⟨fixed, positive⟩, short⟩, -⟩ := part
      have size := sized info resolved fixed
      exact fits (CsynTopic.accepts_some.mpr ⟨positive, by omega⟩)
    rw [Bool.not_eq_true] at fits
    rw [csynTopicPublish_rejected fits, refused]
    simp only [whole]

end

/-! ## One action -/

section

variable {config : Kconfig} {s t : Feed} {action : FeedAction}

/-- A sample for a callback, on a topic that is there. -/
theorem Feed.step_sample {handler : InputHandler} {i : Nat} {sample : ZSample} {now : Int}
    (taken : s.step config (.sample handler i sample now) = some t) :
    ∃ topic after, s.registry[i]? = some topic ∧
      handler.handle config topic s.suppressFallback sample now = some after ∧
      t.registry = s.registry.set i after.2.1 := by
  unfold Feed.step at taken
  dsimp only at taken
  split at taken
  · cases taken
  · rename_i topic present
    obtain ⟨after, handled, same⟩ := Option.map_eq_some_iff.mp taken
    cases same
    exact ⟨topic, after, present, handled, rfl⟩

theorem Feed.step_sameDeclarations (taken : s.step config action = some t) :
    SameDeclarations t.registry s.registry := by
  cases action with
  | publish i buf =>
      cases taken
      exact publishAt_sameDeclarations _ _ _
  | sample handler i sample now =>
      obtain ⟨topic, after, present, handled, same⟩ := Feed.step_sample taken
      rw [same]
      apply sameDeclarations_set present
      exact (InputHandler.handle_delivered handled).sameDeclaration
  | datagram datagram =>
      cases taken
      exact rxDatagram_sameDeclarations config s.receiver datagram

/-- The topic an action hands a buffer to is as `csyn_topic_publish` leaves it. -/
theorem Feed.step_handed {j : Nat} {topic : CsynTopic} {bytes : List UInt8}
    (taken : s.step config action = some t) (present : s.registry[j]? = some topic)
    (handed : s.handed config action = some (j, bytes)) :
    t.registry[j]? = some (csynTopicPublish topic (some bytes)).2 := by
  unfold Feed.handed at handed
  cases action with
  | publish i buf =>
      obtain ⟨own, same, paired⟩ := Option.map_eq_some_iff.mp handed
      cases paired
      cases taken
      rw [same]
      exact publishAt_self present
  | sample handler i sample now =>
      obtain ⟨own, after, found, handled, same⟩ := Feed.step_sample taken
      dsimp only at handed
      rw [found] at handed
      obtain ⟨buf, passed, paired⟩ := Option.map_eq_some_iff.mp handed
      cases paired
      rw [present, Option.some.injEq] at found
      subst found
      have result := (InputHandler.handle_spec handled).2
      rw [passed] at result
      rw [same, result.published]
      exact List.getElem?_set_self (List.getElem?_eq_some_iff.mp present).1
  | datagram datagram =>
      cases taken
      dsimp only at handed ⊢
      split at handed
      · cases handed
      · rename_i catalogId payload framed
        obtain ⟨i, found, paired⟩ := Option.map_eq_some_iff.mp handed
        cases paired
        have offers : UdpOffers config s.receiver.registry datagram j bytes :=
          ⟨catalogId, framed, found⟩
        rw [rxDatagram_offers offers]
        exact publishAt_self present

/-- The sample of every other topic stays. -/
theorem Feed.step_other {j : Nat} {topic : CsynTopic} (taken : s.step config action = some t)
    (present : s.registry[j]? = some topic)
    (apart : ∀ bytes, s.handed config action ≠ some (j, bytes)) :
    ∃ after, t.registry[j]? = some after ∧ after.SameStore topic := by
  unfold Feed.handed at apart
  cases action with
  | publish i buf =>
      cases taken
      by_cases here : i = j
      · subst here
        cases buf with
        | none => exact ⟨topic, publishAt_self present, .refl topic⟩
        | some bytes => exact absurd rfl (apart bytes)
      · exact ⟨topic, (publishAt_other buf here).trans present, .refl topic⟩
  | sample handler i sample now =>
      obtain ⟨own, after, found, handled, same⟩ := Feed.step_sample taken
      rw [same]
      by_cases here : i = j
      · subst here
        rw [present, Option.some.injEq] at found
        subst found
        have result := (InputHandler.handle_spec handled).2
        dsimp only at apart
        rw [present] at apart
        dsimp only at apart
        refine ⟨after.2.1, List.getElem?_set_self (List.getElem?_eq_some_iff.mp present).1, ?_⟩
        cases passed : handler.handsOn config topic s.suppressFallback sample with
        | none =>
            rw [passed] at result
            exact result.unstored
        | some bytes =>
            rw [passed] at apart
            exact absurd rfl (apart bytes)
      · exact ⟨topic, (List.getElem?_set_ne here).trans present, .refl topic⟩
  | datagram datagram =>
      cases taken
      dsimp only at apart ⊢
      rcases rxDatagram_cases config s.receiver datagram with
        same | ⟨i, payload, ⟨catalogId, framed, found⟩, published⟩
      · rw [same]
        exact ⟨topic, present, .refl topic⟩
      · rw [published]
        rw [framed] at apart
        dsimp only at apart
        by_cases here : i = j
        · subst here
          exact absurd (congrArg (Option.map _) found) (apart payload)
        · exact ⟨topic, (publishAt_other _ here).trans present, .refl topic⟩

/-- The checks of an action on a registry with entries always run through. -/
theorem Feed.step_enabled {j : Nat} {bytes : List UInt8} (entered : s.Entered)
    (handed : s.handed config action = some (j, bytes)) : ∃ t, s.step config action = some t := by
  cases action with
  | publish i buf => exact ⟨_, rfl⟩
  | datagram datagram => exact ⟨_, rfl⟩
  | sample handler i sample now =>
      unfold Feed.handed at handed
      unfold Feed.step
      dsimp only at handed ⊢
      split at handed
      · cases handed
      · rename_i topic present
        obtain ⟨⟨info, resolved⟩, -⟩ := entered topic (List.mem_of_getElem? present)
        obtain ⟨after, handled⟩ := Option.isSome_iff_exists.mp
          (InputHandler.handle_isSome config handler s.suppressFallback sample now resolved)
        rw [handled]
        exact ⟨_, rfl⟩

theorem Feed.step_entered (taken : s.step config action = some t) (entered : s.Entered) :
    t.Entered := by
  intro after member
  obtain ⟨j, present⟩ := List.getElem?_of_mem member
  obtain ⟨topic, before, declared⟩ := (Feed.step_sameDeclarations taken).symm.get present
  obtain ⟨⟨info, resolved⟩, sized⟩ := entered topic (List.mem_of_getElem? before)
  exact ⟨⟨info, declared.symm.info.trans resolved⟩, declared.symm.wellSized sized⟩

/-- An action keeps the structs whole exactly when it hands no part of one on. -/
theorem Feed.step_holdsWhole (taken : s.step config action = some t) (entered : s.Entered)
    (whole : s.HoldsWhole) : t.HoldsWhole ↔ s.handsWhole config action = true := by
  unfold Feed.handsWhole
  constructor
  · intro later
    split
    · rfl
    · rename_i i bytes handed
      split
      · rfl
      · rename_i topic present
        have member := List.mem_of_getElem? present
        have stored := later _ (List.mem_of_getElem? (Feed.step_handed taken present handed))
        rw [Bool.not_eq_true']
        exact (csynTopicPublish_holdsWhole (entered topic member).1 (entered topic member).2
          (whole topic member)).mp stored
  · intro handsWhole after member
    obtain ⟨j, there⟩ := List.getElem?_of_mem member
    obtain ⟨topic, present, declared⟩ := (Feed.step_sameDeclarations taken).symm.get there
    have known := List.mem_of_getElem? present
    by_cases apart : ∀ bytes, s.handed config action ≠ some (j, bytes)
    · obtain ⟨final, kept, store⟩ := Feed.step_other taken present apart
      rw [there, Option.some.injEq] at kept
      subst kept
      exact (store.holdsWhole declared.symm).mpr (whole topic known)
    · simp only [ne_eq, not_forall, not_not] at apart
      obtain ⟨bytes, handed⟩ := apart
      have stored := Feed.step_handed taken present handed
      rw [there, Option.some.injEq] at stored
      subst stored
      rw [handed] at handsWhole
      dsimp only at handsWhole
      rw [present] at handsWhole
      rw [Bool.not_eq_true'] at handsWhole
      exact (csynTopicPublish_holdsWhole (entered topic known).1 (entered topic known).2
        (whole topic known)).mpr handsWhole

end

/-! ## Runs -/

/-- In every state of the run the current samples of the fixed layouts are whole structs. -/
def StaysWhole (config : Kconfig) (registry : List CsynTopic) (actions : List FeedAction) : Prop :=
  ∀ before rest s, actions = before ++ rest →
    Automaton.run (Feed.step config) (.boot registry) before = some s → s.HoldsWhole

/-- In every run the topics of a fixed layout hold whole structs only if and only if no action of
the run hands on a part of one. -/
theorem structs_stay_whole_iff (synapseTopicByKey : Str → Option SynapseTopicInfo)
    (config : Kconfig) (declarations : List TopicDeclaration) (registry : List CsynTopic)
    (accepted : csynInit synapseTopicByKey (declarations.map TopicDeclaration.define) =
      (none, registry)) (actions : List FeedAction) :
    StaysWhole config registry actions ↔
      Automaton.meets (Feed.step config) (Feed.handsWhole config) (.boot registry) actions =
        true := by
  have init : Accepted synapseTopicByKey registry := ⟨declarations, registry, accepted, .refl _⟩
  apply Automaton.holds_throughout_iff
    (fun s action t taken entered => Feed.step_entered taken entered)
    (fun s action t taken entered whole => Feed.step_holdsWhole taken entered whole)
  · intro s action entered part
    unfold Feed.handsWhole at part
    split at part
    · cases part
    · rename_i i bytes handed
      exact Feed.step_enabled entered handed
  · intro topic member
    obtain ⟨info, resolved, -, sized⟩ := init.topic member
    exact ⟨⟨info, resolved⟩, sized⟩
  · intro topic member info resolved fixed live
    have resolvedRegistry := csynInit_registry synapseTopicByKey accepted
    rw [show (Feed.boot registry).registry = registry from rfl, resolvedRegistry] at member
    obtain ⟨d, -, same⟩ := List.mem_map.mp member
    subst same
    exact absurd rfl live

/-- An inbound command topic of 40 bytes. -/
def commandTopics : List TopicDeclaration := [⟨str "vehicle_command", .rx, 40⟩]

/-- Two whole commands, then a part of one without a contract. -/
def wholeCommands : List FeedAction :=
  [.publish 0 (some (List.replicate 40 1)), .datagram (udpDatagram 65001 (List.replicate 40 2)),
    .sample .input 0 ⟨some (str "vehicle_command"), none, ⟨1, [3]⟩⟩ 0]

set_option maxRecDepth 4096 in
theorem structs_stay_whole_iff_commands :
    ∃ registry, csynInit (fun _ => none) (commandTopics.map TopicDeclaration.define) =
      (none, registry) ∧ StaysWhole .default registry wholeCommands :=
  ⟨_, rfl, (structs_stay_whole_iff (fun _ => none) .default commandTopics _ rfl
    wholeCommands).mpr rfl⟩

/-- A whole command, then one byte under the right contract. -/
def truncatedCommand : List FeedAction :=
  [.publish 0 (some (List.replicate 40 1)),
    .sample .input 0 ⟨some (str "vehicle_command"), some commandContractText, ⟨1, [3]⟩⟩ 0]

set_option maxRecDepth 4096 in
/-- The byte displaces the command. -/
theorem struct_truncated :
    ∃ registry s, csynInit (fun _ => none) (commandTopics.map TopicDeclaration.define) =
        (none, registry) ∧
      Automaton.run (Feed.step .default) (.boot registry) truncatedCommand = some s ∧
      s.registry.map (fun topic => csynTopicCopy topic 40) = [some ([3], 2)] ∧
      ¬ StaysWhole .default registry truncatedCommand := by
  refine ⟨_, _, rfl, rfl, rfl, ?_⟩
  intro stays
  have whole := stays truncatedCommand [] _ (List.append_nil _).symm rfl _ List.mem_cons_self
    gVehicleCommandInfo rfl rfl (by decide)
  exact absurd whole (by decide)

end Csyn
