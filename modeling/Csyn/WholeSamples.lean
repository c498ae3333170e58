import Csyn.InboundBridge

set_option autoImplicit false

/- What reaches zros from an inbound topic. -/
namespace Csyn

/-- An update is the decoding of the publish that set its generation. -/
def ZrosUpdate.DecodedFrom (layout : BridgeLayout) (topic : RxTopic)
    (published : List Published) (u : ZrosUpdate) : Prop :=
  ∃ p ∈ published, p.generation = u.sample ∧ p.payload.length = topic.size layout ∧
    topic.decode layout u.uptime p.payload = some u.message

/-- Of the samples handed on, those of the expected size were published, in order. -/
def Inbound.sized (layout : BridgeLayout) (topic : RxTopic) (s : Inbound) : List Handed :=
  s.polling.handed.filter fun h => h.length.toNat == topic.size layout

structure Inbound.Consistent (layout : BridgeLayout) (topic : RxTopic) (s : Inbound) : Prop where
  polling : s.polling.Consistent (topic.rule layout)
  origin : ∀ u ∈ s.updates, u.DecodedFrom layout topic s.polling.store.published
  matched : s.updates.map (fun u => u.sample) = (s.sized layout topic).map fun h => h.sample

theorem RxTopic.records (layout : BridgeLayout) (topic : RxTopic) (sent : Bool) :
    (topic.rule layout).records sent = true := by
  cases topic <;> rfl

theorem RxTopic.sessions (layout : BridgeLayout) (topic : RxTopic) :
    (topic.rule layout).sessions = false := by
  cases topic <;> rfl

theorem ZrosUpdate.DecodedFrom.extend {layout : BridgeLayout} {topic : RxTopic}
    {published later : List Published} {u : ZrosUpdate}
    (decoded : u.DecodedFrom layout topic published) (grown : published <+: later) :
    u.DecodedFrom layout topic later := by
  obtain ⟨p, member, rest⟩ := decoded
  exact ⟨p, grown.subset member, rest⟩

theorem Inbound.boot_consistent (layout : BridgeLayout) (topic : RxTopic) (store : Store)
    (valid : store.Consistent) : (Inbound.boot store).Consistent layout topic :=
  ⟨Polling.boot_consistent _ store valid, by simp [Inbound.boot], rfl⟩

/-- The sample a completed copy left in the buffer, and the publish it came from. -/
theorem Polling.Consistent.copied {rule : PollRule} {s : Polling} {generation sample : UInt32}
    {length : UInt16} (valid : s.Consistent rule)
    (at_hand : s.poller.pc = .copied generation length sample) :
    ∃ p ∈ s.store.published, p.generation = sample ∧
      s.poller.buf.load 0 length.toNat = p.payload := by
  have view := valid.polling
  rw [at_hand] at view
  obtain ⟨-, -, faithful⟩ := view
  obtain ⟨p, found, -, bytes⟩ := faithful.origin
  have positive := faithful.positive
  dsimp only at found bytes positive
  refine ⟨p, List.mem_of_getElem? found, ?_, bytes⟩
  rw [valid.store.numbered _ p found, Nat.sub_add_cancel positive, UInt32.ofNat_toNat]

/-- What the poller does other than handing on leaves its history alone. -/
theorem Polling.step_handed {rule : PollRule} {s t : Polling} {action : PollingAction}
    (sessions : rule.sessions = false) (taken : s.step rule action = some t)
    (other : ∀ sent, action ≠ .hand sent) :
    t.handed = s.handed ∧ s.store.published <+: t.store.published := by
  rcases s.step_cases taken with ⟨_, _, -, published, rfl⟩ | ⟨_, -, -, rfl⟩ |
    ⟨_, _, -, -, -, -, rfl⟩ | ⟨_, _, _, _, _, -, -, -, rfl⟩ | ⟨_, _, _, _, -, -, -, rfl⟩ |
    ⟨_, _, _, _, _, _, -, -, -, rfl⟩ | ⟨sent, _, _, _, handing, -, -⟩ | ⟨-, -, opened, -⟩
  · exact ⟨rfl, Store.publish_extends published⟩
  · exact ⟨rfl, List.prefix_rfl⟩
  · exact ⟨rfl, List.prefix_rfl⟩
  · exact ⟨rfl, List.prefix_rfl⟩
  · exact ⟨rfl, List.prefix_rfl⟩
  · exact ⟨rfl, List.prefix_rfl⟩
  · exact absurd handing (other sent)
  · rw [sessions] at opened
    cases opened

/-- A step that hands nothing on. -/
theorem Inbound.Consistent.advance {layout : BridgeLayout} {topic : RxTopic} {s : Inbound}
    {action : PollingAction} {polling : Polling} (valid : s.Consistent layout topic)
    (taken : s.polling.step (topic.rule layout) action = some polling)
    (other : ∀ sent, action ≠ .hand sent) (small : polling.store.published.length < 2 ^ 32) :
    ({ s with polling := polling } : Inbound).Consistent layout topic := by
  obtain ⟨same, grown⟩ := Polling.step_handed (topic.sessions layout) taken other
  refine ⟨Polling.step_consistent _ _ _ _ taken small valid.polling,
    fun u member => (valid.origin u member).extend grown, ?_⟩
  have matched := valid.matched
  unfold Inbound.sized at matched ⊢
  dsimp only
  rw [same]
  exact matched

theorem Inbound.step_consistent (layout : BridgeLayout) (topic : RxTopic) (s : Inbound)
    (action : InboundAction) (t : Inbound) (taken : s.step layout topic action = some t)
    (small : t.polling.store.published.length < 2 ^ 32) (valid : s.Consistent layout topic) :
    t.Consistent layout topic := by
  cases action with
  | writer action =>
      obtain ⟨polling, stepped, rfl⟩ := Option.map_eq_some_iff.mp taken
      exact valid.advance stepped (by rintro sent ⟨⟩) small
  | poll scratch =>
      obtain ⟨polling, stepped, rfl⟩ := Option.map_eq_some_iff.mp taken
      exact valid.advance stepped (by rintro sent ⟨⟩) small
  | copy action =>
      obtain ⟨polling, stepped, rfl⟩ := Option.map_eq_some_iff.mp taken
      exact valid.advance stepped (by rintro sent ⟨⟩) small
  | finish uptime =>
      unfold Inbound.step at taken
      dsimp only at taken
      split at taken
      · rename_i generation length sample at_hand
        obtain ⟨polling, stepped, rfl⟩ := Option.map_eq_some_iff.mp taken
        have consistent := Polling.step_consistent _ _ _ _ stepped small valid.polling
        obtain ⟨p, member, set, bytes⟩ := valid.polling.copied at_hand
        have handed : polling = { s.polling with
            poller := { s.polling.poller with
              lastGeneration := if (topic.rule layout).records true then generation
                else s.polling.poller.lastGeneration
              pc := .idle }
            handed := s.polling.handed ++ [⟨sample, length, s.polling.poller.buf, true⟩] } := by
          simp only [Polling.step, at_hand, Option.some.injEq] at stepped
          exact stepped.symm
        have sizes : length.toNat = p.payload.length := by
          rw [← bytes, ByteMemory.load_length]
        have present := topic.decode_isSome layout uptime p.payload
        have matched := valid.matched
        refine ⟨consistent, ?_, ?_⟩
        · intro u inUpdates
          rcases List.mem_append.mp inUpdates with earlier | last
          · rw [handed]
            exact valid.origin u earlier
          · rw [topic.publish_eq_decode, bytes] at last
            split at last
            · cases last
            · rename_i message decoded
              rw [List.mem_singleton.mp last, handed]
              rw [decoded, Option.isSome_some] at present
              exact ⟨p, member, set, of_decide_eq_true present.symm, decoded⟩
        · rw [topic.publish_eq_decode, bytes]
          unfold Inbound.sized at matched ⊢
          rw [handed]
          simp only [List.map_append, List.filter_append, matched, List.append_cancel_left_eq,
            List.filter_cons, List.filter_nil, sizes]
          split
          · rename_i decoded
            rw [decoded, Option.isSome_none] at present
            simp only [beq_iff_eq, of_decide_eq_false present.symm, ↓reduceIte, List.map_nil]
          · rename_i message decoded
            rw [decoded, Option.isSome_some] at present
            simp only [of_decide_eq_true present.symm, BEq.rfl, ↓reduceIte, List.map_cons,
              List.map_nil]
      · cases taken

theorem Inbound.published_le (layout : BridgeLayout) (topic : RxTopic) (s : Inbound)
    (action : InboundAction) (t : Inbound) (taken : s.step layout topic action = some t) :
    s.polling.store.published.length ≤ t.polling.store.published.length := by
  have lifted : ∃ polled, s.polling.step (topic.rule layout) polled = some t.polling := by
    cases action with
    | finish uptime =>
        unfold Inbound.step at taken
        dsimp only at taken
        split at taken
        · obtain ⟨polling, stepped, rfl⟩ := Option.map_eq_some_iff.mp taken
          exact ⟨_, stepped⟩
        · cases taken
    | _ =>
        obtain ⟨polling, stepped, rfl⟩ := Option.map_eq_some_iff.mp taken
        exact ⟨_, stepped⟩
  obtain ⟨polled, stepped⟩ := lifted
  exact Polling.published_le _ _ _ _ stepped

/-- The inbound bridge forwards only whole samples of the expected size, in publish
order, and ends on the latest. -/
theorem bridge_forwards_whole_samples (layout : BridgeLayout) (topic : RxTopic) (key : Str)
    (info : Option SynapseTopicInfo) (dir : CsynDir) (maxSize : UInt16)
    (schedule : List InboundAction) (s : Inbound)
    (reached : Automaton.run (Inbound.step layout topic) (.boot (.boot key info dir maxSize))
      schedule = some s)
    (small : s.polling.store.published.length < 2 ^ 32) :
    (∀ u ∈ s.updates, u.DecodedFrom layout topic s.polling.store.published) ∧
      s.updates.Pairwise (fun a b => a.sample.toNat ≤ b.sample.toNat) ∧
      (s.polling.poller.lastGeneration = s.polling.store.topic.generation →
        s.polling.store.topic.generation ≠ 0 →
        ∀ p, s.polling.store.published.getLast? = some p →
          p.payload.length = topic.size layout →
          ∃ u, s.updates.getLast? = some u ∧ u.sample = p.generation ∧
            topic.decode layout u.uptime p.payload = some u.message) := by
  have valid := Automaton.run_invariant_bounded (Inbound.published_le layout topic)
    (Inbound.step_consistent layout topic) reached
    (Inbound.boot_consistent layout topic _ (Store.boot_consistent key info dir maxSize)) small
  refine ⟨valid.origin, ?_, ?_⟩
  · have ordered : (s.sized layout topic).Pairwise fun a b => a.sample.toNat ≤ b.sample.toNat :=
      valid.polling.ordered.sublist List.filter_sublist
    rw [← List.pairwise_map (f := fun h : Handed => h.sample)
      (R := fun a b : UInt32 => a.toNat ≤ b.toNat), ← valid.matched, List.pairwise_map] at ordered
    exact ordered
  · intro upToDate live p last whole
    obtain ⟨h, recorded, current, sized, -⟩ :=
      valid.polling.last_current small upToDate live last
    have everything : s.polling.recorded (topic.rule layout) = s.polling.handed := by
      apply List.filter_eq_self.mpr
      intro h _
      exact topic.records layout h.sent
    rw [everything] at recorded
    have lastSized : (s.sized layout topic).getLast? = some h := by
      obtain ⟨before, split_⟩ := List.getLast?_eq_some_iff.mp recorded
      unfold Inbound.sized
      rw [split_, List.filter_append, List.filter_cons, List.filter_nil, sized, whole]
      simp only [BEq.rfl, ↓reduceIte]
      exact List.getLast?_concat
    have lastSample := congrArg List.getLast? valid.matched
    rw [List.getLast?_map, List.getLast?_map, lastSized, Option.map_some,
      Option.map_eq_some_iff] at lastSample
    obtain ⟨u, lastUpdate, same⟩ := lastSample
    obtain ⟨q, member, set, -, decoded⟩ := valid.origin u (List.mem_of_getLast? lastUpdate)
    have sameSample : q = p := valid.polling.store.eq_of_generation small member
      (List.mem_of_getLast? last) (set.trans (same.trans current))
    exact ⟨u, lastUpdate, same.trans current, sameSample ▸ decoded⟩

/-- A one-byte sample is copied over `g_odometry` and dropped; while it is polled again
the two-byte sample replaces it, is copied whole and published. -/
def shortThenWhole : List InboundAction :=
  [.writer (.call (some [9])), .writer (.moveByte 0), .writer .storeLength,
    .writer .setGeneration,
    .poll (fun _ => 0), .copy .readGeneration, .copy .readLength, .copy (.moveByte 0),
    .copy .rereadGeneration, .finish 10,
    .writer (.call (some [4, 5])), .writer (.moveByte 0), .writer (.moveByte 1),
    .writer .storeLength, .writer .setGeneration,
    .poll (fun _ => 0), .copy .readGeneration, .copy .readLength, .copy (.moveByte 1),
    .copy (.moveByte 0), .copy .rereadGeneration, .finish 20]

theorem bridge_forwards_whole_samples_short :
    ∃ s u, Automaton.run (Inbound.step sampleLayout .odom)
        (.boot (.boot (str "odom") none .rx 2)) shortThenWhole = some s ∧
      s.updates.getLast? = some u ∧ u.sample = 2 ∧
      RxTopic.odom.decode sampleLayout u.uptime [4, 5] = some u.message := by
  obtain ⟨-, -, latest⟩ := bridge_forwards_whole_samples sampleLayout .odom (str "odom") none .rx 2
    shortThenWhole _ rfl (by decide)
  obtain ⟨u, last, current, decoded⟩ := latest rfl (by decide) _ rfl rfl
  exact ⟨_, u, rfl, last, current, decoded⟩

end Csyn
