import Csyn.PollerInvariant

set_option autoImplicit false

/- How often a poller hands on one sample. -/
namespace Csyn

/-- The pollers of the source. -/
inductive IfUpdated where
  | copyCsynTopic (bufSize : Nat) (staticBuf : Bool)
  | putTopicIfUpdated
  | txTopicIfUpdated

def IfUpdated.rule (config : Kconfig) : IfUpdated → PollRule
  | .copyCsynTopic bufSize staticBuf => Csyn.copyCsynTopic bufSize staticBuf
  | .putTopicIfUpdated => Csyn.putTopicIfUpdated config
  | .txTopicIfUpdated => Csyn.txTopicIfUpdated config

/-- All of them record a reading whose sample was sent. -/
theorem IfUpdated.records_sent (config : Kconfig) (poller : IfUpdated) :
    (poller.rule config).records true = true := by
  cases poller <;> rfl

/-- The generations of the samples handed on are strictly increasing. -/
def Polling.HandsOnOnce (s : Polling) : Prop :=
  s.handed.Pairwise fun a b => a.sample.toNat < b.sample.toNat

/-- No send fails in this step. -/
def sends : PollingAction → Bool
  | .hand sent => sent
  | _ => true

/-- The step is not the completion of a publish between a poll's reading of the
generation and the last access of its copy. -/
def Polling.undisturbed (s : Polling) (action : PollingAction) : Bool :=
  match action, s.poller.pc with
  | .writer .setGeneration, .copying _ _ => false
  | _, _ => true

/-- Without such a completion a poll hands on exactly the generation it records. -/
def InStep (published : List Published) (last : UInt32) : PollPc → Prop
  | .idle => True
  | .copying generation _ =>
      generation = UInt32.ofNat published.length ∧ last.toNat < published.length
  | .copied generation _ sample => generation = sample ∧ last.toNat < sample.toNat

structure Polling.Lockstep (rule : PollRule) (s : Polling) : Prop where
  consistent : s.Consistent rule
  once : s.HandsOnOnce
  recorded : UpTo s.handed s.poller.lastGeneration.toNat
  inStep : InStep s.store.published s.poller.lastGeneration s.poller.pc

theorem Polling.Consistent.last_le {rule : PollRule} {s : Polling} (valid : s.Consistent rule) :
    s.poller.lastGeneration.toNat ≤ s.store.published.length := by
  by_cases zero : s.poller.lastGeneration = 0
  · rw [zero]
    exact Nat.zero_le _
  · obtain ⟨h, last, covered⟩ := valid.covered zero
    have member := List.mem_of_mem_filter (List.mem_of_getLast? last)
    exact Nat.le_trans covered (valid.faithful h member).bounded

/-- A publish step other than the last one completes nothing. -/
theorem Store.publish_unfinished {s t : Store} {write : PublishAction}
    (taken : s.publish write = some t) (unfinished : write ≠ .setGeneration) :
    t.published = s.published := by
  rcases s.publish_cases taken with ⟨_, -, -, -, rfl⟩ | ⟨_, -, -, -, rfl⟩ |
    ⟨_, _, _, _, _, -, -, -, -, rfl⟩ | ⟨_, _, -, -, rfl⟩ | ⟨_, _, done, -, -⟩
  · rfl
  · rfl
  · rfl
  · rfl
  · exact absurd done unfinished

theorem Polling.step_lockstep {rule : PollRule} (recordsSent : rule.records true = true)
    (s : Polling) (action : PollingAction) (t : Polling)
    (taken : s.step rule action = some t) (sent : sends action = true)
    (undisturbed : s.undisturbed action = true) (small : t.store.published.length < 2 ^ 32)
    (valid : s.Lockstep rule) : t.Lockstep rule := by
  have consistent := s.step_consistent rule action t taken small valid.consistent
  rcases s.step_cases taken with ⟨write, store, rfl, published, rfl⟩ | ⟨scratch, -, -, rfl⟩ |
    ⟨scratch, buf, -, -, live, moved, rfl⟩ |
    ⟨move, generation, pc, pc', buf, -, at_copy, stepped, rfl⟩ |
    ⟨move, generation, pc, buf, -, at_copy, stepped, rfl⟩ |
    ⟨move, generation, pc, length, sample, buf, -, at_copy, stepped, rfl⟩ |
    ⟨ok, generation, length, sample, rfl, at_hand, rfl⟩ | ⟨-, at_rest, -, rfl⟩
  · refine ⟨consistent, valid.once, valid.recorded, ?_⟩
    have inStep := valid.inStep
    dsimp only
    cases at_pc : s.poller.pc with
    | idle => trivial
    | copying generation pc =>
        rw [at_pc] at inStep
        have unfinished : write ≠ .setGeneration := by
          rintro rfl
          simp only [Polling.undisturbed, at_pc, Bool.false_eq_true] at undisturbed
        rw [Store.publish_unfinished published unfinished]
        exact inStep
    | copied generation length sample =>
        rw [at_pc] at inStep
        exact inStep
  · exact valid
  · refine ⟨consistent, valid.once, valid.recorded, valid.consistent.store.generation, ?_⟩
    have bounded := valid.consistent.last_le
    have smallNow : s.store.published.length < 2 ^ 32 := small
    have reading := congrArg UInt32.toNat valid.consistent.store.generation
    rw [Counter.toNat_of_lt smallNow] at reading
    have differ : s.store.topic.generation.toNat ≠ s.poller.lastGeneration.toNat :=
      fun same => moved (UInt32.toNat_inj.mp same)
    dsimp only
    omega
  · have inStep := valid.inStep
    rw [at_copy] at inStep
    exact ⟨consistent, valid.once, valid.recorded, inStep⟩
  · exact ⟨consistent, valid.once, valid.recorded, trivial⟩
  · have inStep := valid.inStep
    have view := valid.consistent.polling
    rw [at_copy] at inStep view
    obtain ⟨reading, behind⟩ := inStep
    obtain ⟨since, -, -, -, copy⟩ := view
    obtain ⟨number, -⟩ := copy.handed valid.consistent.store stepped small
    refine ⟨consistent, valid.once, valid.recorded, ?_, ?_⟩
    · apply UInt32.toNat_inj.mp
      rw [reading, number, Counter.toNat_of_lt small]
    · rw [number]
      exact behind
  · have inStep := valid.inStep
    rw [at_hand] at inStep
    obtain ⟨rfl, behind⟩ := inStep
    have newer : ∀ h ∈ s.handed, h.sample.toNat < generation.toNat := fun h member =>
      Nat.lt_of_le_of_lt (valid.recorded h member) behind
    refine ⟨consistent, pairwise_concat valid.once newer, ?_, trivial⟩
    rw [show ok = true from sent, recordsSent]
    intro h member
    simp only [↓reduceIte]
    rcases List.mem_append.mp member with earlier | last
    · exact Nat.le_of_lt (newer h earlier)
    · exact Nat.le_of_eq (congrArg (fun h => h.sample.toNat) (List.mem_singleton.mp last))
  · refine ⟨consistent, List.Pairwise.nil, ?_, ?_⟩
    · intro h absent
      cases absent
    · dsimp only
      rw [at_rest]
      trivial

/-- At-most-once forwarding, in every run in which every send succeeds and no publish
completes between a poll's reading of the generation and the end of its copy. -/
theorem ifUpdated_hands_on_once (config : Kconfig) (poller : IfUpdated) (key : Str)
    (info : Option SynapseTopicInfo) (dir : CsynDir) (maxSize : UInt16)
    (schedule : List PollingAction) (s : Polling)
    (reached : Automaton.run (Polling.step (poller.rule config))
      (.boot (.boot key info dir maxSize)) schedule = some s)
    (undisturbed : Automaton.meets (Polling.step (poller.rule config))
      (fun now action => sends action && now.undisturbed action)
      (.boot (.boot key info dir maxSize)) schedule = true)
    (small : s.store.published.length < 2 ^ 32) : s.HandsOnOnce := by
  have start : (Polling.boot (.boot key info dir maxSize)).Lockstep (poller.rule config) :=
    ⟨Polling.boot_consistent _ _ (Store.boot_consistent key info dir maxSize),
      List.Pairwise.nil, (fun h absent => by cases absent), trivial⟩
  have lockstep := Automaton.run_invariant_of_meets
    (motive := fun now => now.store.published.length < 2 ^ 32 → now.Lockstep (poller.rule config))
    (fun now action next taken allowed previous smallNext =>
      now.step_lockstep (IfUpdated.records_sent config poller) action next taken
        (Bool.and_eq_true_iff.mp allowed).1 (Bool.and_eq_true_iff.mp allowed).2 smallNext
        (previous (Nat.lt_of_le_of_lt (Polling.published_le _ now action next taken) smallNext)))
    reached undisturbed (fun _ => start)
  exact (lockstep small).once

/-- One publish of a single byte. -/
def publishByte (byte : UInt8) : List PollingAction :=
  [.writer (.call (some [byte])), .writer (.moveByte 0), .writer .storeLength,
    .writer .setGeneration]

/-- The copy of a single byte that nothing disturbs, and its hand-over. -/
def copyByte : List PollingAction :=
  [.copy .readGeneration, .copy .readLength, .copy (.moveByte 0), .copy .rereadGeneration,
    .hand true]

/-- Two publishes, each forwarded by the poll after it. -/
def promptPolls : List PollingAction :=
  publishByte 5 ++ .poll (fun _ => 0) :: copyByte ++ publishByte 6 ++
    .poll (fun _ => 0) :: copyByte

theorem ifUpdated_hands_on_once_prompt :
    ∃ s, Automaton.run (Polling.step (IfUpdated.putTopicIfUpdated.rule .default))
        (.boot (.boot (str "att") (some gVehicleCommandInfo) .tx 40)) promptPolls = some s ∧
      s.handed.map (fun h => h.sample) = [1, 2] ∧ s.HandsOnOnce :=
  ⟨_, rfl, rfl, ifUpdated_hands_on_once .default .putTopicIfUpdated (str "att")
    (some gVehicleCommandInfo) .tx 40 promptPolls _ rfl rfl (by decide)⟩

/-- The second publish completes after the poll read the generation. The poll hands on
the second sample and records the first reading, so the next poll hands it on again. -/
def overtakenPoll : List PollingAction :=
  publishByte 5 ++ .poll (fun _ => 0) :: publishByte 6 ++ copyByte ++
    .poll (fun _ => 0) :: copyByte

theorem ifUpdated_hands_on_twice :
    ∃ bridge zenoh udp : Polling,
      Automaton.run (Polling.step ((IfUpdated.copyCsynTopic 40 false).rule .default))
          (.boot (.boot (str "att") (some gVehicleCommandInfo) .tx 40)) overtakenPoll =
        some bridge ∧
      Automaton.run (Polling.step (IfUpdated.putTopicIfUpdated.rule .default))
          (.boot (.boot (str "att") (some gVehicleCommandInfo) .tx 40)) overtakenPoll =
        some zenoh ∧
      Automaton.run (Polling.step (IfUpdated.txTopicIfUpdated.rule .default))
          (.boot (.boot (str "att") (some gVehicleCommandInfo) .tx 40)) overtakenPoll =
        some udp ∧
      overtakenPoll.all sends = true ∧
      (bridge.store.published.length = 2 ∧ zenoh.store.published.length = 2 ∧
        udp.store.published.length = 2) ∧
      ¬ bridge.HandsOnOnce ∧ ¬ zenoh.HandsOnOnce ∧ ¬ udp.HandsOnOnce := by
  refine ⟨_, _, _, rfl, rfl, rfl, rfl, ⟨rfl, rfl, rfl⟩, ?_, ?_, ?_⟩
  all_goals
    intro once
    exact absurd (List.pairwise_cons.mp once).1 (by decide)

end Csyn
