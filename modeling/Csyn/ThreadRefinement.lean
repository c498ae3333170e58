import Csyn.BridgeRefinement
import Csyn.InboundDirection
import Csyn.Link
import Csyn.TransportThreads

set_option autoImplicit false

/- A transport's thread against the poller of one topic: what the thread does with a topic while it
goes round all of them is a run of that poller, and what it goes round in is the registry's
order. -/
namespace Csyn

theorem onTopic_append (i : Nat) (first second : List Dispatch) :
    onTopic i (first ++ second) = onTopic i first ++ onTopic i second :=
  List.filterMap_append

/-- Filtering by what was sent does not mind the order. -/
theorem onTopic_sent (i : Nat) (dispatched : List Dispatch) :
    onTopic i (dispatched.filter fun d => d.sample.sent) =
      (onTopic i dispatched).filter fun h => h.sent := by
  induction dispatched with
  | nil => rfl
  | cons d rest ih =>
      by_cases here : d.topic = i
      · cases sent : d.sample.sent with
        | true => simpa [onTopic, List.filter_cons, here, sent] using ih
        | false => simpa [onTopic, List.filter_cons, here, sent] using ih
      · cases sent : d.sample.sent with
        | true => simpa [onTopic, List.filter_cons, here, sent] using ih
        | false => simpa [onTopic, List.filter_cons, here, sent] using ih

/-- The thread and a poller of topic `i` are at the same place. The poller's buffer is the thread's
while there is a sample in it. -/
structure TransportThread.Polls (i : Nat) (s : TransportThread) (p : Polling) : Prop where
  store : s.stores[i]? = some p.store
  last : s.lastGeneration i = p.poller.lastGeneration
  pc : s.pc.at i = p.poller.pc
  buf : s.pc.at i ≠ .idle → s.buf = p.poller.buf
  handed : onTopic i s.dispatched = p.handed

/-- What the thread does with topic `i` in a step, the poller does in at most one. -/
def TransportThread.Matched (rule : ThreadRule) (i : Nat) (s t : TransportThread) (p : Polling) :
    Prop :=
  (t.Polls i p ∧ onTopic i (s.newlySent t) = []) ∨
    ∃ polled q, p.step rule.poll polled = some q ∧ t.Polls i q ∧
      onTopic i (s.newlySent t) = p.newlySent q

section

variable {rule : ThreadRule} {s t : TransportThread} {action : ThreadAction} {i : Nat}
  {p : Polling}

theorem TransportThread.newlySent_same (same : t.dispatched = s.dispatched) :
    onTopic i (s.newlySent t) = [] := by
  unfold TransportThread.newlySent
  rw [same, List.drop_length]
  rfl

theorem Polling.newlySent_same {q : Polling} (same : q.handed = p.handed) : p.newlySent q = [] := by
  unfold Polling.newlySent
  rw [same, List.drop_length]
  rfl

/-- A step that leaves topic `i` and its place alone. -/
theorem TransportThread.Polls.still (polls : s.Polls i p) (stores : t.stores[i]? = s.stores[i]?)
    (last : t.lastGeneration i = s.lastGeneration i) (pc : t.pc.at i = s.pc.at i)
    (buf : t.pc.at i ≠ .idle → t.buf = s.buf)
    (dispatched : onTopic i t.dispatched = onTopic i s.dispatched) : t.Polls i p := by
  refine ⟨stores.trans polls.store, last.trans polls.last, pc.trans polls.pc, ?_,
    dispatched.trans polls.handed⟩
  intro busy
  exact (buf busy).trans (polls.buf (pc ▸ busy))

/-- A step of the poller that hands nothing on. -/
theorem TransportThread.Matched.quiet {polled : PollingAction} {q : Polling}
    (stepped : p.step rule.poll polled = some q) (polls : t.Polls i q)
    (same : t.dispatched = s.dispatched) (handed : q.handed = p.handed) :
    TransportThread.Matched rule i s t p :=
  Or.inr ⟨polled, q, stepped, polls, by
    rw [TransportThread.newlySent_same same, Polling.newlySent_same handed]⟩

/-- The thread is with another topic, or with none, before and after the step. -/
theorem TransportThread.Polls.elsewhere (polls : s.Polls i p) (stores : t.stores = s.stores)
    (last : t.lastGeneration = s.lastGeneration) (dispatched : t.dispatched = s.dispatched)
    (before : s.pc.at i = .idle) (after : t.pc.at i = .idle) :
    TransportThread.Matched rule i s t p := by
  refine Or.inl ⟨polls.still (by rw [stores]) (by rw [last]) (after.trans before.symm) ?_
    (by rw [dispatched]), TransportThread.newlySent_same dispatched⟩
  intro busy
  exact absurd after busy

/-- A session starts. -/
theorem TransportThread.Polls.begun (polls : s.Polls i p) (at_open : s.pc = .opening)
    {pc : ThreadPc} (after : pc.at i = .idle) :
    TransportThread.Matched rule i s { s.begun rule with pc := pc } p := by
  have before : s.pc.at i = .idle := by
    rw [at_open]
    rfl
  cases sessions : rule.poll.sessions with
  | false =>
      have same : s.begun rule = s := by
        unfold TransportThread.begun
        rw [sessions]
        rfl
      rw [same]
      exact polls.elsewhere rfl rfl rfl before after
  | true =>
      have renewed : s.begun rule = { s with lastGeneration := fun _ => 0, dispatched := [] } := by
        unfold TransportThread.begun
        rw [sessions]
        rfl
      rw [renewed]
      have idle : p.poller.pc = .idle := polls.pc.symm.trans before
      refine Or.inr ⟨.reopen,
        { p with poller := { p.poller with lastGeneration := 0 }, handed := [] }, ?_, ?_, ?_⟩
      · unfold Polling.step
        rw [idle]
        dsimp only
        rw [if_pos sessions]
      · exact ⟨polls.store, rfl, after.trans idle.symm, fun busy => absurd after busy, rfl⟩
      · simp [TransportThread.newlySent, Polling.newlySent, onTopic]

/-- The poller's copy takes the same step. -/
theorem Polling.step_copy {generation : UInt32} {pc : CopyPc} {move : CopyAction}
    {next : CopyNext} (at_copy : p.poller.pc = .copying generation pc)
    (stepped : copyStep p.store.topic rule.poll.bufSize pc p.poller.buf move = some next) :
    p.step rule.poll (.copy move) = some (p.inCopy generation next) := by
  unfold Polling.step
  rw [at_copy]
  dsimp only
  rw [stepped]
  cases next <;> rfl

theorem ThreadPc.at_copying_self (i : Nat) (generation : UInt32) (pc : CopyPc) :
    (ThreadPc.copying i generation pc).at i = .copying generation pc := if_pos rfl

theorem ThreadPc.at_copying_ne {i k : Nat} (other : k ≠ i) (generation : UInt32) (pc : CopyPc) :
    (ThreadPc.copying k generation pc).at i = .idle := if_neg other

theorem ThreadPc.at_copied_self (i : Nat) (generation : UInt32) (length : UInt16)
    (sample : UInt32) :
    (ThreadPc.copied i generation length sample).at i = .copied generation length sample :=
  if_pos rfl

theorem ThreadPc.at_copied_ne {i k : Nat} (other : k ≠ i) (generation : UInt32) (length : UInt16)
    (sample : UInt32) : (ThreadPc.copied k generation length sample).at i = .idle := if_neg other

theorem TransportThread.Polls.matched (local_ : rule.poll.staticBuf = false)
    (polls : s.Polls i p) (took : s.Took rule action t) :
    TransportThread.Matched rule i s t p := by
  cases took with
  | @write k store after write present published =>
      by_cases here : k = i
      · subst here
        have same := present.symm.trans polls.store
        rw [Option.some.injEq] at same
        subst same
        have stepped : p.step rule.poll (.writer write) = some { p with store := after } := by
          simp only [Polling.step, published, Option.map_some]
        refine .quiet stepped ⟨?_, polls.last, polls.pc, polls.buf, polls.handed⟩ rfl rfl
        exact List.getElem?_set_self (List.getElem?_eq_some_iff.mp present).1
      · exact Or.inl ⟨polls.still (List.getElem?_set_ne here) rfl rfl (fun _ => rfl) rfl,
          TransportThread.newlySent_same rfl⟩
  | refuse at_open => exact Or.inl ⟨polls, TransportThread.newlySent_same rfl⟩
  | leave at_open many => exact polls.begun at_open rfl
  | enter at_open few => exact polls.begun at_open rfl
  | close at_rest => exact polls.elsewhere rfl rfl rfl (by rw [at_rest]; rfl) rfl
  | sweep at_rest => exact polls.elsewhere rfl rfl rfl (by rw [at_rest]; rfl) rfl
  | finish at_visit => exact polls.elsewhere rfl rfl rfl (by rw [at_visit]; rfl) rfl
  | pass at_visit inside => exact polls.elsewhere rfl rfl rfl (by rw [at_visit]; rfl) rfl
  | @poll k scratch store at_visit present sends due =>
      have before : s.pc.at i = .idle := by
        rw [at_visit]
        rfl
      by_cases here : k = i
      · subst here
        have same := present.symm.trans polls.store
        rw [Option.some.injEq] at same
        subst same
        have stepped : p.step rule.poll (.poll scratch) = some { p with poller := { p.poller with
            pc := .copying p.store.topic.generation .atLoop, buf := scratch } } := by
          unfold Polling.step
          rw [← polls.pc, before]
          dsimp only [csynTopicGeneration]
          rw [if_neg (by rw [← polls.last]; exact due), local_]
          rfl
        exact .quiet stepped ⟨polls.store, polls.last, ThreadPc.at_copying_self _ _ _,
          fun _ => rfl, polls.handed⟩ rfl rfl
      · exact polls.elsewhere rfl rfl rfl before (ThreadPc.at_copying_ne here _ _)
  | @move k generation pc after store buf move at_copy present stepped =>
      by_cases here : k = i
      · subst here
        have same := present.symm.trans polls.store
        rw [Option.some.injEq] at same
        subst same
        have before : s.pc.at k = .copying generation pc := by
          rw [at_copy, ThreadPc.at_copying_self]
        rw [polls.buf (by rw [before]; exact nofun)] at stepped
        exact .quiet (Polling.step_copy (polls.pc.symm.trans before) stepped)
          ⟨polls.store, polls.last, ThreadPc.at_copying_self _ _ _, fun _ => rfl, polls.handed⟩
          rfl rfl
      · exact polls.elsewhere rfl rfl rfl (by rw [at_copy]; exact ThreadPc.at_copying_ne here _ _)
          (ThreadPc.at_copying_ne here _ _)
  | @fail k generation pc store buf move at_copy present stepped =>
      by_cases here : k = i
      · subst here
        have same := present.symm.trans polls.store
        rw [Option.some.injEq] at same
        subst same
        have before : s.pc.at k = .copying generation pc := by
          rw [at_copy, ThreadPc.at_copying_self]
        rw [polls.buf (by rw [before]; exact nofun)] at stepped
        exact .quiet (Polling.step_copy (polls.pc.symm.trans before) stepped)
          ⟨polls.store, polls.last, rfl, fun _ => rfl, polls.handed⟩ rfl rfl
      · exact polls.elsewhere rfl rfl rfl (by rw [at_copy]; exact ThreadPc.at_copying_ne here _ _)
          rfl
  | @complete k generation pc store length sample buf move at_copy present stepped =>
      by_cases here : k = i
      · subst here
        have same := present.symm.trans polls.store
        rw [Option.some.injEq] at same
        subst same
        have before : s.pc.at k = .copying generation pc := by
          rw [at_copy, ThreadPc.at_copying_self]
        rw [polls.buf (by rw [before]; exact nofun)] at stepped
        exact .quiet (Polling.step_copy (polls.pc.symm.trans before) stepped)
          ⟨polls.store, polls.last, ThreadPc.at_copied_self _ _ _ _, fun _ => rfl, polls.handed⟩
          rfl rfl
      · exact polls.elsewhere rfl rfl rfl (by rw [at_copy]; exact ThreadPc.at_copying_ne here _ _)
          (ThreadPc.at_copied_ne here _ _ _)
  | @hand k generation length sample sent at_hand =>
      by_cases here : k = i
      · subst here
        have before : s.pc.at k = .copied generation length sample := by
          rw [at_hand, ThreadPc.at_copied_self]
        have buffer := polls.buf (by rw [before]; exact nofun)
        have stepped : p.step rule.poll (.hand sent) = some { p with
            poller := { p.poller with
              lastGeneration := if rule.poll.records sent then generation
                else p.poller.lastGeneration
              pc := .idle }
            handed := p.handed ++ [⟨sample, length, p.poller.buf, sent⟩] } := by
          unfold Polling.step
          rw [← polls.pc, before]
        refine Or.inr ⟨.hand sent, _, stepped, ⟨polls.store, ?_, rfl, nofun, ?_⟩, ?_⟩
        · dsimp only
          cases rule.poll.records sent with
          | false => exact polls.last
          | true => exact Function.update_self _ _ _
        · rw [onTopic_append, polls.handed, ← buffer]
          simp [onTopic]
        · unfold TransportThread.newlySent Polling.newlySent
          dsimp only
          rw [List.drop_left, List.drop_left, onTopic_sent, ← buffer]
          simp [onTopic]
      · have before : s.pc.at i = .idle := by
          rw [at_hand]
          exact ThreadPc.at_copied_ne here _ _ _
        have foreign : onTopic i [⟨s.sweeps, k, ⟨sample, length, s.buf, sent⟩⟩] = [] := by
          simp [onTopic, here]
        refine Or.inl ⟨polls.still rfl ?_ before.symm (fun busy => absurd rfl busy) ?_, ?_⟩
        · dsimp only
          cases rule.poll.records sent with
          | false => rfl
          | true => exact Function.update_of_ne (Ne.symm here) _ _
        · rw [onTopic_append, foreign, List.append_nil]
        · unfold TransportThread.newlySent
          dsimp only
          rw [List.drop_left, onTopic_sent, foreign]
          rfl

/-! ## The order of the sweeps -/

/-- The topic that a sweep has come to. -/
def ThreadPc.reached : ThreadPc → Option Nat
  | .sweeping i => some i
  | .copying i _ _ => some i
  | .copied i _ _ _ => some i
  | _ => none

/-- Topic `i` is one for the thread to send. -/
def TransportThread.Sends (rule : ThreadRule) (s : TransportThread) (i : Nat) : Prop :=
  ∃ store, s.stores[i]? = some store ∧ store.topic.dir = .tx ∧
    (rule.poll.needsInfo = true → store.topic.info ≠ none)

/-- One sweep after the other, each in the registry's order and within the array. Only topics for
sending are copied. -/
structure TransportThread.Orderly (rule : ThreadRule) (s : TransportThread) : Prop where
  bounded : s.pc ≠ .opening → s.pc ≠ .returned → s.stores.length ≤ rule.maxTopics
  busy : ∀ i, s.pc.at i ≠ .idle → s.Sends rule i
  sends : ∀ d ∈ s.dispatched, s.Sends rule d.topic
  rounds : s.dispatched.Pairwise fun a b =>
    a.sweep < b.sweep ∨ a.sweep = b.sweep ∧ a.topic < b.topic
  recent : ∀ d ∈ s.dispatched, d.sweep ≤ s.sweeps ∧
    ∀ i, s.pc.reached = some i → d.sweep = s.sweeps → d.topic < i

theorem Store.publish_sameDeclaration {store after : Store} {write : PublishAction}
    (published : store.publish write = some after) :
    after.topic.SameDeclaration store.topic := by
  rcases store.publish_cases published with ⟨_, -, -, -, rfl⟩ | ⟨_, -, -, -, rfl⟩ |
    ⟨_, _, _, _, _, -, -, -, -, rfl⟩ | ⟨_, _, -, -, rfl⟩ | ⟨_, _, -, -, rfl⟩
  all_goals exact ⟨rfl, rfl, rfl, rfl⟩

theorem TransportThread.Sends.write {k : Nat} {store after : Store} {write : PublishAction}
    (sends : s.Sends rule i) (present : s.stores[k]? = some store)
    (published : store.publish write = some after) :
    ({ s with stores := s.stores.set k after } : TransportThread).Sends rule i := by
  by_cases here : k = i
  · subst here
    obtain ⟨own, found, direction, named⟩ := sends
    rw [present, Option.some.injEq] at found
    subst found
    have same := Store.publish_sameDeclaration published
    refine ⟨after, List.getElem?_set_self (List.getElem?_eq_some_iff.mp present).1,
      same.dir.trans direction, ?_⟩
    intro needed
    rw [same.info]
    exact named needed
  · obtain ⟨own, found, rest⟩ := sends
    exact ⟨own, (List.getElem?_set_ne here).trans found, rest⟩

theorem TransportThread.Took.sends (took : s.Took rule action t) (sends : s.Sends rule i) :
    t.Sends rule i := by
  cases took with
  | write present published => exact sends.write present published
  | leave at_open many =>
      unfold TransportThread.Sends
      rw [TransportThread.begun_stores]
      exact sends
  | enter at_open few =>
      unfold TransportThread.Sends
      rw [TransportThread.begun_stores]
      exact sends
  | _ => exact sends

/-- No step declares a topic anew. -/
theorem TransportThread.Took.declared (took : s.Took rule action t) :
    SameDeclarations (t.stores.map Store.topic) (s.stores.map Store.topic) := by
  cases took with
  | @write k store after write present published =>
      rw [List.map_set]
      refine sameDeclarations_set ?_ (Store.publish_sameDeclaration published)
      rw [List.getElem?_map, present]
      rfl
  | leave at_open many =>
      dsimp only
      rw [TransportThread.begun_stores]
      exact .refl _
  | enter at_open few =>
      dsimp only
      rw [TransportThread.begun_stores]
      exact .refl _
  | _ => exact .refl _

/-- A step to a place where nothing is copied, which hands nothing on and does not go back. -/
theorem TransportThread.Orderly.go (orderly : s.Orderly rule) {pc : ThreadPc} {buf : ByteMemory}
    (bounded : pc ≠ .opening → pc ≠ .returned → s.stores.length ≤ rule.maxTopics)
    (idle : ∀ i, pc.at i = .idle)
    (forward : ∀ i, pc.reached = some i → ∃ k ≤ i, s.pc.reached = some k) :
    ({ s with pc := pc, buf := buf } : TransportThread).Orderly rule := by
  refine ⟨bounded, fun i busy => absurd (idle i) busy, orderly.sends, orderly.rounds, ?_⟩
  intro d member
  obtain ⟨past, order⟩ := orderly.recent d member
  refine ⟨past, ?_⟩
  intro i reached current
  obtain ⟨k, before, earlier⟩ := forward i reached
  exact Nat.lt_of_lt_of_le (order k earlier current) before

/-- A step within the copy of topic `i`. -/
theorem TransportThread.Orderly.stay (orderly : s.Orderly rule) {pc : ThreadPc} {buf : ByteMemory}
    (at_work : s.stores.length ≤ rule.maxTopics) (here : s.pc.reached = some i)
    (still : pc.reached = some i) (own : ∀ k, pc.at k ≠ .idle → k = i) (sends : s.Sends rule i) :
    ({ s with pc := pc, buf := buf } : TransportThread).Orderly rule := by
  refine ⟨fun _ _ => at_work, fun k busy => own k busy ▸ sends, orderly.sends, orderly.rounds, ?_⟩
  intro d member
  obtain ⟨past, order⟩ := orderly.recent d member
  refine ⟨past, ?_⟩
  intro k reached current
  dsimp only at reached
  rw [still, Option.some.injEq] at reached
  subst reached
  exact order _ here current

theorem TransportThread.Orderly.begun (orderly : s.Orderly rule) {pc : ThreadPc}
    (bounded : pc ≠ .opening → pc ≠ .returned → s.stores.length ≤ rule.maxTopics)
    (idle : ∀ i, pc.at i = .idle) (resting : pc.reached = none) :
    ({ s.begun rule with pc := pc } : TransportThread).Orderly rule := by
  unfold TransportThread.begun
  split
  · exact ⟨bounded, fun i busy => absurd (idle i) busy, nofun, .nil, nofun⟩
  · exact orderly.go bounded idle fun i reached => by rw [resting] at reached; cases reached

theorem ThreadPc.copying_own (i : Nat) (generation : UInt32) (pc : CopyPc) (k : Nat)
    (busy : (ThreadPc.copying i generation pc).at k ≠ .idle) : k = i := by
  by_contra other
  exact busy (ThreadPc.at_copying_ne (Ne.symm other) _ _)

theorem ThreadPc.copied_own (i : Nat) (generation : UInt32) (length : UInt16) (sample : UInt32)
    (k : Nat) (busy : (ThreadPc.copied i generation length sample).at k ≠ .idle) : k = i := by
  by_contra other
  exact busy (ThreadPc.at_copied_ne (Ne.symm other) _ _ _)

theorem TransportThread.Orderly.step (orderly : s.Orderly rule) (took : s.Took rule action t) :
    t.Orderly rule := by
  cases took with
  | @write k store after write present published =>
      refine ⟨?_, fun i busy => (orderly.busy i busy).write present published,
        fun d member => (orderly.sends d member).write present published, orderly.rounds,
        orderly.recent⟩
      intro opened stays
      dsimp only
      rw [List.length_set]
      exact orderly.bounded opened stays
  | refuse at_open => exact orderly
  | leave at_open many => exact orderly.begun (fun _ away => absurd rfl away) (fun _ => rfl) rfl
  | enter at_open few => exact orderly.begun (fun _ _ => few) (fun _ => rfl) rfl
  | close at_rest => exact orderly.go (fun away => absurd rfl away) (fun _ => rfl) nofun
  | sweep at_rest =>
      refine ⟨fun _ _ => orderly.bounded (by rw [at_rest]; exact nofun) (by rw [at_rest]; exact nofun),
        fun i busy => absurd rfl busy, orderly.sends, orderly.rounds, ?_⟩
      intro d member
      obtain ⟨past, -⟩ := orderly.recent d member
      refine ⟨Nat.le_succ_of_le past, ?_⟩
      intro i _ current
      dsimp only at current
      omega
  | finish at_visit =>
      exact orderly.go (fun _ _ => orderly.bounded (by rw [at_visit]; exact nofun)
        (by rw [at_visit]; exact nofun)) (fun _ => rfl) nofun
  | @pass k scratch at_visit inside =>
      refine orderly.go (fun _ _ => orderly.bounded (by rw [at_visit]; exact nofun)
        (by rw [at_visit]; exact nofun)) (fun _ => rfl) ?_
      rintro i ⟨⟩
      exact ⟨k, Nat.le_succ k, by rw [at_visit]; rfl⟩
  | @poll k scratch store at_visit present sends due =>
      refine orderly.stay (orderly.bounded (by rw [at_visit]; exact nofun)
        (by rw [at_visit]; exact nofun)) (by rw [at_visit]; rfl) rfl (ThreadPc.copying_own _ _ _)
        ⟨store, present, sends, ?_⟩
      intro needed unnamed
      exact due (Or.inl ⟨needed, unnamed⟩)
  | @move k generation pc after store buf move at_copy present stepped =>
      have busy : s.pc.at k ≠ .idle := by
        rw [at_copy, ThreadPc.at_copying_self]
        exact nofun
      exact orderly.stay (orderly.bounded (by rw [at_copy]; exact nofun)
        (by rw [at_copy]; exact nofun)) (by rw [at_copy]; rfl) rfl (ThreadPc.copying_own _ _ _)
        (orderly.busy k busy)
  | @fail k generation pc store buf move at_copy present stepped =>
      refine orderly.go (fun _ _ => orderly.bounded (by rw [at_copy]; exact nofun)
        (by rw [at_copy]; exact nofun)) (fun _ => rfl) ?_
      rintro i ⟨⟩
      exact ⟨k, Nat.le_succ k, by rw [at_copy]; rfl⟩
  | @complete k generation pc store length sample buf move at_copy present stepped =>
      have busy : s.pc.at k ≠ .idle := by
        rw [at_copy, ThreadPc.at_copying_self]
        exact nofun
      exact orderly.stay (orderly.bounded (by rw [at_copy]; exact nofun)
        (by rw [at_copy]; exact nofun)) (by rw [at_copy]; rfl) rfl (ThreadPc.copied_own _ _ _ _)
        (orderly.busy k busy)
  | @hand k generation length sample sent at_hand =>
      have busy : s.pc.at k ≠ .idle := by
        rw [at_hand, ThreadPc.at_copied_self]
        exact nofun
      have here : s.pc.reached = some k := by
        rw [at_hand]
        rfl
      refine ⟨fun _ _ => orderly.bounded (by rw [at_hand]; exact nofun)
        (by rw [at_hand]; exact nofun), fun i idle => absurd rfl idle, ?_, ?_, ?_⟩
      · intro d member
        rcases List.mem_append.mp member with before | last
        · exact orderly.sends d before
        · rw [List.mem_singleton.mp last]
          exact orderly.busy k busy
      · refine pairwise_concat orderly.rounds ?_
        intro d member
        obtain ⟨past, order⟩ := orderly.recent d member
        rcases Nat.lt_or_eq_of_le past with before | current
        · exact Or.inl before
        · exact Or.inr ⟨current, order k here current⟩
      · intro d member
        rcases List.mem_append.mp member with before | last
        · obtain ⟨past, order⟩ := orderly.recent d before
          refine ⟨past, ?_⟩
          rintro i ⟨⟩ current
          exact Nat.lt_succ_of_lt (order k here current)
        · rw [List.mem_singleton.mp last]
          refine ⟨Nat.le_refl _, ?_⟩
          rintro i ⟨⟩ -
          exact Nat.lt_succ_self k

end

/-! ## Whole runs -/

theorem Store.fresh_consistent {topic : CsynTopic} (unwritten : topic.Unwritten) :
    (Store.fresh topic).Consistent :=
  ⟨unwritten.generation, nofun, nofun, nofun, trivial⟩

section

variable {rule : ThreadRule} {s : TransportThread} {schedule : List ThreadAction}
  {registry : List CsynTopic}

theorem TransportThread.boot_polls {i : Nat} {topic : CsynTopic}
    (present : registry[i]? = some topic) :
    (TransportThread.boot registry).Polls i (.boot (.fresh topic)) := by
  refine ⟨?_, rfl, rfl, fun busy => absurd rfl busy, rfl⟩
  rw [TransportThread.boot, List.getElem?_map, present]
  rfl

theorem TransportThread.boot_orderly (rule : ThreadRule) (registry : List CsynTopic) :
    (TransportThread.boot registry).Orderly rule :=
  ⟨fun away => absurd rfl away, fun _ busy => absurd rfl busy, nofun, .nil, nofun⟩

end

/-- The application publishes one byte on a topic. -/
def publishing (i : Nat) (byte : UInt8) : List ThreadAction :=
  [.writer i (.call (some [byte])), .writer i (.moveByte 0), .writer i .storeLength,
    .writer i .setGeneration]

/-- The thread looks at a topic, copies its byte and sends it. -/
def sending : List ThreadAction :=
  [.visit fun _ => 0, .copy .readGeneration, .copy .readLength, .copy (.moveByte 0),
    .copy .rereadGeneration, .hand true]

/-- Two topics for sending around one for receiving. -/
def oneSweep : List ThreadAction :=
  publishing 0 1 ++ publishing 2 2 ++ [.start true, .next false] ++ sending ++
    [.visit fun _ => 0] ++ sending

def sweptTopics : List TopicDeclaration :=
  [⟨str "vehicle_command", .tx, 40⟩, ⟨str "mission", .rx, 2⟩, ⟨str "att", .tx, 2⟩]

def sweptCatalog (key : Str) : Option SynapseTopicInfo :=
  [attitudeInfo, { attitudeInfo with
    id := 9
    name := str "MissionProgress"
    key := str "mission" }].find? fun info => info.key == key

end Csyn
