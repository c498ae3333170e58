import Csyn.Lib.Counter
import Csyn.Lib.Spans
import Csyn.ShellWatch
import Csyn.StoreHistory

set_option autoImplicit false

/- The rates that `topic hz` prints. A rate covers the samples from the reading recorded in the watch
to a new one, which is recorded only if the watch still measures the topic. -/
namespace Csyn

open Spans

/-- The two readings behind a rate printed for a topic. -/
def WatchLine.rate? (topic : Nat) (line : WatchLine) : Option (UInt32 × UInt32) :=
  if line.watch.topic = some topic then
    match line.content with
    | .rate first last _ _ => some (first, last)
    | _ => none
  else none

/-- The rates printed for a topic, as spans of its samples, oldest first. -/
def ratesOf (topic : Nat) (lines : List WatchLine) : List Span :=
  (lines.filterMap (WatchLine.rate? topic)).map fun rate => ⟨rate.1.toNat, rate.2.toNat⟩

/-- `(unsigned int)(generation_now - watch.last_generation)` of each of these lines. -/
def printedCounts (topic : Nat) (lines : List WatchLine) : List UInt32 :=
  (lines.filterMap (WatchLine.rate? topic)).map fun rate => rate.2 - rate.1

/-- A reading of the generation, not before the end of any of the spans. -/
structure Reading (spans : List Span) (now : Nat) (generation : UInt32) : Prop where
  after : ∀ span ∈ spans, span.last ≤ generation.toNat
  past : generation.toNat ≤ now

/-- The thread waits to measure a rate. -/
def WatchPc.waitsForRate : WatchPc → Bool
  | .measuring _ => true
  | .rereading => true
  | _ => false

/-- The thread has printed a rate of the topic and not yet recorded its reading. -/
def WatchPc.records (topic : Nat) : WatchPc → Bool
  | .recording watch _ _ => watch.topic == some topic
  | _ => false

/-- The readings that the thread holds for the topic. -/
def WatchPc.Holds (topic : Nat) (spans : List Span) (now : Nat) : WatchPc → Prop
  | .counting watch => watch.topic = some topic → Reading spans now watch.lastGeneration
  | .timing watch generationNow => watch.topic = some topic →
      Reading spans now watch.lastGeneration ∧
        watch.lastGeneration.toNat ≤ generationNow.toNat ∧ generationNow.toNat ≤ now
  | .reporting watch generationNow _ => watch.topic = some topic →
      Reading spans now watch.lastGeneration ∧
        watch.lastGeneration.toNat ≤ generationNow.toNat ∧ generationNow.toNat ≤ now
  | .recording watch generationNow _ => watch.topic = some topic →
      Reading spans now generationNow
  | _ => True

/-- The rates of a topic so far, and the readings the next one may start from. -/
structure WatchSystem.Tallied (topic : Nat) (s : WatchSystem) : Prop where
  counted : ∃ entry, s.registry[topic]? = some entry ∧
    entry.generation = UInt32.ofNat (s.published topic)
  ordered : Ordered (ratesOf topic s.lines) (s.published topic)
  watched : s.gCsynWatch.active = true → s.gCsynWatch.topic = some topic →
    (s.pc.waitsForRate = true ∨ s.gCsynWatch.mode = .hz ∧ s.pc.records topic = false) →
    Reading (ratesOf topic s.lines) (s.published topic) s.gCsynWatch.lastGeneration
  held : s.pc.Holds topic (ratesOf topic s.lines) (s.published topic)

section

variable {config : Kconfig} {s t : WatchSystem} {action : WatchAction} {topic : Nat}

theorem Reading.mono {spans : List Span} {now later : Nat} {generation : UInt32}
    (reading : Reading spans now generation) (passed : now ≤ later) :
    Reading spans later generation :=
  ⟨reading.after, Nat.le_trans reading.past passed⟩

theorem WatchPc.Holds.mono {pc : WatchPc} {spans : List Span} {now later : Nat}
    (holds : pc.Holds topic spans now) (passed : now ≤ later) : pc.Holds topic spans later := by
  cases pc with
  | counting watch => exact fun on => (holds on).mono passed
  | timing watch generationNow =>
      exact fun on => ⟨(holds on).1.mono passed, (holds on).2.1,
        Nat.le_trans (holds on).2.2 passed⟩
  | reporting watch generationNow nowMs =>
      exact fun on => ⟨(holds on).1.mono passed, (holds on).2.1,
        Nat.le_trans (holds on).2.2 passed⟩
  | recording watch generationNow nowMs => exact fun on => (holds on).mono passed
  | _ => trivial

/-- A topic counts its accepted samples. -/
theorem publishAt_counted {registry : List CsynTopic} {entry published : CsynTopic} {at_ n : Nat}
    (buf : Option (List UInt8)) (present : registry[at_]? = some published)
    (here : registry[topic]? = some entry) (counted : entry.generation = UInt32.ofNat n) :
    ∃ after, (publishAt registry at_ buf)[topic]? = some after ∧
      after.generation = UInt32.ofNat
        (n + if topic = at_ ∧ (csynTopicPublish published buf).1 = true then 1 else 0) := by
  by_cases same : topic = at_
  · subst same
    rw [present, Option.some.injEq] at here
    subst here
    refine ⟨_, publishAt_self present, ?_⟩
    cases fits : published.accepts buf with
    | false =>
        rw [csynTopicPublish_rejected fits]
        simpa using counted
    | true =>
        cases buf with
        | none => cases fits
        | some bytes =>
            rw [csynTopicPublish_accepted fits]
            simp only [true_and, if_true, counted, Counter.next]
  · exact ⟨entry, by rw [publishAt_other buf (Ne.symm same)]; exact here, by simpa [same] using counted⟩

/-- A step of the thread that prints no rate and changes no reading. -/
theorem WatchSystem.Tallied.move (tallied : s.Tallied topic) (registry : t.registry = s.registry)
    (published : t.published = s.published)
    (lines : ratesOf topic t.lines = ratesOf topic s.lines) (watch : t.gCsynWatch = s.gCsynWatch)
    (measured : t.pc.waitsForRate = true ∨ s.gCsynWatch.mode = .hz ∧ t.pc.records topic = false →
      s.pc.waitsForRate = true ∨ s.gCsynWatch.mode = .hz ∧ s.pc.records topic = false)
    (holds : t.pc.Holds topic (ratesOf topic s.lines) (s.published topic)) : t.Tallied topic := by
  constructor
  · rw [registry, published]
    exact tallied.counted
  · rw [lines, published]
    exact tallied.ordered
  · rw [watch, lines, published]
    exact fun active on measures => tallied.watched active on (measured measures)
  · rw [lines, published]
    exact holds

/-- A step of the thread away from where it does not record, other than to wait for a rate. -/
theorem WatchSystem.Tallied.settle (tallied : s.Tallied topic)
    (registry : t.registry = s.registry) (published : t.published = s.published)
    (lines : ratesOf topic t.lines = ratesOf topic s.lines) (watch : t.gCsynWatch = s.gCsynWatch)
    (idle : s.pc.records topic = false) (awake : t.pc.waitsForRate = false)
    (holds : t.pc.Holds topic (ratesOf topic s.lines) (s.published topic)) : t.Tallied topic := by
  refine tallied.move registry published lines watch ?_ holds
  rintro (waits | ⟨rates, -⟩)
  · rw [awake] at waits
    cases waits
  · exact Or.inr ⟨rates, idle⟩

theorem WatchPc.records_of_waits {pc : WatchPc} (waits : pc.waits = true) :
    pc.records topic = false := by
  cases pc with
  | recording watch generationNow nowMs => cases waits
  | _ => rfl

theorem WatchSystem.Tallied.publish {at_ : Nat} {entry : CsynTopic} {buf : Option (List UInt8)}
    (tallied : s.Tallied topic) (present : s.registry[at_]? = some entry)
    (registry : t.registry = publishAt s.registry at_ buf)
    (published : t.published = Function.update s.published at_
      (s.published at_ + if (csynTopicPublish entry buf).1 then 1 else 0))
    (lines : t.lines = s.lines) (watch : t.gCsynWatch = s.gCsynWatch) (pc : t.pc = s.pc) :
    t.Tallied topic := by
  obtain ⟨here, found, counted⟩ := tallied.counted
  have count : t.published topic = s.published topic +
      if topic = at_ ∧ (csynTopicPublish entry buf).1 = true then 1 else 0 := by
    rw [published]
    by_cases same : topic = at_
    · subst same
      simp
    · simp [same]
  have passed : s.published topic ≤ t.published topic := by omega
  constructor
  · rw [registry, count]
    exact publishAt_counted buf present found counted
  · rw [lines]
    exact tallied.ordered.mono passed
  · rw [watch, lines, pc]
    exact fun active on measures => (tallied.watched active on measures).mono passed
  · rw [lines, pc]
    exact tallied.held.mono passed

/-- The generation of the topic is a reading of its count. -/
theorem WatchSystem.Tallied.reading (tallied : s.Tallied topic)
    (few : s.published topic < 2 ^ 32) {entry : CsynTopic}
    (present : s.registry[topic]? = some entry) :
    entry.generation.toNat = s.published topic := by
  obtain ⟨here, found, counted⟩ := tallied.counted
  rw [present, Option.some.injEq] at found
  rw [found, counted, Counter.toNat_of_lt few]

theorem ratesOf_concat (lines : List WatchLine) (line : WatchLine) :
    ratesOf topic (lines ++ [line]) = ratesOf topic lines ++
      ((line.rate? topic).map fun rate => (⟨rate.1.toNat, rate.2.toNat⟩ : Span)).toList := by
  rw [ratesOf, List.filterMap_append, List.map_append]
  cases found : line.rate? topic with
  | none => rw [List.filterMap_cons_none found]; rfl
  | some rate => rw [List.filterMap_cons_some found]; rfl

/-- Printing what was copied is no rate. -/
theorem rate?_renderCopy (watch : CsynWatch) (buf : ByteMemory)
    (sample : Option (List UInt8 × UInt32)) :
    WatchLine.rate? topic ⟨watch, renderCopy buf sample⟩ = none := by
  unfold WatchLine.rate?
  split
  · cases sample <;> rfl
  · rfl

theorem WatchSystem.Tallied.report {watch : CsynWatch} {generationNow : UInt32} {nowMs : Int}
    (tallied : s.Tallied topic) (at_report : s.pc = .reporting watch generationNow nowMs)
    (registry : t.registry = s.registry) (published : t.published = s.published)
    (lines : t.lines = s.lines ++
      [⟨watch, .rate watch.lastGeneration generationNow watch.lastMs nowMs⟩])
    (same : t.gCsynWatch = s.gCsynWatch) (pc : t.pc = .recording watch generationNow nowMs) :
    t.Tallied topic := by
  have held := tallied.held
  rw [at_report] at held
  by_cases on : watch.topic = some topic
  · obtain ⟨reading, forward, past⟩ := held on
    have grown : ratesOf topic t.lines = ratesOf topic s.lines ++
        [⟨watch.lastGeneration.toNat, generationNow.toNat⟩] := by
      rw [lines, ratesOf_concat]
      congr 1
      simp [WatchLine.rate?, on]
    constructor
    · rw [registry, published]
      exact tallied.counted
    · rw [grown, published]
      exact tallied.ordered.concat reading.after forward past
    · rw [pc]
      rintro - - (waits | ⟨-, records⟩)
      · cases waits
      · simp [WatchPc.records, on] at records
    · rw [grown, published, pc]
      intro _
      refine ⟨?_, past⟩
      intro span member
      rcases List.mem_append.mp member with earlier | last
      · exact Nat.le_trans (reading.after span earlier) forward
      · exact List.mem_singleton.mp last ▸ Nat.le_refl _
  · have kept : ratesOf topic t.lines = ratesOf topic s.lines := by
      rw [lines, ratesOf_concat]
      simp [WatchLine.rate?, on]
    apply tallied.settle registry published kept same
    · rw [at_report]
      rfl
    · rw [pc]
      rfl
    · rw [pc]
      exact fun here => absurd here on

theorem WatchSystem.Tallied.step (tallied : s.Tallied topic) (few : t.published topic < 2 ^ 32)
    (took : s.Took config action t) : t.Tallied topic := by
  cases took with
  | publish present => exact tallied.publish present rfl rfl rfl rfl rfl
  | tick => exact tallied.move rfl rfl rfl rfl id tallied.held
  | @start sh at_ mode periodMs entry present some_mode =>
      refine ⟨tallied.counted, tallied.ordered, ?_, tallied.held⟩
      intro _ on _
      obtain rfl := Option.some.inj on
      have count := tallied.reading few present
      constructor
      · intro span member
        rw [count]
        exact tallied.ordered.past span member
      · exact Nat.le_of_eq count
  | copyOnce => exact tallied.move rfl rfl rfl rfl id tallied.held
  | stop => exact ⟨tallied.counted, tallied.ordered, nofun, tallied.held⟩
  | give pending => exact tallied.move rfl rfl rfl rfl id tallied.held
  | take given waits =>
      exact tallied.settle rfl rfl rfl rfl (WatchPc.records_of_waits waits) rfl trivial
  | waited at_wait =>
      exact tallied.settle rfl rfl rfl rfl (by rw [at_wait]; rfl) rfl trivial
  | measured at_wait =>
      exact tallied.move rfl rfl rfl rfl (fun _ => Or.inl (by rw [at_wait]; rfl)) trivial
  | readIdle at_read idle =>
      exact tallied.settle rfl rfl rfl rfl (by rw [at_read]; rfl) rfl trivial
  | readPrint at_read live prints =>
      exact tallied.settle rfl rfl rfl rfl (by rw [at_read]; rfl) rfl trivial
  | readRate at_read live rates =>
      exact tallied.move rfl rfl rfl rfl (fun _ => Or.inr ⟨rates, by rw [at_read]; rfl⟩) trivial
  | copy at_copy =>
      exact tallied.settle rfl rfl rfl rfl (by rw [at_copy]; rfl) rfl trivial
  | render at_render =>
      refine tallied.settle rfl rfl ?_ rfl (by rw [at_render]; rfl) rfl trivial
      rw [ratesOf_concat, rate?_renderCopy, Option.map_none, Option.toList_none, List.append_nil]
  | rereadIdle at_read idle =>
      exact tallied.settle rfl rfl rfl rfl (by rw [at_read]; rfl) rfl trivial
  | reread at_read live =>
      refine tallied.settle rfl rfl rfl rfl (by rw [at_read]; rfl) rfl ?_
      intro on
      rw [CsynWatch.live, Bool.and_eq_true, Bool.and_eq_true] at live
      exact tallied.watched live.1.1 on (Or.inl (by rw [at_read]; rfl))
  | @count watch at_count =>
      have held := tallied.held
      rw [at_count] at held
      refine tallied.settle rfl rfl rfl rfl (by rw [at_count]; rfl) rfl ?_
      intro on
      obtain ⟨entry, present, -⟩ := tallied.counted
      have now : (csynTopicGeneration (watch.topic.bind fun topic => s.registry[topic]?)).toNat =
          s.published topic := by
        rw [on, Option.bind_some, present]
        exact tallied.reading few present
      rw [now]
      exact ⟨held on, (held on).past, Nat.le_refl _⟩
  | time at_time =>
      have held := tallied.held
      rw [at_time] at held
      exact tallied.settle rfl rfl rfl rfl (by rw [at_time]; rfl) rfl held
  | report at_report => exact tallied.report at_report rfl rfl rfl rfl rfl
  | @record watch generationNow nowMs at_record still =>
      have held := tallied.held
      rw [at_record] at held
      refine ⟨tallied.counted, tallied.ordered, ?_, trivial⟩
      intro _ on _
      simp only [CsynWatch.stillMeasures, Bool.and_eq_true, beq_iff_eq] at still
      exact held (still.2 ▸ on)
  | @skip watch generationNow nowMs at_record gone =>
      refine ⟨tallied.counted, tallied.ordered, ?_, trivial⟩
      rintro active on (waits | ⟨rates, -⟩)
      · cases waits
      · apply tallied.watched active on (Or.inr ⟨rates, ?_⟩)
        rw [at_record, WatchPc.records, beq_eq_false_iff_ne]
        intro here
        simp only [CsynWatch.stillMeasures, here, Bool.and_eq_false_iff, beq_eq_false_iff_ne] at gone
        rcases gone with (inactive | other_mode) | elsewhere
        · exact Bool.false_ne_true (inactive.symm.trans active)
        · exact other_mode rates
        · exact elsewhere on

/-! The windows. -/

/-- No window is empty, printed or about to be. -/
structure WatchSystem.Timed (s : WatchSystem) : Prop where
  held : ∀ watch generationNow nowMs, s.pc = .reporting watch generationNow nowMs →
    watch.lastMs < nowMs
  printed : ∀ line ∈ s.lines, ∀ first last sinceMs untilMs,
    line.content = .rate first last sinceMs untilMs → sinceMs < untilMs

theorem CsynWatch.lt_later (watch : CsynWatch) (nowMs : Int) : watch.lastMs < watch.later nowMs := by
  unfold CsynWatch.later
  split <;> omega

theorem WatchSystem.Timed.line {line : WatchLine} (timed : s.Timed)
    (lines : t.lines = s.lines ++ [line]) (idle : ∀ watch generationNow nowMs,
      t.pc ≠ .reporting watch generationNow nowMs)
    (window : ∀ first last sinceMs untilMs,
      line.content = .rate first last sinceMs untilMs → sinceMs < untilMs) : t.Timed := by
  constructor
  · exact fun watch generationNow nowMs here => absurd here (idle watch generationNow nowMs)
  · rw [lines]
    intro other member
    rcases List.mem_append.mp member with earlier | last
    · exact timed.printed other earlier
    · exact List.mem_singleton.mp last ▸ window

theorem WatchSystem.Timed.step (timed : s.Timed) (took : s.Took config action t) : t.Timed := by
  cases took with
  | publish present => exact ⟨timed.held, timed.printed⟩
  | tick => exact ⟨timed.held, timed.printed⟩
  | start present some_mode => exact ⟨timed.held, timed.printed⟩
  | copyOnce => exact ⟨timed.held, timed.printed⟩
  | stop => exact ⟨timed.held, timed.printed⟩
  | give pending => exact ⟨timed.held, timed.printed⟩
  | render at_render =>
      refine timed.line rfl nofun ?_
      intro first last sinceMs untilMs shown
      rename_i watch sample
      cases sample <;> cases shown
  | time at_time =>
      refine ⟨?_, timed.printed⟩
      intro watch generationNow nowMs here
      cases here
      exact CsynWatch.lt_later _ _
  | report at_report =>
      refine timed.line rfl nofun ?_
      intro first last sinceMs untilMs shown
      cases shown
      exact timed.held _ _ _ at_report
  | _ => exact ⟨nofun, timed.printed⟩

theorem WatchSystem.step_published_le (took : s.Took config action t) :
    s.published topic ≤ t.published topic := by
  cases took with
  | @publish at_ entry buf present =>
      show s.published topic ≤ Function.update s.published at_ _ topic
      by_cases same : topic = at_
      · subst same
        rw [Function.update_self]
        exact Nat.le_add_right _ _
      · exact Nat.le_of_eq (Function.update_of_ne same _ _).symm
  | _ => exact Nat.le_refl _

end

/-- The counts that are printed are the lengths of the spans. -/
theorem printedCounts_eq {topic : Nat} {lines : List WatchLine}
    (forward : ∀ span ∈ ratesOf topic lines, span.first ≤ span.last) :
    (printedCounts topic lines).map UInt32.toNat = (ratesOf topic lines).map Span.length := by
  unfold printedCounts ratesOf at *
  rw [List.map_map, List.map_map]
  apply List.map_congr_left
  intro rate member
  exact UInt32.toNat_sub_of_le _ _
    (UInt32.le_iff_toNat_le.mpr (forward _ (List.mem_map_of_mem member)))

/-- No sample is counted by two of the rates printed for a topic, whatever commands come in
between: the counts add up to no more than was published. Every window is at least a millisecond. -/
theorem rates_count_once (config : Kconfig) (registry : List CsynTopic) (scratch : ByteMemory)
    (topic : Nat) (entry : CsynTopic) (actions : List WatchAction) (s : WatchSystem)
    (present : registry[topic]? = some entry) (unwritten : entry.generation = 0)
    (reached : Automaton.run (WatchSystem.step config) (.boot registry scratch) actions = some s)
    (few : s.published topic < 2 ^ 32) :
    (∀ sample, (ratesOf topic s.lines).countP (fun span => span.contains sample) ≤ 1) ∧
      (printedCounts topic s.lines).map UInt32.toNat = (ratesOf topic s.lines).map Span.length ∧
      ((printedCounts topic s.lines).map UInt32.toNat).sum ≤ s.published topic ∧
      ∀ line ∈ s.lines, ∀ first last sinceMs untilMs,
        line.content = .rate first last sinceMs untilMs → sinceMs < untilMs := by
  have grow : ∀ s a t, WatchSystem.step config s a = some t →
      s.published topic ≤ t.published topic :=
    fun s a t taken => WatchSystem.step_published_le (WatchSystem.step_took taken)
  have tallied : s.Tallied topic := by
    apply Automaton.run_invariant_bounded grow _ reached _ few
    · exact fun s a t taken small before => before.step small (WatchSystem.step_took taken)
    · refine ⟨⟨entry, present, unwritten⟩, ordered_nil _, nofun, trivial⟩
  have timed : s.Timed :=
    Automaton.run_invariant (fun s a t taken before => before.step (WatchSystem.step_took taken))
      reached ⟨nofun, nofun⟩
  have counts := printedCounts_eq tallied.ordered.forward
  refine ⟨tallied.ordered.countP_contains_le_one, counts, ?_, timed.printed⟩
  rw [counts]
  exact tallied.ordered.sum_length_le

/-- One topic, written twice while it is measured, and the measurement is restarted before its
rate is recorded. -/
def rateRegistry : List CsynTopic := [csynTopicDefine (str "att") .tx 8]

def restartedRate : List WatchAction :=
  [.command 0 (.start 0 .hz 1000), .give, .take, .next, .publish 0 (some [1]), .publish 0 (some [2]),
    .timeout, .next, .next, .next, .next, .command 0 (.start 0 .hz 1000), .publish 0 (some [3]),
    .next, .give, .next, .take, .next, .timeout, .next, .next, .next, .next]

theorem rates_count_once_restarted :
    ∃ s, Automaton.run (WatchSystem.step .default) (.boot rateRegistry fun _ => 0) restartedRate =
        some s ∧
      printedCounts 0 s.lines = [2, 1] ∧ s.published 0 = 3 ∧
      ((printedCounts 0 s.lines).map UInt32.toNat).sum ≤ s.published 0 :=
  ⟨_, rfl, rfl, rfl, (rates_count_once .default rateRegistry (fun _ => 0) 0 _ restartedRate _ rfl
    rfl rfl (by decide)).2.2.1⟩

end Csyn
