import Csyn.ShellWatch
import Mathlib.Data.List.Induction

set_option autoImplicit false

/- How the watch thread follows the shell: no command goes unheard, every report was asked for, and
what the thread still reports for an earlier command. -/
namespace Csyn

/-- The part of a watch that a command sets and the thread only reads. -/
def CsynWatch.request (watch : CsynWatch) :
    Option Nat × Option Nat × CsynWatchMode × UInt32 × Bool :=
  (watch.sh, watch.topic, watch.mode, watch.periodMs, watch.active)

/-- The copy the thread works with. -/
def WatchPc.watch? : WatchPc → Option CsynWatch
  | .blocked => none
  | .reading => none
  | .copying watch => some watch
  | .rendering watch _ => some watch
  | .waiting watch => some watch
  | .measuring watch => some watch
  | .rereading => none
  | .counting watch => some watch
  | .timing watch _ => some watch
  | .reporting watch _ _ => some watch
  | .recording watch _ _ => some watch

/-- The thread is on what the last command asked for: it only blocks while nothing is watched, and
a copy it works with is of the current request. -/
structure WatchSystem.Attends (s : WatchSystem) : Prop where
  blocked : s.pc = .blocked → s.gCsynWatch.live = false
  working : ∀ watch, s.pc.watch? = some watch → watch.request = s.gCsynWatch.request

/-- A wake-up is outstanding, or the thread is on the last command. -/
structure WatchSystem.Heard (s : WatchSystem) : Prop where
  outstanding : s.gCsynWatchSem = true ∨ s.gives ≠ 0 ∨ s.Attends
  some_mode : s.gCsynWatch.live = true → s.gCsynWatch.mode ≠ .none
  working_live : ∀ watch, s.pc.watch? = some watch → watch.live = true

section

variable {config : Kconfig} {s t : WatchSystem} {action : WatchAction}

theorem CsynWatch.live_of_request {watch other : CsynWatch}
    (same : watch.request = other.request) : watch.live = other.live := by
  simp only [CsynWatch.request, Prod.mk.injEq] at same
  obtain ⟨sh, topic, -, -, active⟩ := same
  rw [CsynWatch.live, CsynWatch.live, sh, topic, active]

theorem WatchPc.watch?_of_blocked {pc : WatchPc} (at_wait : pc = .blocked) :
    pc.watch? = none := by
  rw [at_wait]
  rfl

/-- A step of anyone else than the thread that keeps the request and the wake-ups. -/
theorem WatchSystem.Heard.frame (heard : s.Heard) (pc : t.pc = s.pc)
    (watch : t.gCsynWatch = s.gCsynWatch) (sem : t.gCsynWatchSem = s.gCsynWatchSem)
    (gives : t.gives = s.gives) : t.Heard := by
  constructor
  · rw [sem, gives]
    refine heard.outstanding.imp_right fun rest => rest.imp_right fun attends => ?_
    constructor
    · rw [pc, watch]
      exact attends.blocked
    · rw [pc, watch]
      exact attends.working
  · rw [watch]
    exact heard.some_mode
  · rw [pc]
    exact heard.working_live

/-- A step of the thread from one piece of its work to the next. -/
theorem WatchSystem.Heard.work {watch : CsynWatch} (heard : s.Heard)
    (before : s.pc.watch? = some watch) (after : t.pc.watch? = some watch)
    (same : t.gCsynWatch = s.gCsynWatch) (sem : t.gCsynWatchSem = s.gCsynWatchSem)
    (gives : t.gives = s.gives) : t.Heard := by
  constructor
  · rw [sem, gives]
    refine heard.outstanding.imp_right fun rest => rest.imp_right fun attends => ?_
    constructor
    · intro blocked
      rw [WatchPc.watch?_of_blocked blocked] at after
      cases after
    · intro other working
      rw [after] at working
      rw [same, ← attends.working watch before, Option.some.inj working]
  · rw [same]
    exact heard.some_mode
  · intro other working
    rw [after] at working
    exact Option.some.inj working ▸ heard.working_live watch before

/-- The thread goes back to read the watch: it is on no command, so on none that is over. -/
theorem WatchSystem.Heard.release (heard : s.Heard) (free : t.pc.watch? = none)
    (awake : t.pc ≠ .blocked) (same : t.gCsynWatch.request = s.gCsynWatch.request) :
    t.Heard := by
  constructor
  · refine Or.inr (Or.inr ⟨fun blocked => absurd blocked awake, ?_⟩)
    intro watch working
    rw [free] at working
    cases working
  · intro live
    rw [CsynWatch.live_of_request same] at live
    simp only [CsynWatch.request, Prod.mk.injEq] at same
    rw [same.2.2.1]
    exact heard.some_mode live
  · intro watch working
    rw [free] at working
    cases working

/-- The thread has just read the watch. -/
theorem WatchSystem.Heard.fresh (heard : s.Heard) (same : t.gCsynWatch = s.gCsynWatch)
    (attends : t.pc.watch? = some s.gCsynWatch ∧ s.gCsynWatch.live = true ∨
      t.pc = .blocked ∧ s.gCsynWatch.live = false) : t.Heard := by
  constructor
  · refine Or.inr (Or.inr ?_)
    rcases attends with ⟨working, live⟩ | ⟨blocked, idle⟩
    · constructor
      · intro blocked
        rw [WatchPc.watch?_of_blocked blocked] at working
        cases working
      · intro watch copied
        rw [working] at copied
        rw [same, Option.some.inj copied]
    · constructor
      · intro _
        rw [same]
        exact idle
      · intro watch working
        rw [WatchPc.watch?_of_blocked blocked] at working
        cases working
  · rw [same]
    exact heard.some_mode
  · intro watch working
    rcases attends with ⟨copied, live⟩ | ⟨blocked, -⟩
    · rw [copied] at working
      exact Option.some.inj working ▸ live
    · rw [WatchPc.watch?_of_blocked blocked] at working
      cases working

theorem WatchSystem.Heard.step (heard : s.Heard) (took : s.Took config action t) : t.Heard := by
  cases took with
  | publish present => exact heard.frame rfl rfl rfl rfl
  | tick => exact heard.frame rfl rfl rfl rfl
  | start present some_mode =>
      exact ⟨Or.inr (Or.inl (Nat.succ_ne_zero _)), fun _ => some_mode, heard.working_live⟩
  | copyOnce => exact heard.frame rfl rfl rfl rfl
  | stop => exact ⟨Or.inr (Or.inl (Nat.succ_ne_zero _)), nofun, heard.working_live⟩
  | give pending => exact ⟨Or.inl rfl, heard.some_mode, heard.working_live⟩
  | take given waits => exact heard.release rfl nofun rfl
  | waited at_wait => exact heard.release rfl nofun rfl
  | measured at_wait => exact heard.release rfl nofun rfl
  | readIdle at_read idle =>
      refine heard.fresh rfl (Or.inr ⟨rfl, ?_⟩)
      rcases idle with idle | no_mode
      · exact idle
      · by_contra live
        exact heard.some_mode (by simpa using live) no_mode
  | readPrint at_read live prints => exact heard.fresh rfl (Or.inl ⟨rfl, live⟩)
  | readRate at_read live rates => exact heard.fresh rfl (Or.inl ⟨rfl, live⟩)
  | copy at_copy => exact heard.work (by rw [at_copy]; rfl) rfl rfl rfl rfl
  | render at_render => exact heard.work (by rw [at_render]; rfl) rfl rfl rfl rfl
  | rereadIdle at_read idle => exact heard.fresh rfl (Or.inr ⟨rfl, idle⟩)
  | reread at_read live => exact heard.fresh rfl (Or.inl ⟨rfl, live⟩)
  | count at_count => exact heard.work (by rw [at_count]; rfl) rfl rfl rfl rfl
  | time at_time => exact heard.work (by rw [at_time]; rfl) rfl rfl rfl rfl
  | report at_report => exact heard.work (by rw [at_report]; rfl) rfl rfl rfl rfl
  | record at_record still => exact heard.release rfl nofun rfl
  | skip at_record gone => exact heard.release rfl nofun rfl

end

theorem WatchSystem.boot_heard (registry : List CsynTopic) (scratch : ByteMemory) :
    (WatchSystem.boot registry scratch).Heard := by
  constructor
  · exact Or.inr (Or.inr ⟨fun _ => rfl, nofun⟩)
  · nofun
  · nofun

theorem WatchSystem.run_heard {config : Kconfig} {registry : List CsynTopic}
    {scratch : ByteMemory} {actions : List WatchAction} {s : WatchSystem}
    (reached : Automaton.run (WatchSystem.step config) (.boot registry scratch) actions = some s) :
    s.Heard :=
  Automaton.run_invariant (fun _ _ _ taken heard => heard.step (WatchSystem.step_took taken))
    reached (WatchSystem.boot_heard registry scratch)

/-! What was asked for. -/

/-- After these actions the watch is one that a start command set, in a mode that is allowed after
the actions before that. -/
def CsynWatch.AskedIn (allowed : CsynWatchMode → List WatchAction → Prop)
    (done : List WatchAction) (watch : CsynWatch) : Prop :=
  ∃ before sh topic mode periodMs after,
    done = before ++ .command sh (.start topic mode periodMs) :: after ∧
    watch.request = (some sh, some topic, mode, periodMs, true) ∧ allowed mode before

/-- A rate was asked for. -/
def HzAsked (done : List WatchAction) : Prop :=
  ∃ sh topic periodMs, .command sh (.start topic .hz periodMs) ∈ done

/-- The commands that a report answers. A sample is of an echo or a status. A rate is of a rate, or
of what was asked for in its place while it was measured. -/
def WatchContent.Answers : WatchContent → CsynWatchMode → List WatchAction → Prop
  | .rate _ _ _ _, mode, before => mode = .hz ∨ HzAsked before
  | _, mode, _ => mode = .echo ∨ mode = .line

/-- The thread waits to measure a rate, or has just done so. -/
def WatchPc.measures : WatchPc → Bool
  | .measuring _ => true
  | .rereading => true
  | _ => false

/-- The watch that a rate is about to be printed of. -/
def WatchPc.rated? : WatchPc → Option CsynWatch
  | .counting watch => some watch
  | .timing watch _ => some watch
  | .reporting watch _ _ => some watch
  | _ => none

/-- The thread copies and renders for an echo or a status only. -/
def WatchPc.Renders : WatchPc → Prop
  | .copying watch => watch.mode = .echo ∨ watch.mode = .line
  | .rendering watch _ => watch.mode = .echo ∨ watch.mode = .line
  | _ => True

/-- Everything in the hands of the thread, and everything it printed, was asked for. -/
structure WatchSystem.Asked (done : List WatchAction) (s : WatchSystem) : Prop where
  current : s.gCsynWatch.live = true → s.gCsynWatch.AskedIn (fun _ _ => True) done
  working : ∀ watch, s.pc.watch? = some watch → watch.AskedIn (fun _ _ => True) done
  renders : s.pc.Renders
  measures : s.pc.measures = true → HzAsked done ∧
    (s.gCsynWatch.live = true →
      s.gCsynWatch.AskedIn (fun mode before => mode = .hz ∨ HzAsked before) done)
  rated : ∀ watch, s.pc.rated? = some watch →
    watch.AskedIn (fun mode before => mode = .hz ∨ HzAsked before) done
  lines : ∀ line ∈ s.lines, line.watch.AskedIn line.content.Answers done

section

variable {config : Kconfig} {s t : WatchSystem} {action : WatchAction} {done : List WatchAction}
  {watch other : CsynWatch} {allowed : CsynWatchMode → List WatchAction → Prop}

theorem HzAsked.later (asked : HzAsked done) (action : WatchAction) :
    HzAsked (done ++ [action]) := by
  obtain ⟨sh, topic, periodMs, member⟩ := asked
  exact ⟨sh, topic, periodMs, List.mem_append_left _ member⟩

theorem CsynWatch.AskedIn.later (asked : watch.AskedIn allowed done) (action : WatchAction) :
    watch.AskedIn allowed (done ++ [action]) := by
  obtain ⟨before, sh, topic, mode, periodMs, after, rfl, same, allows⟩ := asked
  refine ⟨before, sh, topic, mode, periodMs, after ++ [action], ?_, same, allows⟩
  rw [List.append_assoc, List.cons_append]

theorem CsynWatch.AskedIn.congr (asked : watch.AskedIn allowed done)
    (same : other.request = watch.request) : other.AskedIn allowed done := by
  obtain ⟨before, sh, topic, mode, periodMs, after, split, own, allows⟩ := asked
  exact ⟨before, sh, topic, mode, periodMs, after, split, same.trans own, allows⟩

/-- What is known of the mode of a watch holds of the command that asked for it. -/
theorem CsynWatch.AskedIn.inMode (asked : watch.AskedIn (fun _ _ => True) done)
    (allows : ∀ before, allowed watch.mode before) : watch.AskedIn allowed done := by
  obtain ⟨before, sh, topic, mode, periodMs, after, split, same, -⟩ := asked
  have own : watch.mode = mode := by
    simp only [CsynWatch.request, Prod.mk.injEq] at same
    exact same.2.2.1
  exact ⟨before, sh, topic, mode, periodMs, after, split, same, own ▸ allows before⟩

/-- A watch in the mode of a rate shows that a rate was asked for. -/
theorem CsynWatch.AskedIn.hzAsked (asked : watch.AskedIn (fun _ _ => True) done)
    (rates : watch.mode = .hz) : HzAsked done := by
  obtain ⟨before, sh, topic, mode, periodMs, after, rfl, same, -⟩ := asked
  simp only [CsynWatch.request, Prod.mk.injEq] at same
  obtain rfl : .hz = mode := rates.symm.trans same.2.2.1
  exact ⟨sh, topic, periodMs, List.mem_append_right _ List.mem_cons_self⟩

/-- What was asked for stays so after one more action. -/
theorem WatchSystem.Asked.later (asked : s.Asked done) (action : WatchAction) :
    s.Asked (done ++ [action]) := by
  refine ⟨fun live => (asked.current live).later action,
    fun watch working => (asked.working watch working).later action, asked.renders, ?_,
    fun watch rated => (asked.rated watch rated).later action,
    fun line member => (asked.lines line member).later action⟩
  intro measures
  obtain ⟨hz, current⟩ := asked.measures measures
  exact ⟨hz.later action, fun live => (current live).later action⟩

/-- A step that leaves the watch, the thread and the reports alone. -/
theorem WatchSystem.Asked.frame (asked : s.Asked done) (watch : t.gCsynWatch = s.gCsynWatch)
    (pc : t.pc = s.pc) (lines : t.lines = s.lines) : t.Asked done := by
  constructor
  · rw [watch]
    exact asked.current
  · rw [pc]
    exact asked.working
  · rw [pc]
    exact asked.renders
  · rw [watch, pc]
    exact asked.measures
  · rw [pc]
    exact asked.rated
  · rw [lines]
    exact asked.lines

/-- The thread goes on with the rate it is about to report. -/
theorem WatchSystem.Asked.rating (asked : s.Asked done) {pc : WatchPc}
    (working : s.pc.watch? = some watch) (rated : s.pc.rated? = some watch)
    (still : pc.watch? = some watch) (rates : pc.rated? = some watch) (renders : pc.Renders)
    (idle : pc.measures = false) : WatchSystem.Asked done { s with pc := pc } := by
  refine ⟨asked.current, ?_, renders, ?_, ?_, asked.lines⟩
  · intro other holds
    exact asked.working other (working.trans (still.symm.trans holds))
  · dsimp only
    rw [idle]
    exact nofun
  · intro other holds
    exact asked.rated other (rated.trans (rates.symm.trans holds))

/-- A step to where the thread holds no watch and measures nothing. -/
theorem WatchSystem.Asked.rest (asked : s.Asked done)
    (request : t.gCsynWatch.request = s.gCsynWatch.request) (lines : t.lines = s.lines)
    (free : t.pc.watch? = none) (renders : t.pc.Renders) (idle : t.pc.measures = false)
    (unrated : t.pc.rated? = none) : t.Asked done := by
  refine ⟨?_, ?_, renders, ?_, ?_, lines ▸ asked.lines⟩
  · intro live
    rw [CsynWatch.live_of_request request] at live
    exact (asked.current live).congr request
  · rw [free]
    exact nofun
  · rw [idle]
    exact nofun
  · rw [unrated]
    exact nofun

/-- One more report. -/
theorem WatchSystem.Asked.report (asked : s.Asked done) {line : WatchLine} {pc : WatchPc}
    (working : s.pc.watch? = some line.watch) (still : pc.watch? = some line.watch)
    (renders : pc.Renders) (idle : pc.measures = false) (unrated : pc.rated? = none)
    (own : line.watch.AskedIn line.content.Answers done) :
    WatchSystem.Asked done { s with lines := s.lines ++ [line], pc := pc } := by
  refine ⟨asked.current, ?_, renders, ?_, ?_, ?_⟩
  · intro watch holds
    dsimp only at holds
    rw [still] at holds
    exact asked.working watch (working.trans holds)
  · dsimp only
    rw [idle]
    exact nofun
  · dsimp only
    rw [unrated]
    exact nofun
  · intro other member
    rcases List.mem_append.mp member with earlier | new
    · exact asked.lines other earlier
    · rw [List.mem_singleton] at new
      subst new
      exact own

/-- What a start command sets it asks for, and it takes the place of a rate that is measured. -/
theorem WatchSystem.Asked.start (asked : s.Asked done) (sh topic : Nat) (mode : CsynWatchMode)
    (periodMs generation : UInt32) (gives : Nat) :
    WatchSystem.Asked (done ++ [.command sh (.start topic mode periodMs)]) { s with
      gCsynWatch := ⟨some sh, some topic, mode, periodMs, generation, s.uptimeMs, true⟩
      gives := gives } := by
  have kept := asked.later (.command sh (.start topic mode periodMs))
  refine ⟨fun _ => ⟨done, sh, topic, mode, periodMs, [], rfl, rfl, trivial⟩, kept.working,
    kept.renders, ?_, kept.rated, kept.lines⟩
  intro measures
  exact ⟨(kept.measures measures).1, fun _ => ⟨done, sh, topic, mode, periodMs, [], rfl, rfl,
    Or.inr (asked.measures measures).1⟩⟩

theorem WatchSystem.Asked.step (asked : s.Asked done) (took : s.Took config action t) :
    t.Asked (done ++ [action]) := by
  have kept := asked.later action
  cases took with
  | publish present => exact kept.frame rfl rfl rfl
  | tick => exact kept.frame rfl rfl rfl
  | @start sh topic mode periodMs entry present some_mode =>
      exact asked.start sh topic mode periodMs entry.generation _
  | copyOnce => exact kept.frame rfl rfl rfl
  | stop =>
      exact ⟨nofun, kept.working, kept.renders, fun measures => ⟨(kept.measures measures).1, nofun⟩,
        kept.rated, kept.lines⟩
  | give pending => exact kept.frame rfl rfl rfl
  | take given waits => exact kept.rest rfl rfl rfl trivial rfl rfl
  | waited at_wait => exact kept.rest rfl rfl rfl trivial rfl rfl
  | measured at_wait =>
      have measures := kept.measures (by rw [at_wait]; rfl)
      exact ⟨kept.current, nofun, trivial, fun _ => measures, nofun, kept.lines⟩
  | readIdle at_read idle => exact kept.rest rfl rfl rfl trivial rfl rfl
  | readPrint at_read live prints =>
      refine ⟨kept.current, ?_, prints, nofun, nofun, kept.lines⟩
      rintro watch ⟨⟩
      exact kept.current live
  | readRate at_read live rates =>
      refine ⟨kept.current, ?_, trivial, ?_, nofun, kept.lines⟩
      · rintro watch ⟨⟩
        exact kept.current live
      · intro _
        exact ⟨(kept.current live).hzAsked rates,
          fun _ => (kept.current live).inMode fun _ => Or.inl rates⟩
  | @copy watch at_copy =>
      have own := kept.working watch (by rw [at_copy]; rfl)
      have renders := kept.renders
      rw [at_copy] at renders
      refine ⟨kept.current, ?_, renders, nofun, nofun, kept.lines⟩
      rintro other ⟨⟩
      exact own
  | @render watch sample at_render =>
      have own := kept.working watch (by rw [at_render]; rfl)
      have renders := kept.renders
      rw [at_render] at renders
      refine kept.report (by rw [at_render]; rfl) rfl trivial rfl rfl (own.inMode fun before => ?_)
      cases sample with
      | none => exact renders
      | some sample => exact renders
  | rereadIdle at_read idle => exact kept.rest rfl rfl rfl trivial rfl rfl
  | reread at_read live =>
      obtain ⟨-, rated⟩ := kept.measures (by rw [at_read]; rfl)
      refine ⟨kept.current, ?_, trivial, nofun, ?_, kept.lines⟩
      · rintro watch ⟨⟩
        exact kept.current live
      · rintro watch ⟨⟩
        exact rated live
  | count at_count =>
      exact kept.rating (by rw [at_count]; rfl) (by rw [at_count]; rfl) rfl rfl trivial rfl
  | time at_time =>
      exact kept.rating (by rw [at_time]; rfl) (by rw [at_time]; rfl) rfl rfl trivial rfl
  | @report watch generationNow nowMs at_report =>
      exact kept.report (by rw [at_report]; rfl) rfl trivial rfl rfl
        (kept.rated watch (by rw [at_report]; rfl))
  | record at_record still => exact kept.rest rfl rfl rfl trivial rfl rfl
  | skip at_record gone => exact kept.rest rfl rfl rfl trivial rfl rfl

theorem WatchSystem.run_asked {registry : List CsynTopic} {scratch : ByteMemory}
    {actions : List WatchAction}
    (reached : Automaton.run (WatchSystem.step config) (.boot registry scratch) actions = some s) :
    s.Asked actions := by
  induction actions using List.reverseRecOn generalizing s with
  | nil =>
      cases reached
      exact ⟨nofun, nofun, trivial, nofun, nofun, nofun⟩
  | append_singleton earlier action ih =>
      obtain ⟨mid, ran, last⟩ := (Automaton.run_append_some _).mp reached
      obtain ⟨next, taken, ended⟩ := (Automaton.run_cons_some _).mp last
      cases ended
      exact (ih ran).step (WatchSystem.step_took taken)

theorem WatchSystem.Attends.goes_on (attends : s.Attends) (taken : s.gCsynWatchSem = false)
    (live : s.gCsynWatch.live = true) :
    (∃ t, s.step config .next = some t) ∨ ∃ t, s.step config .timeout = some t := by
  show (∃ t, s.next config = some t) ∨ ∃ t, s.timeout = some t
  unfold WatchSystem.next WatchSystem.timeout
  rw [taken, if_neg Bool.false_ne_true]
  cases at_pc : s.pc with
  | blocked =>
      rw [attends.blocked at_pc] at live
      cases live
  | waiting watch => exact Or.inr ⟨_, rfl⟩
  | measuring watch => exact Or.inr ⟨_, rfl⟩
  | reading =>
      dsimp only
      rw [live, if_pos rfl]
      cases s.gCsynWatch.mode <;> exact Or.inl ⟨_, rfl⟩
  | _ => exact Or.inl ⟨_, rfl⟩

end

/-- Every report is one that some command asked for: a sample by an echo or a status, a rate by a
rate or in place of one. No command goes unheard: once every command has given the semaphore and
the thread has taken it, the thread is on the last command. It blocks for good only when nothing is
watched, and otherwise can go on. -/
theorem watch_follows_commands (config : Kconfig) (registry : List CsynTopic)
    (scratch : ByteMemory) (actions : List WatchAction) (s : WatchSystem)
    (reached : Automaton.run (WatchSystem.step config) (.boot registry scratch) actions = some s) :
    (∀ line ∈ s.lines, line.watch.AskedIn line.content.Answers actions) ∧
    (s.gives = 0 → s.gCsynWatchSem = false → s.Attends ∧ (s.gCsynWatch.live = true →
      (∃ t, s.step config .next = some t) ∨ ∃ t, s.step config .timeout = some t)) := by
  refine ⟨(WatchSystem.run_asked reached).lines, ?_⟩
  intro given taken
  have attends : s.Attends := by
    rcases (WatchSystem.run_heard reached).outstanding with sem | pending | attends
    · rw [taken] at sem
      cases sem
    · exact absurd given pending
    · exact attends
  exact ⟨attends, attends.goes_on taken⟩

/-- One topic, measured every second. -/
def watchedRegistry : List CsynTopic := [csynTopicDefine (str "att") .tx 8]

/-- An echo is asked for while a rate is measured, and gets the rate first. -/
def rateThenEcho : List WatchAction :=
  [.command 0 (.start 0 .hz 1000), .give, .take, .next, .command 0 (.start 0 .echo 250), .timeout,
    .next, .next, .next, .next, .next, .give, .next, .next, .next, .take]

theorem watch_follows_commands_echoed :
    ∃ s, Automaton.run (WatchSystem.step .default) (.boot watchedRegistry fun _ => 0)
        rateThenEcho = some s ∧
      s.lines.map (fun line => line.watch.mode) = [.echo, .echo] ∧ s.gCsynWatch.live = true ∧
      s.Attends ∧
      ∀ line ∈ s.lines, line.watch.AskedIn line.content.Answers rateThenEcho := by
  obtain ⟨asked, follows⟩ :=
    watch_follows_commands .default watchedRegistry (fun _ => 0) rateThenEcho _ rfl
  exact ⟨_, rfl, rfl, rfl, (follows rfl rfl).1, asked⟩

/-! Reports for an earlier command. -/

/-- The thread may still report before it reads the watch at the head of its loop again. -/
def WatchPc.reports : WatchPc → Bool
  | .copying _ => true
  | .rendering _ _ => true
  | .measuring _ => true
  | .rereading => true
  | .counting _ => true
  | .timing _ _ => true
  | .reporting _ _ _ => true
  | _ => false

/-- The kind of report that a mode asks for. -/
def WatchContent.ofMode : WatchContent → CsynWatchMode → Bool
  | .rate _ _ _ _, mode => mode == .hz
  | _, mode => mode == .echo || mode == .line

/-- The report that this watch asks for. -/
def WatchLine.IsOf (now : CsynWatch) (line : WatchLine) : Prop :=
  line.watch.request = now.request ∧ line.content.ofMode now.mode = true

instance (now : CsynWatch) (line : WatchLine) : Decidable (line.IsOf now) :=
  inferInstanceAs (Decidable (_ ∧ _))

/-- The reports that the thread owes to another watch than this one, or of another kind. A rate
that is measured is reported of whatever is watched by then. -/
def WatchPc.owes (now : CsynWatch) : WatchPc → Nat
  | .copying watch => if watch.request = now.request then 0 else 1
  | .rendering watch _ => if watch.request = now.request then 0 else 1
  | .measuring _ => if now.mode = .hz then 0 else 1
  | .rereading => if now.mode = .hz then 0 else 1
  | .counting watch => if watch.request = now.request ∧ now.mode = .hz then 0 else 1
  | .timing watch _ => if watch.request = now.request ∧ now.mode = .hz then 0 else 1
  | .reporting watch _ _ => if watch.request = now.request ∧ now.mode = .hz then 0 else 1
  | _ => 0

/-- The reports that this watch does not ask for. -/
def staleReports (now : CsynWatch) (lines : List WatchLine) : List WatchLine :=
  lines.filter fun line => ¬ line.IsOf now

/-- `topic echo`, `hz`, `watch` and `stop` change what is watched. -/
def WatchAction.changesWatch : WatchAction → Bool
  | .command _ (.start _ _ _) => true
  | .command _ .stop => true
  | _ => false

section

variable {config : Kconfig} {s t : WatchSystem} {action : WatchAction} {now : CsynWatch}

theorem WatchPc.owes_le (pc : WatchPc) (now : CsynWatch) :
    pc.owes now ≤ if pc.reports then 1 else 0 := by
  have le_one (p : Prop) [Decidable p] : (if p then 0 else 1) ≤ 1 := by split <;> decide
  cases pc with
  | blocked => exact Nat.le_refl 0
  | reading => exact Nat.le_refl 0
  | copying watch => exact le_one _
  | rendering watch sample => exact le_one _
  | waiting watch => exact Nat.le_refl 0
  | measuring watch => exact le_one _
  | rereading => exact le_one _
  | counting watch => exact le_one _
  | timing watch generationNow => exact le_one _
  | reporting watch generationNow nowMs => exact le_one _
  | recording watch generationNow nowMs => exact Nat.le_refl 0

theorem CsynWatch.mode_of_request {watch other : CsynWatch}
    (same : watch.request = other.request) : watch.mode = other.mode := by
  simp only [CsynWatch.request, Prod.mk.injEq] at same
  exact same.2.2.1

theorem staleReports_congr {other : CsynWatch} (same : now.request = other.request)
    (lines : List WatchLine) : staleReports now lines = staleReports other lines := by
  have isOf (line : WatchLine) : line.IsOf now ↔ line.IsOf other := by
    rw [WatchLine.IsOf, WatchLine.IsOf, same, CsynWatch.mode_of_request same]
  apply List.filter_congr
  intro line _
  rw [decide_eq_decide, isOf]

/-- Where the reports and the debt stand after some of the run. -/
structure WatchSystem.Printed (start : WatchSystem) (now : CsynWatch) (s : WatchSystem) :
    Prop where
  request : s.gCsynWatch.request = now.request
  renders : s.pc.Renders
  lines : ∃ new, s.lines = start.lines ++ new ∧
    (staleReports now new).length + s.pc.owes now ≤ start.pc.owes now ∧
    ∀ line ∈ new, line.watch.live = true

/-- A step that reports nothing and owes nothing new. -/
theorem WatchSystem.Printed.silent {start : WatchSystem} (printed : start.Printed now s)
    (request : t.gCsynWatch.request = s.gCsynWatch.request) (lines : t.lines = s.lines)
    (renders : t.pc.Renders) (owes : t.pc.owes now ≤ s.pc.owes now) : start.Printed now t := by
  obtain ⟨new, split, bound, live⟩ := printed.lines
  exact ⟨request.trans printed.request, renders, new, lines.trans split,
    Nat.le_trans (Nat.add_le_add_left owes _) bound, live⟩

/-- A step to where the thread owes nothing. -/
theorem WatchSystem.Printed.rest {start : WatchSystem} (printed : start.Printed now s)
    (request : t.gCsynWatch.request = s.gCsynWatch.request) (lines : t.lines = s.lines)
    (renders : t.pc.Renders) (free : t.pc.owes now = 0) : start.Printed now t :=
  printed.silent request lines renders (free ▸ Nat.zero_le _)

/-- A step that reports pays the debt for it. -/
theorem WatchSystem.Printed.report {start : WatchSystem} {line : WatchLine} {pc : WatchPc}
    (printed : start.Printed now s) (paid : if line.IsOf now then True else s.pc.owes now = 1)
    (live : line.watch.live = true) (renders : pc.Renders) (free : pc.owes now = 0) :
    start.Printed now { s with lines := s.lines ++ [line], pc := pc } := by
  obtain ⟨new, split, bound, earlier⟩ := printed.lines
  refine ⟨printed.request, renders, new ++ [line], ?_, ?_, ?_⟩
  · rw [split, List.append_assoc]
  · dsimp only
    rw [free, staleReports, List.filter_append, List.length_append]
    by_cases current : line.IsOf now
    · have none_ : [line].filter (fun line => ¬ line.IsOf now) = [] := by simp [current]
      rw [none_]
      exact Nat.le_trans (Nat.le_add_right _ _) bound
    · have one : [line].filter (fun line => ¬ line.IsOf now) = [line] := by simp [current]
      rw [if_neg current] at paid
      rw [one]
      rw [paid] at bound
      exact bound
  · intro other member
    rcases List.mem_append.mp member with before | last
    · exact earlier other before
    · exact List.mem_singleton.mp last ▸ live

theorem WatchSystem.Printed.step {start : WatchSystem} (printed : start.Printed now s)
    (heard : s.Heard) (quiet : action.changesWatch = false) (took : s.Took config action t) :
    start.Printed now t := by
  have mode : s.gCsynWatch.mode = now.mode := CsynWatch.mode_of_request printed.request
  have renders := printed.renders
  cases took with
  | publish present => exact printed.silent rfl rfl renders (Nat.le_refl _)
  | tick => exact printed.silent rfl rfl renders (Nat.le_refl _)
  | start present some_mode => cases quiet
  | copyOnce => exact printed.silent rfl rfl renders (Nat.le_refl _)
  | stop => cases quiet
  | give pending => exact printed.silent rfl rfl renders (Nat.le_refl _)
  | take given waits => exact printed.rest rfl rfl trivial rfl
  | waited at_wait => exact printed.rest rfl rfl trivial rfl
  | measured at_wait =>
      refine printed.silent rfl rfl trivial ?_
      rw [at_wait]
      exact Nat.le_refl _
  | readIdle at_read idle => exact printed.rest rfl rfl trivial rfl
  | readPrint at_read live prints => exact printed.rest rfl rfl prints (if_pos printed.request)
  | readRate at_read live rates => exact printed.rest rfl rfl trivial (if_pos (mode ▸ rates))
  | copy at_copy =>
      rw [at_copy] at renders
      refine printed.silent rfl rfl renders ?_
      rw [at_copy]
      exact Nat.le_refl _
  | @render watch sample at_render =>
      have live := heard.working_live watch (by rw [at_render]; rfl)
      rw [at_render] at renders
      refine printed.report ?_ live trivial rfl
      split
      · trivial
      · rename_i stale
        rw [at_render]
        refine if_neg fun same => stale ⟨same, ?_⟩
        have kind : now.mode = .echo ∨ now.mode = .line := by
          rw [← CsynWatch.mode_of_request same]
          exact renders
        cases sample with
        | none => rcases kind with echo | line <;> simp [renderCopy, WatchContent.ofMode, *]
        | some sample => rcases kind with echo | line <;> simp [renderCopy, WatchContent.ofMode, *]
  | rereadIdle at_read idle => exact printed.rest rfl rfl trivial rfl
  | reread at_read live =>
      refine printed.silent rfl rfl trivial ?_
      rw [at_read]
      simp only [WatchPc.owes, printed.request, true_and]
      exact Nat.le_refl _
  | count at_count =>
      refine printed.silent rfl rfl trivial ?_
      rw [at_count]
      exact Nat.le_refl _
  | time at_time =>
      refine printed.silent rfl rfl trivial ?_
      rw [at_time]
      exact Nat.le_refl _
  | @report watch generationNow nowMs at_report =>
      refine printed.report ?_ (heard.working_live watch (by rw [at_report]; rfl)) trivial rfl
      split
      · trivial
      · rename_i stale
        rw [at_report]
        exact if_neg fun both => stale ⟨both.1, beq_iff_eq.mpr both.2⟩
  | record at_record still => exact printed.rest rfl rfl trivial rfl
  | skip at_record gone => exact printed.rest rfl rfl trivial rfl

theorem WatchSystem.run_printed {later : List WatchAction} (heard : s.Heard)
    (renders : s.pc.Renders) (quiet : ∀ action ∈ later, action.changesWatch = false)
    (ran : Automaton.run (WatchSystem.step config) s later = some t) :
    s.Printed s.gCsynWatch t := by
  have both : t.Heard ∧ s.Printed s.gCsynWatch t := by
    apply Automaton.run_invariant_of_labels (fun action => action.changesWatch = false) _ ran quiet
    · refine ⟨heard, rfl, renders, [], (List.append_nil _).symm, ?_, nofun⟩
      exact Nat.le_of_eq (Nat.zero_add _)
    · intro u action v taken quiet holds
      have took := WatchSystem.step_took taken
      exact ⟨holds.1.step took, holds.2.step holds.1 quiet took⟩
  exact both.2

end

/-- While no command changes the watch, the thread makes at most one report that this watch does not
ask for, of another watch or of another kind, and none if it is not about to report; once the watch
is stopped, this is all it reports. -/
theorem stale_reports_at_most_one (config : Kconfig) (registry : List CsynTopic)
    (scratch : ByteMemory) (actions later : List WatchAction) (s t : WatchSystem)
    (reached : Automaton.run (WatchSystem.step config) (.boot registry scratch) actions = some s)
    (quiet : ∀ action ∈ later, action.changesWatch = false)
    (ran : Automaton.run (WatchSystem.step config) s later = some t) :
    ∃ new, t.lines = s.lines ++ new ∧
      (staleReports t.gCsynWatch new).length ≤ (if s.pc.reports then 1 else 0) ∧
      (t.gCsynWatch.live = false → staleReports t.gCsynWatch new = new) := by
  have printed := WatchSystem.run_printed (WatchSystem.run_heard reached)
    (WatchSystem.run_asked reached).renders quiet ran
  obtain ⟨new, split, bound, live⟩ := printed.lines
  refine ⟨new, split, ?_, ?_⟩
  · rw [staleReports_congr printed.request]
    exact Nat.le_trans (Nat.le_of_add_right_le bound) (WatchPc.owes_le _ _)
  · intro stopped
    rw [staleReports, List.filter_eq_self]
    intro line member
    rw [decide_eq_true_eq]
    rintro ⟨current, -⟩
    have here := live line member
    rw [CsynWatch.live_of_request current, stopped] at here
    cases here

/-- The rate that `rateThenEcho` reports is not of the echo it asks for. -/
theorem stale_reports_at_most_one_echoed :
    ∃ s t, Automaton.run (WatchSystem.step .default) (.boot watchedRegistry fun _ => 0)
        (rateThenEcho.take 5) = some s ∧
      Automaton.run (WatchSystem.step .default) s (rateThenEcho.drop 5) = some t ∧
      t.lines.length = 2 ∧
      ∃ new, t.lines = s.lines ++ new ∧ (staleReports t.gCsynWatch new).length ≤ 1 := by
  obtain ⟨new, split, bound, -⟩ := stale_reports_at_most_one .default watchedRegistry (fun _ => 0)
    (rateThenEcho.take 5) (rateThenEcho.drop 5) _ _ rfl (by decide) rfl
  exact ⟨_, _, rfl, rfl, rfl, new, split, bound⟩

end Csyn
