import Csyn.ShellWatch
import Csyn.StoreHistory
import Mathlib.Data.List.Induction

set_option autoImplicit false

/- The samples that the watch thread reports. It copies a topic into the buffer that the shell
commands use too, and prints from there. Each copy and each publish is one step. -/
namespace Csyn

/-- The argument of a `csyn_topic_publish` call on the topic. -/
def WatchAction.call? (topic : Nat) : WatchAction → Option (Option (List UInt8))
  | .publish published buf => if published = topic then some buf else none
  | _ => none

def callsOn (topic : Nat) (actions : List WatchAction) : List (Option (List UInt8)) :=
  actions.filterMap (·.call? topic)

/-- A topic and its accepted samples after the actions. -/
def topicLog (entry : CsynTopic) (topic : Nat) (actions : List WatchAction) : StoreLog :=
  (StoreLog.mk entry []).run (callsOn topic actions)

/-- A command copies into the shared buffer. -/
def WatchAction.usesBuffer : WatchAction → Bool
  | .command _ (.copyOnce _) => true
  | _ => false

/-- A step of the watch thread. -/
def WatchAction.ofThread : WatchAction → Bool
  | .take => true
  | .timeout => true
  | .next => true
  | _ => false

section

variable (config : Kconfig) (registry : List CsynTopic) (scratch : ByteMemory)

/-- After `before` the thread copied the topic of this watch and got this, and it has done nothing
since, while others did what is in `during`. -/
structure CopiedBetween (before during : List WatchAction) (watch : CsynWatch)
    (sample : Option (List UInt8 × UInt32)) : Prop where
  copies : ∃ u, Automaton.run (WatchSystem.step config) (.boot registry scratch) before = some u ∧
    u.pc = .copying watch
  copied : ∃ topic entry, watch.topic = some topic ∧ registry[topic]? = some entry ∧
    csynTopicCopy (topicLog entry topic before).topic config.flatbufferMaxSize = sample
  rests : ∀ a ∈ during, a.ofThread = false

/-- What the thread copied is still in the buffer, unless a command used it since. -/
def StillHeld (during : List WatchAction) (buf : ByteMemory)
    (sample : Option (List UInt8 × UInt32)) : Prop :=
  ∀ bytes generation, sample = some (bytes, generation) →
    (∀ a ∈ during, a.usesBuffer = false) → buf.load 0 bytes.length = bytes

/-- The actions end where the thread is about to make its `i`-th report, from this copy. -/
def RendersAt (actions : List WatchAction) (i : Nat) (watch : CsynWatch)
    (sample : Option (List UInt8 × UInt32)) : Prop :=
  ∃ v, Automaton.run (WatchSystem.step config) (.boot registry scratch) actions = some v ∧
    v.lines.length = i ∧ v.pc = .rendering watch sample

/-- The `i`-th report against the actions so far: a sample was copied, and then printed from the
buffer. -/
def WatchLine.Copied (done : List WatchAction) (i : Nat) (line : WatchLine) : Prop :=
  (∃ first last sinceMs untilMs, line.content = .rate first last sinceMs untilMs) ∨
  ∃ before during after buf sample, done = before ++ .next :: (during ++ .next :: after) ∧
    CopiedBetween config registry scratch before during line.watch sample ∧
    RendersAt config registry scratch (before ++ .next :: during) i line.watch sample ∧
    StillHeld during buf sample ∧ line.content = renderCopy buf sample

/-- The registry holds the published samples; the thread copies a topic that exists; what it holds
and what it printed was copied there. -/
structure WatchSystem.Sampled (done : List WatchAction) (s : WatchSystem) : Prop where
  reached : Automaton.run (WatchSystem.step config) (.boot registry scratch) done = some s
  stores : ∀ topic, s.registry[topic]? =
    registry[topic]?.map fun entry => (topicLog entry topic done).topic
  known : ∀ topic, s.gCsynWatch.topic = some topic → ∃ entry, registry[topic]? = some entry
  working : ∀ watch, s.pc = .copying watch →
    ∃ topic entry, watch.topic = some topic ∧ registry[topic]? = some entry
  held : ∀ watch sample, s.pc = .rendering watch sample →
    ∃ before during, done = before ++ .next :: during ∧
      CopiedBetween config registry scratch before during watch sample ∧
      StillHeld during s.gCsynShellBuf sample
  lines : ∀ (i : Nat) (line : WatchLine), s.lines[i]? = some line →
    line.Copied config registry scratch done i

end

section

variable {config : Kconfig} {registry : List CsynTopic} {scratch : ByteMemory}
  {done : List WatchAction} {s t : WatchSystem} {action : WatchAction}

theorem WatchLine.Copied.later {line : WatchLine} {i : Nat}
    (copied : line.Copied config registry scratch done i) (action : WatchAction) :
    line.Copied config registry scratch (done ++ [action]) i := by
  rcases copied with rate | ⟨before, during, after, buf, sample, rfl, rest⟩
  · exact Or.inl rate
  · refine Or.inr ⟨before, during, after ++ [action], buf, sample, ?_, rest⟩
    simp only [List.append_assoc, List.cons_append]

theorem topicLog_call (entry : CsynTopic) (topic : Nat) (done : List WatchAction)
    {buf : Option (List UInt8)} (called : action.call? topic = some buf) :
    topicLog entry topic (done ++ [action]) = (topicLog entry topic done).call buf := by
  unfold topicLog callsOn StoreLog.run
  rw [List.filterMap_append, List.filterMap_cons_some called, List.filterMap_nil,
    List.foldl_append]
  rfl

theorem topicLog_silent (entry : CsynTopic) (topic : Nat) (done : List WatchAction)
    (silent : action.call? topic = none) :
    topicLog entry topic (done ++ [action]) = topicLog entry topic done := by
  unfold topicLog callsOn
  rw [List.filterMap_append, List.filterMap_cons_none silent, List.filterMap_nil, List.append_nil]

/-- An action that publishes nothing keeps the stores. -/
theorem WatchSystem.Sampled.silent (sampled : s.Sampled config registry scratch done)
    (silent : ∀ topic, action.call? topic = none) (topic : Nat) :
    s.registry[topic]? =
      registry[topic]?.map fun entry => (topicLog entry topic (done ++ [action])).topic := by
  rw [sampled.stores topic]
  apply Option.map_congr
  intro entry _
  rw [topicLog_silent entry topic done (silent topic)]

/-- What the thread holds stays as it is while nobody writes the buffer. -/
theorem WatchSystem.Sampled.holds (sampled : s.Sampled config registry scratch done)
    (other : action.ofThread = false) :
    ∀ watch sample, s.pc = .rendering watch sample → ∃ before during,
      done ++ [action] = before ++ .next :: during ∧
      CopiedBetween config registry scratch before during watch sample ∧
      StillHeld during s.gCsynShellBuf sample := by
  intro watch sample at_render
  obtain ⟨before, during, rfl, copied, still⟩ := sampled.held watch sample at_render
  refine ⟨before, during ++ [action], ?_, ⟨copied.copies, copied.copied, ?_⟩, ?_⟩
  · rw [List.append_assoc, List.cons_append]
  · intro a member
    rcases List.mem_append.mp member with earlier | new
    · exact copied.rests a earlier
    · exact List.mem_singleton.mp new ▸ other
  · intro bytes generation same quiet
    exact still bytes generation same fun a member => quiet a (List.mem_append_left _ member)

theorem WatchSystem.Sampled.declared (sampled : s.Sampled config registry scratch done)
    {topic : Nat} {entry : CsynTopic} (present : s.registry[topic]? = some entry) :
    ∃ entry, registry[topic]? = some entry := by
  rw [sampled.stores topic] at present
  obtain ⟨first, known, -⟩ := Option.map_eq_some_iff.mp present
  exact ⟨first, known⟩

/-- `csyn_topic_copy` into the shared buffer, against the log of the topic. -/
theorem WatchSystem.Sampled.shellCopy (sampled : s.Sampled config registry scratch done)
    {topic : Nat} {entry : CsynTopic} (known : registry[topic]? = some entry) (buf : ByteMemory) :
    (Csyn.shellCopy config s.registry buf topic).1 =
        csynTopicCopy (topicLog entry topic done).topic config.flatbufferMaxSize ∧
      ∀ bytes generation,
        (Csyn.shellCopy config s.registry buf topic).1 = some (bytes, generation) →
        (Csyn.shellCopy config s.registry buf topic).2.load 0 bytes.length = bytes := by
  unfold Csyn.shellCopy
  rw [sampled.stores topic, known, Option.map_some, Option.bind_some]
  cases copied : csynTopicCopy (topicLog entry topic done).topic config.flatbufferMaxSize with
  | none => exact ⟨rfl, nofun⟩
  | some sample =>
      obtain ⟨bytes, generation⟩ := sample
      refine ⟨rfl, ?_⟩
      rintro _ _ ⟨⟩
      exact ByteMemory.load_storeBytes buf 0 bytes

/-- The reports with one more behind them. -/
theorem copied_append {line : WatchLine}
    (kept : ∀ (i : Nat) (other : WatchLine), s.lines[i]? = some other →
      other.Copied config registry scratch done i)
    (own : line.Copied config registry scratch done s.lines.length) :
    ∀ (i : Nat) (other : WatchLine), (s.lines ++ [line])[i]? = some other →
      other.Copied config registry scratch done i := by
  intro i other found
  rcases Nat.lt_trichotomy i s.lines.length with before | rfl | behind
  · rw [List.getElem?_append_left before] at found
    exact kept i other found
  · rw [List.getElem?_concat_length, Option.some.injEq] at found
    exact found ▸ own
  · rw [List.getElem?_eq_none (by simp; omega)] at found
    cases found

/-- The thread is about to copy a sample, or holds one. -/
def WatchPc.samples : WatchPc → Bool
  | .copying _ => true
  | .rendering _ _ => true
  | _ => false

/-- A step to where the thread holds no sample. -/
theorem WatchSystem.Sampled.rest (sampled : s.Sampled config registry scratch done)
    (ran : Automaton.run (WatchSystem.step config) (.boot registry scratch) (done ++ [action]) =
      some t)
    (silent : ∀ topic, action.call? topic = none) (stores : t.registry = s.registry)
    (watched : t.gCsynWatch.topic = s.gCsynWatch.topic) (lines : t.lines = s.lines)
    (free : t.pc.samples = false) : t.Sampled config registry scratch (done ++ [action]) := by
  refine ⟨ran, ?_, ?_, ?_, ?_, ?_⟩
  · rw [stores]
    exact sampled.silent silent
  · rw [watched]
    exact sampled.known
  · intro watch at_copy
    rw [at_copy] at free
    cases free
  · intro watch sample at_render
    rw [at_render] at free
    cases free
  · rw [lines]
    exact fun i line found => (sampled.lines i line found).later action

theorem WatchSystem.Sampled.step (taken : s.step config action = some t)
    (sampled : s.Sampled config registry scratch done) :
    t.Sampled config registry scratch (done ++ [action]) := by
  have ran : Automaton.run (WatchSystem.step config) (.boot registry scratch) (done ++ [action]) =
      some t :=
    (Automaton.run_append_some _).mpr ⟨s, sampled.reached, Automaton.run_one taken⟩
  have kept : ∀ (i : Nat) (line : WatchLine), s.lines[i]? = some line →
      line.Copied config registry scratch (done ++ [action]) i :=
    fun i line found => (sampled.lines i line found).later action
  cases WatchSystem.step_took taken with
  | @publish topic entry buf present =>
      refine ⟨ran, ?_, sampled.known, sampled.working, sampled.holds rfl, kept⟩
      intro other
      dsimp only
      by_cases same : topic = other
      · subst same
        have stored := sampled.stores topic
        have called : (WatchAction.publish topic buf).call? topic = some buf := if_pos rfl
        rw [present] at stored
        rw [publishAt_self present]
        cases known : registry[topic]? with
        | none =>
            rw [known] at stored
            cases stored
        | some first =>
            rw [known, Option.map_some, Option.some.injEq] at stored
            rw [Option.map_some, topicLog_call first topic done called, stored]
            rfl
      · rw [publishAt_other buf same, sampled.stores other]
        apply Option.map_congr
        intro known _
        have silent : (WatchAction.publish topic buf).call? other = none := if_neg same
        rw [topicLog_silent known other done silent]
  | tick =>
      exact ⟨ran, sampled.silent fun _ => rfl, sampled.known, sampled.working, sampled.holds rfl,
        kept⟩
  | @start sh topic mode periodMs entry present some_mode =>
      refine ⟨ran, sampled.silent fun _ => rfl, ?_, sampled.working, sampled.holds rfl, kept⟩
      rintro _ ⟨⟩
      exact sampled.declared present
  | @copyOnce sh topic =>
      refine ⟨ran, sampled.silent fun _ => rfl, sampled.known, sampled.working, ?_, kept⟩
      intro watch sample at_render
      have by_shell : (WatchAction.command sh (.copyOnce topic)).ofThread = false := rfl
      obtain ⟨before, during, split, copied, -⟩ := sampled.holds by_shell watch sample at_render
      refine ⟨before, during, split, copied, ?_⟩
      intro bytes generation same quiet
      -- The command is the last action since the copy.
      have used : WatchAction.command sh (.copyOnce topic) ∈ during := by
        rcases List.eq_nil_or_concat during with rfl | ⟨rest, last, rfl⟩
        · exact absurd (List.append_inj' split rfl).2 (by simp)
        · rw [List.concat_eq_append, ← List.cons_append, ← List.append_assoc] at split
          rw [List.concat_eq_append, ← (List.append_inj' split rfl).2]
          exact List.mem_append_right _ List.mem_cons_self
      exact absurd (quiet _ used) nofun
  | stop =>
      exact ⟨ran, sampled.silent fun _ => rfl, nofun, sampled.working, sampled.holds rfl, kept⟩
  | give pending =>
      exact ⟨ran, sampled.silent fun _ => rfl, sampled.known, sampled.working, sampled.holds rfl,
        kept⟩
  | take given waits => exact sampled.rest ran (fun _ => rfl) rfl rfl rfl rfl
  | waited at_wait => exact sampled.rest ran (fun _ => rfl) rfl rfl rfl rfl
  | measured at_wait => exact sampled.rest ran (fun _ => rfl) rfl rfl rfl rfl
  | readIdle at_read idle => exact sampled.rest ran (fun _ => rfl) rfl rfl rfl rfl
  | readPrint at_read live prints =>
      refine ⟨ran, sampled.silent fun _ => rfl, sampled.known, ?_, nofun, kept⟩
      rintro _ ⟨⟩
      unfold CsynWatch.live at live
      rw [Bool.and_eq_true] at live
      obtain ⟨topic, watched⟩ := Option.isSome_iff_exists.mp live.2
      obtain ⟨entry, known⟩ := sampled.known topic watched
      exact ⟨topic, entry, watched, known⟩
  | readRate at_read live rates => exact sampled.rest ran (fun _ => rfl) rfl rfl rfl rfl
  | @copy watch at_copy =>
      refine ⟨ran, sampled.silent fun _ => rfl, sampled.known, nofun, ?_, kept⟩
      rintro _ _ ⟨⟩
      obtain ⟨topic, entry, watched, known⟩ := sampled.working watch at_copy
      obtain ⟨copied, held⟩ := sampled.shellCopy known s.gCsynShellBuf
      dsimp only
      rw [watched, Option.getD_some]
      exact ⟨done, [], rfl, ⟨⟨s, sampled.reached, at_copy⟩, ⟨topic, entry, watched, known,
        copied.symm⟩, nofun⟩, fun bytes generation same _ => held bytes generation same⟩
  | @render watch sample at_render =>
      refine ⟨ran, sampled.silent fun _ => rfl, sampled.known, nofun, nofun, ?_⟩
      obtain ⟨before, during, split, copied, still⟩ := sampled.held watch sample at_render
      refine copied_append kept (Or.inr ⟨before, during, [], s.gCsynShellBuf, sample, ?_, copied, ?_,
        still, rfl⟩)
      · rw [split, List.append_assoc, List.cons_append]
      · rw [← split]
        exact ⟨s, sampled.reached, rfl, at_render⟩
  | rereadIdle at_read idle => exact sampled.rest ran (fun _ => rfl) rfl rfl rfl rfl
  | reread at_read live => exact sampled.rest ran (fun _ => rfl) rfl rfl rfl rfl
  | count at_count => exact sampled.rest ran (fun _ => rfl) rfl rfl rfl rfl
  | time at_time => exact sampled.rest ran (fun _ => rfl) rfl rfl rfl rfl
  | report at_report =>
      refine ⟨ran, sampled.silent fun _ => rfl, sampled.known, nofun, nofun, ?_⟩
      exact copied_append kept (Or.inl ⟨_, _, _, _, rfl⟩)
  | record at_record still => exact sampled.rest ran (fun _ => rfl) rfl rfl rfl rfl
  | skip at_record gone => exact sampled.rest ran (fun _ => rfl) rfl rfl rfl rfl

end

end Csyn
