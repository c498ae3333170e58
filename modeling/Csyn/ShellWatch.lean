import Csyn.Lib.Automaton
import Csyn.Registry

set_option autoImplicit false

/- The watcher of zephyr/src/csyn_shell.c: the watch commands, the thread that prints what is
watched, and the publishers of the topics. One shared access is a step, and so is one whole
`csyn_topic_publish` or `csyn_topic_copy`. -/
namespace Csyn

/-- `enum csyn_watch_mode` -/
inductive CsynWatchMode where
  | none
  | echo
  | hz
  | line
  deriving DecidableEq

/-- `struct csyn_watch`; a shell and a topic are indices, and NULL is `none`. -/
structure CsynWatch where
  sh : Option Nat
  topic : Option Nat
  mode : CsynWatchMode
  periodMs : UInt32
  lastGeneration : UInt32
  lastMs : Int
  active : Bool
  deriving DecidableEq

/-- What `csyn_watch_stop` leaves, and what the static storage starts as. -/
def CsynWatch.stopped : CsynWatch where
  sh := none
  topic := none
  mode := .none
  periodMs := 0
  lastGeneration := 0
  lastMs := 0
  active := false

/-- `!(!watch.active || watch.sh == NULL || watch.topic == NULL)` -/
def CsynWatch.live (watch : CsynWatch) : Bool :=
  watch.active && watch.sh.isSome && watch.topic.isSome

/-- Where `csyn_watch_thread` is. `watch` is its local copy. -/
inductive WatchPc where
  /-- `k_sem_take(&g_csyn_watch_sem, K_FOREVER)` -/
  | blocked
  /-- The copy of `g_csyn_watch` at the head of the inner loop. -/
  | reading
  /-- `csyn_topic_copy` into `g_csyn_shell_buf`, for an echo or a line. -/
  | copying (watch : CsynWatch)
  /-- Printing what was copied. `sample` is a history variable. -/
  | rendering (watch : CsynWatch) (sample : Option (List UInt8 × UInt32))
  /-- `k_sem_take` with the period, after a print. -/
  | waiting (watch : CsynWatch)
  /-- `k_sem_take` with the period, before the rate is measured. -/
  | measuring (watch : CsynWatch)
  | rereading
  | counting (watch : CsynWatch)
  | timing (watch : CsynWatch) (generationNow : UInt32)
  | reporting (watch : CsynWatch) (generationNow : UInt32) (nowMs : Int)
  | recording (watch : CsynWatch) (generationNow : UInt32) (nowMs : Int)

/-- What the thread reports: that there is nothing to show, a sample, or a rate. -/
inductive WatchContent where
  | noSamples
  | sample (generation : UInt32) (shown copied : List UInt8)
  | rate (first last : UInt32) (sinceMs untilMs : Int)

/-- A report and the copy of the watch it was printed for. An echo prints it on several lines. -/
structure WatchLine where
  watch : CsynWatch
  content : WatchContent

/-- What a shell command asks for: a watch, one copy of a topic into the shared buffer (by
`topic echo` without a period, and by `topic list` for each topic), or `topic stop`. -/
inductive WatchCommand where
  | start (topic : Nat) (mode : CsynWatchMode) (periodMs : UInt32)
  | copyOnce (topic : Nat)
  | stop

/-- `gives` counts the commands between `irq_unlock` and `k_sem_give`. `published` (accepted
samples of each topic) and `lines` are history variables. -/
structure WatchSystem where
  registry : List CsynTopic
  uptimeMs : Int
  gCsynWatch : CsynWatch
  gCsynWatchSem : Bool
  gives : Nat
  gCsynShellBuf : ByteMemory
  pc : WatchPc
  published : Nat → Nat
  lines : List WatchLine

/-- `take` and `timeout` are the two ways `k_sem_take` returns, `next` is any other step of the
watch thread. -/
inductive WatchAction where
  | publish (topic : Nat) (buf : Option (List UInt8))
  | tick (ms : Nat)
  | command (sh : Nat) (command : WatchCommand)
  | give
  | take
  | timeout
  | next

def WatchSystem.boot (registry : List CsynTopic) (scratch : ByteMemory) : WatchSystem where
  registry := registry
  uptimeMs := 0
  gCsynWatch := .stopped
  gCsynWatchSem := false
  gives := 0
  gCsynShellBuf := scratch
  pc := .blocked
  published := fun _ => 0
  lines := []

section

variable (config : Kconfig)

/-- `csyn_topic_copy` into the shared buffer. -/
def shellCopy (registry : List CsynTopic) (buf : ByteMemory) (topic : Nat) :
    Option (List UInt8 × UInt32) × ByteMemory :=
  match registry[topic]?.bind fun entry => csynTopicCopy entry config.flatbufferMaxSize with
  | none => (none, buf)
  | some (bytes, generation) => (some (bytes, generation), buf.storeBytes 0 bytes)

/-- A command up to `irq_unlock`. -/
def WatchSystem.command (s : WatchSystem) (sh : Nat) : WatchCommand → Option WatchSystem
  | .start topic mode periodMs =>
      match s.registry[topic]? with
      | none => none
      | some entry =>
          if mode = .none then none
          else
            some { s with
              gCsynWatch := {
                sh := some sh
                topic := some topic
                mode := mode
                periodMs := periodMs
                lastGeneration := csynTopicGeneration (some entry)
                lastMs := s.uptimeMs
                active := true }
              gives := s.gives + 1 }
  | .copyOnce topic =>
      some { s with gCsynShellBuf := (shellCopy config s.registry s.gCsynShellBuf topic).2 }
  | .stop => some { s with gCsynWatch := .stopped, gives := s.gives + 1 }

/-- `if (now_ms <= watch.last_ms) now_ms = watch.last_ms + 1;` -/
def CsynWatch.later (watch : CsynWatch) (nowMs : Int) : Int :=
  if nowMs ≤ watch.lastMs then watch.lastMs + 1 else nowMs

/-- `g_csyn_watch` still measures the topic of the copy. -/
def CsynWatch.stillMeasures (now watch : CsynWatch) : Bool :=
  now.active && now.mode == .hz && now.topic == watch.topic

/-- What is printed of a copy: the bytes that the shared buffer holds by then. -/
def renderCopy (buf : ByteMemory) : Option (List UInt8 × UInt32) → WatchContent
  | none => .noSamples
  | some (bytes, generation) => .sample generation (buf.load 0 bytes.length) bytes

/-- A step of `csyn_watch_thread` that does not wait. -/
def WatchSystem.next (s : WatchSystem) : Option WatchSystem :=
  match s.pc with
  | .reading =>
      let watch := s.gCsynWatch
      if watch.live then
        match watch.mode with
        | .echo => some { s with pc := .copying watch }
        | .hz => some { s with pc := .measuring watch }
        | .line => some { s with pc := .copying watch }
        | .none => some { s with pc := .blocked }
      else some { s with pc := .blocked }
  | .copying watch =>
      let copied := shellCopy config s.registry s.gCsynShellBuf (watch.topic.getD 0)
      some { s with gCsynShellBuf := copied.2, pc := .rendering watch copied.1 }
  | .rendering watch sample =>
      some { s with
        lines := s.lines ++ [⟨watch, renderCopy s.gCsynShellBuf sample⟩]
        pc := .waiting watch }
  | .rereading =>
      let watch := s.gCsynWatch
      some { s with pc := if watch.live then .counting watch else .blocked }
  | .counting watch =>
      let generationNow := csynTopicGeneration (watch.topic.bind fun topic => s.registry[topic]?)
      some { s with pc := .timing watch generationNow }
  | .timing watch generationNow =>
      some { s with pc := .reporting watch generationNow (watch.later s.uptimeMs) }
  | .reporting watch generationNow nowMs =>
      some { s with
        lines := s.lines ++
          [⟨watch, .rate watch.lastGeneration generationNow watch.lastMs nowMs⟩]
        pc := .recording watch generationNow nowMs }
  | .recording watch generationNow nowMs =>
      some { s with
        gCsynWatch :=
          if s.gCsynWatch.stillMeasures watch then
            { s.gCsynWatch with lastGeneration := generationNow, lastMs := nowMs }
          else s.gCsynWatch
        pc := .reading }
  | _ => none

/-- `k_sem_take` returns 0. -/
def WatchSystem.take (s : WatchSystem) : Option WatchSystem :=
  if s.gCsynWatchSem then
    match s.pc with
    | .blocked | .waiting _ | .measuring _ =>
        some { s with gCsynWatchSem := false, pc := .reading }
    | _ => none
  else none

/-- `k_sem_take` returns `-EAGAIN` at the end of the period. -/
def WatchSystem.timeout (s : WatchSystem) : Option WatchSystem :=
  if s.gCsynWatchSem then none
  else
    match s.pc with
    | .waiting _ => some { s with pc := .reading }
    | .measuring _ => some { s with pc := .rereading }
    | _ => none

def WatchSystem.step (s : WatchSystem) : WatchAction → Option WatchSystem
  | .publish topic buf =>
      match s.registry[topic]? with
      | none => none
      | some entry =>
          let accepted := if (csynTopicPublish entry buf).1 then 1 else 0
          some { s with
            registry := publishAt s.registry topic buf
            published := Function.update s.published topic (s.published topic + accepted) }
  | .tick ms => some { s with uptimeMs := s.uptimeMs + ms }
  | .command sh command => s.command config sh command
  | .give =>
      if s.gives = 0 then none
      else some { s with gives := s.gives - 1, gCsynWatchSem := true }
  | .take => s.take
  | .timeout => s.timeout
  | .next => s.next config

end

/-! What a step can do. -/

/-- The thread waits on the semaphore. -/
def WatchPc.waits : WatchPc → Bool
  | .blocked => true
  | .waiting _ => true
  | .measuring _ => true
  | _ => false

/-- The steps, one for each way through the code. -/
inductive WatchSystem.Took (config : Kconfig) (s : WatchSystem) : WatchAction → WatchSystem → Prop
  | publish {topic : Nat} {entry : CsynTopic} {buf : Option (List UInt8)}
      (present : s.registry[topic]? = some entry) :
      s.Took config (.publish topic buf) { s with
        registry := publishAt s.registry topic buf
        published := Function.update s.published topic
          (s.published topic + if (csynTopicPublish entry buf).1 then 1 else 0) }
  | tick {ms : Nat} : s.Took config (.tick ms) { s with uptimeMs := s.uptimeMs + ms }
  | start {sh topic : Nat} {mode : CsynWatchMode} {periodMs : UInt32} {entry : CsynTopic}
      (present : s.registry[topic]? = some entry) (some_mode : mode ≠ .none) :
      s.Took config (.command sh (.start topic mode periodMs)) { s with
        gCsynWatch := ⟨some sh, some topic, mode, periodMs, entry.generation, s.uptimeMs, true⟩
        gives := s.gives + 1 }
  | copyOnce {sh topic : Nat} :
      s.Took config (.command sh (.copyOnce topic)) { s with
        gCsynShellBuf := (shellCopy config s.registry s.gCsynShellBuf topic).2 }
  | stop {sh : Nat} :
      s.Took config (.command sh .stop) { s with gCsynWatch := .stopped, gives := s.gives + 1 }
  | give (pending : s.gives ≠ 0) :
      s.Took config .give { s with gives := s.gives - 1, gCsynWatchSem := true }
  | take (given : s.gCsynWatchSem = true) (waits : s.pc.waits = true) :
      s.Took config .take { s with gCsynWatchSem := false, pc := .reading }
  | waited {watch : CsynWatch} (at_wait : s.pc = .waiting watch) :
      s.Took config .timeout { s with pc := .reading }
  | measured {watch : CsynWatch} (at_wait : s.pc = .measuring watch) :
      s.Took config .timeout { s with pc := .rereading }
  | readIdle (at_read : s.pc = .reading)
      (idle : s.gCsynWatch.live = false ∨ s.gCsynWatch.mode = .none) :
      s.Took config .next { s with pc := .blocked }
  | readPrint (at_read : s.pc = .reading) (live : s.gCsynWatch.live = true)
      (prints : s.gCsynWatch.mode = .echo ∨ s.gCsynWatch.mode = .line) :
      s.Took config .next { s with pc := .copying s.gCsynWatch }
  | readRate (at_read : s.pc = .reading) (live : s.gCsynWatch.live = true)
      (rates : s.gCsynWatch.mode = .hz) :
      s.Took config .next { s with pc := .measuring s.gCsynWatch }
  | copy {watch : CsynWatch} (at_copy : s.pc = .copying watch) :
      s.Took config .next { s with
        gCsynShellBuf := (shellCopy config s.registry s.gCsynShellBuf (watch.topic.getD 0)).2
        pc := .rendering watch
          (shellCopy config s.registry s.gCsynShellBuf (watch.topic.getD 0)).1 }
  | render {watch : CsynWatch} {sample : Option (List UInt8 × UInt32)}
      (at_render : s.pc = .rendering watch sample) :
      s.Took config .next { s with
        lines := s.lines ++ [⟨watch, renderCopy s.gCsynShellBuf sample⟩]
        pc := .waiting watch }
  | rereadIdle (at_read : s.pc = .rereading) (idle : s.gCsynWatch.live = false) :
      s.Took config .next { s with pc := .blocked }
  | reread (at_read : s.pc = .rereading) (live : s.gCsynWatch.live = true) :
      s.Took config .next { s with pc := .counting s.gCsynWatch }
  | count {watch : CsynWatch} (at_count : s.pc = .counting watch) :
      s.Took config .next { s with
        pc := .timing watch
          (csynTopicGeneration (watch.topic.bind fun topic => s.registry[topic]?)) }
  | time {watch : CsynWatch} {generationNow : UInt32}
      (at_time : s.pc = .timing watch generationNow) :
      s.Took config .next { s with
        pc := .reporting watch generationNow (watch.later s.uptimeMs) }
  | report {watch : CsynWatch} {generationNow : UInt32} {nowMs : Int}
      (at_report : s.pc = .reporting watch generationNow nowMs) :
      s.Took config .next { s with
        lines := s.lines ++
          [⟨watch, .rate watch.lastGeneration generationNow watch.lastMs nowMs⟩]
        pc := .recording watch generationNow nowMs }
  | record {watch : CsynWatch} {generationNow : UInt32} {nowMs : Int}
      (at_record : s.pc = .recording watch generationNow nowMs)
      (still : s.gCsynWatch.stillMeasures watch = true) :
      s.Took config .next { s with
        gCsynWatch := { s.gCsynWatch with lastGeneration := generationNow, lastMs := nowMs }
        pc := .reading }
  | skip {watch : CsynWatch} {generationNow : UInt32} {nowMs : Int}
      (at_record : s.pc = .recording watch generationNow nowMs)
      (gone : s.gCsynWatch.stillMeasures watch = false) :
      s.Took config .next { s with pc := .reading }

section

variable {config : Kconfig} {s t : WatchSystem}

theorem WatchSystem.next_took (taken : s.next config = some t) : s.Took config .next t := by
  unfold WatchSystem.next at taken
  split at taken
  · rename_i at_read
    dsimp only at taken
    split at taken
    · rename_i live
      split at taken
      · rename_i mode
        cases taken
        exact .readPrint at_read live (Or.inl mode)
      · rename_i mode
        cases taken
        exact .readRate at_read live mode
      · rename_i mode
        cases taken
        exact .readPrint at_read live (Or.inr mode)
      · rename_i mode
        cases taken
        exact .readIdle at_read (Or.inr mode)
    · rename_i idle
      cases taken
      exact .readIdle at_read (Or.inl (by simpa using idle))
  · rename_i watch at_copy
    cases taken
    exact .copy at_copy
  · rename_i watch sample at_render
    cases taken
    exact .render at_render
  · rename_i at_read
    dsimp only at taken
    cases live : s.gCsynWatch.live with
    | true =>
        rw [live, if_pos rfl] at taken
        cases taken
        exact .reread at_read live
    | false =>
        rw [live, if_neg Bool.false_ne_true] at taken
        cases taken
        exact .rereadIdle at_read live
  · rename_i watch at_count
    cases taken
    exact .count at_count
  · rename_i watch generationNow at_time
    cases taken
    exact .time at_time
  · rename_i watch generationNow nowMs at_report
    cases taken
    exact .report at_report
  · rename_i watch generationNow nowMs at_record
    cases still : s.gCsynWatch.stillMeasures watch with
    | true =>
        rw [still, if_pos rfl] at taken
        cases taken
        exact .record at_record still
    | false =>
        rw [still, if_neg Bool.false_ne_true] at taken
        cases taken
        exact .skip at_record still
  · cases taken

theorem WatchSystem.take_took (taken : s.take = some t) : s.Took config .take t := by
  unfold WatchSystem.take at taken
  split at taken
  · rename_i given
    split at taken
    · rename_i at_wait
      cases taken
      exact .take given (by rw [at_wait]; rfl)
    · rename_i at_wait
      cases taken
      exact .take given (by rw [at_wait]; rfl)
    · rename_i at_wait
      cases taken
      exact .take given (by rw [at_wait]; rfl)
    · cases taken
  · cases taken

theorem WatchSystem.timeout_took (taken : s.timeout = some t) : s.Took config .timeout t := by
  unfold WatchSystem.timeout at taken
  split at taken
  · cases taken
  · split at taken
    · rename_i at_wait
      cases taken
      exact .waited at_wait
    · rename_i at_wait
      cases taken
      exact .measured at_wait
    · cases taken

/-- Everything a step of the system can do. -/
theorem WatchSystem.step_took {action : WatchAction} (taken : s.step config action = some t) :
    s.Took config action t := by
  cases action with
  | publish topic buf =>
      unfold WatchSystem.step at taken
      dsimp only at taken
      cases present : s.registry[topic]? with
      | none =>
          rw [present] at taken
          cases taken
      | some entry =>
          rw [present] at taken
          cases taken
          exact .publish present
  | tick ms =>
      cases taken
      exact .tick
  | command sh command =>
      cases command with
      | start topic mode periodMs =>
          unfold WatchSystem.step WatchSystem.command at taken
          dsimp only at taken
          cases present : s.registry[topic]? with
          | none =>
              rw [present] at taken
              cases taken
          | some entry =>
              rw [present] at taken
              dsimp only at taken
              split at taken
              · cases taken
              · rename_i some_mode
                cases taken
                exact .start present some_mode
      | copyOnce topic =>
          cases taken
          exact .copyOnce
      | stop =>
          cases taken
          exact .stop
  | give =>
      unfold WatchSystem.step at taken
      dsimp only at taken
      split at taken
      · cases taken
      · rename_i pending
        cases taken
        exact .give pending
  | take => exact WatchSystem.take_took taken
  | timeout => exact WatchSystem.timeout_took taken
  | next => exact WatchSystem.next_took taken

end

end Csyn
