import Mathlib.Algebra.Order.Ring.Nat
import Csyn.BagProfile
import Csyn.BagRecord
import Csyn.Graph

set_option autoImplicit false

/- `bag_play` and `bag_export_jsonl` of rust/src/main.rs: two loops over the messages of a bag,
each of which ends with the first message that it cannot read. -/
namespace Csyn

/-- What is passed to `session.put` and `encoding`. -/
structure HostPut where
  key : Str
  payload : List UInt8
  encoding : Str
  deriving DecidableEq

/-- What a player does to the outside. -/
inductive PlayEvent where
  | sleep (scaledNs : Nat)
  | put (put : HostPut)
  deriving DecidableEq

/-- `f64`, and `Duration::from_secs_f64` on it: whole nanoseconds, and none where it panics. -/
structure F64 (F : Type) where
  ofU64 : UInt64 → F
  zero : F
  billion : F
  le : F → F → Bool
  div : F → F → F
  durationFromSecs : F → Option Nat

/-- `Duration::from_secs_f64(delta_ns as f64 / 1e9 / rate)` -/
def F64.scaled {F : Type} (f64 : F64 F) (rate : F) (deltaNs : UInt64) : Option Nat :=
  f64.durationFromSecs (f64.div (f64.div (f64.ofU64 deltaNs) f64.billion) rate)

/-- What one message meets: the shutdown flag, and what `put` returns. -/
structure PlayTurn where
  shutdown : Bool
  put : Except Str Unit

/-- Nothing in the way. -/
def PlayTurn.clear : PlayTurn := ⟨false, .ok ()⟩

/-- What `read_bag` returns, as `LinearReader` and `MessageStream` yield it. -/
structure BagFile where
  records : Except Str (List (Except Str McapRecord))
  messages : Except Str (List (Except Str McapMessage))

/-- The items of a loop, each with what it meets. -/
def meeting {α τ : Type} (turns : Nat → τ) (items : List α) : List (α × τ) :=
  items.zipIdx.map fun item => (item.1, turns item.2)

/-- The locals of the loop in `bag_play`, with what it did, oldest first. -/
structure Playing where
  previousNs : Option UInt64
  played : Nat
  events : List PlayEvent

/-- `ExportFrame`, with the payload before `BASE64`. -/
structure ExportFrame where
  logTimeNs : UInt64
  topic : Str
  wireType : Option Str
  encoding : Str
  valueContract : Str
  payload : List UInt8
  decoded : Option Str
  deriving DecidableEq

section

variable (profile : McapProfile) (fbs : SynapseFbs) (encodingForTopic : TopicInfo → Str) {F : Type}

/-- `TopicType::wire_type` -/
def TopicType.wireType (known : TopicType) : Option Str := some known.topic.wireType

/-- `TopicType::zenoh_encoding` -/
def TopicType.zenohEncoding (known : TopicType) : Str := encodingForTopic known.topic

/-- The publication of a sample that was read. -/
def BagSample.hostPut (sample : BagSample) : HostPut :=
  ⟨sample.key, sample.payload, sample.known.zenohEncoding encodingForTopic⟩

/-- `topic_filter.is_some_and(|filter| filter != message.channel.topic)` -/
def filteredOut (topicFilter : Option Str) (message : McapMessage) : Bool :=
  topicFilter.any fun filter => filter != message.channel.topic

/-- The sleep before a message that follows another one. A panic ends the run as an error does. -/
def Playing.pause (f64 : F64 F) (rate : F) (state : Playing) (logTime : UInt64) :
    Except Str Playing :=
  match state.previousNs with
  | none => .ok { state with previousNs := some logTime }
  | some previousNs =>
      match f64.scaled rate (saturatingSub logTime previousNs) with
      | none =>
          .error (str "cannot convert float seconds to Duration: value is either too big or NaN")
      | some scaledNs =>
          .ok { state with
            previousNs := some logTime
            events := state.events ++ [.sleep scaledNs] }

/-- The body of the loop in `bag_play`. -/
def playTurn (f64 : F64 F) (rate : F) (topicFilter : Option Str) (state : Playing)
    (item : Except Str McapMessage × PlayTurn) : Scan.Turn Playing (Except Str Unit) :=
  match item with
  | (.error _, _) => .stop state (.error (str "failed to read bag message"))
  | (.ok message, turn) =>
      if filteredOut topicFilter message then .next state
      else if turn.shutdown then .stop state (.ok ())
      else
        match state.pause f64 rate message.logTime with
        | .error error => .stop state (.error error)
        | .ok state =>
            match readMessage profile fbs message with
            | .error error => .stop state (.error error)
            | .ok sample =>
                match turn.put with
                | .error error =>
                    .stop state (.error (str "failed to publish " ++ message.channel.topic ++
                      str ": " ++ error))
                | .ok () =>
                    .next { state with
                      played := state.played + 1
                      events := state.events ++ [.put (sample.hostPut encodingForTopic)] }

/-- The loop of `bag_play`. -/
def playLoop (f64 : F64 F) (rate : F) (topicFilter : Option Str)
    (items : List (Except Str McapMessage × PlayTurn)) : Except Str Nat × List PlayEvent :=
  let (state, result) :=
    Scan.run (playTurn profile fbs encodingForTopic f64 rate topicFilter) ⟨none, 0, []⟩ items
  match result with
  | some (.error error) => (.error error, state.events)
  | _ => (.ok state.played, state.events)

/-- `bag_play`: how it ends, and what it did before. -/
def bagPlay (names : ProfileNames) (f64 : F64 F) (rate : F) (session : Except Str Unit)
    (file : Except Str BagFile) (topicFilter : Option Str) (turns : Nat → PlayTurn) :
    Except Str Nat × List PlayEvent :=
  if f64.le rate f64.zero then (.error (str "--rate must be positive"), [])
  else
    match session with
    | .error error => (.error error, [])
    | .ok () =>
        match file with
        | .error error => (.error error, [])
        | .ok file =>
            match profileMetadata names file.records with
            | .error error => (.error error, [])
            | .ok _ =>
                match file.messages with
                | .error _ => (.error (str "failed to open bag"), [])
                | .ok items =>
                    playLoop profile fbs encodingForTopic f64 rate topicFilter
                      (meeting turns items)

/-- The line of a sample that was read. The decoder has run on it already. -/
def BagSample.exportFrame (sample : BagSample) : Except Str ExportFrame :=
  match sample.known.decode fbs sample.payload with
  | .error error => .error error
  | .ok decoded =>
      .ok ⟨sample.logTime, sample.key, sample.known.wireType, sample.known.topic.encoding,
        sample.known.zenohEncoding encodingForTopic, sample.payload, some decoded⟩

/-- The line, for a sample that decodes. -/
def BagSample.frame (sample : BagSample) : ExportFrame :=
  ⟨sample.logTime, sample.key, sample.known.wireType, sample.known.topic.encoding,
    sample.known.zenohEncoding encodingForTopic, sample.payload,
    (sample.known.decode fbs sample.payload).toOption⟩

/-- The body of the loop in `bag_export_jsonl`; `write` is what writing the line returns. -/
def exportTurn (topicFilter : Option Str) (lines : List ExportFrame)
    (item : Except Str McapMessage × Except Str Unit) :
    Scan.Turn (List ExportFrame) (Except Str Unit) :=
  match item with
  | (.error _, _) => .stop lines (.error (str "failed to read bag message"))
  | (.ok message, write) =>
      if filteredOut topicFilter message then .next lines
      else
        match readMessage profile fbs message with
        | .error error => .stop lines (.error error)
        | .ok sample =>
            match sample.exportFrame fbs encodingForTopic with
            | .error error => .stop lines (.error error)
            | .ok line =>
                match write with
                | .error error => .stop lines (.error error)
                | .ok () => .next (lines ++ [line])

/-- The loop of `bag_export_jsonl` with the `flush` after it. -/
def exportLoop (topicFilter : Option Str) (flush : Except Str Unit)
    (items : List (Except Str McapMessage × Except Str Unit)) :
    Except Str Unit × List ExportFrame :=
  let (lines, result) := Scan.run (exportTurn profile fbs encodingForTopic topicFilter) [] items
  (result.getD flush, lines)

/-- `bag_export_jsonl`: how it ends, and the lines it wrote. `output` is what opening the output
returns, `writes` what writing each line returns and `flush` what the last call does. -/
def bagExportJsonl (names : ProfileNames) (file : Except Str BagFile) (output : Except Str Unit)
    (topicFilter : Option Str) (writes : Nat → Except Str Unit) (flush : Except Str Unit) :
    Except Str Unit × List ExportFrame :=
  match file with
  | .error error => (.error error, [])
  | .ok file =>
      match profileMetadata names file.records with
      | .error error => (.error error, [])
      | .ok _ =>
          match output with
          | .error error => (.error error, [])
          | .ok () =>
              match file.messages with
              | .error _ => (.error (str "failed to open bag"), [])
              | .ok items =>
                  exportLoop profile fbs encodingForTopic topicFilter flush (meeting writes items)

/-! ## What a bag has to play -/

/-- The selected samples of a bag up to the first one that cannot be read, and that error. -/
def readSelected (topicFilter : Option Str) :
    List (Except Str McapMessage) → List BagSample × Option Str
  | [] => ([], none)
  | .error _ :: _ => ([], some (str "failed to read bag message"))
  | .ok message :: rest =>
      if filteredOut topicFilter message then readSelected topicFilter rest
      else
        match readMessage profile fbs message with
        | .error error => ([], some error)
        | .ok sample =>
            (sample :: (readSelected topicFilter rest).1, (readSelected topicFilter rest).2)

end

/-- What is slept before a sample. -/
def pauseOf (scaled : UInt64 → Option Nat) (previousNs : Option UInt64) (logTime : UInt64) :
    List PlayEvent :=
  match previousNs with
  | none => []
  | some previousNs => ((scaled (saturatingSub logTime previousNs)).map .sleep).toList

/-- The events of samples that are played one after the other, from what was played before. -/
def playback (encodingForTopic : TopicInfo → Str) (scaled : UInt64 → Option Nat) :
    Option UInt64 → List BagSample → List PlayEvent
  | _, [] => []
  | previousNs, sample :: rest =>
      pauseOf scaled previousNs sample.logTime ++ .put (sample.hostPut encodingForTopic) ::
        playback encodingForTopic scaled (some sample.logTime) rest

/-- The time from a sample to the one after it can be slept. -/
def SleepsBefore (scaled : UInt64 → Option Nat) (previousNs : Option UInt64) (logTime : UInt64) :
    Prop :=
  ∀ sinceNs, previousNs = some sinceNs → (scaled (saturatingSub logTime sinceNs)).isSome

/-- No sleep between these samples panics. -/
def SleepsBetween (scaled : UInt64 → Option Nat) : Option UInt64 → List BagSample → Prop
  | _, [] => True
  | previousNs, sample :: rest =>
      SleepsBefore scaled previousNs sample.logTime ∧
        SleepsBetween scaled (some sample.logTime) rest

/-- The time between any two messages of a bag can be slept, whichever are selected. -/
def SleepsThrough (scaled : UInt64 → Option Nat) (items : List (Except Str McapMessage)) : Prop :=
  ∀ earlier later, .ok earlier ∈ items → .ok later ∈ items →
    SleepsBefore scaled (some earlier.logTime) later.logTime

/-- The puts among the events. -/
def putsOf (events : List PlayEvent) : List HostPut :=
  events.filterMap fun
    | .sleep _ => none
    | .put put => some put

/-- What the sleeps add up to. -/
def sleptIn (events : List PlayEvent) : Nat :=
  (events.map fun
    | .sleep scaledNs => scaledNs
    | .put _ => 0).sum

theorem putsOf_append (first second : List PlayEvent) :
    putsOf (first ++ second) = putsOf first ++ putsOf second :=
  List.filterMap_append

theorem sleptIn_append (first second : List PlayEvent) :
    sleptIn (first ++ second) = sleptIn first + sleptIn second := by
  rw [sleptIn, List.map_append, List.sum_append]
  rfl

section

variable {profile : McapProfile} {fbs : SynapseFbs} {encodingForTopic : TopicInfo → Str} {F : Type}
  {f64 : F64 F} {rate : F} {scaled : UInt64 → Option Nat} {topicFilter : Option Str}

theorem putsOf_pauseOf (previousNs : Option UInt64) (logTime : UInt64) :
    putsOf (pauseOf scaled previousNs logTime) = [] := by
  cases previousNs with
  | none => rfl
  | some previousNs =>
      unfold pauseOf
      dsimp only
      cases scaled (saturatingSub logTime previousNs) <;> rfl

theorem putsOf_playback (previousNs : Option UInt64) (samples : List BagSample) :
    putsOf (playback encodingForTopic scaled previousNs samples) =
      samples.map (·.hostPut encodingForTopic) := by
  induction samples generalizing previousNs with
  | nil => rfl
  | cons sample rest ih =>
      rw [playback, putsOf_append, putsOf_pauseOf, List.nil_append, List.map_cons,
        ← ih (some sample.logTime)]
      rfl

/-! ## One turn -/

theorem Playing.pause_ok {state after : Playing} {logTime : UInt64}
    (paused : state.pause f64 rate logTime = .ok after) :
    SleepsBefore (f64.scaled rate) state.previousNs logTime ∧
    after = { state with
      previousNs := some logTime
      events := state.events ++ pauseOf (f64.scaled rate) state.previousNs logTime } := by
  unfold Playing.pause at paused
  unfold SleepsBefore pauseOf
  cases since : state.previousNs with
  | none =>
      rw [since] at paused
      cases paused
      exact ⟨nofun, by rw [List.append_nil]⟩
  | some previousNs =>
      rw [since] at paused
      dsimp only at paused ⊢
      cases slept : f64.scaled rate (saturatingSub logTime previousNs) with
      | none =>
          rw [slept] at paused
          cases paused
      | some scaledNs =>
          rw [slept] at paused
          cases paused
          refine ⟨?_, rfl⟩
          intro sinceNs same
          cases same
          rw [slept]
          rfl

theorem Playing.pause_sleeps {state : Playing} {logTime : UInt64}
    (sleeps : SleepsBefore (f64.scaled rate) state.previousNs logTime) :
    ∃ after, state.pause f64 rate logTime = .ok after := by
  unfold Playing.pause
  cases since : state.previousNs with
  | none => exact ⟨_, rfl⟩
  | some previousNs =>
      obtain ⟨scaledNs, slept⟩ := Option.isSome_iff_exists.mp (sleeps previousNs since)
      dsimp only
      rw [slept]
      exact ⟨_, rfl⟩

/-- A message that was read keeps its time. -/
theorem readMessage_ok {message : McapMessage} {sample : BagSample}
    (read : readMessage profile fbs message = .ok sample) :
    sample.key = message.channel.topic ∧ sample.logTime = message.logTime ∧
      ∃ text, sample.known.decode fbs sample.payload = .ok text := by
  unfold readMessage at read
  split at read
  · cases read
  · split at read
    · cases read
    · split at read
      · cases read
      · rename_i text decoded
        cases read
        exact ⟨rfl, rfl, text, decoded⟩

/-- The locals once a sample is put. -/
def Playing.advance (encodingForTopic : TopicInfo → Str) (scaled : UInt64 → Option Nat)
    (state : Playing) (sample : BagSample) : Playing where
  previousNs := some sample.logTime
  played := state.played + 1
  events := state.events ++ (pauseOf scaled state.previousNs sample.logTime ++
    [.put (sample.hostPut encodingForTopic)])

/-- A turn for a message that is selected and read either stops before it puts anything, or puts
the sample after the pause. It stops only where something is in the way. -/
theorem playTurn_read (encodingForTopic : TopicInfo → Str) (f64 : F64 F) (rate : F)
    (state : Playing) (turn : PlayTurn) {message : McapMessage} {sample : BagSample}
    (selected : filteredOut topicFilter message = false)
    (read : readMessage profile fbs message = .ok sample) :
    (SleepsBefore (f64.scaled rate) state.previousNs sample.logTime ∧
      playTurn profile fbs encodingForTopic f64 rate topicFilter state (.ok message, turn) =
        .next (state.advance encodingForTopic (f64.scaled rate) sample)) ∨
    (¬ (turn = .clear ∧ SleepsBefore (f64.scaled rate) state.previousNs message.logTime) ∧
      ∃ after result quiet,
      playTurn profile fbs encodingForTopic f64 rate topicFilter state (.ok message, turn) =
        .stop after result ∧ after.played = state.played ∧
      after.events = state.events ++ quiet ∧ putsOf quiet = []) := by
  obtain ⟨-, timed, -⟩ := readMessage_ok read
  unfold playTurn
  simp only [selected, Bool.false_eq_true, ↓reduceIte]
  by_cases down : turn.shutdown = true
  · rw [if_pos down]
    refine Or.inr ⟨?_, state, _, [], rfl, rfl, (List.append_nil _).symm, rfl⟩
    rintro ⟨rfl, -⟩
    cases down
  · rw [if_neg down]
    cases paused : state.pause f64 rate message.logTime with
    | error error =>
        refine Or.inr ⟨?_, state, _, [], rfl, rfl, (List.append_nil _).symm, rfl⟩
        rintro ⟨-, sleeps⟩
        obtain ⟨after, ok⟩ := Playing.pause_sleeps sleeps
        rw [paused] at ok
        cases ok
    | ok after =>
        obtain ⟨sleeps, same⟩ := Playing.pause_ok paused
        subst same
        dsimp only
        rw [read]
        dsimp only
        cases sent : turn.put with
        | error error =>
            refine Or.inr ⟨?_, _, _, _, rfl, rfl, rfl, putsOf_pauseOf _ _⟩
            rintro ⟨rfl, -⟩
            cases sent
        | ok done =>
            refine Or.inl ⟨timed ▸ sleeps, ?_⟩
            unfold Playing.advance
            dsimp only
            rw [timed, List.append_assoc]

/-- A turn for a selected message that cannot be read stops. -/
theorem playTurn_unreadable (encodingForTopic : TopicInfo → Str) (f64 : F64 F) (rate : F)
    (state : Playing) (turn : PlayTurn) {message : McapMessage} {error : Str}
    (selected : filteredOut topicFilter message = false)
    (unreadable : readMessage profile fbs message = .error error) :
    ∃ after result quiet,
      playTurn profile fbs encodingForTopic f64 rate topicFilter state (.ok message, turn) =
        .stop after result ∧ after.played = state.played ∧
      after.events = state.events ++ quiet ∧ putsOf quiet = [] ∧
      (turn = .clear → SleepsBefore (f64.scaled rate) state.previousNs message.logTime →
        result = .error error) := by
  unfold playTurn
  simp only [selected, Bool.false_eq_true, ↓reduceIte]
  by_cases down : turn.shutdown = true
  · rw [if_pos down]
    refine ⟨state, _, [], rfl, rfl, (List.append_nil _).symm, rfl, ?_⟩
    rintro rfl
    cases down
  · rw [if_neg down]
    cases paused : state.pause f64 rate message.logTime with
    | error error =>
        refine ⟨state, _, [], rfl, rfl, (List.append_nil _).symm, rfl, ?_⟩
        intro _ sleeps
        obtain ⟨after, ok⟩ := Playing.pause_sleeps sleeps
        rw [paused] at ok
        cases ok
    | ok after =>
        obtain ⟨-, same⟩ := Playing.pause_ok paused
        subst same
        dsimp only
        rw [unreadable]
        exact ⟨_, _, _, rfl, rfl, rfl, putsOf_pauseOf _ _, fun _ _ => rfl⟩

/-- The same two cases for a line: it is written, or its writing fails. -/
theorem exportTurn_read (encodingForTopic : TopicInfo → Str) (lines : List ExportFrame)
    (write : Except Str Unit) {message : McapMessage} {sample : BagSample}
    (selected : filteredOut topicFilter message = false)
    (read : readMessage profile fbs message = .ok sample) :
    (exportTurn profile fbs encodingForTopic topicFilter lines (.ok message, write) =
      .next (lines ++ [sample.frame fbs encodingForTopic])) ∨
    (write ≠ .ok () ∧ ∃ result,
      exportTurn profile fbs encodingForTopic topicFilter lines (.ok message, write) =
        .stop lines result) := by
  obtain ⟨-, -, text, decoded⟩ := readMessage_ok read
  unfold exportTurn BagSample.exportFrame BagSample.frame
  simp only [selected, read, decoded, Bool.false_eq_true, ↓reduceIte]
  cases write with
  | error error => exact Or.inr ⟨by rintro ⟨⟩, _, rfl⟩
  | ok done => exact Or.inl rfl

/-! ## Whole loops -/

/-- A player has put a first part of the selected samples, and all of them where nothing was in
the way; behind them it may have slept once more. -/
theorem playLoop_run (profile : McapProfile) (fbs : SynapseFbs)
    (encodingForTopic : TopicInfo → Str) (f64 : F64 F) (rate : F) (topicFilter : Option Str)
    (items : List (Except Str McapMessage × PlayTurn)) (state : Playing) :
    ∃ n quiet, n ≤ (readSelected profile fbs topicFilter (items.map Prod.fst)).1.length ∧
      (Scan.run (playTurn profile fbs encodingForTopic f64 rate topicFilter) state
        items).1.played = state.played + n ∧
      (Scan.run (playTurn profile fbs encodingForTopic f64 rate topicFilter) state
        items).1.events = state.events ++ (playback encodingForTopic (f64.scaled rate)
          state.previousNs
          ((readSelected profile fbs topicFilter (items.map Prod.fst)).1.take n) ++ quiet) ∧
      putsOf quiet = [] ∧
      SleepsBetween (f64.scaled rate) state.previousNs
        ((readSelected profile fbs topicFilter (items.map Prod.fst)).1.take n) ∧
      ((∀ item ∈ items, item.2 = .clear) →
        (∀ message, .ok message ∈ items.map Prod.fst →
          SleepsBefore (f64.scaled rate) state.previousNs message.logTime) →
        SleepsThrough (f64.scaled rate) (items.map Prod.fst) →
        n = (readSelected profile fbs topicFilter (items.map Prod.fst)).1.length ∧
        (Scan.run (playTurn profile fbs encodingForTopic f64 rate topicFilter) state
          items).2 = (readSelected profile fbs topicFilter (items.map Prod.fst)).2.map .error) := by
  induction items generalizing state with
  | nil =>
      exact ⟨0, [], Nat.le_refl _, rfl, by simp [playback], rfl, trivial, fun _ _ _ => ⟨rfl, rfl⟩⟩
  | cons item rest ih =>
      obtain ⟨message, turn⟩ := item
      have behind : ∀ {items : List (Except Str McapMessage)},
          SleepsThrough (f64.scaled rate) (message :: items) →
          SleepsThrough (f64.scaled rate) items := fun through earlier later before after =>
        through earlier later (List.mem_cons_of_mem _ before) (List.mem_cons_of_mem _ after)
      cases message with
      | error error =>
          exact ⟨0, [], Nat.zero_le _, rfl, by simp [Scan.run, playTurn, playback], rfl, trivial,
            fun _ _ _ => ⟨rfl, rfl⟩⟩
      | ok message =>
          cases selected : filteredOut topicFilter message with
          | true =>
              have skipped : playTurn profile fbs encodingForTopic f64 rate topicFilter state
                  (.ok message, turn) = .next state := by
                simp only [playTurn, selected, ↓reduceIte]
              rw [Scan.run_next skipped]
              simp only [List.map_cons, readSelected, selected, ↓reduceIte]
              obtain ⟨n, quiet, bounded, counted, traced, silent, sleeps, clear⟩ := ih state
              exact ⟨n, quiet, bounded, counted, traced, silent, sleeps, fun all since through =>
                clear (fun item member => all item (List.mem_cons_of_mem _ member))
                  (fun later member => since later (List.mem_cons_of_mem _ member))
                  (behind through)⟩
          | false =>
              cases read : readMessage profile fbs message with
              | error error =>
                  obtain ⟨after, result, quiet, stops, counted, traced, silent, clear⟩ :=
                    playTurn_unreadable encodingForTopic f64 rate state turn selected read
                  rw [Scan.run_stop stops]
                  simp only [List.map_cons, readSelected, selected, read, Bool.false_eq_true,
                    ↓reduceIte]
                  refine ⟨0, quiet, Nat.le_refl _, counted, traced, silent, trivial, ?_⟩
                  intro all since _
                  rw [clear (all _ List.mem_cons_self) (since _ List.mem_cons_self)]
                  exact ⟨rfl, rfl⟩
              | ok sample =>
                  obtain ⟨-, timed, -⟩ := readMessage_ok read
                  simp only [List.map_cons, readSelected, selected, read, Bool.false_eq_true,
                    ↓reduceIte]
                  rcases playTurn_read encodingForTopic f64 rate state turn selected read
                    with ⟨slept, goes⟩ | ⟨disturbed, after, result, quiet, stops, counted, traced,
                      silent⟩
                  · rw [Scan.run_next goes]
                    obtain ⟨n, quiet, bounded, counted, traced, silent, sleeps, clear⟩ :=
                      ih (state.advance encodingForTopic (f64.scaled rate) sample)
                    refine ⟨n + 1, quiet, Nat.succ_le_succ bounded, ?_, ?_, silent,
                      ⟨slept, sleeps⟩, ?_⟩
                    · rw [counted, Playing.advance, Nat.add_assoc, Nat.add_comm 1]
                    · rw [traced, List.take_succ_cons, playback]
                      simp only [Playing.advance, List.append_assoc, List.cons_append,
                        List.nil_append]
                    · intro all since through
                      have onward : ∀ later, .ok later ∈ rest.map Prod.fst →
                          SleepsBefore (f64.scaled rate) (some sample.logTime) later.logTime := by
                        intro later member
                        rw [timed]
                        exact through message later List.mem_cons_self
                          (List.mem_cons_of_mem _ member)
                      obtain ⟨whole, ended⟩ :=
                        clear (fun item member => all item (List.mem_cons_of_mem _ member)) onward
                          (behind through)
                      rw [whole]
                      exact ⟨rfl, ended⟩
                  · rw [Scan.run_stop stops]
                    refine ⟨0, quiet, Nat.zero_le _, counted, traced, silent, trivial, ?_⟩
                    intro all since _
                    exact absurd ⟨all _ List.mem_cons_self, since _ List.mem_cons_self⟩ disturbed

/-- An export has written the lines of a first part of the selected samples, and of all of them
where no write failed. -/
theorem exportLoop_run (profile : McapProfile) (fbs : SynapseFbs)
    (encodingForTopic : TopicInfo → Str) (topicFilter : Option Str)
    (items : List (Except Str McapMessage × Except Str Unit)) (lines : List ExportFrame) :
    ∃ n ≤ (readSelected profile fbs topicFilter (items.map Prod.fst)).1.length,
      (Scan.run (exportTurn profile fbs encodingForTopic topicFilter) lines items).1 =
        lines ++ ((readSelected profile fbs topicFilter (items.map Prod.fst)).1.take n).map
          (·.frame fbs encodingForTopic) ∧
      ((∀ item ∈ items, item.2 = .ok ()) →
        n = (readSelected profile fbs topicFilter (items.map Prod.fst)).1.length ∧
        (Scan.run (exportTurn profile fbs encodingForTopic topicFilter) lines items).2 =
          (readSelected profile fbs topicFilter (items.map Prod.fst)).2.map .error) := by
  induction items generalizing lines with
  | nil => exact ⟨0, Nat.le_refl _, (List.append_nil _).symm, fun _ => ⟨rfl, rfl⟩⟩
  | cons item rest ih =>
      obtain ⟨message, write⟩ := item
      cases message with
      | error error =>
          exact ⟨0, Nat.zero_le _, (List.append_nil _).symm, fun _ => ⟨rfl, rfl⟩⟩
      | ok message =>
          cases selected : filteredOut topicFilter message with
          | true =>
              have skipped : exportTurn profile fbs encodingForTopic topicFilter lines
                  (.ok message, write) = .next lines := by
                simp only [exportTurn, selected, ↓reduceIte]
              rw [Scan.run_next skipped]
              simp only [List.map_cons, readSelected, selected, ↓reduceIte]
              obtain ⟨n, bounded, written, clear⟩ := ih lines
              exact ⟨n, bounded, written,
                fun all => clear fun item member => all item (List.mem_cons_of_mem _ member)⟩
          | false =>
              cases read : readMessage profile fbs message with
              | error error =>
                  have stops : exportTurn profile fbs encodingForTopic topicFilter lines
                      (.ok message, write) = .stop lines (.error error) := by
                    simp only [exportTurn, selected, read, Bool.false_eq_true, ↓reduceIte]
                  rw [Scan.run_stop stops]
                  simp only [List.map_cons, readSelected, selected, read, Bool.false_eq_true,
                    ↓reduceIte]
                  exact ⟨0, Nat.le_refl _, (List.append_nil _).symm, fun _ => ⟨rfl, rfl⟩⟩
              | ok sample =>
                  simp only [List.map_cons, readSelected, selected, read, Bool.false_eq_true,
                    ↓reduceIte]
                  rcases exportTurn_read encodingForTopic lines write selected read
                    with goes | ⟨failed, result, stops⟩
                  · rw [Scan.run_next goes]
                    obtain ⟨n, bounded, written, clear⟩ :=
                      ih (lines ++ [sample.frame fbs encodingForTopic])
                    refine ⟨n + 1, Nat.succ_le_succ bounded, ?_, ?_⟩
                    · rw [written, List.take_succ_cons, List.map_cons, List.append_assoc]
                      rfl
                    · intro all
                      obtain ⟨whole, ended⟩ :=
                        clear fun item member => all item (List.mem_cons_of_mem _ member)
                      rw [whole]
                      exact ⟨rfl, ended⟩
                  · rw [Scan.run_stop stops]
                    refine ⟨0, Nat.zero_le _, (List.append_nil _).symm, ?_⟩
                    intro all
                    exact absurd (all _ List.mem_cons_self) failed

theorem meeting_fst {α τ : Type} (turns : Nat → τ) (items : List α) :
    (meeting turns items).map Prod.fst = items := by
  unfold meeting
  rw [List.map_map]
  exact List.zipIdx_map_fst 0 items

theorem meeting_snd {α τ : Type} {turns : Nat → τ} {turn : τ} (same : ∀ i, turns i = turn)
    (items : List α) : ∀ item ∈ meeting turns items, item.2 = turn := by
  intro item member
  obtain ⟨pair, -, rfl⟩ := List.mem_map.mp member
  exact same pair.2

end

end Csyn
