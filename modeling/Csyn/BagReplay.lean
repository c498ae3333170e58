import Mathlib.Algebra.Order.Field.Rat
import Mathlib.Tactic.Linarith
import Csyn.BagPlay
import Csyn.GraphRates

set_option autoImplicit false

/- What the reading loops of rust/src/main.rs make of a bag: against each other, and in time. -/
namespace Csyn

/-! ## Playing and exporting -/

/-- The publication that a line describes. -/
def ExportFrame.hostPut (line : ExportFrame) : HostPut :=
  ⟨line.topic, line.payload, line.valueContract⟩

/-- The publications of a player are the lines of an export, and both end the same way. -/
structure PlaysExport (played : Except Str Nat × List PlayEvent)
    (exported : Except Str Unit × List ExportFrame) : Prop where
  puts : putsOf played.2 = exported.2.map ExportFrame.hostPut
  ends : played.1 = exported.1.map fun _ => exported.2.length

section

variable {profile : McapProfile} {fbs : SynapseFbs} {encodingForTopic : TopicInfo → Str}
  {F : Type} {f64 : F64 F} {rate : F} {topicFilter : Option Str}

theorem map_frame_hostPut (samples : List BagSample) :
    (samples.map (·.frame fbs encodingForTopic)).map ExportFrame.hostPut =
      samples.map (·.hostPut encodingForTopic) := by
  rw [List.map_map]
  rfl

/-- A loop of `bag_play` plays a first part of the samples that are there to be played. -/
theorem playLoop_events (profile : McapProfile) (fbs : SynapseFbs)
    (encodingForTopic : TopicInfo → Str) (f64 : F64 F) (rate : F) (topicFilter : Option Str)
    (items : List (Except Str McapMessage)) (turns : Nat → PlayTurn) :
    ∃ n quiet, putsOf quiet = [] ∧
      SleepsBetween (f64.scaled rate) none
        ((readSelected profile fbs topicFilter items).1.take n) ∧
      (playLoop profile fbs encodingForTopic f64 rate topicFilter (meeting turns items)).2 =
        playback encodingForTopic (f64.scaled rate) none
          ((readSelected profile fbs topicFilter items).1.take n) ++ quiet := by
  obtain ⟨n, quiet, -, -, traced, silent, sleeps, -⟩ :=
    playLoop_run profile fbs encodingForTopic f64 rate topicFilter (meeting turns items)
      ⟨none, 0, []⟩
  rw [meeting_fst, List.nil_append] at traced
  rw [meeting_fst] at sleeps
  refine ⟨n, quiet, silent, sleeps, ?_⟩
  rw [← traced]
  unfold playLoop
  dsimp only
  split
  · rfl
  · rfl

theorem playLoop_puts (items : List (Except Str McapMessage)) (turns : Nat → PlayTurn) :
    putsOf (playLoop profile fbs encodingForTopic f64 rate topicFilter
        (meeting turns items)).2 <+:
      (readSelected profile fbs topicFilter items).1.map (·.hostPut encodingForTopic) := by
  obtain ⟨n, quiet, silent, -, events⟩ :=
    playLoop_events profile fbs encodingForTopic f64 rate topicFilter items turns
  rw [events, putsOf_append, silent, List.append_nil, putsOf_playback, List.map_take]
  exact List.take_prefix n _

/-- With nothing in the way everything is played that can be read. -/
theorem playLoop_clear (profile : McapProfile) (fbs : SynapseFbs)
    (encodingForTopic : TopicInfo → Str) (topicFilter : Option Str)
    {items : List (Except Str McapMessage)} (sleeps : SleepsThrough (f64.scaled rate) items) :
    putsOf (playLoop profile fbs encodingForTopic f64 rate topicFilter
        (meeting (fun _ => .clear) items)).2 =
        (readSelected profile fbs topicFilter items).1.map (·.hostPut encodingForTopic) ∧
      (playLoop profile fbs encodingForTopic f64 rate topicFilter
        (meeting (fun _ => .clear) items)).1 =
        match (readSelected profile fbs topicFilter items).2 with
        | some error => .error error
        | none => .ok (readSelected profile fbs topicFilter items).1.length := by
  obtain ⟨n, quiet, -, counted, traced, silent, -, clear⟩ :=
    playLoop_run profile fbs encodingForTopic f64 rate topicFilter
      (meeting (fun _ => .clear) items) ⟨none, 0, []⟩
  rw [meeting_fst] at traced clear
  obtain ⟨whole, ended⟩ := clear (meeting_snd (fun _ => rfl) items)
    (fun _ _ => nofun) sleeps
  rw [List.nil_append, whole, List.take_length] at traced
  rw [Nat.zero_add, whole] at counted
  unfold playLoop
  dsimp only
  rw [ended]
  constructor
  · have events := congrArg putsOf traced
    rw [putsOf_append, silent, List.append_nil, putsOf_playback] at events
    cases (readSelected profile fbs topicFilter items).2 with
    | none => exact events
    | some error => exact events
  · cases (readSelected profile fbs topicFilter items).2 with
    | none => exact congrArg Except.ok counted
    | some error => rfl

theorem exportLoop_prefix (items : List (Except Str McapMessage)) (writes : Nat → Except Str Unit)
    (flush : Except Str Unit) :
    (exportLoop profile fbs encodingForTopic topicFilter flush (meeting writes items)).2 <+:
      (readSelected profile fbs topicFilter items).1.map (·.frame fbs encodingForTopic) := by
  obtain ⟨n, -, written, -⟩ :=
    exportLoop_run profile fbs encodingForTopic topicFilter (meeting writes items) []
  rw [meeting_fst, List.nil_append, List.map_take] at written
  unfold exportLoop
  dsimp only
  rw [written]
  exact List.take_prefix n _

theorem exportLoop_clear (items : List (Except Str McapMessage)) :
    exportLoop profile fbs encodingForTopic topicFilter (.ok ())
        (meeting (fun _ => .ok ()) items) =
      (match (readSelected profile fbs topicFilter items).2 with
        | some error => .error error
        | none => .ok (),
      (readSelected profile fbs topicFilter items).1.map (·.frame fbs encodingForTopic)) := by
  obtain ⟨n, -, written, clear⟩ :=
    exportLoop_run profile fbs encodingForTopic topicFilter (meeting (fun _ => .ok ()) items) []
  obtain ⟨whole, ended⟩ := clear (meeting_snd (fun _ => rfl) items)
  rw [meeting_fst] at written whole ended
  rw [List.nil_append, whole, List.take_length] at written
  unfold exportLoop
  dsimp only
  rw [ended, written]
  cases (readSelected profile fbs topicFilter items).2 with
  | none => rfl
  | some error => rfl

end

/-- What `bag_play` publishes of a bag is what `bag_export_jsonl` writes of it, up to the same
message and with the same error. Whatever gets in the way of either, it has then passed on a first
part of that. -/
theorem play_and_export_agree (profile : McapProfile) (fbs : SynapseFbs)
    (encodingForTopic : TopicInfo → Str) (names : ProfileNames) {F : Type} (f64 : F64 F)
    (file : BagFile) (topicFilter : Option Str) :
    let exported := bagExportJsonl profile fbs encodingForTopic names (.ok file) (.ok ())
      topicFilter (fun _ => .ok ()) (.ok ())
    (∀ rate, f64.le rate f64.zero = false →
      (∀ items, file.messages = .ok items → SleepsThrough (f64.scaled rate) items) →
      PlaysExport (bagPlay profile fbs encodingForTopic names f64 rate (.ok ()) (.ok file)
        topicFilter fun _ => .clear) exported) ∧
    (∀ rate session turns,
      putsOf (bagPlay profile fbs encodingForTopic names f64 rate session (.ok file) topicFilter
        turns).2 <+: exported.2.map ExportFrame.hostPut) ∧
    ∀ output writes flush,
      (bagExportJsonl profile fbs encodingForTopic names (.ok file) output topicFilter writes
        flush).2 <+: exported.2 := by
  unfold bagExportJsonl bagPlay
  dsimp only
  cases profileMetadata names file.records with
  | error error =>
      refine ⟨?_, ?_, fun _ _ _ => List.nil_prefix⟩
      · intro rate positive _
        rw [if_neg (ne_true_of_eq_false positive)]
        exact ⟨rfl, rfl⟩
      · intro rate session turns
        by_cases refused : f64.le rate f64.zero = true
        · rw [if_pos refused]
          exact List.nil_prefix
        · rw [if_neg refused]
          cases session <;> exact List.nil_prefix
  | ok metadata =>
      cases file.messages with
      | error error =>
          refine ⟨?_, ?_, ?_⟩
          · intro rate positive _
            rw [if_neg (ne_true_of_eq_false positive)]
            exact ⟨rfl, rfl⟩
          · intro rate session turns
            by_cases refused : f64.le rate f64.zero = true
            · rw [if_pos refused]
              exact List.nil_prefix
            · rw [if_neg refused]
              cases session <;> exact List.nil_prefix
          · intro output writes flush
            cases output <;> exact List.nil_prefix
      | ok items =>
          dsimp only
          rw [exportLoop_clear]
          refine ⟨?_, ?_, ?_⟩
          · intro rate positive sleeps
            rw [if_neg (ne_true_of_eq_false positive)]
            obtain ⟨puts, ends⟩ :=
              playLoop_clear profile fbs encodingForTopic topicFilter (sleeps items rfl)
            refine ⟨puts.trans (map_frame_hostPut _).symm, ends.trans ?_⟩
            dsimp only
            rw [List.length_map]
            cases (readSelected profile fbs topicFilter items).2 with
            | none => rfl
            | some error => rfl
          · intro rate session turns
            rw [map_frame_hostPut]
            by_cases refused : f64.le rate f64.zero = true
            · rw [if_pos refused]
              exact List.nil_prefix
            · rw [if_neg refused]
              cases session with
              | error error => exact List.nil_prefix
              | ok done => exact playLoop_puts items turns
          · intro output writes flush
            cases output with
            | error error => exact List.nil_prefix
            | ok done => exact exportLoop_prefix items writes flush

/-! ## The time between the publications -/

/-- The time since what was played before. -/
def deltaSince (previousNs : Option UInt64) (logTime : UInt64) : Nat :=
  match previousNs with
  | none => 0
  | some sinceNs => logTime.toNat - sinceNs.toNat

/-- What the time before and between these samples adds up to. -/
def elapsed : Option UInt64 → List BagSample → Nat
  | _, [] => 0
  | previousNs, sample :: rest =>
      deltaSince previousNs sample.logTime + elapsed (some sample.logTime) rest

/-- At this rate the log time passes `speed` times as fast: what is slept for a delta is its
quotient, give or take what the two divisions and the conversion to nanoseconds round away. -/
def F64.Paces {F : Type} (f64 : F64 F) (rate : F) (speed slack : ℚ) : Prop :=
  ∀ deltaNs scaledNs, f64.scaled rate deltaNs = some scaledNs →
    |(scaledNs : ℚ) - deltaNs.toNat / speed| ≤ slack

/-- The rate is accepted, and every time there can be between two messages can be slept at it. -/
structure F64.Playable {F : Type} (f64 : F64 F) (rate : F) : Prop where
  positive : f64.le rate f64.zero = false
  sleeps : ∀ deltaNs, (f64.scaled rate deltaNs).isSome

section

variable {encodingForTopic : TopicInfo → Str} {F : Type} {f64 : F64 F} {rate : F}
  {speed slack : ℚ}

theorem F64.Playable.sleepsThrough (playable : f64.Playable rate)
    (items : List (Except Str McapMessage)) : SleepsThrough (f64.scaled rate) items :=
  fun _ _ _ _ _ _ => playable.sleeps _

/-- Times that add up, with what they may be off. -/
theorem near_add {slept slept' exact_ exact_' off off' : ℚ} (first : |slept - exact_| ≤ off)
    (later : |slept' - exact_'| ≤ off') :
    |slept + slept' - (exact_ + exact_')| ≤ off + off' := by
  rw [add_sub_add_comm]
  exact (abs_add_le _ _).trans (add_le_add first later)

theorem pauseOf_near (paces : f64.Paces rate speed slack) {previousNs : Option UInt64}
    {logTime : UInt64} (sleeps : SleepsBefore (f64.scaled rate) previousNs logTime) :
    |(sleptIn (pauseOf (f64.scaled rate) previousNs logTime) : ℚ) -
      deltaSince previousNs logTime / speed| ≤ previousNs.toList.length * slack := by
  cases previousNs with
  | none => simp [pauseOf, sleptIn, deltaSince]
  | some sinceNs =>
      obtain ⟨scaledNs, slept⟩ := Option.isSome_iff_exists.mp (sleeps sinceNs rfl)
      have near := paces _ _ slept
      rw [saturatingSub_toNat] at near
      unfold pauseOf deltaSince
      dsimp only
      rw [slept]
      simpa [sleptIn] using near

/-- Behind the pause of a sample, the events begin with its put. -/
theorem split_at_put {scaled : UInt64 → Option Nat} {previousNs : Option UInt64}
    {logTime : UInt64} {own put : HostPut} {events before after : List PlayEvent}
    (same : pauseOf scaled previousNs logTime ++ .put own :: events = before ++ .put put :: after) :
    (before = pauseOf scaled previousNs logTime ∧ put = own) ∨
      ∃ later, before = pauseOf scaled previousNs logTime ++ .put own :: later ∧
        events = later ++ .put put :: after := by
  have here : ∀ before, PlayEvent.put own :: events = before ++ .put put :: after →
      (before = [] ∧ put = own) ∨
        ∃ later, before = .put own :: later ∧ events = later ++ .put put :: after := by
    intro before same
    cases before with
    | nil =>
        cases same
        exact Or.inl ⟨rfl, rfl⟩
    | cons event later =>
        cases same
        exact Or.inr ⟨later, rfl, rfl⟩
  unfold pauseOf at same ⊢
  cases previousNs with
  | none => exact here before same
  | some previousNs =>
      dsimp only at same ⊢
      cases slept : scaled (saturatingSub logTime previousNs) with
      | none =>
          rw [slept] at same
          exact here before same
      | some scaledNs =>
          rw [slept] at same
          cases before with
          | nil => cases same
          | cons event rest =>
              rw [Option.map_some, Option.toList_some, List.singleton_append, List.cons_append,
                List.cons.injEq] at same
              obtain ⟨rfl, same⟩ := same
              rcases here rest same with ⟨rfl, own_⟩ | ⟨later, rfl, rest_⟩
              · exact Or.inl ⟨rfl, own_⟩
              · exact Or.inr ⟨later, rfl, rest_⟩

/-- Before a put stand the puts of the samples before its own, with their pauses. -/
theorem playback_split (paces : f64.Paces rate speed slack) {samples : List BagSample}
    {previousNs : Option UInt64} {put : HostPut} {quiet before after : List PlayEvent}
    (sleeps : SleepsBetween (f64.scaled rate) previousNs samples) (silent : putsOf quiet = [])
    (same : playback encodingForTopic (f64.scaled rate) previousNs samples ++ quiet =
      before ++ .put put :: after) :
    ∃ sample, samples[(putsOf before).length]? = some sample ∧
      put = sample.hostPut encodingForTopic ∧
      |(sleptIn before : ℚ) -
        elapsed previousNs (samples.take ((putsOf before).length + 1)) / speed| ≤
        previousNs.toList.length * slack + (putsOf before).length * slack := by
  induction samples generalizing previousNs before with
  | nil =>
      have puts := congrArg putsOf same
      rw [putsOf_append, silent, putsOf_append] at puts
      have length := congrArg List.length puts
      simp [playback, putsOf] at length
  | cons sample rest ih =>
      obtain ⟨slept, later_⟩ := sleeps
      have here := pauseOf_near paces slept
      rw [playback, List.append_assoc, List.cons_append] at same
      rcases split_at_put same with ⟨rfl, rfl⟩ | ⟨later, rfl, same'⟩
      · refine ⟨sample, ?_, rfl, ?_⟩
        · rw [putsOf_pauseOf]
          rfl
        · rw [putsOf_pauseOf]
          simpa [elapsed] using here
      · obtain ⟨own, found, puts, near⟩ := ih later_ same'
        have counted : (putsOf (pauseOf (f64.scaled rate) previousNs sample.logTime ++
            .put (sample.hostPut encodingForTopic) :: later)).length =
            (putsOf later).length + 1 := by
          rw [putsOf_append, putsOf_pauseOf]
          rfl
        have total : sleptIn (pauseOf (f64.scaled rate) previousNs sample.logTime ++
            .put (sample.hostPut encodingForTopic) :: later) =
            sleptIn (pauseOf (f64.scaled rate) previousNs sample.logTime) + sleptIn later := by
          rw [sleptIn_append]
          congr 1
          exact Nat.zero_add _
        refine ⟨own, ?_, puts, ?_⟩
        · rw [counted]
          exact found
        · rw [counted, total, List.take_succ_cons, elapsed]
          have both := near_add here near
          push_cast
          rw [add_div]
          simp only [Option.toList_some, List.length_singleton, Nat.cast_one, one_mul] at both
          linarith

/-- The time up to a sample is at least the time since, and no more where time goes on. -/
theorem elapsed_since (since : UInt64) {samples : List BagSample} {last : BagSample}
    (ends : samples.getLast? = some last) :
    last.logTime.toNat - since.toNat ≤ elapsed (some since) samples ∧
      ((∀ sample ∈ samples, since ≤ sample.logTime) →
        samples.Pairwise (fun a b => a.logTime ≤ b.logTime) →
        elapsed (some since) samples = last.logTime.toNat - since.toNat) := by
  induction samples generalizing since with
  | nil => cases ends
  | cons sample rest ih =>
      rw [elapsed, deltaSince]
      cases rest with
      | nil =>
          cases ends
          exact ⟨Nat.le_refl _, fun _ _ => rfl⟩
      | cons next rest =>
          rw [List.getLast?_cons_cons] at ends
          obtain ⟨enough, exact_⟩ := ih sample.logTime ends
          refine ⟨by omega, ?_⟩
          intro after ordered
          obtain ⟨first, later⟩ := List.pairwise_cons.mp ordered
          rw [exact_ first later]
          have start := UInt64.le_iff_toNat_le.mp (after sample List.mem_cons_self)
          have onward := UInt64.le_iff_toNat_le.mp (first last (List.mem_of_getLast? ends))
          omega

/-- From nothing played there is no time before the first sample. -/
theorem elapsed_none (first : BagSample) (rest : List BagSample) :
    elapsed none (first :: rest) = elapsed (some first.logTime) (first :: rest) := by
  rw [elapsed, elapsed, deltaSince, deltaSince, Nat.sub_self]

theorem bagPlay_events {profile : McapProfile} {fbs : SynapseFbs} {names : ProfileNames}
    {session : Except Str Unit} {file : BagFile} {items : List (Except Str McapMessage)}
    (opened : file.messages = .ok items) (topicFilter : Option Str) (turns : Nat → PlayTurn) :
    (bagPlay profile fbs encodingForTopic names f64 rate session (.ok file) topicFilter
        turns).2 = [] ∨
      (bagPlay profile fbs encodingForTopic names f64 rate session (.ok file) topicFilter
        turns).2 =
        (playLoop profile fbs encodingForTopic f64 rate topicFilter (meeting turns items)).2 := by
  unfold bagPlay
  dsimp only
  split
  · exact Or.inl rfl
  · cases session with
    | error error => exact Or.inl rfl
    | ok done =>
        cases profileMetadata names file.records with
        | error error => exact Or.inl rfl
        | ok metadata =>
            rw [opened]
            exact Or.inr rfl

end

/-- A player keeps the time of the bag at its rate. Before a publication it has slept no less than
the time between the first sample and this one, divided by the rate; where the log times never go
back it has slept exactly that. Each sample played before may be off by what its sleep rounds. -/
theorem bag_play_keeps_time (profile : McapProfile) (fbs : SynapseFbs)
    (encodingForTopic : TopicInfo → Str) (names : ProfileNames) {F : Type} (f64 : F64 F) (rate : F)
    (speed slack : ℚ) (forward : 0 < speed) (paces : f64.Paces rate speed slack)
    (session : Except Str Unit) (file : BagFile) (items : List (Except Str McapMessage))
    (opened : file.messages = .ok items) (topicFilter : Option Str) (turns : Nat → PlayTurn)
    (before after : List PlayEvent) (put : HostPut)
    (played : (bagPlay profile fbs encodingForTopic names f64 rate session (.ok file) topicFilter
      turns).2 = before ++ .put put :: after) :
    ∃ first sample, (readSelected profile fbs topicFilter items).1[0]? = some first ∧
      (readSelected profile fbs topicFilter items).1[(putsOf before).length]? = some sample ∧
      put = sample.hostPut encodingForTopic ∧
      ((sample.logTime.toNat - first.logTime.toNat : Nat) : ℚ) / speed -
        (putsOf before).length * slack ≤ sleptIn before ∧
      ((readSelected profile fbs topicFilter items).1.Pairwise (fun a b => a.logTime ≤ b.logTime) →
        |(sleptIn before : ℚ) - (sample.logTime.toNat - first.logTime.toNat : Nat) / speed| ≤
          (putsOf before).length * slack) := by
  rcases bagPlay_events opened topicFilter turns with none_ | looped
  · rw [none_] at played
    exact absurd played.symm (by simp)
  · obtain ⟨n, quiet, silent, sleeps, events⟩ :=
      playLoop_events profile fbs encodingForTopic f64 rate topicFilter items turns
    obtain ⟨sample, found, puts, near⟩ :=
      playback_split paces sleeps silent (events.symm.trans (looped.symm.trans played))
    generalize (readSelected profile fbs topicFilter items).1 = samples at found near ⊢
    generalize (putsOf before).length = k at found near ⊢
    have inside : k < n := by
      have bound := (List.getElem?_eq_some_iff.mp found).1
      rw [List.length_take] at bound
      omega
    rw [List.getElem?_take_of_lt inside] at found
    rw [List.take_take, Nat.min_eq_left inside] at near
    cases samples with
    | nil => cases found
    | cons first rest =>
        refine ⟨first, sample, rfl, found, puts, ?_⟩
        have last : ((first :: rest).take (k + 1)).getLast? = some sample := by
          rw [List.getLast?_take, if_neg (Nat.succ_ne_zero k), Nat.add_sub_cancel, found,
            Option.some_or]
        rw [List.take_succ_cons, elapsed_none, ← List.take_succ_cons, Option.toList_none,
          List.length_nil, Nat.cast_zero, zero_mul, zero_add] at near
        obtain ⟨enough, exact_⟩ := elapsed_since first.logTime last
        constructor
        · have scaled : ((sample.logTime.toNat - first.logTime.toNat : Nat) : ℚ) / speed ≤
              elapsed (some first.logTime) ((first :: rest).take (k + 1)) / speed :=
            div_le_div_of_nonneg_right (Nat.cast_le.mpr enough) forward.le
          have low := (abs_le.mp near).1
          linarith
        · intro ordered
          rw [exact_ ?_ (ordered.sublist (List.take_sublist _ _))] at near
          · exact near
          · intro other member
            rcases List.mem_cons.mp (List.mem_of_mem_take member) with rfl | later
            · exact UInt64.le_refl _
            · exact (List.pairwise_cons.mp ordered).1 other later

def sampleNames : ProfileNames where
  profile := str "synapse/1"
  metadataName := str "synapse"
  schemaSetHashKey := str "schema_set_hash"
  sessionIdKey := str "session_id"
  sourceKey := str "source"
  timeBasisKey := str "time_basis"
  timeBasisMonotonicBoot := str "monotonic_boot"
  timeBasisUnixEpoch := str "unix_epoch"
  timeBasisCorrelated := str "correlated"

/-- The header and the metadata of a recording. -/
def sampleRecords : List (Except Str McapRecord) :=
  [.ok (.header (str "synapse/1") (str "csyn/1")),
    .ok (.metadata (str "synapse")
      [(str "schema_set_hash", str "00112233445566778899aabbccddeeff"),
        (str "session_id", str "ffeeddccbbaa99887766554433221100"), (str "source", str "csyn"),
        (str "time_basis", str "unix_epoch")]),
    .ok .chunk]

/-- A message of an eight-byte layout. -/
def attitudeMessage (logTime : UInt64) (byte : UInt8) : McapMessage where
  channel := ⟨str "a/att", some ⟨attitudeTopic.mcapSchemaName, synapseProfile.schemaEncoding,
    (recordFbs.schemaByName attitudeTopic.schemaFile).bfbs⟩, synapseProfile.messageEncoding,
    [(synapseProfile.topicIdKey, decimal attitudeTopic.id.toNat)]⟩
  logTime := logTime
  publishTime := logTime
  data := fixedWrapper [byte, 0, 0, 0, 0, 0, 0, 0]

/-- Three samples, the second on a channel that is not selected. -/
def spacedFile : BagFile where
  records := .ok sampleRecords
  messages := .ok [.ok (attitudeMessage 100 1),
    .ok { attitudeMessage 150 2 with channel := { (attitudeMessage 150 2).channel with
      topic := str "b/att" } },
    .ok (attitudeMessage 220 3)]

/-- The publication of such a message. -/
def attitudePut (byte : UInt8) : HostPut :=
  ⟨str "a/att", [byte, 0, 0, 0, 0, 0, 0, 0], attitudeTopic.contract⟩

/-- Fractions, of which nothing is rounded but the nanoseconds, to the nearest. -/
def fractionF64 : F64 (Nat × Nat) where
  ofU64 := fun deltaNs => (deltaNs.toNat, 1)
  zero := (0, 1)
  billion := (1000000000, 1)
  le := fun a b => a.1 * b.2 ≤ b.1 * a.2
  div := fun a b => (a.1 * b.2, a.2 * b.1)
  durationFromSecs := fun secs =>
    if secs.2 = 0 then none else some ((secs.1 * 1000000000 + secs.2 / 2) / secs.2)

theorem fractionF64_scaled {speed : Nat} (forward : 0 < speed) (deltaNs : UInt64) :
    fractionF64.scaled (speed, 1) deltaNs = some ((deltaNs.toNat * 1000000000 +
      1000000000 * speed / 2) / (1000000000 * speed)) := by
  unfold F64.scaled fractionF64
  dsimp only
  rw [if_neg (by omega)]
  simp only [Nat.mul_one, Nat.one_mul]

theorem fractionF64_paces {speed : Nat} (forward : 0 < speed) :
    fractionF64.Paces (speed, 1) speed 1 := by
  intro deltaNs scaledNs scaled
  rw [fractionF64_scaled forward, Option.some.injEq] at scaled
  have positive : 0 < 1000000000 * speed := by omega
  have low : scaledNs * (1000000000 * speed) ≤
      deltaNs.toNat * 1000000000 + 1000000000 * speed / 2 := by
    rw [← scaled]
    exact Nat.div_mul_le_self _ _
  have high : deltaNs.toNat * 1000000000 + 1000000000 * speed / 2 <
      (1000000000 * speed) * (scaledNs + 1) := by
    rw [← scaled]
    exact Nat.lt_mul_div_succ _ positive
  have above : deltaNs.toNat ≤ (scaledNs + 1) * speed := by
    rw [Nat.mul_assoc, Nat.mul_comm speed] at high
    omega
  have below : scaledNs * speed ≤ deltaNs.toNat + speed := by
    rw [Nat.mul_left_comm] at low
    omega
  have speed_ : (0 : ℚ) < speed := Nat.cast_pos.mpr forward
  rw [abs_le, neg_le_sub_iff_le_add, sub_le_iff_le_add, div_le_iff₀ speed_, ← sub_le_iff_le_add',
    le_div_iff₀ speed_]
  constructor
  · exact_mod_cast above
  · rw [sub_mul, one_mul, sub_le_iff_le_add]
    exact_mod_cast below

theorem fractionF64_playable {speed : Nat} (forward : 0 < speed) :
    fractionF64.Playable (speed, 1) := by
  refine ⟨decide_eq_false ?_, ?_⟩
  · change ¬ speed * 1 ≤ 0 * 1
    omega
  · intro deltaNs
    rw [fractionF64_scaled forward]
    rfl

/-- Played twice as fast, the pause is half the time between the two selected samples. -/
theorem bag_play_keeps_time_selected :
    (bagPlay synapseProfile recordFbs TopicInfo.contract sampleNames fractionF64 (2, 1) (.ok ())
        (.ok spacedFile) (some (str "a/att")) fun _ => .clear).2 =
      [.put (attitudePut 1), .sleep 60] ++ [.put (attitudePut 3)] ∧
    |(sleptIn [.put (attitudePut 1), .sleep 60] : ℚ) - (220 - 100 : Nat) / 2| ≤ 1 := by
  have played : (bagPlay synapseProfile recordFbs TopicInfo.contract sampleNames fractionF64 (2, 1)
      (.ok ()) (.ok spacedFile) (some (str "a/att")) fun _ => .clear).2 =
      [.put (attitudePut 1), .sleep 60] ++ [.put (attitudePut 3)] := by decide
  obtain ⟨first, sample, atFirst, atSample, -, -, kept⟩ := bag_play_keeps_time synapseProfile
    recordFbs TopicInfo.contract sampleNames fractionF64 (2, 1) (2 : Nat) 1 two_pos
    (fractionF64_paces two_pos) (.ok ()) spacedFile _ rfl (some (str "a/att")) (fun _ => .clear)
    [.put (attitudePut 1), .sleep 60] [] (attitudePut 3) played
  cases atFirst
  cases atSample
  have near := kept (by decide)
  rw [show (putsOf [.put (attitudePut 1), .sleep 60]).length = 1 from rfl, Nat.cast_one,
    one_mul] at near
  exact ⟨played, near⟩

end Csyn
