import Csyn.BagFidelity
import Csyn.ContractWarning
import Csyn.ValueEncoding

set_option autoImplicit false

/- `bag_record` of rust/src/main.rs. A sample without a valid value contract is skipped with a
warning; the error of a sample that does not convert leaves the loop. -/
namespace Csyn

/-- A sample as the subscriber delivers it, with the clocks read while it is handled. -/
structure ReceivedSample where
  key : Str
  encoding : Str
  payload : List UInt8
  unixNowNs : Except Str UInt64
  now : Nat

/-- What a `recv_timeout` call returns. -/
inductive Reception where
  | failed (error : Str)
  | nothing
  | sample (sample : ReceivedSample)

/-- The locals of the loop, and what it printed. -/
structure Recording (W C : Type) where
  writer : BagWriter W C
  warnings : ContractWarningThrottle
  stderr : List Str
  recorded : Nat

/-- What a recording that ends without an error leaves. -/
structure Recorded (F : Type) where
  contents : F
  stderr : List Str
  recorded : Nat

section

variable {W C F : Type} (io : McapIo W C F) (fbs : SynapseFbs)

/-- `require_value_type`; an error prints as its outermost context. -/
def requireValueType (key encoding : Str) (expected : Option TopicType) : Except Str TopicType :=
  match TopicType.fromValueEncoding fbs encoding with
  | .error _ => .error (str "topic " ++ key ++ str " has no valid Synapse value contract")
  | .ok actual =>
      match expected with
      | none => .ok actual
      | some expected =>
          if expected.topic.id ≠ actual.topic.id then
            .error (str "topic " ++ key ++ str " advertises " ++ actual.topic.name ++
              str ", expected " ++ expected.topic.name)
          else .ok actual

/-- `BagWriter::finish` -/
def BagWriter.finish (bag : BagWriter W C) : Except Str F :=
  match bag.writer with
  | none => .error (str "bag writer is present")
  | some writer =>
      match io.finish writer with
      | .error _ => .error (str "failed to finish Synapse MCAP file")
      | .ok contents => .ok contents

/-- The body of the loop for one sample. -/
def Recording.receive (forcedType : Option TopicType) (state : Recording W C)
    (sample : ReceivedSample) : Except Str (Recording W C) :=
  match requireValueType fbs sample.key sample.encoding forcedType with
  | .error error =>
      let (line, warnings) := state.warnings.warn sample.key error sample.now
      .ok { state with warnings, stderr := state.stderr ++ line.toList }
  | .ok known =>
      match sample.unixNowNs with
      | .error error => .error error
      | .ok now =>
          match state.writer.writeSample io fbs ⟨sample.key, known, now, sample.payload⟩ with
          | (.error error, _) => .error error
          | (.ok (), writer) => .ok { state with writer, recorded := state.recorded + 1 }

/-- The loop; the list ends at the shutdown or the deadline. -/
def Recording.loop (forcedType : Option TopicType) (maxMessages : Option Nat) :
    Recording W C → List Reception → Except Str (Recording W C)
  | state, [] => .ok state
  | state, reception :: rest =>
      if maxMessages.any fun limit => limit ≤ state.recorded then .ok state
      else
        match reception with
        | .failed error => .error (str "failed to receive sample: " ++ error)
        | .nothing => Recording.loop forcedType maxMessages state rest
        | .sample sample =>
            match state.receive io fbs forcedType sample with
            | .error error => .error error
            | .ok next => Recording.loop forcedType maxMessages next rest

/-- `bag_record` from `BagWriter::create` on. -/
def bagRecord (forcedType : Option TopicType) (maxMessages : Option Nat) (writer : W)
    (receptions : List Reception) : Except Str (Recorded F) :=
  match Recording.loop io fbs forcedType maxMessages
      ⟨.create writer, .default, [], 0⟩ receptions with
  | .error error => .error error
  | .ok state =>
      match state.writer.finish io with
      | .error error => .error error
      | .ok contents => .ok ⟨contents, state.stderr, state.recorded⟩

/-- The samples of a sequence of receptions. -/
def heard (receptions : List Reception) : List ReceivedSample :=
  receptions.filterMap fun
    | .sample sample => some sample
    | _ => none

/-- A valid value contract, and a payload that decodes as the type it names. -/
def ReceivedSample.good (sample : ReceivedSample) : Bool :=
  match requireValueType fbs sample.key sample.encoding none with
  | .error _ => false
  | .ok known => (known.decode fbs sample.payload).isOk

/-- The receptions without the bad samples. -/
def withoutBad (receptions : List Reception) : List Reception :=
  receptions.filter fun
    | .sample sample => sample.good fbs
    | _ => true

/-- A message that is this sample, on a channel registered for its key and its type. -/
structure RecordedAs (profile : McapProfile) (sample : ReceivedSample) (message : McapMessage) :
    Prop where
  typed : ∃ known, requireValueType fbs sample.key sample.encoding none = .ok known ∧
    message.channel.Registers profile fbs known.topic sample.key ∧
    known.toMcapPayload fbs sample.payload = .ok message.data
  logTime : sample.unixNowNs = .ok message.logTime

/-- Deleting the bad samples leaves the recorded messages unchanged: in both runs the bag is
finished and holds the remaining samples in order. -/
def Unspoiled (profile : McapProfile) (writer : W) (receptions : List Reception) : Prop :=
  ∃ whole clean messages, bagRecord io fbs none none writer receptions = .ok whole ∧
    bagRecord io fbs none none writer (withoutBad fbs receptions) = .ok clean ∧
    io.messageStream whole.contents = .ok messages ∧
    io.messageStream clean.contents = .ok messages ∧
    List.Forall₂ (RecordedAs fbs profile) ((heard receptions).filter (·.good fbs)) messages

/-- Nothing fails that the samples do not make fail. -/
structure NoIoError (receptions : List Reception) : Prop where
  receiving : ∀ error, .failed error ∉ receptions
  clock : ∀ sample ∈ heard receptions, ∃ now, sample.unixNowNs = .ok now
  addTopic : ∀ writer topic key, ∃ handle writer',
    io.addTopic writer topic key = (.ok handle, writer')
  write : ∀ writer handle logTime publishTime data, ∃ writer' handle',
    io.write writer handle logTime publishTime data = (.ok (), writer', handle')
  finish : ∀ writer, ∃ contents, io.finish writer = .ok contents

/-- No key advertises two types. -/
def AdvertisesOneType (samples : List ReceivedSample) : Prop :=
  ∀ a ∈ samples, ∀ b ∈ samples, a.key = b.key → ∀ first second,
    requireValueType fbs a.key a.encoding none = .ok first →
    requireValueType fbs b.key b.encoding none = .ok second → first = second

/-- The payload decodes as the type and, if its layout is fixed, fits the wrapper. -/
def TopicType.Converts (known : TopicType) (payload : List UInt8) : Prop :=
  (known.decode fbs payload).isOk ∧ (known.topic.fixedLayout → payload.length ≤ 65531)

instance (known : TopicType) (payload : List UInt8) : Decidable (known.Converts fbs payload) :=
  inferInstanceAs (Decidable (_ ∧ _))

/-- The `write_sample` call that a received sample comes to. -/
def ReceivedSample.write (sample : ReceivedSample) : Option BagSample :=
  match requireValueType fbs sample.key sample.encoding none, sample.unixNowNs with
  | .ok known, .ok now => some ⟨sample.key, known, now, sample.payload⟩
  | _, _ => none

end

section

variable {W C F : Type} {io : McapIo W C F} {profile : McapProfile} {fbs : SynapseFbs}
  {receptions : List Reception}

theorem heard_withoutBad :
    heard (withoutBad fbs receptions) = (heard receptions).filter (·.good fbs) := by
  unfold heard withoutBad
  rw [List.filterMap_filter, List.filter_filterMap]
  apply List.filterMap_congr
  intro reception _
  cases reception with
  | failed error => rfl
  | nothing => rfl
  | sample sample =>
      dsimp only
      rw [Option.filter_some]

theorem TopicType.toMcapPayload_isOk_iff {known : TopicType} {payload : List UInt8} :
    (known.toMcapPayload fbs payload).isOk ↔ known.Converts fbs payload := by
  unfold TopicType.toMcapPayload TopicType.Converts
  cases known.decode fbs payload with
  | error error => simp [Except.isOk, Except.toBool]
  | ok text =>
      dsimp only
      by_cases fixed : known.topic.fixedLayout = true
      · rw [if_pos fixed]
        constructor
        · intro wraps
          cases wrapped : wrapFixedPayload payload with
          | error error =>
              rw [wrapped] at wraps
              cases wraps
          | ok data => exact ⟨rfl, fun _ => (wrapFixedPayload_iff.mp wrapped).1⟩
        · intro fits
          rw [wrapFixedPayload_iff.mpr ⟨fits.2 fixed, rfl⟩]
          rfl
      · simp [fixed, Except.isOk, Except.toBool]

/-- A payload that converts has a publication time. -/
theorem TopicType.mcapPublishTimeNs_of_converted {known : TopicType} {payload data : List UInt8}
    (converted : known.toMcapPayload fbs payload = .ok data) (logTimeNs : UInt64) :
    ∃ time, known.mcapPublishTimeNs fbs payload logTimeNs = .ok time := by
  unfold TopicType.toMcapPayload at converted
  unfold TopicType.mcapPublishTimeNs
  cases decoded : known.decode fbs payload with
  | error error =>
      rw [decoded] at converted
      cases converted
  | ok text => exact ⟨_, rfl⟩

theorem channelFor_works (works : NoIoError io receptions) (writer : W)
    (channels : Str → Option C) (key : Str) (known : TopicType) :
    ∃ handle left, channelFor io writer channels key known = (.ok handle, left) := by
  unfold channelFor
  cases channels key with
  | some handle => exact ⟨_, _, rfl⟩
  | none =>
      obtain ⟨handle, writer', added⟩ := works.addTopic writer known.topic key
      dsimp only
      rw [added]
      exact ⟨_, _, rfl⟩

theorem BagWriter.step_ok {bag bag' : BagWriter W C} {sample : BagSample} :
    bag.step io fbs sample = some bag' ↔ bag.writeSample io fbs sample = (.ok (), bag') := by
  unfold BagWriter.step
  split
  · rename_i written
    rw [written, Option.some.injEq, Prod.mk.injEq]
    simp
  · rename_i failed
    rw [failed, Prod.mk.injEq]
    simp

/-- Where no effect fails, a call on an open bag succeeds exactly if the payload converts. -/
theorem BagWriter.step_isSome_iff (works : NoIoError io receptions) {bag : BagWriter W C}
    {sample : BagSample} (opened : bag.writer.isSome) :
    (bag.step io fbs sample).isSome ↔ sample.known.Converts fbs sample.payload := by
  rw [← TopicType.toMcapPayload_isOk_iff]
  constructor
  · intro succeeds
    obtain ⟨bag', written⟩ := Option.isSome_iff_exists.mp succeeds
    obtain ⟨_, _, _, _, _, data, _, _, -, -, converted, -⟩ :=
      BagWriter.writeSample_ok (BagWriter.step_ok.mp written)
    rw [converted]
    rfl
  · intro succeeds
    cases converted : sample.known.toMcapPayload fbs sample.payload with
    | error error =>
        rw [converted] at succeeds
        cases succeeds
    | ok data =>
        obtain ⟨writer, present⟩ := Option.isSome_iff_exists.mp opened
        obtain ⟨handle, ⟨grown, channels⟩, channelled⟩ :=
          channelFor_works works writer bag.channels sample.key sample.known
        obtain ⟨time, timed⟩ :=
          TopicType.mcapPublishTimeNs_of_converted converted sample.logTime
        obtain ⟨writer', handle', appended⟩ :=
          works.write grown handle sample.logTime time data
        unfold BagWriter.step BagWriter.writeSample
        simp only [present, channelled, timed, converted, appended, Option.isSome_some]

theorem BagWriter.step_opened {bag bag' : BagWriter W C} {sample : BagSample}
    (written : bag.step io fbs sample = some bag') : bag'.writer.isSome := by
  obtain ⟨_, _, _, _, _, _, writer, _, -, -, -, -, same⟩ :=
    BagWriter.writeSample_ok (BagWriter.step_ok.mp written)
  rw [same]
  rfl

variable (fbs) in
theorem BagWriter.run_isSome_iff (works : NoIoError io receptions) {bag : BagWriter W C}
    (opened : bag.writer.isSome) (samples : List BagSample) :
    (Automaton.run (BagWriter.step io fbs) bag samples).isSome ↔
      ∀ sample ∈ samples, sample.known.Converts fbs sample.payload := by
  induction samples generalizing bag with
  | nil => simp
  | cons sample rest ih =>
      rw [Automaton.run_cons, List.forall_mem_cons, ← BagWriter.step_isSome_iff works opened]
      cases written : bag.step io fbs sample with
      | none => simp
      | some next =>
          rw [Option.bind_some, ih (BagWriter.step_opened written)]
          simp

theorem NoIoError.tail {reception : Reception} {rest : List Reception}
    (works : NoIoError io (reception :: rest)) : NoIoError io rest := by
  refine ⟨?_, ?_, works.addTopic, works.write, works.finish⟩
  · intro error member
    exact works.receiving error (List.mem_cons_of_mem _ member)
  · intro sample member
    apply works.clock
    unfold heard at member ⊢
    rw [List.filterMap_cons]
    split
    · exact member
    · exact List.mem_cons_of_mem _ member

theorem heard_sample (sample : ReceivedSample) (rest : List Reception) :
    heard (.sample sample :: rest) = sample :: heard rest := rfl

variable (io fbs) in
/-- One round: a rejected sample leaves the writer, any other is a `write_sample` call. -/
theorem Recording.receive_writer (state : Recording W C) {sample : ReceivedSample}
    {now : UInt64} (clock : sample.unixNowNs = .ok now) :
    (state.receive io fbs none sample).toOption.map Recording.writer =
      match sample.write fbs with
      | none => some state.writer
      | some call => state.writer.step io fbs call := by
  unfold Recording.receive ReceivedSample.write
  rw [clock]
  cases requireValueType fbs sample.key sample.encoding none with
  | error error => rfl
  | ok known =>
      dsimp only
      unfold BagWriter.step
      generalize state.writer.writeSample io fbs ⟨sample.key, known, now, sample.payload⟩ = outcome
      obtain ⟨result, writer⟩ := outcome
      cases result with
      | error error => rfl
      | ok done => rfl

variable (fbs) in
/-- The bag of the loop is that of the `write_sample` calls alone. -/
theorem Recording.loop_writer (works : NoIoError io receptions) (state : Recording W C) :
    (Recording.loop io fbs none none state receptions).toOption.map Recording.writer =
      Automaton.run (BagWriter.step io fbs) state.writer
        ((heard receptions).filterMap (·.write fbs)) := by
  induction receptions generalizing state with
  | nil => rfl
  | cons reception rest ih =>
      unfold Recording.loop
      rw [if_neg (by simp)]
      cases reception with
      | failed error => exact absurd List.mem_cons_self (works.receiving error)
      | nothing => exact ih works.tail state
      | sample sample =>
          obtain ⟨now, clock⟩ := works.clock sample List.mem_cons_self
          have round := Recording.receive_writer io fbs state clock
          rw [heard_sample, List.filterMap_cons]
          dsimp only
          cases called : sample.write fbs with
          | none =>
              rw [called] at round
              cases received : state.receive io fbs none sample with
              | error error =>
                  rw [received] at round
                  cases round
              | ok next =>
                  rw [received] at round
                  have same : next.writer = state.writer := Option.some.inj round
                  dsimp only
                  rw [← same]
                  exact ih works.tail next
          | some call =>
              rw [called] at round
              dsimp only at round ⊢
              rw [Automaton.run_cons, ← round]
              cases received : state.receive io fbs none sample with
              | error error => rfl
              | ok next => exact ih works.tail next

/-- A loop without an error ends with `finish`. -/
theorem bagRecord_finishes (works : NoIoError io receptions) {writer finished : W}
    {bag : BagWriter W C} {contents : F}
    (written : Automaton.run (BagWriter.step io fbs) (.create writer)
      ((heard receptions).filterMap (·.write fbs)) = some bag)
    (opened : bag.writer = some finished) (closed : io.finish finished = .ok contents) :
    ∃ recorded, bagRecord io fbs none none writer receptions = .ok recorded ∧
      recorded.contents = contents := by
  have ended := Recording.loop_writer fbs works ⟨.create writer, .default, [], 0⟩
  rw [written] at ended
  unfold bagRecord
  cases looped : Recording.loop io fbs none none
      (⟨.create writer, .default, [], 0⟩ : Recording W C) receptions with
  | error error =>
      rw [looped] at ended
      cases ended
  | ok state =>
      rw [looped] at ended
      have same : state.writer = bag := Option.some.inj ended
      unfold BagWriter.finish
      simp only [same, opened, closed]
      exact ⟨_, rfl, rfl⟩

/-- A recording that ends without an error made all of its `write_sample` calls. -/
theorem bagRecord_wrote (works : NoIoError io receptions) {writer : W} {recorded : Recorded F}
    (done : bagRecord io fbs none none writer receptions = .ok recorded) :
    (Automaton.run (BagWriter.step io fbs) (.create writer)
      ((heard receptions).filterMap (·.write fbs))).isSome := by
  have ended := Recording.loop_writer fbs works ⟨.create writer, .default, [], 0⟩
  rw [← ended]
  unfold bagRecord at done
  cases looped : Recording.loop io fbs none none
      (⟨.create writer, .default, [], 0⟩ : Recording W C) receptions with
  | error error =>
      rw [looped] at done
      cases done
  | ok state => rfl

theorem ReceivedSample.write_eq_some {sample : ReceivedSample} {call : BagSample} :
    sample.write fbs = some call ↔
      ∃ known now, requireValueType fbs sample.key sample.encoding none = .ok known ∧
        sample.unixNowNs = .ok now ∧ call = ⟨sample.key, known, now, sample.payload⟩ := by
  unfold ReceivedSample.write
  constructor
  · intro called
    split at called
    · rename_i known now typed clock
      cases called
      exact ⟨known, now, typed, clock, rfl⟩
    · cases called
  · intro ⟨known, now, typed, clock, same⟩
    rw [typed, clock, same]

theorem NoIoError.withoutBad (works : NoIoError io receptions) :
    NoIoError io (withoutBad fbs receptions) := by
  refine ⟨?_, ?_, works.addTopic, works.write, works.finish⟩
  · intro error member
    exact works.receiving error (List.mem_of_mem_filter member)
  · intro sample member
    rw [heard_withoutBad] at member
    exact works.clock sample (List.mem_of_mem_filter member)

/-- The calls of one type on each key that a recording makes. -/
theorem AdvertisesOneType.keepsTypes {samples : List ReceivedSample}
    (single : AdvertisesOneType fbs samples) :
    KeepsTypes (samples.filterMap (·.write fbs)) := by
  intro a inA b inB keys
  obtain ⟨first, member, calledA⟩ := List.mem_filterMap.mp inA
  obtain ⟨second, member', calledB⟩ := List.mem_filterMap.mp inB
  obtain ⟨known, _, typed, _, rfl⟩ := ReceivedSample.write_eq_some.mp calledA
  obtain ⟨known', _, typed', _, rfl⟩ := ReceivedSample.write_eq_some.mp calledB
  exact single first member second member' keys known known' typed typed'

/-- A contract-valid sample that converts is a good one. -/
theorem ReceivedSample.good_of_converts {sample : ReceivedSample} {known : TopicType}
    (typed : requireValueType fbs sample.key sample.encoding none = .ok known)
    (converts : known.Converts fbs sample.payload) : sample.good fbs = true := by
  unfold ReceivedSample.good
  rw [typed]
  exact converts.1

theorem ReceivedSample.write_of_good {sample : ReceivedSample} {now : UInt64}
    (clock : sample.unixNowNs = .ok now) (good : sample.good fbs = true) :
    (sample.write fbs).isSome := by
  unfold ReceivedSample.good at good
  split at good
  · cases good
  · rename_i known typed
    rw [ReceivedSample.write_eq_some.mpr ⟨known, now, typed, clock, rfl⟩]
    rfl

/-- Where every contract-valid sample converts, the bad ones make no call. -/
theorem filter_good_write {samples : List ReceivedSample}
    (all : ∀ sample ∈ samples, ∀ known,
      requireValueType fbs sample.key sample.encoding none = .ok known →
        known.Converts fbs sample.payload) :
    (samples.filter (·.good fbs)).filterMap (·.write fbs) =
      samples.filterMap (·.write fbs) := by
  rw [List.filterMap_filter]
  apply List.filterMap_congr
  intro sample member
  by_cases good : sample.good fbs = true
  · rw [if_pos good]
  · rw [if_neg good]
    cases called : sample.write fbs with
    | none => rfl
    | some call =>
        obtain ⟨known, now, typed, -, -⟩ := ReceivedSample.write_eq_some.mp called
        exact absurd (ReceivedSample.good_of_converts typed (all sample member known typed)) good

/-- A filed call is its sample, recorded under its own type. -/
theorem FiledAs.recordedAs {samples : List BagSample} (keeps : KeepsTypes samples)
    {sample : ReceivedSample} {call : BagSample} {message : McapMessage} (listed : call ∈ samples)
    (called : sample.write fbs = some call) (filed : FiledAs profile fbs samples call message) :
    RecordedAs fbs profile sample message := by
  obtain ⟨first, found, registered⟩ := filed.channel
  have same := (keepsTypes_iff samples).mp keeps call listed first found
  rw [← same] at registered
  obtain ⟨known, now, typed, clock, rfl⟩ := ReceivedSample.write_eq_some.mp called
  refine ⟨⟨known, typed, registered, filed.data⟩, ?_⟩
  rw [clock, filed.logTime]

end

/-- Deleting the bad samples leaves a recording unchanged if and only if the payload of every
received sample with a valid value contract converts. -/
theorem bag_record_unspoiled_iff {W C F : Type} (io : McapIo W C F) (profile : McapProfile)
    (fbs : SynapseFbs) (logged : W → List McapMessage) (channel : C → McapChannel)
    (faithful : io.Faithful profile fbs logged channel) (writer : W) (empty : logged writer = [])
    (receptions : List Reception) (works : NoIoError io receptions)
    (single : AdvertisesOneType fbs (heard receptions)) :
    Unspoiled io fbs profile writer receptions ↔
      ∀ sample ∈ heard receptions, ∀ known,
        requireValueType fbs sample.key sample.encoding none = .ok known →
          known.Converts fbs sample.payload := by
  have created : (BagWriter.create writer : BagWriter W C).writer.isSome := rfl
  have runs := BagWriter.run_isSome_iff fbs works created
    ((heard receptions).filterMap (·.write fbs))
  constructor
  · intro ⟨whole, _, _, done, _⟩ sample member known typed
    obtain ⟨now, clock⟩ := works.clock sample member
    have called := ReceivedSample.write_eq_some.mpr ⟨known, now, typed, clock, rfl⟩
    exact runs.mp (bagRecord_wrote works done) _ (List.mem_filterMap.mpr ⟨sample, member, called⟩)
  · intro all
    have converted : ∀ call ∈ (heard receptions).filterMap (·.write fbs),
        call.known.Converts fbs call.payload := by
      intro call listed
      obtain ⟨sample, member, called⟩ := List.mem_filterMap.mp listed
      obtain ⟨known, _, typed, _, rfl⟩ := ReceivedSample.write_eq_some.mp called
      exact all sample member known typed
    obtain ⟨bag, written⟩ := Option.isSome_iff_exists.mp (runs.mpr converted)
    obtain ⟨finished, opened, messages⟩ := (BagWriter.run_filed faithful empty written).messages
    obtain ⟨contents, closed⟩ := works.finish finished
    obtain ⟨whole, done, same⟩ := bagRecord_finishes works written opened closed
    -- The run without the bad samples makes the same calls, so it ends with the same file.
    have clean : (heard (withoutBad fbs receptions)).filterMap (·.write fbs) =
        (heard receptions).filterMap (·.write fbs) := by
      rw [heard_withoutBad, filter_good_write all]
    obtain ⟨rest, doneRest, sameRest⟩ :=
      bagRecord_finishes works.withoutBad (clean ▸ written) opened closed
    have read := faithful.finish finished contents closed
    refine ⟨whole, rest, logged finished, done, doneRest, by rw [same, read],
      by rw [sameRest, read], ?_⟩
    -- Each call of the bag belongs to one good sample.
    have listed := (List.forall₂_and_left _ _).mpr ⟨fun call (member : call ∈ _) => member, messages⟩
    rw [← filter_good_write all] at listed
    have kept : ∀ sample ∈ (heard receptions).filter (·.good fbs), (sample.write fbs).isSome := by
      intro sample member
      obtain ⟨now, clock⟩ := works.clock sample (List.mem_of_mem_filter member)
      exact ReceivedSample.write_of_good clock (List.mem_filter.mp member).2
    apply (Fallible.forall₂_of_filterMap kept listed).imp
    intro sample message ⟨call, called, member, filed⟩
    rw [filter_good_write all] at member filed
    exact filed.recordedAs single.keepsTypes member called

/-- The catalog of two topics with its value contracts. -/
def recordFbs : SynapseFbs where
  topics := twoTopicFbs.topics
  topicByKey := twoTopicFbs.topicByKey
  topicForEncoding := fun text =>
    match [attitudeTopic, progressTopic].find? fun topic => topic.contract == text with
    | some topic => .ok topic
    | none => .error (str "unknown value contract")
  decodeTopicDebug := twoTopicFbs.decodeTopicDebug
  schemaByName := twoTopicFbs.schemaByName
  tableU64 := twoTopicFbs.tableU64

theorem listIo_faithful_recordFbs :
    listIo.Faithful synapseProfile recordFbs (fun writer => writer) (fun channel => channel) := by
  refine ⟨?_, listIo_faithful.write, listIo_faithful.finish⟩
  intro writer topic key handle writer' added
  obtain ⟨same, registered⟩ := listIo_faithful.addTopic writer topic key handle writer' added
  exact ⟨same, registered.topic, registered.schema, registered.messageEncoding,
    registered.metadata⟩

theorem noIoError_listIo {receptions : List Reception}
    (receiving : ∀ error, .failed error ∉ receptions)
    (clock : ∀ sample ∈ heard receptions, ∃ now, sample.unixNowNs = .ok now) :
    NoIoError listIo receptions :=
  ⟨receiving, clock, fun _ _ _ => ⟨_, _, rfl⟩, fun _ _ _ _ _ => ⟨_, _, rfl⟩, fun _ => ⟨_, rfl⟩⟩

theorem advertisesOneType_of {samples : List ReceivedSample}
    (single : ∀ a ∈ samples, ∀ b ∈ samples, a.key = b.key →
      ∀ first ∈ (requireValueType recordFbs a.key a.encoding none).toOption,
        ∀ second ∈ (requireValueType recordFbs b.key b.encoding none).toOption, first = second) :
    AdvertisesOneType recordFbs samples := by
  intro a inA b inB keys first second typed typed'
  apply single a inA b inB keys
  · rw [typed]
    rfl
  · rw [typed']
    rfl

/-- A valid sample, one without a contract, and a valid sample of another key. -/
def mixedReceptions : List Reception :=
  [.sample ⟨str "a/att", attitudeTopic.contract, [1, 0, 0, 0, 0, 0, 0, 0], .ok 100, 0⟩,
    .nothing,
    .sample ⟨str "a/att", str "text/plain", [2], .ok 110, 10⟩,
    .sample ⟨str "a/mission", progressTopic.contract, [3, 0, 0, 0, 0, 0, 0, 0], .ok 120, 20⟩]

theorem bag_record_unspoiled_iff_mixed :
    Unspoiled listIo recordFbs synapseProfile [] mixedReceptions ∧
      ((heard mixedReceptions).filter (·.good recordFbs)).length = 2 := by
  refine ⟨?_, by decide⟩
  apply (bag_record_unspoiled_iff listIo synapseProfile recordFbs _ _ listIo_faithful_recordFbs []
    rfl mixedReceptions (noIoError_listIo ?_ ?_) (advertisesOneType_of (by decide))).mpr
  · intro sample member known typed
    have converts : ∀ sample ∈ heard mixedReceptions,
        ∀ known ∈ (requireValueType recordFbs sample.key sample.encoding none).toOption,
          known.Converts recordFbs sample.payload := by decide
    apply converts sample member known
    rw [typed]
    rfl
  · simp [mixedReceptions]
  · simp [mixedReceptions, heard]

/-- One payload a byte short, between two valid samples. -/
def shortReceptions : List Reception :=
  [.sample ⟨str "a/att", attitudeTopic.contract, [1, 0, 0, 0, 0, 0, 0, 0], .ok 100, 0⟩,
    .sample ⟨str "b/att", attitudeTopic.contract, [2, 0, 0, 0, 0, 0, 0], .ok 110, 10⟩,
    .sample ⟨str "a/mission", progressTopic.contract, [3, 0, 0, 0, 0, 0, 0, 0], .ok 120, 20⟩]

/-- The recording ends with the decoder's error; without that sample it holds the two others. -/
theorem bag_record_spoiled :
    listIo.Faithful synapseProfile recordFbs (fun writer => writer) (fun channel => channel) ∧
      NoIoError listIo shortReceptions ∧ AdvertisesOneType recordFbs (heard shortReceptions) ∧
      bagRecord listIo recordFbs none none [] shortReceptions =
        .error (str "AttitudeEstimate: payload size") ∧
      (bagRecord listIo recordFbs none none [] (withoutBad recordFbs shortReceptions)).toOption.map
          (fun recorded => (recorded.contents.map McapMessage.logTime, recorded.recorded)) =
        some ([100, 120], 2) ∧
      ¬ Unspoiled listIo recordFbs synapseProfile [] shortReceptions := by
  refine ⟨listIo_faithful_recordFbs, noIoError_listIo ?_ ?_, advertisesOneType_of (by decide), rfl,
    by decide, ?_⟩
  · simp [shortReceptions]
  · simp [shortReceptions, heard]
  · intro ⟨whole, _, _, done, _⟩
    cases done

end Csyn
