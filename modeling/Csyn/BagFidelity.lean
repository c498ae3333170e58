import Csyn.Lib.Fallible
import Csyn.Bag
import Csyn.McapPayload

set_option autoImplicit false

/- What a finished bag gives back. A channel keeps the type of the first sample written on its
key, and the reader knows a message's type from its channel only. -/
namespace Csyn

theorem eqIgnoreAsciiCase_self (text : Str) : eqIgnoreAsciiCase text text = true :=
  beq_self_eq_true _

/-- The MCAP schema name of a topic finds that topic. -/
theorem TopicType.find_mcapSchemaName {fbs : SynapseFbs} (catalog : fbs.Unambiguous)
    {topic : TopicInfo} (listed : topic ∈ fbs.topics) :
    TopicType.find fbs topic.mcapSchemaName = some (TopicType.fromTopic fbs topic) := by
  unfold TopicType.find
  dsimp only
  cases byName : fbs.topics.find? fun other =>
      eqIgnoreAsciiCase other.name topic.mcapSchemaName || other.key == topic.mcapSchemaName ||
        eqIgnoreAsciiCase other.rootTable topic.mcapSchemaName with
  | some other =>
      have answers := List.find?_some byName
      rw [Bool.or_eq_true, Bool.or_eq_true, beq_iff_eq] at answers
      have same := catalog.named topic listed other (List.mem_of_find?_eq_some byName) (by tauto)
      rw [same]
      rfl
  | none =>
      unfold TopicType.infer
      cases inferred : fbs.topicByKey topic.mcapSchemaName with
      | some other =>
          rw [catalog.inferred topic listed other inferred]
          rfl
      | none =>
          rw [Option.map_none]
          change (TopicType.all fbs).find? _ = _
          obtain ⟨known, found⟩ : ∃ known, (TopicType.all fbs).find? (fun known =>
              eqIgnoreAsciiCase known.topic.wireType topic.mcapSchemaName ||
                eqIgnoreAsciiCase known.topic.mcapSchemaName topic.mcapSchemaName) = some known := by
            rw [← Option.isSome_iff_exists, List.find?_isSome]
            refine ⟨_, List.mem_map_of_mem listed, ?_⟩
            rw [Bool.or_eq_true]
            exact Or.inr (eqIgnoreAsciiCase_self _)
          obtain ⟨other, member, rfl⟩ := List.mem_map.mp (List.mem_of_find?_eq_some found)
          have answers := List.find?_some found
          rw [Bool.or_eq_true] at answers
          have same := catalog.named topic listed other member
            (Or.inr (Or.inr (Or.inr answers)))
          rw [found, same]

/-- A registered channel is read as the topic it was registered for. -/
theorem channelType_registered {fbs : SynapseFbs} {profile : McapProfile}
    (catalog : fbs.Unambiguous) {topic : TopicInfo} (listed : topic ∈ fbs.topics)
    {channel : McapChannel} {key : Str} (registered : channel.Registers profile fbs topic key) :
    channelType profile fbs channel = .ok (TopicType.fromTopic fbs topic) := by
  rw [channelType, registered.schema]
  dsimp only
  rw [TopicType.find_mcapSchemaName catalog listed]
  dsimp only [TopicType.fromTopic]
  rw [if_neg]
  simp only [ne_eq, not_true_eq_false, registered.messageEncoding, registered.metadata,
    or_self, not_false_eq_true]

/-- A message of the bag: the sample's payload as its own type converts it, on a channel
registered for the first sample of its key. -/
structure FiledAs (profile : McapProfile) (fbs : SynapseFbs) (samples : List BagSample)
    (sample : BagSample) (message : McapMessage) : Prop where
  channel : ∃ first, samples.find? (fun other => other.key == sample.key) = some first ∧
    message.channel.Registers profile fbs first.known.topic sample.key
  logTime : message.logTime = sample.logTime
  data : sample.known.toMcapPayload fbs sample.payload = .ok message.data

/-- A key keeps its first sample when more are written. -/
theorem FiledAs.extend {profile : McapProfile} {fbs : SynapseFbs} {samples later : List BagSample}
    {sample : BagSample} {message : McapMessage} (filed : FiledAs profile fbs samples sample message) :
    FiledAs profile fbs (samples ++ later) sample message := by
  obtain ⟨first, found, registered⟩ := filed.channel
  refine ⟨⟨first, ?_, registered⟩, filed.logTime, filed.data⟩
  rw [List.find?_append, found, Option.some_or]

section

variable {W C F : Type} {io : McapIo W C F} {profile : McapProfile} {fbs : SynapseFbs}
  {logged : W → List McapMessage} {channel : C → McapChannel}

/-- The state of a bag after these samples: every message is filed, and the cached channels
are those of the first sample on each key. -/
structure BagWriter.Filed (profile : McapProfile) (fbs : SynapseFbs)
    (logged : W → List McapMessage) (channel : C → McapChannel) (samples : List BagSample)
    (bag : BagWriter W C) : Prop where
  messages : ∃ writer, bag.writer = some writer ∧
    List.Forall₂ (FiledAs profile fbs samples) samples (logged writer)
  cached : ∀ key handle, bag.channels key = some handle →
    ∃ first, samples.find? (fun other => other.key == key) = some first ∧
      (channel handle).Registers profile fbs first.known.topic key
  fresh : ∀ key, bag.channels key = none → samples.find? (fun other => other.key == key) = none

/-- A successful `write_sample`, call by call. -/
theorem BagWriter.writeSample_ok {bag bag' : BagWriter W C} {sample : BagSample}
    (written : bag.writeSample io fbs sample = (.ok (), bag')) :
    ∃ writer handle writer₁ channels publishTime data writer₂ handle',
      bag.writer = some writer ∧
      channelFor io writer bag.channels sample.key sample.known = (.ok handle, writer₁, channels) ∧
      sample.known.toMcapPayload fbs sample.payload = .ok data ∧
      io.write writer₁ handle sample.logTime publishTime data = (.ok (), writer₂, handle') ∧
      bag' = ⟨some writer₂, Function.update channels sample.key (some handle')⟩ := by
  unfold BagWriter.writeSample at written
  split at written
  · cases written
  · rename_i writer opened
    split at written
    · cases written
    · rename_i handle writer₁ channels channelled
      split at written
      · cases written
      · rename_i publishTime timed
        split at written
        · cases written
        · rename_i data converted
          generalize appended :
            io.write writer₁ handle sample.logTime publishTime data = outcome at written
          obtain ⟨result, writer₂, handle'⟩ := outcome
          cases result with
          | error error => cases written
          | ok done =>
              cases written
              exact ⟨writer, handle, writer₁, channels, publishTime, data, writer₂, handle',
                opened, channelled, converted, appended, rfl⟩

/-- The channel a sample is written on, cached or added for it. -/
theorem channelFor_ok (faithful : io.Faithful profile fbs logged channel) {writer writer' : W}
    {channels channels' : Str → Option C} {key : Str} {known : TopicType} {handle : C}
    (channelled : channelFor io writer channels key known = (.ok handle, writer', channels')) :
    logged writer' = logged writer ∧ (∀ other, other ≠ key → channels' other = channels other) ∧
      (channels key = some handle ∨
        channels key = none ∧ (channel handle).Registers profile fbs known.topic key) := by
  unfold channelFor at channelled
  split at channelled
  · rename_i cached
    cases channelled
    exact ⟨rfl, fun _ _ => rfl, Or.inl cached⟩
  · rename_i absent
    split at channelled
    · cases channelled
    · rename_i added
      cases channelled
      obtain ⟨same, registered⟩ := faithful.addTopic _ _ _ _ _ added
      exact ⟨same, fun other different => Function.update_of_ne different _ _,
        Or.inr ⟨absent, registered⟩⟩

theorem BagWriter.Filed.write (faithful : io.Faithful profile fbs logged channel)
    {samples : List BagSample} {bag bag' : BagWriter W C} {sample : BagSample}
    (filed : bag.Filed profile fbs logged channel samples)
    (written : bag.step io fbs sample = some bag') :
    bag'.Filed profile fbs logged channel (samples ++ [sample]) := by
  unfold BagWriter.step at written
  split at written
  · rename_i done
    cases written
    obtain ⟨writer, handle, writer₁, channels, publishTime, data, writer₂, handle', opened,
      channelled, converted, appended, rfl⟩ := BagWriter.writeSample_ok done
    obtain ⟨sameLog, others, origin⟩ := channelFor_ok faithful channelled
    obtain ⟨grown, sameChannel⟩ := faithful.write _ _ _ _ _ _ _ appended
    obtain ⟨writer_, opened_, messages⟩ := filed.messages
    rw [opened, Option.some.injEq] at opened_
    subst opened_
    have first : ∃ first, (samples ++ [sample]).find? (fun other => other.key == sample.key) =
        some first ∧ (channel handle).Registers profile fbs first.known.topic sample.key := by
      rw [List.find?_append]
      rcases origin with cached | ⟨absent, registered⟩
      · obtain ⟨first, found, registered⟩ := filed.cached _ _ cached
        exact ⟨first, by rw [found, Option.some_or], registered⟩
      · refine ⟨sample, ?_, registered⟩
        rw [filed.fresh _ absent, Option.none_or, List.find?_cons, beq_self_eq_true]
    refine ⟨⟨writer₂, rfl, ?_⟩, ?_, ?_⟩
    · rw [grown, sameLog]
      refine List.rel_append (messages.imp fun _ _ earlier => earlier.extend) ?_
      exact List.Forall₂.cons ⟨first, rfl, converted⟩ List.Forall₂.nil
    · intro key found cached
      by_cases here : key = sample.key
      · subst here
        dsimp only at cached
        rw [Function.update_self, Option.some.injEq] at cached
        rw [← cached, sameChannel]
        exact first
      · dsimp only at cached
        rw [Function.update_of_ne here, others key here] at cached
        obtain ⟨earlier, present, registered⟩ := filed.cached _ _ cached
        refine ⟨earlier, ?_, registered⟩
        rw [List.find?_append, present, Option.some_or]
    · intro key absent
      by_cases here : key = sample.key
      · subst here
        dsimp only at absent
        rw [Function.update_self] at absent
        cases absent
      · dsimp only at absent
        rw [Function.update_of_ne here, others key here] at absent
        have different : (sample.key == key) = false := beq_eq_false_iff_ne.mpr (Ne.symm here)
        rw [List.find?_append, filed.fresh _ absent, Option.none_or, List.find?_cons, different,
          List.find?_nil]
  · cases written

theorem BagWriter.run_filed (faithful : io.Faithful profile fbs logged channel) {writer : W}
    (empty : logged writer = []) {samples : List BagSample} {bag : BagWriter W C}
    (written : Automaton.run (BagWriter.step io fbs) (.create writer) samples = some bag) :
    bag.Filed profile fbs logged channel samples := by
  induction samples using List.reverseRecOn generalizing bag with
  | nil =>
      cases written
      refine ⟨⟨writer, rfl, ?_⟩, ?_, ?_⟩
      · rw [empty]
        exact List.Forall₂.nil
      · rintro key handle ⟨⟩
      · intro key _
        rfl
  | append_singleton samples sample ih =>
      obtain ⟨before, earlier, last⟩ := (Automaton.run_append_some _).mp written
      obtain ⟨after, stepped, done⟩ := (Automaton.run_cons_some _).mp last
      cases done
      exact (ih earlier).write faithful stepped

/-- A filed message gives its sample back exactly when the sample has the type of the first
one on its key. -/
theorem FiledAs.readMessage_iff (catalog : fbs.Unambiguous) {samples : List BagSample}
    (catalogued : ∀ sample ∈ samples, sample.known ∈ TopicType.all fbs) {sample : BagSample}
    {message : McapMessage} (filed : FiledAs profile fbs samples sample message) :
    readMessage profile fbs message = .ok sample ↔
      ∀ first, samples.find? (fun other => other.key == sample.key) = some first →
        sample.known = first.known := by
  obtain ⟨⟨first, found, registered⟩, logTime, data⟩ := filed
  obtain ⟨topic, listed, typed⟩ := List.mem_map.mp
    (catalogued first (List.mem_of_find?_eq_some found))
  rw [← typed] at registered
  have type := channelType_registered catalog listed registered
  unfold readMessage
  rw [type, typed]
  dsimp only
  rw [found]
  constructor
  · rintro same _ ⟨⟩
    split at same
    · cases same
    · split at same
      · cases same
      · rw [Except.ok.injEq] at same
        exact (congrArg BagSample.known same).symm
  · intro kept
    obtain ⟨payload, text, decoded⟩ := TopicType.mcapToZenohPayload_written catalog.sized data
    rw [kept first rfl] at payload decoded
    rw [payload]
    dsimp only
    rw [decoded]
    dsimp only
    rw [registered.topic, logTime, ← kept first rfl]

end

/-- No key carries samples of two types. -/
def KeepsTypes (samples : List BagSample) : Prop :=
  ∀ a ∈ samples, ∀ b ∈ samples, a.key = b.key → a.known = b.known

instance (samples : List BagSample) : Decidable (KeepsTypes samples) :=
  inferInstanceAs (Decidable (∀ a ∈ samples, ∀ b ∈ samples, a.key = b.key → a.known = b.known))

theorem keepsTypes_iff (samples : List BagSample) :
    KeepsTypes samples ↔ ∀ sample ∈ samples, ∀ first,
      samples.find? (fun other => other.key == sample.key) = some first →
        sample.known = first.known := by
  constructor
  · intro keeps sample member first found
    have answers := List.find?_some found
    exact keeps sample member first (List.mem_of_find?_eq_some found) (beq_iff_eq.mp answers).symm
  · intro same a inA b inB keys
    obtain ⟨first, found⟩ : ∃ first, samples.find? (fun other => other.key == a.key) = some first := by
      rw [← Option.isSome_iff_exists, List.find?_isSome]
      exact ⟨a, inA, beq_self_eq_true a.key⟩
    exact (same a inA first found).trans (same b inB first (keys ▸ found)).symm

/-- A bag written without an error gives back exactly what was written if and only if no key
carries samples of two types. -/
theorem bag_returns_samples_iff {W C F : Type} (io : McapIo W C F) (profile : McapProfile)
    (fbs : SynapseFbs) (logged : W → List McapMessage) (channel : C → McapChannel)
    (faithful : io.Faithful profile fbs logged channel) (catalog : fbs.Unambiguous)
    (writer finished : W) (empty : logged writer = []) (samples : List BagSample)
    (catalogued : ∀ sample ∈ samples, sample.known ∈ TopicType.all fbs) (bag : BagWriter W C)
    (written : Automaton.run (BagWriter.step io fbs) (.create writer) samples = some bag)
    (opened : bag.writer = some finished) (contents : F)
    (closed : io.finish finished = .ok contents) :
    readBack profile fbs io contents = .ok samples ↔ KeepsTypes samples := by
  have filed := BagWriter.run_filed faithful empty written
  obtain ⟨writer_, opened_, messages⟩ := filed.messages
  rw [opened, Option.some.injEq] at opened_
  subst opened_
  rw [readBack, faithful.finish _ _ closed, keepsTypes_iff]
  dsimp only
  rw [Fallible.mapM_eq_ok]
  obtain ⟨sameLength, position⟩ := List.forall₂_iff_get.mp messages
  rw [List.forall₂_iff_get]
  constructor
  · rintro ⟨-, same⟩ sample member
    obtain ⟨i, inside, rfl⟩ := List.getElem_of_mem member
    exact ((position i inside (sameLength ▸ inside)).readMessage_iff catalog catalogued).mp
      (same i (sameLength ▸ inside) inside)
  · intro kept
    refine ⟨sameLength.symm, ?_⟩
    intro i inLog inside
    exact ((position i inside inLog).readMessage_iff catalog catalogued).mpr
      (kept _ (List.get_mem _ _))

/-- Two catalog entries whose payloads have the same size. -/
def attitudeTopic : TopicInfo where
  id := 7
  name := str "AttitudeEstimate"
  key := str "att"
  rootTable := str "synapse.topic.AttitudeEstimate"
  encoding := str "struct"
  wireType := str "synapse.topic.AttitudeEstimateData"
  schemaHash := str "00112233445566778899aabbccddeeff"
  schemaFile := str "attitude.fbs"
  mcapSchemaName := str "synapse.topic.AttitudeEstimate"
  fixedLayout := true
  payloadSize := some 8

def progressTopic : TopicInfo where
  id := 9
  name := str "MissionProgress"
  key := str "mission"
  rootTable := str "synapse.topic.MissionProgress"
  encoding := str "struct"
  wireType := str "synapse.topic.MissionProgressData"
  schemaHash := str "ffeeddccbbaa99887766554433221100"
  schemaFile := str "mission.fbs"
  mcapSchemaName := str "synapse.topic.MissionProgress"
  fixedLayout := true
  payloadSize := some 8

def twoTopicFbs : SynapseFbs where
  topics := [attitudeTopic, progressTopic]
  topicByKey := fun key => [attitudeTopic, progressTopic].find? fun topic => topic.key == key
  topicForEncoding := fun _ => .error (str "unknown value contract")
  decodeTopicDebug := fun topic payload =>
    if topic.payloadSize = some payload.length then .ok [] else .error (str "payload size")
  schemaByName := fun name => ⟨name⟩
  tableU64 := fun _ _ => none

def synapseProfile : McapProfile :=
  ⟨str "flatbuffer", str "flatbuffer", str "synapse.topic_id"⟩

/-- A writer that keeps the list of messages as its file. -/
def listIo : McapIo (List McapMessage) McapChannel (List McapMessage) where
  addTopic := fun writer topic key =>
    (.ok ⟨key, some ⟨topic.mcapSchemaName, synapseProfile.schemaEncoding,
      (twoTopicFbs.schemaByName topic.schemaFile).bfbs⟩, synapseProfile.messageEncoding,
      [(synapseProfile.topicIdKey, decimal topic.id.toNat)]⟩, writer)
  write := fun writer channel logTime publishTime data =>
    (.ok (), writer ++ [⟨channel, logTime, publishTime, data⟩], channel)
  finish := fun writer => .ok writer
  messageStream := fun contents => .ok contents

theorem listIo_faithful :
    listIo.Faithful synapseProfile twoTopicFbs (fun writer => writer) (fun channel => channel) := by
  refine ⟨?_, ?_, ?_⟩
  · rintro writer topic key handle writer' added
    cases added
    refine ⟨rfl, rfl, rfl, rfl, ?_⟩
    rw [List.lookup_cons, beq_self_eq_true]
  · rintro writer handle logTime publishTime data writer' handle' written
    cases written
    exact ⟨rfl, rfl⟩
  · rintro writer contents finished
    cases finished
    rfl

theorem twoTopicFbs_unambiguous : twoTopicFbs.Unambiguous := by
  refine ⟨by decide, ?_, ?_⟩
  · intro topic listed other resolved
    have unresolved : ∀ topic ∈ twoTopicFbs.topics,
        twoTopicFbs.topicByKey topic.mcapSchemaName = none := by decide
    rw [unresolved topic listed] at resolved
    cases resolved
  · intro topic payload text _ decoded
    change (if topic.payloadSize = some payload.length then Except.ok []
      else .error (str "payload size")) = .ok text at decoded
    split at decoded
    · assumption
    · cases decoded

/-- Two keys, each with samples of its own type. -/
def keptSamples : List BagSample :=
  [⟨str "a/att", .fromTopic twoTopicFbs attitudeTopic, 100, [1, 0, 0, 0, 0, 0, 0, 0]⟩,
    ⟨str "a/mission", .fromTopic twoTopicFbs progressTopic, 110, [2, 0, 0, 0, 0, 0, 0, 0]⟩,
    ⟨str "a/att", .fromTopic twoTopicFbs attitudeTopic, 120, [3, 0, 0, 0, 0, 0, 0, 0]⟩]

theorem bag_returns_samples_iff_kept :
    ∃ bag finished contents, Automaton.run (BagWriter.step listIo twoTopicFbs) (.create [])
        keptSamples = some bag ∧
      bag.writer = some finished ∧ listIo.finish finished = .ok contents ∧
      readBack synapseProfile twoTopicFbs listIo contents = .ok keptSamples :=
  ⟨_, _, _, rfl, rfl, rfl, (bag_returns_samples_iff listIo synapseProfile twoTopicFbs _ _
    listIo_faithful twoTopicFbs_unambiguous [] _ rfl keptSamples (by decide) _ rfl rfl _ rfl).mpr
      (by decide)⟩

/-- A key that carries a sample of another type after the first. -/
def retypedSamples : List BagSample :=
  [⟨str "a/data", .fromTopic twoTopicFbs attitudeTopic, 100, [1, 0, 0, 0, 0, 0, 0, 0]⟩,
    ⟨str "a/data", .fromTopic twoTopicFbs progressTopic, 110, [2, 0, 0, 0, 0, 0, 0, 0]⟩]

/-- The second sample comes back as one of the first type. -/
theorem bag_misfiles_retyped :
    listIo.Faithful synapseProfile twoTopicFbs (fun writer => writer) (fun channel => channel) ∧
      twoTopicFbs.Unambiguous ∧ (∀ sample ∈ retypedSamples,
        sample.known ∈ TopicType.all twoTopicFbs) ∧
      ∃ bag finished contents, Automaton.run (BagWriter.step listIo twoTopicFbs) (.create [])
          retypedSamples = some bag ∧
        bag.writer = some finished ∧ listIo.finish finished = .ok contents ∧
        (readBack synapseProfile twoTopicFbs listIo contents).toOption.map
            (fun samples => samples.map fun sample => sample.known.topic.name) =
          some [str "AttitudeEstimate", str "AttitudeEstimate"] ∧
        readBack synapseProfile twoTopicFbs listIo contents ≠ .ok retypedSamples := by
  refine ⟨listIo_faithful, twoTopicFbs_unambiguous, by decide, _, _, _, rfl, rfl, rfl, ?_, ?_⟩
  · decide
  · decide

end Csyn
