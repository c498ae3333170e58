import Csyn.BagFidelity

set_option autoImplicit false

/- What a failed `write_sample` leaves behind. The channel of the key is added before the payload
is decoded. -/
namespace Csyn

section

variable {W C F : Type} (io : McapIo W C F) (fbs : SynapseFbs)

/-- The bag after a sequence of `write_sample` calls, whatever they returned. -/
def BagWriter.after (writer : W) (history : List BagSample) : BagWriter W C :=
  history.foldl (fun bag sample => (bag.writeSample io fbs sample).2) (.create writer)

/-- The call has its channel, and its payload does not decode as the type. -/
structure BagWriter.FailsToDecode (bag : BagWriter W C) (sample : BagSample) : Prop where
  undecoded : ∃ error, sample.known.decode fbs sample.payload = .error error
  channelled : ∃ writer handle left, bag.writer = some writer ∧
    channelFor io writer bag.channels sample.key sample.known = (.ok handle, left)

/-- The channels of the writer and of the file and the messages written are the same, and a
later sample is written as it would have been. -/
structure BagWriter.Unchanged (added : W → List McapChannel) (logged : W → List McapMessage)
    (after before : BagWriter W C) : Prop where
  channels : after.channels = before.channels
  file : after.writer.map (fun writer => (added writer, logged writer)) =
    before.writer.map fun writer => (added writer, logged writer)
  later : ∀ next, after.writeSample io fbs next = before.writeSample io fbs next

end

section

variable {W C F : Type} {io : McapIo W C F} {fbs : SynapseFbs} {bag : BagWriter W C}
  {sample : BagSample}

/-- The call returns the error of the decoder, and keeps what adding the channel did. -/
theorem BagWriter.writeSample_undecoded {writer added : W} {handle : C} {error : Str}
    {channels : Str → Option C} (opened : bag.writer = some writer)
    (channelled : channelFor io writer bag.channels sample.key sample.known =
      (.ok handle, added, channels))
    (undecoded : sample.known.decode fbs sample.payload = .error error) :
    bag.writeSample io fbs sample = (.error error, ⟨some added, channels⟩) := by
  have untimed : sample.known.mcapPublishTimeNs fbs sample.payload sample.logTime =
      .error error := by
    unfold TopicType.mcapPublishTimeNs
    rw [undecoded]
  unfold BagWriter.writeSample
  rw [opened]
  dsimp only
  rw [channelled]
  dsimp only
  rw [untimed]

/-- Having its channel, a key has it cached from then on. -/
theorem channelFor_caches {writer added : W} {handle : C} {channels cached : Str → Option C}
    {key : Str} {known : TopicType}
    (channelled : channelFor io writer channels key known = (.ok handle, added, cached)) :
    cached key = some handle := by
  unfold channelFor at channelled
  split at channelled
  · rename_i present
    cases channelled
    exact present
  · split at channelled
    · cases channelled
    · cases channelled
      exact Function.update_self _ _ _

/-- A call whose payload does not decode leaves the bag as it was if and only if the key already
has a channel. -/
theorem failed_write_unchanged_iff (added : W → List McapChannel)
    (logged : W → List McapMessage) (writer : W) (history : List BagSample)
    (fails : (BagWriter.after io fbs writer history).FailsToDecode io fbs sample) :
    BagWriter.Unchanged io fbs added logged
        ((BagWriter.after io fbs writer history).writeSample io fbs sample).2
        (BagWriter.after io fbs writer history) ↔
      ((BagWriter.after io fbs writer history).channels sample.key).isSome := by
  obtain ⟨⟨error, undecoded⟩, before, handle, ⟨grown, channels⟩, opened, channelled⟩ := fails
  generalize BagWriter.after io fbs writer history = bag at opened channelled ⊢
  rw [BagWriter.writeSample_undecoded opened channelled undecoded]
  constructor
  · intro unchanged
    have cached := channelFor_caches channelled
    rw [← unchanged.channels]
    show (channels sample.key).isSome
    rw [cached, Option.isSome_some]
  · intro present
    obtain ⟨cached, found⟩ := Option.isSome_iff_exists.mp present
    have same : (⟨some grown, channels⟩ : BagWriter W C) = bag := by
      unfold channelFor at channelled
      rw [found] at channelled
      cases channelled
      rw [← opened]
    dsimp only
    rw [same]
    exact ⟨rfl, rfl, fun _ => rfl⟩

end

/-- A writer whose file is its list of channels and its list of messages. -/
def fileIo : McapIo (List McapChannel × List McapMessage) McapChannel
    (List McapChannel × List McapMessage) where
  addTopic := fun writer topic key =>
    let channel := ⟨key, some ⟨topic.mcapSchemaName, synapseProfile.schemaEncoding,
      (twoTopicFbs.schemaByName topic.schemaFile).bfbs⟩, synapseProfile.messageEncoding,
      [(synapseProfile.topicIdKey, decimal topic.id.toNat)]⟩
    (.ok channel, writer.1 ++ [channel], writer.2)
  write := fun writer channel logTime publishTime data =>
    (.ok (), (writer.1, writer.2 ++ [⟨channel, logTime, publishTime, data⟩]), channel)
  finish := fun writer => .ok writer
  messageStream := fun contents => .ok contents.2

def progressSample : BagSample :=
  ⟨str "a/data", .fromTopic twoTopicFbs progressTopic, 110, [2, 0, 0, 0, 0, 0, 0, 0]⟩

/-- One byte short. -/
def shortSample : BagSample :=
  ⟨str "a/data", .fromTopic twoTopicFbs attitudeTopic, 100, [1, 0, 0, 0, 0, 0, 0]⟩

theorem failed_write_unchanged_iff_second :
    BagWriter.Unchanged fileIo twoTopicFbs Prod.fst Prod.snd
      ((BagWriter.after fileIo twoTopicFbs ([], []) [progressSample]).writeSample fileIo
        twoTopicFbs shortSample).2
      (BagWriter.after fileIo twoTopicFbs ([], []) [progressSample]) := by
  have fails : (BagWriter.after fileIo twoTopicFbs ([], []) [progressSample]).FailsToDecode fileIo
      twoTopicFbs shortSample := ⟨⟨_, rfl⟩, _, _, _, rfl, rfl⟩
  apply (failed_write_unchanged_iff Prod.fst Prod.snd ([], []) [progressSample] fails).mpr
  decide

/-- The first sample of a key fails to decode. Its channel stays in the file, and the valid
sample that comes next is written on it. -/
theorem failed_write_keeps_channel :
    (BagWriter.after fileIo twoTopicFbs ([], []) []).FailsToDecode fileIo twoTopicFbs shortSample ∧
      ¬ BagWriter.Unchanged fileIo twoTopicFbs Prod.fst Prod.snd
        ((BagWriter.after fileIo twoTopicFbs ([], []) []).writeSample fileIo twoTopicFbs
          shortSample).2
        (BagWriter.after fileIo twoTopicFbs ([], []) []) ∧
      (BagWriter.after fileIo twoTopicFbs ([], []) [shortSample]).writer.map
          (fun writer => (writer.1.map McapChannel.topic, writer.2)) = some ([str "a/data"], []) ∧
      (BagWriter.after fileIo twoTopicFbs ([], []) [shortSample, progressSample]).writer.map
          (fun writer => writer.2.map fun message => message.channel.schema.map McapSchema.name) =
        some [some attitudeTopic.mcapSchemaName] := by
  refine ⟨⟨⟨_, rfl⟩, _, _, _, rfl, rfl⟩, ?_, by decide, by decide⟩
  intro unchanged
  have file := unchanged.file
  revert file
  decide

end Csyn
