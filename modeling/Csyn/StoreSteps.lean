import Csyn.Lib.Automaton
import Csyn.Topic

set_option autoImplicit false

/- `csyn_topic_publish` and `csyn_topic_copy` one shared access at a time: every
`atomic_get`, `atomic_set`, length access and byte of a `memcpy` is one step, and
the local work between two of them belongs to the earlier one. A `memcpy` moves
its bytes in any order. -/
namespace Csyn

/-- Where a `csyn_topic_publish` call stands. -/
inductive PublishPc where
  | idle
  | copying (nextGeneration : UInt32) (bytes : List UInt8) (pending : List Nat)
  | lengthStored (nextGeneration : UInt32) (bytes : List UInt8)
  deriving DecidableEq

inductive PublishAction where
  | call (buf : Option (List UInt8))
  | moveByte (offset : Nat)
  | storeLength
  | setGeneration
  deriving DecidableEq

/-- One shared access of `csyn_topic_publish`. A call whose arguments are rejected
returns `false` without any; the slot is the low bit of the next generation. -/
def publishStep (topic : CsynTopic) (pc : PublishPc) (action : PublishAction) :
    Option (CsynTopic × PublishPc) :=
  match pc, action with
  | .idle, .call none => some (topic, .idle)
  | .idle, .call (some bytes) =>
      if topic.accepts (some bytes) then
        some (topic, .copying (topic.generation + 1) bytes (List.range bytes.length))
      else some (topic, .idle)
  | .copying next bytes pending, .moveByte offset =>
      if offset ∈ pending then
        (bytes[offset]?).map fun byte =>
          ({ topic with
              slots := topic.slots.store (topic.slotBase (slotOf next) + offset) byte },
            .copying next bytes (pending.erase offset))
      else none
  | .copying next bytes [], .storeLength =>
      some ({ topic with
          lengths := Function.update topic.lengths (slotOf next) (UInt16.ofNat bytes.length) },
        .lengthStored next bytes)
  | .lengthStored next _, .setGeneration => some ({ topic with generation := next }, .idle)
  | _, _ => none

/-- Where a `csyn_topic_copy` call stands. -/
inductive CopyPc where
  | atLoop
  | slotChosen (generationStart : UInt32)
  | copying (generationStart : UInt32) (length : UInt16) (pending : List Nat)
  deriving DecidableEq

inductive CopyAction where
  | readGeneration
  | readLength
  | moveByte (offset : Nat)
  | rereadGeneration
  deriving DecidableEq

/-- What a shared access of `csyn_topic_copy` leads to: the call goes on, returns
`false`, or returns `true` with a length and a generation. The buffer may have been
written in every case. -/
inductive CopyNext where
  | running (pc : CopyPc) (buf : ByteMemory)
  | failed (buf : ByteMemory)
  | copied (length : UInt16) (generation : UInt32) (buf : ByteMemory)

/-- One shared access of `csyn_topic_copy`. -/
def copyStep (topic : CsynTopic) (bufSize : Nat) (pc : CopyPc) (buf : ByteMemory)
    (action : CopyAction) : Option CopyNext :=
  match pc, action with
  | .atLoop, .readGeneration =>
      if topic.generation = 0 then some (.failed buf)
      else some (.running (.slotChosen topic.generation) buf)
  | .slotChosen generationStart, .readLength =>
      let length := topic.lengths (slotOf generationStart)
      if length = 0 ∨ length.toNat > bufSize then some (.failed buf)
      else some (.running (.copying generationStart length (List.range length.toNat)) buf)
  | .copying generationStart length pending, .moveByte offset =>
      if offset ∈ pending then
        let byte := topic.slots (topic.slotBase (slotOf generationStart) + offset)
        some (.running (.copying generationStart length (pending.erase offset))
          (buf.store offset byte))
      else none
  | .copying generationStart length [], .rereadGeneration =>
      if topic.generation = generationStart then some (.copied length generationStart buf)
      else some (.running .atLoop buf)
  | _, _ => none

/-- A completed `csyn_topic_publish`: the generation it set and the sample. -/
structure Published where
  generation : UInt32
  payload : List UInt8
  deriving DecidableEq

/-- One topic with its writer. `published` is a history variable, oldest first; no
step reads it. -/
structure Store where
  topic : CsynTopic
  writer : PublishPc
  published : List Published

/-- A topic after `csyn_init`, before any sample. -/
def Store.boot (key : Str) (info : Option SynapseTopicInfo) (dir : CsynDir) (maxSize : UInt16) :
    Store where
  topic := { csynTopicDefine key dir maxSize with info := info }
  writer := .idle
  published := []

/-- What a writer step adds to the history. -/
def completes (pc : PublishPc) (action : PublishAction) : List Published :=
  match pc, action with
  | .lengthStored next bytes, .setGeneration => [⟨next, bytes⟩]
  | _, _ => []

def Store.publish (s : Store) (action : PublishAction) : Option Store :=
  (publishStep s.topic s.writer action).map fun after =>
    { topic := after.1, writer := after.2, published := s.published ++ completes s.writer action }

/-- Everything a writer step can do. -/
theorem Store.publish_cases {s t : Store} {action : PublishAction}
    (taken : s.publish action = some t) :
    (∃ buf, action = .call buf ∧ s.writer = .idle ∧ s.topic.accepts buf = false ∧ t = s) ∨
    (∃ bytes, action = .call (some bytes) ∧ s.writer = .idle ∧
      s.topic.accepts (some bytes) = true ∧
      t = { s with
        writer := .copying (s.topic.generation + 1) bytes (List.range bytes.length) }) ∨
    (∃ next bytes pending offset byte, action = .moveByte offset ∧
      s.writer = .copying next bytes pending ∧ offset ∈ pending ∧ bytes[offset]? = some byte ∧
      t = { s with
        topic := { s.topic with
          slots := s.topic.slots.store (s.topic.slotBase (slotOf next) + offset) byte }
        writer := .copying next bytes (pending.erase offset) }) ∨
    (∃ next bytes, action = .storeLength ∧ s.writer = .copying next bytes [] ∧
      t = { s with
        topic := { s.topic with
          lengths := Function.update s.topic.lengths (slotOf next)
            (UInt16.ofNat bytes.length) }
        writer := .lengthStored next bytes }) ∨
    (∃ next bytes, action = .setGeneration ∧ s.writer = .lengthStored next bytes ∧
      t = { topic := { s.topic with generation := next }
            writer := .idle
            published := s.published ++ [⟨next, bytes⟩] }) := by
  obtain ⟨topic, writer, published⟩ := s
  simp only [Store.publish, Option.map_eq_some_iff] at taken
  obtain ⟨after, stepped, rfl⟩ := taken
  unfold publishStep at stepped
  split at stepped
  · cases stepped
    exact Or.inl ⟨none, rfl, rfl, rfl, by simp [completes]⟩
  · rename_i bytes
    split at stepped
    · rename_i fits
      cases stepped
      exact Or.inr (Or.inl ⟨bytes, rfl, rfl, fits, by simp [completes]⟩)
    · rename_i refused
      cases stepped
      exact Or.inl ⟨some bytes, rfl, rfl, by simpa using refused, by simp [completes]⟩
  · rename_i next bytes pending offset
    split at stepped
    · rename_i member
      rw [Option.map_eq_some_iff] at stepped
      obtain ⟨byte, found, rfl⟩ := stepped
      exact Or.inr (Or.inr (Or.inl
        ⟨next, bytes, pending, offset, byte, rfl, rfl, member, found, by simp [completes]⟩))
    · cases stepped
  · rename_i next bytes
    cases stepped
    exact Or.inr (Or.inr (Or.inr (Or.inl ⟨next, bytes, rfl, rfl, by simp [completes]⟩)))
  · rename_i next bytes
    cases stepped
    exact Or.inr (Or.inr (Or.inr (Or.inr ⟨next, bytes, rfl, rfl, by simp [completes]⟩)))
  · cases stepped

/-- Everything a step of `csyn_topic_copy` can do. -/
theorem copyStep_cases {topic : CsynTopic} {bufSize : Nat} {pc : CopyPc} {buf : ByteMemory}
    {action : CopyAction} {next : CopyNext}
    (taken : copyStep topic bufSize pc buf action = some next) :
    (pc = .atLoop ∧ topic.generation = 0 ∧ next = .failed buf) ∨
    (pc = .atLoop ∧ topic.generation ≠ 0 ∧ next = .running (.slotChosen topic.generation) buf) ∨
    (∃ start, pc = .slotChosen start ∧
      (topic.lengths (slotOf start) = 0 ∨ bufSize < (topic.lengths (slotOf start)).toNat) ∧
      next = .failed buf) ∨
    (∃ start, pc = .slotChosen start ∧ topic.lengths (slotOf start) ≠ 0 ∧
      (topic.lengths (slotOf start)).toNat ≤ bufSize ∧
      next = .running (.copying start (topic.lengths (slotOf start))
        (List.range (topic.lengths (slotOf start)).toNat)) buf) ∨
    (∃ start length pending offset, pc = .copying start length pending ∧ offset ∈ pending ∧
      next = .running (.copying start length (pending.erase offset))
        (buf.store offset (topic.slots (topic.slotBase (slotOf start) + offset)))) ∨
    (∃ start length, pc = .copying start length [] ∧ topic.generation = start ∧
      next = .copied length start buf) ∨
    (∃ start length, pc = .copying start length [] ∧ topic.generation ≠ start ∧
      next = .running .atLoop buf) := by
  unfold copyStep at taken
  split at taken
  · split at taken
    · rename_i empty
      exact Or.inl ⟨rfl, empty, (Option.some.inj taken).symm⟩
    · rename_i live
      exact Or.inr (Or.inl ⟨rfl, live, (Option.some.inj taken).symm⟩)
  · rename_i start
    dsimp only at taken
    split at taken
    · rename_i unfit
      exact Or.inr (Or.inr (Or.inl ⟨start, rfl, unfit, (Option.some.inj taken).symm⟩))
    · rename_i fit
      rw [not_or] at fit
      exact Or.inr (Or.inr (Or.inr (Or.inl
        ⟨start, rfl, fit.1, Nat.le_of_not_lt fit.2, (Option.some.inj taken).symm⟩)))
  · rename_i start length pending offset
    split at taken
    · rename_i member
      exact Or.inr (Or.inr (Or.inr (Or.inr (Or.inl
        ⟨start, length, pending, offset, rfl, member, (Option.some.inj taken).symm⟩))))
    · cases taken
  · rename_i start length
    split at taken
    · rename_i same
      exact Or.inr (Or.inr (Or.inr (Or.inr (Or.inr (Or.inl
        ⟨start, length, rfl, same, (Option.some.inj taken).symm⟩)))))
    · rename_i moved
      exact Or.inr (Or.inr (Or.inr (Or.inr (Or.inr (Or.inr
        ⟨start, length, rfl, moved, (Option.some.inj taken).symm⟩)))))
  · cases taken

end Csyn
