import Csyn.Registry
import Csyn.StoreInvariant
import Csyn.StoreSequential

set_option autoImplicit false

/- Any number of `csyn_topic_publish` calls, one after the other: what the store still holds
of them. -/
namespace Csyn

/-- A topic with the samples that `csyn_topic_publish` accepted, oldest first. -/
structure StoreLog where
  topic : CsynTopic
  accepted : List (List UInt8)

/-- One call, recorded when it returned `true`. -/
def StoreLog.call (log : StoreLog) (buf : Option (List UInt8)) : StoreLog :=
  let after := csynTopicPublish log.topic buf
  ⟨after.2, if after.1 then log.accepted ++ buf.toList else log.accepted⟩

def StoreLog.run (log : StoreLog) (calls : List (Option (List UInt8))) : StoreLog :=
  calls.foldl StoreLog.call log

/-- The topic holds the latest accepted sample in the slot that its generation selects. -/
structure StoreLog.Consistent (log : StoreLog) : Prop where
  generation : log.topic.generation = UInt32.ofNat log.accepted.length
  current : ∀ sample, log.accepted.getLast? = some sample →
    log.topic.accepts (some sample) = true ∧
      log.topic.HoldsSample (slotOf log.topic.generation) sample

/-- What a call returns is decided by its arguments. -/
theorem csynTopicPublish_returns (topic : CsynTopic) (buf : Option (List UInt8)) :
    (csynTopicPublish topic buf).1 = topic.accepts buf := by
  cases fits : topic.accepts buf with
  | false => rw [csynTopicPublish_rejected fits]
  | true =>
      cases buf with
      | none => cases fits
      | some bytes => rw [csynTopicPublish_accepted fits]

theorem csynTopicPublish_holds {topic : CsynTopic} {bytes : List UInt8}
    (fits : topic.accepts (some bytes) = true) :
    (csynTopicPublish topic (some bytes)).2.HoldsSample
      (slotOf (csynTopicPublish topic (some bytes)).2.generation) bytes := by
  rw [csynTopicPublish_accepted fits]
  constructor
  · exact Function.update_self _ _ _
  · intro i inside _
    exact ByteMemory.storeBytes_inside _ _ _ i inside

/-- An undisturbed copy of the sample that the generation selects. -/
theorem CsynTopic.HoldsSample.copy {topic : CsynTopic} {sample : List UInt8} {bufSize : Nat}
    (holds : topic.HoldsSample (slotOf topic.generation) sample) (live : topic.generation ≠ 0)
    (fits : topic.accepts (some sample) = true) (room : sample.length ≤ bufSize) :
    csynTopicCopy topic bufSize = some (sample, topic.generation) := by
  obtain ⟨positive, bounded⟩ := CsynTopic.accepts_some.mp fits
  have narrow : sample.length < 2 ^ 16 := Nat.lt_of_le_of_lt bounded (UInt16.toNat_lt _)
  have size : (topic.lengths (slotOf topic.generation)).toNat = sample.length := by
    rw [holds.length, UInt16.toNat_ofNat', Nat.mod_eq_of_lt narrow]
  rw [csynTopicCopy_eq_some live, size, holds.bytes.load]
  · intro zero
    rw [zero] at size
    exact absurd size (Nat.ne_of_lt positive)
  · rw [size]
    exact room

theorem csynTopicCopy_unpublished {topic : CsynTopic} (bufSize : Nat)
    (empty : topic.generation = 0) : csynTopicCopy topic bufSize = none :=
  if_pos empty

theorem StoreLog.call_maxSize (log : StoreLog) (buf : Option (List UInt8)) :
    (log.call buf).topic.maxSize = log.topic.maxSize :=
  (csynTopicPublish_declaration log.topic buf).2.2.2

theorem StoreLog.call_accepts (log : StoreLog) (buf : Option (List UInt8)) :
    (log.call buf).topic.accepts = log.topic.accepts := by
  funext other
  exact (csynTopicPublish_sameDeclaration log.topic buf).accepts other

theorem StoreLog.run_maxSize (log : StoreLog) (calls : List (Option (List UInt8))) :
    (log.run calls).topic.maxSize = log.topic.maxSize := by
  induction calls generalizing log with
  | nil => rfl
  | cons buf rest ih => exact (ih (log.call buf)).trans (log.call_maxSize buf)

theorem StoreLog.call_refused {log : StoreLog} {buf : Option (List UInt8)}
    (refused : log.topic.accepts buf = false) : log.call buf = log := by
  rw [StoreLog.call, csynTopicPublish_rejected refused]
  rfl

/-- A call keeps the invariant, whether it is accepted or not. -/
theorem StoreLog.Consistent.call {log : StoreLog} (valid : log.Consistent)
    (buf : Option (List UInt8)) : (log.call buf).Consistent := by
  cases fits : log.topic.accepts buf with
  | false =>
      rw [StoreLog.call_refused fits]
      exact valid
  | true =>
      cases buf with
      | none => cases fits
      | some bytes =>
          have kept := (log.call_accepts (some bytes)).symm ▸ fits
          have held := csynTopicPublish_holds fits
          have recorded : (log.call (some bytes)).accepted = log.accepted ++ [bytes] := by
            rw [StoreLog.call, csynTopicPublish_returns, fits]
            rfl
          constructor
          · rw [recorded, List.length_append, List.length_singleton, ← Counter.next,
              ← valid.generation, StoreLog.call, csynTopicPublish_accepted fits]
          · intro sample last
            rw [recorded, List.getLast?_concat, Option.some.injEq] at last
            subst last
            exact ⟨kept, held⟩

theorem StoreLog.Consistent.run {log : StoreLog} (valid : log.Consistent)
    (calls : List (Option (List UInt8))) : (log.run calls).Consistent := by
  induction calls generalizing log with
  | nil => exact valid
  | cons buf rest ih => exact ih (valid.call buf)

/-- What `csyn_topic_copy` returns of a topic is its latest accepted sample. -/
theorem StoreLog.Consistent.copied {log : StoreLog} (valid : log.Consistent) {bufSize : Nat}
    {sample : List UInt8} {generation : UInt32}
    (copied : csynTopicCopy log.topic bufSize = some (sample, generation)) :
    log.accepted.getLast? = some sample ∧ generation = UInt32.ofNat log.accepted.length := by
  have live : log.topic.generation ≠ 0 := by
    intro empty
    rw [csynTopicCopy_unpublished bufSize empty] at copied
    cases copied
  cases last : log.accepted.getLast? with
  | none =>
      rw [List.getLast?_eq_none_iff] at last
      rw [valid.generation, last] at live
      exact absurd rfl live
  | some latest =>
      obtain ⟨fits, holds⟩ := valid.current latest last
      obtain ⟨positive, bounded⟩ := CsynTopic.accepts_some.mp fits
      have size : (log.topic.lengths (slotOf log.topic.generation)).toNat = latest.length := by
        rw [holds.length, UInt16.toNat_ofNat',
          Nat.mod_eq_of_lt (Nat.lt_of_le_of_lt bounded (UInt16.toNat_lt _))]
      have room : latest.length ≤ bufSize := by
        by_contra long
        unfold csynTopicCopy at copied
        dsimp only at copied
        rw [if_neg live, if_pos (Or.inr (by omega))] at copied
        cases copied
      rw [holds.copy live fits room] at copied
      cases copied
      exact ⟨rfl, valid.generation⟩

/-- It fails where there is none, after a full turn of the generation, or on a long sample. -/
theorem StoreLog.Consistent.uncopied {log : StoreLog} (valid : log.Consistent) {bufSize : Nat}
    (failed : csynTopicCopy log.topic bufSize = none) :
    2 ^ 32 ∣ log.accepted.length ∨
      ∃ latest, log.accepted.getLast? = some latest ∧ bufSize < latest.length := by
  by_cases live : log.topic.generation = 0
  · left
    rw [valid.generation, ← UInt32.toNat_inj, UInt32.toNat_ofNat'] at live
    exact Nat.dvd_of_mod_eq_zero live
  · right
    cases last : log.accepted.getLast? with
    | none =>
        rw [List.getLast?_eq_none_iff] at last
        rw [valid.generation, last] at live
        exact absurd rfl live
    | some latest =>
        obtain ⟨fits, holds⟩ := valid.current latest last
        refine ⟨latest, rfl, ?_⟩
        by_contra short
        rw [holds.copy live fits (Nat.not_lt.mp short)] at failed
        cases failed

/-- The log grows by the calls whose arguments pass. -/
theorem StoreLog.run_accepted_length (log : StoreLog) (calls : List (Option (List UInt8))) :
    (log.run calls).accepted.length =
      log.accepted.length + calls.countP log.topic.accepts := by
  induction calls generalizing log with
  | nil => rfl
  | cons buf rest ih =>
      have later := ih (log.call buf)
      rw [log.call_accepts buf] at later
      refine later.trans ?_
      cases fits : log.topic.accepts buf with
      | false =>
          rw [StoreLog.call_refused fits,
            List.countP_cons_of_neg (by rw [fits]; exact Bool.false_ne_true)]
      | true =>
          cases buf with
          | none => cases fits
          | some bytes =>
              rw [List.countP_cons_of_pos fits, StoreLog.call, csynTopicPublish_returns, fits,
                if_pos rfl, List.length_append]
              change _ + 1 + _ = _
              omega

/-- A topic that nothing was published on. -/
def StoreLog.boot (key : Str) (info : Option SynapseTopicInfo) (dir : CsynDir)
    (maxSize : UInt16) : StoreLog :=
  ⟨{ csynTopicDefine key dir maxSize with info := info }, []⟩

theorem StoreLog.boot_consistent (key : Str) (info : Option SynapseTopicInfo) (dir : CsynDir)
    (maxSize : UInt16) : (StoreLog.boot key info dir maxSize).Consistent :=
  ⟨rfl, by rintro sample ⟨⟩⟩

/-- Rejected calls change nothing, and the latest accepted sample is there to be copied. -/
structure StoreLog.NeverForgets (start : StoreLog) (calls : List (Option (List UInt8))) : Prop where
  rejected : ∀ before buf, before ++ [buf] <+: calls →
    (csynTopicPublish (start.run before).topic buf).1 = false →
    (csynTopicPublish (start.run before).topic buf).2 = (start.run before).topic
  latest : ∀ sample, (start.run calls).accepted.getLast? = some sample →
    ∀ bufSize, start.topic.maxSize.toNat ≤ bufSize →
      ∃ generation, csynTopicCopy (start.run calls).topic bufSize = some (sample, generation)

/-- The store holds on to the latest accepted sample if and only if the number of accepted
calls is not a multiple of `2 ^ 32`, at which the generation reads "nothing published". -/
theorem store_never_forgets_iff (key : Str) (info : Option SynapseTopicInfo) (dir : CsynDir)
    (maxSize : UInt16) (calls : List (Option (List UInt8)))
    (published : (StoreLog.boot key info dir maxSize |>.run calls).accepted ≠ []) :
    (StoreLog.boot key info dir maxSize).NeverForgets calls ↔
      ¬ 2 ^ 32 ∣ calls.countP (StoreLog.boot key info dir maxSize).topic.accepts := by
  have valid := (StoreLog.boot_consistent key info dir maxSize).run calls
  have counted := (StoreLog.boot key info dir maxSize).run_accepted_length calls
  have sized := (StoreLog.boot key info dir maxSize).run_maxSize calls
  have empty : (StoreLog.boot key info dir maxSize).accepted.length = 0 := rfl
  rw [empty, Nat.zero_add] at counted
  have turned : ((StoreLog.boot key info dir maxSize).run calls).topic.generation = 0 ↔
      2 ^ 32 ∣ calls.countP (StoreLog.boot key info dir maxSize).topic.accepts := by
    rw [valid.generation, counted, ← UInt32.toNat_inj, UInt32.toNat_ofNat', Nat.dvd_iff_mod_eq_zero]
    rfl
  rw [← turned]
  constructor
  · intro remembers forgotten
    have last := List.getLast?_eq_some_getLast published
    obtain ⟨generation, copied⟩ := remembers.latest _ last _ (Nat.le_refl _)
    rw [csynTopicCopy_unpublished _ forgotten] at copied
    cases copied
  · intro live
    constructor
    · intro before buf _ refused
      rw [csynTopicPublish_returns] at refused
      rw [csynTopicPublish_rejected refused]
    · intro sample last bufSize room
      obtain ⟨fits, holds⟩ := valid.current sample last
      refine ⟨_, holds.copy live fits (Nat.le_trans ?_ room)⟩
      rw [← sized]
      exact (CsynTopic.accepts_some.mp fits).2

/-- A topic with room for two bytes. -/
def twoByteLog : StoreLog := .boot (str "att") none .tx 2

/-- Two accepted samples with two rejected calls between them. -/
def mixedCalls : List (Option (List UInt8)) := [some [1], none, some [1, 2, 3], some [4, 5]]

theorem store_never_forgets_iff_mixed :
    (twoByteLog.run mixedCalls).accepted = [[1], [4, 5]] ∧ twoByteLog.NeverForgets mixedCalls :=
  ⟨rfl, (store_never_forgets_iff (str "att") none .tx 2 mixedCalls (by decide)).mpr (by decide)⟩

/-- The same sample once for every value of the generation. -/
def fullTurn : List (Option (List UInt8)) := List.replicate (2 ^ 32) (some [7])

/-- After them the copy reports that nothing was published. -/
theorem store_forgets_after_turn :
    fullTurn.all twoByteLog.topic.accepts = true ∧
      (∃ sample, (twoByteLog.run fullTurn).accepted.getLast? = some sample) ∧
      csynTopicCopy (twoByteLog.run fullTurn).topic 2 = none ∧
      ¬ twoByteLog.NeverForgets fullTurn := by
  have all : ∀ buf ∈ fullTurn, twoByteLog.topic.accepts buf = true := by
    intro buf member
    rw [List.eq_of_mem_replicate member]
    rfl
  have count : (twoByteLog.run fullTurn).accepted.length = 2 ^ 32 := by
    rw [StoreLog.run_accepted_length, List.countP_eq_length.mpr all, fullTurn,
      List.length_replicate]
    rfl
  have valid : twoByteLog.Consistent := StoreLog.boot_consistent (str "att") none .tx 2
  have turned : (twoByteLog.run fullTurn).topic.generation = 0 := by
    rw [(valid.run fullTurn).generation, count]
    rfl
  have forgotten := csynTopicCopy_unpublished 2 turned
  have last : ∃ sample, (twoByteLog.run fullTurn).accepted.getLast? = some sample := by
    refine ⟨_, List.getLast?_eq_some_getLast ?_⟩
    intro empty
    rw [empty] at count
    exact absurd count (by decide)
  refine ⟨List.all_eq_true.mpr all, last, forgotten, ?_⟩
  intro remembers
  obtain ⟨sample, last⟩ := last
  obtain ⟨generation, copied⟩ := remembers.latest sample last 2 (by decide)
  rw [forgotten] at copied
  cases copied

end Csyn
