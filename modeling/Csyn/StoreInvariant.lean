import Csyn.StoreSteps

set_option autoImplicit false

/- The invariant of the store under its single writer, and what a reader in the
middle of `csyn_topic_copy` knows. Only the history ties the two together, so
neither has to be restated when the other takes a step. -/
namespace Csyn

/-- A slot holds exactly this sample. -/
structure CsynTopic.HoldsSample (topic : CsynTopic) (slot : Nat) (bytes : List UInt8) : Prop where
  length : topic.lengths slot = UInt16.ofNat bytes.length
  bytes : topic.slots.Holds (topic.slotBase slot) bytes []

/-- Where the writer is with the sample after the `n`-th. -/
def WriterProgress (topic : CsynTopic) (n : Nat) : PublishPc → Prop
  | .idle => True
  | .copying next bytes pending =>
      next = UInt32.ofNat (n + 1) ∧ topic.accepts (some bytes) = true ∧
        topic.slots.Holds (topic.slotBase (slotOf next)) bytes pending
  | .lengthStored next bytes =>
      next = UInt32.ofNat (n + 1) ∧ topic.accepts (some bytes) = true ∧
        topic.HoldsSample (slotOf next) bytes

/-- The generation counts the completed publishes, the slot it selects holds the
last of them, and the writer works on the other slot. -/
structure Store.Consistent (s : Store) : Prop where
  generation : s.topic.generation = UInt32.ofNat s.published.length
  numbered : ∀ (k : Nat) (p : Published), s.published[k]? = some p →
    p.generation = UInt32.ofNat (k + 1)
  accepted : ∀ p ∈ s.published, s.topic.accepts (some p.payload) = true
  current : ∀ p, s.published.getLast? = some p →
    s.topic.HoldsSample (s.published.length % 2) p.payload
  writing : WriterProgress s.topic s.published.length s.writer

theorem Store.boot_consistent (key : Str) (info : Option SynapseTopicInfo) (dir : CsynDir)
    (maxSize : UInt16) : (Store.boot key info dir maxSize).Consistent :=
  ⟨rfl, by simp [Store.boot], by simp [Store.boot], by simp [Store.boot], trivial⟩

/-- While the generation has not wrapped it identifies a publish. -/
theorem Store.Consistent.eq_of_generation {s : Store} (valid : s.Consistent)
    (small : s.published.length < 2 ^ 32) {p q : Published} (first : p ∈ s.published)
    (second : q ∈ s.published) (same : p.generation = q.generation) : p = q := by
  obtain ⟨i, atFirst⟩ := List.getElem?_of_mem first
  obtain ⟨j, atSecond⟩ := List.getElem?_of_mem second
  have firstInside := (List.getElem?_eq_some_iff.mp atFirst).1
  have secondInside := (List.getElem?_eq_some_iff.mp atSecond).1
  rw [valid.numbered i p atFirst, valid.numbered j q atSecond] at same
  have numbers := congrArg UInt32.toNat same
  rw [Counter.toNat_of_lt (by omega), Counter.toNat_of_lt (by omega)] at numbers
  have position : i = j := by omega
  subst position
  exact Option.some.inj (atFirst.symm.trans atSecond)

/-- The two slots are `max_size` bytes each. -/
theorem slotBase_apart (topic : CsynTopic) (n offset length : Nat)
    (inside : offset < topic.maxSize.toNat) (fits : length ≤ topic.maxSize.toNat) :
    topic.slotBase ((n + 1) % 2) + offset < topic.slotBase (n % 2) ∨
      topic.slotBase (n % 2) + length ≤ topic.slotBase ((n + 1) % 2) + offset := by
  unfold CsynTopic.slotBase
  rcases Nat.mod_two_eq_zero_or_one n with even | odd
  · have other : (n + 1) % 2 = 1 := by omega
    rw [even, other, Nat.zero_mul, Nat.one_mul]
    omega
  · have other : (n + 1) % 2 = 0 := by omega
    rw [odd, other, Nat.zero_mul, Nat.one_mul]
    omega

theorem slotOf_next_ne (n : Nat) : n % 2 ≠ slotOf (UInt32.ofNat (n + 1)) := by
  rw [slotOf_ofNat]
  omega

/-- The writer's byte store leaves the current slot alone. -/
theorem CsynTopic.HoldsSample.store_next {topic : CsynTopic} {n offset : Nat}
    {bytes : List UInt8} {byte : UInt8} (holds : topic.HoldsSample (n % 2) bytes)
    (fits : bytes.length ≤ topic.maxSize.toNat) (inside : offset < topic.maxSize.toNat) :
    ({ topic with
        slots := topic.slots.store
          (topic.slotBase (slotOf (UInt32.ofNat (n + 1))) + offset) byte } :
      CsynTopic).HoldsSample (n % 2) bytes := by
  refine ⟨holds.length, ?_⟩
  apply holds.bytes.store_outside
  rw [slotOf_ofNat]
  exact slotBase_apart topic n offset bytes.length inside fits

/-- Every writer step keeps the invariant. -/
theorem Store.Consistent.publish {s t : Store} {action : PublishAction} (valid : s.Consistent)
    (taken : s.publish action = some t) : t.Consistent := by
  have fitsLast : ∀ p, s.published.getLast? = some p →
      p.payload.length ≤ s.topic.maxSize.toNat := fun p last =>
    (CsynTopic.accepts_some.mp (valid.accepted p (List.mem_of_getLast? last))).2
  rcases s.publish_cases taken with ⟨buf, -, -, -, rfl⟩ | ⟨bytes, -, -, fits, rfl⟩ |
    ⟨next, bytes, pending, offset, byte, -, at_copy, member, found, rfl⟩ |
    ⟨next, bytes, -, at_copy, rfl⟩ | ⟨next, bytes, -, at_end, rfl⟩
  · exact valid
  · refine ⟨valid.generation, valid.numbered, valid.accepted, valid.current, ?_⟩
    refine ⟨?_, fits, ByteMemory.holds_start _ _ _⟩
    rw [valid.generation, Counter.next]
  · have progress := valid.writing
    rw [at_copy] at progress
    obtain ⟨rfl, fits, holds⟩ := progress
    have inside : offset < s.topic.maxSize.toNat := by
      have present := (List.getElem?_eq_some_iff.mp found).1
      have bound := (CsynTopic.accepts_some.mp fits).2
      omega
    refine ⟨valid.generation, valid.numbered, valid.accepted, ?_, rfl, fits, holds.store found⟩
    intro p last
    exact (valid.current p last).store_next (fitsLast p last) inside
  · have progress := valid.writing
    rw [at_copy] at progress
    obtain ⟨rfl, fits, holds⟩ := progress
    refine ⟨valid.generation, valid.numbered, valid.accepted, ?_, rfl, fits, ?_, holds⟩
    · intro p last
      have held := valid.current p last
      refine ⟨?_, held.bytes⟩
      exact (Function.update_of_ne (slotOf_next_ne _) _ _).trans held.length
    · exact Function.update_self _ _ _
  · have progress := valid.writing
    rw [at_end] at progress
    obtain ⟨rfl, fits, holds⟩ := progress
    refine ⟨?_, ?_, ?_, ?_, trivial⟩
    · rw [List.length_append, List.length_singleton]
    · intro k p found
      rcases Nat.lt_trichotomy k s.published.length with below | rfl | above
      · rw [List.getElem?_append_left below] at found
        exact valid.numbered k p found
      · rw [List.getElem?_concat_length, Option.some.injEq] at found
        rw [← found]
      · rw [List.getElem?_eq_none (by simp only [List.length_append, List.length_singleton]; omega)]
          at found
        cases found
    · intro p member
      rcases List.mem_append.mp member with earlier | last
      · exact valid.accepted p earlier
      · rw [List.mem_singleton.mp last]
        exact fits
    · intro p last
      rw [List.getLast?_concat, Option.some.injEq] at last
      subst last
      rw [List.length_append, List.length_singleton, ← slotOf_ofNat]
      exact ⟨holds.length, holds.bytes⟩

/-- The writer only extends the history. -/
theorem Store.publish_extends {s t : Store} {action : PublishAction}
    (taken : s.publish action = some t) : s.published <+: t.published := by
  rcases s.publish_cases taken with ⟨buf, -, -, -, rfl⟩ | ⟨bytes, -, -, -, rfl⟩ |
    ⟨next, bytes, pending, offset, byte, -, -, -, -, rfl⟩ | ⟨next, bytes, -, -, rfl⟩ |
    ⟨next, bytes, -, -, rfl⟩
  · exact List.prefix_rfl
  · exact List.prefix_rfl
  · exact List.prefix_rfl
  · exact List.prefix_rfl
  · exact List.prefix_append _ _

/-- The generation a reader holds is the `k`-th, read no earlier than `since`. If
that sample is still current, what was taken of it so far is right; once it is
not, nothing is promised. -/
structure ReadsFrom (published : List Published) (since : Nat) (generationStart : UInt32)
    (sample : List UInt8 → Prop) : Prop where
  reading : ∃ k, since ≤ k ∧ 0 < k ∧ k ≤ published.length ∧ generationStart = UInt32.ofNat k ∧
    (k = published.length → ∀ p, published.getLast? = some p → sample p.payload)

/-- What a `csyn_topic_copy` call knows that started when `since` publishes had completed. -/
def CopyView (published : List Published) (since : Nat) (pc : CopyPc) (buf : ByteMemory) : Prop :=
  match pc with
  | .atLoop => since ≤ published.length
  | .slotChosen start => ReadsFrom published since start fun _ => True
  | .copying start length pending => ReadsFrom published since start fun payload =>
      length = UInt16.ofNat payload.length ∧ buf.Holds 0 payload pending

theorem ReadsFrom.extend {published extra : List Published} {since : Nat} {start : UInt32}
    {sample : List UInt8 → Prop} (reads : ReadsFrom published since start sample) :
    ReadsFrom (published ++ extra) since start sample := by
  obtain ⟨k, later, positive, bounded, same, known⟩ := reads
  refine ⟨k, later, positive, ?_, same, ?_⟩
  · rw [List.length_append]
    omega
  · intro stillLast p last
    have none_new : extra = [] := by
      rw [List.length_append] at stillLast
      exact List.eq_nil_of_length_eq_zero (by omega)
    subst none_new
    rw [List.append_nil] at last stillLast
    exact known stillLast p last

/-- Publishes that complete meanwhile do not disturb the reader's view. -/
theorem CopyView.extend {published later : List Published} {since : Nat} {pc : CopyPc}
    {buf : ByteMemory} (view : CopyView published since pc buf) (grown : published <+: later) :
    CopyView later since pc buf := by
  obtain ⟨extra, rfl⟩ := grown
  cases pc with
  | atLoop =>
      change since ≤ (published ++ extra).length
      rw [List.length_append]
      exact Nat.le_trans view (Nat.le_add_right _ _)
  | slotChosen start => exact ReadsFrom.extend view
  | copying start length pending => exact ReadsFrom.extend view

theorem ReadsFrom.since_le {published : List Published} {since : Nat} {start : UInt32}
    {sample : List UInt8 → Prop} (reads : ReadsFrom published since start sample) :
    since ≤ published.length := by
  obtain ⟨k, later, -, bounded, -, -⟩ := reads
  omega

/-- A step of the reader that does not end the call. -/
theorem CopyView.step {s : Store} {since bufSize : Nat} {pc next : CopyPc}
    {buf after : ByteMemory} {action : CopyAction} (valid : s.Consistent)
    (view : CopyView s.published since pc buf)
    (taken : copyStep s.topic bufSize pc buf action = some (.running next after)) :
    CopyView s.published since next after := by
  rcases copyStep_cases taken with ⟨-, -, done⟩ | ⟨rfl, live, moved⟩ | ⟨start, -, -, done⟩ |
    ⟨start, rfl, -, -, moved⟩ | ⟨start, length, pending, offset, rfl, member, moved⟩ |
    ⟨start, length, -, -, done⟩ | ⟨start, length, rfl, -, moved⟩
  · cases done
  · cases moved
    rw [valid.generation] at live ⊢
    exact ⟨s.published.length, view, Counter.reading_pos live, Nat.le_refl _, rfl,
      fun _ _ _ => trivial⟩
  · cases done
  · cases moved
    obtain ⟨k, later, positive, bounded, rfl, -⟩ := view
    refine ⟨k, later, positive, bounded, rfl, ?_⟩
    rintro rfl p last
    have held := valid.current p last
    have bound := (CsynTopic.accepts_some.mp (valid.accepted p (List.mem_of_getLast? last))).2
    rw [slotOf_ofNat, held.length]
    refine ⟨rfl, ?_⟩
    rw [UInt16.toNat_ofNat', Nat.mod_eq_of_lt (Nat.lt_of_le_of_lt bound (UInt16.toNat_lt _))]
    exact ByteMemory.holds_start _ _ _
  · cases moved
    obtain ⟨k, later, positive, bounded, rfl, known⟩ := view
    refine ⟨k, later, positive, bounded, rfl, ?_⟩
    rintro rfl p last
    obtain ⟨sized, holds⟩ := known rfl p last
    refine ⟨sized, ?_⟩
    by_cases inside : offset < p.payload.length
    · have byteAt : p.payload[offset]? =
          some (s.topic.slots (s.topic.slotBase (slotOf (UInt32.ofNat s.published.length)) + offset)) := by
        rw [slotOf_ofNat, (valid.current p last).bytes offset inside List.not_mem_nil]
        exact List.getElem?_eq_getElem inside
      have stored := holds.store byteAt
      rwa [Nat.zero_add] at stored
    · intro i small absent
      rw [ByteMemory.store_other _ _ (by omega)]
      exact holds i small fun present => absent ((List.mem_erase_of_ne (by omega)).mpr present)
  · cases done
  · cases moved
    exact ReadsFrom.since_le view

/-- A call that returns `true` returns the sample that is current at its last access,
unless the generation made a full turn since `since`. -/
theorem CopyView.copied {s : Store} {since bufSize : Nat} {pc : CopyPc}
    {buf after : ByteMemory} {action : CopyAction} {length : UInt16} {generation : UInt32}
    (valid : s.Consistent) (view : CopyView s.published since pc buf)
    (taken : copyStep s.topic bufSize pc buf action = some (.copied length generation after))
    (window : s.published.length - since < 2 ^ 32) :
    ∃ p, s.published.getLast? = some p ∧ p.generation = generation ∧
      length.toNat = p.payload.length ∧ after.Holds 0 p.payload [] := by
  rcases copyStep_cases taken with ⟨-, -, done⟩ | ⟨-, -, moved⟩ | ⟨start, -, -, done⟩ |
    ⟨start, -, -, -, moved⟩ | ⟨start, length, pending, offset, -, -, moved⟩ |
    ⟨start, length, rfl, same, done⟩ | ⟨start, length, -, -, moved⟩
  · cases done
  · cases moved
  · cases done
  · cases moved
  · cases moved
  · cases done
    obtain ⟨k, later, positive, bounded, reading, known⟩ := view
    have unmoved : k = s.published.length := by
      apply Counter.eq_of_reading_eq bounded (by omega)
      rw [← reading, ← same, valid.generation]
    subst unmoved
    obtain ⟨p, last⟩ : ∃ p, s.published.getLast? = some p := by
      cases shown : s.published.getLast? with
      | none => rw [List.getLast?_eq_none_iff.mp shown] at positive; cases positive
      | some p => exact ⟨p, rfl⟩
    obtain ⟨sized, holds⟩ := known rfl p last
    have bound := (CsynTopic.accepts_some.mp (valid.accepted p (List.mem_of_getLast? last))).2
    refine ⟨p, last, ?_, ?_, holds⟩
    · rw [List.getLast?_eq_getElem?] at last
      rw [valid.numbered _ p last, reading, Nat.sub_add_cancel positive]
    · rw [sized, UInt16.toNat_ofNat',
        Nat.mod_eq_of_lt (Nat.lt_of_le_of_lt bound (UInt16.toNat_lt _))]
  · cases moved

end Csyn
