import Csyn.TornSamples

set_option autoImplicit false

/- When `csyn_topic_copy` returns `false`. The length in the chosen slot is tested before the
generation is read again, and the writer may already have stored the length of the next sample
there. -/
namespace Csyn

/-- Until the writer stores the next length, the other slot keeps the length of the sample
before the current one. -/
def Store.KeepsPrevious (s : Store) : Prop :=
  (∀ next bytes, s.writer ≠ .lengthStored next bytes) →
    ∀ (k : Nat) (p : Published), s.published[k]? = some p → k + 2 = s.published.length →
      s.topic.lengths ((k + 1) % 2) = UInt16.ofNat p.payload.length

theorem Store.KeepsPrevious.publish {s t : Store} {action : PublishAction}
    (keeps : s.KeepsPrevious) (valid : s.Consistent) (taken : s.publish action = some t) :
    t.KeepsPrevious := by
  rcases s.publish_cases taken with ⟨buf, -, -, -, rfl⟩ | ⟨bytes, -, at_rest, -, rfl⟩ |
    ⟨next, bytes, pending, offset, byte, -, at_copy, -, -, rfl⟩ | ⟨next, bytes, -, -, rfl⟩ |
    ⟨next, bytes, -, -, rfl⟩
  · exact keeps
  · intro _
    apply keeps
    rw [at_rest]
    rintro next bytes ⟨⟩
  · intro _
    apply keeps
    rw [at_copy]
    rintro next bytes ⟨⟩
  · intro unfinished
    exact absurd rfl (unfinished next bytes)
  · intro _ k p found previous
    -- What was current before this step.
    rw [List.length_append, List.length_singleton] at previous
    have last : s.published.getLast? = some p := by
      rw [List.getElem?_append_left (by omega)] at found
      rw [List.getLast?_eq_getElem?, ← found]
      congr 1
      omega
    have parity : (k + 1) % 2 = s.published.length % 2 := by omega
    show s.topic.lengths ((k + 1) % 2) = _
    rw [parity]
    exact (valid.current p last).length

/-- The call has a reason to fail at this instant. -/
def CopyCall.Refused (call : CopyCall) (store : Store) : Prop :=
  store.topic.generation = 0 ∨
    ∃ p, store.published.getLast? = some p ∧ call.bufSize < p.payload.length

/-- The length that the call reads next is one of a publish that has not set its generation, and
longer than the buffer. -/
def CopyCall.ReadsUnfinished (call : CopyCall) (store : Store) : Prop :=
  ∃ start next bytes, call.pc = .slotChosen start ∧ store.writer = .lengthStored next bytes ∧
    slotOf next = slotOf start ∧ call.bufSize < bytes.length

/-- After `n` of these publishes the call had a reason to fail. -/
def CopyCall.RefusedAfter (call : CopyCall) (published : List Published) (n : Nat) : Prop :=
  UInt32.ofNat n = 0 ∨
    ∃ p, (published.take n).getLast? = some p ∧ call.bufSize < p.payload.length

/-- A stored length that a buffer has no room for is that of a sample it has no room for. -/
theorem CsynTopic.accepts_tooLong {topic : CsynTopic} {bytes : List UInt8} {length : UInt16}
    {bufSize : Nat} (fits : topic.accepts (some bytes) = true)
    (stored : length = UInt16.ofNat bytes.length) (unfit : length = 0 ∨ bufSize < length.toNat) :
    bufSize < bytes.length := by
  obtain ⟨size, nonzero⟩ := CsynTopic.accepts_length fits
  rw [stored] at unfit
  rcases unfit with zero | long
  · exact absurd zero nonzero
  · rwa [size] at long

/-- Why the length of a slot does not fit: the slot is that of the current sample, of the next one
whose length is stored already, or of the one before. -/
theorem CopyCall.unfit_because {s : Store} {call : CopyCall} {k : Nat} (valid : s.Consistent)
    (keeps : s.KeepsPrevious) (at_length : call.pc = .slotChosen (UInt32.ofNat k))
    (entered : call.entered ≤ k) (positive : 0 < k) (bounded : k ≤ s.published.length)
    (unfit : s.topic.lengths (slotOf (UInt32.ofNat k)) = 0 ∨
      call.bufSize < (s.topic.lengths (slotOf (UInt32.ofNat k))).toNat) :
    (∃ n, call.entered ≤ n ∧ n ≤ s.published.length ∧ call.RefusedAfter s.published n) ∨
      call.ReadsUnfinished s := by
  rw [slotOf_ofNat] at unfit
  by_cases same : k % 2 = s.published.length % 2
  -- The slot holds the current sample.
  · obtain ⟨p, last⟩ : ∃ p, s.published.getLast? = some p := by
      have nonempty : s.published ≠ [] := List.ne_nil_of_length_pos (by omega)
      exact ⟨_, List.getLast?_eq_some_getLast nonempty⟩
    have fits := valid.accepted p (List.mem_of_getLast? last)
    rw [same] at unfit
    refine Or.inl ⟨s.published.length, by omega, Nat.le_refl _, Or.inr ⟨p, ?_, ?_⟩⟩
    · rw [List.take_length]
      exact last
    · exact CsynTopic.accepts_tooLong fits (valid.current p last).length unfit
  · by_cases stored : ∃ next bytes, s.writer = .lengthStored next bytes
    -- The writer has stored the length of the sample after the current one.
    · obtain ⟨next, bytes, at_end⟩ := stored
      have progress := valid.writing
      rw [at_end] at progress
      obtain ⟨rfl, fits, holds⟩ := progress
      have slot : (s.published.length + 1) % 2 = k % 2 := by omega
      have length := holds.length
      rw [slotOf_ofNat, slot] at length
      refine Or.inr ⟨_, _, bytes, at_length, at_end, ?_, ?_⟩
      · rw [slotOf_ofNat, slotOf_ofNat, slot]
      · exact CsynTopic.accepts_tooLong fits length unfit
    -- The slot still holds the sample before the current one.
    · obtain ⟨p, found⟩ : ∃ p, s.published[s.published.length - 2]? = some p :=
        ⟨_, List.getElem?_eq_getElem (by omega)⟩
      have fits := valid.accepted _ (List.mem_of_getElem? found)
      have length := keeps (fun next bytes at_end => stored ⟨next, bytes, at_end⟩)
        (s.published.length - 2) p found (by omega)
      have slot : (s.published.length - 2 + 1) % 2 = k % 2 := by omega
      rw [slot] at length
      refine Or.inl ⟨s.published.length - 1, by omega, by omega, Or.inr ⟨p, ?_, ?_⟩⟩
      · rw [List.getLast?_eq_getElem?, List.length_take, List.getElem?_take_of_lt (by omega),
          ← found]
        congr 1
        omega
      · exact CsynTopic.accepts_tooLong fits length unfit

/-- A call that fails had a reason after one of the publishes since it began, or reads the length
of an unfinished one. -/
theorem CopyCall.failed_because {s : Store} {call : CopyCall} {action : CopyAction}
    {buf : ByteMemory} (valid : s.Consistent) (keeps : s.KeepsPrevious)
    (view : CopyView s.published call.entered call.pc call.buf)
    (failed : copyStep s.topic call.bufSize call.pc call.buf action = some (.failed buf)) :
    (∃ n, call.entered ≤ n ∧ n ≤ s.published.length ∧ call.RefusedAfter s.published n) ∨
      action = .readLength ∧ call.ReadsUnfinished s := by
  unfold copyStep at failed
  split at failed
  · rename_i at_loop
    split at failed
    · rename_i empty
      rw [at_loop] at view
      refine Or.inl ⟨s.published.length, view, Nat.le_refl _, Or.inl ?_⟩
      rw [← valid.generation]
      exact empty
    · cases failed
  · rename_i start at_length
    dsimp only at failed
    split at failed
    · rename_i unfit
      rw [at_length] at view
      obtain ⟨k, later, positive, bounded, rfl, -⟩ := view
      rcases CopyCall.unfit_because valid keeps at_length later positive bounded unfit with
        reason | ahead
      · exact Or.inl reason
      · exact Or.inr ⟨rfl, ahead⟩
    · cases failed
  · split at failed <;> cases failed
  · split at failed <;> cases failed
  · cases failed

section

variable {ι : Type} [DecidableEq ι]

/-- At some instant of the run, when no fewer publishes had completed than when the call began,
it had a reason to fail. -/
def Sharing.HadReason (start : Sharing ι) (schedule : List (SharingAction ι)) (call : CopyCall) :
    Prop :=
  ∃ before rest instant, schedule = before ++ rest ∧
    Automaton.run Sharing.step start before = some instant ∧
    call.entered ≤ instant.store.published.length ∧ call.Refused instant.store

/-- Every `false` of the run was returned for a reason. -/
def Sharing.FailsForReason (start : Sharing ι) (schedule : List (SharingAction ι)) : Prop :=
  ∀ before reader action rest s call buf, schedule = before ++ .reader reader action :: rest →
    Automaton.run Sharing.step start before = some s → s.readers reader = some call →
      copyStep s.store.topic call.bufSize call.pc call.buf action = some (.failed buf) →
        start.HadReason before call

/-- In this run a call reads the length of an unfinished publish that does not fit its buffer,
although every sample that was current since the call began does. -/
def Sharing.ReadsAhead (start : Sharing ι) (schedule : List (SharingAction ι)) : Prop :=
  ∃ before reader rest s call, schedule = before ++ .reader reader .readLength :: rest ∧
    Automaton.run Sharing.step start before = some s ∧ s.readers reader = some call ∧
      call.ReadsUnfinished s.store ∧ ¬ start.HadReason before call

theorem Sharing.step_store {s t : Sharing ι} {action : SharingAction ι}
    (taken : s.step action = some t) :
    t.store = s.store ∨ ∃ write, action = .writer write ∧ s.store.publish write = some t.store := by
  cases action with
  | writer action =>
      simp only [Sharing.step, Option.map_eq_some_iff] at taken
      obtain ⟨store, published, rfl⟩ := taken
      exact Or.inr ⟨action, rfl, published⟩
  | call reader buf bufSize =>
      unfold Sharing.step at taken
      dsimp only at taken
      split at taken
      · cases taken
      · cases taken
        exact Or.inl rfl
      · cases taken
        exact Or.inl rfl
  | reader reader action =>
      unfold Sharing.step at taken
      dsimp only at taken
      split at taken
      · cases taken
      · split at taken
        · cases taken
        all_goals
          cases taken
          exact Or.inl rfl

/-- One step completes at most one publish. -/
theorem Sharing.step_publishes (s : Sharing ι) (action : SharingAction ι) (t : Sharing ι)
    (taken : s.step action = some t) :
    t.store.published.length ≤ s.store.published.length + 1 := by
  rcases Sharing.step_store taken with same | ⟨write, -, published⟩
  · rw [same]
    exact Nat.le_succ _
  · rcases s.store.publish_cases published with ⟨_, -, -, -, same⟩ | ⟨_, -, -, -, same⟩ |
      ⟨_, _, _, _, _, -, -, -, -, same⟩ | ⟨_, _, -, -, same⟩ | ⟨_, _, -, -, same⟩
    all_goals simp [same]

theorem Sharing.step_extends (s : Sharing ι) (action : SharingAction ι) (t : Sharing ι)
    (taken : s.step action = some t) : s.store.published <+: t.store.published := by
  rcases Sharing.step_store taken with same | ⟨write, -, published⟩
  · exact same ▸ List.prefix_rfl
  · exact Store.publish_extends published

theorem Sharing.step_keepsPrevious (s : Sharing ι) (action : SharingAction ι) (t : Sharing ι)
    (taken : s.step action = some t) (valid : s.Consistent ∧ s.store.KeepsPrevious) :
    t.Consistent ∧ t.store.KeepsPrevious := by
  refine ⟨Sharing.step_consistent s action t taken valid.1, ?_⟩
  rcases Sharing.step_store taken with same | ⟨write, -, published⟩
  · rw [same]
    exact valid.2
  · exact valid.2.publish valid.1.store published

omit [DecidableEq ι] in
theorem Sharing.boot_keepsPrevious (key : Str) (info : Option SynapseTopicInfo) (dir : CsynDir)
    (maxSize : UInt16) :
    (Sharing.boot (.boot key info dir maxSize) : Sharing ι).Consistent ∧
      (Sharing.boot (.boot key info dir maxSize) : Sharing ι).store.KeepsPrevious := by
  refine ⟨Sharing.boot_consistent _ (Store.boot_consistent key info dir maxSize), ?_⟩
  intro _ k p found
  simp [Sharing.boot, Store.boot] at found

/-- At an instant of the run the first publishes of its history had completed. -/
theorem Sharing.instant_store {key : Str} {info : Option SynapseTopicInfo} {dir : CsynDir}
    {maxSize : UInt16} {before rest : List (SharingAction ι)} {s instant : Sharing ι}
    (passed : Automaton.run Sharing.step (.boot (.boot key info dir maxSize)) before =
      some instant)
    (reached : Automaton.run Sharing.step (.boot (.boot key info dir maxSize)) (before ++ rest) =
      some s) :
    instant.store.published <+: s.store.published ∧
      instant.store.topic.generation = UInt32.ofNat instant.store.published.length := by
  have valid := Automaton.run_invariant Sharing.step_consistent passed
    (Sharing.boot_consistent _ (Store.boot_consistent key info dir maxSize))
  obtain ⟨mid, passed', later⟩ := (Automaton.run_append_some _).mp reached
  rw [passed, Option.some.injEq] at passed'
  subst passed'
  refine ⟨?_, valid.store.generation⟩
  apply Automaton.run_invariant
    (motive := fun t : Sharing ι => instant.store.published <+: t.store.published) _ later
    List.prefix_rfl
  intro x a y taken earlier
  exact earlier.trans (Sharing.step_extends x a y taken)

/-- Each number of publishes since the call began was that of an instant of the run. -/
theorem Sharing.hadReason_iff {key : Str} {info : Option SynapseTopicInfo} {dir : CsynDir}
    {maxSize : UInt16} {schedule : List (SharingAction ι)} {s : Sharing ι} {call : CopyCall}
    (reached : Automaton.run Sharing.step (.boot (.boot key info dir maxSize)) schedule =
      some s) :
    (Sharing.boot (.boot key info dir maxSize)).HadReason schedule call ↔
      ∃ n, call.entered ≤ n ∧ n ≤ s.store.published.length ∧
        call.RefusedAfter s.store.published n := by
  constructor
  · rintro ⟨before, rest, instant, rfl, passed, began, refused⟩
    obtain ⟨grown, generation⟩ := Sharing.instant_store passed reached
    refine ⟨_, began, grown.length_le, ?_⟩
    rw [CopyCall.RefusedAfter, ← generation, ← List.prefix_iff_eq_take.mp grown]
    exact refused
  · rintro ⟨n, began, bounded, refused⟩
    obtain ⟨before, rest, instant, rfl, passed, count⟩ :=
      Automaton.run_passes Sharing.step_publishes reached (Nat.zero_le n) bounded
    obtain ⟨grown, generation⟩ := Sharing.instant_store passed reached
    have shown := List.prefix_iff_eq_take.mp grown
    subst count
    refine ⟨before, rest, instant, rfl, passed, began, ?_⟩
    rw [CopyCall.RefusedAfter, ← generation, ← shown] at refused
    exact refused

/-- A run returns `false` only for a reason if and only if no call reads the length of an
unfinished publish that is too long, while all that was current fits. -/
theorem csynTopicCopy_fails_for_reason_iff (key : Str) (info : Option SynapseTopicInfo)
    (dir : CsynDir) (maxSize : UInt16) (schedule : List (SharingAction ι)) :
    (Sharing.boot (.boot key info dir maxSize)).FailsForReason schedule ↔
      ¬ (Sharing.boot (.boot key info dir maxSize)).ReadsAhead schedule := by
  constructor
  · rintro reasoned ⟨before, reader, rest, s, call, split, reached, shown, unfinished, none_⟩
    have valid := Automaton.run_invariant Sharing.step_keepsPrevious reached
      (Sharing.boot_keepsPrevious key info dir maxSize)
    obtain ⟨start, next, bytes, at_length, at_end, slot, long⟩ := unfinished
    have progress := valid.1.store.writing
    rw [at_end] at progress
    obtain ⟨-, fits, holds⟩ := progress
    have length := holds.length
    rw [slot] at length
    have failed : copyStep s.store.topic call.bufSize call.pc call.buf .readLength =
        some (.failed call.buf) := by
      rw [at_length]
      show (if _ then _ else _) = _
      rw [if_pos]
      right
      rw [length, (CsynTopic.accepts_length fits).1]
      exact long
    exact none_ (reasoned before reader .readLength rest s call _ split reached shown failed)
  · intro fitting before reader action rest s call buf split reached shown failed
    have valid := Automaton.run_invariant Sharing.step_keepsPrevious reached
      (Sharing.boot_keepsPrevious key info dir maxSize)
    rcases call.failed_because valid.1.store valid.2 (valid.1.views reader call shown) failed with
      ⟨n, began, bounded, refused⟩ | ⟨rfl, unfinished⟩
    · exact (Sharing.hadReason_iff reached).mpr ⟨n, began, bounded, refused⟩
    · by_contra none_
      exact fitting ⟨before, reader, rest, s, call, split, reached, shown, unfinished, none_⟩

end

/-- Two samples of one byte, and the length of a third of two, while a call with room for one
byte is about to read the length of the first. -/
def overtakenLength : List (SharingAction Unit) :=
  [.writer (.call (some [7])), .writer (.moveByte 0), .writer .storeLength, .writer .setGeneration,
    .call () (some fun _ => 0) 1, .reader () .readGeneration,
    .writer (.call (some [8])), .writer (.moveByte 0), .writer .storeLength, .writer .setGeneration,
    .writer (.call (some [3, 4])), .writer (.moveByte 0), .writer (.moveByte 1),
    .writer .storeLength]

/-- Both samples that were current during the call fit its buffer, and it returns `false`. -/
theorem csynTopicCopy_fails_without_reason :
    ¬ (Sharing.boot (.boot (str "att") none .tx 4)).FailsForReason
      (overtakenLength ++ [.reader () .readLength]) := by
  obtain ⟨s, call, buf, reached, shown, entered, bufSize, published, failed⟩ :
      ∃ s call buf,
        Automaton.run Sharing.step (.boot (.boot (str "att") none .tx 4)) overtakenLength =
          some s ∧ s.readers () = some call ∧ call.entered = 1 ∧ call.bufSize = 1 ∧
        s.store.published = [⟨1, [7]⟩, ⟨2, [8]⟩] ∧
        copyStep s.store.topic call.bufSize call.pc call.buf .readLength =
          some (.failed buf) :=
    ⟨_, _, _, rfl, rfl, rfl, rfl, rfl, rfl⟩
  intro reasoned
  have had := reasoned overtakenLength () .readLength [] s call buf rfl reached shown failed
  obtain ⟨n, began, bounded, refused⟩ := (Sharing.hadReason_iff reached).mp had
  rw [CopyCall.RefusedAfter, bufSize, published] at refused
  rw [published] at bounded
  have single : n = 1 ∨ n = 2 := by
    have upper : n ≤ 2 := bounded
    omega
  rcases single with rfl | rfl
  all_goals
    rcases refused with zero | ⟨p, last, long⟩
    · exact absurd zero (by decide)
    · cases last
      exact absurd long (by decide)

end Csyn
