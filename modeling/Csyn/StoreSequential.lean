import Csyn.StoreSteps

set_option autoImplicit false

/- The step models of `csyn_topic_publish` and `csyn_topic_copy` against the sequential
functions: a call that nothing disturbs can finish, and however its bytes are ordered it
does what the function says. -/
namespace Csyn

section

variable {before : CsynTopic} {s t : Store} {buf : Option (List UInt8)}

/-- A `csyn_topic_publish` on `before`, at every point of the call. -/
inductive Publishing (before : CsynTopic) (buf : Option (List UInt8)) : Store → Prop
  | returned {published : List Published} :
      Publishing before buf ⟨(csynTopicPublish before buf).2, .idle, published⟩
  | copying {slots : ByteMemory} {bytes : List UInt8} {pending : List Nat}
      {published : List Published} (argument : buf = some bytes)
      (fits : before.accepts (some bytes) = true)
      (holds : slots.Holds (before.slotBase (slotOf (before.generation + 1))) bytes pending)
      (frame : ∀ address, address < before.slotBase (slotOf (before.generation + 1)) ∨
        before.slotBase (slotOf (before.generation + 1)) + bytes.length ≤ address →
        slots address = before.slots address)
      (inside : ∀ offset ∈ pending, offset < bytes.length) :
      Publishing before buf
        ⟨{ before with slots := slots }, .copying (before.generation + 1) bytes pending, published⟩
  | lengthStored {bytes : List UInt8} {published : List Published} (argument : buf = some bytes)
      (fits : before.accepts (some bytes) = true) :
      Publishing before buf
        ⟨{ before with
            slots := before.slots.storeBytes
              (before.slotBase (slotOf (before.generation + 1))) bytes
            lengths := Function.update before.lengths (slotOf (before.generation + 1))
              (UInt16.ofNat bytes.length) },
          .lengthStored (before.generation + 1) bytes, published⟩

/-- The call itself either returns or starts copying. -/
theorem Store.publish_called (idle : s.writer = .idle)
    (taken : s.publish (.call buf) = some t) : Publishing s.topic buf t := by
  rcases Store.publish_cases taken with ⟨other, same, -, refused, unchanged⟩ |
    ⟨bytes, same, -, fits, rfl⟩ | ⟨_, _, _, _, _, other, -⟩ | ⟨_, _, other, -⟩ | ⟨_, _, other, -⟩
  · cases same
    have kept : t = ⟨(csynTopicPublish s.topic buf).2, .idle, s.published⟩ := by
      rw [unchanged, csynTopicPublish_rejected refused, ← idle]
    rw [kept]
    exact .returned
  · cases same
    exact .copying rfl fits (ByteMemory.holds_start _ _ _) (fun _ _ => rfl)
      fun offset member => List.mem_range.mp member
  · cases other
  · cases other
  · cases other

/-- A step after the call stays on its way. -/
theorem Publishing.step {action : PublishAction} (writing : Publishing before buf s)
    (alone : ∀ other, action ≠ .call other) (taken : s.publish action = some t) :
    Publishing before buf t := by
  rcases Store.publish_cases taken with ⟨other, called, -⟩ | ⟨bytes, called, -⟩ |
    ⟨next, bytes, pending, offset, byte, rfl, at_copy, member, found, rfl⟩ |
    ⟨next, bytes, rfl, at_copy, rfl⟩ | ⟨next, bytes, rfl, at_length, rfl⟩
  · exact absurd called (alone other)
  · exact absurd called (alone (some bytes))
  · cases writing with
    | returned => cases at_copy
    | lengthStored => cases at_copy
    | copying argument fits holds frame inside =>
        cases at_copy
        refine .copying argument fits (holds.store found) ?_
          fun other kept => inside other (List.mem_of_mem_erase kept)
        intro address outside
        have within := inside offset member
        refine (ByteMemory.store_other _ byte ?_).trans (frame address outside)
        dsimp only [CsynTopic.slotBase] at outside ⊢
        omega
  · cases writing with
    | returned => cases at_copy
    | lengthStored => cases at_copy
    | copying argument fits holds frame inside =>
        cases at_copy
        dsimp only
        rw [holds.eq_storeBytes frame]
        exact .lengthStored argument fits
  · cases writing with
    | returned => cases at_length
    | copying => cases at_length
    | lengthStored argument fits =>
        cases at_length
        subst argument
        have result : ∀ published, Publishing before (some bytes)
            ⟨(csynTopicPublish before (some bytes)).2, .idle, published⟩ := fun _ => .returned
        rw [csynTopicPublish_accepted fits] at result
        exact result _

/-- However the bytes of an undisturbed call are ordered, it does what the function does. -/
theorem Store.publish_undisturbed {actions : List PublishAction} (idle : s.writer = .idle)
    (alone : ∀ other, .call other ∉ actions)
    (ran : Automaton.run Store.publish s (.call buf :: actions) = some t)
    (done : t.writer = .idle) : t.topic = (csynTopicPublish s.topic buf).2 := by
  obtain ⟨called, first, rest⟩ := (Automaton.run_cons_some _).mp ran
  have writing : Publishing s.topic buf t := by
    refine Automaton.run_invariant_of_labels (fun action => ∀ other, action ≠ .call other)
      (fun now action next taken apart writing => writing.step apart taken) rest ?_
      (Store.publish_called idle first)
    rintro action member other rfl
    exact alone other member
  cases writing with
  | returned => rfl
  | copying => cases done
  | lengthStored => cases done

/-- The bytes of a call can be moved in order. -/
theorem Store.publish_moves {next : UInt32} {bytes : List UInt8} {pending : List Nat}
    (at_copy : s.writer = .copying next bytes pending)
    (inside : ∀ offset ∈ pending, offset < bytes.length) :
    ∃ t, Automaton.run Store.publish s (pending.map .moveByte) = some t ∧
      t.writer = .copying next bytes [] := by
  induction pending generalizing s with
  | nil => exact ⟨s, rfl, at_copy⟩
  | cons offset rest ih =>
      let moved : Store := { s with
        topic := { s.topic with
          slots := s.topic.slots.store (s.topic.slotBase (slotOf next) + offset)
            (bytes.get ⟨offset, inside offset List.mem_cons_self⟩) }
        writer := .copying next bytes rest }
      obtain ⟨t, later, done⟩ := ih (s := moved) rfl fun other member =>
        inside other (List.mem_cons_of_mem _ member)
      refine ⟨t, (Automaton.run_cons_some _).mpr ⟨moved, ?_, later⟩, done⟩
      unfold Store.publish publishStep
      rw [at_copy]
      dsimp only
      rw [if_pos List.mem_cons_self, List.getElem?_eq_getElem (inside offset List.mem_cons_self)]
      dsimp only [Option.map_some, completes]
      rw [List.erase_cons_head, List.append_nil]
      rfl

/-- An undisturbed call can return. -/
theorem Store.publish_finishes (idle : s.writer = .idle) (buf : Option (List UInt8)) :
    ∃ actions t, (∀ other, .call other ∉ actions) ∧
      Automaton.run Store.publish s (.call buf :: actions) = some t ∧ t.writer = .idle := by
  cases fits : s.topic.accepts buf with
  | false =>
      refine ⟨[], { s with published := s.published ++ [] }, fun _ => List.not_mem_nil, ?_, idle⟩
      refine (Automaton.run_cons_some _).mpr ⟨_, ?_, rfl⟩
      unfold Store.publish publishStep
      rw [idle]
      cases buf with
      | none => simp [completes]
      | some bytes => simp [completes, fits]
  | true =>
      cases buf with
      | none => cases fits
      | some bytes =>
          let called : Store := { s with
            writer := .copying (s.topic.generation + 1) bytes (List.range bytes.length) }
          have start : s.publish (.call (some bytes)) = some called := by
            unfold Store.publish publishStep
            rw [idle]
            simp [completes, fits, called]
          obtain ⟨copied, moved, at_end⟩ := Store.publish_moves (s := called) rfl fun offset member =>
            List.mem_range.mp member
          refine ⟨(List.range bytes.length).map .moveByte ++ [.storeLength, .setGeneration],
            ⟨{ copied.topic with
                lengths := Function.update copied.topic.lengths
                  (slotOf (s.topic.generation + 1)) (UInt16.ofNat bytes.length)
                generation := s.topic.generation + 1 },
              .idle, copied.published ++ [⟨s.topic.generation + 1, bytes⟩]⟩, ?_, ?_, rfl⟩
          · intro other member
            simp at member
          · refine (Automaton.run_cons_some _).mpr ⟨called, start, ?_⟩
            refine (Automaton.run_append_some _).mpr ⟨copied, moved, ?_⟩
            obtain ⟨topic, writer, published⟩ := copied
            cases at_end
            simp [Automaton.run, Store.publish, publishStep, completes]

end

section

variable {topic : CsynTopic} {bufSize : Nat} {buf : ByteMemory} {next : CopyNext}

/-- A `csyn_topic_copy` running alone. -/
def copyAlone (topic : CsynTopic) (bufSize : Nat) (at_ : CopyNext) (action : CopyAction) :
    Option CopyNext :=
  match at_ with
  | .running pc buf => copyStep topic bufSize pc buf action
  | _ => none

/-- The call at every point: what it returns is what the function returns. -/
inductive Copying (topic : CsynTopic) (bufSize : Nat) : CopyNext → Prop
  | atLoop {buf : ByteMemory} : Copying topic bufSize (.running .atLoop buf)
  | slotChosen {buf : ByteMemory} (live : topic.generation ≠ 0) :
      Copying topic bufSize (.running (.slotChosen topic.generation) buf)
  | copying {buf : ByteMemory} {length : UInt16} {pending : List Nat}
      (live : topic.generation ≠ 0) (stored : length = topic.lengths (slotOf topic.generation))
      (sized : length ≠ 0) (fits : length.toNat ≤ bufSize)
      (holds : buf.Holds 0
        (topic.slots.load (topic.slotBase (slotOf topic.generation)) length.toNat) pending)
      (inside : ∀ offset ∈ pending, offset < length.toNat) :
      Copying topic bufSize (.running (.copying topic.generation length pending) buf)
  | failed {buf : ByteMemory} (refused : csynTopicCopy topic bufSize = none) :
      Copying topic bufSize (.failed buf)
  | copied {buf : ByteMemory} {length : UInt16} {generation : UInt32}
      (returned : csynTopicCopy topic bufSize =
        some (buf.load 0 length.toNat, generation)) :
      Copying topic bufSize (.copied length generation buf)

theorem csynTopicCopy_eq_some (live : topic.generation ≠ 0)
    (sized : topic.lengths (slotOf topic.generation) ≠ 0)
    (fits : (topic.lengths (slotOf topic.generation)).toNat ≤ bufSize) :
    csynTopicCopy topic bufSize =
      some (topic.slots.load (topic.slotBase (slotOf topic.generation))
        (topic.lengths (slotOf topic.generation)).toNat, topic.generation) := by
  unfold csynTopicCopy
  dsimp only
  rw [if_neg live, if_neg (not_or.mpr ⟨sized, Nat.not_lt.mpr fits⟩)]

theorem Copying.step {at_ : CopyNext} {action : CopyAction} (copying : Copying topic bufSize at_)
    (taken : copyAlone topic bufSize at_ action = some next) : Copying topic bufSize next := by
  unfold copyAlone at taken
  split at taken
  · rename_i pc buf
    rcases copyStep_cases taken with ⟨rfl, empty, rfl⟩ | ⟨rfl, live, rfl⟩ |
      ⟨start, rfl, unfit, rfl⟩ | ⟨start, rfl, sized, fits, rfl⟩ |
      ⟨start, length, pending, offset, rfl, member, rfl⟩ | ⟨start, length, rfl, same, rfl⟩ |
      ⟨start, length, rfl, moved, rfl⟩
    · exact .failed (if_pos empty)
    · exact .slotChosen live
    · cases copying with
      | slotChosen live =>
          refine .failed ?_
          unfold csynTopicCopy
          dsimp only
          rw [if_neg live, if_pos unfit]
    · cases copying with
      | slotChosen live =>
          refine .copying live rfl sized fits ?_ fun offset member => List.mem_range.mp member
          have start := ByteMemory.holds_start buf 0 (topic.slots.load
            (topic.slotBase (slotOf topic.generation))
            (topic.lengths (slotOf topic.generation)).toNat)
          rw [ByteMemory.load_length] at start
          exact start
    · cases copying with
      | copying live stored sized fits holds inside =>
          refine .copying live stored sized fits ?_
            fun other kept => inside other (List.mem_of_mem_erase kept)
          have within := inside offset member
          have moved : (topic.slots.load (topic.slotBase (slotOf topic.generation))
              length.toNat)[offset]? =
                some (topic.slots (topic.slotBase (slotOf topic.generation) + offset)) := by
            rw [List.getElem?_eq_getElem (by rw [ByteMemory.load_length]; exact within),
              ByteMemory.load_getElem]
          have stepped := holds.store moved
          rw [Nat.zero_add] at stepped
          exact stepped
    · cases copying with
      | copying live stored sized fits holds inside =>
          refine .copied ?_
          have loaded := holds.load
          rw [ByteMemory.load_length] at loaded
          subst stored
          rw [loaded]
          exact csynTopicCopy_eq_some live sized fits
    · exact .atLoop
  · cases taken

/-- However the bytes of an undisturbed copy are ordered, it returns what the function does. -/
theorem copyAlone_undisturbed {actions : List CopyAction}
    (ran : Automaton.run (copyAlone topic bufSize) (.running .atLoop buf) actions = some next) :
    Copying topic bufSize next :=
  Automaton.run_invariant (fun _ _ _ taken copying => copying.step taken) ran .atLoop

theorem copyAlone_moves (topic : CsynTopic) (bufSize : Nat) (start : UInt32) (length : UInt16) (pending : List Nat)
    (buf : ByteMemory) :
    ∃ after, Automaton.run (copyAlone topic bufSize) (.running (.copying start length pending) buf)
      (pending.map .moveByte) = some (.running (.copying start length []) after) := by
  induction pending generalizing buf with
  | nil => exact ⟨buf, rfl⟩
  | cons offset rest ih =>
      obtain ⟨after, later⟩ := ih (buf.store offset
        (topic.slots (topic.slotBase (slotOf start) + offset)))
      refine ⟨after, (Automaton.run_cons_some _).mpr ⟨_, ?_, later⟩⟩
      unfold copyAlone copyStep
      dsimp only
      rw [if_pos List.mem_cons_self, List.erase_cons_head]

/-- An undisturbed copy returns, and does not go round its loop again. -/
theorem copyAlone_finishes (topic : CsynTopic) (bufSize : Nat) (buf : ByteMemory) :
    ∃ actions next, Automaton.run (copyAlone topic bufSize) (.running .atLoop buf) actions =
      some next ∧ ∀ pc after, next ≠ .running pc after := by
  by_cases empty : topic.generation = 0
  · refine ⟨[.readGeneration], .failed buf, (Automaton.run_cons_some _).mpr ⟨_, ?_, rfl⟩,
      by rintro _ _ ⟨⟩⟩
    exact if_pos empty
  have first : copyAlone topic bufSize (.running .atLoop buf) .readGeneration =
      some (.running (.slotChosen topic.generation) buf) := if_neg empty
  by_cases unfit : topic.lengths (slotOf topic.generation) = 0 ∨
      (topic.lengths (slotOf topic.generation)).toNat > bufSize
  · refine ⟨[.readGeneration, .readLength], .failed buf,
      (Automaton.run_cons_some _).mpr ⟨_, first, (Automaton.run_cons_some _).mpr ⟨_, ?_, rfl⟩⟩,
      by rintro _ _ ⟨⟩⟩
    exact if_pos unfit
  · obtain ⟨after, moved⟩ := copyAlone_moves topic bufSize topic.generation (topic.lengths (slotOf topic.generation))
      (List.range (topic.lengths (slotOf topic.generation)).toNat) buf
    have second : copyAlone topic bufSize (.running (.slotChosen topic.generation) buf)
        .readLength = some (.running (.copying topic.generation
          (topic.lengths (slotOf topic.generation))
          (List.range (topic.lengths (slotOf topic.generation)).toNat)) buf) := if_neg unfit
    have last : copyAlone topic bufSize (.running (.copying topic.generation
        (topic.lengths (slotOf topic.generation)) []) after) .rereadGeneration =
          some (.copied (topic.lengths (slotOf topic.generation)) topic.generation after) :=
      if_pos rfl
    refine ⟨.readGeneration :: .readLength ::
        ((List.range (topic.lengths (slotOf topic.generation)).toNat).map .moveByte ++
          [.rereadGeneration]),
      .copied (topic.lengths (slotOf topic.generation)) topic.generation after, ?_,
      by rintro _ _ ⟨⟩⟩
    refine (Automaton.run_cons_some _).mpr ⟨_, first, ?_⟩
    refine (Automaton.run_cons_some _).mpr ⟨_, second, ?_⟩
    refine (Automaton.run_append_some _).mpr ⟨_, moved, ?_⟩
    exact (Automaton.run_cons_some _).mpr ⟨_, last, rfl⟩

end

end Csyn
