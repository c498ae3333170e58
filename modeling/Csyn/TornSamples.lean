import Csyn.StoreInvariant

set_option autoImplicit false

/- One topic with one writer and any number of readers, under every interleaving. -/
namespace Csyn

/-- A `csyn_topic_copy` call in progress. `entered` is a history variable: the
publishes completed when the call began. -/
structure CopyCall where
  bufSize : Nat
  pc : CopyPc
  buf : ByteMemory
  entered : Nat

/-- A `csyn_topic_copy` call that returned `true`, with what it stored through its
pointers and how many publishes had completed when it began and ended. -/
structure Returned (ι : Type) where
  reader : ι
  length : UInt16
  generation : UInt32
  buf : ByteMemory
  entered : Nat
  left : Nat

/-- `returned` is a history variable, newest first. -/
structure Sharing (ι : Type) where
  store : Store
  readers : ι → Option CopyCall
  returned : List (Returned ι)

inductive SharingAction (ι : Type) where
  | writer (action : PublishAction)
  | call (reader : ι) (buf : Option ByteMemory) (bufSize : Nat)
  | reader (reader : ι) (action : CopyAction)

section

variable {ι : Type} [DecidableEq ι]

/-- A call with a NULL pointer returns `false` at once. -/
def Sharing.step (s : Sharing ι) : SharingAction ι → Option (Sharing ι)
  | .writer action => (s.store.publish action).map fun store => { s with store := store }
  | .call reader buf bufSize =>
      match s.readers reader, buf with
      | some _, _ => none
      | none, none => some s
      | none, some buf =>
          some { s with
            readers := Function.update s.readers reader
              (some ⟨bufSize, .atLoop, buf, s.store.published.length⟩) }
  | .reader reader action =>
      match s.readers reader with
      | none => none
      | some call =>
          match copyStep s.store.topic call.bufSize call.pc call.buf action with
          | none => none
          | some (.running pc buf) =>
              some { s with
                readers := Function.update s.readers reader
                  (some { call with pc := pc, buf := buf }) }
          | some (.failed _) =>
              some { s with readers := Function.update s.readers reader none }
          | some (.copied length generation buf) =>
              some { s with
                readers := Function.update s.readers reader none
                returned := ⟨reader, length, generation, buf, call.entered,
                  s.store.published.length⟩ :: s.returned }

end

section

variable {ι : Type}

def Sharing.boot (store : Store) : Sharing ι := ⟨store, fun _ => none, []⟩

/-- The returned sample is the one whose publish set the returned generation; no other
publish that was current during the call set it. -/
def Returned.Untorn (published : List Published) (r : Returned ι) : Prop :=
  ∃ k p, published[k]? = some p ∧ p.generation = r.generation ∧
    r.length.toNat = p.payload.length ∧ r.buf.load 0 r.length.toNat = p.payload ∧
    r.entered ≤ k + 1 ∧ k + 1 = r.left ∧
    ∀ j q, published[j]? = some q → r.entered ≤ j + 1 → j + 1 ≤ r.left →
      q.generation = r.generation → j = k

structure Sharing.Consistent (s : Sharing ι) : Prop where
  store : s.store.Consistent
  views : ∀ reader call, s.readers reader = some call →
    CopyView s.store.published call.entered call.pc call.buf
  returned : ∀ r ∈ s.returned, r.left - r.entered < 2 ^ 32 → r.Untorn s.store.published

theorem Returned.Untorn.extend {published later : List Published} {r : Returned ι}
    (untorn : r.Untorn published) (grown : published <+: later) : r.Untorn later := by
  obtain ⟨k, p, found, set, sized, bytes, entered, left, only⟩ := untorn
  obtain ⟨extra, rfl⟩ := grown
  have inside : k < published.length := (List.getElem?_eq_some_iff.mp found).1
  refine ⟨k, p, ?_, set, sized, bytes, entered, left, ?_⟩
  · rw [List.getElem?_append_left inside]
    exact found
  · intro j q found' since until_ same
    rw [List.getElem?_append_left (by omega)] at found'
    exact only j q found' since until_ same

theorem Sharing.boot_consistent (store : Store) (valid : store.Consistent) :
    (Sharing.boot store : Sharing ι).Consistent :=
  ⟨valid, fun _ _ absent => by simp [Sharing.boot] at absent, fun _ absent => by
    simp [Sharing.boot] at absent⟩

theorem CopyView.returned {s : Store} {call : CopyCall} {reader : ι} {action : CopyAction}
    {length : UInt16} {generation : UInt32} {buf : ByteMemory} (valid : s.Consistent)
    (view : CopyView s.published call.entered call.pc call.buf)
    (taken : copyStep s.topic call.bufSize call.pc call.buf action =
      some (.copied length generation buf))
    (window : s.published.length - call.entered < 2 ^ 32) :
    (⟨reader, length, generation, buf, call.entered, s.published.length⟩ :
      Returned ι).Untorn s.published := by
  obtain ⟨p, last, set, sized, holds⟩ := view.copied valid taken window
  have nonempty : 0 < s.published.length := by
    have member := List.mem_of_getLast? last
    exact List.length_pos_of_mem member
  rw [List.getLast?_eq_getElem?] at last
  have began : call.entered ≤ s.published.length := by
    rcases copyStep_cases taken with ⟨-, -, done⟩ | ⟨-, -, done⟩ | ⟨_, -, -, done⟩ |
      ⟨_, -, -, -, done⟩ | ⟨_, _, _, _, -, -, done⟩ | ⟨_, _, at_end, -, -⟩ | ⟨_, _, -, -, done⟩
    · cases done
    · cases done
    · cases done
    · cases done
    · cases done
    · rw [at_end] at view
      exact ReadsFrom.since_le view
    · cases done
  refine ⟨s.published.length - 1, p, last, set, sized, ?_, ?_, ?_, ?_⟩
  · dsimp only
    rw [sized]
    exact holds.load
  · dsimp only
    omega
  · dsimp only
    omega
  · intro j q found since until_ same
    dsimp only at since until_ same
    have equal : UInt32.ofNat (j + 1) = UInt32.ofNat s.published.length := by
      rw [← valid.numbered j q found, same, ← set, valid.numbered _ p last,
        Nat.sub_add_cancel nonempty]
    have := Counter.eq_of_reading_eq until_ (by omega) equal
    omega

end

section

variable {ι : Type} [DecidableEq ι]

/-- Reader progress touches only that reader. -/
theorem Sharing.Consistent.update {s : Sharing ι} (valid : s.Consistent) (reader : ι)
    (call : Option CopyCall)
    (view : ∀ now, call = some now → CopyView s.store.published now.entered now.pc now.buf) :
    ({ s with readers := Function.update s.readers reader call } : Sharing ι).Consistent := by
  refine ⟨valid.store, ?_, valid.returned⟩
  intro other now shown
  by_cases same : other = reader
  · subst same
    exact view now ((Function.update_self other call s.readers).symm.trans shown)
  · exact valid.views other now ((Function.update_of_ne same call s.readers).symm.trans shown)

theorem Sharing.step_consistent (s : Sharing ι) (action : SharingAction ι) (t : Sharing ι)
    (taken : s.step action = some t) (valid : s.Consistent) : t.Consistent := by
  cases action with
  | writer action =>
      simp only [Sharing.step, Option.map_eq_some_iff] at taken
      obtain ⟨store, published, rfl⟩ := taken
      have grown := Store.publish_extends published
      exact ⟨valid.store.publish published,
        fun reader call shown => (valid.views reader call shown).extend grown,
        fun r member window => (valid.returned r member window).extend grown⟩
  | call reader buf bufSize =>
      unfold Sharing.step at taken
      dsimp only at taken
      split at taken
      · cases taken
      · cases taken
        exact valid
      · cases taken
        apply valid.update
        rintro now ⟨⟩
        exact Nat.le_refl _
  | reader reader action =>
      unfold Sharing.step at taken
      dsimp only at taken
      split at taken
      · cases taken
      · rename_i call shown
        have view := valid.views reader call shown
        split at taken
        · cases taken
        · rename_i pc buf stepped
          cases taken
          apply valid.update
          rintro now ⟨⟩
          exact view.step valid.store stepped
        · cases taken
          apply valid.update
          rintro now ⟨⟩
        · rename_i length generation buf stepped
          cases taken
          have rest := valid.update reader none (by rintro now ⟨⟩)
          refine ⟨valid.store, rest.views, ?_⟩
          intro r member window
          rcases List.mem_cons.mp member with rfl | earlier
          · exact view.returned valid.store stepped window
          · exact valid.returned r earlier window

/-- No torn samples: a copy that succeeds while the generation makes less than a full
turn returns exactly the sample of the publish that set the returned generation. -/
theorem csynTopicCopy_untorn (key : Str) (info : Option SynapseTopicInfo) (dir : CsynDir)
    (maxSize : UInt16) (schedule : List (SharingAction ι)) (s : Sharing ι)
    (reached : Automaton.run Sharing.step (.boot (.boot key info dir maxSize)) schedule = some s)
    (r : Returned ι) (member : r ∈ s.returned) (window : r.left - r.entered < 2 ^ 32) :
    r.Untorn s.store.published :=
  (Automaton.run_invariant Sharing.step_consistent reached
    (Sharing.boot_consistent _ (Store.boot_consistent key info dir maxSize))).returned r member window

/-- A copy of a two-byte sample overtaken by the first byte of the next one. -/
def overtakenCopy : List (SharingAction Unit) :=
  [.writer (.call (some [7, 9])), .writer (.moveByte 1), .writer (.moveByte 0),
    .writer .storeLength, .writer .setGeneration,
    .call () (some fun _ => 0) 8, .reader () .readGeneration, .reader () .readLength,
    .reader () (.moveByte 0), .writer (.call (some [3])), .writer (.moveByte 0),
    .reader () (.moveByte 1), .reader () .rereadGeneration]

theorem csynTopicCopy_untorn_overtaken :
    ∃ (s : Sharing Unit) (r : Returned Unit),
      Automaton.run Sharing.step (.boot (.boot (str "att") none .tx 4)) overtakenCopy = some s ∧
        r ∈ s.returned ∧ r.generation = 1 ∧ r.Untorn s.store.published :=
  ⟨_, _, rfl, List.mem_singleton.mpr rfl, rfl,
    csynTopicCopy_untorn (str "att") none .tx 4 overtakenCopy _ rfl _
      (List.mem_singleton.mpr rfl) (by decide)⟩

end

end Csyn
