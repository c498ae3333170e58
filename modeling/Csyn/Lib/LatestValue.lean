import Mathlib.Data.List.Basic

set_option autoImplicit false

/- A value that is overwritten, counted modulo `m`, and a reader that polls it: the reader takes
the value when the count is neither zero nor what it was at the last take. -/
namespace LatestValue

universe u v

variable {α : Type u} {β : Type v}

/-- The values written and the values taken, oldest first, each taken one with the label of its
poll. `seen` is how many had been written at the last take. -/
structure Reader (α : Type u) (β : Type v) where
  written : List α
  seen : Nat
  taken : List (α × β)

def Reader.boot : Reader α β where
  written := []
  seen := 0
  taken := []

def Reader.write (s : Reader α β) (values : List α) : Reader α β :=
  { s with written := s.written ++ values }

section

variable (m : Nat) (fits : α → Bool)

/-- What a poll takes. The reader has no room for a value that does not fit. -/
def Reader.due (s : Reader α β) : Option α :=
  if s.written.length % m = 0 ∨ s.written.length % m = s.seen % m then none
  else s.written.getLast?.filter fits

def Reader.poll (s : Reader α β) (label : β) : Reader α β :=
  match s.due m fits with
  | none => s
  | some value => { s with
      seen := s.written.length
      taken := s.taken ++ [(value, label)] }

end

/-- What was taken is some of what was written up to the last take, in order and none of it twice,
and the last value taken is the last one written then. -/
structure Reader.Valid (s : Reader α β) : Prop where
  seen : s.seen ≤ s.written.length
  taken : (s.taken.map Prod.fst).Sublist (s.written.take s.seen)
  last : s.taken.getLast?.map Prod.fst = (s.written.take s.seen).getLast?

variable {m : Nat} {fits : α → Bool} {s : Reader α β} {value : α}

theorem Reader.boot_valid : (Reader.boot : Reader α β).Valid :=
  ⟨Nat.le_refl _, List.Sublist.refl _, rfl⟩

theorem Reader.Valid.write (valid : s.Valid) (values : List α) : (s.write values).Valid := by
  have kept : (s.written ++ values).take s.seen = s.written.take s.seen :=
    List.take_append_of_le_length valid.seen
  refine ⟨?_, ?_, ?_⟩
  · have seen := valid.seen
    simp only [Reader.write, List.length_append]
    omega
  · simpa only [Reader.write, kept] using valid.taken
  · simpa only [Reader.write, kept] using valid.last

theorem Reader.poll_idle (nothing : s.due m fits = none) (label : β) :
    s.poll m fits label = s := by
  rw [Reader.poll, nothing]

theorem Reader.poll_taken (due : s.due m fits = some value) (label : β) :
    s.poll m fits label = { s with
      seen := s.written.length
      taken := s.taken ++ [(value, label)] } := by
  rw [Reader.poll, due]

theorem Reader.poll_written (label : β) : (s.poll m fits label).written = s.written := by
  unfold Reader.poll
  split
  · rfl
  · rfl

/-- A poll takes the latest value, and only after another one was written. -/
theorem Reader.due_some (due : s.due m fits = some value) :
    s.written.length ≠ s.seen ∧ s.written.getLast? = some value ∧ fits value = true := by
  unfold Reader.due at due
  split at due
  · cases due
  · rename_i moved
    obtain ⟨last, room⟩ := Option.filter_eq_some_iff.mp due
    refine ⟨?_, last, room⟩
    intro same
    exact moved (Or.inr (congrArg (· % m) same))

theorem Reader.Valid.poll (valid : s.Valid) (label : β) : (s.poll m fits label).Valid := by
  cases due : s.due m fits with
  | none =>
      rw [Reader.poll_idle due]
      exact valid
  | some value =>
      rw [Reader.poll_taken due]
      obtain ⟨moved, last, -⟩ := Reader.due_some due
      have before : s.seen < s.written.length :=
        Nat.lt_of_le_of_ne valid.seen (Ne.symm moved)
      obtain ⟨earlier, same⟩ := List.getLast?_eq_some_iff.mp last
      have seen : s.seen ≤ earlier.length := by
        rw [same, List.length_append, List.length_singleton] at before
        omega
      refine ⟨Nat.le_refl _, ?_, ?_⟩
      · have sofar := valid.taken
        dsimp only
        rw [same, List.take_append_of_le_length seen] at sofar
        rw [List.take_length, List.map_append, same]
        exact (sofar.trans (List.take_sublist _ _)).append (List.Sublist.refl _)
      · dsimp only
        rw [List.take_length, List.getLast?_concat, last, Option.map_some]

/-- The values taken are some of the values written, in order and none of them twice. -/
theorem Reader.Valid.sublist (valid : s.Valid) : (s.taken.map Prod.fst).Sublist s.written :=
  valid.taken.trans (List.take_sublist _ _)

/-- After a poll the last value taken is the last one written, as long as the count has not
turned over. -/
theorem Reader.Valid.poll_latest (valid : s.Valid) (few : s.written.length < m)
    (last : s.written.getLast? = some value) (room : fits value = true) (label : β) :
    (s.poll m fits label).taken.getLast?.map Prod.fst = some value := by
  have some_ : 0 < s.written.length := List.length_pos_of_mem (List.mem_of_getLast? last)
  have seen := valid.seen
  by_cases read : s.written.length = s.seen
  · have idle : s.due m fits = none := if_pos (Or.inr (congrArg (· % m) read))
    rw [Reader.poll_idle idle, valid.last, ← read, List.take_length, last]
  · have due : s.due m fits = some value := by
      unfold Reader.due
      rw [Nat.mod_eq_of_lt few, Nat.mod_eq_of_lt (by omega : s.seen < m), if_neg (by omega), last,
        Option.filter_some, if_pos room]
    rw [Reader.poll_taken due, List.getLast?_concat, Option.map_some]

end LatestValue
