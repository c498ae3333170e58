import Mathlib.Data.List.Infix

set_option autoImplicit false

/- Texts as lists: fields closed by a delimiter, the pieces between delimiters, and the first
occurrence of a pattern. -/
namespace Delimited

universe u

variable {α : Type u}

/-- A field ends at the first delimiter. -/
theorem append_cons_inj {delimiter : α} {first second rest rest' : List α}
    (clean : delimiter ∉ first) (clean' : delimiter ∉ second)
    (same : first ++ delimiter :: rest = second ++ delimiter :: rest') :
    first = second ∧ rest = rest' := by
  induction first generalizing second with
  | nil =>
      cases second with
      | nil => exact ⟨rfl, (List.cons.inj same).2⟩
      | cons head tail =>
          rw [List.nil_append, List.cons_append, List.cons.injEq] at same
          exact absurd (same.1 ▸ List.mem_cons_self) clean'
  | cons head tail ih =>
      cases second with
      | nil =>
          rw [List.nil_append, List.cons_append, List.cons.injEq] at same
          exact absurd (same.1 ▸ List.mem_cons_self) clean
      | cons head' tail' =>
          rw [List.cons_append, List.cons_append, List.cons.injEq] at same
          obtain ⟨rfl, rest_⟩ := same
          obtain ⟨rfl, equal⟩ := ih (fun inside => clean (List.mem_cons_of_mem _ inside))
            (fun inside => clean' (List.mem_cons_of_mem _ inside)) rest_
          exact ⟨rfl, equal⟩

/-- Joined pieces followed by one more. -/
theorem intercalate_concat (delimiter : α) {pieces : List (List α)} (some_piece : pieces ≠ [])
    (last : List α) :
    [delimiter].intercalate (pieces ++ [last]) =
      [delimiter].intercalate pieces ++ delimiter :: last := by
  induction pieces with
  | nil => exact absurd rfl some_piece
  | cons piece rest ih =>
      cases rest with
      | nil => simp
      | cons next rest =>
          rw [List.cons_append, List.cons_append, List.intercalate_cons_cons,
            List.intercalate_cons_cons, ← List.cons_append, ih (List.cons_ne_nil _ _)]
          simp

section

variable [BEq α] [LawfulBEq α]

/-- The offset at which a pattern first occurs. -/
def find? (needle : List α) : List α → Option Nat
  | [] => if needle.isEmpty then some 0 else none
  | head :: tail =>
      if needle.isPrefixOf (head :: tail) then some 0 else (find? needle tail).map (· + 1)

theorem find?_here {needle text : List α} (here : needle <+: text) :
    find? needle text = some 0 := by
  cases text with
  | nil =>
      rw [List.prefix_nil] at here
      rw [find?, here, List.isEmpty_nil, if_pos rfl]
  | cons head tail => rw [find?, if_pos (List.isPrefixOf_iff_prefix.mpr here)]

theorem find?_skip {needle tail : List α} {head : α}
    (absent : ¬ needle <+: head :: tail) :
    find? needle (head :: tail) = (find? needle tail).map (· + 1) := by
  rw [find?, if_neg (fun here => absent (List.isPrefixOf_iff_prefix.mp here))]

/-- The pattern stands where it was found. -/
theorem find?_some {needle text : List α} {offset : Nat} (found : find? needle text = some offset) :
    needle <+: text.drop offset := by
  induction text generalizing offset with
  | nil =>
      rw [find?] at found
      split at found
      · rename_i empty
        rw [List.isEmpty_iff.mp empty]
        exact List.nil_prefix
      · cases found
  | cons head tail ih =>
      by_cases here : needle <+: head :: tail
      · rw [find?_here here, Option.some.injEq] at found
        rw [← found]
        exact here
      · rw [find?_skip here, Option.map_eq_some_iff] at found
        obtain ⟨later, found, rfl⟩ := found
        exact ih found

/-- A pattern is found exactly in the texts it is a part of. -/
theorem find?_isSome {needle text : List α} : (find? needle text).isSome ↔ needle <:+: text := by
  induction text with
  | nil =>
      rw [find?, List.infix_nil]
      cases needle <;> simp
  | cons head tail ih =>
      rw [List.infix_cons_iff]
      by_cases here : needle <+: head :: tail
      · simp only [find?_here here, Option.isSome_some, here, true_or]
      · rw [find?_skip here, Option.isSome_map, ih]
        simp only [here, false_or]

/-- Text without the pattern's first symbol hides no occurrence. -/
theorem find?_append_of_notMem {symbol : α} {needle before text : List α}
    (clean : symbol ∉ before) :
    find? (symbol :: needle) (before ++ text) =
      (find? (symbol :: needle) text).map (· + before.length) := by
  induction before with
  | nil => simp
  | cons head tail ih =>
      have apart : ¬ symbol :: needle <+: head :: (tail ++ text) := by
        intro here
        rw [List.cons_prefix_cons] at here
        exact clean (here.1 ▸ List.mem_cons_self)
      rw [List.cons_append, find?_skip apart,
        ih fun inside => clean (List.mem_cons_of_mem _ inside), Option.map_map]
      congr 1

/-! Texts split at each delimiter. -/

/-- No piece holds the delimiter. -/
theorem not_mem_of_mem_splitOn {delimiter : α} {text piece : List α}
    (member : piece ∈ text.splitOn delimiter) : delimiter ∉ piece := by
  induction text generalizing piece with
  | nil =>
      rw [List.splitOn_nil, List.mem_singleton] at member
      rw [member]
      exact List.not_mem_nil
  | cons head tail ih =>
      rw [List.splitOn_cons_eq_if_modifyHead] at member
      split at member
      · rcases List.mem_cons.mp member with rfl | later
        · exact List.not_mem_nil
        · exact ih later
      · rename_i other
        cases pieces : tail.splitOn delimiter with
        | nil => exact absurd pieces (List.splitOn_ne_nil delimiter tail)
        | cons first rest =>
            rw [pieces, List.modifyHead_cons] at member
            rw [pieces] at ih
            rcases List.mem_cons.mp member with rfl | later
            · intro inside
              rcases List.mem_cons.mp inside with rfl | deeper
              · exact other (beq_self_eq_true _)
              · exact ih List.mem_cons_self deeper
            · exact ih (List.mem_cons_of_mem _ later)

end

end Delimited
