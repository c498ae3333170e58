import Mathlib.Data.List.Basic
import Mathlib.Data.List.Induction

set_option autoImplicit false

/- A sliding window over times that never go back: each new time drops those that lie further back
than a span. Nothing is dropped between two times, so the window is as of the last one. -/
namespace Window

universe u

/-- On a list with the droppable entries in front, dropping from the front drops them all. -/
theorem dropWhile_eq_filter {α : Type u} {p : α → Bool} {items : List α}
    (front : items.Pairwise fun a b => p b = true → p a = true) :
    items.dropWhile p = items.filter fun x => !p x := by
  induction items with
  | nil => rfl
  | cons a rest ih =>
      obtain ⟨head, tail⟩ := List.pairwise_cons.mp front
      by_cases dropped : p a = true
      · rw [List.dropWhile_cons_of_pos dropped, List.filter_cons_of_neg (by simp [dropped])]
        exact ih tail
      · rw [List.dropWhile_cons_of_neg dropped, eq_comm, List.filter_eq_self]
        intro x member
        rw [Bool.not_eq_true']
        rcases List.mem_cons.mp member with rfl | later
        · exact Bool.not_eq_true _ ▸ dropped
        · by_contra kept
          exact dropped (head x later (Bool.not_eq_false _ ▸ kept))

variable (span : Nat)

/-- A new time enters, and those too far back leave. -/
def push (recent : List Nat) (now : Nat) : List Nat :=
  (recent ++ [now]).dropWhile fun oldest => span < now - oldest

/-- The window after these times, oldest first. -/
def after (times : List Nat) : List Nat := times.foldl (push span) []

/-- The times within the span of a later one. -/
def within (now : Nat) (times : List Nat) : List Nat :=
  times.filter fun t => now - t ≤ span

variable {span}

/-- What is within the span later was so earlier. -/
theorem within_within {earlier now : Nat} (passed : earlier ≤ now) (times : List Nat) :
    within span now (within span earlier times) = within span now times := by
  rw [within, within, within, List.filter_filter]
  apply List.filter_congr
  intro t _
  rw [← Bool.decide_and, decide_eq_decide]
  omega

/-- On ordered times the window is a selection, not only a suffix. -/
theorem push_eq_within {recent : List Nat} {now : Nat}
    (ordered : (recent ++ [now]).Pairwise (· ≤ ·)) :
    push span recent now = within span now (recent ++ [now]) := by
  have front : (recent ++ [now]).Pairwise fun a b =>
      decide (span < now - b) = true → decide (span < now - a) = true := by
    apply ordered.imp
    intro a b no_later expired
    rw [decide_eq_true_iff] at expired ⊢
    omega
  rw [push, dropWhile_eq_filter front]
  apply List.filter_congr
  intro t _
  rw [← decide_not, decide_eq_decide]
  omega

/-- Pushing into a window as of an earlier time gives the window as of now. -/
theorem push_within {times : List Nat} {earlier now : Nat} (passed : earlier ≤ now)
    (ordered : (times ++ [now]).Pairwise (· ≤ ·)) :
    push span (within span earlier times) now = within span now (times ++ [now]) := by
  have kept : (within span earlier times ++ [now]).Sublist (times ++ [now]) :=
    List.filter_sublist.append (List.Sublist.refl [now])
  rw [push_eq_within (ordered.sublist kept)]
  show within span now (within span earlier times ++ [now]) = _
  have split (recent : List Nat) :
      within span now (recent ++ [now]) = within span now recent ++ within span now [now] :=
    List.filter_append ..
  rw [split, split, within_within passed]

theorem after_concat (times : List Nat) (now : Nat) :
    after span (times ++ [now]) = push span (after span times) now := by
  rw [after, List.foldl_append]
  rfl

/-- After any times the window holds those within the span of the last one. -/
theorem after_eq_within {times : List Nat} {last : Nat}
    (ordered : (times ++ [last]).Pairwise (· ≤ ·)) :
    after span (times ++ [last]) = within span last (times ++ [last]) := by
  induction times using List.reverseRecOn generalizing last with
  | nil => exact push_within (Nat.le_refl last) ordered
  | append_singleton times previous ih =>
      obtain ⟨before, -, no_later⟩ := List.pairwise_append.mp ordered
      have passed : previous ≤ last := no_later previous (by simp) last List.mem_cons_self
      rw [after_concat, ih before, push_within passed ordered]

/-- As of a later time the window is still of the right size exactly if nothing in it has expired
since. -/
theorem length_within_iff {times : List Nat} {last now : Nat} (passed : last ≤ now) :
    (within span last times).length = (within span now times).length ↔
      ∀ t ∈ times, last - t ≤ span → now - t ≤ span := by
  rw [← within_within passed times]
  show (within span last times).length =
    ((within span last times).filter fun t => decide (now - t ≤ span)).length ↔ _
  rw [eq_comm, List.length_filter_eq_length_iff]
  constructor
  · intro recent t member here
    exact of_decide_eq_true (recent t (List.mem_filter.mpr ⟨member, decide_eq_true here⟩))
  · intro recent t inside
    obtain ⟨member, here⟩ := List.mem_filter.mp inside
    exact decide_eq_true (recent t member (of_decide_eq_true here))

end Window
