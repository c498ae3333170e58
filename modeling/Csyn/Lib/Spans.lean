import Mathlib.Algebra.BigOperators.Group.List.Basic
import Mathlib.Algebra.Order.Ring.Nat
import Mathlib.Data.List.Pairwise

set_option autoImplicit false

/- Spans of a counter, one after the other: each starts no earlier than the one before ended, so
that no tick lies in two of them and their lengths add up to no more than the counter. -/
namespace Spans

/-- The ticks after `first`, up to `last`. -/
structure Span where
  first : Nat
  last : Nat
  deriving DecidableEq

def Span.length (span : Span) : Nat := span.last - span.first

/-- The tick lies in the span. -/
def Span.contains (span : Span) (tick : Nat) : Bool :=
  decide (span.first < tick) && decide (tick ≤ span.last)

/-- One after the other, up to a reading of the counter. -/
structure Ordered (spans : List Span) (now : Nat) : Prop where
  apart : spans.Pairwise fun a b => a.last ≤ b.first
  forward : ∀ span ∈ spans, span.first ≤ span.last
  past : ∀ span ∈ spans, span.last ≤ now

theorem ordered_nil (now : Nat) : Ordered [] now := ⟨.nil, nofun, nofun⟩

theorem Ordered.mono {spans : List Span} {now later : Nat} (ordered : Ordered spans now)
    (passed : now ≤ later) : Ordered spans later :=
  ⟨ordered.apart, ordered.forward, fun span member => Nat.le_trans (ordered.past span member) passed⟩

/-- A span that starts after the others ended. -/
theorem Ordered.concat {spans : List Span} {now : Nat} {span : Span} (ordered : Ordered spans now)
    (after : ∀ earlier ∈ spans, earlier.last ≤ span.first) (forward : span.first ≤ span.last)
    (past : span.last ≤ now) : Ordered (spans ++ [span]) now := by
  have split {p : Span → Prop} (before : ∀ earlier ∈ spans, p earlier) (here : p span) :
      ∀ other ∈ spans ++ [span], p other := by
    intro other member
    rcases List.mem_append.mp member with earlier | last
    · exact before other earlier
    · exact List.mem_singleton.mp last ▸ here
  refine ⟨?_, split ordered.forward forward, split ordered.past past⟩
  rw [List.pairwise_append]
  refine ⟨ordered.apart, List.pairwise_singleton _ _, ?_⟩
  intro earlier member other last
  exact List.mem_singleton.mp last ▸ after earlier member

theorem Ordered.tail {span : Span} {rest : List Span} {now : Nat}
    (ordered : Ordered (span :: rest) now) : Ordered rest now :=
  ⟨(List.pairwise_cons.mp ordered.apart).2,
    fun other member => ordered.forward other (List.mem_cons_of_mem _ member),
    fun other member => ordered.past other (List.mem_cons_of_mem _ member)⟩

/-- What the spans cover from the first one's start on. -/
theorem Ordered.sum_length_from {spans : List Span} {now start : Nat}
    (ordered : Ordered spans now) (starts : ∀ span ∈ spans, start ≤ span.first)
    (reached : start ≤ now) : start + (spans.map Span.length).sum ≤ now := by
  induction spans generalizing start with
  | nil => simpa using reached
  | cons span rest ih =>
      have forward := ordered.forward span List.mem_cons_self
      have here := starts span List.mem_cons_self
      have later : span.last + (rest.map Span.length).sum ≤ now :=
        ih ordered.tail (fun other member => (List.pairwise_cons.mp ordered.apart).1 other member)
          (ordered.past span List.mem_cons_self)
      rw [List.map_cons, List.sum_cons, Span.length]
      omega

/-- The lengths add up to at most the counter. -/
theorem Ordered.sum_length_le {spans : List Span} {now : Nat} (ordered : Ordered spans now) :
    (spans.map Span.length).sum ≤ now := by
  have covered : 0 + (spans.map Span.length).sum ≤ now :=
    ordered.sum_length_from (fun _ _ => Nat.zero_le _) (Nat.zero_le _)
  omega

/-- No tick lies in two of the spans. -/
theorem Ordered.countP_contains_le_one {spans : List Span} {now : Nat}
    (ordered : Ordered spans now) (tick : Nat) :
    spans.countP (fun span => span.contains tick) ≤ 1 := by
  induction spans with
  | nil => exact Nat.zero_le _
  | cons span rest ih =>
      by_cases here : span.contains tick = true
      · have nowhere : rest.countP (fun other => other.contains tick) = 0 := by
          rw [List.countP_eq_zero]
          intro other member
          have after := (List.pairwise_cons.mp ordered.apart).1 other member
          simp only [Span.contains, Bool.and_eq_true, decide_eq_true_eq] at here ⊢
          omega
        have counted : (span :: rest).countP (fun other => other.contains tick) = 0 + 1 := by
          rw [List.countP_cons, nowhere, if_pos here]
        exact Nat.le_of_eq counted
      · rw [List.countP_cons, if_neg here]
        exact ih ordered.tail

end Spans
