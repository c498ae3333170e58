import Mathlib.Data.List.Basic

set_option autoImplicit false

/- Loops over a list that an item can end. A turn goes on with the next state, or stops the loop
with a result; what comes after the item that stopped it is not looked at. -/
namespace Scan

universe u v w x

variable {σ : Type u} {ι : Type v} {ρ : Type w}

inductive Turn (σ : Type u) (ρ : Type w) where
  | next (state : σ)
  | stop (state : σ) (result : ρ)

/-- The result is `none` where the list ran out. -/
def run (turn : σ → ι → Turn σ ρ) : σ → List ι → σ × Option ρ
  | state, [] => (state, none)
  | state, item :: rest =>
      match turn state item with
      | .next state => run turn state rest
      | .stop state result => (state, some result)

section

variable {turn : σ → ι → Turn σ ρ}

@[simp] theorem run_nil (state : σ) : run turn state [] = (state, none) := rfl

theorem run_next {state after : σ} {item : ι} (goes : turn state item = .next after)
    (rest : List ι) : run turn state (item :: rest) = run turn after rest := by
  rw [run, goes]

theorem run_stop {state after : σ} {item : ι} {result : ρ}
    (stops : turn state item = .stop after result) (rest : List ι) :
    run turn state (item :: rest) = (after, some result) := by
  rw [run, stops]

/-- A loop that the first items do not end continues with the others. -/
theorem run_append {state mid : σ} {first : List ι} (through : run turn state first = (mid, none))
    (second : List ι) : run turn state (first ++ second) = run turn mid second := by
  induction first generalizing state with
  | nil =>
      cases through
      rfl
  | cons item rest ih =>
      cases taken : turn state item with
      | next after =>
          rw [run_next taken] at through
          rw [List.cons_append, run_next taken]
          exact ih through
      | stop after result =>
          rw [run_stop taken] at through
          cases through

/-- The item that ended a loop. -/
theorem run_stopped {state final : σ} {items : List ι} {result : ρ}
    (ended : run turn state items = (final, some result)) :
    ∃ before item rest mid, items = before ++ item :: rest ∧
      run turn state before = (mid, none) ∧ turn mid item = .stop final result := by
  induction items generalizing state with
  | nil => cases ended
  | cons item rest ih =>
      cases taken : turn state item with
      | next after =>
          rw [run_next taken] at ended
          obtain ⟨before, item', rest', mid, rfl, through, stops⟩ := ih ended
          exact ⟨item :: before, item', rest', mid, rfl, (run_next taken _).trans through, stops⟩
      | stop after result' =>
          rw [run_stop taken] at ended
          cases ended
          exact ⟨[], item, rest, state, rfl, rfl, taken⟩

end

end Scan
