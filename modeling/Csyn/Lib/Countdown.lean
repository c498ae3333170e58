import Mathlib.Data.List.Basic

set_option autoImplicit false

/- A countdown over a list of events: some events start it at a limit, others count it down to
zero. Where it stands depends only on the events since it was last started. -/
namespace Countdown

universe u

variable {α : Type u} (limit : Nat) (starts counts : α → Bool)

/-- What one event makes of the countdown; starting wins over counting. -/
def next (left : Nat) (event : α) : Nat :=
  if starts event then limit else if counts event then left - 1 else left

/-- The countdown after these events, oldest first. -/
def after (left : Nat) (events : List α) : Nat := events.foldl (next limit starts counts) left

variable {limit starts counts}

theorem after_append (left : Nat) (first second : List α) :
    after limit starts counts left (first ++ second) =
      after limit starts counts (after limit starts counts left first) second :=
  List.foldl_append

/-- While no event starts it, it only counts. -/
theorem after_unstarted {left : Nat} {events : List α}
    (unstarted : ∀ event ∈ events, starts event = false) :
    after limit starts counts left events = left - events.countP counts := by
  induction events generalizing left with
  | nil => rfl
  | cons event rest ih =>
      rw [List.forall_mem_cons] at unstarted
      show after limit starts counts (next limit starts counts left event) rest = _
      rw [ih unstarted.2]
      unfold next
      rw [unstarted.1, List.countP_cons]
      by_cases counted : counts event = true
      · simp only [counted, Bool.false_eq_true, ↓reduceIte]
        omega
      · simp only [counted, Bool.false_eq_true, ↓reduceIte]
        omega

/-- After the event that started it last, it has counted down from the limit. -/
theorem after_started {left : Nat} {before later : List α} {event : α}
    (started : starts event = true) (unstarted : ∀ other ∈ later, starts other = false) :
    after limit starts counts left (before ++ event :: later) =
      limit - later.countP counts := by
  rw [after_append]
  show after limit starts counts (next limit starts counts _ event) later = _
  rw [after_unstarted unstarted, next, if_pos started]

/-- No event starts it, or there is one that started it last. -/
theorem last_start (starts : α → Bool) (events : List α) :
    (∀ event ∈ events, starts event = false) ∨
      ∃ before event later, events = before ++ event :: later ∧ starts event = true ∧
        ∀ other ∈ later, starts other = false := by
  induction events with
  | nil => exact Or.inl (by simp)
  | cons event rest ih =>
      rcases ih with unstarted | ⟨before, last, later, rfl, started, unstarted⟩
      · by_cases here : starts event = true
        · exact Or.inr ⟨[], event, rest, rfl, here, unstarted⟩
        · rw [Bool.not_eq_true] at here
          exact Or.inl (List.forall_mem_cons.mpr ⟨here, unstarted⟩)
      · exact Or.inr ⟨event :: before, last, later, rfl, started, unstarted⟩

/-- A countdown that begins at zero is over if no event started it, or enough were counted since
it was last started. -/
theorem after_eq_zero_iff (events : List α) :
    after limit starts counts 0 events = 0 ↔ (∀ event ∈ events, starts event = false) ∨
      ∃ before event later, events = before ++ event :: later ∧ starts event = true ∧
        (∀ other ∈ later, starts other = false) ∧ limit ≤ later.countP counts := by
  constructor
  · intro ended
    rcases last_start starts events with unstarted | ⟨before, event, later, rfl, started, unstarted⟩
    · exact Or.inl unstarted
    · rw [after_started started unstarted] at ended
      exact Or.inr ⟨before, event, later, rfl, started, unstarted, by omega⟩
  · rintro (unstarted | ⟨before, event, later, rfl, started, unstarted, enough⟩)
    · rw [after_unstarted unstarted]
      exact Nat.zero_sub _
    · rw [after_started started unstarted]
      omega

end Countdown
