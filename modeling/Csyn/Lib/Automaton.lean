import Mathlib.Order.Basic

set_option autoImplicit false

/- Deterministic labelled automata with partial steps, and the induction rules
for their finite runs. The label fixes every choice of the environment, so a
list of labels is one interleaving. -/
namespace Automaton

universe u v

variable {σ : Type u} {α : Type v}

/-- Perform the labels in order; `none` as soon as one of them is not enabled. -/
def run (step : σ → α → Option σ) (s : σ) : List α → Option σ
  | [] => some s
  | a :: rest =>
      match step s a with
      | none => none
      | some next => run step next rest

section

variable (step : σ → α → Option σ)

@[simp] theorem run_nil (s : σ) : run step s [] = some s := rfl

theorem run_cons (s : σ) (a : α) (rest : List α) :
    run step s (a :: rest) = (step s a).bind fun next => run step next rest := by
  cases h : step s a <;> simp [run, h]

theorem run_append (s : σ) (first second : List α) :
    run step s (first ++ second) = (run step s first).bind fun mid => run step mid second := by
  induction first generalizing s with
  | nil => rfl
  | cons a rest ih =>
      rw [List.cons_append, run_cons, run_cons]
      cases step s a with
      | none => rfl
      | some next => exact ih next

theorem run_cons_some {s t : σ} {a : α} {rest : List α} :
    run step s (a :: rest) = some t ↔
      ∃ mid, step s a = some mid ∧ run step mid rest = some t := by
  rw [run_cons, Option.bind_eq_some_iff]

theorem run_append_some {s t : σ} {first second : List α} :
    run step s (first ++ second) = some t ↔
      ∃ mid, run step s first = some mid ∧ run step mid second = some t := by
  rw [run_append, Option.bind_eq_some_iff]

end

section

variable {step : σ → α → Option σ}

theorem run_one {s t : σ} {a : α} (taken : step s a = some t) : run step s [a] = some t :=
  (run_cons_some step).mpr ⟨t, taken, rfl⟩

/-- What the steps with some labels preserve, a run with such labels only preserves. -/
theorem run_invariant_of_labels {motive : σ → Prop} (allowed : α → Prop)
    (keep : ∀ s a t, step s a = some t → allowed a → motive s → motive t)
    {s t : σ} {labels : List α} (reached : run step s labels = some t)
    (labelled : ∀ a ∈ labels, allowed a) (start : motive s) : motive t := by
  induction labels generalizing s with
  | nil =>
      rw [run_nil, Option.some.injEq] at reached
      exact reached ▸ start
  | cons a rest ih =>
      obtain ⟨mid, first, later⟩ := (run_cons_some step).mp reached
      exact ih later (fun b member => labelled b (List.mem_cons_of_mem a member))
        (keep s a mid first (labelled a List.mem_cons_self) start)

/-- What one step preserves, a whole run preserves. -/
theorem run_invariant {motive : σ → Prop}
    (keep : ∀ s a t, step s a = some t → motive s → motive t)
    {s t : σ} {labels : List α} (reached : run step s labels = some t) (start : motive s) :
    motive t :=
  run_invariant_of_labels (fun _ => True)
    (fun s a t taken _ => keep s a t taken) reached (fun _ _ => trivial) start

/-- Invariant rule for runs whose final measure is bounded: the bound then holds
of every earlier state, so each step may use it. -/
theorem run_invariant_bounded {motive : σ → Prop} {measure : σ → Nat} {bound : Nat}
    (grow : ∀ s a t, step s a = some t → measure s ≤ measure t)
    (keep : ∀ s a t, step s a = some t → measure t < bound → motive s → motive t)
    {s t : σ} {labels : List α} (reached : run step s labels = some t)
    (start : motive s) (small : measure t < bound) : motive t := by
  have implied := run_invariant (motive := fun x => measure x < bound → motive x)
    (fun x a y taken previous smallNext =>
      keep x a y taken smallNext (previous (Nat.lt_of_le_of_lt (grow x a y taken) smallNext)))
    reached (fun _ => start)
  exact implied small

/-- A simulation by a function: it carries whole runs over. -/
theorem run_map {τ β : Type v} {step' : τ → β → Option τ} (f : σ → τ) (g : α → β)
    (agree : ∀ s a, step' (f s) (g a) = (step s a).map f) (s : σ) (labels : List α) :
    run step' (f s) (labels.map g) = (run step s labels).map f := by
  induction labels generalizing s with
  | nil => rfl
  | cons a rest ih =>
      rw [List.map_cons, run_cons, run_cons, agree]
      cases step s a with
      | none => rfl
      | some next => exact ih next

/-- A simulation that matches each step by some run: it carries whole runs over. -/
theorem run_simulates {τ β : Type v} {step' : τ → β → Option τ} {related : σ → τ → Prop}
    (simulates : ∀ s a t u, step s a = some t → related s u →
      ∃ labels v, run step' u labels = some v ∧ related t v)
    {s t : σ} {labels : List α} (reached : run step s labels = some t) {u : τ}
    (start : related s u) : ∃ labels' v, run step' u labels' = some v ∧ related t v := by
  induction labels generalizing s u with
  | nil =>
      rw [run_nil, Option.some.injEq] at reached
      exact ⟨[], u, rfl, reached ▸ start⟩
  | cons a rest ih =>
      obtain ⟨mid, first, later⟩ := (run_cons_some step).mp reached
      obtain ⟨matched, w, ran, kept⟩ := simulates s a mid u first start
      obtain ⟨others, v, done, ends⟩ := ih later kept
      exact ⟨matched ++ others, v, (run_append_some step').mpr ⟨w, ran, done⟩, ends⟩

/-- A measure that grows by at most one in a step takes every value in between. -/
theorem run_passes {measure : σ → Nat}
    (grow : ∀ s a t, step s a = some t → measure t ≤ measure s + 1)
    {s t : σ} {labels : List α} (reached : run step s labels = some t) {n : Nat}
    (lower : measure s ≤ n) (upper : n ≤ measure t) :
    ∃ before rest mid, labels = before ++ rest ∧ run step s before = some mid ∧
      measure mid = n := by
  induction labels generalizing s with
  | nil =>
      rw [run_nil, Option.some.injEq] at reached
      subst reached
      exact ⟨[], [], s, rfl, rfl, Nat.le_antisymm lower upper⟩
  | cons a rest ih =>
      by_cases here : measure s = n
      · exact ⟨[], a :: rest, s, rfl, rfl, here⟩
      · obtain ⟨next, first, later⟩ := (run_cons_some step).mp reached
        have bound := grow s a next first
        obtain ⟨before, after, mid, rfl, passed, same⟩ := ih later (by omega)
        exact ⟨a :: before, after, mid, rfl, (run_cons_some step).mpr ⟨next, first, passed⟩, same⟩

/-- Every step of the run satisfies a condition on the state before it and its label. -/
def meets (step : σ → α → Option σ) (allowed : σ → α → Bool) (s : σ) : List α → Bool
  | [] => true
  | a :: rest =>
      allowed s a && match step s a with
        | none => true
        | some next => meets step allowed next rest

/-- Invariant rule for runs all of whose steps meet a condition. -/
theorem run_invariant_of_meets {allowed : σ → α → Bool} {motive : σ → Prop}
    (keep : ∀ s a t, step s a = some t → allowed s a = true → motive s → motive t)
    {s t : σ} {labels : List α} (reached : run step s labels = some t)
    (met : meets step allowed s labels = true) (start : motive s) : motive t := by
  induction labels generalizing s with
  | nil =>
      rw [run_nil, Option.some.injEq] at reached
      exact reached ▸ start
  | cons a rest ih =>
      obtain ⟨mid, first, later⟩ := (run_cons_some step).mp reached
      rw [meets, Bool.and_eq_true, first] at met
      exact ih later met.2 (keep s a mid first met.1 start)

/-- The steps of a run up to some point. -/
theorem meets_of_append {allowed : σ → α → Bool} {s : σ} {before rest : List α}
    (met : meets step allowed s (before ++ rest) = true) :
    meets step allowed s before = true := by
  induction before generalizing s with
  | nil => rfl
  | cons a before ih =>
      rw [List.cons_append, meets, Bool.and_eq_true] at met
      rw [meets, Bool.and_eq_true]
      refine ⟨met.1, ?_⟩
      cases taken : step s a with
      | none => rfl
      | some next =>
          rw [taken] at met
          exact ih met.2

/-- A property that a step keeps exactly when it meets a condition holds wherever a run comes if
and only if all steps of the run meet it. -/
theorem holds_throughout_iff {allowed : σ → α → Bool} {valid motive : σ → Prop}
    (keep : ∀ s a t, step s a = some t → valid s → valid t)
    (exactly : ∀ s a t, step s a = some t → valid s → motive s →
      (motive t ↔ allowed s a = true))
    (enabled : ∀ s a, valid s → allowed s a = false → ∃ t, step s a = some t)
    {s : σ} {labels : List α} (start : valid s) (initial : motive s) :
    (∀ before rest t, labels = before ++ rest → run step s before = some t → motive t) ↔
      meets step allowed s labels = true := by
  constructor
  · intro throughout
    induction labels generalizing s with
    | nil => rfl
    | cons a rest ih =>
        have next : ∀ t, step s a = some t → motive t := by
          intro t taken
          apply throughout [a] rest t rfl
          rw [run_cons, taken]
          rfl
        rw [meets, Bool.and_eq_true]
        constructor
        · by_contra refused
          rw [Bool.not_eq_true] at refused
          obtain ⟨t, taken⟩ := enabled s a start refused
          have met := (exactly s a t taken start initial).mp (next t taken)
          rw [met] at refused
          cases refused
        · cases taken : step s a with
          | none => rfl
          | some t =>
              apply ih (keep s a t taken start) (next t taken)
              intro before after u split reached
              apply throughout (a :: before) after u (congrArg _ split)
              rw [run_cons, taken]
              exact reached
  · intro met before rest t split reached
    subst split
    have both : valid t ∧ motive t := by
      apply run_invariant_of_meets _ reached (meets_of_append met) ⟨start, initial⟩
      intro s a t taken allows holds
      exact ⟨keep s a t taken holds.1, (exactly s a t taken holds.1 holds.2).mpr allows⟩
    exact both.2

end

end Automaton
