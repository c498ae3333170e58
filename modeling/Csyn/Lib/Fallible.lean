import Mathlib.Data.List.Forall2

set_option autoImplicit false

/- Sequences of fallible computations. -/
namespace Fallible

universe u v

/-- A fallible traversal succeeds with a list exactly when it does so at every position. -/
theorem mapM_eq_ok {ε : Type u} {α β : Type v} {f : α → Except ε β} {inputs : List α}
    {outputs : List β} :
    inputs.mapM f = .ok outputs ↔ List.Forall₂ (fun x y => f x = .ok y) inputs outputs := by
  induction inputs generalizing outputs with
  | nil =>
      rw [List.mapM_nil, List.forall₂_nil_left_iff]
      change Except.ok [] = Except.ok outputs ↔ _
      rw [Except.ok.injEq, eq_comm]
  | cons x rest ih =>
      rw [List.mapM_cons, List.forall₂_cons_left_iff]
      constructor
      · intro succeeded
        cases first : f x with
        | error e =>
            rw [first] at succeeded
            cases succeeded
        | ok y =>
            cases later : rest.mapM f with
            | error e =>
                rw [first, later] at succeeded
                cases succeeded
            | ok ys =>
                rw [first, later] at succeeded
                cases succeeded
                exact ⟨y, ys, rfl, ih.mp later, rfl⟩
      · rintro ⟨y, ys, first, later, rfl⟩
        rw [first, ih.mpr later]
        rfl

/-- Where no input is dropped, what is related to the outputs of a partial map is related to its
inputs. -/
theorem forall₂_of_filterMap {α : Type u} {β γ : Type v} {f : α → Option β}
    {related : β → γ → Prop} {inputs : List α} {outputs : List γ}
    (kept : ∀ x ∈ inputs, (f x).isSome) (mapped : List.Forall₂ related (inputs.filterMap f) outputs) :
    List.Forall₂ (fun x z => ∃ y, f x = some y ∧ related y z) inputs outputs := by
  induction inputs generalizing outputs with
  | nil =>
      cases mapped
      exact List.Forall₂.nil
  | cons x rest ih =>
      obtain ⟨y, found⟩ := Option.isSome_iff_exists.mp (kept x List.mem_cons_self)
      rw [List.filterMap_cons, found] at mapped
      obtain ⟨z, later, first, relatedLater, rfl⟩ := List.forall₂_cons_left_iff.mp mapped
      apply List.Forall₂.cons ⟨y, found, first⟩
      exact ih (fun x member => kept x (List.mem_cons_of_mem _ member)) relatedLater

/-- Where what was read renders back to the input, rendering the outputs of a partial map gives the
inputs that it read. -/
theorem map_filterMap_of_inverse {α : Type u} {β : Type v} {f : α → Option β} {g : β → α}
    (inverse : ∀ x y, f x = some y → g y = x) (inputs : List α) :
    (inputs.filterMap f).map g = inputs.filter fun x => (f x).isSome := by
  induction inputs with
  | nil => rfl
  | cons x rest ih =>
      cases read : f x with
      | none => rw [List.filterMap_cons_none read, ih, List.filter_cons_of_neg (by simp [read])]
      | some y =>
          rw [List.filterMap_cons_some read, List.map_cons, inverse x y read, ih,
            List.filter_cons_of_pos (by simp [read])]

/-! Computations on a state that fail on a bad input only. -/

section

variable {σ : Type u} {α ι : Type v} {inv : σ → Prop} {good : ι → Prop}

/-- From a state with the invariant, the computation succeeds if and only if all of its inputs
are good, and then keeps the invariant. -/
structure Guarded (inv : σ → Prop) (good : ι → Prop) (f : σ → Option σ) (inputs : List ι) :
    Prop where
  succeeds : ∀ s, inv s → ((f s).isSome ↔ ∀ x ∈ inputs, good x)
  keeps : ∀ s t, inv s → f s = some t → inv t

/-- A computation that reads no input cannot fail. -/
theorem Guarded.total {f : σ → σ} (keep : ∀ s, inv s → inv (f s)) :
    Guarded inv good (fun s => some (f s)) [] := by
  refine ⟨fun s _ => by simp, ?_⟩
  rintro s _ start ⟨⟩
  exact keep s start

theorem Guarded.skip : Guarded inv good some [] := Guarded.total fun _ start => start

theorem Guarded.map {f : σ → Option σ} {g : σ → σ} {inputs : List ι}
    (head : Guarded inv good f inputs) (keep : ∀ s, inv s → inv (g s)) :
    Guarded inv good (fun s => (f s).map g) inputs := by
  refine ⟨fun s start => by rw [Option.isSome_map, head.succeeds s start], ?_⟩
  intro s t start mapped
  obtain ⟨mid, stepped, rfl⟩ := Option.map_eq_some_iff.mp mapped
  exact keep mid (head.keeps s mid start stepped)

theorem Guarded.bind {f g : σ → Option σ} {first second : List ι} (head : Guarded inv good f first)
    (tail : Guarded inv good g second) :
    Guarded inv good (fun s => (f s).bind g) (first ++ second) := by
  constructor
  · intro s start
    have here := head.succeeds s start
    rw [List.forall_mem_append, ← here]
    cases stepped : f s with
    | none => simp
    | some t =>
        have later := tail.succeeds t (head.keeps s t start stepped)
        rw [Option.bind_some, later]
        simp
  · intro s t start both
    obtain ⟨mid, stepped, ended⟩ := Option.bind_eq_some_iff.mp both
    exact tail.keeps mid t (head.keeps s mid start stepped) ended

/-- A loop reads what its rounds read. -/
theorem Guarded.foldlM {f : σ → α → Option σ} {inputs : α → List ι} {items : List α}
    (round : ∀ x ∈ items, Guarded inv good (fun s => f s x) (inputs x)) :
    Guarded inv good (fun s => items.foldlM f s) (items.flatMap inputs) := by
  induction items with
  | nil => exact Guarded.skip
  | cons x rest ih =>
      rw [List.flatMap_cons]
      simp only [List.foldlM_cons]
      exact (round x List.mem_cons_self).bind
        (ih fun y member => round y (List.mem_cons_of_mem x member))

end

/-! What computations have done where they succeed, as a list of operations. -/

section

variable {σ : Type u} {α ω : Type v} {effect : List ω → σ → σ → Prop}

/-- No operation has no effect, and operations in sequence have their effects in sequence. -/
structure Sequential (effect : List ω → σ → σ → Prop) : Prop where
  nil : ∀ s, effect [] s s
  append : ∀ {first second s mid t}, effect first s mid → effect second mid t →
    effect (first ++ second) s t

/-- Where the computation succeeds, it has had the effect of these operations. -/
def Performs (effect : List ω → σ → σ → Prop) (f : σ → Option σ) (ops : List ω) : Prop :=
  ∀ s t, f s = some t → effect ops s t

theorem Performs.skip (sequential : Sequential effect) : Performs effect some [] := by
  rintro s _ ⟨⟩
  exact sequential.nil s

theorem Performs.map (sequential : Sequential effect) {f : σ → Option σ} {g : σ → σ}
    {first second : List ω} (head : Performs effect f first) (tail : ∀ s, effect second s (g s)) :
    Performs effect (fun s => (f s).map g) (first ++ second) := by
  intro s t mapped
  obtain ⟨mid, stepped, rfl⟩ := Option.map_eq_some_iff.mp mapped
  exact sequential.append (head s mid stepped) (tail mid)

theorem Performs.bind (sequential : Sequential effect) {f g : σ → Option σ} {first second : List ω}
    (head : Performs effect f first) (tail : Performs effect g second) :
    Performs effect (fun s => (f s).bind g) (first ++ second) := by
  intro s t both
  obtain ⟨mid, stepped, ended⟩ := Option.bind_eq_some_iff.mp both
  exact sequential.append (head s mid stepped) (tail mid t ended)

/-- A loop has done what its rounds have. -/
theorem Performs.foldlM (sequential : Sequential effect) {f : σ → α → Option σ} {ops : α → List ω}
    {items : List α} (round : ∀ x ∈ items, Performs effect (fun s => f s x) (ops x)) :
    Performs effect (fun s => items.foldlM f s) (items.flatMap ops) := by
  induction items with
  | nil => exact Performs.skip sequential
  | cons x rest ih =>
      rw [List.flatMap_cons]
      simp only [List.foldlM_cons]
      exact (round x List.mem_cons_self).bind sequential
        (ih fun y member => round y (List.mem_cons_of_mem x member))

end

end Fallible
