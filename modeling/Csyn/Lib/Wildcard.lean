import Mathlib.Data.List.Perm.Basic

set_option autoImplicit false

/- Patterns over lists of symbols, with wildcards for one symbol and for any number of them.
Some symbols no wildcard stands for. -/
namespace Wildcard

universe u

variable {α : Type u}

inductive Piece (α : Type u) where
  | exact (symbol : α)
  | one
  | many
  deriving DecidableEq

/-- Some ending of the list is accepted, and only plain symbols stand before it. -/
def anyTail (plain : α → Bool) (rest : List α → Bool) : List α → Bool
  | [] => rest []
  | symbol :: symbols => rest (symbol :: symbols) || (plain symbol && anyTail plain rest symbols)

/-- The pattern matches the whole list. -/
def accepts [BEq α] (plain : α → Bool) : List (Piece α) → List α → Bool
  | [], symbols => symbols.isEmpty
  | .exact _ :: _, [] => false
  | .exact expected :: pieces, symbol :: symbols =>
      expected == symbol && accepts plain pieces symbols
  | .one :: _, [] => false
  | .one :: pieces, symbol :: symbols => plain symbol && accepts plain pieces symbols
  | .many :: pieces, symbols => anyTail plain (accepts plain pieces) symbols

section

variable {plain : α → Bool}

theorem anyTail_eq_true {rest : List α → Bool} {symbols : List α} :
    anyTail plain rest symbols = true ↔ ∃ before after, symbols = before ++ after ∧
      (∀ symbol ∈ before, plain symbol = true) ∧ rest after = true := by
  induction symbols with
  | nil =>
      constructor
      · intro accepted
        exact ⟨[], [], rfl, by simp, accepted⟩
      · rintro ⟨before, after, same, -, accepted⟩
        obtain ⟨-, rfl⟩ := List.append_eq_nil_iff.mp same.symm
        exact accepted
  | cons symbol symbols ih =>
      rw [anyTail, Bool.or_eq_true, Bool.and_eq_true, ih]
      constructor
      · rintro (here | ⟨shown, before, after, rfl, plains, accepted⟩)
        · exact ⟨[], symbol :: symbols, rfl, by simp, here⟩
        · exact ⟨symbol :: before, after, rfl, List.forall_mem_cons.mpr ⟨shown, plains⟩, accepted⟩
      · rintro ⟨before, after, same, plains, accepted⟩
        cases before with
        | nil =>
            rw [List.nil_append] at same
            exact Or.inl (same ▸ accepted)
        | cons first before =>
            rw [List.cons_append, List.cons.injEq] at same
            obtain ⟨rfl, rfl⟩ := same
            obtain ⟨shown, plains⟩ := List.forall_mem_cons.mp plains
            exact Or.inr ⟨shown, before, after, rfl, plains, accepted⟩

variable [BEq α]

@[simp] theorem accepts_nil {symbols : List α} :
    accepts plain [] symbols = true ↔ symbols = [] := by
  rw [accepts, List.isEmpty_iff]

theorem accepts_many {pieces : List (Piece α)} {symbols : List α} :
    accepts plain (.many :: pieces) symbols = true ↔ ∃ before after, symbols = before ++ after ∧
      (∀ symbol ∈ before, plain symbol = true) ∧ accepts plain pieces after = true := by
  rw [accepts]
  exact anyTail_eq_true

/-- A wildcard at the end takes any plain symbols. -/
theorem accepts_many_last {symbols : List α} :
    accepts plain [.many] symbols = true ↔ ∀ symbol ∈ symbols, plain symbol = true := by
  rw [accepts_many]
  constructor
  · rintro ⟨before, after, rfl, plains, ended⟩
    rw [accepts_nil] at ended
    rw [ended, List.append_nil]
    exact plains
  · intro plains
    exact ⟨symbols, [], (List.append_nil _).symm, plains, accepts_nil.mpr rfl⟩

theorem accepts_append {first second : List (Piece α)} {before after : List α}
    (head : accepts plain first before = true) (tail : accepts plain second after = true) :
    accepts plain (first ++ second) (before ++ after) = true := by
  induction first generalizing before with
  | nil =>
      rw [accepts_nil] at head
      rw [head]
      exact tail
  | cons piece pieces ih =>
      cases piece with
      | exact expected =>
          cases before with
          | nil => cases head
          | cons symbol symbols =>
              rw [accepts, Bool.and_eq_true] at head
              rw [List.cons_append, List.cons_append, accepts, Bool.and_eq_true]
              exact ⟨head.1, ih head.2⟩
      | one =>
          cases before with
          | nil => cases head
          | cons symbol symbols =>
              rw [accepts, Bool.and_eq_true] at head
              rw [List.cons_append, List.cons_append, accepts, Bool.and_eq_true]
              exact ⟨head.1, ih head.2⟩
      | many =>
          obtain ⟨start, rest, rfl, plains, accepted⟩ := accepts_many.mp head
          rw [List.cons_append, accepts_many]
          exact ⟨start, rest ++ after, List.append_assoc _ _ _, plains, ih accepted⟩

variable [LawfulBEq α]

theorem accepts_exact {expected : α} {pieces : List (Piece α)} {symbols : List α} :
    accepts plain (.exact expected :: pieces) symbols = true ↔
      ∃ rest, symbols = expected :: rest ∧ accepts plain pieces rest = true := by
  cases symbols with
  | nil => simp [accepts]
  | cons symbol symbols =>
      rw [accepts, Bool.and_eq_true, beq_iff_eq]
      constructor
      · rintro ⟨rfl, accepted⟩
        exact ⟨symbols, rfl, accepted⟩
      · rintro ⟨rest, same, accepted⟩
        rw [List.cons.injEq] at same
        obtain ⟨rfl, rfl⟩ := same
        exact ⟨rfl, accepted⟩

/-- One symbol with wildcards around it: it occurs, and what stands around it is plain. -/
theorem accepts_around {symbol : α} {symbols : List α} :
    accepts plain [.many, .exact symbol, .many] symbols = true ↔
      symbol ∈ symbols ∧ ∀ other ∈ symbols.erase symbol, plain other = true := by
  have split_ : accepts plain [.many, .exact symbol, .many] symbols = true ↔
      ∃ before after, symbols = before ++ symbol :: after ∧
        ∀ other ∈ before ++ after, plain other = true := by
    rw [accepts_many]
    constructor
    · rintro ⟨before, rest, rfl, plains, accepted⟩
      obtain ⟨after, rfl, ending⟩ := accepts_exact.mp accepted
      refine ⟨before, after, rfl, ?_⟩
      exact List.forall_mem_append.mpr ⟨plains, accepts_many_last.mp ending⟩
    · rintro ⟨before, after, rfl, plains⟩
      obtain ⟨left, right⟩ := List.forall_mem_append.mp plains
      exact ⟨before, symbol :: after, rfl, left,
        accepts_exact.mpr ⟨after, rfl, accepts_many_last.mpr right⟩⟩
  -- Which occurrence is taken does not change what stands around it.
  have around (before after : List α) :
      ((before ++ symbol :: after).erase symbol).Perm (before ++ after) := by
    have occurs : symbol ∈ before ++ symbol :: after :=
      List.mem_append_right _ List.mem_cons_self
    exact ((List.perm_cons_erase occurs).symm.trans List.perm_middle).cons_inv
  rw [split_]
  constructor
  · rintro ⟨before, after, rfl, plains⟩
    refine ⟨List.mem_append_right _ List.mem_cons_self, ?_⟩
    intro other member
    exact plains other ((around before after).mem_iff.mp member)
  · rintro ⟨occurs, plains⟩
    obtain ⟨before, after, rfl⟩ := List.append_of_mem occurs
    refine ⟨before, after, rfl, ?_⟩
    intro other member
    exact plains other ((around before after).mem_iff.mpr member)

end

end Wildcard
