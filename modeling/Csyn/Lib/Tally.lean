import Mathlib.Algebra.Order.Ring.Nat
import Mathlib.Data.List.Sort
import Std.Data.TreeMap

set_option autoImplicit false

/- Counting the items of a list by key in an ordered map, which also keeps the value that came with
the first item of each key. -/
namespace Tally

universe u v

variable {κ : Type u} {α : Type v} [Ord κ]

/-- One more item. -/
def count (map : Std.TreeMap κ (α × Nat)) (key : κ) (value : α) : Std.TreeMap κ (α × Nat) :=
  match map[key]? with
  | none => map.insert key (value, 1)
  | some (first, n) => map.insert key (first, n + 1)

def countAll (map : Std.TreeMap κ (α × Nat)) (items : List (κ × α)) : Std.TreeMap κ (α × Nat) :=
  items.foldl (fun map item => count map item.1 item.2) map

/-- What the counts of some values add up to. -/
def total (p : α → Bool) (map : Std.TreeMap κ (α × Nat)) : Nat :=
  ((map.toList.filter fun entry => p entry.2.1).map fun entry => entry.2.2).sum

/-- What an entry adds to it. -/
def weight (p : α → Bool) (entry : α × Nat) : Nat := if p entry.1 then entry.2 else 0

omit [Ord κ] in
theorem total_cons (p : α → Bool) (entry : κ × α × Nat) (rest : List (κ × α × Nat)) :
    (((entry :: rest).filter fun entry => p entry.2.1).map fun entry => entry.2.2).sum =
      weight p entry.2 + ((rest.filter fun entry => p entry.2.1).map fun entry => entry.2.2).sum := by
  unfold weight
  cases counted : p entry.2.1 with
  | false => simp [counted]
  | true => simp [counted]

section

variable [Std.TransOrd κ] [Std.LawfulEqOrd κ] {map : Std.TreeMap κ (α × Nat)} {key : κ} {value : α}

theorem getElem?_count_self : (count map key value)[key]? =
    some (match map[key]? with
      | none => (value, 1)
      | some (first, n) => (first, n + 1)) := by
  unfold count
  cases map[key]? with
  | none => simp
  | some entry => simp

theorem getElem?_count_other {other : κ} (different : other ≠ key) :
    (count map key value)[other]? = map[other]? := by
  have apart : compare key other ≠ .eq := fun same =>
    different (Std.LawfulEqCmp.eq_of_compare same).symm
  unfold count
  cases map[key]? with
  | none => simp [Std.TreeMap.getElem?_insert, apart]
  | some entry => simp [Std.TreeMap.getElem?_insert, apart]

/-- A key has the value of its first item, and the number of its items. -/
theorem getElem?_countAll [DecidableEq κ] (items : List (κ × α)) (key : κ) :
    (countAll map items)[key]? =
      match map[key]? with
      | some (first, n) => some (first, n + items.countP fun item => item.1 = key)
      | none => (items.find? fun item => item.1 = key).map fun item =>
          (item.2, items.countP fun item => item.1 = key) := by
  induction items generalizing map with
  | nil =>
      cases found : map[key]? with
      | none => simp [countAll, found]
      | some entry => simp [countAll, found]
  | cons item rest ih =>
      have step : countAll map (item :: rest) = countAll (count map item.1 item.2) rest := rfl
      rw [step, ih]
      by_cases own : item.1 = key
      · subst own
        rw [getElem?_count_self]
        cases map[item.1]? with
        | none => simp [Nat.add_comm]
        | some entry =>
            simp
            omega
      · rw [getElem?_count_other (Ne.symm own)]
        cases map[key]? with
        | none => simp [own]
        | some entry => simp [own]

/-! ## Totals -/

theorem nodup_toList (map : Std.TreeMap κ (α × Nat)) : map.toList.Nodup := by
  have distinct := Std.TreeMap.distinct_keys_toList (t := map)
  apply distinct.imp
  intro first second apart same
  apply apart
  rw [same]
  exact Std.ReflCmp.compare_self

/-- A map is an entry of it and the others. -/
theorem toList_perm [DecidableEq κ] {entry : α × Nat} (found : map[key]? = some entry) :
    map.toList.Perm ((key, entry) :: map.toList.filter fun other => ¬ key == other.1) := by
  have same : (map.insert key entry).toList.Perm map.toList := by
    rw [List.perm_ext_iff_of_nodup (nodup_toList _) (nodup_toList _)]
    rintro ⟨other, value⟩
    rw [Std.TreeMap.mem_toList_iff_getElem?_eq_some, Std.TreeMap.mem_toList_iff_getElem?_eq_some,
      Std.TreeMap.getElem?_insert]
    by_cases own : compare key other = .eq
    · rw [if_pos own, ← Std.LawfulEqCmp.eq_of_compare own, found]
    · rw [if_neg own]
  exact same.symm.trans Std.TreeMap.toList_insert_perm

theorem filter_absent [DecidableEq κ] (absent : map[key]? = none) :
    (map.toList.filter fun other => ¬ key == other.1) = map.toList := by
  apply List.filter_eq_self.mpr
  rintro ⟨other, entry⟩ member
  rw [Std.TreeMap.mem_toList_iff_getElem?_eq_some] at member
  have different : key ≠ other := by
    rintro rfl
    rw [absent] at member
    cases member
  simpa using different

/-- One more item adds one to the total of the values that its entry keeps. -/
theorem total_count (p : α → Bool) (agrees : ∀ entry, map[key]? = some entry → p entry.1 = p value) :
    total p (count map key value) = total p map + if p value then 1 else 0 := by
  classical
  have inserted (entry : α × Nat) : total p (map.insert key entry) = weight p entry +
      (((map.toList.filter fun other => ¬ key == other.1).filter fun entry => p entry.2.1).map
        fun entry => entry.2.2).sum := by
    have perm : (map.insert key entry).toList.Perm
        ((key, entry) :: map.toList.filter fun other => ¬ key == other.1) :=
      Std.TreeMap.toList_insert_perm
    rw [total, ((perm.filter _).map _).sum_nat, total_cons]
  unfold count
  cases found : map[key]? with
  | none =>
      dsimp only
      rw [inserted, filter_absent found, Nat.add_comm]
      rfl
  | some entry =>
      have before : total p map = weight p entry +
          (((map.toList.filter fun other => ¬ key == other.1).filter fun entry => p entry.2.1).map
            fun entry => entry.2.2).sum := by
        rw [total, (((toList_perm found).filter _).map _).sum_nat, total_cons]
      have same := agrees entry found
      dsimp only
      rw [inserted, before]
      unfold weight
      dsimp only
      rw [same]
      cases p value with
      | false => simp
      | true =>
          simp
          omega

/-- Where the items of a key have one value, the counts of some values add up to the number of their
items. -/
theorem total_countAll (p : α → Bool) (items : List (κ × α))
    (stored : ∀ item ∈ items, ∀ entry, map[item.1]? = some entry → p entry.1 = p item.2)
    (agree : items.Pairwise fun first second => first.1 = second.1 → p first.2 = p second.2) :
    total p (countAll map items) = total p map + items.countP fun item => p item.2 := by
  induction items generalizing map with
  | nil => rfl
  | cons item rest ih =>
      obtain ⟨first, later⟩ := List.pairwise_cons.mp agree
      have step : countAll map (item :: rest) = countAll (count map item.1 item.2) rest := rfl
      rw [step, ih ?_ later, total_count p (stored item List.mem_cons_self), List.countP_cons]
      · omega
      · intro other member entry found
        by_cases own : other.1 = item.1
        · rw [own, getElem?_count_self] at found
          cases before : map[item.1]? with
          | none =>
              simp only [before, Option.some.injEq] at found
              subst found
              exact first other member own.symm
          | some entry' =>
              simp only [before, Option.some.injEq] at found
              subst found
              exact (stored item List.mem_cons_self entry' before).trans (first other member own.symm)
        · rw [getElem?_count_other own] at found
          exact stored other (List.mem_cons_of_mem _ member) entry found

end

end Tally
