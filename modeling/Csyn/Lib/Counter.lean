import Mathlib.Algebra.Group.Nat.Defs

set_option autoImplicit false

/- Wrapping 32-bit event counters: the counter after `n` events is `UInt32.ofNat n`. -/
namespace Counter

theorem next (n : Nat) : UInt32.ofNat n + 1 = UInt32.ofNat (n + 1) := by
  simp only [UInt32.ofNat_add, UInt32.reduceOfNat]

/-- The low bit of the counter is the parity of the event count, also past the wrap. -/
theorem low_bit (n : Nat) : (UInt32.ofNat n &&& 1).toNat = n % 2 := by
  rw [UInt32.toNat_and, UInt32.toNat_ofNat']
  change (n % 2 ^ 32) &&& 1 = n % 2
  rw [Nat.and_one_is_mod]
  omega

theorem toNat_of_lt {n : Nat} (small : n < 2 ^ 32) : (UInt32.ofNat n).toNat = n := by
  rw [UInt32.toNat_ofNat', Nat.mod_eq_of_lt small]

/-- Two readings of a counter that moved by less than a full turn in between
agree only if it did not move. -/
theorem eq_of_reading_eq {before after : Nat} (ordered : before ≤ after)
    (window : after - before < 2 ^ 32)
    (same : UInt32.ofNat before = UInt32.ofNat after) : before = after := by
  have equal := congrArg UInt32.toNat same
  rw [UInt32.toNat_ofNat', UInt32.toNat_ofNat'] at equal
  omega

theorem reading_eq_iff (n k : Nat) :
    UInt32.ofNat n = UInt32.ofNat k ↔ n % 2 ^ 32 = k % 2 ^ 32 := by
  rw [← UInt32.toNat_inj, UInt32.toNat_ofNat', UInt32.toNat_ofNat']

theorem reading_pos {n : Nat} (nonzero : UInt32.ofNat n ≠ 0) : 0 < n := by
  rcases Nat.eq_zero_or_pos n with rfl | positive
  · exact absurd rfl nonzero
  · exact positive

end Counter
