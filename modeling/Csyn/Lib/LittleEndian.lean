import Mathlib.Data.Nat.Init

set_option autoImplicit false

/- Little-endian machine words as byte lists. -/
namespace LittleEndian

def bytes16 (word : UInt16) : List UInt8 := [word.toUInt8, (word >>> 8).toUInt8]

def bytes32 (word : UInt32) : List UInt8 :=
  [word.toUInt8, (word >>> 8).toUInt8, (word >>> 16).toUInt8, (word >>> 24).toUInt8]

/-- The number that a byte list encodes, low byte first. -/
def value (bytes : List UInt8) : Nat :=
  bytes.foldr (fun byte rest => byte.toNat + 256 * rest) 0

def word16 (low high : UInt8) : UInt16 := low.toUInt16 ||| (high.toUInt16 <<< 8)

@[simp] theorem bytes16_length (word : UInt16) : (bytes16 word).length = 2 := rfl

@[simp] theorem bytes32_length (word : UInt32) : (bytes32 word).length = 4 := rfl

theorem value_bytes16 (word : UInt16) : value (bytes16 word) = word.toNat := by
  have bound := word.toNat_lt
  have eight : (8 : UInt16).toNat % 16 = 8 := rfl
  simp only [value, bytes16, List.foldr_cons, List.foldr_nil, UInt16.toNat_toUInt8,
    UInt16.toNat_shiftRight, eight, Nat.shiftRight_eq_div_pow]
  omega

theorem value_bytes32 (word : UInt32) : value (bytes32 word) = word.toNat := by
  have bound := word.toNat_lt
  have eight : (8 : UInt32).toNat % 32 = 8 := rfl
  have sixteen : (16 : UInt32).toNat % 32 = 16 := rfl
  have twentyFour : (24 : UInt32).toNat % 32 = 24 := rfl
  simp only [value, bytes32, List.foldr_cons, List.foldr_nil, UInt32.toNat_toUInt8,
    UInt32.toNat_shiftRight, eight, sixteen, twentyFour, Nat.shiftRight_eq_div_pow]
  omega

theorem word16_bytes (word : UInt16) : word16 word.toUInt8 (word >>> 8).toUInt8 = word := by
  apply UInt16.toNat_inj.mp
  have bound := word.toNat_lt
  have eight : (8 : UInt16).toNat % 16 = 8 := rfl
  rw [word16, UInt16.toNat_or, UInt16.toNat_shiftLeft]
  simp only [UInt8.toNat_toUInt16, UInt16.toNat_toUInt8, UInt16.toNat_shiftRight]
  rw [eight, Nat.shiftRight_eq_div_pow, Nat.shiftLeft_eq, Nat.or_comm, Nat.mul_comm,
    Nat.mod_eq_of_lt (by omega),
    ← Nat.two_pow_add_eq_or_of_lt (Nat.mod_lt _ (by decide))]
  omega

theorem word16_toNat (low high : UInt8) :
    (word16 low high).toNat = low.toNat + 256 * high.toNat := by
  have lowBound := low.toNat_lt
  have highBound := high.toNat_lt
  have eight : (8 : UInt16).toNat % 16 = 8 := rfl
  rw [word16, UInt16.toNat_or, UInt16.toNat_shiftLeft, UInt8.toNat_toUInt16, UInt8.toNat_toUInt16,
    eight, Nat.shiftLeft_eq, Nat.mod_eq_of_lt (by omega), Nat.or_comm, Nat.mul_comm,
    ← Nat.two_pow_add_eq_or_of_lt (by omega)]
  omega

/-- Two bytes are those of the word they encode. -/
theorem bytes16_word16 (low high : UInt8) : bytes16 (word16 low high) = [low, high] := by
  have value := word16_toNat low high
  have lowBound := low.toNat_lt
  have highBound := high.toNat_lt
  have first : (word16 low high).toUInt8 = low := by
    apply UInt8.toNat_inj.mp
    rw [UInt16.toNat_toUInt8, value]
    omega
  have second : (word16 low high >>> 8).toUInt8 = high := by
    apply UInt8.toNat_inj.mp
    have eight : (8 : UInt16).toNat % 16 = 8 := rfl
    rw [UInt16.toNat_toUInt8, UInt16.toNat_shiftRight, value, eight, Nat.shiftRight_eq_div_pow]
    omega
  rw [bytes16, first, second]

end LittleEndian
