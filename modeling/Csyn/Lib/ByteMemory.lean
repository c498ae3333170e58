import Mathlib.Logic.Function.Basic
import Mathlib.Data.List.Basic

set_option autoImplicit false

/- Byte-addressed memory, and `memcpy` as single-byte moves in an arbitrary order. -/

/-- Contents of a memory region by offset. -/
abbrev ByteMemory : Type := Nat → UInt8

namespace ByteMemory

/-- Store one byte. -/
def store (m : ByteMemory) (address : Nat) (byte : UInt8) : ByteMemory :=
  Function.update m address byte

/-- Store consecutive bytes. -/
def storeBytes (m : ByteMemory) (base : Nat) (bytes : List UInt8) : ByteMemory :=
  fun address =>
    if base ≤ address then (bytes[address - base]?).getD (m address) else m address

/-- Load consecutive bytes. -/
def load (m : ByteMemory) (base count : Nat) : List UInt8 :=
  (List.range count).map fun i => m (base + i)

@[simp] theorem store_same (m : ByteMemory) (address : Nat) (byte : UInt8) :
    m.store address byte address = byte :=
  Function.update_self _ _ _

theorem store_other (m : ByteMemory) {address other : Nat} (byte : UInt8)
    (apart : other ≠ address) : m.store address byte other = m other :=
  Function.update_of_ne apart _ _

@[simp] theorem load_length (m : ByteMemory) (base count : Nat) :
    (m.load base count).length = count := by
  simp only [load, List.length_map, List.length_range]

theorem load_getElem (m : ByteMemory) (base count i : Nat) (inside : i < (m.load base count).length) :
    (m.load base count)[i] = m (base + i) := by
  simp only [load, List.getElem_map, List.getElem_range]

theorem load_congr {m other : ByteMemory} {base count : Nat}
    (agree : ∀ i, i < count → m (base + i) = other (base + i)) :
    m.load base count = other.load base count :=
  List.map_congr_left fun i member => agree i (List.mem_range.mp member)

/-- A region is its first part and the rest. -/
theorem load_add (m : ByteMemory) (base first rest : Nat) :
    m.load base (first + rest) = m.load base first ++ m.load (base + first) rest := by
  simp only [load, List.range_add, List.map_append, List.map_map]
  congr 1
  apply List.map_congr_left
  intro i _
  simp only [Function.comp_apply, Nat.add_assoc]

theorem storeBytes_inside (m : ByteMemory) (base : Nat) (bytes : List UInt8) (i : Nat)
    (inside : i < bytes.length) : m.storeBytes base bytes (base + i) = bytes[i] := by
  simp only [storeBytes, Nat.le_add_right, ↓reduceIte, Nat.add_sub_cancel_left,
    List.getElem?_eq_getElem inside, Option.getD_some]

theorem storeBytes_outside (m : ByteMemory) (base : Nat) (bytes : List UInt8) (address : Nat)
    (outside : address < base ∨ base + bytes.length ≤ address) :
    m.storeBytes base bytes address = m address := by
  unfold storeBytes
  split
  · rw [List.getElem?_eq_none (by omega), Option.getD_none]
  · rfl

theorem load_storeBytes (m : ByteMemory) (base : Nat) (bytes : List UInt8) :
    (m.storeBytes base bytes).load base bytes.length = bytes := by
  apply List.ext_getElem (load_length _ _ _)
  intro i _ inside
  rw [load_getElem, storeBytes_inside m base bytes i inside]

/-- The region at `base` agrees with `bytes` at every offset not pending. -/
def Holds (m : ByteMemory) (base : Nat) (bytes : List UInt8) (pending : List Nat) : Prop :=
  ∀ i (inside : i < bytes.length), i ∉ pending → m (base + i) = bytes[i]

theorem holds_start (m : ByteMemory) (base : Nat) (bytes : List UInt8) :
    m.Holds base bytes (List.range bytes.length) := by
  intro i inside absent
  exact absurd (List.mem_range.mpr inside) absent

/-- Moving one pending byte makes its offset agree and disturbs no other one. -/
theorem Holds.store {m : ByteMemory} {base : Nat} {bytes : List UInt8} {pending : List Nat}
    (holds : m.Holds base bytes pending) {offset : Nat} {byte : UInt8}
    (moved : bytes[offset]? = some byte) :
    (m.store (base + offset) byte).Holds base bytes (pending.erase offset) := by
  intro i inside absent
  by_cases same : i = offset
  · subst same
    rw [store_same]
    exact (Option.some.inj ((List.getElem?_eq_getElem inside).symm.trans moved)).symm
  · rw [store_other m byte (by omega)]
    exact holds i inside fun member => absent ((List.mem_erase_of_ne same).mpr member)

/-- Stores outside the region change none of its bytes. -/
theorem Holds.store_outside {m : ByteMemory} {base : Nat} {bytes : List UInt8}
    {pending : List Nat} (holds : m.Holds base bytes pending) {address : Nat} {byte : UInt8}
    (outside : address < base ∨ base + bytes.length ≤ address) :
    (m.store address byte).Holds base bytes pending := by
  intro i inside absent
  rw [store_other m byte (by omega)]
  exact holds i inside absent

theorem Holds.load {m : ByteMemory} {base : Nat} {bytes : List UInt8}
    (holds : m.Holds base bytes []) : m.load base bytes.length = bytes := by
  apply List.ext_getElem (load_length _ _ _)
  intro i _ inside
  rw [load_getElem]
  exact holds i inside List.not_mem_nil

/-- A region that agrees with `bytes`, with everything else as it was, is a `storeBytes`. -/
theorem Holds.eq_storeBytes {m before : ByteMemory} {base : Nat} {bytes : List UInt8}
    (holds : m.Holds base bytes [])
    (frame : ∀ address, address < base ∨ base + bytes.length ≤ address →
      m address = before address) : m = before.storeBytes base bytes := by
  funext address
  by_cases outside : address < base ∨ base + bytes.length ≤ address
  · rw [frame address outside, storeBytes_outside before base bytes address outside]
  · have inside : address - base < bytes.length := by omega
    have address_eq : base + (address - base) = address := by omega
    rw [← address_eq, storeBytes_inside before base bytes _ inside]
    exact holds _ inside List.not_mem_nil

end ByteMemory
