import Csyn.Lib.FlatBuffer
import Csyn.McapPayload

set_option autoImplicit false

/- The wrapper that `wrap_fixed_payload` of rust/src/types.rs builds by hand, read by the rules
of the format: the object at offset 4, its payload at offset 8, and the vtable behind both. -/
namespace Csyn

section

variable (payload : List UInt8)

/-- The header: the root offset and the signed offset to the vtable. -/
def wrapperHeader : List UInt8 :=
  LittleEndian.bytes32 4 ++ LittleEndian.bytes32 (-(UInt32.ofNat (payload.length + 4)))

theorem wrapperHeader_length : (wrapperHeader payload).length = 8 := rfl

theorem fixedWrapper_header :
    fixedWrapper payload = wrapperHeader payload ++ (payload ++ (LittleEndian.bytes16 6 ++
      (LittleEndian.bytes16 (UInt16.ofNat (payload.length + 4)) ++ LittleEndian.bytes16 4))) := by
  simp only [fixedWrapper, wrapperHeader, List.append_assoc]

theorem fixedWrapper_length : (fixedWrapper payload).length = payload.length + 14 := by
  simp only [fixedWrapper_header, wrapperHeader_length, List.length_append,
    LittleEndian.bytes16_length]
  omega

theorem fixedWrapper_root : FlatBuffer.uoffset (fixedWrapper payload) 0 = some 4 := by
  rw [fixedWrapper_header, wrapperHeader, List.append_assoc, ← List.nil_append
    (LittleEndian.bytes32 4 ++ _)]
  exact (FlatBuffer.scalar_append [] _ _ rfl rfl (by decide)).trans
    (congrArg some (LittleEndian.value_bytes32 4))

variable {payload}

theorem fixedWrapper_back (small : payload.length ≤ 65531) :
    FlatBuffer.soffset (fixedWrapper payload) 4 =
      some (((4 : Nat) : Int) - (payload.length + 8 : Nat)) := by
  have stored : (-(UInt32.ofNat (payload.length + 4))).toNat = 2 ^ 32 - (payload.length + 4) := by
    have size : UInt32.size = 2 ^ 32 := rfl
    rw [UInt32.toNat_neg, UInt32.toNat_ofNat', size]
    omega
  have read : FlatBuffer.scalar (fixedWrapper payload) 4 4 =
      some (2 ^ 32 - (payload.length + 4)) := by
    rw [fixedWrapper_header, wrapperHeader, List.append_assoc, ← stored,
      ← LittleEndian.value_bytes32]
    exact FlatBuffer.scalar_append _ _ _ rfl rfl (by decide)
  rw [FlatBuffer.soffset, read, Option.map_some, if_neg (by omega)]
  congr 1
  omega

/-- The words behind the payload are at even offsets. -/
theorem fixedWrapper_vtableSize (aligned : 8 ∣ payload.length) :
    FlatBuffer.voffset (fixedWrapper payload) (payload.length + 8) = some 6 := by
  rw [fixedWrapper_header, ← List.append_assoc]
  refine (FlatBuffer.scalar_append _ _ _ ?_ rfl (by omega : 2 ∣ _)).trans
    (congrArg some (LittleEndian.value_bytes16 6))
  rw [List.length_append, wrapperHeader_length, Nat.add_comm]

theorem fixedWrapper_objectSize (small : payload.length ≤ 65531) (aligned : 8 ∣ payload.length) :
    FlatBuffer.voffset (fixedWrapper payload) (payload.length + 8 + 2) =
      some (payload.length + 4) := by
  have stored : (UInt16.ofNat (payload.length + 4)).toNat = payload.length + 4 := by
    rw [UInt16.toNat_ofNat', Nat.mod_eq_of_lt (by omega)]
  rw [fixedWrapper_header, ← List.append_assoc, ← List.append_assoc]
  refine (FlatBuffer.scalar_append _ _ _ ?_ rfl (by omega : 2 ∣ _)).trans
    (congrArg some ((LittleEndian.value_bytes16 _).trans stored))
  simp only [List.length_append, wrapperHeader_length, LittleEndian.bytes16_length]
  omega

theorem fixedWrapper_field (aligned : 8 ∣ payload.length) :
    FlatBuffer.voffset (fixedWrapper payload) (payload.length + 8 + 4) = some 4 := by
  rw [fixedWrapper_header, ← List.append_assoc, ← List.append_assoc, ← List.append_assoc,
    ← List.append_nil (LittleEndian.bytes16 4)]
  refine (FlatBuffer.scalar_append _ _ _ ?_ rfl (by omega : 2 ∣ _)).trans
    (congrArg some (LittleEndian.value_bytes16 4))
  simp only [List.length_append, wrapperHeader_length, LittleEndian.bytes16_length]
  omega

/-- The wrapper's root table. -/
def wrapperTable (small : payload.length ≤ 65531) (aligned : 8 ∣ payload.length) :
    FlatBuffer.Table (fixedWrapper payload) where
  pos := 4
  vtable := payload.length + 8
  vtableSize := 6
  objectSize := payload.length + 4
  back := fixedWrapper_back small
  vtableSize_read := fixedWrapper_vtableSize aligned
  objectSize_read := fixedWrapper_objectSize small aligned
  behindRoot := by omega
  vtable_header := by omega
  vtable_inside := by
    rw [fixedWrapper_length]
  object_header := Nat.le_add_left 4 _
  object_inside := by
    rw [fixedWrapper_length]
    omega
  apart := by omega

theorem wrapperTable_field (small : payload.length ≤ 65531) (aligned : 8 ∣ payload.length)
    (i : Nat) : (wrapperTable small aligned).field i = if i = 0 then some 4 else none := by
  unfold FlatBuffer.Table.field
  by_cases first : i = 0
  · subst first
    have within : 4 + 2 * 0 + 2 ≤ (wrapperTable small aligned).vtableSize := Nat.le_refl 6
    rw [if_pos within, if_pos rfl]
    exact congrArg (Option.filter fun offset => offset != 0) (fixedWrapper_field aligned)
  · rw [if_neg first, if_neg]
    change ¬ 4 + 2 * i + 2 ≤ 6
    omega

/-- A payload with 8-byte alignment is wrapped in a well-formed root table whose only field is
an inline struct with exactly the payload's bytes. -/
theorem wrapped_payload_is_flatbuffer (payload wrapped : List UInt8)
    (done : wrapFixedPayload payload = .ok wrapped) (aligned : 8 ∣ payload.length) :
    ∃ table : FlatBuffer.Table wrapped, FlatBuffer.root? wrapped = some table ∧
      (∀ i, (table.field i).isSome ↔ i = 0) ∧
      table.structField 0 payload.length 8 = some payload := by
  obtain ⟨small, rfl⟩ := wrapFixedPayload_iff.mp done
  refine ⟨wrapperTable small aligned, ?_, ?_, ?_⟩
  · rw [FlatBuffer.root?, fixedWrapper_root, Option.bind_some]
    exact FlatBuffer.table?_eq _ _ _ _ _ _ _ _ _
  · intro i
    rw [wrapperTable_field]
    split
    · rename_i first
      simp [first]
    · rename_i other
      simp [other]
  · rw [FlatBuffer.Table.structField, wrapperTable_field, if_pos rfl, Option.bind_some]
    have placed : 4 ≤ 4 ∧ 4 + payload.length ≤ (wrapperTable small aligned).objectSize ∧
        8 ∣ (wrapperTable small aligned).pos + 4 := by
      refine ⟨Nat.le_refl 4, ?_, Nat.dvd_refl 8⟩
      exact Nat.le_of_eq (Nat.add_comm 4 payload.length)
    rw [if_pos placed]
    have read := FlatBuffer.slice_append (wrapperHeader payload) payload (LittleEndian.bytes16 6 ++
      (LittleEndian.bytes16 (UInt16.ofNat (payload.length + 4)) ++ LittleEndian.bytes16 4))
      (wrapperHeader_length payload) rfl
    rw [← fixedWrapper_header] at read
    exact congrArg some read

/-- A payload of eight bytes. -/
theorem wrapped_payload_is_flatbuffer_metrics :
    ∃ wrapped, wrapFixedPayload [1, 2, 3, 4, 5, 6, 7, 8] = .ok wrapped ∧
      ∃ table : FlatBuffer.Table wrapped, FlatBuffer.root? wrapped = some table ∧
        table.structField 0 8 8 = some [1, 2, 3, 4, 5, 6, 7, 8] := by
  obtain ⟨table, root, -, field⟩ := wrapped_payload_is_flatbuffer [1, 2, 3, 4, 5, 6, 7, 8] _ rfl
    (by decide)
  exact ⟨_, rfl, table, root, field⟩

end

end Csyn
