import Csyn.Lib.LittleEndian

set_option autoImplicit false

/- FlatBuffers as a reader sees them: offsets relative to where they are stored, a root table,
its vtable, and fields in the table's inline part. Whatever is read lies in the buffer and is
aligned. -/
namespace FlatBuffer

/-- The bytes of a region. -/
def slice (buf : List UInt8) (pos size : Nat) : List UInt8 := (buf.drop pos).take size

/-- A scalar of `width` bytes. -/
def scalar (buf : List UInt8) (pos width : Nat) : Option Nat :=
  if pos + width ≤ buf.length ∧ width ∣ pos then some (LittleEndian.value (slice buf pos width))
  else none

/-- An unsigned offset, from the position it is stored at. -/
def uoffset (buf : List UInt8) (pos : Nat) : Option Nat := scalar buf pos 4

/-- The signed offset from a vtable to its table. -/
def soffset (buf : List UInt8) (pos : Nat) : Option Int :=
  (scalar buf pos 4).map fun n : Nat =>
    if n < 0x80000000 then (n : Int) else (n : Int) - 0x100000000

/-- A size or a field offset in a vtable. -/
def voffset (buf : List UInt8) (pos : Nat) : Option Nat := scalar buf pos 2

/-- A table with its vtable. Both lie in the buffer, behind the root offset, and apart. -/
structure Table (buf : List UInt8) where
  pos : Nat
  vtable : Nat
  vtableSize : Nat
  objectSize : Nat
  back : soffset buf pos = some ((pos : Int) - vtable)
  vtableSize_read : voffset buf vtable = some vtableSize
  objectSize_read : voffset buf (vtable + 2) = some objectSize
  behindRoot : 4 ≤ pos ∧ 4 ≤ vtable
  vtable_header : 4 ≤ vtableSize ∧ 2 ∣ vtableSize
  vtable_inside : vtable + vtableSize ≤ buf.length
  object_header : 4 ≤ objectSize
  object_inside : pos + objectSize ≤ buf.length
  apart : vtable + vtableSize ≤ pos ∨ pos + objectSize ≤ vtable

/-- The table at a position. -/
def table? (buf : List UInt8) (pos : Nat) : Option (Table buf) :=
  let vtable := ((pos : Int) - (soffset buf pos).getD 0).toNat
  let vtableSize := (voffset buf vtable).getD 0
  let objectSize := (voffset buf (vtable + 2)).getD 0
  if placed : (soffset buf pos = some ((pos : Int) - vtable) ∧
      voffset buf vtable = some vtableSize ∧ voffset buf (vtable + 2) = some objectSize) ∧
      (4 ≤ pos ∧ 4 ≤ vtable) ∧ (4 ≤ vtableSize ∧ 2 ∣ vtableSize) ∧
      vtable + vtableSize ≤ buf.length ∧ 4 ≤ objectSize ∧ pos + objectSize ≤ buf.length ∧
      (vtable + vtableSize ≤ pos ∨ pos + objectSize ≤ vtable) then
    some ⟨pos, vtable, vtableSize, objectSize, placed.1.1, placed.1.2.1, placed.1.2.2,
      placed.2.1, placed.2.2.1, placed.2.2.2.1, placed.2.2.2.2.1, placed.2.2.2.2.2.1,
      placed.2.2.2.2.2.2⟩
  else none

/-- The root table, whose offset is stored at the start. -/
def root? (buf : List UInt8) : Option (Table buf) := (uoffset buf 0).bind (table? buf)

section

variable {buf : List UInt8}

/-- The offset of a field in the object; absent when the vtable is too short or has a zero. -/
def Table.field (table : Table buf) (i : Nat) : Option Nat :=
  if 4 + 2 * i + 2 ≤ table.vtableSize then
    (voffset buf (table.vtable + (4 + 2 * i))).filter fun offset => offset != 0
  else none

/-- A field that is a struct stored inline. -/
def Table.structField (table : Table buf) (i size align : Nat) : Option (List UInt8) :=
  (table.field i).bind fun offset =>
    if 4 ≤ offset ∧ offset + size ≤ table.objectSize ∧ align ∣ table.pos + offset then
      some (slice buf (table.pos + offset) size)
    else none

/-- A field that is a vector of structs: its elements, `none` when it is absent or runs out of
the buffer. -/
def Table.structVector (table : Table buf) (i size : Nat) : Option (List (List UInt8)) :=
  (table.field i).bind fun offset =>
    (uoffset buf (table.pos + offset)).bind fun forward =>
      let start := table.pos + offset + forward
      (uoffset buf start).bind fun count =>
        if start + 4 + count * size ≤ buf.length then
          some ((List.range count).map fun k => slice buf (start + 4 + k * size) size)
        else none

/-- A table read back from where it was written. -/
theorem table?_eq {pos vtable vtableSize objectSize : Nat}
    (back : soffset buf pos = some ((pos : Int) - vtable))
    (vtableSize_read : voffset buf vtable = some vtableSize)
    (objectSize_read : voffset buf (vtable + 2) = some objectSize)
    (behindRoot : 4 ≤ pos ∧ 4 ≤ vtable) (vtable_header : 4 ≤ vtableSize ∧ 2 ∣ vtableSize)
    (vtable_inside : vtable + vtableSize ≤ buf.length) (object_header : 4 ≤ objectSize)
    (object_inside : pos + objectSize ≤ buf.length)
    (apart : vtable + vtableSize ≤ pos ∨ pos + objectSize ≤ vtable) :
    table? buf pos = some ⟨pos, vtable, vtableSize, objectSize, back, vtableSize_read,
      objectSize_read, behindRoot, vtable_header, vtable_inside, object_header, object_inside,
      apart⟩ := by
  have found : ((pos : Int) - (soffset buf pos).getD 0).toNat = vtable := by
    rw [back, Option.getD_some]
    omega
  unfold table?
  simp only [found, vtableSize_read, objectSize_read, Option.getD_some]
  rw [dif_pos ⟨⟨back, trivial, trivial⟩, behindRoot, vtable_header, vtable_inside, object_header,
    object_inside, apart⟩]

theorem Table.length_le (table : Table buf) : 8 ≤ buf.length := by
  have inside := table.object_inside
  have header := table.object_header
  have behind := table.behindRoot.1
  omega

/-- The elements of a vector lie in the buffer, behind the table's position. -/
theorem Table.structVector_length {table : Table buf} {i size : Nat} {elements : List (List UInt8)}
    (found : table.structVector i size = some elements) :
    4 + elements.length * size ≤ buf.length := by
  unfold Table.structVector at found
  obtain ⟨offset, -, found⟩ := Option.bind_eq_some_iff.mp found
  obtain ⟨forward, -, found⟩ := Option.bind_eq_some_iff.mp found
  obtain ⟨count, -, found⟩ := Option.bind_eq_some_iff.mp found
  split at found
  · rename_i inside
    rw [Option.some.injEq] at found
    rw [← found, List.length_map, List.length_range]
    omega
  · cases found

end

theorem slice_append (before bytes after : List UInt8) {pos size : Nat}
    (start : before.length = pos) (sized : bytes.length = size) :
    slice (before ++ (bytes ++ after)) pos size = bytes := by
  subst start sized
  rw [slice, List.drop_left, List.take_left]

/-- A scalar is read where its bytes were written. -/
theorem scalar_append (before bytes after : List UInt8) {pos width : Nat}
    (start : before.length = pos) (sized : bytes.length = width) (aligned : width ∣ pos) :
    scalar (before ++ (bytes ++ after)) pos width = some (LittleEndian.value bytes) := by
  have inside : pos + width ≤ (before ++ (bytes ++ after)).length := by
    simp only [List.length_append, start, sized]
    omega
  rw [scalar, if_pos ⟨inside, aligned⟩, slice_append before bytes after start sized]

end FlatBuffer
