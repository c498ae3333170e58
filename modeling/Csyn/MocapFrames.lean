import Csyn.Lib.FlatBuffer
import Csyn.Codec

set_option autoImplicit false

/- `csyn_decode_mocap_frame` on frames that verify: which body it picks, and when a frame is
taken for a compact pose. -/
namespace Csyn

/-- The bodies of a frame; a NULL table or vector has none. -/
def MocapPoseFrame.bodies (reader : MocapPoseFrame) (buf : List UInt8) :
    List MocapRigidBodyPoseData :=
  ((reader.asRoot buf).bind id).getD []

/-- The body that `body_id` asks for. -/
def Wanted (bodyId : Int) (body : MocapRigidBodyPoseData) : Prop :=
  bodyId ≤ 0 ∨ body.id.toInt = bodyId

/-- The first such body. -/
def Selected (bodyId : Int) (bodies : List MocapRigidBodyPoseData)
    (body : MocapRigidBodyPoseData) : Prop :=
  ∃ before after, bodies = before ++ body :: after ∧ Wanted bodyId body ∧
    ∀ other ∈ before, ¬ Wanted bodyId other

/-- The message that stands for a body. -/
def MocapPoseFrame.rigidBody (reader : MocapPoseFrame) (body : MocapRigidBodyPoseData) :
    CsynMocapRigidBody :=
  { id := body.id, x := body.x, y := body.y, z := body.z, qw := body.qw,
    qx := body.qx, qy := body.qy, qz := body.qz,
    valid := body.flags &&& reader.rawFlagsValid != 0 }

theorem selectBody_skip {reader : MocapPoseFrame} {bodyId : Int} {body : MocapRigidBodyPoseData}
    (other : ¬ Wanted bodyId body) (rest : List MocapRigidBodyPoseData) :
    selectBody reader bodyId (body :: rest) = selectBody reader bodyId rest := by
  rw [Wanted, not_or, Int.not_le] at other
  rw [selectBody, if_pos other]

theorem selectBody_here {reader : MocapPoseFrame} {bodyId : Int} {body : MocapRigidBodyPoseData}
    (wanted : Wanted bodyId body) (rest : List MocapRigidBodyPoseData) :
    selectBody reader bodyId (body :: rest) = some (reader.rigidBody body) := by
  rw [selectBody, if_neg]
  · rfl
  · rintro ⟨positive, different⟩
    rcases wanted with any | same
    · exact absurd positive (Int.not_lt.mpr any)
    · exact different same

/-- The loop returns the first wanted body. -/
theorem selectBody_some {reader : MocapPoseFrame} {bodyId : Int}
    {bodies : List MocapRigidBodyPoseData} {body : MocapRigidBodyPoseData}
    (selected : Selected bodyId bodies body) :
    selectBody reader bodyId bodies = some (reader.rigidBody body) := by
  obtain ⟨before, after, rfl, wanted, skipped⟩ := selected
  induction before with
  | nil => exact selectBody_here wanted after
  | cons first rest ih =>
      rw [List.cons_append, selectBody_skip (skipped first List.mem_cons_self)]
      exact ih fun other member => skipped other (List.mem_cons_of_mem _ member)

theorem not_selected_nil (bodyId : Int) (body : MocapRigidBodyPoseData) :
    ¬ Selected bodyId [] body := by
  rintro ⟨before, after, same, -⟩
  exact absurd same.symm (List.append_ne_nil_of_right_ne_nil _ (List.cons_ne_nil _ _))

theorem selectBody_none {reader : MocapPoseFrame} {bodyId : Int}
    {bodies : List MocapRigidBodyPoseData}
    (absent : ∀ body, ¬ Selected bodyId bodies body) : selectBody reader bodyId bodies = none := by
  induction bodies with
  | nil => rfl
  | cons first rest ih =>
      have other : ¬ Wanted bodyId first := fun wanted =>
        absent first ⟨[], rest, rfl, wanted, by simp⟩
      rw [selectBody_skip other]
      apply ih
      rintro body ⟨before, after, rfl, wanted, skipped⟩
      refine absent body ⟨first :: before, after, rfl, wanted, ?_⟩
      intro earlier member
      rcases List.mem_cons.mp member with rfl | later
      · exact other
      · exact skipped earlier later

/-- Where the loop finds a body, that body was selected. -/
theorem selected_of_selectBody {reader : MocapPoseFrame} {bodyId : Int}
    {bodies : List MocapRigidBodyPoseData} {rb : CsynMocapRigidBody}
    (found : selectBody reader bodyId bodies = some rb) :
    ∃ body, Selected bodyId bodies body ∧ rb = reader.rigidBody body := by
  by_contra absent
  rw [selectBody_none] at found
  · cases found
  · intro body selected
    refine absent ⟨body, selected, ?_⟩
    rw [selectBody_some selected, Option.some.injEq] at found
    exact found.symm

/-- A buffer that verifies and is no compact pose is decoded by the loop over its bodies. -/
theorem csynDecodeMocapFrame_frame {reader : MocapPoseFrame} {buf : List UInt8}
    (verified : reader.verifyAsRoot buf = 0) (long : 8 ≤ buf.length)
    (other : buf.length ≠ csynMocapCompactPoseSize) (bodyId : Int) :
    csynDecodeMocapFrame reader buf bodyId = selectBody reader bodyId (reader.bodies buf) := by
  rw [csynDecodeMocapFrame, if_neg (Nat.not_lt.mpr long), if_neg other,
    if_neg (not_not.mpr verified), MocapPoseFrame.bodies]
  split
  · rename_i missing
    rw [missing]
    rfl
  · rename_i missing
    rw [missing]
    rfl
  · rename_i bodies present
    rw [present]
    rfl

/-- What the code relies on in the generated verifier and accessors: a verified buffer holds the
root offset and a table, and the elements of a vector lie in it behind their count. A body has
an id, flags and the seven floats of its pose. -/
structure MocapPoseFrame.FollowsFormat (reader : MocapPoseFrame) (bodySize : Nat) : Prop where
  root : ∀ buf, reader.verifyAsRoot buf = 0 → 8 ≤ buf.length
  vector : ∀ buf, reader.verifyAsRoot buf = 0 →
    4 + (reader.bodies buf).length * bodySize ≤ buf.length
  body : 4 + 1 + 7 * 4 ≤ bodySize

/-- The decoder reads a frame as a frame: a selected body is what `*rb` holds, and without one
it returns false. -/
structure ReadsFrame (reader : MocapPoseFrame) (bodyId : Int) (buf : List UInt8) : Prop where
  found : ∀ body, Selected bodyId (reader.bodies buf) body →
    csynDecodeMocapFrame reader buf bodyId = some (reader.rigidBody body)
  notFound : (∀ body, ¬ Selected bodyId (reader.bodies buf) body) →
    csynDecodeMocapFrame reader buf bodyId = none

/-- All seven words of a compact pose are finite floats. -/
def FinitePose (buf : List UInt8) : Prop := ∀ i, i < 7 → isfinite (wordAt buf (4 * i)) = true

theorem csynDecodeCompactPose_isSome (buf : List UInt8) :
    (csynDecodeCompactPose buf).isSome ↔ FinitePose buf := by
  unfold csynDecodeCompactPose FinitePose
  dsimp only
  split
  · rename_i finite
    simp only [Option.isSome_some, true_iff]
    intro i inside
    exact List.all_eq_true.mp finite i (List.mem_range.mpr inside)
  · rename_i infinite
    simp only [Option.isSome_none, Bool.false_eq_true, false_iff]
    intro finite
    exact infinite (List.all_eq_true.mpr fun i member => finite i (List.mem_range.mp member))

/-- A frame is never misread as a compact pose, if and only if it is not as long as one or one
of its first seven words is not a finite float. -/
theorem mocap_frame_read_iff (reader : MocapPoseFrame) (bodySize : Nat)
    (format : reader.FollowsFormat bodySize) (buf : List UInt8) (bodyId : Int)
    (verified : reader.verifyAsRoot buf = 0) :
    ReadsFrame reader bodyId buf ↔ ¬ (buf.length = csynMocapCompactPoseSize ∧ FinitePose buf) := by
  have long := format.root buf verified
  by_cases compact : buf.length = csynMocapCompactPoseSize
  · -- No body fits a buffer this short.
    have none_ : reader.bodies buf = [] := by
      have room := format.vector buf verified
      have large := format.body
      have size : csynMocapCompactPoseSize = 28 := rfl
      cases shown : reader.bodies buf with
      | nil => rfl
      | cons first rest =>
          rw [shown, List.length_cons, Nat.add_mul] at room
          omega
    have unselected : ∀ body, ¬ Selected bodyId (reader.bodies buf) body := by
      rw [none_]
      exact not_selected_nil bodyId
    have decoded : csynDecodeMocapFrame reader buf bodyId = csynDecodeCompactPose buf := by
      rw [csynDecodeMocapFrame, if_neg (Nat.not_lt.mpr long), if_pos compact]
    rw [← csynDecodeCompactPose_isSome, ← decoded]
    constructor
    · rintro reads ⟨-, found⟩
      rw [reads.notFound unselected] at found
      cases found
    · intro refused
      refine ⟨fun body selected => absurd selected (unselected body), fun _ => ?_⟩
      rw [← Option.not_isSome_iff_eq_none]
      exact fun found => refused ⟨compact, found⟩
  · have decoded := csynDecodeMocapFrame_frame verified long compact bodyId
    refine iff_of_true ⟨?_, ?_⟩ fun both => compact both.1
    · intro body selected
      rw [decoded]
      exact selectBody_some selected
    · intro absent
      rw [decoded]
      exact selectBody_none absent

section

/-- A body in the inline layout of its struct. -/
def flatBody (element : List UInt8) : MocapRigidBodyPoseData :=
  { id := (wordAt element 0).toInt32, flags := wordAt element 32
    x := wordAt element 4, y := wordAt element 8, z := wordAt element 12
    qw := wordAt element 16, qx := wordAt element 20, qy := wordAt element 24
    qz := wordAt element 28 }

/-- A reader by the rules of the format, with the bodies as field 1 of the root table. -/
def flatReader : MocapPoseFrame where
  verifyAsRoot buf :=
    match FlatBuffer.root? buf with
    | none => 1
    | some table =>
        if (table.field 1).isNone ∨ (table.structVector 1 40).isSome then 0 else 1
  asRoot buf :=
    (FlatBuffer.root? buf).map fun table => (table.structVector 1 40).map (List.map flatBody)
  rawFlagsValid := 1

theorem flatReader_verified {buf : List UInt8} (verified : flatReader.verifyAsRoot buf = 0) :
    ∃ table, FlatBuffer.root? buf = some table := by
  cases found : FlatBuffer.root? buf with
  | none =>
      have refused : flatReader.verifyAsRoot buf = 1 := by
        dsimp only [flatReader]
        rw [found]
      rw [refused] at verified
      cases verified
  | some table => exact ⟨table, rfl⟩

theorem flatReader_format : flatReader.FollowsFormat 40 where
  root buf verified := by
    obtain ⟨table, -⟩ := flatReader_verified verified
    exact table.length_le
  vector buf verified := by
    obtain ⟨table, found⟩ := flatReader_verified verified
    have bodies : flatReader.bodies buf =
        ((table.structVector 1 40).map (List.map flatBody)).getD [] := by
      change (((FlatBuffer.root? buf).map _).bind id).getD [] = _
      rw [found]
      rfl
    rw [bodies]
    cases elements : table.structVector 1 40 with
    | none =>
        have long := table.length_le
        change 4 + 0 * 40 ≤ buf.length
        omega
    | some elements =>
        have inside := FlatBuffer.Table.structVector_length elements
        rw [Option.map_some, Option.getD_some, List.length_map]
        exact inside
  body := by decide

end

/-- One body with id 7, in a frame of 68 bytes. -/
def oneBodyFrame : List UInt8 :=
  [16, 0, 0, 0, 0, 0, 0, 0, 8, 0, 8, 0, 0, 0, 4, 0, 8, 0, 0, 0, 4, 0, 0, 0, 1, 0, 0, 0] ++
    [7, 0, 0, 0] ++ List.replicate 28 0 ++ [1, 0, 0, 0, 0, 0, 0, 0]

theorem mocap_frame_read_iff_one_body :
    flatReader.bodies oneBodyFrame = [⟨7, 1, 0, 0, 0, 0, 0, 0, 0⟩] ∧
      ReadsFrame flatReader 7 oneBodyFrame :=
  ⟨by rfl, (mocap_frame_read_iff flatReader 40 flatReader_format oneBodyFrame 7 (by rfl)).mpr
    fun both => absurd both.1 (by decide)⟩

/-- A frame without bodies whose padded encoding is as long as a compact pose. -/
def emptyFrame : List UInt8 :=
  [12, 0, 0, 0, 0, 0, 0, 0, 4, 0, 4, 0, 4, 0, 0, 0] ++ List.replicate 12 0

/-- The empty frame verifies and is decoded to a valid pose. -/
theorem mocap_frame_misread :
    flatReader.FollowsFormat 40 ∧ flatReader.verifyAsRoot emptyFrame = 0 ∧
      ¬ ReadsFrame flatReader 0 emptyFrame := by
  refine ⟨flatReader_format, by rfl, fun reads => ?_⟩
  have missing := reads.notFound (not_selected_nil 0)
  have decoded : (csynDecodeMocapFrame flatReader emptyFrame 0).isSome = true := by decide
  rw [missing] at decoded
  cases decoded

end Csyn
