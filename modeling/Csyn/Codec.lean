import Csyn.Topic

set_option autoImplicit false

/- The payload decoders of zephyr/src/csyn_codec.c. The accessors and the verifier
that synapse_fbs generates are parameters; a `float` that is only moved is its bit
pattern. -/
namespace Csyn

/-- `csyn_clampf` -/
def csynClampf (value minValue maxValue : Float32) : Float32 :=
  if value < minValue then minValue else if value > maxValue then maxValue else value

/-- `csyn_pwm_from_centered_axis` -/
def csynPwmFromCenteredAxis (value : Float32) : Int32 :=
  (1500.0 + csynClampf value (-1.0) 1.0 * 500.0).toInt32

/-- `csyn_pwm_from_throttle_axis` -/
def csynPwmFromThrottleAxis (value : Float32) : Int32 :=
  (1000.0 + csynClampf value 0.0 1.0 * 1000.0).toInt32

/-- `milli_to_axis` -/
def milliToAxis (value : Int16) (minValue maxValue : Float32) : Float32 :=
  csynClampf (value.toFloat32 / 1000.0) minValue maxValue

/-- The generated view of `synapse_topic_ManualControlData_t` and its flag constants. -/
structure ManualControlData where
  flightMode : List UInt8 → UInt8
  activeAxes : List UInt8 → UInt16
  flags : List UInt8 → UInt32
  rollMilli : List UInt8 → Int16
  pitchMilli : List UInt8 → Int16
  throttleMilli : List UInt8 → Int16
  yawMilli : List UInt8 → Int16
  axesRoll : UInt16
  axesPitch : UInt16
  axesThrottle : UInt16
  axesYaw : UInt16
  flagActive : UInt32
  flagValid : UInt32
  flagArmSwitch : UInt32
  flagKillSwitch : UInt32

/-- `sizeof(synapse_topic_ManualControlData_t)`, asserted at build time. -/
def sizeofManualControlData : Nat := 40

/-- `csyn_rc_channels16_t`: the channels in order. -/
abbrev CsynRcChannels16 : Type := Vector Int32 16

/-- `manual_control_flag_set` -/
def manualControlFlagSet (reader : ManualControlData) (data : List UInt8) (flag : UInt32) : Bool :=
  reader.flags data &&& flag != 0

/-- `csyn_decode_manual_control`: `*rc` and `*valid`, or `none` for `false`. -/
def csynDecodeManualControl (reader : ManualControlData) (buf : List UInt8) :
    Option (CsynRcChannels16 × Bool) :=
  if buf.length ≠ sizeofManualControlData then none
  else
    let requiredAxes :=
      reader.axesRoll ||| reader.axesPitch ||| reader.axesThrottle ||| reader.axesYaw
    let activeManual := manualControlFlagSet reader buf reader.flagActive
    let valid := manualControlFlagSet reader buf reader.flagValid &&
      (reader.activeAxes buf &&& requiredAxes == requiredAxes)
    some (#v[
      csynPwmFromCenteredAxis (milliToAxis (reader.rollMilli buf) (-1.0) 1.0),
      csynPwmFromCenteredAxis (milliToAxis (reader.pitchMilli buf) (-1.0) 1.0),
      csynPwmFromThrottleAxis (milliToAxis (reader.throttleMilli buf) 0.0 1.0),
      csynPwmFromCenteredAxis (-(milliToAxis (reader.yawMilli buf) (-1.0) 1.0)),
      if reader.flightMode buf > 0 then 2000 else 1000,
      if activeManual then 1000 else 2000,
      if manualControlFlagSet reader buf reader.flagArmSwitch then 2000 else 1000,
      if manualControlFlagSet reader buf reader.flagKillSwitch then 2000 else 1000,
      0, 0, 0, 0, 0, 0, 0, 0], valid)

/-- Nothing but the size of the buffer is checked. -/
theorem csynDecodeManualControl_isSome (reader : ManualControlData) (buf : List UInt8) :
    (csynDecodeManualControl reader buf).isSome = true ↔ buf.length = sizeofManualControlData := by
  unfold csynDecodeManualControl
  split
  · rename_i other
    simp only [Option.isSome_none, Bool.false_eq_true, other]
  · rename_i sized
    simp only [Option.isSome_some, not_not.mp sized]

/-- `struct csyn_mocap_rigid_body` -/
structure CsynMocapRigidBody where
  id : Int32
  x : UInt32
  y : UInt32
  z : UInt32
  qw : UInt32
  qx : UInt32
  qy : UInt32
  qz : UInt32
  valid : Bool
  deriving DecidableEq

/-- `isfinite` on the bit pattern of a binary32: the exponent is not all ones. -/
def isfinite (bits : UInt32) : Bool := bits &&& 0x7f800000 != 0x7f800000

/-- The little-endian 32-bit word at a byte offset. -/
def wordAt (buf : List UInt8) (offset : Nat) : UInt32 :=
  let byte (i : Nat) : UInt32 := ((buf[offset + i]?).getD 0).toUInt32
  byte 0 ||| byte 1 <<< 8 ||| byte 2 <<< 16 ||| byte 3 <<< 24

/-- `CSYN_MOCAP_COMPACT_POSE_SIZE` -/
def csynMocapCompactPoseSize : Nat := 7 * 4

/-- `csyn_decode_compact_pose`: ENU metres, quaternion scalar last on the wire. -/
def csynDecodeCompactPose (buf : List UInt8) : Option CsynMocapRigidBody :=
  let value (i : Nat) : UInt32 := wordAt buf (4 * i)
  if (List.range 7).all fun i => isfinite (value i) then
    some { id := 0, x := value 0, y := value 1, z := value 2, qx := value 3, qy := value 4,
           qz := value 5, qw := value 6, valid := true }
  else none

/-- One element of the `rigid_bodies` vector, through its generated accessors. -/
structure MocapRigidBodyPoseData where
  id : Int32
  flags : UInt32
  x : UInt32
  y : UInt32
  z : UInt32
  qw : UInt32
  qx : UInt32
  qy : UInt32
  qz : UInt32

/-- The generated verifier and accessors of `MocapPoseFrame`; a NULL table or vector
is `none`. -/
structure MocapPoseFrame where
  verifyAsRoot : List UInt8 → Int
  asRoot : List UInt8 → Option (Option (List MocapRigidBodyPoseData))
  rawFlagsValid : UInt32

/-- The loop of `csyn_decode_mocap_frame`: the first body selected by `body_id`. -/
def selectBody (reader : MocapPoseFrame) (bodyId : Int) :
    List MocapRigidBodyPoseData → Option CsynMocapRigidBody
  | [] => none
  | body :: rest =>
      if bodyId > 0 ∧ body.id.toInt ≠ bodyId then selectBody reader bodyId rest
      else
        some { id := body.id, x := body.x, y := body.y, z := body.z, qw := body.qw,
               qx := body.qx, qy := body.qy, qz := body.qz,
               valid := body.flags &&& reader.rawFlagsValid != 0 }

/-- `csyn_decode_mocap_frame`: `*rb`, or `none` for `false` with `*rb` untouched. -/
def csynDecodeMocapFrame (reader : MocapPoseFrame) (buf : List UInt8) (bodyId : Int) :
    Option CsynMocapRigidBody :=
  if buf.length < 8 then none
  else if buf.length = csynMocapCompactPoseSize then csynDecodeCompactPose buf
  else if reader.verifyAsRoot buf ≠ 0 then none
  else
    match reader.asRoot buf with
    | none => none
    | some none => none
    | some (some bodies) => selectBody reader bodyId bodies

end Csyn
