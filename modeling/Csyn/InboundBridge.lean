import Csyn.Codec
import Csyn.PollerInvariant

set_option autoImplicit false

/- The bridge's inbound path for the three topics whose samples have one size:
zephyr/src/csyn_zros_bridge.c, `publish_manual_control_if_updated`,
`publish_inertial_sample_if_updated` and `publish_odometry_if_updated`, each over
`copy_csyn_topic`. The last two copy straight into the buffer that is published. -/
namespace Csyn

/-- The generated view of `synapse_topic_OdometryData_t` and its flag constants. -/
structure OdometryData where
  x : List UInt8 → UInt32
  y : List UInt8 → UInt32
  z : List UInt8 → UInt32
  qw : List UInt8 → UInt32
  qx : List UInt8 → UInt32
  qy : List UInt8 → UInt32
  qz : List UInt8 → UInt32
  flags : List UInt8 → UInt32
  flagPositionValid : UInt32
  flagAttitudeValid : UInt32
  flagLost : UInt32

/-- Sizes and accessors that synapse_fbs generates for the bridged messages. No C object has
size zero. -/
structure BridgeLayout where
  manualControl : ManualControlData
  odometry : OdometryData
  sizeofInertialSampleData : Nat
  sizeofOdometryData : Nat
  odometry_positive : 0 < sizeofOdometryData

/-- Some layout, with every accessor at a fixed offset. -/
def sampleLayout : BridgeLayout where
  manualControl :=
    { flightMode := fun data => data[0]?.getD 0
      activeAxes := fun data => (data[1]?.getD 0).toUInt16
      flags := fun data => (data[2]?.getD 0).toUInt32
      rollMilli := fun _ => 0
      pitchMilli := fun _ => 0
      throttleMilli := fun _ => 0
      yawMilli := fun _ => 0
      axesRoll := 1
      axesPitch := 2
      axesThrottle := 4
      axesYaw := 8
      flagActive := 1
      flagValid := 2
      flagArmSwitch := 4
      flagKillSwitch := 8 }
  odometry :=
    { x := fun data => wordAt data 0
      y := fun _ => 0
      z := fun _ => 0
      qw := fun _ => 0
      qx := fun _ => 0
      qy := fun _ => 0
      qz := fun _ => 0
      flags := fun data => (data[1]?.getD 0).toUInt32
      flagPositionValid := 1
      flagAttitudeValid := 2
      flagLost := 4 }
  sizeofInertialSampleData := 3
  sizeofOdometryData := 2
  odometry_positive := by decide

/-- `struct csyn_manual_control` -/
structure CsynManualControl where
  rc : CsynRcChannels16
  valid : Bool
  stampMs : Int

/-- What is handed to `zros_pub_update`: the contents of the publisher's buffer. -/
inductive ZrosMessage where
  | manualControl (message : CsynManualControl)
  | mocap (message : CsynMocapRigidBody)
  | inertialSample (bytes : List UInt8)
  | odometry (bytes : List UInt8)

/-- The inbound topics with samples of one size. -/
inductive RxTopic where
  | manual
  | imu
  | odom
  deriving DecidableEq

/-- `sizeof` of the sample's struct, which is also the size of the copy's buffer. -/
def RxTopic.size (layout : BridgeLayout) : RxTopic → Nat
  | .manual => sizeofManualControlData
  | .imu => layout.sizeofInertialSampleData
  | .odom => layout.sizeofOdometryData

/-- The `copy_csyn_topic` call: a local buffer for manual control, `g_inertial_sample`
and `g_odometry` for the other two. -/
def RxTopic.rule (layout : BridgeLayout) : RxTopic → PollRule
  | .manual => copyCsynTopic (RxTopic.manual.size layout) false
  | .imu => copyCsynTopic (RxTopic.imu.size layout) true
  | .odom => copyCsynTopic (RxTopic.odom.size layout) true

/-- `publish_manual_control_if_updated` after the copy. -/
def publishManualControl (layout : BridgeLayout) (uptime : Int) (buf : ByteMemory)
    (length : UInt16) : Option ZrosMessage :=
  match csynDecodeManualControl layout.manualControl (buf.load 0 length.toNat) with
  | none => none
  | some (rc, valid) => some (.manualControl { rc := rc, valid := valid, stampMs := uptime })

/-- `publish_inertial_sample_if_updated` after the copy. -/
def publishInertialSample (layout : BridgeLayout) (buf : ByteMemory) (length : UInt16) :
    Option ZrosMessage :=
  if length.toNat ≠ layout.sizeofInertialSampleData then none
  else some (.inertialSample (buf.load 0 layout.sizeofInertialSampleData))

/-- `publish_odometry_if_updated` after the copy, up to its first `zros_pub_update`. -/
def publishOdometry (layout : BridgeLayout) (buf : ByteMemory) (length : UInt16) :
    Option ZrosMessage :=
  if length.toNat ≠ layout.sizeofOdometryData then none
  else some (.odometry (buf.load 0 layout.sizeofOdometryData))

def RxTopic.publish (layout : BridgeLayout) (topic : RxTopic) (uptime : Int) (buf : ByteMemory)
    (length : UInt16) : Option ZrosMessage :=
  match topic with
  | .manual => publishManualControl layout uptime buf length
  | .imu => publishInertialSample layout buf length
  | .odom => publishOdometry layout buf length

/-- The message a whole sample stands for, whatever buffer it passed through. -/
def RxTopic.decode (layout : BridgeLayout) (topic : RxTopic) (uptime : Int)
    (sample : List UInt8) : Option ZrosMessage :=
  if sample.length ≠ topic.size layout then none
  else
    match topic with
    | .manual => (csynDecodeManualControl layout.manualControl sample).map fun decoded =>
        .manualControl { rc := decoded.1, valid := decoded.2, stampMs := uptime }
    | .imu => some (.inertialSample sample)
    | .odom => some (.odometry sample)

/-- A `zros_pub_update`. `sample` is a history variable: the generation its copy validated. -/
structure ZrosUpdate where
  message : ZrosMessage
  uptime : Int
  sample : UInt32

/-- One inbound topic, its writer, the bridge's poller and what reached zros, oldest first. -/
structure Inbound where
  polling : Polling
  updates : List ZrosUpdate

inductive InboundAction where
  | writer (action : PublishAction)
  | poll (scratch : ByteMemory)
  | copy (action : CopyAction)
  | finish (uptime : Int)

def Inbound.boot (store : Store) : Inbound := ⟨Polling.boot store, []⟩

/-- `finish` is everything after the last access of the copy. It touches only what the
bridge thread owns: the recorded generation, the message buffer and the zros topic. -/
def Inbound.step (layout : BridgeLayout) (topic : RxTopic) (s : Inbound) :
    InboundAction → Option Inbound
  | .writer action =>
      (s.polling.step (topic.rule layout) (.writer action)).map fun p => { s with polling := p }
  | .poll scratch =>
      (s.polling.step (topic.rule layout) (.poll scratch)).map fun p => { s with polling := p }
  | .copy action =>
      (s.polling.step (topic.rule layout) (.copy action)).map fun p => { s with polling := p }
  | .finish uptime =>
      match s.polling.poller.pc with
      | .copied _ length sample =>
          (s.polling.step (topic.rule layout) (.hand true)).map fun p =>
            { polling := p
              updates := s.updates ++
                match topic.publish layout uptime s.polling.poller.buf length with
                | none => []
                | some message => [⟨message, uptime, sample⟩] }
      | _ => none

/-- Publishing from a buffer that holds a whole sample is decoding that sample. -/
theorem RxTopic.publish_eq_decode (layout : BridgeLayout) (topic : RxTopic) (uptime : Int)
    (buf : ByteMemory) (length : UInt16) :
    topic.publish layout uptime buf length =
      topic.decode layout uptime (buf.load 0 length.toNat) := by
  unfold RxTopic.publish RxTopic.decode
  rw [ByteMemory.load_length]
  cases topic with
  | manual =>
      unfold publishManualControl RxTopic.size
      dsimp only
      cases decoded : csynDecodeManualControl layout.manualControl (buf.load 0 length.toNat) with
      | none =>
          simp only [Option.map_none, ite_self]
      | some message =>
          have sized := (csynDecodeManualControl_isSome _ _).mp (Option.isSome_of_eq_some decoded)
          rw [ByteMemory.load_length] at sized
          simp only [sized, ne_eq, not_true_eq_false, ↓reduceIte, Option.map_some]
  | imu =>
      unfold publishInertialSample RxTopic.size
      dsimp only
      split
      · rfl
      · rename_i whole
        rw [not_not.mp whole]
  | odom =>
      unfold publishOdometry RxTopic.size
      dsimp only
      split
      · rfl
      · rename_i whole
        rw [not_not.mp whole]

theorem RxTopic.decode_isSome (layout : BridgeLayout) (topic : RxTopic) (uptime : Int)
    (sample : List UInt8) :
    (topic.decode layout uptime sample).isSome = decide (sample.length = topic.size layout) := by
  unfold RxTopic.decode
  split
  · rename_i other
    simp only [Option.isSome_none, other, decide_false]
  · rename_i whole
    have whole := not_not.mp whole
    cases topic with
    | manual =>
        have decoded := (csynDecodeManualControl_isSome layout.manualControl sample).mpr whole
        simp only [Option.isSome_map, decoded, whole, decide_true]
    | imu => simp only [Option.isSome_some, whole, decide_true]
    | odom => simp only [Option.isSome_some, whole, decide_true]

end Csyn
