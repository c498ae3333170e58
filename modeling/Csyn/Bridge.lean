import Csyn.InboundBridge
import Csyn.Registry

set_option autoImplicit false

/- zephyr/src/csyn_zros_bridge.c as a whole: `bridge_init`, then `bridge_thread` one call
at a time, with samples arriving between two calls. -/
namespace Csyn

/-- The publishers of the bridge, in the order `bridge_init` sets them up. -/
inductive BridgePub where
  | manualControl
  | mocap
  | inertialSample
  | odometry
  deriving DecidableEq

/-- The csyn topic behind a publisher. -/
def BridgePub.csynKey : BridgePub → Str
  | .manualControl => str "manual"
  | .mocap => str "mocap"
  | .inertialSample => str "imu"
  | .odometry => str "odom"

/-- The entries of `g_tx_maps`. -/
inductive TxMap where
  | pwmSignalOutputs
  | vehicleHealth
  | attitudeEstimate
  | attitudeCommand
  | controlLoopMetrics
  | missionProgress
  | localPositionCommand
  | trajectorySegment
  | vehicleCommand
  | navigationTarget
  deriving DecidableEq

def TxMap.csynKey : TxMap → Str
  | .pwmSignalOutputs => str "pwm"
  | .vehicleHealth => str "health"
  | .attitudeEstimate => str "att"
  | .attitudeCommand => str "att_sp"
  | .controlLoopMetrics => str "loop"
  | .missionProgress => str "mission"
  | .localPositionCommand => str "pos_sp"
  | .trajectorySegment => str "traj"
  | .vehicleCommand => str "vehicle_command"
  | .navigationTarget => str "nav"

def TxMap.all : List TxMap :=
  [.pwmSignalOutputs, .vehicleHealth, .attitudeEstimate, .attitudeCommand, .controlLoopMetrics,
    .missionProgress, .localPositionCommand, .trajectorySegment, .vehicleCommand,
    .navigationTarget]

/-- What an image is built with: its options, which zros topics it defines (the weak symbols
that are not NULL), the messages of its TX topics and how `zros_pub_init` goes. -/
structure BridgeImage where
  config : Kconfig
  layout : BridgeLayout
  reader : MocapPoseFrame
  declared : BridgePub → Bool
  txDeclared : TxMap → Bool
  txSize : TxMap → Nat
  pubInit : BridgePub → Bool

/-- The calls in the loop of `bridge_thread`. -/
inductive BridgeCall where
  | publish (pub : BridgePub)
  | mirror (map : TxMap) (rest : List TxMap)
  deriving DecidableEq

/-- The loop of `bridge_thread`; `k_sleep` leads back to its first call. -/
def BridgeCall.following : BridgeCall → BridgeCall
  | .publish .manualControl => .publish .mocap
  | .publish .mocap => .publish .inertialSample
  | .publish .inertialSample => .publish .odometry
  | .publish .odometry => .mirror .pwmSignalOutputs TxMap.all.tail
  | .mirror _ (map :: rest) => .mirror map rest
  | .mirror _ [] => .publish .manualControl

/-- The locals of `bridge_thread`. -/
structure BridgeThread where
  topics : BridgePub → Option Nat
  lastGeneration : BridgePub → UInt32
  next : BridgeCall

/-- A `zros_pub_update`, with the function that made it and whether `zros_pub_init` had
succeeded for the publisher. -/
structure BridgeUpdate where
  pub : BridgePub
  caller : BridgePub
  initialised : Bool
  message : ZrosMessage

/-- The state of the bridge, with the registry it shares and the zros topics it mirrors.
`updates` is a history variable, oldest first. -/
structure Bridge where
  registry : List CsynTopic
  zrosGeneration : TxMap → UInt32
  zrosMessage : TxMap → List UInt8
  txCsyn : TxMap → Option Nat
  txLastGeneration : TxMap → UInt32
  initialised : BridgePub → Bool
  gInertialSample : List UInt8
  gOdometry : List UInt8
  initCalled : Bool
  thread : Option BridgeThread
  updates : List BridgeUpdate

/-- Static storage, before `bridge_init`. -/
def Bridge.boot (image : BridgeImage) (registry : List CsynTopic) : Bridge where
  registry := registry
  zrosGeneration := fun _ => 0
  zrosMessage := fun map => List.replicate (image.txSize map) 0
  txCsyn := fun _ => none
  txLastGeneration := fun _ => 0
  initialised := fun _ => false
  gInertialSample := List.replicate image.layout.sizeofInertialSampleData 0
  gOdometry := List.replicate image.layout.sizeofOdometryData 0
  initCalled := false
  thread := none
  updates := []

section

variable (image : BridgeImage)

/-- `&topic_x != NULL ? csyn_topic_find(key) : NULL` -/
def BridgeImage.topicOf (registry : List CsynTopic) (pub : BridgePub) : Option Nat :=
  if image.declared pub then csynTopicFind registry (some pub.csynKey) else none

/-- The four `zros_pub_init` blocks of `bridge_init`: the publishers that were set up, and
`has_topics`, or `none` when one failed. -/
def initPubs (registry : List CsynTopic) :
    List BridgePub → (BridgePub → Bool) → Bool → Option Bool × (BridgePub → Bool)
  | [], initialised, hasTopics => (some hasTopics, initialised)
  | pub :: rest, initialised, hasTopics =>
      if (image.topicOf registry pub).isSome then
        if image.pubInit pub then initPubs registry rest (Function.update initialised pub true) true
        else (none, initialised)
      else initPubs registry rest initialised hasTopics

def BridgePub.all : List BridgePub := [.manualControl, .mocap, .inertialSample, .odometry]

/-- `bridge_init`, with the thread about to make its first call. -/
def bridgeInit (s : Bridge) : Bridge :=
  let txCsyn := fun map : TxMap => csynTopicFind s.registry (some map.csynKey)
  let hasTopics := TxMap.all.any fun map => image.txDeclared map && (txCsyn map).isSome
  let (rc, initialised) := initPubs image s.registry BridgePub.all s.initialised hasTopics
  { s with
    txCsyn := txCsyn
    initialised := initialised
    initCalled := true
    thread :=
      if rc = some true then
        some ⟨image.topicOf s.registry, fun _ => 0, .publish .manualControl⟩
      else none }

/-- `copy_csyn_topic` on a topic nobody writes meanwhile: the sample and the generation to
record. -/
def copyCsynTopicOnce (topic : CsynTopic) (bufSize : Nat) (lastGeneration : UInt32) :
    Option (List UInt8 × UInt32) :=
  let generation := csynTopicGeneration (some topic)
  if generation = 0 ∨ generation = lastGeneration then none
  else (csynTopicCopy topic bufSize).map fun copied => (copied.1, generation)

/-- The `topic == NULL || !copy_csyn_topic(..)` test the publish functions begin with. -/
def Bridge.copied (s : Bridge) (thread : BridgeThread) (pub : BridgePub) (bufSize : Nat) :
    Option (List UInt8 × BridgeThread) :=
  match thread.topics pub with
  | none => none
  | some i =>
      match s.registry[i]? with
      | none => none
      | some topic =>
          (copyCsynTopicOnce topic bufSize (thread.lastGeneration pub)).map fun copied =>
            (copied.1, { thread with
              lastGeneration := Function.update thread.lastGeneration pub copied.2 })

/-- `zros_pub_update` -/
def Bridge.zrosPubUpdate (s : Bridge) (pub caller : BridgePub) (message : ZrosMessage) : Bridge :=
  { s with updates := s.updates ++ [⟨pub, caller, s.initialised pub, message⟩] }

/-- A copy into a buffer replaces its first bytes. -/
def overwrite (buf bytes : List UInt8) : List UInt8 := bytes ++ buf.drop bytes.length

/-- `publish_manual_control_if_updated` -/
def Bridge.publishManualControlIfUpdated (s : Bridge) (thread : BridgeThread) (uptime : Int) :
    Bridge × BridgeThread :=
  match s.copied thread .manualControl sizeofManualControlData with
  | none => (s, thread)
  | some (buf, thread) =>
      match csynDecodeManualControl image.layout.manualControl buf with
      | none => (s, thread)
      | some (rc, valid) =>
          (s.zrosPubUpdate .manualControl .manualControl
            (.manualControl { rc := rc, valid := valid, stampMs := uptime }), thread)

/-- `publish_mocap_if_updated` -/
def Bridge.publishMocapIfUpdated (s : Bridge) (thread : BridgeThread) : Bridge × BridgeThread :=
  match s.copied thread .mocap image.config.flatbufferMaxSize with
  | none => (s, thread)
  | some (buf, thread) =>
      match csynDecodeMocapFrame image.reader buf image.config.mocapRigidBodyId with
      | none => (s, thread)
      | some body => (s.zrosPubUpdate .mocap .mocap (.mocap body), thread)

/-- `publish_inertial_sample_if_updated` -/
def Bridge.publishInertialSampleIfUpdated (s : Bridge) (thread : BridgeThread) :
    Bridge × BridgeThread :=
  match s.copied thread .inertialSample image.layout.sizeofInertialSampleData with
  | none => (s, thread)
  | some (buf, thread) =>
      let s := { s with gInertialSample := overwrite s.gInertialSample buf }
      if buf.length ≠ image.layout.sizeofInertialSampleData then (s, thread)
      else
        (s.zrosPubUpdate .inertialSample .inertialSample (.inertialSample s.gInertialSample),
          thread)

/-- The pose `publish_odometry_if_updated` derives from `g_odometry`. -/
def mocapFromOdometry (layout : BridgeLayout) (odometry : List UInt8) : CsynMocapRigidBody :=
  let view := layout.odometry
  let poseValid := view.flagPositionValid ||| view.flagAttitudeValid
  let flags := view.flags odometry
  { id := 0
    x := view.x odometry
    y := view.y odometry
    z := view.z odometry
    qw := view.qw odometry
    qx := view.qx odometry
    qy := view.qy odometry
    qz := view.qz odometry
    valid := flags &&& poseValid == poseValid && flags &&& view.flagLost == 0 }

/-- `publish_odometry_if_updated` -/
def Bridge.publishOdometryIfUpdated (s : Bridge) (thread : BridgeThread) :
    Bridge × BridgeThread :=
  match s.copied thread .odometry image.layout.sizeofOdometryData with
  | none => (s, thread)
  | some (buf, thread) =>
      let s := { s with gOdometry := overwrite s.gOdometry buf }
      if buf.length ≠ image.layout.sizeofOdometryData then (s, thread)
      else
        let s := s.zrosPubUpdate .odometry .odometry (.odometry s.gOdometry)
        if image.config.mocapSource = .odometry ∧ image.declared .mocap then
          (s.zrosPubUpdate .mocap .odometry (.mocap (mocapFromOdometry image.layout s.gOdometry)),
            thread)
        else (s, thread)

/-- `mirror_tx_if_updated`; `readOk` is `zros_topic_read` returning 0. -/
def Bridge.mirrorTxIfUpdated (s : Bridge) (map : TxMap) (readOk : Bool) : Bridge :=
  match image.txDeclared map, s.txCsyn map with
  | true, some i =>
      let generation := s.zrosGeneration map
      if generation = 0 ∨ generation = s.txLastGeneration map then s
      else if readOk then
        { s with
          registry := publishAt s.registry i (some (s.zrosMessage map))
          txLastGeneration := Function.update s.txLastGeneration map generation }
      else s
  | _, _ => s

/-- One call of the loop in `bridge_thread`. -/
def Bridge.call (s : Bridge) (thread : BridgeThread) (uptime : Int) (readOk : Bool) :
    Bridge × BridgeThread :=
  match thread.next with
  | .publish .manualControl => s.publishManualControlIfUpdated image thread uptime
  | .publish .mocap => s.publishMocapIfUpdated image thread
  | .publish .inertialSample => s.publishInertialSampleIfUpdated image thread
  | .publish .odometry => s.publishOdometryIfUpdated image thread
  | .mirror map _ => (s.mirrorTxIfUpdated image map readOk, thread)

inductive BridgeAction where
  | receive (topic : Nat) (buf : Option (List UInt8))
  | zrosUpdate (map : TxMap) (message : List UInt8)
  | init
  | call (uptime : Int) (readOk : Bool)

/-- `receive` is any `csyn_topic_publish` on a topic of the registry, by a transport or by the
application; `bridge_init` runs once. -/
def Bridge.step (s : Bridge) : BridgeAction → Option Bridge
  | .receive i buf => some { s with registry := publishAt s.registry i buf }
  | .zrosUpdate map message =>
      if image.txDeclared map ∧ message.length = image.txSize map then
        some { s with
          zrosGeneration :=
            Function.update s.zrosGeneration map (s.zrosGeneration map + 1)
          zrosMessage := Function.update s.zrosMessage map message }
      else none
  | .init => if s.initCalled then none else some (bridgeInit image s)
  | .call uptime readOk =>
      match s.thread with
      | none => none
      | some thread =>
          let after := s.call image thread uptime readOk
          some { after.1 with
            thread := some { after.2 with next := thread.next.following } }

end

end Csyn
