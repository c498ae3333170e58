import Csyn.BridgeProvenance
import Csyn.BridgeRefinement
import Csyn.MocapFrames

set_option autoImplicit false

/- Whether a pose that is marked valid is finite, on the three ways it can reach zros. -/
namespace Csyn

/-- The seven floats of a pose. -/
def CsynMocapRigidBody.floats (body : CsynMocapRigidBody) : List UInt32 :=
  [body.x, body.y, body.z, body.qw, body.qx, body.qy, body.qz]

def MocapRigidBodyPoseData.floats (body : MocapRigidBodyPoseData) : List UInt32 :=
  [body.x, body.y, body.z, body.qw, body.qx, body.qy, body.qz]

def OdometryData.floats (view : OdometryData) (odometry : List UInt8) : List UInt32 :=
  [view.x odometry, view.y odometry, view.z odometry, view.qw odometry, view.qx odometry,
    view.qy odometry, view.qz odometry]

/-- The body of a frame is finite, or the frame does not mark it valid. -/
def MocapPoseFrame.FiniteBody (reader : MocapPoseFrame) (body : MocapRigidBodyPoseData) : Prop :=
  body.flags &&& reader.rawFlagsValid ≠ 0 → ∀ bits ∈ body.floats, isfinite bits = true

/-- The pose of an odometry sample is finite, or its flags do not say that it is valid. -/
def OdometryData.FinitePose (view : OdometryData) (odometry : List UInt8) : Prop :=
  view.flags odometry &&& (view.flagPositionValid ||| view.flagAttitudeValid) =
      view.flagPositionValid ||| view.flagAttitudeValid →
    view.flags odometry &&& view.flagLost = 0 →
    ∀ bits ∈ view.floats odometry, isfinite bits = true

/-- The samples that the bridge makes no valid pose of that is not finite: on the mocap topic
every frame is finite in the body that is selected; on the odometry topic, where that is the
source of the pose, every sample is. Samples the store or the bridge refuses do not count. -/
structure BridgeImage.FiniteSample (image : BridgeImage) (registry : List CsynTopic) (i : Nat)
    (bytes : List UInt8) : Prop where
  frame : image.topicOf registry .mocap = some i →
    (∃ topic : CsynTopic, registry[i]? = some topic ∧ topic.accepts (some bytes) = true) →
    bytes.length ≤ image.config.flatbufferMaxSize → bytes.length ≠ csynMocapCompactPoseSize →
    image.reader.verifyAsRoot bytes = 0 →
    ∀ body, Selected image.config.mocapRigidBodyId (image.reader.bodies bytes) body →
      image.reader.FiniteBody body
  odometry : image.topicOf registry .odometry = some i →
    (∃ topic : CsynTopic, registry[i]? = some topic ∧ topic.accepts (some bytes) = true) →
    image.config.mocapSource = .odometry → image.declared .mocap = true →
    bytes.length = image.layout.sizeofOdometryData → image.layout.odometry.FinitePose bytes

/-- A pose that is marked valid has seven finite floats. -/
def CsynMocapRigidBody.ValidFinite (body : CsynMocapRigidBody) : Prop :=
  body.valid = true → ∀ bits ∈ body.floats, isfinite bits = true

theorem csynDecodeCompactPose_finite {buf : List UInt8} {body : CsynMocapRigidBody}
    (decoded : csynDecodeCompactPose buf = some body) : body.ValidFinite := by
  have finite := (csynDecodeCompactPose_isSome buf).mp (Option.isSome_of_eq_some decoded)
  unfold csynDecodeCompactPose at decoded
  dsimp only at decoded
  split at decoded
  · cases decoded
    intro _ bits member
    -- The quaternion is stored scalar last.
    simp only [CsynMocapRigidBody.floats, List.mem_cons, List.not_mem_nil, or_false] at member
    rcases member with rfl | rfl | rfl | rfl | rfl | rfl | rfl
    · exact finite 0 (by decide)
    · exact finite 1 (by decide)
    · exact finite 2 (by decide)
    · exact finite 6 (by decide)
    · exact finite 3 (by decide)
    · exact finite 4 (by decide)
    · exact finite 5 (by decide)
  · cases decoded

theorem MocapPoseFrame.FiniteBody.rigidBody {reader : MocapPoseFrame}
    {body : MocapRigidBodyPoseData} (finite : reader.FiniteBody body) :
    (reader.rigidBody body).ValidFinite := by
  intro flagged
  exact finite (bne_iff_ne.mp flagged)

theorem OdometryData.FinitePose.mocapFromOdometry {layout : BridgeLayout} {bytes : List UInt8}
    (finite : layout.odometry.FinitePose bytes) :
    (mocapFromOdometry layout bytes).ValidFinite := by
  intro flagged
  obtain ⟨valid, lost⟩ := (Bool.and_eq_true _ _).mp flagged
  exact finite (beq_iff_eq.mp valid) (beq_iff_eq.mp lost)

/-- A decoded mocap sample is a compact pose or the selected body of a frame that verifies. -/
theorem csynDecodeMocapFrame_cases {reader : MocapPoseFrame} {buf : List UInt8} {bodyId : Int}
    {rb : CsynMocapRigidBody} (decoded : csynDecodeMocapFrame reader buf bodyId = some rb) :
    csynDecodeCompactPose buf = some rb ∨
      (buf.length ≠ csynMocapCompactPoseSize ∧ reader.verifyAsRoot buf = 0 ∧
        ∃ body, Selected bodyId (reader.bodies buf) body ∧ rb = reader.rigidBody body) := by
  by_cases long : buf.length < 8
  · rw [csynDecodeMocapFrame, if_pos long] at decoded
    cases decoded
  · by_cases compact : buf.length = csynMocapCompactPoseSize
    · rw [csynDecodeMocapFrame, if_neg long, if_pos compact] at decoded
      exact Or.inl decoded
    · by_cases verified : reader.verifyAsRoot buf = 0
      · rw [csynDecodeMocapFrame_frame verified (Nat.not_lt.mp long) compact] at decoded
        exact Or.inr ⟨compact, verified, selected_of_selectBody decoded⟩
      · rw [csynDecodeMocapFrame, if_neg long, if_neg compact, if_pos verified] at decoded
        cases decoded

section

variable {image : BridgeImage} {registry : List CsynTopic}

/-- What every run with such samples keeps. -/
structure Bridge.FinitePoses (image : BridgeImage) (registry : List CsynTopic) (s : Bridge) :
    Prop where
  sound : s.Sound image registry
  buffers : s.Buffers image
  fed : s.Fed registry (image.FiniteSample registry)
  finite : ∀ u ∈ s.updates, ∀ body, u.message = .mocap body → body.ValidFinite

/-- What a call hands on as a pose is finite. -/
theorem Bridge.FinitePoses.decodes {s : Bridge} {thread later : BridgeThread} {u : BridgeUpdate}
    {bytes : List UInt8} {body : CsynMocapRigidBody} (valid : s.FinitePoses image registry)
    (running : s.thread = some thread)
    (derives : u.caller = .odometry → u.pub = .mocap → image.declared .mocap = true)
    (copied : s.copied thread u.caller (image.bufSize u.caller) = some (bytes, later))
    (decodes : image.Decodes bytes u.caller u.pub u.message) (pose : u.message = .mocap body) :
    body.ValidFinite := by
  obtain ⟨i, bound, allowed, topic⟩ := valid.fed.copied valid.sound running copied
  have room := Bridge.copied_room copied
  obtain ⟨pub, caller, initialised, message⟩ := u
  dsimp only at derives bound room decodes pose
  cases decodes with
  | sample topic uptime decoded =>
      -- No sample of one size is a pose.
      subst pose
      unfold RxTopic.decode at decoded
      split at decoded
      · cases decoded
      · cases topic with
        | manual => obtain ⟨_, -, ⟨⟩⟩ := Option.map_eq_some_iff.mp decoded
        | imu => cases decoded
        | odom => cases decoded
  | mocap decoded =>
      cases pose
      rcases csynDecodeMocapFrame_cases decoded with
        compact | ⟨size, verified, found, selected, rfl⟩
      · exact csynDecodeCompactPose_finite compact
      · exact (allowed.frame bound topic room size verified found selected).rigidBody
  | derived whole source =>
      cases pose
      exact (allowed.odometry bound topic source (derives rfl rfl) whole).mocapFromOdometry

theorem Bridge.step_finitePoses (s : Bridge) (action : BridgeAction) (t : Bridge)
    (taken : s.step image action = some t)
    (offers : ∀ i bytes, action.Feeds registry i bytes → image.FiniteSample registry i bytes)
    (valid : s.FinitePoses image registry) : t.FinitePoses image registry := by
  obtain ⟨buffers, messages⟩ := Bridge.step_handsOn taken valid.buffers
  refine ⟨Bridge.step_sound taken valid.sound, buffers,
    Bridge.step_fed taken valid.sound offers valid.fed, ?_⟩
  intro u member body pose
  rcases messages u member with earlier | ⟨thread, bytes, later, running, copied, decodes⟩
  · exact valid.finite u earlier body pose
  · rcases Bridge.step_updates taken member with earlier | ⟨_, -, -, -, _, _, -, origin⟩
    · exact valid.finite u earlier body pose
    · refine valid.decodes running ?_ copied decodes pose
      intro caller pub
      rcases origin with ⟨own, -⟩ | ⟨-, -, -, declared, -⟩
      · rw [pub, caller] at own
        cases own
      · exact declared

end

/-- In every run on such samples, every pose that zros is handed as valid is finite. -/
theorem valid_pose_finite (image : BridgeImage) (synapseTopicByKey : Str → Option SynapseTopicInfo)
    (declarations : List TopicDeclaration) (schedule : List BridgeAction) (s : Bridge)
    (reached : Automaton.run (Bridge.step image)
      (.boot image (bootRegistry synapseTopicByKey declarations)) schedule = some s)
    (samples : ∀ action ∈ schedule, ∀ i bytes,
      action.Feeds (bootRegistry synapseTopicByKey declarations) i bytes →
        image.FiniteSample (bootRegistry synapseTopicByKey declarations) i bytes) :
    ∀ u ∈ s.updates, ∀ body, u.message = .mocap body → body.ValidFinite := by
  refine (Automaton.run_invariant_of_labels _ Bridge.step_finitePoses reached samples
    ⟨Bridge.boot_sound bootRegistry_bounded, Bridge.boot_buffers _ _,
      Bridge.boot_fed bootRegistry_unwritten, ?_⟩).finite
  rintro u ⟨⟩

def mocapCatalog (key : Str) : Option SynapseTopicInfo :=
  if key = str "mocap" then
    some ⟨5, str "MocapPoseFrame", str "mocap", 0, some (str "synapse.topic.MocapPoseFrame"),
      some (str "ffeeddccbbaa99887766554433221100"), false⟩
  else none

def frameTopics : List TopicDeclaration := [⟨str "mocap", .rx, 128⟩]

/-- An application that takes its poses from frames. -/
def frameBridge : BridgeImage where
  config := Kconfig.default
  layout := sampleLayout
  reader := flatReader
  declared := fun pub => pub == .mocap
  txDeclared := fun _ => false
  txSize := fun _ => 0
  pubInit := fun _ => true

theorem valid_pose_finite_one_body :
    ∃ s, Automaton.run (Bridge.step frameBridge)
        (.boot frameBridge (bootRegistry mocapCatalog frameTopics))
        [.init, .receive 0 (some oneBodyFrame), .call 0 true, .call 0 true] = some s ∧
      s.updates = [⟨.mocap, .mocap, true, .mocap ⟨7, 0, 0, 0, 0, 0, 0, 0, true⟩⟩] ∧
      ∀ u ∈ s.updates, ∀ body, u.message = .mocap body → body.ValidFinite := by
  refine ⟨_, rfl, rfl, valid_pose_finite frameBridge mocapCatalog frameTopics
    [.init, .receive 0 (some oneBodyFrame), .call 0 true, .call 0 true] _ rfl ?_⟩
  intro action member i bytes feeds
  simp only [List.mem_cons, List.not_mem_nil, or_false] at member
  rcases member with rfl | rfl | rfl | rfl
  · cases feeds
  · obtain ⟨rfl, same⟩ := feeds
    rw [Option.some.injEq] at same
    subst same
    refine ⟨fun _ _ _ _ _ body selected _ => ?_, by rintro ⟨⟩⟩
    obtain ⟨before, after, bodies, -, -⟩ := selected
    have listed : [⟨7, 1, 0, 0, 0, 0, 0, 0, 0⟩] = before ++ body :: after := bodies
    have member : body ∈ before ++ body :: after := List.mem_append_right _ List.mem_cons_self
    rw [← listed] at member
    rw [List.mem_singleton.mp member]
    have zeros : ∀ bits ∈ List.replicate 7 (0 : UInt32), isfinite bits = true := by
      intro bits inside
      rw [List.eq_of_mem_replicate inside]
      rfl
    exact zeros
  · cases feeds
  · cases feeds

/-- One body, marked valid, whose x is not a number. -/
def nanFrame : List UInt8 :=
  oneBodyFrame.take 32 ++ [0, 0, 192, 127] ++ oneBodyFrame.drop 36

theorem valid_pose_not_finite :
    ∃ s, Automaton.run (Bridge.step frameBridge)
        (.boot frameBridge (bootRegistry mocapCatalog frameTopics))
        [.init, .receive 0 (some nanFrame), .call 0 true, .call 0 true] = some s ∧
      ∃ u ∈ s.updates, ∃ body, u.message = .mocap body ∧ ¬ body.ValidFinite := by
  refine ⟨_, rfl, ⟨.mocap, .mocap, true, .mocap ⟨7, 0x7fc00000, 0, 0, 0, 0, 0, 0, true⟩⟩,
    List.mem_singleton_self _, _, rfl, ?_⟩
  intro finite
  exact absurd (finite rfl 0x7fc00000 List.mem_cons_self) (by decide)

end Csyn
