import Csyn.BridgeRefinement
import Csyn.Lib.LatestValue
import Csyn.StoreHistory

set_option autoImplicit false

/- What a call of a publish function hands to zros, exactly: the messages it makes of the sample
that it takes from its topic as a reader that polls it. -/
namespace Csyn

open LatestValue (Reader)

section

variable (image : BridgeImage)

/-- The messages that the publish function of `caller` hands to zros for a sample, each with its
publisher. -/
def BridgeImage.messages (caller : BridgePub) (uptime : Int) (bytes : List UInt8) :
    List (BridgePub × ZrosMessage) :=
  match caller with
  | .manualControl =>
      match csynDecodeManualControl image.layout.manualControl bytes with
      | none => []
      | some (rc, valid) =>
          [(.manualControl, .manualControl { rc := rc, valid := valid, stampMs := uptime })]
  | .mocap =>
      match csynDecodeMocapFrame image.reader bytes image.config.mocapRigidBodyId with
      | none => []
      | some body => [(.mocap, .mocap body)]
  | .inertialSample =>
      if bytes.length ≠ image.layout.sizeofInertialSampleData then []
      else [(.inertialSample, .inertialSample bytes)]
  | .odometry =>
      if bytes.length ≠ image.layout.sizeofOdometryData then []
      else
        (.odometry, .odometry bytes) ::
          if image.config.mocapSource = .odometry ∧ image.declared .mocap then
            [(.mocap, .mocap (mocapFromOdometry image.layout bytes))]
          else []

/-- The updates of a function that makes these messages. -/
def Bridge.updatesBy (s : Bridge) (caller : BridgePub) (messages : List (BridgePub × ZrosMessage)) :
    List BridgeUpdate :=
  messages.map fun message => ⟨message.1, caller, s.initialised message.1, message.2⟩

/-- What the function of `caller` handed to zros, oldest first. -/
def Bridge.handedBy (s : Bridge) (caller : BridgePub) : List (BridgePub × ZrosMessage) :=
  (s.updates.filter fun u => u.caller = caller).map fun u => (u.pub, u.message)

/-- What a call does after a copy. -/
structure BridgeImage.Publishes (s : Bridge) (pub : BridgePub) (uptime : Int) (bytes : List UInt8)
    (later : BridgeThread) (after : Bridge × BridgeThread) : Prop where
  thread : after.2 = later
  updates : after.1.updates = s.updates ++ s.updatesBy pub (image.messages pub uptime bytes)

end

section

variable {image : BridgeImage} {s : Bridge} {thread later : BridgeThread} {pub : BridgePub}
  {bytes : List UInt8}

theorem Bridge.publishManualControlIfUpdated_publishes (uptime : Int)
    (copied : s.copied thread .manualControl (image.bufSize .manualControl) = some (bytes, later)) :
    image.Publishes s .manualControl uptime bytes later
      (s.publishManualControlIfUpdated image thread uptime) := by
  unfold Bridge.publishManualControlIfUpdated
  rw [show s.copied thread .manualControl sizeofManualControlData = _ from copied]
  dsimp only
  cases decoded : csynDecodeManualControl image.layout.manualControl bytes with
  | none =>
      refine ⟨rfl, ?_⟩
      simp only [BridgeImage.messages, decoded, Bridge.updatesBy, List.map_nil, List.append_nil]
  | some decoding =>
      refine ⟨rfl, ?_⟩
      simp only [BridgeImage.messages, decoded]
      rfl

theorem Bridge.publishMocapIfUpdated_publishes (uptime : Int)
    (copied : s.copied thread .mocap (image.bufSize .mocap) = some (bytes, later)) :
    image.Publishes s .mocap uptime bytes later (s.publishMocapIfUpdated image thread) := by
  unfold Bridge.publishMocapIfUpdated
  rw [show s.copied thread .mocap image.config.flatbufferMaxSize = _ from copied]
  dsimp only
  cases decoded : csynDecodeMocapFrame image.reader bytes image.config.mocapRigidBodyId with
  | none =>
      refine ⟨rfl, ?_⟩
      simp only [BridgeImage.messages, decoded, Bridge.updatesBy, List.map_nil, List.append_nil]
  | some body =>
      refine ⟨rfl, ?_⟩
      simp only [BridgeImage.messages, decoded]
      rfl

theorem Bridge.publishInertialSampleIfUpdated_publishes (buffers : s.Buffers image) (uptime : Int)
    (copied : s.copied thread .inertialSample (image.bufSize .inertialSample) =
      some (bytes, later)) :
    image.Publishes s .inertialSample uptime bytes later
      (s.publishInertialSampleIfUpdated image thread) := by
  unfold Bridge.publishInertialSampleIfUpdated
  rw [show s.copied thread .inertialSample image.layout.sizeofInertialSampleData = _ from copied]
  dsimp only
  by_cases whole : bytes.length = image.layout.sizeofInertialSampleData
  · have same := overwrite_whole (whole.trans buffers.inertial.symm)
    rw [if_neg (not_not.mpr whole), same]
    refine ⟨rfl, ?_⟩
    simp only [BridgeImage.messages, whole, ne_eq, not_true_eq_false, ↓reduceIte]
    rfl
  · rw [if_pos whole]
    refine ⟨rfl, ?_⟩
    simp only [BridgeImage.messages, ne_eq, whole, not_false_eq_true, ↓reduceIte, Bridge.updatesBy,
      List.map_nil, List.append_nil]

theorem Bridge.publishOdometryIfUpdated_publishes (buffers : s.Buffers image) (uptime : Int)
    (copied : s.copied thread .odometry (image.bufSize .odometry) = some (bytes, later)) :
    image.Publishes s .odometry uptime bytes later
      (s.publishOdometryIfUpdated image thread) := by
  unfold Bridge.publishOdometryIfUpdated
  rw [show s.copied thread .odometry image.layout.sizeofOdometryData = _ from copied]
  dsimp only
  by_cases whole : bytes.length = image.layout.sizeofOdometryData
  · have same := overwrite_whole (whole.trans buffers.odometry.symm)
    rw [if_neg (not_not.mpr whole)]
    split
    · rename_i driven
      refine ⟨rfl, ?_⟩
      simp only [BridgeImage.messages, whole, ne_eq, not_true_eq_false, ↓reduceIte, driven,
        and_self, Bridge.zrosPubUpdate, Bridge.updatesBy, List.map_cons, List.map_nil,
        List.append_assoc, List.singleton_append, same]
    · rename_i other
      refine ⟨rfl, ?_⟩
      simp only [BridgeImage.messages, whole, ne_eq, not_true_eq_false, ↓reduceIte, other,
        Bridge.zrosPubUpdate, Bridge.updatesBy, List.map_cons, List.map_nil, same]
  · rw [if_pos whole]
    refine ⟨rfl, ?_⟩
    simp only [BridgeImage.messages, ne_eq, whole, not_false_eq_true, ↓reduceIte, Bridge.updatesBy,
      List.map_nil, List.append_nil]

/-- A publish function that copies a sample hands on its messages. -/
theorem Bridge.call_publishes (buffers : s.Buffers image) (calling : thread.next = .publish pub)
    (uptime : Int) (readOk : Bool)
    (copied : s.copied thread pub (image.bufSize pub) = some (bytes, later)) :
    image.Publishes s pub uptime bytes later (s.call image thread uptime readOk) := by
  unfold Bridge.call
  rw [calling]
  cases pub with
  | manualControl => exact Bridge.publishManualControlIfUpdated_publishes uptime copied
  | mocap => exact Bridge.publishMocapIfUpdated_publishes uptime copied
  | inertialSample => exact Bridge.publishInertialSampleIfUpdated_publishes buffers uptime copied
  | odometry => exact Bridge.publishOdometryIfUpdated_publishes buffers uptime copied

/-- One that copies nothing does nothing. -/
theorem Bridge.call_idle (calling : thread.next = .publish pub) (uptime : Int) (readOk : Bool)
    (uncopied : s.copied thread pub (image.bufSize pub) = none) :
    s.call image thread uptime readOk = (s, thread) := by
  unfold Bridge.call
  rw [calling]
  cases pub with
  | manualControl =>
      dsimp only
      rw [Bridge.publishManualControlIfUpdated,
        show s.copied thread .manualControl sizeofManualControlData = none from uncopied]
  | mocap =>
      dsimp only
      rw [Bridge.publishMocapIfUpdated,
        show s.copied thread .mocap image.config.flatbufferMaxSize = none from uncopied]
  | inertialSample =>
      dsimp only
      rw [Bridge.publishInertialSampleIfUpdated,
        show s.copied thread .inertialSample image.layout.sizeofInertialSampleData = none
          from uncopied]
  | odometry =>
      dsimp only
      rw [Bridge.publishOdometryIfUpdated,
        show s.copied thread .odometry image.layout.sizeofOdometryData = none from uncopied]

end

/-! The publish functions as readers. -/

/-- The function of `caller` has room for the sample. -/
def BridgeImage.hasRoom (image : BridgeImage) (caller : BridgePub) (bytes : List UInt8) : Bool :=
  bytes.length ≤ image.bufSize caller

/-- `copy_csyn_topic` polls the samples of its topic. -/
theorem StoreLog.Consistent.copyOnce {log : StoreLog} (valid : log.Consistent) (bufSize : Nat)
    (reader : Reader (List UInt8) Int) (written : reader.written = log.accepted) :
    copyCsynTopicOnce log.topic bufSize (UInt32.ofNat reader.seen) =
      (reader.due (2 ^ 32) fun bytes => bytes.length ≤ bufSize).map fun bytes =>
        (bytes, UInt32.ofNat reader.written.length) := by
  have number := valid.generation
  rw [← written] at number
  have stale : (log.topic.generation = 0 ∨ log.topic.generation = UInt32.ofNat reader.seen) ↔
      (reader.written.length % 2 ^ 32 = 0 ∨
        reader.written.length % 2 ^ 32 = reader.seen % 2 ^ 32) := by
    rw [number, Counter.reading_eq_iff]
    exact or_congr (Counter.reading_eq_iff _ 0) Iff.rfl
  unfold copyCsynTopicOnce csynTopicGeneration Reader.due
  dsimp only
  by_cases read : reader.written.length % 2 ^ 32 = 0 ∨
      reader.written.length % 2 ^ 32 = reader.seen % 2 ^ 32
  · rw [if_pos read, if_pos (stale.mpr read)]
    rfl
  · rw [if_neg read, if_neg (fun other => read (stale.mp other)), number]
    cases copied : csynTopicCopy log.topic bufSize with
    | some sample =>
        obtain ⟨bytes, generation⟩ := sample
        have room := (csynTopicCopy_cases copied).2.2.2.2
        obtain ⟨latest, -⟩ := valid.copied copied
        rw [written, latest, Option.filter_some, if_pos (decide_eq_true room)]
        rfl
    | none =>
        rcases valid.uncopied copied with turned | ⟨latest, last, long⟩
        · rw [← written] at turned
          exact absurd (Or.inl (Nat.mod_eq_zero_of_dvd turned)) read
        · rw [written, last, Option.filter_some,
            if_neg (by simpa only [decide_eq_true_eq, Nat.not_le] using long)]
          rfl

section

variable {image : BridgeImage} {s t : Bridge} {thread : BridgeThread} {caller : BridgePub}

/-- The messages of a call join those of its function. -/
theorem Bridge.handedBy_updatesBy {messages : List (BridgePub × ZrosMessage)}
    (updates : t.updates = s.updates ++ s.updatesBy caller messages) :
    t.handedBy caller = s.handedBy caller ++ messages := by
  have own : ∀ u ∈ s.updatesBy caller messages, decide (u.caller = caller) = true := by
    intro u member
    obtain ⟨message, -, rfl⟩ := List.mem_map.mp member
    exact decide_eq_true rfl
  unfold Bridge.handedBy
  rw [updates, List.filter_append, List.map_append, List.filter_eq_self.mpr own, Bridge.updatesBy,
    List.map_map]
  exact congrArg _ (List.map_id messages)

/-- Another call adds nothing to what the function of `caller` handed on. -/
theorem Bridge.call_handedBy (elsewhere : thread.next ≠ .publish caller) (uptime : Int)
    (readOk : Bool) :
    (s.call image thread uptime readOk).1.handedBy caller = s.handedBy caller := by
  obtain ⟨made, updates, because⟩ := (s.call_effect image thread uptime readOk).updates
  have others : (made.filter fun u => u.caller = caller) = [] := by
    apply List.filter_eq_nil_iff.mpr
    intro u member
    simp only [decide_eq_true_eq]
    rintro rfl
    exact elsewhere (because u member).calling
  unfold Bridge.handedBy
  rw [updates, List.filter_append, others, List.append_nil]

variable (image) in
/-- The copy of a publish function is a poll of its topic. -/
theorem BridgeImage.copied_reader {j : Nat} {topic : CsynTopic} {reader : Reader (List UInt8) Int}
    (bound : thread.topics caller = some j) (present : s.registry[j]? = some topic)
    (logged : (⟨topic, reader.written⟩ : StoreLog).Consistent)
    (position : thread.lastGeneration caller = UInt32.ofNat reader.seen) :
    s.copied thread caller (image.bufSize caller) =
      (reader.due (2 ^ 32) (image.hasRoom caller)).map fun bytes => (bytes, { thread with
        lastGeneration := Function.update thread.lastGeneration caller
          (UInt32.ofNat reader.written.length) }) := by
  unfold Bridge.copied
  rw [bound]
  dsimp only
  rw [present]
  dsimp only
  rw [position, logged.copyOnce (image.bufSize caller) reader rfl, Option.map_map]
  rfl

end

end Csyn
