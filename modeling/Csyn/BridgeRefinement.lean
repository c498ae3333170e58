import Csyn.BridgeSteps
import Csyn.StoreSequential

set_option autoImplicit false

/- The bridge's calls against the models below them: `copy_csyn_topic` against the poller that
moves byte by byte, and the messages against the decoders. -/
namespace Csyn

section

variable {rule : PollRule} {s t : Polling}

/-- The poller inside its copy. -/
def Polling.inCopy (s : Polling) (generation : UInt32) : CopyNext → Polling
  | .running pc buf => { s with poller := { s.poller with
      pc := .copying generation pc
      buf := buf } }
  | .failed buf => { s with poller := { s.poller with
      pc := .idle
      buf := buf } }
  | .copied length sample buf => { s with poller := { s.poller with
      pc := .copied generation length sample
      buf := buf } }

theorem Polling.step_inCopy (generation : UInt32) (at_ : CopyNext) (action : CopyAction) :
    (s.inCopy generation at_).step rule (.copy action) =
      (copyAlone s.store.topic rule.bufSize at_ action).map (s.inCopy generation) := by
  cases at_ with
  | running pc buf =>
      unfold Polling.step Polling.inCopy copyAlone
      dsimp only
      cases copyStep s.store.topic rule.bufSize pc buf action with
      | none => rfl
      | some next => cases next <;> rfl
  | failed buf => rfl
  | copied length sample buf => rfl

/-- A poll that nothing disturbs hands on what the sequential `copy_csyn_topic` returns, and
records the generation it returns. -/
theorem Polling.poll_undisturbed {scratch : ByteMemory} {actions : List CopyAction} {sent : Bool}
    (idle : s.poller.pc = .idle)
    (ran : Automaton.run (Polling.step rule) s
      (.poll scratch :: (actions.map .copy ++ [.hand sent])) = some t) :
    ∃ bytes generation h,
      copyCsynTopicOnce s.store.topic rule.bufSize s.poller.lastGeneration =
        some (bytes, generation) ∧
      t.handed = s.handed ++ [h] ∧ h.buf.load 0 h.length.toNat = bytes ∧ h.sent = sent ∧
      t.poller.lastGeneration =
        (if rule.records sent then generation else s.poller.lastGeneration) := by
  obtain ⟨called, first, rest⟩ := (Automaton.run_cons_some _).mp ran
  obtain ⟨copied, moved, last⟩ := (Automaton.run_append_some _).mp rest
  obtain ⟨final, handed, done⟩ := (Automaton.run_cons_some _).mp last
  cases done
  unfold Polling.step at first
  rw [idle] at first
  dsimp only [csynTopicGeneration] at first
  split at first
  · -- Nothing to do: the poller stays idle, so it copies and hands on nothing.
    cases first
    exfalso
    cases actions with
    | nil =>
        cases moved
        unfold Polling.step at handed
        rw [idle] at handed
        cases handed
    | cons action later =>
        obtain ⟨next, stepped, -⟩ := (Automaton.run_cons_some _).mp moved
        unfold Polling.step at stepped
        rw [idle] at stepped
        cases stepped
  · rename_i due
    rw [not_or, not_or] at due
    cases first
    let buf := if rule.staticBuf then s.poller.buf else scratch
    have simulated : Automaton.run (Polling.step rule)
        (s.inCopy s.store.topic.generation (.running .atLoop buf)) (actions.map .copy) =
          (Automaton.run (copyAlone s.store.topic rule.bufSize) (.running .atLoop buf)
            actions).map (s.inCopy s.store.topic.generation) :=
      Automaton.run_map _ _ (Polling.step_inCopy _) _ _
    obtain ⟨next, alone, same⟩ := Option.map_eq_some_iff.mp (simulated.symm.trans moved)
    subst same
    cases next with
    | running pc buf => cases handed
    | failed buf => cases handed
    | copied length sample after =>
        cases handed
        have copying := copyAlone_undisturbed alone
        cases copying with
        | copied returned =>
            refine ⟨_, s.store.topic.generation, _, ?_, rfl, rfl, rfl, rfl⟩
            unfold copyCsynTopicOnce csynTopicGeneration
            dsimp only
            rw [if_neg (not_or.mpr due.2), returned]
            rfl

end

/-! The messages. -/

section

variable {image : BridgeImage}

/-- The publisher of an inbound topic with samples of one size. -/
def RxTopic.pub : RxTopic → BridgePub
  | .manual => .manualControl
  | .imu => .inertialSample
  | .odom => .odometry

/-- The messages a function makes of a sample it copied, each with its publisher: the decoded
sample, and the pose derived from an odometry sample. -/
inductive BridgeImage.Decodes (image : BridgeImage) (bytes : List UInt8) :
    BridgePub → BridgePub → ZrosMessage → Prop
  | sample {message : ZrosMessage} (topic : RxTopic) (uptime : Int)
      (decoded : topic.decode image.layout uptime bytes = some message) :
      Decodes image bytes topic.pub topic.pub message
  | mocap {body : CsynMocapRigidBody}
      (decoded : csynDecodeMocapFrame image.reader bytes image.config.mocapRigidBodyId =
        some body) :
      Decodes image bytes .mocap .mocap (.mocap body)
  | derived (whole : bytes.length = image.layout.sizeofOdometryData)
      (source : image.config.mocapSource = .odometry) :
      Decodes image bytes .odometry .mocap (.mocap (mocapFromOdometry image.layout bytes))

/-- The static buffers keep the size of their messages. -/
structure Bridge.Buffers (image : BridgeImage) (s : Bridge) : Prop where
  inertial : s.gInertialSample.length = image.layout.sizeofInertialSampleData
  odometry : s.gOdometry.length = image.layout.sizeofOdometryData

theorem overwrite_length {buf bytes : List UInt8} (room : bytes.length ≤ buf.length) :
    (overwrite buf bytes).length = buf.length := by
  rw [overwrite, List.length_append, List.length_drop]
  omega

/-- A sample as long as the buffer is what the buffer then holds. -/
theorem overwrite_whole {buf bytes : List UInt8} (whole : bytes.length = buf.length) :
    overwrite buf bytes = bytes := by
  rw [overwrite, whole, List.drop_length, List.append_nil]

theorem Bridge.copied_room {s : Bridge} {thread after : BridgeThread} {pub : BridgePub}
    {bufSize : Nat} {bytes : List UInt8}
    (copied : s.copied thread pub bufSize = some (bytes, after)) : bytes.length ≤ bufSize := by
  obtain ⟨⟨i, topic, generation, -, -, copy⟩, -, -⟩ := Bridge.copied_some copied
  exact (csynTopicCopy_cases copy).2.2.2.2

/-- What a call hands on is decoded from the sample it copied. -/
structure BridgeImage.HandsOn (image : BridgeImage) (s : Bridge) (thread : BridgeThread)
    (after : Bridge) : Prop where
  buffers : after.Buffers image
  messages : ∀ u ∈ after.updates, u ∈ s.updates ∨
    ∃ bytes later, s.copied thread u.caller (image.bufSize u.caller) = some (bytes, later) ∧
      image.Decodes bytes u.caller u.pub u.message

theorem BridgeImage.HandsOn.idle {s : Bridge} {thread : BridgeThread}
    (buffers : s.Buffers image) : image.HandsOn s thread s :=
  ⟨buffers, fun _ earlier => Or.inl earlier⟩

/-- One more update. -/
theorem BridgeImage.HandsOn.update {s after : Bridge} {thread later : BridgeThread}
    {pub caller : BridgePub} {message : ZrosMessage} {bytes : List UInt8}
    (handsOn : image.HandsOn s thread after)
    (copied : s.copied thread caller (image.bufSize caller) = some (bytes, later))
    (decodes : image.Decodes bytes caller pub message) :
    image.HandsOn s thread (after.zrosPubUpdate pub caller message) := by
  refine ⟨⟨handsOn.buffers.inertial, handsOn.buffers.odometry⟩, ?_⟩
  intro u member
  rcases List.mem_append.mp member with earlier | new
  · exact handsOn.messages u earlier
  · rw [List.mem_singleton.mp new]
    exact Or.inr ⟨bytes, later, copied, decodes⟩

section

variable {s : Bridge}

theorem Bridge.publishManualControlIfUpdated_handsOn (buffers : s.Buffers image)
    (thread : BridgeThread) (uptime : Int) :
    image.HandsOn s thread (s.publishManualControlIfUpdated image thread uptime).1 := by
  have idle : image.HandsOn s thread s := .idle buffers
  unfold Bridge.publishManualControlIfUpdated
  split
  · exact idle
  · rename_i buf later copied
    split
    · exact idle
    · rename_i rc valid decoded
      refine idle.update copied (.sample .manual uptime ?_)
      have whole := (csynDecodeManualControl_isSome _ _).mp (Option.isSome_of_eq_some decoded)
      refine (if_neg (not_not.mpr whole)).trans ?_
      dsimp only
      rw [decoded]
      rfl

theorem Bridge.publishMocapIfUpdated_handsOn (buffers : s.Buffers image)
    (thread : BridgeThread) :
    image.HandsOn s thread (s.publishMocapIfUpdated image thread).1 := by
  have idle : image.HandsOn s thread s := .idle buffers
  unfold Bridge.publishMocapIfUpdated
  split
  · exact idle
  · rename_i buf later copied
    split
    · exact idle
    · rename_i body decoded
      exact idle.update copied (.mocap decoded)

theorem Bridge.publishInertialSampleIfUpdated_handsOn (buffers : s.Buffers image)
    (thread : BridgeThread) (uptime : Int) :
    image.HandsOn s thread (s.publishInertialSampleIfUpdated image thread).1 := by
  have idle : image.HandsOn s thread s := .idle buffers
  unfold Bridge.publishInertialSampleIfUpdated
  split
  · exact idle
  · rename_i buf later copied
    have room : buf.length ≤ s.gInertialSample.length :=
      buffers.inertial ▸ Bridge.copied_room copied
    have written : image.HandsOn s thread
        { s with gInertialSample := overwrite s.gInertialSample buf } :=
      ⟨⟨(overwrite_length room).trans buffers.inertial, buffers.odometry⟩, idle.messages⟩
    dsimp only
    split
    · exact written
    · rename_i whole
      rw [not_not] at whole
      refine written.update copied (.sample .imu uptime ?_)
      rw [overwrite_whole (whole.trans buffers.inertial.symm)]
      exact if_neg (not_not.mpr whole)

theorem Bridge.publishOdometryIfUpdated_handsOn (buffers : s.Buffers image)
    (thread : BridgeThread) (uptime : Int) :
    image.HandsOn s thread (s.publishOdometryIfUpdated image thread).1 := by
  have idle : image.HandsOn s thread s := .idle buffers
  unfold Bridge.publishOdometryIfUpdated
  split
  · exact idle
  · rename_i buf later copied
    have room : buf.length ≤ s.gOdometry.length :=
      buffers.odometry ▸ Bridge.copied_room copied
    have written : image.HandsOn s thread { s with gOdometry := overwrite s.gOdometry buf } :=
      ⟨⟨buffers.inertial, (overwrite_length room).trans buffers.odometry⟩, idle.messages⟩
    dsimp only
    split
    · exact written
    · rename_i whole
      rw [not_not] at whole
      have same := overwrite_whole (whole.trans buffers.odometry.symm)
      have published : image.HandsOn s thread (Bridge.zrosPubUpdate
          { s with gOdometry := overwrite s.gOdometry buf } .odometry .odometry
          (.odometry (overwrite s.gOdometry buf))) := by
        refine written.update copied (.sample .odom uptime ?_)
        rw [same]
        exact if_neg (not_not.mpr whole)
      split
      · rename_i driven
        refine published.update copied ?_
        dsimp only [Bridge.zrosPubUpdate]
        rw [same]
        exact .derived whole driven.1
      · exact published

theorem Bridge.call_messages (buffers : s.Buffers image) (thread : BridgeThread)
    (uptime : Int) (readOk : Bool) :
    image.HandsOn s thread (s.call image thread uptime readOk).1 := by
  have idle : image.HandsOn s thread s := .idle buffers
  unfold Bridge.call
  split
  · exact Bridge.publishManualControlIfUpdated_handsOn buffers thread uptime
  · exact Bridge.publishMocapIfUpdated_handsOn buffers thread
  · exact Bridge.publishInertialSampleIfUpdated_handsOn buffers thread uptime
  · exact Bridge.publishOdometryIfUpdated_handsOn buffers thread uptime
  · unfold Bridge.mirrorTxIfUpdated
    split
    · dsimp only
      split
      · exact idle
      · split
        · exact ⟨⟨buffers.inertial, buffers.odometry⟩, idle.messages⟩
        · exact idle
    · exact idle

end

theorem Bridge.boot_buffers (image : BridgeImage) (registry : List CsynTopic) :
    (Bridge.boot image registry).Buffers image :=
  ⟨List.length_replicate, List.length_replicate⟩

/-- An update is an earlier one or decoded from the sample that a call copied. -/
theorem Bridge.step_handsOn {s t : Bridge} {action : BridgeAction}
    (taken : s.step image action = some t) (buffers : s.Buffers image) :
    t.Buffers image ∧ ∀ u ∈ t.updates, u ∈ s.updates ∨ ∃ thread bytes later,
      s.thread = some thread ∧
      s.copied thread u.caller (image.bufSize u.caller) = some (bytes, later) ∧
      image.Decodes bytes u.caller u.pub u.message := by
  rcases Bridge.step_cases taken with ⟨_, _, -, rfl⟩ | ⟨_, _, rfl⟩ | ⟨-, -, rfl⟩ |
    ⟨thread, uptime, readOk, -, running, rfl⟩
  · exact ⟨⟨buffers.inertial, buffers.odometry⟩, fun _ => Or.inl⟩
  · exact ⟨⟨buffers.inertial, buffers.odometry⟩, fun _ => Or.inl⟩
  · exact ⟨⟨buffers.inertial, buffers.odometry⟩, fun _ => Or.inl⟩
  · obtain ⟨kept, messages⟩ := Bridge.call_messages buffers thread uptime readOk
    refine ⟨⟨kept.inertial, kept.odometry⟩, ?_⟩
    intro u member
    rcases messages u member with earlier | ⟨bytes, later, copied, decodes⟩
    · exact Or.inl earlier
    · exact Or.inr ⟨thread, bytes, later, running, copied, decodes⟩

end

end Csyn
