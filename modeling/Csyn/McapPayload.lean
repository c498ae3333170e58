import Csyn.HostTypes

set_option autoImplicit false

/- The payload conversions of rust/src/types.rs undo each other. -/
namespace Csyn

/-- A slice that a byte list is built around. -/
theorem getRange_append (before middle after : List UInt8) {first last : Nat}
    (start : first = before.length) (stop : last = before.length + middle.length) :
    getRange (before ++ (middle ++ after)) first last = some middle := by
  subst start stop
  rw [getRange, if_pos ⟨Nat.le_add_right _ _, by simp only [List.length_append]; omega⟩,
    List.drop_left, Nat.add_sub_cancel_left, List.take_left]

/-- Unwrapping undoes wrapping at the payload's own size. -/
theorem unwrapFixedPayload_wrap {payload wrapped : List UInt8}
    (done : wrapFixedPayload payload = .ok wrapped) :
    unwrapFixedPayload wrapped payload.length = .ok payload := by
  unfold wrapFixedPayload at done
  dsimp only at done
  split at done
  · cases done
  · cases done
    generalize sized : LittleEndian.bytes32 (-(UInt32.ofNat (payload.length + 4))) = offset
    generalize object : LittleEndian.bytes16 (UInt16.ofNat (payload.length + 4)) = size
    have offsetLength : offset.length = 4 := by rw [← sized, LittleEndian.bytes32_length]
    have sizeLength : size.length = 2 := by rw [← object, LittleEndian.bytes16_length]
    rw [unwrapFixedPayload, sized, object, if_neg]
    · simp only [List.append_assoc, Except.ok.injEq]
      rw [← List.append_assoc (LittleEndian.bytes32 4), List.drop_left' (by
        simp only [List.length_append, LittleEndian.bytes32_length, offsetLength]), List.take_left]
    · simp only [not_or, not_not, List.append_assoc]
      refine ⟨?_, ?_, ?_, ?_, ?_, ?_⟩
      · simp only [List.length_append, LittleEndian.bytes32_length, LittleEndian.bytes16_length,
          offsetLength, sizeLength]
        omega
      · exact getRange_append [] (LittleEndian.bytes32 4) (offset ++ _) rfl rfl
      · exact getRange_append (LittleEndian.bytes32 4) offset _ rfl (by rw [offsetLength]; rfl)
      -- The three words behind the payload.
      · rw [← List.append_assoc, ← List.append_assoc]
        refine getRange_append _ _ _ ?_ ?_
        all_goals
          simp only [List.length_append, LittleEndian.bytes32_length, LittleEndian.bytes16_length,
            offsetLength]
          omega
      · rw [← List.append_assoc, ← List.append_assoc, ← List.append_assoc]
        refine getRange_append _ _ _ ?_ ?_
        all_goals
          simp only [List.length_append, LittleEndian.bytes32_length, LittleEndian.bytes16_length,
            offsetLength, sizeLength]
          omega
      · rw [← List.append_assoc, ← List.append_assoc, ← List.append_assoc, ← List.append_assoc,
          ← List.append_nil (LittleEndian.bytes16 4)]
        refine getRange_append _ _ _ ?_ ?_
        all_goals
          simp only [List.length_append, LittleEndian.bytes32_length, LittleEndian.bytes16_length,
            offsetLength, sizeLength]
          omega

/-- A payload between its wrapper's header and trailer. -/
def fixedWrapper (payload : List UInt8) : List UInt8 :=
  LittleEndian.bytes32 4 ++ LittleEndian.bytes32 (-(UInt32.ofNat (payload.length + 4))) ++
    payload ++ LittleEndian.bytes16 6 ++ LittleEndian.bytes16 (UInt16.ofNat (payload.length + 4)) ++
    LittleEndian.bytes16 4

theorem wrapFixedPayload_iff {payload wrapped : List UInt8} :
    wrapFixedPayload payload = .ok wrapped ↔
      payload.length ≤ 65531 ∧ wrapped = fixedWrapper payload := by
  unfold wrapFixedPayload
  dsimp only
  split
  · rename_i large
    constructor
    · rintro ⟨⟩
    · rintro ⟨small, -⟩
      omega
  · rename_i small
    rw [Except.ok.injEq]
    constructor
    · rintro rfl
      exact ⟨by omega, rfl⟩
    · rintro ⟨-, rfl⟩
      rfl

/-- A slice continues what precedes it. -/
theorem take_getRange {bytes middle : List UInt8} {first last : Nat}
    (slice : getRange bytes first last = some middle) :
    bytes.take last = bytes.take first ++ middle := by
  unfold getRange at slice
  split at slice
  · rename_i ordered
    rw [Option.some.injEq] at slice
    rw [← slice, ← List.take_add, Nat.add_sub_cancel' ordered.1]
  · cases slice

/-- What unwraps at a size is the wrapper of a payload of that size. -/
theorem unwrapFixedPayload_ok {wrapped payload : List UInt8} {expected : Nat}
    (done : unwrapFixedPayload wrapped expected = .ok payload) :
    payload.length = expected ∧ wrapped = fixedWrapper payload := by
  unfold unwrapFixedPayload at done
  dsimp only at done
  split at done
  · cases done
  · rename_i valid
    simp only [not_or, not_not] at valid
    obtain ⟨total, root, offset, vtableSize, objectSize, field⟩ := valid
    rw [Except.ok.injEq] at done
    have length : payload.length = expected := by
      rw [← done, List.length_take, List.length_drop, total]
      omega
    have inner : wrapped.take (expected + 8) = wrapped.take 8 ++ payload := by
      rw [← done, Nat.add_comm, List.take_add]
    have whole : wrapped = wrapped.take (expected + 14) := by
      rw [← total, List.take_length]
    refine ⟨length, ?_⟩
    rw [whole, take_getRange field, take_getRange objectSize, take_getRange vtableSize, inner,
      take_getRange offset, take_getRange root, fixedWrapper, length]
    rfl

theorem unwrapFixedPayload_iff {wrapped payload : List UInt8} {expected : Nat}
    (small : expected ≤ 65531) :
    unwrapFixedPayload wrapped expected = .ok payload ↔
      payload.length = expected ∧ wrapFixedPayload payload = .ok wrapped := by
  constructor
  · intro done
    obtain ⟨length, same⟩ := unwrapFixedPayload_ok done
    exact ⟨length, wrapFixedPayload_iff.mpr ⟨by rw [length]; exact small, same⟩⟩
  · rintro ⟨rfl, wrapped⟩
    exact unwrapFixedPayload_wrap wrapped

/-- Decoding accepts a fixed-layout payload only at its size. -/
def SynapseFbs.Sized (fbs : SynapseFbs) : Prop :=
  ∀ topic payload text, topic.fixedLayout = true →
    fbs.decodeTopicDebug topic payload = .ok text → topic.payloadSize = some payload.length

/-- Reading a payload back as the type it was written with. -/
theorem TopicType.mcapToZenohPayload_written {fbs : SynapseFbs} (sized : fbs.Sized)
    {known : TopicType} {payload data : List UInt8}
    (written : known.toMcapPayload fbs payload = .ok data) :
    known.mcapToZenohPayload fbs data = .ok payload ∧
      ∃ text, known.decode fbs payload = .ok text := by
  unfold TopicType.toMcapPayload at written
  split at written
  · cases written
  · rename_i text decoded
    refine ⟨?_, text, decoded⟩
    unfold TopicType.mcapToZenohPayload
    split at written
    · rename_i fixed
      have accepted : fbs.decodeTopicDebug known.topic payload = .ok text := by
        unfold TopicType.decode at decoded
        split at decoded
        · rename_i same
          rw [same, ← decoded]
        · cases decoded
      rw [if_pos fixed, sized known.topic payload text fixed accepted, Option.getD_some]
      exact unwrapFixedPayload_wrap written
    · rename_i rooted
      cases written
      rw [if_neg rooted, decoded]

/-- Payload conversion is a bijection onto its image: every accepted payload comes back, and a
wrapper unwraps at a size exactly when it is the wrapper of a payload of that size. -/
theorem mcap_payload_round_trip (fbs : SynapseFbs) (sized : fbs.Sized) :
    (∀ (known : TopicType) (payload data : List UInt8),
      known.toMcapPayload fbs payload = .ok data →
        known.mcapToZenohPayload fbs data = .ok payload) ∧
      ∀ (expected : Nat) (wrapped payload : List UInt8), expected ≤ 65531 →
        (unwrapFixedPayload wrapped expected = .ok payload ↔
          payload.length = expected ∧ wrapFixedPayload payload = .ok wrapped) :=
  ⟨fun _ _ _ written => (TopicType.mcapToZenohPayload_written sized written).1,
    fun _ _ _ small => unwrapFixedPayload_iff small⟩

/-- One fixed-layout topic of eight bytes and one table topic. -/
def metricsTopic : TopicInfo where
  id := 3
  name := str "ControlLoopMetrics"
  key := str "loop"
  rootTable := str "synapse.topic.ControlLoopMetrics"
  encoding := str "struct"
  wireType := str "synapse.topic.ControlLoopMetricsData"
  schemaHash := str "00112233445566778899aabbccddeeff"
  schemaFile := str "loop.fbs"
  mcapSchemaName := str "synapse.topic.ControlLoopMetrics"
  fixedLayout := true
  payloadSize := some 8

def statusTopic : TopicInfo where
  id := 4
  name := str "TextStatus"
  key := str "text"
  rootTable := str "synapse.topic.TextStatus"
  encoding := str "flatbuffer"
  wireType := str "synapse.topic.TextStatus"
  schemaHash := str "ffeeddccbbaa99887766554433221100"
  schemaFile := str "text.fbs"
  mcapSchemaName := str "synapse.topic.TextStatus"
  fixedLayout := false
  payloadSize := none

def metricsFbs : SynapseFbs where
  topics := [metricsTopic, statusTopic]
  topicByKey := fun key => [metricsTopic, statusTopic].find? fun topic => topic.key == key
  topicForEncoding := fun _ => .error (str "unknown value contract")
  decodeTopicDebug := fun topic payload =>
    if topic.fixedLayout = false ∨ topic.payloadSize = some payload.length then .ok []
    else .error (str "payload size")
  schemaByName := fun name => ⟨name⟩
  tableU64 := fun _ _ => none

theorem metricsFbs_sized : metricsFbs.Sized := by
  intro topic payload text fixed decoded
  change (if topic.fixedLayout = false ∨ topic.payloadSize = some payload.length then
    Except.ok [] else .error (str "payload size")) = .ok text at decoded
  split at decoded
  · rename_i accepted
    exact accepted.resolve_left (by rw [fixed]; exact Bool.noConfusion)
  · cases decoded

theorem mcap_payload_round_trip_metrics :
    ∃ data, (TopicType.fromTopic metricsFbs metricsTopic).toMcapPayload metricsFbs
        [1, 2, 3, 4, 5, 6, 7, 8] = .ok data ∧ data.length = 22 ∧
      (TopicType.fromTopic metricsFbs metricsTopic).mcapToZenohPayload metricsFbs data =
        .ok [1, 2, 3, 4, 5, 6, 7, 8] ∧
      unwrapFixedPayload data 8 = .ok [1, 2, 3, 4, 5, 6, 7, 8] := by
  obtain ⟨back, exact_⟩ := mcap_payload_round_trip metricsFbs metricsFbs_sized
  exact ⟨_, rfl, rfl, back _ _ _ rfl, (exact_ 8 _ _ (by decide)).mpr ⟨rfl, rfl⟩⟩

end Csyn
