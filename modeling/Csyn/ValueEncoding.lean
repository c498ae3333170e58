import Csyn.HostTypes

set_option autoImplicit false

/- Host and firmware on the same value contracts: `TopicType::from_value_encoding` of
rust/src/types.rs against `contract_string_matches` of zephyr/src/csyn_zenoh.c. -/
namespace Csyn

/-- One catalog entry as the two generated catalogs hold it. -/
structure SameEntry (topic : TopicInfo) (info : SynapseTopicInfo) : Prop where
  id : info.id = topic.id
  name : info.name = topic.name
  key : info.key = topic.key
  wireType : info.wireType = some topic.wireType
  schemaHash : info.schemaHash = some topic.schemaHash
  fixedLayout : info.fixedLayout = topic.fixedLayout

/-- The canonical contract of a topic. -/
def TopicInfo.contract (topic : TopicInfo) : Str :=
  contractText topic.fixedLayout topic.wireType topic.schemaHash

/-- `topic_for_encoding` accepts exactly the canonical contracts. -/
def SynapseFbs.ExactContracts (fbs : SynapseFbs) : Prop :=
  ∀ text topic, fbs.topicForEncoding text = .ok topic ↔
    topic ∈ fbs.topics ∧ text = topic.contract

/-- The host resolves a received encoding to a topic. -/
def SynapseFbs.Resolves (fbs : SynapseFbs) (received : Str) (topic : TopicInfo) : Prop :=
  ∃ known, TopicType.fromValueEncoding fbs received = .ok known ∧ known.topic = topic

/-- The firmware accepts a received encoding for an entry. -/
def SynapseTopicInfo.Accepts (info : SynapseTopicInfo) (received : Str) : Prop :=
  let contract := valueContract info csynValueContractMax
  contractStringMatches received contract.2 contract.1.toNat = true

instance (info : SynapseTopicInfo) (received : Str) : Decidable (info.Accepts received) :=
  inferInstanceAs (Decidable (_ = true))

/-- What stands before the first media type of the received text, when the contract follows it,
is a transport wrapper. -/
def OnlyWrapped (received : Str) (contract : Str) : Prop :=
  ∀ before, received = before ++ contract →
    Delimited.find? mediaPrefix received = some before.length → before ∈ transportWrappers

theorem mediaPrefix_contract (fixedLayout : Bool) (wireType schemaHash : Str) :
    mediaPrefix <+: contractText fixedLayout wireType schemaHash := by
  rw [contractText_fields]
  apply List.IsPrefix.trans _ (List.prefix_append _ _)
  cases fixedLayout <;> decide

/-- No media type starts inside a transport wrapper. -/
theorem find?_wrapped {wrapper text : Str} (known : wrapper ∈ transportWrappers)
    (media : mediaPrefix <+: text) :
    Delimited.find? mediaPrefix (wrapper ++ text) = some wrapper.length := by
  have clean : (97 : UInt8) ∉ wrapper := by
    revert wrapper
    decide
  have first : mediaPrefix = 97 :: str "pplication/x-" := rfl
  rw [first] at media ⊢
  rw [Delimited.find?_append_of_notMem clean, Delimited.find?_here media, Option.map_some,
    Nat.zero_add]

theorem SynapseFbs.resolves_iff {fbs : SynapseFbs} (exact_ : fbs.ExactContracts)
    {received : Str} {topic : TopicInfo} (listed : topic ∈ fbs.topics) :
    fbs.Resolves received topic ↔ canonicalEncoding received = topic.contract := by
  unfold SynapseFbs.Resolves TopicType.fromValueEncoding
  constructor
  · rintro ⟨known, resolved, rfl⟩
    cases found : fbs.topicForEncoding (canonicalEncoding received) with
    | error error =>
        rw [found] at resolved
        cases resolved
    | ok entry =>
        rw [found] at resolved
        cases resolved
        exact ((exact_ _ _).mp found).2
  · intro same
    rw [(exact_ _ _).mpr ⟨listed, same⟩]
    exact ⟨_, rfl, rfl⟩

theorem SynapseTopicInfo.accepts_iff {topic : TopicInfo} {info : SynapseTopicInfo}
    (same : SameEntry topic info) (fits : topic.contract.length < csynValueContractMax)
    (received : Str) :
    info.Accepts received ↔ ∃ wrapper ∈ transportWrappers, received = wrapper ++ topic.contract := by
  have narrow : topic.contract.length < 2 ^ 31 := Nat.lt_trans fits (by decide)
  have whole : topic.contract.take (csynValueContractMax - 1) = topic.contract :=
    List.take_of_length_le (by omega)
  unfold SynapseTopicInfo.Accepts valueContract
  rw [same.wireType, same.schemaHash, same.fixedLayout]
  change contractStringMatches received (topic.contract.take (csynValueContractMax - 1))
    ((if topic.contract.length < 2 ^ 31 then (topic.contract.length : Int) else -1).toNat) = true ↔ _
  rw [whole, if_pos narrow, Int.toNat_natCast]
  exact contractStringMatches_iff received topic.contract

/-- Stripping what precedes the first media type leaves the contract exactly when the text is
the contract behind something that no media type starts in. -/
theorem canonicalEncoding_eq_contract {received : Str} (topic : TopicInfo) :
    canonicalEncoding received = topic.contract ↔
      ∃ before, received = before ++ topic.contract ∧
        Delimited.find? mediaPrefix received = some before.length := by
  unfold canonicalEncoding
  constructor
  · intro same
    split at same
    · rename_i idx found
      refine ⟨received.take idx, ?_, ?_⟩
      · rw [← same, List.take_append_drop]
      · have media := Delimited.find?_some found
        have inside : idx ≤ received.length := by
          by_contra beyond
          rw [List.drop_of_length_le (by omega), List.prefix_nil] at media
          exact absurd media (by decide)
        rw [found, List.length_take, Nat.min_eq_left inside]
    · rename_i absent
      have here := Delimited.find?_here
        (mediaPrefix_contract topic.fixedLayout topic.wireType topic.schemaHash)
      rw [same] at absent
      exact absurd (here.symm.trans absent) (by simp)
  · rintro ⟨before, rfl, found⟩
    rw [found]
    exact List.drop_left

/-- The two sides agree on an encoding, and accept exactly the canonical contract as the
transports deliver it, if and only if nothing else than a transport wrapper precedes the
contract. -/
theorem from_value_encoding_agrees_iff (fbs : SynapseFbs) (exact_ : fbs.ExactContracts)
    (received : Str) (topic : TopicInfo) (listed : topic ∈ fbs.topics) (info : SynapseTopicInfo)
    (same : SameEntry topic info) (fits : topic.contract.length < csynValueContractMax) :
    ((fbs.Resolves received topic ↔ info.Accepts received) ∧
      (fbs.Resolves received topic ↔
        ∃ wrapper ∈ transportWrappers, received = wrapper ++ topic.contract)) ↔
      OnlyWrapped received topic.contract := by
  rw [SynapseFbs.resolves_iff exact_ listed, SynapseTopicInfo.accepts_iff same fits, and_self,
    canonicalEncoding_eq_contract]
  constructor
  · rintro agrees before shape found
    obtain ⟨wrapper, known, shape'⟩ := agrees.mp ⟨before, shape, found⟩
    rw [shape] at shape'
    exact List.append_cancel_right shape' ▸ known
  · intro wrapped
    constructor
    · rintro ⟨before, shape, found⟩
      exact ⟨before, wrapped before shape found, shape⟩
    · rintro ⟨wrapper, known, rfl⟩
      exact ⟨wrapper, rfl, find?_wrapped known (mediaPrefix_contract _ _ _)⟩

/-- A topic of the catalog. -/
def vehicleHealthTopic : TopicInfo where
  id := 3
  name := str "VehicleHealth"
  key := str "health"
  rootTable := str "synapse.topic.VehicleHealth"
  encoding := str "struct"
  wireType := str "synapse.topic.VehicleHealthData"
  schemaHash := str "0123456789abcdef0123456789abcdef"
  schemaFile := str "topic.fbs"
  mcapSchemaName := str "synapse.topic.VehicleHealth"
  fixedLayout := true
  payloadSize := some 16

def vehicleHealthInfo : SynapseTopicInfo where
  id := 3
  name := str "VehicleHealth"
  key := str "health"
  payloadSize := 16
  wireType := some (str "synapse.topic.VehicleHealthData")
  schemaHash := some (str "0123456789abcdef0123456789abcdef")
  fixedLayout := true

/-- A catalog of this one topic. -/
def oneTopicFbs : SynapseFbs where
  topics := [vehicleHealthTopic]
  topicByKey := fun key => if key = str "health" then some vehicleHealthTopic else none
  topicForEncoding := fun text =>
    if text = vehicleHealthTopic.contract then .ok vehicleHealthTopic
    else .error (str "unknown value contract")
  decodeTopicDebug := fun topic payload =>
    if topic.payloadSize = some payload.length then .ok [] else .error (str "payload size")
  schemaByName := fun name => ⟨name⟩
  tableU64 := fun _ _ => none

theorem oneTopicFbs_exact : oneTopicFbs.ExactContracts := by
  intro text topic
  change (if text = vehicleHealthTopic.contract then Except.ok vehicleHealthTopic
    else .error (str "unknown value contract")) = .ok topic ↔ topic ∈ [vehicleHealthTopic] ∧ _
  rw [List.mem_singleton]
  split
  · rename_i named
    constructor
    · rintro ⟨⟩
      exact ⟨rfl, named⟩
    · rintro ⟨rfl, -⟩
      rfl
  · rename_i other
    constructor
    · rintro ⟨⟩
    · rintro ⟨rfl, named⟩
      exact absurd named other

theorem vehicleHealth_sameEntry : SameEntry vehicleHealthTopic vehicleHealthInfo :=
  ⟨rfl, rfl, rfl, rfl, rfl, rfl⟩

theorem from_value_encoding_agrees_iff_wrapped :
    (oneTopicFbs.Resolves (legacyPrefix ++ vehicleHealthTopic.contract) vehicleHealthTopic ↔
        vehicleHealthInfo.Accepts (legacyPrefix ++ vehicleHealthTopic.contract)) ∧
      OnlyWrapped (legacyPrefix ++ vehicleHealthTopic.contract) vehicleHealthTopic.contract := by
  have wrapped : OnlyWrapped (legacyPrefix ++ vehicleHealthTopic.contract)
      vehicleHealthTopic.contract := by
    intro before shape _
    rw [← List.append_cancel_right shape]
    decide
  exact ⟨((from_value_encoding_agrees_iff oneTopicFbs oneTopicFbs_exact _ vehicleHealthTopic
    (List.mem_singleton_self _) vehicleHealthInfo vehicleHealth_sameEntry (by decide)).mpr
      wrapped).1, wrapped⟩

/-- The contract as the schema of another registered encoding. -/
def plainTextEncoding : Str := str "text/plain;" ++ vehicleHealthTopic.contract

/-- The host resolves it, the firmware rejects it. -/
theorem from_value_encoding_disagrees :
    oneTopicFbs.ExactContracts ∧ vehicleHealthTopic ∈ oneTopicFbs.topics ∧
      SameEntry vehicleHealthTopic vehicleHealthInfo ∧
      vehicleHealthTopic.contract.length < csynValueContractMax ∧
      oneTopicFbs.Resolves plainTextEncoding vehicleHealthTopic ∧
      ¬ vehicleHealthInfo.Accepts plainTextEncoding := by
  refine ⟨oneTopicFbs_exact, List.mem_singleton_self _, vehicleHealth_sameEntry, by decide, ?_, ?_⟩
  · rw [SynapseFbs.resolves_iff oneTopicFbs_exact (List.mem_singleton_self _)]
    decide
  · decide

end Csyn
