import Csyn.ContractChecked

set_option autoImplicit false

/- The sample callbacks by what they hand to `csyn_topic_publish`: the checks come first, then
the arbitration of the mocap callbacks, and nothing else of the topic is written. -/
namespace Csyn

/-- `sample_contract_matches` without its warning. -/
def CsynTopic.contractMatches (topic : CsynTopic) (sample : ZSample) : Bool :=
  match topic.info with
  | none => false
  | some info => checkContract (valueContract info csynValueContractMax) sample.encoding

/-- The contract, size and read checks; the buffer is what was read. -/
def CsynTopic.admits (config : Kconfig) (requireContract : Bool) (topic : CsynTopic)
    (sample : ZSample) : Option (List UInt8) :=
  if requireContract && !topic.contractMatches sample then none
  else if topic.tooLarge config sample then none
  else
    let buf := sample.payload.read sample.payload.len
    if buf.length ≠ sample.payload.len then none else some buf

/-- Only the callback of the configured pose key checks no contract. -/
def InputHandler.requiresContract : InputHandler → Bool
  | .input => true
  | .mocap => true
  | .legacyMocap => false

/-- `input_handler` is not subject to the arbitration. -/
def InputHandler.arbitrate (config : Kconfig) (handler : InputHandler) (suppressFallback : Int)
    (sample : ZSample) (buf : List UInt8) : Bool × Int :=
  match handler with
  | .input => (true, suppressFallback)
  | .mocap => mocapArbitration config suppressFallback sample buf
  | .legacyMocap => mocapArbitration config suppressFallback sample buf

/-- The buffer that a callback hands to `csyn_topic_publish`. -/
def InputHandler.handsOn (config : Kconfig) (handler : InputHandler) (topic : CsynTopic)
    (suppressFallback : Int) (sample : ZSample) : Option (List UInt8) :=
  match topic.admits config handler.requiresContract sample with
  | none => none
  | some buf => if (handler.arbitrate config suppressFallback sample buf).1 then some buf else none

/-- `suppress_fallback` after a callback. -/
def InputHandler.suppression (config : Kconfig) (handler : InputHandler) (topic : CsynTopic)
    (suppressFallback : Int) (sample : ZSample) : Int :=
  match topic.admits config handler.requiresContract sample with
  | none => suppressFallback
  | some buf => (handler.arbitrate config suppressFallback sample buf).2

/-- A callback that hands nothing on may have logged a rejection; otherwise the topic is as
`csyn_topic_publish` leaves it. -/
inductive HandedAs (topic : CsynTopic) : Option (List UInt8) → Bool → CsynTopic → Prop
  | nothing {after : CsynTopic} (store : after.SameStore topic)
      (declared : after.SameDeclaration topic) : HandedAs topic none false after
  | sample (buf : List UInt8) :
      HandedAs topic (some buf) (csynTopicPublish topic (some buf)).1
        (csynTopicPublish topic (some buf)).2

section

variable {config : Kconfig} {handler : InputHandler} {topic after : CsynTopic}
  {sample : ZSample} {stored : Bool} {suppressFallback suppressed now : Int}

theorem HandedAs.unstored (handed : HandedAs topic none stored after) : after.SameStore topic := by
  cases handed
  assumption

theorem HandedAs.published {buf : List UInt8} (handed : HandedAs topic (some buf) stored after) :
    after = (csynTopicPublish topic (some buf)).2 := by
  cases handed
  rfl

/-- The contract check passes the topic on unchanged exactly when the contract matches. -/
theorem sampleContractMatches_spec {matched : Bool}
    (checked : sampleContractMatches topic sample now = some (matched, after)) :
    matched = topic.contractMatches sample ∧ after.SameStore topic ∧
      after.SameDeclaration topic ∧ (matched = true → after = topic) := by
  unfold sampleContractMatches at checked
  cases resolved : topic.info with
  | none =>
      rw [resolved] at checked
      cases checked
  | some info =>
      have agreed : topic.contractMatches sample =
          checkContract (valueContract info csynValueContractMax) sample.encoding := by
        unfold CsynTopic.contractMatches
        rw [resolved]
      rw [agreed]
      rw [resolved] at checked
      dsimp only at checked
      split at checked
      · rename_i accepted
        cases checked
        exact ⟨accepted.symm, .refl _, .refl _, fun _ => rfl⟩
      · rename_i rejected
        cases checked
        rw [Bool.not_eq_true] at rejected
        exact ⟨rejected.symm, ⟨rfl, rfl, rfl⟩, ⟨rfl, resolved.symm, rfl, rfl⟩, by rintro ⟨⟩⟩

/-- `input_handler` hands on every sample that passes its checks. -/
theorem inputHandler_spec (handled : inputHandler config topic sample now = some (stored, after)) :
    HandedAs topic (topic.admits config true sample) stored after := by
  unfold inputHandler at handled
  unfold CsynTopic.admits
  split at handled
  · cases handled
  · rename_i rejected checked
    obtain ⟨matched, store, declared, -⟩ := sampleContractMatches_spec checked
    cases handled
    rw [← matched]
    exact .nothing store declared
  · rename_i accepted checked
    obtain ⟨matched, -, -, same⟩ := sampleContractMatches_spec checked
    rw [same rfl] at handled
    rw [← matched]
    simp only [Bool.not_true, Bool.and_false, Bool.false_eq_true, ↓reduceIte]
    split at handled
    · rename_i large
      cases handled
      rw [if_pos large]
      exact .nothing (.refl _) (.refl _)
    · rename_i small
      rw [if_neg small]
      dsimp only at handled ⊢
      split at handled
      · rename_i short
        cases handled
        rw [if_pos short]
        exact .nothing (.refl _) (.refl _)
      · rename_i whole
        rw [if_neg whole]
        rw [Option.some.injEq] at handled
        have handed : HandedAs topic _ _ _ := .sample (sample.payload.read sample.payload.len)
        rw [handled] at handed
        exact handed

/-- The contract check of the mocap callbacks, which one of them leaves out. -/
theorem mocapContract_spec {requireContract matched : Bool}
    (result : (if requireContract then sampleContractMatches topic sample now
      else some (true, topic)) = some (matched, after)) :
    (matched = false ∧ (requireContract && !topic.contractMatches sample) = true ∧
        after.SameStore topic ∧ after.SameDeclaration topic) ∨
      (matched = true ∧ (requireContract && !topic.contractMatches sample) = false ∧
        after = topic) := by
  split at result
  · rename_i required
    obtain ⟨same, store, declared, passed⟩ := sampleContractMatches_spec result
    cases matched with
    | false =>
        refine Or.inl ⟨rfl, ?_, store, declared⟩
        rw [required, ← same]
        rfl
    | true =>
        refine Or.inr ⟨rfl, ?_, passed rfl⟩
        rw [required, ← same]
        rfl
  · rename_i unchecked
    cases result
    rw [Bool.not_eq_true] at unchecked
    exact Or.inr ⟨rfl, by rw [unchecked]; rfl, rfl⟩

/-- `mocap_input_handler_common`, by the checks and the arbitration. -/
theorem mocapInputHandlerCommon_spec {requireContract : Bool}
    (handled : mocapInputHandlerCommon config requireContract topic suppressFallback sample now =
      some (stored, after, suppressed)) :
    (topic.admits config requireContract sample = none ∧ suppressed = suppressFallback ∧
        HandedAs topic none stored after) ∨
      ∃ buf, topic.admits config requireContract sample = some buf ∧
        suppressed = (mocapArbitration config suppressFallback sample buf).2 ∧
        HandedAs topic
          (if (mocapArbitration config suppressFallback sample buf).1 then some buf else none)
          stored after := by
  unfold mocapInputHandlerCommon at handled
  unfold CsynTopic.admits
  split at handled
  · cases handled
  · rename_i rejected result
    rcases mocapContract_spec result with ⟨-, refused, store, declared⟩ | ⟨accepted, -⟩
    · cases handled
      rw [if_pos refused]
      exact Or.inl ⟨rfl, rfl, .nothing store declared⟩
    · cases accepted
  · rename_i accepted result
    rcases mocapContract_spec result with ⟨refused, -⟩ | ⟨-, passed, rfl⟩
    · cases refused
    · rw [passed]
      simp only [Bool.false_eq_true, ↓reduceIte]
      split at handled
      · rename_i large
        cases handled
        rw [if_pos large]
        exact Or.inl ⟨rfl, rfl, .nothing (.refl _) (.refl _)⟩
      · rename_i small
        rw [if_neg small]
        dsimp only at handled ⊢
        split at handled
        · rename_i short
          cases handled
          rw [if_pos short]
          exact Or.inl ⟨rfl, rfl, .nothing (.refl _) (.refl _)⟩
        · rename_i whole
          rw [if_neg whole]
          refine Or.inr ⟨_, rfl, ?_⟩
          split at handled
          · rename_i left arbitrated
            cases handled
            rw [arbitrated]
            exact ⟨rfl, .nothing (.refl _) (.refl _)⟩
          · rename_i left arbitrated
            cases handled
            rw [arbitrated]
            exact ⟨rfl, .sample _⟩

/-- Every callback is its checks, the arbitration and `csyn_topic_publish`. -/
theorem InputHandler.handle_spec
    (handled : handler.handle config topic suppressFallback sample now =
      some (stored, after, suppressed)) :
    suppressed = handler.suppression config topic suppressFallback sample ∧
      HandedAs topic (handler.handsOn config topic suppressFallback sample) stored after := by
  have mocap : ∀ other : InputHandler,
      (∀ buf, other.arbitrate config suppressFallback sample buf =
        mocapArbitration config suppressFallback sample buf) →
      mocapInputHandlerCommon config other.requiresContract topic suppressFallback sample now =
        some (stored, after, suppressed) →
      suppressed = other.suppression config topic suppressFallback sample ∧
        HandedAs topic (other.handsOn config topic suppressFallback sample) stored after := by
    intro other arbitration result
    unfold InputHandler.suppression InputHandler.handsOn
    rcases mocapInputHandlerCommon_spec result with ⟨refused, same, handed⟩ |
      ⟨buf, admitted, same, handed⟩
    · rw [refused]
      exact ⟨same, handed⟩
    · rw [admitted]
      dsimp only
      rw [arbitration]
      exact ⟨same, handed⟩
  cases handler with
  | input =>
      obtain ⟨result, inner, same⟩ := Option.map_eq_some_iff.mp handled
      cases same
      have handed := inputHandler_spec inner
      unfold InputHandler.suppression InputHandler.handsOn
      cases admitted : topic.admits config true sample with
      | none =>
          rw [admitted] at handed
          simp only [InputHandler.requiresContract, admitted]
          exact ⟨trivial, handed⟩
      | some buf =>
          rw [admitted] at handed
          simp only [InputHandler.requiresContract, admitted, InputHandler.arbitrate]
          exact ⟨trivial, handed⟩
  | mocap => exact mocap .mocap (fun _ => rfl) handled
  | legacyMocap => exact mocap .legacyMocap (fun _ => rfl) handled

/-- With an entry to check, a callback runs through. -/
theorem InputHandler.handle_isSome (config : Kconfig) (handler : InputHandler)
    (suppressFallback : Int) (sample : ZSample) (now : Int) {info : SynapseTopicInfo}
    (resolved : topic.info = some info) :
    (handler.handle config topic suppressFallback sample now).isSome := by
  have checked : (sampleContractMatches topic sample now).isSome := by
    unfold sampleContractMatches
    rw [resolved]
    dsimp only
    split
    · rfl
    · rfl
  obtain ⟨⟨matched, after⟩, result⟩ := Option.isSome_iff_exists.mp checked
  have mocap : ∀ requireContract, (mocapInputHandlerCommon config requireContract topic
      suppressFallback sample now).isSome := by
    intro requireContract
    unfold mocapInputHandlerCommon
    rw [result]
    split
    · rename_i missing
      cases requireContract with
      | true => cases missing
      | false => cases missing
    · rfl
    · split
      · rfl
      · dsimp only
        split
        · rfl
        · split
          · rfl
          · rfl
  cases handler with
  | input =>
      show ((inputHandler config topic sample now).map _).isSome
      rw [Option.isSome_map]
      unfold inputHandler
      rw [result]
      cases matched with
      | false => rfl
      | true =>
          dsimp only
          split
          · rfl
          · split
            · rfl
            · rfl
  | mocap => exact mocap true
  | legacyMocap => exact mocap false

end

/-- What the checks admit depends on the declaration only. -/
theorem CsynTopic.SameDeclaration.admits {topic before : CsynTopic}
    (same : topic.SameDeclaration before) (config : Kconfig) (requireContract : Bool)
    (sample : ZSample) :
    topic.admits config requireContract sample = before.admits config requireContract sample := by
  unfold CsynTopic.admits CsynTopic.contractMatches CsynTopic.tooLarge
  rw [same.info, same.maxSize]

end Csyn
