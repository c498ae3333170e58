import Csyn.Registry
import Csyn.ZenohInput

set_option autoImplicit false

/- No type confusion through the contract-checked callbacks. -/
namespace Csyn

/-- An encoding names exactly the media type, wire type and schema hash of this entry. -/
def SynapseTopicInfo.NamedBy (info : SynapseTopicInfo) (encoding : Option Str) : Prop :=
  ∃ wireType schemaHash text, info.wireType = some wireType ∧ info.schemaHash = some schemaHash ∧
    encoding = some text ∧ NamesContract text info.fixedLayout wireType schemaHash

/-- The entry's contract fits the buffer of the contract checks. -/
def SynapseTopicInfo.ContractFits (info : SynapseTopicInfo) : Prop :=
  ∀ wireType schemaHash, info.wireType = some wireType → info.schemaHash = some schemaHash →
    (contractText info.fixedLayout wireType schemaHash).length < csynValueContractMax

/-- An encoding names exactly the request contract of this command, and that fits the buffer
of the contract checks. -/
def SynapseCommandInfo.RequestNamedBy (command : SynapseCommandInfo) (encoding : Option Str) :
    Prop :=
  ∃ type hash text, command.requestType = some type ∧ command.requestSchemaHash = some hash ∧
    encoding = some text ∧
    (contractText (command.requestEncoding == some (str "struct")) type hash).length <
      csynValueContractMax ∧
    NamesContract text (command.requestEncoding == some (str "struct")) type hash

theorem valueContract_check (info : SynapseTopicInfo) (encoding : Option Str) :
    checkContract (valueContract info csynValueContractMax) encoding = true ↔
      info.ContractFits ∧ info.NamedBy encoding := by
  unfold valueContract SynapseTopicInfo.NamedBy SynapseTopicInfo.ContractFits
  split
  · rename_i wireType schemaHash typed hashed
    rw [checkContract_iff]
    simp only [typed, hashed, Option.some.injEq]
    constructor
    · rintro ⟨fits, text, received, names⟩
      exact ⟨by rintro _ _ rfl rfl; exact fits, _, _, text, rfl, rfl, received, names⟩
    · rintro ⟨fits, _, _, text, rfl, rfl, received, names⟩
      exact ⟨fits _ _ rfl rfl, text, received, names⟩
  · rename_i missing
    rw [checkContract_missing]
    simp only [Bool.false_eq_true, false_iff, not_and]
    rintro - ⟨wireType, schemaHash, _, typed, hashed, -⟩
    exact missing wireType schemaHash typed hashed

theorem commandContract_check (command : SynapseCommandInfo) (encoding : Option Str)
    (matched : checkContract (commandContract command false csynValueContractMax) encoding =
      true) : command.RequestNamedBy encoding := by
  unfold commandContract at matched
  dsimp only [Bool.false_eq_true, ↓reduceIte] at matched
  split at matched
  · rename_i type hash typed hashed
    obtain ⟨fits, text, received, names⟩ := (checkContract_iff _ _ _ _).mp matched
    exact ⟨type, hash, text, typed, hashed, received, fits, names⟩
  · rw [checkContract_missing] at matched
    cases matched

/-- Two entries an encoding names have the same media type, wire type and schema hash. -/
theorem SynapseTopicInfo.NamedBy.unique {info other : SynapseTopicInfo} {encoding : Option Str}
    (clean : ∀ wireType, info.wireType = some wireType → semicolon ∉ wireType)
    (clean' : ∀ wireType, other.wireType = some wireType → semicolon ∉ wireType)
    (names : info.NamedBy encoding) (names' : other.NamedBy encoding) :
    info.fixedLayout = other.fixedLayout ∧ info.wireType = other.wireType ∧
      info.schemaHash = other.schemaHash := by
  obtain ⟨wireType, schemaHash, text, typed, hashed, rfl, contract⟩ := names
  obtain ⟨wireType', schemaHash', _, typed', hashed', received, contract'⟩ := names'
  cases received
  obtain ⟨media, type, hash⟩ :=
    contract.unique (clean _ typed) (clean' _ typed') contract'
  exact ⟨media, typed.trans (type ▸ typed'.symm), hashed.trans (hash ▸ hashed'.symm)⟩

/-- The check passes the topic on unchanged, or rejects and touches the warning clock only. -/
theorem sampleContractMatches_cases {topic after : CsynTopic} {sample : ZSample} {now : Int}
    {matched : Bool} (checked : sampleContractMatches topic sample now = some (matched, after)) :
    ∃ info, topic.info = some info ∧
      ((matched = true ∧ after = topic ∧ info.ContractFits ∧ info.NamedBy sample.encoding) ∨
        (matched = false ∧ after.SameStore topic ∧ after.SameDeclaration topic ∧
          ¬ (info.ContractFits ∧ info.NamedBy sample.encoding))) := by
  unfold sampleContractMatches at checked
  split at checked
  · cases checked
  · rename_i info resolved
    refine ⟨info, resolved, ?_⟩
    split at checked
    · rename_i accepted
      cases checked
      exact Or.inl ⟨rfl, rfl, (valueContract_check _ _).mp accepted⟩
    · rename_i rejected
      cases checked
      exact Or.inr ⟨rfl, ⟨rfl, rfl, rfl⟩, ⟨rfl, rfl, rfl, rfl⟩,
        fun named => rejected ((valueContract_check _ _).mpr named)⟩

/-- How a callback ends: it stores nothing, or `csyn_topic_publish` decides about a sample
that names the topic's contract. The legacy callback checks none. -/
inductive Delivered (handler : InputHandler) (topic : CsynTopic) (sample : ZSample) :
    Bool → CsynTopic → Prop
  | dropped {after : CsynTopic} (store : after.SameStore topic)
      (declared : after.SameDeclaration topic) : Delivered handler topic sample false after
  | published (buf : List UInt8)
      (checked : handler ≠ .legacyMocap → ∃ info, topic.info = some info ∧ info.ContractFits ∧
        info.NamedBy sample.encoding) :
      Delivered handler topic sample (csynTopicPublish topic (some buf)).1
        (csynTopicPublish topic (some buf)).2

section

variable {config : Kconfig} {handler : InputHandler} {topic after : CsynTopic}
  {sample : ZSample} {stored : Bool} {suppressFallback suppressed now : Int}

theorem Delivered.sameDeclaration (delivered : Delivered handler topic sample stored after) :
    after.SameDeclaration topic := by
  cases delivered with
  | dropped store declared => exact declared
  | published buf checked => exact csynTopicPublish_sameDeclaration topic _

/-- A checked callback touches the store only for a sample naming the topic's contract. -/
theorem Delivered.named (delivered : Delivered handler topic sample stored after)
    (checkedHandler : handler ≠ .legacyMocap) :
    (stored = false ∧ after.SameStore topic) ∨
      ∃ info, topic.info = some info ∧ info.ContractFits ∧ info.NamedBy sample.encoding := by
  cases delivered with
  | dropped store declared => exact Or.inl ⟨rfl, store⟩
  | published buf checked => exact Or.inr (checked checkedHandler)

theorem inputHandler_delivered
    (handled : inputHandler config topic sample now = some (stored, after)) :
    Delivered .input topic sample stored after := by
  unfold inputHandler at handled
  split at handled
  · cases handled
  · rename_i rejected checked
    obtain ⟨info, -, ⟨accepted, -⟩ | ⟨-, store, declared, -⟩⟩ := sampleContractMatches_cases checked
    · cases accepted
    · cases handled
      exact .dropped store declared
  · rename_i accepted checked
    obtain ⟨info, resolved, ⟨-, same, named⟩ | ⟨rejected, -⟩⟩ := sampleContractMatches_cases checked
    · subst same
      dsimp only at handled
      split at handled
      · cases handled
        exact .dropped (.refl _) (.refl _)
      · split at handled
        · cases handled
          exact .dropped (.refl _) (.refl _)
        · rw [Option.some.injEq] at handled
          have delivered : Delivered .input _ sample _ _ :=
            .published (sample.payload.read sample.payload.len) fun _ => ⟨info, resolved, named⟩
          rw [handled] at delivered
          exact delivered
    · cases rejected

theorem mocapInputHandlerCommon_delivered {requireContract : Bool}
    (required : handler ≠ .legacyMocap → requireContract = true)
    (handled : mocapInputHandlerCommon config requireContract topic suppressFallback sample now =
      some (stored, after, suppressed)) : Delivered handler topic sample stored after := by
  have checkedFirst : ∀ matched checked,
      (if requireContract then sampleContractMatches topic sample now else some (true, topic)) =
        some (matched, checked) →
      (matched = false ∧ checked.SameStore topic ∧ checked.SameDeclaration topic) ∨
        (matched = true ∧ checked = topic ∧ (handler ≠ .legacyMocap → ∃ info,
          topic.info = some info ∧ info.ContractFits ∧ info.NamedBy sample.encoding)) := by
    intro matched checked first
    split at first
    · obtain ⟨info, resolved, ⟨accepted, same, named⟩ | ⟨rejected, store, declared, -⟩⟩ :=
        sampleContractMatches_cases first
      · exact Or.inr ⟨accepted, same, fun _ => ⟨info, resolved, named⟩⟩
      · exact Or.inl ⟨rejected, store, declared⟩
    · rename_i unchecked
      cases first
      exact Or.inr ⟨rfl, rfl, fun checkedHandler => absurd (required checkedHandler) unchecked⟩
  unfold mocapInputHandlerCommon at handled
  split at handled
  · cases handled
  · rename_i rejected first
    obtain ⟨-, store, declared⟩ | ⟨accepted, -⟩ := checkedFirst _ _ first
    · cases handled
      exact .dropped store declared
    · cases accepted
  · rename_i accepted first
    obtain ⟨rejected, -⟩ | ⟨-, rfl, checked⟩ := checkedFirst _ _ first
    · cases rejected
    · dsimp only at handled
      split at handled
      · cases handled
        exact .dropped (.refl _) (.refl _)
      · split at handled
        · cases handled
          exact .dropped (.refl _) (.refl _)
        · split at handled
          · cases handled
            exact .dropped (.refl _) (.refl _)
          · cases handled
            exact .published _ checked

theorem InputHandler.handle_delivered
    (handled : handler.handle config topic suppressFallback sample now =
      some (stored, after, suppressed)) : Delivered handler topic sample stored after := by
  unfold InputHandler.handle at handled
  split at handled
  · obtain ⟨result, inner, same⟩ := Option.map_eq_some_iff.mp handled
    cases same
    exact inputHandler_delivered inner
  · exact mocapInputHandlerCommon_delivered (fun _ => rfl) handled
  · exact mocapInputHandlerCommon_delivered (fun checked => absurd rfl checked) handled

end

/-- A handler bound to a catalog command runs only for its exact request contract. -/
theorem queryHandler_invoked {config : Kconfig} {handler : List UInt8 → ServiceAnswer}
    {copies : Bool} {encodes : Str → Bool} {service : CsynQueryable} {query : ZQuery} {now : Int}
    {command : SynapseCommandInfo} (bound : service.command = some command)
    (invoked : (queryHandler config handler copies encodes service query now).request.isSome) :
    command.RequestNamedBy query.encoding := by
  unfold queryHandler queryContractMatches at invoked
  rw [bound] at invoked
  dsimp only at invoked
  by_cases matched :
      checkContract (commandContract command false csynValueContractMax) query.encoding = true
  · exact commandContract_check command query.encoding matched
  · rw [if_neg matched] at invoked
    cases invoked

/-- A rejection touches the warning clock only. -/
theorem queryContractMatches_command (service : CsynQueryable) (query : ZQuery) (now : Int) :
    (queryContractMatches service query now).2.command = service.command := by
  unfold queryContractMatches
  split
  · rfl
  · split <;> rfl

theorem queryHandler_service (config : Kconfig) (handler : List UInt8 → ServiceAnswer)
    (copies : Bool) (encodes : Str → Bool) (service : CsynQueryable) (query : ZQuery) (now : Int) :
    (queryHandler config handler copies encodes service query now).service.command =
      service.command := by
  have kept := queryContractMatches_command service query now
  unfold queryHandler
  split
  · rename_i same
    rw [same] at kept
    exact kept
  · rename_i same
    rw [same] at kept
    dsimp only
    split
    · exact kept
    · split
      · exact kept
      · split
        · exact kept
        · split <;> exact kept

/-- Everything stored by a checked callback named the contract of its topic, and every
request a bound handler ran for named the contract of its command. -/
structure ZenohInput.Typed (s : ZenohInput) : Prop where
  stored : ∀ e ∈ s.stored, e.handler ≠ .legacyMocap → ∃ topic info,
    s.registry[e.topic]? = some topic ∧ topic.info = some info ∧ info.ContractFits ∧
      info.NamedBy e.sample.encoding
  invoked : ∀ q ∈ s.invoked, ∃ service, s.queryables[q.service]? = some service ∧
    ∀ command, service.command = some command → command.RequestNamedBy q.query.encoding

theorem ZenohInput.step_typed (config : Kconfig) (s : ZenohInput) (event : ZenohEvent)
    (t : ZenohInput) (taken : s.step config event = some t) (valid : s.Typed) : t.Typed := by
  cases event with
  | sample handler i sample now =>
      unfold ZenohInput.step at taken
      dsimp only at taken
      split at taken
      · cases taken
      · rename_i topic found
        obtain ⟨⟨stored, after, suppressed⟩, handled, rfl⟩ := Option.map_eq_some_iff.mp taken
        have delivered := InputHandler.handle_delivered handled
        have declared := delivered.sameDeclaration
        refine ⟨?_, valid.invoked⟩
        have earlier : ∀ e ∈ s.stored, e.handler ≠ .legacyMocap → ∃ topic info,
            (s.registry.set i after)[e.topic]? = some topic ∧ topic.info = some info ∧
              info.ContractFits ∧ info.NamedBy e.sample.encoding := by
          intro e member checked
          obtain ⟨before, info, present, resolved, named⟩ := valid.stored e member checked
          obtain ⟨later, now_, same⟩ := (sameDeclarations_set found declared).get present
          exact ⟨later, info, now_, same.info.trans resolved, named⟩
        intro e member checked
        dsimp only at member
        split at member
        · rename_i accepted
          rcases List.mem_append.mp member with old | new
          · exact earlier e old checked
          · rw [List.mem_singleton.mp new] at checked ⊢
            rcases delivered.named checked with ⟨rejected, -⟩ | ⟨info, resolved, named⟩
            · rw [rejected] at accepted
              cases accepted
            · exact ⟨after, info,
                List.getElem?_set_self (List.getElem?_eq_some_iff.mp found).1,
                declared.info.trans resolved, named⟩
        · exact earlier e member checked
  | query i query now handler copies encodes =>
      unfold ZenohInput.step at taken
      dsimp only at taken
      split at taken
      · cases taken
      · rename_i service found
        cases taken
        refine ⟨valid.stored, ?_⟩
        have inside := (List.getElem?_eq_some_iff.mp found).1
        have kept := queryHandler_service config handler copies encodes service query now
        have earlier : ∀ q ∈ s.invoked, ∃ later,
            (s.queryables.set i (queryHandler config handler copies encodes service query
              now).service)[q.service]? = some later ∧
            ∀ command, later.command = some command → command.RequestNamedBy q.query.encoding := by
          intro q member
          obtain ⟨before, present, named⟩ := valid.invoked q member
          by_cases here : i = q.service
          · rw [← here, found, Option.some.injEq] at present
            subst present
            rw [← here]
            exact ⟨_, List.getElem?_set_self inside,
              fun command bound => named command (kept.symm.trans bound)⟩
          · exact ⟨before, (List.getElem?_set_ne here).trans present, named⟩
        intro q member
        dsimp only at member
        split at member
        · rename_i ran
          rcases List.mem_append.mp member with old | new
          · exact earlier q old
          · rw [List.mem_singleton.mp new]
            exact ⟨_, List.getElem?_set_self inside, fun command bound =>
              queryHandler_invoked (kept.symm.trans bound) ran⟩
        · exact earlier q member

/-- A checked sample whose encoding names an entry with another media type, wire type or
schema hash. -/
def ZenohEvent.ForeignTo (event : ZenohEvent) (info : SynapseTopicInfo) : Prop :=
  ∃ handler i sample now, event = .sample handler i sample now ∧ handler ≠ .legacyMocap ∧
    ∃ other : SynapseTopicInfo, other.NamedBy sample.encoding ∧
      (∀ wireType, other.wireType = some wireType → semicolon ∉ wireType) ∧
      (other.fixedLayout ≠ info.fixedLayout ∨ other.wireType ≠ info.wireType ∨
        other.schemaHash ≠ info.schemaHash)

/-- A foreign sample changes the store of no topic with this entry, whatever topic it is for. -/
theorem ZenohInput.step_foreign {config : Kconfig} {s t : ZenohInput} {event : ZenohEvent}
    {j : Nat} {topic : CsynTopic} {info : SynapseTopicInfo}
    (taken : s.step config event = some t) (present : s.registry[j]? = some topic)
    (resolved : topic.info = some info)
    (clean : ∀ wireType, info.wireType = some wireType → semicolon ∉ wireType)
    (foreign : event.ForeignTo info) :
    ∃ after, t.registry[j]? = some after ∧ after.SameStore topic := by
  obtain ⟨handler, i, sample, now, rfl, checked, other, named, clean', differs⟩ := foreign
  unfold ZenohInput.step at taken
  dsimp only at taken
  split at taken
  · cases taken
  · rename_i receiver found
    obtain ⟨⟨stored, after, suppressed⟩, handled, rfl⟩ := Option.map_eq_some_iff.mp taken
    by_cases here : i = j
    · subst here
      rw [found, Option.some.injEq] at present
      subst present
      refine ⟨after, List.getElem?_set_self (List.getElem?_eq_some_iff.mp found).1, ?_⟩
      rcases (InputHandler.handle_delivered handled).named checked with
        ⟨-, store⟩ | ⟨own, resolved', -, ownNamed⟩
      · exact store
      · rw [resolved, Option.some.injEq] at resolved'
        subst resolved'
        obtain ⟨media, type, hash⟩ := named.unique clean' clean ownNamed
        rcases differs with layout | wire | schema
        · exact absurd media layout
        · exact absurd type wire
        · exact absurd hash schema
    · exact ⟨topic, (List.getElem?_set_ne here).trans present, .refl topic⟩

/-- No type confusion through the contract-checked callbacks, whatever is received. -/
theorem zenoh_input_typed (config : Kconfig) (registry : List CsynTopic)
    (queryables : List CsynQueryable) (events : List ZenohEvent) (s : ZenohInput)
    (reached : Automaton.run (ZenohInput.step config) (.boot registry queryables) events =
      some s) :
    (∀ e ∈ s.stored, e.handler ≠ .legacyMocap → ∃ topic info,
        s.registry[e.topic]? = some topic ∧ topic.info = some info ∧ info.ContractFits ∧
          info.NamedBy e.sample.encoding) ∧
      (∀ event t, s.step config event = some t → ∀ (j : Nat) (topic : CsynTopic) info,
        s.registry[j]? = some topic → topic.info = some info →
          (∀ wireType, info.wireType = some wireType → semicolon ∉ wireType) →
          event.ForeignTo info →
          ∃ after : CsynTopic, t.registry[j]? = some after ∧ after.SameStore topic) ∧
      ∀ q ∈ s.invoked, ∃ service, s.queryables[q.service]? = some service ∧
        ∀ command, service.command = some command → command.RequestNamedBy q.query.encoding := by
  have valid := Automaton.run_invariant (ZenohInput.step_typed config) reached
    ⟨by simp [ZenohInput.boot], by simp [ZenohInput.boot]⟩
  exact ⟨valid.stored,
    fun event t taken j topic info present resolved clean foreign =>
      ZenohInput.step_foreign taken present resolved clean foreign,
    valid.invoked⟩

/-- An inbound vehicle command topic that holds two bytes. -/
def commandRegistry : List CsynTopic :=
  [{ csynTopicDefine (str "vehicle_command") .rx 2 with info := some gVehicleCommandInfo }]

def commandContractText : Str :=
  contractText true (str "synapse.topic.VehicleCommandData")
    (str "ffc2edbf80cfc1e45fd00c6d9443bc0f")

/-- The same wire type and hash in the other media type. -/
def otherLayout : SynapseTopicInfo := { gVehicleCommandInfo with fixedLayout := false }

/-- A sample under a transport wrapper. -/
def wrappedSample : List ZenohEvent :=
  [.sample .input 0
    ⟨some (str "vehicle_command"), some (legacyPrefix ++ commandContractText), ⟨2, [1, 2]⟩⟩ 0]

/-- A sample that claims the other media type. -/
def foreignSample : ZSample :=
  ⟨some (str "vehicle_command"), some (semicolon :: contractText false
    (str "synapse.topic.VehicleCommandData") (str "ffc2edbf80cfc1e45fd00c6d9443bc0f")),
    ⟨2, [3, 4]⟩⟩

set_option maxRecDepth 4096 in
theorem zenoh_input_typed_foreign :
    ∃ s t topic after, Automaton.run (ZenohInput.step .default) (.boot commandRegistry [])
        wrappedSample = some s ∧
      s.stored.length = 1 ∧ s.step .default (.sample .input 0 foreignSample 5) = some t ∧
      s.registry[0]? = some topic ∧ t.registry[0]? = some after ∧ after.SameStore topic := by
  obtain ⟨-, foreign, -⟩ := zenoh_input_typed .default commandRegistry [] wrappedSample _ rfl
  obtain ⟨after, present, same⟩ := foreign (.sample .input 0 foreignSample 5) _ rfl 0 _
    gVehicleCommandInfo rfl rfl (by rintro wireType ⟨⟩; decide)
    ⟨.input, 0, foreignSample, 5, rfl, by decide, otherLayout,
      ⟨_, _, _, rfl, rfl, rfl, [semicolon], by decide, rfl⟩,
      (by rintro wireType ⟨⟩; decide), Or.inl (by decide)⟩
  exact ⟨_, _, _, after, rfl, rfl, rfl, rfl, present, same⟩

end Csyn
