import Csyn.BridgePublishers
import Csyn.StoreHistory

set_option autoImplicit false

/- Where the samples that the bridge copies come from: each was offered to its topic, by a
transport, the application or the mirror. -/
namespace Csyn

/-- A copy of the topic can return these bytes. -/
def CsynTopic.Returns (topic : CsynTopic) (bytes : List UInt8) : Prop :=
  ∃ bufSize generation, csynTopicCopy topic bufSize = some (bytes, generation)

theorem CsynTopic.Unwritten.not_returns {topic : CsynTopic} (unwritten : topic.Unwritten)
    (bytes : List UInt8) : ¬ topic.Returns bytes := by
  rintro ⟨bufSize, generation, copied⟩
  rw [csynTopicCopy_unpublished bufSize unwritten.generation] at copied
  cases copied

/-- What a copy returns after a call is what it returned before, or what was just accepted. -/
theorem csynTopicPublish_returned {topic : CsynTopic} {buf : Option (List UInt8)}
    {bytes : List UInt8} (returned : (csynTopicPublish topic buf).2.Returns bytes) :
    topic.Returns bytes ∨ buf = some bytes := by
  cases fits : topic.accepts buf with
  | false =>
      rw [csynTopicPublish_rejected fits] at returned
      exact Or.inl returned
  | true =>
      cases buf with
      | none => cases fits
      | some sample =>
          obtain ⟨bufSize, generation, copied⟩ := returned
          obtain ⟨live, rfl, sized, -, room⟩ := csynTopicCopy_cases copied
          have holds := csynTopicPublish_holds fits
          have accepts := (csynTopicPublish_sameDeclaration topic (some sample)).accepts
            (some sample) |>.trans fits
          have narrow : sample.length < 2 ^ 16 :=
            Nat.lt_of_le_of_lt (CsynTopic.accepts_some.mp fits).2 (UInt16.toNat_lt _)
          have whole : bytes.length = sample.length := by
            rw [sized, holds.length, UInt16.toNat_ofNat', Nat.mod_eq_of_lt narrow]
          rw [holds.copy live accepts (whole ▸ room), Option.some.injEq, Prod.mk.injEq] at copied
          rw [copied.1]
          exact Or.inr rfl

theorem publishAt_returned {registry : List CsynTopic} {i j : Nat} {buf : Option (List UInt8)}
    {topic : CsynTopic} {bytes : List UInt8}
    (present : (publishAt registry i buf)[j]? = some topic) (returned : topic.Returns bytes) :
    (∃ before : CsynTopic, registry[j]? = some before ∧ before.Returns bytes) ∨
      (i = j ∧ buf = some bytes) := by
  by_cases same : i = j
  · subst same
    cases found : registry[i]? with
    | none =>
        rw [publishAt, found, found] at present
        cases present
    | some before =>
        rw [publishAt_self found, Option.some.injEq] at present
        subst present
        rcases csynTopicPublish_returned returned with earlier | now
        · exact Or.inl ⟨before, rfl, earlier⟩
        · exact Or.inr ⟨rfl, now⟩
  · rw [publishAt_other buf same] at present
    exact Or.inl ⟨topic, present, returned⟩

/-- The action offers the bytes to a topic, itself or through the zros topic mirrored into it. -/
def BridgeAction.Feeds (registry : List CsynTopic) (i : Nat) (bytes : List UInt8) :
    BridgeAction → Prop
  | .receive j buf => j = i ∧ buf = some bytes
  | .zrosUpdate map message => csynTopicFind registry (some map.csynKey) = some i ∧ message = bytes
  | .init => False
  | .call _ _ => False

/-- What the stores can return, and what the mirror may still publish, is allowed. -/
structure Bridge.Fed (registry : List CsynTopic) (allowed : Nat → List UInt8 → Prop)
    (s : Bridge) : Prop where
  stored : ∀ i, ∀ topic : CsynTopic, s.registry[i]? = some topic → ∀ bytes, topic.Returns bytes →
    allowed i bytes
  waiting : ∀ map i, csynTopicFind registry (some map.csynKey) = some i →
    s.zrosGeneration map ≠ 0 → allowed i (s.zrosMessage map)
  mirrored : ∀ map i, s.txCsyn map = some i → csynTopicFind registry (some map.csynKey) = some i

/-- What a call does to the stores: nothing, or it mirrors a message that is there. -/
structure Bridge.Mirrors (s after : Bridge) : Prop where
  registry : after.registry = s.registry ∨ ∃ map i, s.txCsyn map = some i ∧
    s.zrosGeneration map ≠ 0 ∧ after.registry = publishAt s.registry i (some (s.zrosMessage map))
  zrosGeneration : after.zrosGeneration = s.zrosGeneration
  zrosMessage : after.zrosMessage = s.zrosMessage

section

variable {image : BridgeImage} {registry : List CsynTopic} {allowed : Nat → List UInt8 → Prop}

theorem Bridge.call_mirrors (image : BridgeImage) (s : Bridge) (thread : BridgeThread)
    (uptime : Int) (readOk : Bool) : s.Mirrors (s.call image thread uptime readOk).1 := by
  have idle : s.Mirrors s := ⟨Or.inl rfl, rfl, rfl⟩
  cases calling : thread.next with
  | publish pub =>
      obtain ⟨inertial, odometry, updates, same⟩ :=
        Bridge.call_publishing (s := s) calling uptime readOk
      rw [same]
      exact ⟨Or.inl rfl, rfl, rfl⟩
  | mirror map rest =>
      rw [Bridge.call_mirroring calling]
      unfold Bridge.mirrorTxIfUpdated
      split
      · rename_i i bridged found
        dsimp only
        split
        · exact idle
        · rename_i due
          split
          · exact ⟨Or.inr ⟨map, i, found, fun zero => due (Or.inl zero), rfl⟩, rfl, rfl⟩
          · exact idle
      · exact idle

theorem Bridge.boot_fed (unwritten : ∀ topic ∈ registry, topic.Unwritten) :
    (Bridge.boot image registry).Fed registry allowed := by
  refine ⟨?_, fun map i _ live => absurd rfl live, fun map i found => by cases found⟩
  intro i topic present bytes returned
  exact absurd returned ((unwritten topic (List.mem_of_getElem? present)).not_returns bytes)

/-- The stores after an allowed sample is offered. -/
theorem Bridge.Fed.publish {s : Bridge} {i : Nat} {buf : Option (List UInt8)}
    (valid : s.Fed registry allowed) (offered : ∀ bytes, buf = some bytes → allowed i bytes) :
    ({ s with registry := publishAt s.registry i buf } : Bridge).Fed registry allowed := by
  refine ⟨?_, valid.waiting, valid.mirrored⟩
  intro j topic present bytes returned
  rcases publishAt_returned present returned with ⟨before, found, earlier⟩ | ⟨rfl, now⟩
  · exact valid.stored j before found bytes earlier
  · exact offered bytes now

/-- What a call mirrors was offered. -/
theorem Bridge.Fed.call {s : Bridge} (valid : s.Fed registry allowed) (image : BridgeImage)
    (thread : BridgeThread) (uptime : Int) (readOk : Bool) :
    (s.call image thread uptime readOk).1.Fed registry allowed := by
  obtain ⟨stores, generation, message⟩ := s.call_mirrors image thread uptime readOk
  refine ⟨?_, ?_, ?_⟩
  · rcases stores with same | ⟨map, i, found, live, same⟩
    · rw [same]
      exact valid.stored
    · have offered : allowed i (s.zrosMessage map) :=
        valid.waiting map i (valid.mirrored map i found) live
      rw [same]
      refine (valid.publish ?_).stored
      rintro bytes ⟨⟩
      exact offered
  · rw [generation, message]
    exact valid.waiting
  · rw [(s.call_effect image thread uptime readOk).txCsyn]
    exact valid.mirrored

/-- A step whose sample, if it has one, is allowed. -/
theorem Bridge.step_fed {s t : Bridge} {action : BridgeAction}
    (taken : s.step image action = some t) (sound : s.Sound image registry)
    (offers : ∀ i bytes, action.Feeds registry i bytes → allowed i bytes)
    (valid : s.Fed registry allowed) : t.Fed registry allowed := by
  cases action with
  | receive i buf =>
      cases taken
      exact valid.publish fun bytes same => offers i bytes ⟨rfl, same⟩
  | zrosUpdate map message =>
      obtain ⟨-, rfl⟩ := Bridge.step_zrosUpdate taken
      refine ⟨valid.stored, ?_, valid.mirrored⟩
      intro other i found live
      dsimp only at live ⊢
      by_cases same : other = map
      · subst same
        rw [Function.update_self]
        exact offers i message ⟨found, rfl⟩
      · rw [Function.update_of_ne same] at live ⊢
        exact valid.waiting other i found live
  | init =>
      obtain ⟨-, rfl⟩ := Bridge.step_init taken
      refine ⟨valid.stored, valid.waiting, ?_⟩
      intro map i found
      rw [← csynTopicFind_congr sound.declared]
      exact found
  | call uptime readOk =>
      obtain ⟨thread, -, rfl⟩ := Bridge.step_called taken
      have called := valid.call image thread uptime readOk
      exact ⟨called.stored, called.waiting, called.mirrored⟩

/-- The bridge copies allowed samples only, from a topic that has room for them. -/
theorem Bridge.Fed.copied {s : Bridge} {thread after : BridgeThread} {pub : BridgePub}
    {bufSize : Nat} {bytes : List UInt8} (valid : s.Fed registry allowed)
    (sound : s.Sound image registry) (running : s.thread = some thread)
    (copied : s.copied thread pub bufSize = some (bytes, after)) :
    ∃ i, image.topicOf registry pub = some i ∧ allowed i bytes ∧
      ∃ topic : CsynTopic, registry[i]? = some topic ∧ topic.accepts (some bytes) = true := by
  obtain ⟨⟨i, topic, generation, found, present, copy⟩, -, -⟩ := Bridge.copied_some copied
  rw [(sound.ready thread running).1] at found
  obtain ⟨-, positive, fits, -⟩ := csynTopicCopy_sized
    (sound.bounded topic (List.mem_of_getElem? present)) copy
  obtain ⟨before, here, declaration⟩ := sound.declared.symm.get present
  have allows := valid.stored i topic present bytes ⟨bufSize, generation, copy⟩
  refine ⟨i, found, allows, before, here, ?_⟩
  rw [CsynTopic.accepts_some, declaration.maxSize]
  exact ⟨positive, fits⟩

end

end Csyn
