import Csyn.BridgeRefinement
import Csyn.ZenohSession

set_option autoImplicit false

/- Publication through zephyr/src/csyn_zenoh.c: `zenoh_put` and `put_topic_if_updated` on a
topic nobody writes meanwhile. -/
namespace Csyn

/-- A publication as passed to `z_put`; the encoding is the contract it is stamped with. -/
structure ZPut where
  key : Str
  payload : List UInt8
  encoding : Str
  deriving DecidableEq

/-- What the zenoh-pico calls of `zenoh_put` return. -/
structure ZenohPico where
  viewKeyexprFromStr : Str → Int
  bytesCopyFromBuf : List UInt8 → Int
  encodingFromStr : Str → Int
  put : ZPut → Int

section

variable (config : Kconfig) (pico : ZenohPico) (topic : CsynTopic)

/-- `zenoh_put`, where `info` is `topic->info`: the return code and what was passed to `z_put`. -/
def zenohPut (info : SynapseTopicInfo) (payload : List UInt8) : Int × Option ZPut :=
  match topicKeyexpr config topic csynZenohKeyexprMax with
  | none => (-einval, none)
  | some key =>
      if pico.viewKeyexprFromStr key < 0 then (pico.viewKeyexprFromStr key, none)
      else if pico.bytesCopyFromBuf payload < 0 then (pico.bytesCopyFromBuf payload, none)
      else
        let contract := valueContract info csynValueContractMax
        if contract.1 ≤ 0 ∨ contract.1 ≥ csynValueContractMax then (-einval, none)
        else if pico.encodingFromStr contract.2 < 0 then (pico.encodingFromStr contract.2, none)
        else
          let put : ZPut := ⟨key, payload, contract.2⟩
          (pico.put put, some put)

/-- `put_topic_if_updated`: what was passed to `z_put` and the generation it leaves recorded. -/
def putTopicIfUpdatedOnce (lastGeneration : UInt32) : Option ZPut × UInt32 :=
  match topic.info with
  | none => (none, lastGeneration)
  | some info =>
      match copyCsynTopicOnce topic config.flatbufferMaxSize lastGeneration with
      | none => (none, lastGeneration)
      | some (buf, generation) =>
          let sent := zenohPut config pico topic info buf
          (sent.2, if sent.1 = 0 then generation else lastGeneration)

end

/-! ## Contracts that can be built -/

/-- The contract of these fields, unless one is NULL or the text does not fit its buffer. -/
def completeContract (fixedLayout : Bool) (type hash : Option Str) : Option Str :=
  match type, hash with
  | some type, some hash =>
      if (contractText fixedLayout type hash).length < csynValueContractMax then
        some (contractText fixedLayout type hash)
      else none
  | _, _ => none

/-- The contract of a topic's entry. -/
def SynapseTopicInfo.contract (info : SynapseTopicInfo) : Option Str :=
  completeContract info.fixedLayout info.wireType info.schemaHash

/-- A text passes the length test after `snprintf` exactly when the buffer holds it whole. -/
theorem formatKey_eq {text : Str} {outSize : Nat} (nonempty : 0 < text.length)
    (bound : outSize ≤ 2 ^ 31) :
    formatKey text outSize = if text.length < outSize then some text else none := by
  unfold formatKey snprintf
  by_cases fits : text.length < outSize
  · have narrow : text.length < 2 ^ 31 := by omega
    have whole : text.take (outSize - 1) = text := List.take_of_length_le (by omega)
    simp only [if_pos narrow, whole, fits, ↓reduceIte]
    rw [if_pos ⟨by omega, by omega⟩]
  · rw [if_neg fits]
    apply if_neg
    dsimp only
    split <;> omega

theorem completeContract_format (fixedLayout : Bool) (type hash : Str) :
    completeContract fixedLayout (some type) (some hash) =
      formatKey (contractText fixedLayout type hash) csynValueContractMax := by
  rw [formatKey_eq (contractText_length_pos _ _ _) (by decide)]
  rfl

theorem completeContract_some {fixedLayout : Bool} {type hash : Option Str} {contract : Str}
    (complete : completeContract fixedLayout type hash = some contract) :
    ∃ typeText hashText, type = some typeText ∧ hash = some hashText ∧
      contract = contractText fixedLayout typeText hashText ∧
      contract.length < csynValueContractMax := by
  unfold completeContract at complete
  split at complete
  · rename_i typeText hashText
    split at complete
    · rename_i fits
      cases complete
      exact ⟨typeText, hashText, rfl, rfl, rfl, fits⟩
    · cases complete
  · cases complete

/-- What the length test lets through once a contract was built. -/
def usableContract (contract : Int × Str) : Option Str :=
  if 0 < contract.1 ∧ contract.1 < csynValueContractMax then some contract.2 else none

/-- Where the contract of an entry passes the length test, it is complete. -/
theorem valueContract_usable (info : SynapseTopicInfo) :
    usableContract (valueContract info csynValueContractMax) = info.contract := by
  unfold SynapseTopicInfo.contract valueContract
  cases info.wireType with
  | none => rfl
  | some wireType =>
      cases info.schemaHash with
      | none => rfl
      | some schemaHash => exact (completeContract_format _ _ _).symm

/-! ## What is sent -/

section

variable {config : Kconfig} {pico : ZenohPico} {topic : CsynTopic} {info : SynapseTopicInfo}
  {payload : List UInt8}

/-- What reaches `z_put` is the payload with the complete contract of the topic. -/
theorem zenohPut_stamped {put : ZPut}
    (sent : (zenohPut config pico topic info payload).2 = some put) :
    put.payload = payload ∧ info.contract = some put.encoding := by
  unfold zenohPut at sent
  split at sent
  · cases sent
  · split at sent
    · cases sent
    · split at sent
      · cases sent
      · dsimp only at sent
        split at sent
        · cases sent
        · rename_i usable
          split at sent
          · cases sent
          · cases sent
            refine ⟨rfl, ?_⟩
            rw [← valueContract_usable]
            apply if_pos
            omega

/-- It returns 0 only when `z_put` was called. -/
theorem zenohPut_succeeds (returned : (zenohPut config pico topic info payload).1 = 0) :
    ∃ put, (zenohPut config pico topic info payload).2 = some put := by
  unfold zenohPut einval at returned ⊢
  split at returned
  · cases returned
  · split at returned
    · dsimp only at returned
      omega
    · rename_i keyed
      split at returned
      · dsimp only at returned
        omega
      · rename_i copied
        dsimp only at returned ⊢
        split at returned
        · cases returned
        · rename_i usable
          split at returned
          · dsimp only at returned
            omega
          · rename_i encoded
            rw [if_neg keyed, if_neg copied, if_neg usable, if_neg encoded]
            exact ⟨_, rfl⟩

/-- What the next poll does is decided by what it copies. -/
theorem putTopicIfUpdatedOnce_copied {lastGeneration generation : UInt32}
    (resolved : topic.info = some info)
    (copied : copyCsynTopicOnce topic config.flatbufferMaxSize lastGeneration =
      some (payload, generation)) :
    putTopicIfUpdatedOnce config pico topic lastGeneration =
      ((zenohPut config pico topic info payload).2,
        if (zenohPut config pico topic info payload).1 = 0 then generation
        else lastGeneration) := by
  unfold putTopicIfUpdatedOnce
  rw [resolved, copied]

/-- A poll that nothing disturbs passes on what the sequential function does. `sent` is
`zenoh_put` returning 0. -/
theorem putTopicIfUpdated_undisturbed {s t : Polling} {scratch : ByteMemory}
    {actions : List CopyAction} {sent : Bool} (resolved : s.store.topic.info = some info)
    (idle : s.poller.pc = .idle)
    (ran : Automaton.run (Polling.step (putTopicIfUpdated config)) s
      (.poll scratch :: (actions.map .copy ++ [.hand sent])) = some t) :
    ∃ h, t.handed = s.handed ++ [h] ∧
      ((sent = true ↔
          (zenohPut config pico s.store.topic info (h.buf.load 0 h.length.toNat)).1 = 0) →
        putTopicIfUpdatedOnce config pico s.store.topic s.poller.lastGeneration =
          ((zenohPut config pico s.store.topic info (h.buf.load 0 h.length.toNat)).2,
            t.poller.lastGeneration)) := by
  obtain ⟨bytes, generation, h, copied, handed, rfl, -, recorded⟩ :=
    Polling.poll_undisturbed idle ran
  refine ⟨h, handed, ?_⟩
  intro returned
  rw [putTopicIfUpdatedOnce_copied resolved copied, recorded,
    show (putTopicIfUpdated config).records sent = sent from rfl]
  by_cases success : sent = true
  · rw [if_pos success, if_pos (returned.mp success)]
  · rw [if_neg success, if_neg (fun zero => success (returned.mpr zero))]

end

end Csyn
