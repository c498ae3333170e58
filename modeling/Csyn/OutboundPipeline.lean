import Csyn.PollerInvariant

set_option autoImplicit false

/- One bridged TX topic from the application to the wire: zros, `mirror_tx_if_updated`
of the bridge, the store, and `put_topic_if_updated` of the Zenoh thread with its
sessions. The mirror is the store's only writer. -/
namespace Csyn

/-- `struct zros_topic` as the bridge sees it, for messages of `n` bytes. An
application's update changes message and generation in one step. -/
structure ZrosTopic (n : Nat) where
  locklessGeneration : UInt32
  message : Vector UInt8 n

/-- `csyn_zros_generation`; an undefined weak symbol is `none`. -/
def csynZrosGeneration {n : Nat} (topic : Option (ZrosTopic n)) : UInt32 :=
  match topic with
  | none => 0
  | some topic => topic.locklessGeneration

/-- Where `mirror_tx_if_updated` stands with the zros generation it read. -/
inductive MirrorPc where
  | idle
  | reading (generation : UInt32)
  | calling (generation : UInt32)
  | publishing (generation : UInt32)
  | recording (generation : UInt32)
  deriving DecidableEq

/-- The entry of `g_tx_maps`. `read` is a history variable: the number of the update
in `msg`. -/
structure BridgeTxMap (n : Nat) where
  msg : Vector UInt8 n
  lastGeneration : UInt32
  pc : MirrorPc
  read : Nat

/-- `updates` (the application's messages) and `origins` (the number of the update each
publish of the store carries) are history variables, oldest first. -/
structure Outbound (n : Nat) where
  zros : ZrosTopic n
  map : BridgeTxMap n
  polling : Polling
  updates : List (Vector UInt8 n)
  origins : List Nat

inductive OutboundAction (n : Nat) where
  | update (message : Vector UInt8 n)
  | mirrorPoll
  | mirrorRead
  | mirrorReadFails (msg : Vector UInt8 n)
  | mirrorCall
  | mirrorPublish (action : PublishAction)
  | mirrorRecord
  | poll (scratch : ByteMemory)
  | copy (action : CopyAction)
  | put (ok : Bool)
  | reopen

def Outbound.boot {n : Nat} (message : Vector UInt8 n) (store : Store) : Outbound n where
  zros := ⟨0, message⟩
  map := ⟨message, 0, .idle, 0⟩
  polling := .boot store
  updates := []
  origins := []

/-- After a step of `csyn_topic_publish` the mirror is either still inside the call or
about to record. -/
def MirrorPc.afterWrite (generation : UInt32) (writer : PublishPc) : MirrorPc :=
  if writer = .idle then .recording generation else .publishing generation

/-- A step of the store's writer on behalf of the mirror. -/
def Outbound.write {n : Nat} (config : Kconfig) (s : Outbound n) (generation : UInt32)
    (action : PublishAction) : Option (Outbound n) :=
  (s.polling.step (putTopicIfUpdated config) (.writer action)).map fun polling =>
    { s with
      polling := polling
      map := { s.map with pc := .afterWrite generation polling.store.writer }
      origins := s.origins ++ (completes s.polling.store.writer action).map fun _ => s.map.read }

def Outbound.step {n : Nat} (config : Kconfig) (s : Outbound n) (action : OutboundAction n) :
    Option (Outbound n) :=
  match action, s.map.pc with
  | .update message, _ =>
      some { s with
        zros := ⟨s.zros.locklessGeneration + 1, message⟩
        updates := s.updates ++ [message] }
  | .mirrorPoll, .idle =>
      let generation := csynZrosGeneration (some s.zros)
      if generation = 0 ∨ generation = s.map.lastGeneration then some s
      else some { s with map := { s.map with pc := .reading generation } }
  | .mirrorRead, .reading generation =>
      some { s with map := { s.map with
        msg := s.zros.message, read := s.updates.length, pc := .calling generation } }
  | .mirrorReadFails msg, .reading _ =>
      some { s with map := { s.map with msg := msg, pc := .idle } }
  | .mirrorCall, .calling generation =>
      s.write config generation (.call (some s.map.msg.toList))
  | .mirrorPublish action, .publishing generation => s.write config generation action
  | .mirrorRecord, .recording generation =>
      some { s with map := { s.map with lastGeneration := generation, pc := .idle } }
  | .poll scratch, _ =>
      (s.polling.step (putTopicIfUpdated config) (.poll scratch)).map fun p =>
        { s with polling := p }
  | .copy action, _ =>
      (s.polling.step (putTopicIfUpdated config) (.copy action)).map fun p =>
        { s with polling := p }
  | .put ok, _ =>
      (s.polling.step (putTopicIfUpdated config) (.hand ok)).map fun p =>
        { s with polling := p }
  | .reopen, _ =>
      (s.polling.step (putTopicIfUpdated config) .reopen).map fun p =>
        { s with polling := p }
  | _, _ => none

/-- The payloads successfully put in the current session, oldest first. -/
def Outbound.puts {n : Nat} (s : Outbound n) : List Handed :=
  s.polling.handed.filter fun h => h.sent

def Handed.payload (h : Handed) : List UInt8 := h.buf.load 0 h.length.toNat

/-- The number of the zros update that a put carried. -/
def Outbound.originOf {n : Nat} (s : Outbound n) (h : Handed) : Nat :=
  (s.origins[h.sample.toNat - 1]?).getD 0

/-- Everything a step of the pipeline can do. -/
theorem Outbound.step_cases {n : Nat} {config : Kconfig} {s t : Outbound n}
    {action : OutboundAction n} (taken : s.step config action = some t) :
    (∃ message, t = { s with
        zros := ⟨s.zros.locklessGeneration + 1, message⟩
        updates := s.updates ++ [message] }) ∨
    (s.map.pc = .idle ∧ t = s) ∨
    (s.map.pc = .idle ∧ s.zros.locklessGeneration ≠ s.map.lastGeneration ∧
      t = { s with map := { s.map with pc := .reading s.zros.locklessGeneration } }) ∨
    (∃ generation, s.map.pc = .reading generation ∧
      t = { s with map := { s.map with
        msg := s.zros.message, read := s.updates.length, pc := .calling generation } }) ∨
    (∃ generation msg, s.map.pc = .reading generation ∧
      t = { s with map := { s.map with msg := msg, pc := .idle } }) ∨
    (∃ generation, s.map.pc = .calling generation ∧
      s.write config generation (.call (some s.map.msg.toList)) = some t) ∨
    (∃ generation action, s.map.pc = .publishing generation ∧
      s.write config generation action = some t) ∨
    (∃ generation, s.map.pc = .recording generation ∧
      t = { s with map := { s.map with lastGeneration := generation, pc := .idle } }) ∨
    (∃ action polling, (∀ write, action ≠ .writer write) ∧
      s.polling.step (putTopicIfUpdated config) action = some polling ∧
      t = { s with polling := polling }) := by
  unfold Outbound.step at taken
  split at taken
  · rename_i message
    exact Or.inl ⟨message, (Option.some.inj taken).symm⟩
  · rename_i at_rest
    dsimp only [csynZrosGeneration] at taken
    split at taken
    · exact Or.inr (Or.inl ⟨at_rest, (Option.some.inj taken).symm⟩)
    · rename_i due
      rw [not_or] at due
      exact Or.inr (Or.inr (Or.inl ⟨at_rest, due.2, (Option.some.inj taken).symm⟩))
  · rename_i generation at_read
    exact Or.inr (Or.inr (Or.inr (Or.inl ⟨generation, at_read, (Option.some.inj taken).symm⟩)))
  · rename_i msg generation at_read
    exact Or.inr (Or.inr (Or.inr (Or.inr (Or.inl
      ⟨generation, msg, at_read, (Option.some.inj taken).symm⟩))))
  · rename_i generation at_call
    exact Or.inr (Or.inr (Or.inr (Or.inr (Or.inr (Or.inl ⟨generation, at_call, taken⟩)))))
  · rename_i write generation at_publish
    exact Or.inr (Or.inr (Or.inr (Or.inr (Or.inr (Or.inr (Or.inl
      ⟨generation, write, at_publish, taken⟩))))))
  · rename_i generation at_record
    exact Or.inr (Or.inr (Or.inr (Or.inr (Or.inr (Or.inr (Or.inr (Or.inl
      ⟨generation, at_record, (Option.some.inj taken).symm⟩)))))))
  iterate 4
    · obtain ⟨polling, stepped, same⟩ := Option.map_eq_some_iff.mp taken
      exact Or.inr (Or.inr (Or.inr (Or.inr (Or.inr (Or.inr (Or.inr (Or.inr
        ⟨_, polling, by rintro write ⟨⟩, stepped, same.symm⟩)))))))
  · cases taken

end Csyn
