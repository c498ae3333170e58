import Csyn.StoreInvariant

set_option autoImplicit false

/- The three functions that forward a topic when its generation changed:
`copy_csyn_topic` of the zros bridge, `put_topic_if_updated` of the Zenoh transport
and `tx_topic_if_updated` of the UDP transport. They share one pattern, with the
writer free to run between any two of their accesses. -/
namespace Csyn

/-- What distinguishes the pollers: the capacity passed to `csyn_topic_copy`, whether
the buffer is static, whether they need catalog info, whether the bookkeeping is
started over with each session, and when `*last_generation` is written. -/
structure PollRule where
  bufSize : Nat
  staticBuf : Bool
  needsInfo : Bool
  sessions : Bool
  records : Bool → Bool

/-- `copy_csyn_topic`: recorded once the copy succeeded. -/
def copyCsynTopic (bufSize : Nat) (staticBuf : Bool) : PollRule where
  bufSize := bufSize
  staticBuf := staticBuf
  needsInfo := false
  sessions := false
  records := fun _ => true

/-- `put_topic_if_updated`: recorded if `zenoh_put` returned 0. -/
def putTopicIfUpdated (config : Kconfig) : PollRule where
  bufSize := config.flatbufferMaxSize
  staticBuf := false
  needsInfo := true
  sessions := true
  records := fun sent => sent

/-- `tx_topic_if_updated`: recorded whatever `sendto` returned. -/
def txTopicIfUpdated (config : Kconfig) : PollRule where
  bufSize := config.flatbufferMaxSize
  staticBuf := false
  needsInfo := true
  sessions := false
  records := fun _ => true

/-- Where a poll stands. `generation` is the reading it will record, `sample` the
generation the copy validated; `csyn_topic_copy` is called with a NULL generation
pointer, so the code never sees the latter. -/
inductive PollPc where
  | idle
  | copying (generation : UInt32) (pc : CopyPc)
  | copied (generation : UInt32) (length : UInt16) (sample : UInt32)
  deriving DecidableEq

structure Poller where
  lastGeneration : UInt32
  pc : PollPc
  buf : ByteMemory

/-- A sample handed on: to the caller, to `zenoh_put` or to `sendto`. -/
structure Handed where
  sample : UInt32
  length : UInt16
  buf : ByteMemory
  sent : Bool

/-- One topic with its writer and one poller. `handed` is a history variable, oldest
first, of the current session where there are sessions. -/
structure Polling where
  store : Store
  poller : Poller
  handed : List Handed

inductive PollingAction where
  | writer (action : PublishAction)
  | poll (scratch : ByteMemory)
  | copy (action : CopyAction)
  | hand (sent : Bool)
  | reopen

def Polling.boot (store : Store) : Polling where
  store := store
  poller := ⟨0, .idle, fun _ => 0⟩
  handed := []

/-- `poll` calls the function and reads the generation, `scratch` is what a local
buffer happens to contain, `hand` does what follows a successful copy. -/
def Polling.step (rule : PollRule) (s : Polling) (action : PollingAction) : Option Polling :=
  match action, s.poller.pc with
  | .writer action, _ => (s.store.publish action).map fun store => { s with store := store }
  | .poll scratch, .idle =>
      let generation := csynTopicGeneration (some s.store.topic)
      if (rule.needsInfo ∧ s.store.topic.info = none) ∨ generation = 0 ∨
          generation = s.poller.lastGeneration then some s
      else
        some { s with poller := { s.poller with
          pc := .copying generation .atLoop
          buf := if rule.staticBuf then s.poller.buf else scratch } }
  | .copy action, .copying generation pc =>
      match copyStep s.store.topic rule.bufSize pc s.poller.buf action with
      | none => none
      | some (.running pc buf) =>
          some { s with poller := { s.poller with pc := .copying generation pc, buf := buf } }
      | some (.failed buf) => some { s with poller := { s.poller with pc := .idle, buf := buf } }
      | some (.copied length sample buf) =>
          some { s with poller := { s.poller with
            pc := .copied generation length sample, buf := buf } }
  | .hand sent, .copied generation length sample =>
      some { s with
        poller := { s.poller with
          lastGeneration := if rule.records sent then generation else s.poller.lastGeneration
          pc := .idle }
        handed := s.handed ++ [⟨sample, length, s.poller.buf, sent⟩] }
  | .reopen, .idle =>
      if rule.sessions then
        some { s with poller := { s.poller with lastGeneration := 0 }, handed := [] }
      else none
  | _, _ => none

/-- Everything a step of the poller or its writer can do. -/
theorem Polling.step_cases {rule : PollRule} {s t : Polling} {action : PollingAction}
    (taken : s.step rule action = some t) :
    (∃ write store, action = .writer write ∧ s.store.publish write = some store ∧
      t = { s with store := store }) ∨
    (∃ scratch, action = .poll scratch ∧ s.poller.pc = .idle ∧ t = s) ∨
    (∃ scratch buf, action = .poll scratch ∧ s.poller.pc = .idle ∧
      s.store.topic.generation ≠ 0 ∧ s.store.topic.generation ≠ s.poller.lastGeneration ∧
      t = { s with poller := { s.poller with
        pc := .copying s.store.topic.generation .atLoop, buf := buf } }) ∨
    (∃ move generation pc pc' buf, action = .copy move ∧ s.poller.pc = .copying generation pc ∧
      copyStep s.store.topic rule.bufSize pc s.poller.buf move = some (.running pc' buf) ∧
      t = { s with poller := { s.poller with pc := .copying generation pc', buf := buf } }) ∨
    (∃ move generation pc buf, action = .copy move ∧ s.poller.pc = .copying generation pc ∧
      copyStep s.store.topic rule.bufSize pc s.poller.buf move = some (.failed buf) ∧
      t = { s with poller := { s.poller with pc := .idle, buf := buf } }) ∨
    (∃ move generation pc length sample buf, action = .copy move ∧
      s.poller.pc = .copying generation pc ∧
      copyStep s.store.topic rule.bufSize pc s.poller.buf move =
        some (.copied length sample buf) ∧
      t = { s with poller := { s.poller with
        pc := .copied generation length sample, buf := buf } }) ∨
    (∃ sent generation length sample, action = .hand sent ∧
      s.poller.pc = .copied generation length sample ∧
      t = { s with
        poller := { s.poller with
          lastGeneration := if rule.records sent then generation else s.poller.lastGeneration
          pc := .idle }
        handed := s.handed ++ [⟨sample, length, s.poller.buf, sent⟩] }) ∨
    (action = .reopen ∧ s.poller.pc = .idle ∧ rule.sessions = true ∧
      t = { s with poller := { s.poller with lastGeneration := 0 }, handed := [] }) := by
  unfold Polling.step at taken
  split at taken
  · rename_i write
    rw [Option.map_eq_some_iff] at taken
    obtain ⟨store, published, rfl⟩ := taken
    exact Or.inl ⟨write, store, rfl, published, rfl⟩
  · rename_i scratch at_rest
    dsimp only [csynTopicGeneration] at taken
    split at taken
    · cases taken
      exact Or.inr (Or.inl ⟨scratch, rfl, at_rest, rfl⟩)
    · rename_i due
      rw [not_or, not_or] at due
      cases taken
      exact Or.inr (Or.inr (Or.inl ⟨scratch, _, rfl, at_rest, due.2.1, due.2.2, rfl⟩))
  · rename_i move generation pc at_copy
    split at taken
    · cases taken
    · rename_i pc' buf stepped
      cases taken
      exact Or.inr (Or.inr (Or.inr (Or.inl
        ⟨move, generation, pc, pc', buf, rfl, at_copy, stepped, rfl⟩)))
    · rename_i buf stepped
      cases taken
      exact Or.inr (Or.inr (Or.inr (Or.inr (Or.inl
        ⟨move, generation, pc, buf, rfl, at_copy, stepped, rfl⟩))))
    · rename_i length sample buf stepped
      cases taken
      exact Or.inr (Or.inr (Or.inr (Or.inr (Or.inr (Or.inl
        ⟨move, generation, pc, length, sample, buf, rfl, at_copy, stepped, rfl⟩)))))
  · rename_i sent generation length sample at_hand
    cases taken
    exact Or.inr (Or.inr (Or.inr (Or.inr (Or.inr (Or.inr (Or.inl
      ⟨sent, generation, length, sample, rfl, at_hand, rfl⟩))))))
  · rename_i at_rest
    split at taken
    · rename_i sessions
      cases taken
      exact Or.inr (Or.inr (Or.inr (Or.inr (Or.inr (Or.inr (Or.inr
        ⟨rfl, at_rest, sessions, rfl⟩))))))
    · cases taken
  · cases taken

end Csyn
