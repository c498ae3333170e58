import Csyn.PollerInvariant
import Csyn.UdpFrames
import Csyn.ZenohSession

set_option autoImplicit false

/- `csyn_zenoh_thread` of zephyr/src/csyn_zenoh.c and `csyn_udp_thread` of
zephyr/src/csyn_native_udp.c over all topics of a board, with the writers of the topics free to
run between any two of the thread's accesses. -/
namespace Csyn

/-- `CSYN_UDP_MAX_TOPICS` -/
def csynUdpMaxTopics : Nat := 32

/-- What distinguishes the threads: what they do with a topic, and the length of their
`last_generation`. -/
structure ThreadRule where
  poll : PollRule
  maxTopics : Nat

def csynUdpThread (config : Kconfig) : ThreadRule := ⟨txTopicIfUpdated config, csynUdpMaxTopics⟩

/-- Where a thread is: before its check of the number of topics (with Zenoh at `open_session`),
gone, between two sweeps over the topics, or at topic `i` of a sweep. -/
inductive ThreadPc where
  | opening
  | returned
  | resting
  | sweeping (i : Nat)
  | copying (i : Nat) (generation : UInt32) (pc : CopyPc)
  | copied (i : Nat) (generation : UInt32) (length : UInt16) (sample : UInt32)
  deriving DecidableEq

/-- A sample that was handed on, with its topic and the sweep it was handed on in. -/
structure Dispatch where
  sweep : Nat
  topic : Nat
  sample : Handed

/-- The topics with their writers, the thread and its array. `sweeps` (the sweeps begun) and
`dispatched` (oldest first, of the current session where there are sessions) are history
variables. -/
structure TransportThread where
  stores : List Store
  pc : ThreadPc
  lastGeneration : Nat → UInt32
  buf : ByteMemory
  sweeps : Nat
  dispatched : List Dispatch

inductive ThreadAction where
  | writer (i : Nat) (action : PublishAction)
  | start (opened : Bool)
  | next (closed : Bool)
  | visit (scratch : ByteMemory)
  | copy (action : CopyAction)
  | hand (sent : Bool)

/-- A topic of the registry before its first sample. -/
def Store.fresh (topic : CsynTopic) : Store := ⟨topic, .idle, []⟩

def TransportThread.boot (registry : List CsynTopic) : TransportThread where
  stores := registry.map Store.fresh
  pc := .opening
  lastGeneration := fun _ => 0
  buf := fun _ => 0
  sweeps := 0
  dispatched := []

/-- A session starts with its own `last_generation`; without sessions there is one. -/
def TransportThread.begun (rule : ThreadRule) (s : TransportThread) : TransportThread :=
  if rule.poll.sessions then { s with lastGeneration := fun _ => 0, dispatched := [] } else s

theorem TransportThread.begun_stores (rule : ThreadRule) (s : TransportThread) :
    (s.begun rule).stores = s.stores := by
  unfold TransportThread.begun
  split
  · rfl
  · rfl

/-- `start` opens the session, if there are sessions, and checks the number of topics; `next`
begins a sweep while the session is not closed; `visit` looks at the next topic of a sweep, for
which `hand` does what follows a successful copy. -/
def TransportThread.step (rule : ThreadRule) (s : TransportThread) (action : ThreadAction) :
    Option TransportThread :=
  match action, s.pc with
  | .writer i action, _ =>
      match s.stores[i]? with
      | none => none
      | some store =>
          (store.publish action).map fun store => { s with stores := s.stores.set i store }
  | .start opened, .opening =>
      if rule.poll.sessions && !opened then some s
      else if s.stores.length > rule.maxTopics then some { s.begun rule with pc := .returned }
      else some { s.begun rule with pc := .resting }
  | .next closed, .resting =>
      if rule.poll.sessions && closed then some { s with pc := .opening }
      else some { s with pc := .sweeping 0, sweeps := s.sweeps + 1 }
  | .visit scratch, .sweeping i =>
      match s.stores[i]? with
      | none => some { s with pc := .resting }
      | some store =>
          let generation := csynTopicGeneration (some store.topic)
          if store.topic.dir ≠ .tx then some { s with pc := .sweeping (i + 1) }
          else if (rule.poll.needsInfo ∧ store.topic.info = none) ∨ generation = 0 ∨
              generation = s.lastGeneration i then
            some { s with pc := .sweeping (i + 1) }
          else some { s with pc := .copying i generation .atLoop, buf := scratch }
  | .copy action, .copying i generation pc =>
      match s.stores[i]? with
      | none => none
      | some store =>
          match copyStep store.topic rule.poll.bufSize pc s.buf action with
          | none => none
          | some (.running pc buf) => some { s with pc := .copying i generation pc, buf := buf }
          | some (.failed buf) => some { s with pc := .sweeping (i + 1), buf := buf }
          | some (.copied length sample buf) =>
              some { s with pc := .copied i generation length sample, buf := buf }
  | .hand sent, .copied i generation length sample =>
      some { s with
        pc := .sweeping (i + 1)
        lastGeneration := if rule.poll.records sent then
          Function.update s.lastGeneration i generation else s.lastGeneration
        dispatched := s.dispatched ++ [⟨s.sweeps, i, ⟨sample, length, s.buf, sent⟩⟩] }
  | _, _ => none

section

variable {rule : ThreadRule} {s t : TransportThread} {action : ThreadAction}

/-- Everything a step can do. -/
inductive TransportThread.Took (rule : ThreadRule) (s : TransportThread) :
    ThreadAction → TransportThread → Prop where
  | write {i : Nat} {store after : Store} {write : PublishAction}
      (present : s.stores[i]? = some store) (published : store.publish write = some after) :
      Took rule s (.writer i write) { s with stores := s.stores.set i after }
  | refuse {opened : Bool} (at_open : s.pc = .opening) : Took rule s (.start opened) s
  | leave {opened : Bool} (at_open : s.pc = .opening) (many : rule.maxTopics < s.stores.length) :
      Took rule s (.start opened) { s.begun rule with pc := .returned }
  | enter {opened : Bool} (at_open : s.pc = .opening) (few : s.stores.length ≤ rule.maxTopics) :
      Took rule s (.start opened) { s.begun rule with pc := .resting }
  | close {closed : Bool} (at_rest : s.pc = .resting) :
      Took rule s (.next closed) { s with pc := .opening }
  | sweep {closed : Bool} (at_rest : s.pc = .resting) :
      Took rule s (.next closed) { s with pc := .sweeping 0, sweeps := s.sweeps + 1 }
  | finish {i : Nat} {scratch : ByteMemory} (at_visit : s.pc = .sweeping i) :
      Took rule s (.visit scratch) { s with pc := .resting }
  | pass {i : Nat} {scratch : ByteMemory} (at_visit : s.pc = .sweeping i)
      (inside : i < s.stores.length) :
      Took rule s (.visit scratch) { s with pc := .sweeping (i + 1) }
  | poll {i : Nat} {scratch : ByteMemory} {store : Store} (at_visit : s.pc = .sweeping i)
      (present : s.stores[i]? = some store) (sends : store.topic.dir = .tx)
      (due : ¬ ((rule.poll.needsInfo ∧ store.topic.info = none) ∨ store.topic.generation = 0 ∨
        store.topic.generation = s.lastGeneration i)) :
      Took rule s (.visit scratch)
        { s with pc := .copying i store.topic.generation .atLoop, buf := scratch }
  | move {i : Nat} {generation : UInt32} {pc after : CopyPc} {store : Store} {buf : ByteMemory}
      {move : CopyAction} (at_copy : s.pc = .copying i generation pc)
      (present : s.stores[i]? = some store)
      (stepped : copyStep store.topic rule.poll.bufSize pc s.buf move =
        some (.running after buf)) :
      Took rule s (.copy move) { s with pc := .copying i generation after, buf := buf }
  | fail {i : Nat} {generation : UInt32} {pc : CopyPc} {store : Store} {buf : ByteMemory}
      {move : CopyAction} (at_copy : s.pc = .copying i generation pc)
      (present : s.stores[i]? = some store)
      (stepped : copyStep store.topic rule.poll.bufSize pc s.buf move = some (.failed buf)) :
      Took rule s (.copy move) { s with pc := .sweeping (i + 1), buf := buf }
  | complete {i : Nat} {generation : UInt32} {pc : CopyPc} {store : Store} {length : UInt16}
      {sample : UInt32} {buf : ByteMemory} {move : CopyAction}
      (at_copy : s.pc = .copying i generation pc) (present : s.stores[i]? = some store)
      (stepped : copyStep store.topic rule.poll.bufSize pc s.buf move =
        some (.copied length sample buf)) :
      Took rule s (.copy move) { s with pc := .copied i generation length sample, buf := buf }
  | hand {i : Nat} {generation : UInt32} {length : UInt16} {sample : UInt32} {sent : Bool}
      (at_hand : s.pc = .copied i generation length sample) :
      Took rule s (.hand sent) { s with
        pc := .sweeping (i + 1)
        lastGeneration := if rule.poll.records sent then
          Function.update s.lastGeneration i generation else s.lastGeneration
        dispatched := s.dispatched ++ [⟨s.sweeps, i, ⟨sample, length, s.buf, sent⟩⟩] }

theorem TransportThread.step_took (taken : s.step rule action = some t) :
    s.Took rule action t := by
  unfold TransportThread.step at taken
  split at taken
  · split at taken
    · cases taken
    · rename_i store present
      obtain ⟨after, published, rfl⟩ := Option.map_eq_some_iff.mp taken
      exact .write present published
  · rename_i at_open
    split at taken
    · cases taken
      exact .refuse at_open
    · split at taken
      · rename_i many
        cases taken
        exact .leave at_open many
      · rename_i few
        cases taken
        exact .enter at_open (Nat.le_of_not_lt few)
  · rename_i at_rest
    split at taken
    · cases taken
      exact .close at_rest
    · cases taken
      exact .sweep at_rest
  · rename_i i at_visit
    split at taken
    · cases taken
      exact .finish at_visit
    · rename_i store present
      have inside := (List.getElem?_eq_some_iff.mp present).1
      dsimp only [csynTopicGeneration] at taken
      split at taken
      · cases taken
        exact .pass at_visit inside
      · rename_i sends
        split at taken
        · cases taken
          exact .pass at_visit inside
        · rename_i due
          cases taken
          exact .poll at_visit present (not_not.mp sends) due
  · rename_i move i generation pc at_copy
    split at taken
    · cases taken
    · rename_i store present
      split at taken
      · cases taken
      · rename_i after buf stepped
        cases taken
        exact .move at_copy present stepped
      · rename_i buf stepped
        cases taken
        exact .fail at_copy present stepped
      · rename_i length sample buf stepped
        cases taken
        exact .complete at_copy present stepped
  · rename_i sent i generation length sample at_hand
    cases taken
    exact .hand at_hand
  · cases taken

/-- Where the thread is with topic `i`. -/
def ThreadPc.at (pc : ThreadPc) (i : Nat) : PollPc :=
  match pc with
  | .copying k generation pc => if k = i then .copying generation pc else .idle
  | .copied k generation length sample =>
      if k = i then .copied generation length sample else .idle
  | _ => .idle

/-- The samples of topic `i` among these. -/
def onTopic (i : Nat) (dispatched : List Dispatch) : List Handed :=
  dispatched.filterMap fun d => if d.topic = i then some d.sample else none

/-- What a step hands on. -/
def TransportThread.newlySent (s t : TransportThread) : List Dispatch :=
  (t.dispatched.drop s.dispatched.length).filter fun d => d.sample.sent

end

end Csyn
