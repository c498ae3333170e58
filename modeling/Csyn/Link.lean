import Csyn.FinalUpdate
import Csyn.StoreHistory
import Csyn.WholeStructs

set_option autoImplicit false

/- One topic across a transport: the board that publishes it, with the application's writer and
the transport's poller free to run between any two of each other's accesses, and a board that
receives it among everything else it receives. The network may lose, repeat and reorder. -/
namespace Csyn

/-- What distinguishes the transports: the poller, and as what a sample of the topic arrives. -/
structure Carrier where
  rule : PollRule
  arrival : List UInt8 → Int → FeedAction

/-- `wire` (the samples that were sent) and `arrived` (the ones received) are history
variables, oldest first. -/
structure Link where
  sender : Polling
  wire : List Handed
  board : Feed
  arrived : List Handed

/-- `arrive` receives the `i`-th sample that was sent, `traffic` is anything else that the
receiving board does with its store. -/
inductive LinkAction where
  | sender (action : PollingAction)
  | arrive (i : Nat) (now : Int)
  | traffic (action : FeedAction)

def Link.boot (store : Store) (registry : List CsynTopic) : Link where
  sender := .boot store
  wire := []
  board := .boot registry
  arrived := []

/-- The samples sent between two states of the poller. -/
def Polling.newlySent (s t : Polling) : List Handed :=
  (t.handed.drop s.handed.length).filter fun h => h.sent

/-- The action hands a buffer to topic `j`. -/
def Feed.feeds (config : Kconfig) (s : Feed) (j : Nat) (action : FeedAction) : Bool :=
  (s.handed config action).any fun handed => handed.1 == j

/-- No other traffic of the receiving board is for topic `j`. -/
def Link.step (carrier : Carrier) (config : Kconfig) (j : Nat) (s : Link) :
    LinkAction → Option Link
  | .sender action =>
      (s.sender.step carrier.rule action).map fun sender =>
        { s with sender := sender, wire := s.wire ++ s.sender.newlySent sender }
  | .arrive i now =>
      match s.wire[i]? with
      | none => none
      | some h =>
          (s.board.step config (carrier.arrival h.payload now)).map fun board =>
            { s with board := board, arrived := s.arrived ++ [h] }
  | .traffic action =>
      if s.board.feeds config j action then none
      else (s.board.step config action).map fun board => { s with board := board }

/-- Each sample of at most `room` bytes is handed to topic `j` when it arrives. -/
structure Carrier.Delivers (carrier : Carrier) (config : Kconfig) (registry : List CsynTopic)
    (j room : Nat) : Prop where
  present : ∃ topic, registry[j]? = some topic ∧ room ≤ topic.maxSize.toNat
  handed : ∀ board : Feed, SameDeclarations board.registry registry → ∀ (bytes : List UInt8)
    (now : Int), 0 < bytes.length → bytes.length ≤ room →
      board.handed config (carrier.arrival bytes now) = some (j, bytes)

section

variable {carrier : Carrier} {config : Kconfig} {j : Nat}

theorem Feed.feeds_false {s : Feed} {action : FeedAction} :
    s.feeds config j action = false ↔ ∀ bytes, s.handed config action ≠ some (j, bytes) := by
  unfold Feed.feeds
  cases s.handed config action with
  | none => simp
  | some handed =>
      obtain ⟨i, bytes⟩ := handed
      simp only [Option.any_some, beq_eq_false_iff_ne, ne_eq, Option.some.injEq, Prod.mk.injEq,
        not_and]
      constructor
      · intro apart _ here
        exact absurd here apart
      · intro apart here
        exact apart bytes here rfl

theorem Link.step_sender {s : Link} {polled : PollingAction} {sender : Polling}
    (stepped : s.sender.step carrier.rule polled = some sender) :
    s.step carrier config j (.sender polled) =
      some { s with sender := sender, wire := s.wire ++ s.sender.newlySent sender } :=
  Option.map_eq_some_iff.mpr ⟨sender, stepped, rfl⟩

theorem Link.step_arrive {s : Link} {i : Nat} {h : Handed} {now : Int} {board : Feed}
    (sent : s.wire[i]? = some h)
    (stepped : s.board.step config (carrier.arrival h.payload now) = some board) :
    s.step carrier config j (.arrive i now) =
      some { s with board := board, arrived := s.arrived ++ [h] } := by
  unfold Link.step
  dsimp only
  rw [sent]
  exact Option.map_eq_some_iff.mpr ⟨board, stepped, rfl⟩

theorem Link.step_traffic {s : Link} {fed : FeedAction} {board : Feed}
    (apart : ∀ bytes, s.board.handed config fed ≠ some (j, bytes))
    (stepped : s.board.step config fed = some board) :
    s.step carrier config j (.traffic fed) = some { s with board := board } := by
  unfold Link.step
  dsimp only
  rw [Feed.feeds_false.mpr apart]
  exact Option.map_eq_some_iff.mpr ⟨board, stepped, rfl⟩

/-- Everything a step of the link can do. -/
theorem Link.step_cases {s t : Link} {action : LinkAction}
    (taken : s.step carrier config j action = some t) :
    (∃ polled sender, s.sender.step carrier.rule polled = some sender ∧
      t = { s with sender := sender, wire := s.wire ++ s.sender.newlySent sender }) ∨
    (∃ h now board, h ∈ s.wire ∧
      s.board.step config (carrier.arrival h.payload now) = some board ∧
      t = { s with board := board, arrived := s.arrived ++ [h] }) ∨
    (∃ fed board, (∀ bytes, s.board.handed config fed ≠ some (j, bytes)) ∧
      s.board.step config fed = some board ∧ t = { s with board := board }) := by
  cases action with
  | sender polled =>
      obtain ⟨sender, stepped, rfl⟩ := Option.map_eq_some_iff.mp taken
      exact Or.inl ⟨polled, sender, stepped, rfl⟩
  | arrive i now =>
      unfold Link.step at taken
      dsimp only at taken
      split at taken
      · cases taken
      · rename_i h sent
        obtain ⟨board, stepped, rfl⟩ := Option.map_eq_some_iff.mp taken
        exact Or.inr (Or.inl ⟨h, now, board, List.mem_of_getElem? sent, stepped, rfl⟩)
  | traffic fed =>
      unfold Link.step at taken
      dsimp only at taken
      split at taken
      · cases taken
      · rename_i apart
        obtain ⟨board, stepped, rfl⟩ := Option.map_eq_some_iff.mp taken
        rw [Bool.not_eq_true] at apart
        exact Or.inr (Or.inr ⟨fed, board, Feed.feeds_false.mp apart, stepped, rfl⟩)

/-- A step of the poller sends what it hands on, if anything. -/
theorem Polling.newlySent_cases {rule : PollRule} {s t : Polling} {action : PollingAction}
    (taken : s.step rule action = some t) :
    s.newlySent t = [] ∨
      ∃ generation length sample, s.poller.pc = .copied generation length sample ∧
        t.poller.pc = .idle ∧ t.store = s.store ∧
        s.newlySent t = [⟨sample, length, s.poller.buf, true⟩] := by
  have quiet : ∀ after : Polling, after.handed = s.handed → s.newlySent after = [] := by
    intro after same
    unfold Polling.newlySent
    rw [same, List.drop_length]
    rfl
  rcases s.step_cases taken with ⟨_, _, -, -, rfl⟩ | ⟨_, -, -, rfl⟩ |
    ⟨_, _, -, -, -, -, rfl⟩ | ⟨_, _, _, _, _, -, -, -, rfl⟩ | ⟨_, _, _, _, -, -, -, rfl⟩ |
    ⟨_, _, _, _, _, _, -, -, -, rfl⟩ | ⟨sent, generation, length, sample, -, at_hand, rfl⟩ |
    ⟨-, -, -, rfl⟩
  · exact Or.inl (quiet _ rfl)
  · exact Or.inl (quiet _ rfl)
  · exact Or.inl (quiet _ rfl)
  · exact Or.inl (quiet _ rfl)
  · exact Or.inl (quiet _ rfl)
  · exact Or.inl (quiet _ rfl)
  · unfold Polling.newlySent
    dsimp only
    rw [List.drop_left]
    cases sent with
    | false => exact Or.inl rfl
    | true => exact Or.inr ⟨generation, length, sample, at_hand, rfl, rfl, rfl⟩
  · refine Or.inl ?_
    unfold Polling.newlySent
    dsimp only
    rw [List.drop_nil]
    rfl

/-- The application's writer adds to what is published, and no step resizes the topic. -/
theorem Polling.step_extends {rule : PollRule} {s t : Polling} {action : PollingAction}
    (taken : s.step rule action = some t) :
    s.store.published <+: t.store.published ∧
      t.store.topic.maxSize = s.store.topic.maxSize := by
  cases action with
  | writer write =>
      obtain ⟨store, published, rfl⟩ := Option.map_eq_some_iff.mp taken
      exact ⟨Store.publish_extends published, Store.publish_maxSize published⟩
  | _ =>
      rw [Polling.step_store taken (by rintro write ⟨⟩)]
      exact ⟨List.prefix_rfl, rfl⟩

/-- Two topics with one store hold the same samples. -/
theorem CsynTopic.SameStore.holds {topic before : CsynTopic} {slot : Nat} {sample : List UInt8}
    (same : topic.SameStore before) (declared : topic.SameDeclaration before)
    (holds : before.HoldsSample slot sample) : topic.HoldsSample slot sample := by
  constructor
  · rw [same.lengths]
    exact holds.length
  · rw [same.slots, CsynTopic.slotBase, declared.maxSize]
    exact holds.bytes

/-! ## A topic that receives -/

/-- Topic `j` of the board is what publishing these payloads made of it. -/
def Feed.Shows (board : Feed) (j : Nat) (payloads : List (List UInt8)) : Prop :=
  ∀ topic, board.registry[j]? = some topic → (⟨topic, payloads⟩ : StoreLog).Consistent

/-- A reader of topic `j` gets this sample under this number. -/
def Feed.Reads (board : Feed) (j : Nat) (payload : List UInt8) (number : Nat) : Prop :=
  ∃ topic, board.registry[j]? = some topic ∧
    ∀ bufSize, topic.maxSize.toNat ≤ bufSize →
      csynTopicCopy topic bufSize = some (payload, UInt32.ofNat number)

variable {board after : Feed} {payloads : List (List UInt8)} {fed : FeedAction}

/-- What is handed to the topic is published on it. -/
theorem Feed.Shows.handed {topic : CsynTopic} {bytes : List UInt8} (shows_ : board.Shows j payloads)
    (present : board.registry[j]? = some topic) (fits : topic.accepts (some bytes) = true)
    (handed : board.handed config fed = some (j, bytes))
    (taken : board.step config fed = some after) : after.Shows j (payloads ++ [bytes]) := by
  have stored := Feed.step_handed taken present handed
  have logged := (shows_ topic present).call (some bytes)
  intro own found
  rw [stored, Option.some.injEq] at found
  rw [StoreLog.call, csynTopicPublish_returns, fits, if_pos rfl] at logged
  rw [← found]
  exact logged

/-- Other traffic leaves the topic alone. -/
theorem Feed.Shows.apart (shows_ : board.Shows j payloads)
    (apart : ∀ bytes, board.handed config fed ≠ some (j, bytes))
    (taken : board.step config fed = some after) : after.Shows j payloads := by
  have kept := Feed.step_sameDeclarations taken
  intro own found
  obtain ⟨topic, present, same⟩ := kept.symm.get found
  obtain ⟨own', found', store⟩ := Feed.step_other taken present apart
  rw [found, Option.some.injEq] at found'
  subst found'
  have before := shows_ topic present
  refine ⟨store.generation.trans before.generation, ?_⟩
  intro sample last
  obtain ⟨fits, holds⟩ := before.current sample last
  have kept_ := store.holds same.symm holds
  rw [← store.generation] at kept_
  exact ⟨(same.symm.accepts _).trans fits, kept_⟩

/-- The last payload is there to be read. -/
theorem Feed.Shows.reads {topic : CsynTopic} {payload : List UInt8}
    (shows_ : board.Shows j payloads) (present : board.registry[j]? = some topic)
    (few : payloads.length < 2 ^ 32) (last : payloads.getLast? = some payload) :
    board.Reads j payload payloads.length := by
  have logged := shows_ topic present
  obtain ⟨fits, holds⟩ := logged.current _ last
  have counted := logged.generation
  dsimp only at counted fits holds
  have some_ : 0 < payloads.length := List.length_pos_of_mem (List.mem_of_getLast? last)
  have live : topic.generation ≠ 0 := by
    intro zero
    have reading := congrArg UInt32.toNat (counted.symm.trans zero)
    rw [Counter.toNat_of_lt few] at reading
    have : (0 : UInt32).toNat = 0 := rfl
    omega
  refine ⟨topic, present, ?_⟩
  intro bufSize large
  rw [← counted]
  exact holds.copy live fits (Nat.le_trans (CsynTopic.accepts_some.mp fits).2 large)

/-- A fresh board shows nothing. -/
theorem Feed.boot_shows {registry : List CsynTopic} (j : Nat)
    (unwritten : ∀ topic ∈ registry, topic.Unwritten) : (Feed.boot registry).Shows j [] :=
  fun topic present =>
    ⟨(unwritten topic (List.mem_of_getElem? present)).generation, by rintro sample ⟨⟩⟩

/-! ## The invariant -/

/-- What was sent is whole and in publish order, across sessions, and topic `j` of the receiving
board is what the arrivals made of it. -/
structure Link.Consistent (carrier : Carrier) (registry : List CsynTopic) (j room : Nat)
    (s : Link) : Prop where
  sender : s.sender.Consistent carrier.rule
  room : s.sender.store.topic.maxSize.toNat = room
  faithful : ∀ h ∈ s.wire, h.Faithful s.sender.store.published
  ordered : s.wire.Pairwise fun a b => a.sample.toNat ≤ b.sample.toNat
  pending : ∀ generation length sample,
    s.sender.poller.pc = .copied generation length sample → UpTo s.wire sample.toNat
  arrived : ∀ h ∈ s.arrived, h ∈ s.wire
  declared : SameDeclarations s.board.registry registry
  shown : s.board.Shows j (s.arrived.map Handed.payload)

variable {registry : List CsynTopic} {room : Nat} {s t : Link}

theorem Link.boot_consistent (carrier : Carrier) (store : Store) (valid : store.Consistent)
    (j : Nat) (unwritten : ∀ topic ∈ registry, topic.Unwritten) :
    (Link.boot store registry).Consistent carrier registry j store.topic.maxSize.toNat := by
  refine ⟨Polling.boot_consistent _ store valid, rfl, by simp [Link.boot], List.Pairwise.nil, ?_,
    by simp [Link.boot], .refl registry, Feed.boot_shows j unwritten⟩
  intro generation length sample at_hand
  cases at_hand

/-- A payload on the wire is an accepted sample of the publishing board. -/
theorem Link.Consistent.payload {h : Handed} (valid : s.Consistent carrier registry j room)
    (sent : h ∈ s.wire) : 0 < h.payload.length ∧ h.payload.length ≤ room := by
  obtain ⟨p, found, -, bytes⟩ := (valid.faithful h sent).origin
  have accepted := CsynTopic.accepts_some.mp
    (valid.sender.store.accepted p (List.mem_of_getElem? found))
  rw [valid.room, ← bytes] at accepted
  exact accepted

/-- The last access of a copy reads the latest publish, which is not older than anything sent. -/
theorem Link.Consistent.pending_step {sender : Polling} {action : PollingAction}
    (valid : s.Consistent carrier registry j room)
    (taken : s.sender.step carrier.rule action = some sender)
    (small : sender.store.published.length < 2 ^ 32) (generation : UInt32) (length : UInt16)
    (sample : UInt32) (at_hand : sender.poller.pc = .copied generation length sample) :
    UpTo s.wire sample.toNat := by
  rcases s.sender.step_cases taken with ⟨_, store, -, -, rfl⟩ | ⟨_, -, idle, rfl⟩ |
    ⟨_, _, -, -, -, -, rfl⟩ | ⟨_, _, _, _, _, -, -, -, rfl⟩ | ⟨_, _, _, _, -, -, -, rfl⟩ |
    ⟨move, since, pc, length', sample', buf, -, at_copy, stepped, rfl⟩ |
    ⟨_, _, _, _, -, -, rfl⟩ | ⟨-, idle, -, rfl⟩
  · exact valid.pending _ _ _ at_hand
  · exact valid.pending _ _ _ at_hand
  · cases at_hand
  · cases at_hand
  · cases at_hand
  · cases at_hand
    have view := valid.sender.polling
    rw [at_copy] at view
    obtain ⟨began, -, -, -, copy⟩ := view
    obtain ⟨number, -⟩ := copy.handed valid.sender.store stepped small
    intro h sent
    rw [number]
    exact (valid.faithful h sent).bounded
  · cases at_hand
  · dsimp only at at_hand
    rw [idle] at at_hand
    cases at_hand

/-- A step of the publishing board. -/
theorem Link.Consistent.send {sender : Polling} {action : PollingAction}
    (valid : s.Consistent carrier registry j room)
    (taken : s.sender.step carrier.rule action = some sender)
    (small : sender.store.published.length < 2 ^ 32) :
    ({ s with sender := sender, wire := s.wire ++ s.sender.newlySent sender } :
      Link).Consistent carrier registry j room := by
  have stepped := Polling.step_consistent _ _ _ _ taken small valid.sender
  have pending := valid.pending_step taken small
  obtain ⟨grown, sized⟩ := Polling.step_extends taken
  have earlier : ∀ h ∈ s.wire, h.Faithful sender.store.published :=
    fun h sent => (valid.faithful h sent).extend grown
  rcases Polling.newlySent_cases taken with none_ |
    ⟨generation, length, sample, at_hand, idle, same, sent⟩
  · rw [none_, List.append_nil]
    exact ⟨stepped, sized ▸ valid.room, earlier, valid.ordered, pending, valid.arrived,
      valid.declared, valid.shown⟩
  · have view := valid.sender.polling
    rw [at_hand] at view
    rw [sent]
    refine ⟨stepped, sized ▸ valid.room, ?_, ?_, ?_, ?_, valid.declared, valid.shown⟩
    · intro h member
      rcases List.mem_append.mp member with before | last
      · exact earlier h before
      · rw [List.mem_singleton.mp last]
        exact view.2.2.extend grown
    · exact pairwise_concat valid.ordered (valid.pending _ _ _ at_hand)
    · intro generation' length' sample' at_hand'
      dsimp only at at_hand'
      rw [idle] at at_hand'
      cases at_hand'
    · intro h member
      exact List.mem_append_left _ (valid.arrived h member)

/-- An arrival is published on topic `j`. -/
theorem Link.Consistent.arrive {h : Handed} {now : Int} {board : Feed}
    (valid : s.Consistent carrier registry j room)
    (delivers : carrier.Delivers config registry j room) (sent : h ∈ s.wire)
    (taken : s.board.step config (carrier.arrival h.payload now) = some board) :
    ({ s with board := board, arrived := s.arrived ++ [h] } : Link).Consistent
      carrier registry j room := by
  obtain ⟨positive, bounded⟩ := valid.payload sent
  have handed := delivers.handed s.board valid.declared h.payload now positive bounded
  obtain ⟨declared, present, roomy⟩ := delivers.present
  obtain ⟨topic, now_, same⟩ := valid.declared.get present
  have fits : topic.accepts (some h.payload) = true := by
    rw [CsynTopic.accepts_some, same.maxSize]
    exact ⟨positive, Nat.le_trans bounded roomy⟩
  have shown := valid.shown.handed now_ fits handed taken
  refine ⟨valid.sender, valid.room, valid.faithful, valid.ordered, valid.pending, ?_,
    (Feed.step_sameDeclarations taken).trans valid.declared, ?_⟩
  · intro other member
    rcases List.mem_append.mp member with before | last
    · exact valid.arrived other before
    · rw [List.mem_singleton.mp last]
      exact sent
  · dsimp only
    rw [List.map_append]
    exact shown

theorem Link.Consistent.traffic {fed : FeedAction} {board : Feed}
    (valid : s.Consistent carrier registry j room)
    (apart : ∀ bytes, s.board.handed config fed ≠ some (j, bytes))
    (taken : s.board.step config fed = some board) :
    ({ s with board := board } : Link).Consistent carrier registry j room :=
  ⟨valid.sender, valid.room, valid.faithful, valid.ordered, valid.pending, valid.arrived,
    (Feed.step_sameDeclarations taken).trans valid.declared, valid.shown.apart apart taken⟩

theorem Link.step_consistent (delivers : carrier.Delivers config registry j room) (s : Link)
    (action : LinkAction) (t : Link) (taken : s.step carrier config j action = some t)
    (small : t.sender.store.published.length < 2 ^ 32)
    (valid : s.Consistent carrier registry j room) : t.Consistent carrier registry j room := by
  rcases Link.step_cases taken with ⟨polled, sender, stepped, rfl⟩ |
    ⟨h, now, board, sent, stepped, rfl⟩ | ⟨fed, board, apart, stepped, rfl⟩
  · exact valid.send stepped small
  · exact valid.arrive delivers sent stepped
  · exact valid.traffic apart stepped

theorem Link.published_le (s : Link) (action : LinkAction) (t : Link)
    (taken : s.step carrier config j action = some t) :
    s.sender.store.published.length ≤ t.sender.store.published.length := by
  rcases Link.step_cases taken with ⟨polled, sender, stepped, rfl⟩ | ⟨_, _, _, -, -, rfl⟩ |
    ⟨_, _, -, -, rfl⟩
  · exact Polling.published_le _ _ _ _ stepped
  · exact Nat.le_refl _
  · exact Nat.le_refl _

/-! ## What the receiving board sees -/

/-- A reader of topic `j` of the receiving board gets this sample. -/
def Link.Reads (s : Link) (j : Nat) (payload : List UInt8) : Prop :=
  s.board.Reads j payload s.arrived.length

/-- Topic `j` of the receiving board follows the topic of the sending one. What it holds is a
sample that was published there, whole; it goes back only where the network does; and once the
poller has caught up and its last sample has arrived, it is the sample published last. -/
structure Link.Follows (rule : PollRule) (j : Nat) (s : Link) : Prop where
  genuine : ∀ h, s.arrived.getLast? = some h → ∃ p,
    s.sender.store.published[h.sample.toNat - 1]? = some p ∧ s.Reads j p.payload
  forward : s.arrived.Sublist s.wire →
    s.arrived.Pairwise fun a b => a.sample.toNat ≤ b.sample.toNat
  latest : s.sender.poller.lastGeneration = s.sender.store.topic.generation →
    s.sender.store.topic.generation ≠ 0 →
    s.arrived.getLast? = (s.sender.recorded rule).getLast? →
    ∃ p, s.sender.store.published.getLast? = some p ∧ s.Reads j p.payload

theorem Link.Consistent.reads {h : Handed} (valid : s.Consistent carrier registry j room)
    (delivers : carrier.Delivers config registry j room) (few : s.arrived.length < 2 ^ 32)
    (last : s.arrived.getLast? = some h) : s.Reads j h.payload := by
  obtain ⟨declared, present, -⟩ := delivers.present
  obtain ⟨topic, now, -⟩ := valid.declared.get present
  have newest : (s.arrived.map Handed.payload).getLast? = some h.payload := by
    rw [List.getLast?_map, last, Option.map_some]
  have read := valid.shown.reads now (by rwa [List.length_map]) newest
  rw [List.length_map] at read
  exact read

theorem Link.Consistent.follows (valid : s.Consistent carrier registry j room)
    (delivers : carrier.Delivers config registry j room)
    (small : s.sender.store.published.length < 2 ^ 32) (few : s.arrived.length < 2 ^ 32) :
    s.Follows carrier.rule j := by
  have genuine : ∀ h, s.arrived.getLast? = some h → ∃ p,
      s.sender.store.published[h.sample.toNat - 1]? = some p ∧ s.Reads j p.payload := by
    intro h last
    have sent := valid.arrived h (List.mem_of_getLast? last)
    obtain ⟨p, found, -, bytes⟩ := (valid.faithful h sent).origin
    have reads := valid.reads delivers few last
    exact ⟨p, found, bytes ▸ reads⟩
  refine ⟨genuine, fun inOrder => valid.ordered.sublist inOrder, ?_⟩
  intro caughtUp live arrivedLast
  have nonempty : s.sender.store.published ≠ [] := by
    intro empty
    rw [valid.sender.store.generation, empty] at live
    exact live rfl
  have newest := List.getLast?_eq_some_getLast nonempty
  obtain ⟨h, recorded, number, -, bytes⟩ :=
    valid.sender.last_current small caughtUp live newest
  have reads := valid.reads delivers few (arrivedLast.trans recorded)
  exact ⟨_, newest, bytes ▸ reads⟩

/-- Every run of a link whose carrier delivers. -/
theorem Link.run_follows (carrier : Carrier) (config : Kconfig) (store : Store)
    (booted : store.Consistent) (registry : List CsynTopic)
    (unwritten : ∀ topic ∈ registry, topic.Unwritten) {j : Nat}
    (delivers : carrier.Delivers config registry j store.topic.maxSize.toNat)
    {schedule : List LinkAction} {s : Link}
    (reached : Automaton.run (Link.step carrier config j) (.boot store registry) schedule = some s)
    (small : s.sender.store.published.length < 2 ^ 32) (few : s.arrived.length < 2 ^ 32) :
    s.Follows carrier.rule j := by
  have valid := Automaton.run_invariant_bounded Link.published_le
    (Link.step_consistent delivers) reached
    (Link.boot_consistent carrier store booted j unwritten) small
  exact valid.follows delivers small few

end

end Csyn
