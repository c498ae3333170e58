import Csyn.LinkCarriers
import Csyn.ThreadRefinement
import Csyn.UdpAddressing

set_option autoImplicit false

/- Two boards over UDP: everything that `csyn_udp_thread` sends of the one, and everything that
`rx_drain` of the other receives. The network may lose, repeat and reorder the datagrams. -/
namespace Csyn

/-- `wire` (the datagrams that were sent) and `arrived` (the ones received) are history variables,
oldest first. -/
structure Boards where
  sender : TransportThread
  wire : List Dispatch
  board : Feed
  arrived : List Dispatch

/-- `arrive` receives the `n`-th datagram that was sent, `traffic` is anything else that the
receiving board does with its store. -/
inductive BoardsAction where
  | sender (action : ThreadAction)
  | arrive (n : Nat)
  | traffic (action : FeedAction)

def Boards.boot (registry receiving : List CsynTopic) : Boards where
  sender := .boot registry
  wire := []
  board := .boot receiving
  arrived := []

/-- The datagram of a sample, under the catalog id of its topic. -/
def TransportThread.datagram (s : TransportThread) (d : Dispatch) : Option (List UInt8) :=
  s.stores[d.topic]?.bind fun store =>
    store.topic.info.map fun info => txBuffer (fun _ => 0) info.id d.sample.payload

/-- Topic `j` of the receiving board gets nothing but datagrams of the sending one. -/
def Boards.step (config receiving : Kconfig) (j : Nat) (s : Boards) :
    BoardsAction → Option Boards
  | .sender action =>
      (s.sender.step (csynUdpThread config) action).map fun sender =>
        { s with sender := sender, wire := s.wire ++ s.sender.newlySent sender }
  | .arrive n =>
      match s.wire[n]? with
      | none => none
      | some d =>
          match s.sender.datagram d with
          | none => none
          | some bytes =>
              (s.board.step receiving (.datagram bytes)).map fun board =>
                { s with board := board, arrived := s.arrived ++ [d] }
  | .traffic action =>
      if s.board.feeds receiving j action then none
      else (s.board.step receiving action).map fun board => { s with board := board }

/-- Topic `j` of the receiving board follows topic `i` of the sending one: what it holds is a
sample that was published there, whole; it goes back only where the network does; and once the
thread has caught up with the topic and the last datagram of it has arrived, it is the sample
published last. -/
structure Boards.Follows (i j : Nat) (s : Boards) : Prop where
  genuine : ∀ store h, s.sender.stores[i]? = some store →
    (onTopic i s.arrived).getLast? = some h →
    ∃ p, store.published[h.sample.toNat - 1]? = some p ∧
      s.board.Reads j p.payload (onTopic i s.arrived).length
  forward : (onTopic i s.arrived).Sublist (onTopic i s.wire) →
    (onTopic i s.arrived).Pairwise fun a b => a.sample.toNat ≤ b.sample.toNat
  latest : ∀ store, s.sender.stores[i]? = some store →
    s.sender.lastGeneration i = store.topic.generation → store.topic.generation ≠ 0 →
    (onTopic i s.arrived).getLast? = (onTopic i s.sender.dispatched).getLast? →
    ∃ p, store.published.getLast? = some p ∧
      s.board.Reads j p.payload (onTopic i s.arrived).length

section

variable {config receiving : Kconfig} {i j : Nat} {s t : Boards} {action : BoardsAction}

/-- Everything a step can do. -/
theorem Boards.step_cases (taken : s.step config receiving j action = some t) :
    (∃ visit sender, s.sender.step (csynUdpThread config) visit = some sender ∧
      t = { s with sender := sender, wire := s.wire ++ s.sender.newlySent sender }) ∨
    (∃ d bytes board, d ∈ s.wire ∧ s.sender.datagram d = some bytes ∧
      s.board.step receiving (.datagram bytes) = some board ∧
      t = { s with board := board, arrived := s.arrived ++ [d] }) ∨
    (∃ fed board, (∀ bytes, s.board.handed receiving fed ≠ some (j, bytes)) ∧
      s.board.step receiving fed = some board ∧ t = { s with board := board }) := by
  cases action with
  | sender visit =>
      obtain ⟨sender, stepped, rfl⟩ := Option.map_eq_some_iff.mp taken
      exact Or.inl ⟨visit, sender, stepped, rfl⟩
  | arrive n =>
      unfold Boards.step at taken
      dsimp only at taken
      split at taken
      · cases taken
      · rename_i d sent
        split at taken
        · cases taken
        · rename_i bytes built
          obtain ⟨board, stepped, rfl⟩ := Option.map_eq_some_iff.mp taken
          exact Or.inr (Or.inl ⟨d, bytes, board, List.mem_of_getElem? sent, built, stepped, rfl⟩)
  | traffic fed =>
      unfold Boards.step at taken
      dsimp only at taken
      split at taken
      · cases taken
      · rename_i apart
        obtain ⟨board, stepped, rfl⟩ := Option.map_eq_some_iff.mp taken
        rw [Bool.not_eq_true] at apart
        exact Or.inr (Or.inr ⟨fed, board, Feed.feeds_false.mp apart, stepped, rfl⟩)

/-! ## One topic of each board -/

/-- The two boards as the link between topic `i` of the one and a topic of the other. -/
structure Boards.Links (i : Nat) (s : Boards) (l : Link) : Prop where
  sender : s.sender.Polls i l.sender
  wire : onTopic i s.wire = l.wire
  board : s.board = l.board
  arrived : onTopic i s.arrived = l.arrived

theorem mem_onTopic {d : Dispatch} {dispatched : List Dispatch} (member : d ∈ dispatched) :
    d.sample ∈ onTopic d.topic dispatched :=
  List.mem_filterMap.mpr ⟨d, member, if_pos rfl⟩

theorem onTopic_singleton_ne {d : Dispatch} (other : d.topic ≠ i) : onTopic i [d] = [] := by
  simp [onTopic, other]

theorem onTopic_singleton_self (d : Dispatch) : onTopic d.topic [d] = [d.sample] := by
  simp [onTopic]

theorem Handed.payload_narrow (h : Handed) : h.payload.length < 2 ^ 16 := by
  rw [Handed.payload, ByteMemory.load_length]
  exact UInt16.toNat_lt _

/-- A datagram with another catalog id is for another topic. -/
theorem datagram_apart (receiving : Kconfig) {board : Feed} {registry : List CsynTopic}
    {id other : UInt16} {payload : List UInt8} (declared : SameDeclarations board.registry registry)
    (found : csynTopicByCatalogId registry id = some j) (differs : other ≠ id)
    (narrow : payload.length < 2 ^ 16) (bytes : List UInt8) :
    board.handed receiving (.datagram (txBuffer (fun _ => 0) other payload)) ≠
      some (j, bytes) := by
  intro handed
  unfold Feed.handed at handed
  dsimp only at handed
  rw [txBuffer_eq] at handed
  split at handed
  · cases handed
  · rename_i taken carried framed
    obtain ⟨-, rfl, -⟩ := (udpFrame_datagram_iff narrow).mp framed
    obtain ⟨k, routed, same⟩ := Option.map_eq_some_iff.mp handed
    cases same
    rw [csynTopicByCatalogId_congr declared] at routed
    obtain ⟨topic, present, named, -⟩ := csynTopicByCatalogId_iff.mp routed
    obtain ⟨topic', present', named', -⟩ := csynTopicByCatalogId_iff.mp found
    rw [present, Option.some.injEq] at present'
    subst present'
    unfold CsynTopic.hasCatalogId at named named'
    cases resolved : topic.info with
    | none =>
        rw [resolved] at named
        cases named
    | some info =>
        rw [resolved] at named named'
        exact differs ((beq_iff_eq.mp named).symm.trans (beq_iff_eq.mp named'))

/-- What stays true of the two boards beside the link. -/
structure Boards.Declared (config : Kconfig) (registry receivers : List CsynTopic) (s : Boards) :
    Prop where
  sender : s.sender.Orderly (csynUdpThread config)
  stores : SameDeclarations (s.sender.stores.map Store.topic) registry
  board : SameDeclarations s.board.registry receivers
  wire : ∀ d ∈ s.wire, s.sender.Sends (csynUdpThread config) d.topic

variable {registry receivers : List CsynTopic}

theorem Boards.Declared.step (valid : s.Declared config registry receivers)
    (taken : s.step config receiving j action = some t) :
    t.Declared config registry receivers := by
  rcases Boards.step_cases taken with ⟨visit, sender, stepped, rfl⟩ |
    ⟨d, bytes, board, sent, built, stepped, rfl⟩ | ⟨fed, board, apart, stepped, rfl⟩
  · have took := TransportThread.step_took stepped
    have orderly := valid.sender.step took
    refine ⟨orderly, took.declared.trans valid.stores, valid.board, ?_⟩
    intro d member
    rcases List.mem_append.mp member with before | new
    · exact took.sends (valid.wire d before)
    · exact orderly.sends d (List.mem_of_mem_drop (List.mem_of_mem_filter new))
  · exact ⟨valid.sender, valid.stores, (Feed.step_sameDeclarations stepped).trans valid.board,
      valid.wire⟩
  · exact ⟨valid.sender, valid.stores, (Feed.step_sameDeclarations stepped).trans valid.board,
      valid.wire⟩

/-- The entry of a topic that is for sending, as it was declared. -/
theorem Boards.Declared.sends {d : Dispatch} (valid : s.Declared config registry receivers)
    (sent : d ∈ s.wire) {bytes : List UInt8} (built : s.sender.datagram d = some bytes) :
    ∃ topic info, registry[d.topic]? = some topic ∧ topic.dir = .tx ∧ topic.info = some info ∧
      bytes = txBuffer (fun _ => 0) info.id d.sample.payload := by
  obtain ⟨store, present, direction, -⟩ := valid.wire d sent
  unfold TransportThread.datagram at built
  rw [present, Option.bind_some] at built
  obtain ⟨info, named, rfl⟩ := Option.map_eq_some_iff.mp built
  have mapped : (s.sender.stores.map Store.topic)[d.topic]? = some store.topic := by
    rw [List.getElem?_map, present]
    rfl
  obtain ⟨topic, declared, same⟩ := valid.stores.symm.get mapped
  exact ⟨topic, info, declared, same.dir.trans direction, same.info.trans named, rfl⟩

/-- The topics of the two boards that a catalog id pairs: the only one for sending here, and the
first one with the id there. A frame carries no key, so the keys play no part. -/
structure Paired (registry receivers : List CsynTopic) (i j : Nat) (info : SynapseTopicInfo) :
    Prop where
  source : ∃ topic, registry[i]? = some topic ∧ topic.info = some info
  distinct : ∀ k topic other, registry[k]? = some topic → k ≠ i → topic.dir = .tx →
    topic.info = some other → other.id ≠ info.id
  found : csynTopicByCatalogId receivers info.id = some j

variable {info : SynapseTopicInfo} {l : Link}

/-- What the boards do in a step, the link does in at most one. -/
theorem Boards.Links.step (links : s.Links i l) (valid : s.Declared config registry receivers)
    (paired : Paired registry receivers i j info)
    (taken : s.step config receiving j action = some t) :
    ∃ actions after, Automaton.run (Link.step (udpCarrier config info) receiving j) l actions =
      some after ∧ t.Links i after := by
  rcases Boards.step_cases taken with ⟨visit, sender, stepped, rfl⟩ |
    ⟨d, bytes, board, sent, built, stepped, rfl⟩ | ⟨fed, board, apart, stepped, rfl⟩
  · rcases links.sender.matched rfl (TransportThread.step_took stepped) with ⟨same, none_⟩ |
      ⟨polled, q, polls, related, new⟩
    · refine ⟨[], l, rfl, same, ?_, links.board, links.arrived⟩
      rw [onTopic_append, none_, List.append_nil]
      exact links.wire
    · refine ⟨[.sender polled], _, Automaton.run_one (Link.step_sender polls), related, ?_,
        links.board, links.arrived⟩
      rw [onTopic_append, new, links.wire]
  · obtain ⟨topic, other, declared, direction, named, rfl⟩ := valid.sends sent built
    by_cases own : d.topic = i
    · subst own
      obtain ⟨source, present, entry⟩ := paired.source
      rw [declared, Option.some.injEq] at present
      subst present
      rw [named, Option.some.injEq] at entry
      subst entry
      have member := mem_onTopic sent
      rw [links.wire] at member
      obtain ⟨m, at_m⟩ := List.getElem?_of_mem member
      rw [links.board] at stepped
      refine ⟨[.arrive m 0], _, Automaton.run_one (Link.step_arrive at_m stepped), links.sender,
        links.wire, rfl, ?_⟩
      rw [onTopic_append, onTopic_singleton_self, links.arrived]
    · have elsewhere := datagram_apart receiving valid.board paired.found
        (paired.distinct _ _ _ declared own direction named) d.sample.payload_narrow
      rw [links.board] at stepped elsewhere
      refine ⟨[.traffic (.datagram (txBuffer (fun _ => 0) other.id d.sample.payload))], _,
        Automaton.run_one (Link.step_traffic elsewhere stepped), links.sender, links.wire, rfl, ?_⟩
      rw [onTopic_append, onTopic_singleton_ne own, List.append_nil]
      exact links.arrived
  · rw [links.board] at stepped apart
    exact ⟨[.traffic fed], _, Automaton.run_one (Link.step_traffic apart stepped), links.sender,
      links.wire, rfl, links.arrived⟩

theorem Boards.boot_declared (config : Kconfig) (registry receivers : List CsynTopic) :
    (Boards.boot registry receivers).Declared config registry receivers := by
  refine ⟨TransportThread.boot_orderly _ registry, ?_, .refl receivers, nofun⟩
  change SameDeclarations ((registry.map Store.fresh).map Store.topic) registry
  have same : (registry.map Store.fresh).map Store.topic = registry := by
    rw [List.map_map]
    exact List.map_id registry
  rw [same]
  exact .refl registry

theorem Boards.boot_links {source : CsynTopic} (present : registry[i]? = some source) :
    (Boards.boot registry receivers).Links i (.boot (.fresh source) receivers) :=
  ⟨TransportThread.boot_polls present, rfl, rfl, rfl⟩

/-- A run of the boards is a run of the link between each two topics that belong together. -/
theorem Boards.run_links {schedule : List BoardsAction} {source : CsynTopic}
    (paired : Paired registry receivers i j info) (present : registry[i]? = some source)
    (reached : Automaton.run (Boards.step config receiving j) (.boot registry receivers) schedule =
      some s) :
    ∃ actions l, Automaton.run (Link.step (udpCarrier config info) receiving j)
      (.boot (.fresh source) receivers) actions = some l ∧ s.Links i l := by
  have simulates : ∀ (s : Boards) (a : BoardsAction) (t : Boards) (l : Link),
      s.step config receiving j a = some t →
      s.Links i l ∧ s.Declared config registry receivers →
      ∃ actions after, Automaton.run (Link.step (udpCarrier config info) receiving j) l actions =
        some after ∧ t.Links i after ∧ t.Declared config registry receivers := by
    intro s a t l taken ⟨links, valid⟩
    obtain ⟨actions, after, ran, later⟩ := links.step valid paired taken
    exact ⟨actions, after, ran, later, valid.step taken⟩
  obtain ⟨actions, l, ran, links, -⟩ := Automaton.run_simulates simulates reached
    ⟨Boards.boot_links present, Boards.boot_declared config registry receivers⟩
  exact ⟨actions, l, ran, links⟩

theorem Boards.Links.follows (links : s.Links i l) (follows : l.Follows (txTopicIfUpdated config) j) :
    s.Follows i j := by
  have same : ∀ store, s.sender.stores[i]? = some store → store = l.sender.store :=
    fun store now => Option.some.inj (now.symm.trans links.sender.store)
  have count : (onTopic i s.arrived).length = l.arrived.length := by rw [links.arrived]
  refine ⟨?_, ?_, ?_⟩
  · intro store h now last
    rw [links.arrived] at last
    obtain ⟨p, published, reads⟩ := follows.genuine h last
    rw [same store now, count, links.board]
    exact ⟨p, published, reads⟩
  · intro inOrder
    rw [links.arrived, links.wire] at inOrder
    rw [links.arrived]
    exact follows.forward inOrder
  · intro store now caughtUp live last
    rw [links.arrived, links.sender.handed] at last
    rw [same store now] at caughtUp live ⊢
    have all : l.sender.recorded (txTopicIfUpdated config) = l.sender.handed :=
      List.filter_eq_self.mpr fun _ _ => rfl
    obtain ⟨p, newest, reads⟩ := follows.latest (links.sender.last.symm.trans caughtUp) live
      (last.trans (congrArg List.getLast? all).symm)
    rw [count, links.board]
    exact ⟨p, newest, reads⟩

end

/-- Over every interleaving of the writers of one board, its UDP thread, the network and whatever
reaches the other topics of the other board, the topic there that is paired with a topic here by
its catalog id follows it, if it has room for its samples. -/
theorem udp_boards_follow (config receiving : Kconfig)
    (synapseTopicByKey receivingByKey : Str → Option SynapseTopicInfo)
    (declarations receiverDeclarations : List TopicDeclaration) (i j : Nat)
    (source topic : CsynTopic) (info : SynapseTopicInfo)
    (sent : (bootRegistry synapseTopicByKey declarations)[i]? = some source)
    (paired : Paired (bootRegistry synapseTopicByKey declarations)
      (bootRegistry receivingByKey receiverDeclarations) i j info)
    (present : (bootRegistry receivingByKey receiverDeclarations)[j]? = some topic)
    (roomy : source.maxSize.toNat ≤ min topic.maxSize.toNat receiving.flatbufferMaxSize)
    (schedule : List BoardsAction) (s : Boards)
    (reached : Automaton.run (Boards.step config receiving j)
      (.boot (bootRegistry synapseTopicByKey declarations)
        (bootRegistry receivingByKey receiverDeclarations)) schedule = some s)
    (small : ∀ store, s.sender.stores[i]? = some store → store.published.length < 2 ^ 32)
    (few : (onTopic i s.arrived).length < 2 ^ 32) : s.Follows i j := by
  obtain ⟨actions, l, ran, links⟩ := Boards.run_links paired sent reached
  have unwritten := bootRegistry_unwritten source (List.mem_of_getElem? sent)
  have delivers := udpCarrier_delivers config paired.found present roomy
  rw [links.arrived] at few
  exact links.follows (Link.run_follows (udpCarrier config info) receiving (.fresh source)
    (Store.fresh_consistent unwritten) _ bootRegistry_unwritten delivers ran
    (small _ links.sender.store) few)

/-- A board that receives two of the topics. -/
def receivingTopics : List TopicDeclaration :=
  [⟨str "vehicle_command", .rx, 40⟩, ⟨str "att", .rx, 2⟩]

theorem sweptTopics_paired :
    Paired (bootRegistry sweptCatalog sweptTopics) (bootRegistry sweptCatalog receivingTopics) 2 1
      attitudeInfo := by
  refine ⟨⟨_, rfl, rfl⟩, ?_, by decide⟩
  intro k topic other present differs direction named
  rcases k with _ | _ | _ | k
  · cases present
    cases named
    decide
  · cases present
    cases direction
  · exact absurd rfl differs
  · cases present

/-- The later of two datagrams arrives first, and one that is no frame between them. -/
def overtakingDatagrams : List BoardsAction :=
  oneSweep.map .sender ++ [.arrive 1, .traffic (.datagram (str "CSYN")), .arrive 0]

theorem udp_boards_follow_overtaking :
    ∃ s, Automaton.run (Boards.step .default .default 1)
        (.boot (bootRegistry sweptCatalog sweptTopics) (bootRegistry sweptCatalog receivingTopics))
        overtakingDatagrams = some s ∧
      s.arrived.map Dispatch.topic = [2, 0] ∧ s.board.Reads 1 [2] 1 := by
  have follows := udp_boards_follow .default .default sweptCatalog sweptCatalog sweptTopics
    receivingTopics 2 1 _ _ attitudeInfo rfl sweptTopics_paired rfl (by decide)
    overtakingDatagrams _ rfl (by rintro store ⟨⟩; decide) (by decide)
  obtain ⟨p, last, reads⟩ := follows.latest _ rfl rfl (by decide) rfl
  cases last
  exact ⟨_, rfl, rfl, reads⟩

end Csyn
