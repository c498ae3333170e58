import Csyn.BagRecord
import Csyn.GraphRates
import Csyn.GraphServer
import Csyn.GraphSnapshot
import Mathlib.Algebra.Order.Ring.Nat

set_option autoImplicit false

/- What the responses of the graph server show of the samples and the polls, over every
interleaving of its threads. -/
namespace Csyn

/-- A sample that `observe_topic` counts. -/
structure ObservedSample where
  topic : Str
  payloadLen : Nat
  rootType : Option Str
  deriving DecidableEq

def GraphEvent.sample? : GraphEvent → Option ObservedSample
  | .observe topic payloadLen rootType _ => some ⟨topic, payloadLen, rootType⟩
  | _ => none

/-- The samples that the events count. -/
def samplesIn (events : List GraphEvent) : List ObservedSample :=
  events.filterMap GraphEvent.sample?

/-- The samples of one topic. -/
def samplesOf (topic : Str) (samples : List ObservedSample) : List ObservedSample :=
  samples.filter fun sample => sample.topic = topic

/-- The statistics of a topic are those of its samples. -/
structure TopicStats.Counts (stats : TopicStats) (topic : Str) (own : List ObservedSample) :
    Prop where
  topic : stats.topic = topic
  messages : stats.messages = UInt64.ofNat own.length
  bytes : stats.bytes = UInt64.ofNat (own.map ObservedSample.payloadLen).sum
  last : own.getLast?.map (fun sample => UInt64.ofNat sample.payloadLen) =
    some stats.lastPayloadBytes
  rootType : stats.rootType = own.findSome? ObservedSample.rootType

structure GraphState.Counts (s : GraphState) (samples : List ObservedSample) : Prop where
  absent : ∀ topic : Str, s.topics[topic]? = none → samplesOf topic samples = []
  present : ∀ (topic : Str) (stats : TopicStats), s.topics[topic]? = some stats →
    stats.Counts topic (samplesOf topic samples)

theorem samplesOf_same (samples : List ObservedSample) (sample : ObservedSample) :
    samplesOf sample.topic (samples ++ [sample]) = samplesOf sample.topic samples ++ [sample] := by
  have own : [sample].filter (fun other => other.topic = sample.topic) = [sample] := by simp
  rw [samplesOf, List.filter_append, own]
  rfl

theorem samplesOf_other {topic : Str} {sample : ObservedSample} (other : sample.topic ≠ topic)
    (samples : List ObservedSample) :
    samplesOf topic (samples ++ [sample]) = samplesOf topic samples := by
  rw [samplesOf, List.filter_append, List.filter_cons_of_neg (by simpa using other),
    List.filter_nil, List.append_nil]
  rfl

theorem TopicStats.Counts.next {stats : TopicStats} {sample : ObservedSample}
    {own : List ObservedSample} (counts : stats.Counts sample.topic own) (now : UInt64)
    (recent : List UInt64) :
    TopicStats.Counts
      { stats with
        rootType := stats.rootType.or sample.rootType
        messages := stats.messages + 1
        bytes := stats.bytes + UInt64.ofNat sample.payloadLen
        lastPayloadBytes := UInt64.ofNat sample.payloadLen
        lastSeenMs := now
        recent := recent } sample.topic (own ++ [sample]) := by
  refine ⟨counts.topic, ?_, ?_, ?_, ?_⟩
  · rw [List.length_append, List.length_singleton, UInt64.ofNat_add, ← counts.messages]
    rfl
  · rw [List.map_append, List.sum_append, UInt64.ofNat_add, ← counts.bytes, List.map_singleton,
      List.sum_singleton]
  · rw [List.getLast?_concat]
    rfl
  · rw [List.findSome?_append, ← counts.rootType, List.findSome?_singleton]

theorem TopicStats.counts_first (sample : ObservedSample) (now : UInt64) (recent : List UInt64) :
    TopicStats.Counts
      { topic := sample.topic
        rootType := sample.rootType.or sample.rootType
        messages := 0 + 1
        bytes := 0 + UInt64.ofNat sample.payloadLen
        lastPayloadBytes := UInt64.ofNat sample.payloadLen
        lastSeenMs := now
        recent := recent } sample.topic [sample] := by
  refine ⟨rfl, rfl, ?_, rfl, ?_⟩
  · rw [List.map_singleton, List.sum_singleton]
    exact UInt64.zero_add _
  · rw [List.findSome?_singleton, Option.or_self]

theorem GraphState.Counts.observe {s : GraphState} {samples : List ObservedSample}
    (counts : s.Counts samples) (sample : ObservedSample) (now : UInt64) :
    (s.observeTopic sample.topic sample.payloadLen sample.rootType now).Counts
      (samples ++ [sample]) := by
  constructor
  · intro topic missing
    rw [GraphState.observeTopic, Std.TreeMap.getElem?_insert] at missing
    split at missing
    · cases missing
    · rename_i differs
      rw [Std.LawfulEqCmp.compare_eq_iff_eq] at differs
      rw [samplesOf_other differs]
      exact counts.absent topic missing
  · intro topic stats found
    rw [GraphState.observeTopic, Std.TreeMap.getElem?_insert] at found
    split at found
    · rename_i same
      obtain rfl := Std.LawfulEqCmp.eq_of_compare same
      rw [samplesOf_same]
      cases found
      cases earlier : s.topics.get? sample.topic with
      | none =>
          rw [counts.absent sample.topic earlier]
          exact TopicStats.counts_first sample now _
      | some stats => exact (counts.present sample.topic stats earlier).next now _
    · rename_i differs
      rw [Std.LawfulEqCmp.compare_eq_iff_eq] at differs
      rw [samplesOf_other differs]
      exact counts.present topic stats found

/-- After any run each topic is counted by its samples. -/
theorem GraphState.run_counts (connect keyexpr : Str) (events : List GraphEvent) :
    ((GraphState.new connect keyexpr).run events).Counts (samplesIn events) := by
  induction events using List.reverseRecOn with
  | nil =>
      constructor
      · intro topic _
        rfl
      · intro topic stats found
        rw [GraphState.run, List.foldl_nil, GraphState.new, Std.TreeMap.getElem?_emptyc] at found
        cases found
  | append_singleton earlier event ih =>
      rw [GraphState.run, List.foldl_append, List.foldl_cons, List.foldl_nil, samplesIn,
        List.filterMap_append]
      cases event with
      | observe topic payloadLen rootType now => exact ih.observe ⟨topic, payloadLen, rootType⟩ now
      | observerError error => exact (List.append_nil _).symm ▸ ⟨ih.absent, ih.present⟩
      | adminPoll replies now => exact (List.append_nil _).symm ▸ ⟨ih.absent, ih.present⟩
      | adminFailed error => exact (List.append_nil _).symm ▸ ⟨ih.absent, ih.present⟩

/-! What a snapshot shows of them. -/

section

variable {fromStr : Str → Option JsonValue} {s : GraphState} {nowMs : UInt64}
  {snap : GraphSnapshot} {samples : List ObservedSample}

/-- The snapshot shows these samples: each topic once and in order, with its sums, and its node and
link with the same numbers. -/
structure GraphSnapshot.Shows (snap : GraphSnapshot) (samples : List ObservedSample) : Prop where
  ordered : (snap.topics.map TopicSnapshot.topic).Pairwise fun a b => compare a b = .lt
  listed : ∀ topic, topic ∈ snap.topics.map TopicSnapshot.topic ↔
    topic ∈ samples.map ObservedSample.topic
  counted : ∀ report ∈ snap.topics,
    report.messages = UInt64.ofNat (samplesOf report.topic samples).length ∧
    report.bytes =
      UInt64.ofNat ((samplesOf report.topic samples).map ObservedSample.payloadLen).sum ∧
    (samplesOf report.topic samples).getLast?.map (fun sample => UInt64.ofNat sample.payloadLen) =
      some report.lastPayloadBytes ∧
    report.rootType = (samplesOf report.topic samples).findSome? ObservedSample.rootType
  drawn : ∀ report ∈ snap.topics,
    (∃ node ∈ snap.nodes, node.id = str "topic:" ++ report.topic ∧ node.kind = str "topic" ∧
      node.messages = report.messages ∧ node.bytes = report.bytes ∧ node.rateHz = report.rateHz5s ∧
      node.detail = report.rootType.getD (str "unknown payload")) ∧
    ⟨str "zenoh", str "topic:" ++ report.topic, decimal report.messages.toNat ++ str " msg",
      str "traffic"⟩ ∈ snap.links

/-- What `snapshot` reports of a topic. -/
def TopicStats.report (nowMs : UInt64) (topic : TopicStats) : TopicSnapshot where
  topic := topic.topic
  rootType := topic.rootType
  messages := topic.messages
  bytes := topic.bytes
  lastPayloadBytes := topic.lastPayloadBytes
  ageMs := saturatingSub nowMs topic.lastSeenMs
  rateHz5s := (topic.recent.length : Rat) / 5

/-- The fields that `snapshot` copies. -/
theorem GraphState.snapshot_fields (returned : s.snapshot fromStr nowMs = some snap) :
    snap.topics = s.topics.values.map (TopicStats.report nowMs) ∧ snap.uptimeMs = nowMs ∧
      snap.adminEntries = s.adminEntries.size ∧ snap.lastAdminPollMs = s.lastAdminPollMs ∧
      snap.lastError = s.lastError ∧ snap.adminError = s.adminError := by
  obtain ⟨topology, -, mapped⟩ := Option.bind_eq_some_iff.mp returned
  obtain ⟨graph, -, rfl⟩ := Option.map_eq_some_iff.mp mapped
  exact ⟨rfl, rfl, rfl, rfl, rfl, rfl⟩

theorem samplesOf_eq_nil {topic : Str} :
    samplesOf topic samples = [] ↔ topic ∉ samples.map ObservedSample.topic := by
  rw [samplesOf, List.filter_eq_nil_iff, List.mem_map]
  constructor
  · rintro none_ ⟨sample, member, rfl⟩
    exact none_ sample member (decide_eq_true rfl)
  · intro unknown sample member same
    exact unknown ⟨sample, member, of_decide_eq_true same⟩

theorem GraphState.Counts.shows (counts : s.Counts samples)
    (returned : s.snapshot fromStr nowMs = some snap) : snap.Shows samples := by
  have named : s.Named := fun topic stats found => (counts.present topic stats found).topic
  obtain ⟨topics, -⟩ := GraphState.snapshot_fields returned
  have keys : snap.topics.map TopicSnapshot.topic = s.topics.keys := by
    rw [topics, List.map_map]
    exact values_map_eq_keys named
  have known : ∀ report ∈ snap.topics, ∃ stats, s.topics[report.topic]? = some stats ∧
      report = stats.report nowMs := by
    intro report member
    rw [topics] at member
    obtain ⟨stats, kept, rfl⟩ := List.mem_map.mp member
    obtain ⟨key, found⟩ := mem_values.mp kept
    obtain rfl := named key stats found
    exact ⟨stats, found, rfl⟩
  refine ⟨?_, ?_, ?_, ?_⟩
  · rw [keys]
    exact Std.TreeMap.ordered_keys
  · intro topic
    rw [keys, Std.TreeMap.mem_keys, Std.TreeMap.mem_iff_isSome_getElem?]
    cases found : s.topics[topic]? with
    | none =>
        have unknown := samplesOf_eq_nil.mp (counts.absent topic found)
        simp [unknown]
    | some stats =>
        have last := (counts.present topic stats found).last
        have observed : topic ∈ samples.map ObservedSample.topic := by
          by_contra unknown
          rw [samplesOf_eq_nil.mpr unknown] at last
          cases last
        simp [observed]
  · intro report member
    obtain ⟨stats, found, rfl⟩ := known report member
    have own := counts.present _ stats found
    exact ⟨own.messages, own.bytes, own.last, own.rootType⟩
  · intro report member
    obtain ⟨stats, found, rfl⟩ := known report member
    refine ⟨⟨topicNode nowMs stats, named.snapshot_observed returned found, rfl, rfl, rfl, rfl, rfl,
      rfl⟩, ?_⟩
    obtain ⟨graph, built, -, links⟩ := GraphState.snapshot_built returned
    rw [links, built.links, s.traffic_links]
    exact List.mem_append_left _ (List.mem_map_of_mem (mem_values.mpr ⟨_, found⟩))

end

/-! ## The threads -/

section

universe u

variable {α : Type u}

/-- What a thread made, one piece at a time, is in the log or still in its hands. `whole` holds as
long as it lost nothing. -/
structure Handover (whole : Prop) (made logged pending : List α) : Prop where
  all : whole → made = logged ++ pending
  early : logged <+: made

variable {whole later : Prop} {made logged pending : List α}

theorem Handover.make (handover : Handover whole made logged []) (holds : whole) (new : List α) :
    Handover later (made ++ new) logged new := by
  constructor
  · intro _
    rw [handover.all holds, List.append_nil]
  · exact handover.early.trans (List.prefix_append made new)

theorem Handover.log (handover : Handover whole made logged pending) (holds : whole) :
    Handover later made (logged ++ pending) [] := by
  have all := handover.all holds
  constructor
  · intro _
    rw [all, List.append_nil]
  · rw [all]

theorem Handover.lose (handover : Handover whole made logged pending) (lost : ¬ later) :
    Handover later made logged [] :=
  ⟨fun holds => absurd holds lost, handover.early⟩

theorem Handover.weaken (handover : Handover whole made logged pending) (still : later → whole) :
    Handover later made logged pending :=
  ⟨fun holds => handover.all (still holds), handover.early⟩

end

def Finding.sample? : Finding → Option ObservedSample
  | .sample topic payloadLen rootType => some ⟨topic, payloadLen, rootType⟩
  | .error _ => none

def ObserverPc.pending : ObserverPc → List ObservedSample
  | .reporting finding _ => finding.sample?.toList
  | _ => []

def PollerPc.pending : PollerPc → List (List (Str × Str))
  | .storing entries => [entries]
  | _ => []

theorem Finding.event_sample? (finding : Finding) (now : UInt64) :
    (finding.event now).sample? = finding.sample? := by
  cases finding <;> rfl

theorem Finding.event_replies (finding : Finding) (now : UInt64) :
    (finding.event now).replies = none := by
  cases finding <;> rfl

section

variable (fbs : SynapseFbs)

/-- What a step of the two threads can do: one moves, or takes up something, or brings it to the
state; after a panic it dies there. -/
inductive GraphServer.Took (s : GraphServer) : GraphServer → Prop
  | passed (ns : Nat) : Took s { s with elapsed := s.elapsed + ns }
  | shut : Took s { s with shutdown := true }
  | observerMoved (pc : ObserverPc) (live : s.observer ≠ .gone)
      (pending : pc.pending = s.observer.pending) : Took s { s with observer := pc }
  | pollerMoved (pc : PollerPc) (live : s.poller ≠ .gone)
      (pending : pc.pending = s.poller.pending) : Took s { s with poller := pc }
  | heard (sample : TrafficSample) (warnings : ContractWarningThrottle) (stderr : List Str)
      (listening : s.observer = .listening) :
      Took s { s with
        observer := .reporting (sample.finding fbs) false
        warnings := warnings
        stderr := stderr
        received := s.received ++ [sample] }
  | polled (entries : List (Str × Str)) (earlier : List (Str × Str))
      (collecting : s.poller = .collecting earlier) :
      Took s { s with poller := .storing entries, polls := s.polls ++ [entries] }
  | found (finding : Finding) (ends : Bool) (pc : ObserverPc) (sound : s.poisoned = false)
      (reporting : s.observer = .reporting finding ends) (done : pc.pending = []) :
      Took s { s.record (finding.event (asMillis s.elapsed)) with observer := pc }
  | stored (event : GraphEvent) (pc : PollerPc) (sound : s.poisoned = false)
      (live : s.poller ≠ .gone) (unsampled : event.sample? = none)
      (brought : s.poller.pending = event.replies.toList) (done : pc.pending = []) :
      Took s { s.record event with poller := pc }
  | observerDied (poisoned : s.poisoned = true) : Took s { s with observer := .gone }
  | pollerDied (poisoned : s.poisoned = true) : Took s { s with poller := .gone }

variable {fbs} {fromStr : Str → Option JsonValue}

theorem GraphServer.Took.observerFrom {s : GraphServer} {here next : ObserverPc}
    (at_ : s.observer = here) (live : here ≠ .gone) (pending : next.pending = here.pending) :
    s.Took fbs { s with observer := next } := by
  subst at_
  exact .observerMoved next live pending

theorem GraphServer.Took.pollerFrom {s : GraphServer} {here next : PollerPc}
    (at_ : s.poller = here) (live : here ≠ .gone) (pending : next.pending = here.pending) :
    s.Took fbs { s with poller := next } := by
  subst at_
  exact .pollerMoved next live pending

/-- Everything a step can do: one of the two threads takes it, or a connection thread deals with a
request. -/
theorem GraphServer.step_took {s t : GraphServer} {action : ServerAction}
    (taken : s.step fbs fromStr action = some t) :
    ((∀ method path, action ≠ .request method path) ∧ s.Took fbs t) ∨
      ∃ method path, action = .request method path ∧
        t = s.handleConnection fromStr method path := by
  cases action with
  | pass ns =>
      refine Or.inl ⟨nofun, ?_⟩
      cases taken
      exact .passed ns
  | shutdown =>
      refine Or.inl ⟨nofun, ?_⟩
      cases taken
      exact .shut
  | observerConnected result =>
      refine Or.inl ⟨nofun, ?_⟩
      unfold GraphServer.step at taken
      dsimp only at taken
      split at taken
      · rename_i here
        cases taken
        exact .observerFrom here nofun rfl
      · rename_i here
        cases taken
        exact .observerFrom here nofun rfl
      · cases taken
  | observerSubscribed result =>
      refine Or.inl ⟨nofun, ?_⟩
      unfold GraphServer.step at taken
      dsimp only at taken
      split at taken
      · rename_i here
        cases taken
        exact .observerFrom here nofun rfl
      · rename_i here
        cases taken
        exact .observerFrom here nofun rfl
      · cases taken
  | traffic traffic =>
      refine Or.inl ⟨nofun, ?_⟩
      unfold GraphServer.step at taken
      dsimp only at taken
      split at taken
      · rename_i here
        cases taken
        cases traffic with
        | nothing => exact .observerMoved s.observer (here ▸ nofun) rfl
        | failed error =>
            exact .observerFrom here nofun rfl
        | sample sample =>
            unfold GraphServer.observe GraphServer.warn
            dsimp only
            split
            · exact .heard sample s.warnings s.stderr here
            · exact .heard sample _ _ here
      · cases taken
  | observerReports =>
      refine Or.inl ⟨nofun, ?_⟩
      unfold GraphServer.step at taken
      dsimp only at taken
      split at taken
      · rename_i finding ends here
        split at taken
        · rename_i poisoned
          cases taken
          exact .observerDied poisoned
        · rename_i sound
          cases taken
          refine .found finding ends _ (Bool.eq_false_of_not_eq_true sound) here ?_
          cases ends <;> rfl
      · cases taken
  | observerLeaves =>
      refine Or.inl ⟨nofun, ?_⟩
      unfold GraphServer.step at taken
      dsimp only at taken
      split at taken
      · rename_i here
        split at taken
        · cases taken
          exact .observerFrom here nofun rfl
        · cases taken
      · cases taken
  | pollerConnected result =>
      refine Or.inl ⟨nofun, ?_⟩
      unfold GraphServer.step at taken
      dsimp only at taken
      split at taken
      · rename_i here
        cases taken
        exact .pollerFrom here nofun rfl
      · rename_i here
        cases taken
        exact .pollerFrom here nofun rfl
      · cases taken
  | queried result =>
      refine Or.inl ⟨nofun, ?_⟩
      unfold GraphServer.step at taken
      dsimp only at taken
      split at taken
      · rename_i here
        cases taken
        exact .pollerFrom here nofun rfl
      · rename_i here
        cases taken
        exact .pollerFrom here nofun rfl
      · cases taken
  | replied reply =>
      refine Or.inl ⟨nofun, ?_⟩
      unfold GraphServer.step at taken
      dsimp only at taken
      split at taken
      · rename_i entries here
        have live : s.poller ≠ .gone := by
          rw [here]
          exact nofun
        have idle : s.poller.pending = [] := by
          rw [here]
          rfl
        cases taken
        cases reply with
        | entry key payload => exact .pollerMoved _ live idle.symm
        | error text => exact .pollerMoved _ live idle.symm
        | done => exact .polled entries entries here
        | failed error => exact .polled _ entries here
      · cases taken
  | pollerReports =>
      refine Or.inl ⟨nofun, ?_⟩
      unfold GraphServer.step at taken
      dsimp only at taken
      split at taken
      · rename_i entries here
        split at taken
        · rename_i poisoned
          cases taken
          exact .pollerDied poisoned
        · rename_i sound
          cases taken
          refine .stored _ _ (Bool.eq_false_of_not_eq_true sound) ?_ rfl ?_ rfl
          · rw [here]
            exact nofun
          · rw [here]
            rfl
      · rename_i error ends here
        split at taken
        · rename_i poisoned
          cases taken
          exact .pollerDied poisoned
        · rename_i sound
          cases taken
          refine .stored _ _ (Bool.eq_false_of_not_eq_true sound) ?_ rfl ?_ ?_
          · rw [here]
            exact nofun
          · rw [here]
            rfl
          · cases ends <;> rfl
      · cases taken
  | pollerWakes =>
      refine Or.inl ⟨nofun, ?_⟩
      unfold GraphServer.step at taken
      dsimp only at taken
      split at taken
      · rename_i here
        cases taken
        exact .pollerFrom here nofun rfl
      · cases taken
  | pollerLeaves =>
      refine Or.inl ⟨nofun, ?_⟩
      unfold GraphServer.step at taken
      dsimp only at taken
      split at taken
      · rename_i here
        split at taken
        · cases taken
          exact .pollerFrom here nofun rfl
        · cases taken
      · cases taken
  | request method path =>
      cases taken
      exact Or.inr ⟨method, path, rfl, rfl⟩

/-! ### What reaches the state -/

variable (fbs) in
/-- The sample, if its contract is valid. -/
def TrafficSample.observed (sample : TrafficSample) : Option ObservedSample :=
  (sample.finding fbs).sample?

variable (fbs) in
/-- The state is that of the log, which lacks nothing but what the threads have in their hands, or
took with them when they died. -/
structure GraphServer.Recorded (connect keyexpr : Str) (s : GraphServer) : Prop where
  state : s.state = (GraphState.new connect keyexpr).run s.log
  samples : Handover (s.poisoned = false ∨ s.observer ≠ .gone)
    (s.received.filterMap (·.observed fbs)) (samplesIn s.log) s.observer.pending
  polls : Handover (s.poisoned = false ∨ s.poller ≠ .gone) s.polls
    (s.log.filterMap GraphEvent.replies) s.poller.pending

theorem samplesIn_record (log : List GraphEvent) (event : GraphEvent) :
    samplesIn (log ++ [event]) = samplesIn log ++ event.sample?.toList := by
  unfold samplesIn
  rw [List.filterMap_append]
  cases counted : event.sample? with
  | none => rw [List.filterMap_cons_none counted, List.filterMap_nil, Option.toList_none]
  | some sample => rw [List.filterMap_cons_some counted, List.filterMap_nil, Option.toList_some]

theorem replies_record (log : List GraphEvent) (event : GraphEvent) :
    (log ++ [event]).filterMap GraphEvent.replies =
      log.filterMap GraphEvent.replies ++ event.replies.toList := by
  rw [List.filterMap_append]
  cases polled : event.replies with
  | none => rw [List.filterMap_cons_none polled, List.filterMap_nil, Option.toList_none]
  | some replies => rw [List.filterMap_cons_some polled, List.filterMap_nil, Option.toList_some]

theorem run_record (connect keyexpr : Str) (log : List GraphEvent) (event : GraphEvent) :
    (GraphState.new connect keyexpr).run (log ++ [event]) =
      ((GraphState.new connect keyexpr).run log).step event := by
  rw [GraphState.run, List.foldl_append, List.foldl_cons, List.foldl_nil]
  rfl

theorem GraphServer.Recorded.step {connect keyexpr : Str} {s t : GraphServer}
    (took : s.Took fbs t) (recorded : s.Recorded fbs connect keyexpr) :
    t.Recorded fbs connect keyexpr := by
  cases took with
  | passed ns => exact ⟨recorded.state, recorded.samples, recorded.polls⟩
  | shut => exact ⟨recorded.state, recorded.samples, recorded.polls⟩
  | observerMoved pc live pending =>
      refine ⟨recorded.state, ?_, recorded.polls⟩
      dsimp only
      rw [pending]
      exact recorded.samples.weaken fun _ => Or.inr live
  | pollerMoved pc live pending =>
      refine ⟨recorded.state, recorded.samples, ?_⟩
      dsimp only
      rw [pending]
      exact recorded.polls.weaken fun _ => Or.inr live
  | heard sample warnings stderr listening =>
      refine ⟨recorded.state, ?_, recorded.polls⟩
      have samples := recorded.samples
      rw [listening] at samples
      have heard : [sample].filterMap (·.observed fbs) = (sample.observed fbs).toList := by
        cases counted : sample.observed fbs with
        | none => rw [List.filterMap_cons_none counted, List.filterMap_nil, Option.toList_none]
        | some own => rw [List.filterMap_cons_some counted, List.filterMap_nil, Option.toList_some]
      dsimp only
      rw [List.filterMap_append, heard]
      exact samples.make (Or.inr nofun) _
  | polled entries earlier collecting =>
      refine ⟨recorded.state, recorded.samples, ?_⟩
      have polls := recorded.polls
      have live : s.poller ≠ .gone := collecting ▸ nofun
      rw [show s.poller.pending = [] by rw [collecting]; rfl] at polls
      exact polls.make (Or.inr live) [entries]
  | found finding ends pc sound reporting done =>
      unfold GraphServer.record
      refine ⟨?_, ?_, ?_⟩
      · dsimp only
        rw [run_record, recorded.state]
      · have samples := recorded.samples
        rw [reporting] at samples
        dsimp only
        rw [samplesIn_record, Finding.event_sample?, done]
        exact samples.log (Or.inl sound)
      · dsimp only
        rw [replies_record, Finding.event_replies, Option.toList_none, List.append_nil]
        exact recorded.polls
  | stored event pc sound live unsampled brought done =>
      unfold GraphServer.record
      refine ⟨?_, ?_, ?_⟩
      · dsimp only
        rw [run_record, recorded.state]
      · dsimp only
        rw [samplesIn_record, unsampled, Option.toList_none, List.append_nil]
        exact recorded.samples
      · have polls := recorded.polls
        rw [brought] at polls
        dsimp only
        rw [replies_record, done]
        exact polls.log (Or.inl sound)
  | observerDied poisoned =>
      refine ⟨recorded.state, recorded.samples.lose ?_, recorded.polls⟩
      rintro (sound | live)
      · exact absurd (poisoned.symm.trans sound) nofun
      · exact live rfl
  | pollerDied poisoned =>
      refine ⟨recorded.state, recorded.samples, recorded.polls.lose ?_⟩
      rintro (sound | live)
      · exact absurd (poisoned.symm.trans sound) nofun
      · exact live rfl

/-! ### Requests -/

theorem route_fixed_eq_none {route : Route} : route.fixed = none ↔ route = .graph := by
  cases route <;> simp [Route.fixed]

variable (fromStr) in
/-- Everything a connection thread can do: it serves what needs no state, finds the mutex poisoned,
poisons it, or shows the state. -/
theorem GraphServer.handleConnection_cases (s : GraphServer) (method path : Str) :
    (route method path ≠ .graph ∧ s.handleConnection fromStr method path =
      s.handle (route method path) (route method path).fixed) ∨
    (route method path = .graph ∧ s.poisoned = true ∧
      s.handleConnection fromStr method path = s.handle .graph none) ∨
    (route method path = .graph ∧ s.poisoned = false ∧
      s.state.snapshot fromStr (asMillis s.elapsed) = none ∧
      s.handleConnection fromStr method path = { s.handle .graph none with poisoned := true }) ∨
    (route method path = .graph ∧ s.poisoned = false ∧ ∃ snap,
      s.state.snapshot fromStr (asMillis s.elapsed) = some snap ∧
      s.handleConnection fromStr method path =
        s.handle .graph (some ⟨str "200 OK", str "application/json", .graph snap⟩)) := by
  unfold GraphServer.handleConnection
  dsimp only
  cases fixed : (route method path).fixed with
  | some response =>
      refine Or.inl ⟨?_, rfl⟩
      rw [Ne, ← route_fixed_eq_none, fixed]
      exact nofun
  | none =>
      have asked := route_fixed_eq_none.mp fixed
      rw [asked]
      cases poisoned : s.poisoned with
      | true => exact Or.inr (Or.inl ⟨rfl, rfl, rfl⟩)
      | false =>
          dsimp only
          rw [if_neg Bool.false_ne_true]
          cases shown : s.state.snapshot fromStr (asMillis s.elapsed) with
          | none => exact Or.inr (Or.inr (Or.inl ⟨rfl, rfl, rfl, rfl⟩))
          | some snap => exact Or.inr (Or.inr (Or.inr ⟨rfl, rfl, snap, rfl, rfl⟩))

theorem GraphServer.Recorded.handle {connect keyexpr : Str} {s : GraphServer}
    (recorded : s.Recorded fbs connect keyexpr) (route : Route) (response : Option HttpResponse) :
    (s.handle route response).Recorded fbs connect keyexpr :=
  ⟨recorded.state, recorded.samples, recorded.polls⟩

/-- A request changes nothing that is recorded. -/
theorem GraphServer.Recorded.request {connect keyexpr : Str} {s : GraphServer}
    (recorded : s.Recorded fbs connect keyexpr) (method path : Str) :
    (s.handleConnection fromStr method path).Recorded fbs connect keyexpr := by
  rcases s.handleConnection_cases fromStr method path with ⟨-, same⟩ | ⟨-, -, same⟩ |
    ⟨-, sound, -, same⟩ | ⟨-, -, snap, -, same⟩
  · rw [same]
    apply recorded.handle
  · rw [same]
    apply recorded.handle
  · -- A poisoned mutex asks for less.
    rw [same]
    exact ⟨recorded.state, recorded.samples.weaken fun _ => Or.inl sound,
      recorded.polls.weaken fun _ => Or.inl sound⟩
  · rw [same]
    apply recorded.handle

/-- What is never taken back: what was done to the state, the time and the responses. Nothing more
is done to the state once the mutex is poisoned. -/
structure GraphServer.Onward (s t : GraphServer) : Prop where
  log : s.log <+: t.log
  elapsed : s.elapsed ≤ t.elapsed
  handled : s.handled <+: t.handled
  poisoned : s.poisoned = true → t.poisoned = true ∧ t.state = s.state

theorem GraphServer.Onward.refl (s : GraphServer) : s.Onward s :=
  ⟨List.prefix_rfl, Nat.le_refl _, List.prefix_rfl, fun poisoned => ⟨poisoned, rfl⟩⟩

theorem GraphServer.Onward.trans {s t u : GraphServer} (first : s.Onward t) (later : t.Onward u) :
    s.Onward u := by
  refine ⟨first.log.trans later.log, first.elapsed.trans later.elapsed,
    first.handled.trans later.handled, ?_⟩
  intro poisoned
  obtain ⟨still, same⟩ := first.poisoned poisoned
  obtain ⟨last, same'⟩ := later.poisoned still
  exact ⟨last, same'.trans same⟩

theorem GraphServer.Took.poisoned {s t : GraphServer} (took : s.Took fbs t) :
    t.poisoned = s.poisoned := by
  cases took <;> rfl

theorem GraphServer.Took.onward {s t : GraphServer} (took : s.Took fbs t) : s.Onward t := by
  have kept : s.poisoned = true → t.poisoned = true := fun poisoned =>
    took.poisoned.trans poisoned
  cases took with
  | passed ns =>
      exact ⟨List.prefix_rfl, Nat.le_add_right _ _, List.prefix_rfl, fun was => ⟨was, rfl⟩⟩
  | found finding ends pc sound reporting done =>
      exact ⟨List.prefix_append _ _, Nat.le_refl _, List.prefix_rfl, fun was =>
        absurd (was.symm.trans sound) nofun⟩
  | stored event pc sound live unsampled brought done =>
      exact ⟨List.prefix_append _ _, Nat.le_refl _, List.prefix_rfl, fun was =>
        absurd (was.symm.trans sound) nofun⟩
  | shut => exact ⟨List.prefix_rfl, Nat.le_refl _, List.prefix_rfl, fun was => ⟨was, rfl⟩⟩
  | observerMoved pc live pending =>
      exact ⟨List.prefix_rfl, Nat.le_refl _, List.prefix_rfl, fun was => ⟨was, rfl⟩⟩
  | pollerMoved pc live pending =>
      exact ⟨List.prefix_rfl, Nat.le_refl _, List.prefix_rfl, fun was => ⟨was, rfl⟩⟩
  | heard sample warnings stderr listening =>
      exact ⟨List.prefix_rfl, Nat.le_refl _, List.prefix_rfl, fun was => ⟨was, rfl⟩⟩
  | polled entries earlier collecting =>
      exact ⟨List.prefix_rfl, Nat.le_refl _, List.prefix_rfl, fun was => ⟨was, rfl⟩⟩
  | observerDied poisoned =>
      exact ⟨List.prefix_rfl, Nat.le_refl _, List.prefix_rfl, fun was => ⟨was, rfl⟩⟩
  | pollerDied poisoned =>
      exact ⟨List.prefix_rfl, Nat.le_refl _, List.prefix_rfl, fun was => ⟨was, rfl⟩⟩

variable (fromStr) in
theorem GraphServer.request_onward (s : GraphServer) (method path : Str) :
    s.Onward (s.handleConnection fromStr method path) := by
  have answered : ∀ response poisoned, (s.poisoned = true → poisoned = true) →
      s.Onward { s.handle (route method path) response with poisoned := poisoned } :=
    fun _ _ still => ⟨List.prefix_rfl, Nat.le_refl _, List.prefix_append _ _,
      fun was => ⟨still was, rfl⟩⟩
  rcases s.handleConnection_cases fromStr method path with ⟨-, same⟩ |
    ⟨asked, -, same⟩ | ⟨asked, -, -, same⟩ | ⟨asked, -, snap, -, same⟩
  · rw [same]
    exact answered _ s.poisoned id
  · rw [same, ← asked]
    exact answered none s.poisoned id
  · rw [same, ← asked]
    exact answered none true fun _ => rfl
  · rw [same, ← asked]
    exact answered _ s.poisoned id

/-! ## Runs -/

section

variable {connect keyexpr : Str} {schedule before after : List ServerAction} {s t u : GraphServer}
  {method path : Str}

theorem GraphServer.run_recorded
    (reached : Automaton.run (GraphServer.step fbs fromStr) (.boot connect keyexpr) schedule =
      some s) : s.Recorded fbs connect keyexpr := by
  have boot : (GraphServer.boot connect keyexpr).Recorded fbs connect keyexpr :=
    ⟨rfl, ⟨fun _ => rfl, List.nil_prefix⟩, ⟨fun _ => rfl, List.nil_prefix⟩⟩
  refine Automaton.run_invariant (motive := fun s => s.Recorded fbs connect keyexpr) ?_ reached boot
  intro s action t taken recorded
  rcases GraphServer.step_took taken with ⟨-, took⟩ | ⟨method, path, -, rfl⟩
  · exact recorded.step took
  · exact recorded.request method path

theorem GraphServer.run_onward
    (reached : Automaton.run (GraphServer.step fbs fromStr) s schedule = some t) : s.Onward t := by
  refine Automaton.run_invariant (motive := s.Onward) ?_ reached (.refl s)
  intro u action v taken onward
  rcases GraphServer.step_took taken with ⟨-, took⟩ | ⟨method, path, -, rfl⟩
  · exact onward.trans took.onward
  · exact onward.trans (u.request_onward fromStr method path)

/-- A request meets the state that the steps before it lead to. -/
theorem GraphServer.run_request (split : schedule = before ++ .request method path :: after)
    (reached : Automaton.run (GraphServer.step fbs fromStr) (.boot connect keyexpr) schedule =
      some s) :
    ∃ u, Automaton.run (GraphServer.step fbs fromStr) (.boot connect keyexpr) before = some u ∧
      (u.handleConnection fromStr method path).Onward s := by
  rw [split] at reached
  obtain ⟨u, first, rest⟩ := (Automaton.run_append_some _).mp reached
  obtain ⟨v, taken, later⟩ := (Automaton.run_cons_some _).mp rest
  cases taken
  exact ⟨u, first, GraphServer.run_onward later⟩

/-- Its response stands behind those of the requests before it. -/
theorem GraphServer.Onward.response {route : Route} {response : Option HttpResponse}
    {poisoned : Bool}
    (onward : GraphServer.Onward { u.handle route response with poisoned := poisoned } s) :
    s.handled[u.handled.length]? = some ⟨route, response⟩ := by
  obtain ⟨rest, same⟩ := onward.handled
  rw [← same, GraphServer.handle, List.append_assoc, List.getElem?_append_right (Nat.le_refl _),
    Nat.sub_self]
  rfl

/-! ### What the graph shows -/

/-- The samples that were counted. -/
def GraphServer.counted (s : GraphServer) : List ObservedSample := samplesIn s.log

/-- The polls that were stored. -/
def GraphServer.stored (s : GraphServer) : List (List (Str × Str)) :=
  s.log.filterMap GraphEvent.replies

/-- The admin entries of the last of these polls. -/
def pollEntries (polls : List (List (Str × Str))) : Std.TreeMap Str Str :=
  match polls.getLast? with
  | none => ∅
  | some replies => collectReplies replies

variable (fbs fromStr) in
/-- The snapshot shows the valid samples that were received by now and the last of the polls that
were completed by now, but for what a thread has in its hands, and nothing else. -/
structure GraphServer.Answers (s : GraphServer) (snap : GraphSnapshot) : Prop where
  samples : s.received.filterMap (·.observed fbs) = s.counted ++ s.observer.pending
  shows : snap.Shows s.counted
  polls : s.polls = s.stored ++ s.poller.pending
  entries : snap.adminEntries = (pollEntries s.stored).size
  origin : ∀ node ∈ snap.nodes, node.id = str "zenoh" ∨
    (∃ report ∈ snap.topics, node.id = str "topic:" ++ report.topic) ∨
    .node node ∈ adminOps fromStr (pollEntries s.stored)
  declared : (∀ node, .node node ∈ adminOps fromStr (pollEntries s.stored) →
    node.id ∈ snap.nodes.map GraphNode.id) ∧
    ∀ link, .link link ∈ adminOps fromStr (pollEntries s.stored) → link ∈ snap.links
  uptime : snap.uptimeMs = asMillis s.elapsed

theorem GraphState.snapshot_origin {s : GraphState} {nowMs : UInt64} {snap : GraphSnapshot}
    (returned : s.snapshot fromStr nowMs = some snap) {node : GraphNode} (shown : node ∈ snap.nodes) :
    node.id = str "zenoh" ∨ (∃ report ∈ snap.topics, node.id = str "topic:" ++ report.topic) ∨
      .node node ∈ adminOps fromStr s.adminEntries := by
  obtain ⟨graph, built, nodes, -⟩ := GraphState.snapshot_built returned
  obtain ⟨topics, -⟩ := GraphState.snapshot_fields returned
  rw [nodes] at shown
  obtain ⟨id, found⟩ := mem_values.mp shown
  obtain rfl := built.keyed (s.traffic_keyed nowMs) id node found
  by_cases inTraffic : node.id ∈ (s.traffic nowMs).nodes
  · rcases (s.traffic_mem nowMs node.id).mp inTraffic with transport | ⟨stats, kept, same⟩
    · exact Or.inl transport
    · refine Or.inr (Or.inl ⟨stats.report nowMs, ?_, same⟩)
      rw [topics]
      exact List.mem_map_of_mem kept
  · rw [built.nodes, Std.TreeMap.getElem?_eq_none inTraffic, Option.none_or] at found
    exact Or.inr (Or.inr (nodeOf_eq_some found).1)

/-- Every node and link of the admin entries is shown. -/
theorem GraphState.snapshot_declares {s : GraphState} {nowMs : UInt64} {snap : GraphSnapshot}
    (returned : s.snapshot fromStr nowMs = some snap) :
    (∀ node, .node node ∈ adminOps fromStr s.adminEntries →
      node.id ∈ snap.nodes.map GraphNode.id) ∧
    ∀ link, .link link ∈ adminOps fromStr s.adminEntries → link ∈ snap.links := by
  obtain ⟨graph, built, nodes, links⟩ := GraphState.snapshot_built returned
  constructor
  · intro node member
    have inside : node.id ∈ graph.nodes := (built.mem node.id).mpr (Or.inr ⟨node, member, rfl⟩)
    have found := Std.TreeMap.getElem?_eq_some_getElem inside
    rw [nodes, List.mem_map]
    exact ⟨_, mem_values.mpr ⟨_, found⟩, built.keyed (s.traffic_keyed nowMs) _ _ found⟩
  · intro link member
    rw [links, built.links]
    exact List.mem_append_right _ (mem_links.mpr member)

theorem GraphServer.Recorded.answers (recorded : s.Recorded fbs connect keyexpr)
    (sound : s.poisoned = false) {snap : GraphSnapshot}
    (returned : s.state.snapshot fromStr (asMillis s.elapsed) = some snap) :
    s.Answers fbs fromStr snap := by
  have polled : s.state.adminEntries = pollEntries s.stored := by
    rw [recorded.state]
    exact GraphState.run_adminEntries connect keyexpr s.log
  obtain ⟨-, uptime, entries, -⟩ := GraphState.snapshot_fields returned
  refine ⟨recorded.samples.all (Or.inl sound), ?_, recorded.polls.all (Or.inl sound), ?_, ?_, ?_,
    uptime⟩
  · have counts := GraphState.run_counts connect keyexpr s.log
    rw [← recorded.state] at counts
    exact counts.shows returned
  · rw [entries, polled]
  · rw [← polled]
    exact fun node shown => GraphState.snapshot_origin returned shown
  · rw [← polled]
    exact GraphState.snapshot_declares returned

variable (fromStr) in
/-- The entries name an identifier that `shorten` cuts inside a character. -/
def Unshortenable (entries : Std.TreeMap Str Str) : Prop :=
  ∃ zid ∈ adminIdentifiers fromStr entries, ¬ Shortens zid

variable (fromStr) in
/-- The last poll that was completed, and is not still in the hands of the poller, names one. -/
def GraphServer.CutsShort (s : GraphServer) : Prop :=
  ∃ stored, s.polls = stored ++ s.poller.pending ∧ Unshortenable fromStr (pollEntries stored)

variable (fbs fromStr) in
/-- Among these steps the graph was asked for at such a moment. -/
def Silenced (connect keyexpr : Str) (schedule : List ServerAction) : Prop :=
  ∃ before method path after u, schedule = before ++ .request method path :: after ∧
    route method path = .graph ∧
    Automaton.run (GraphServer.step fbs fromStr) (.boot connect keyexpr) before = some u ∧
    u.CutsShort fromStr

theorem GraphServer.Recorded.snapshot_none_iff (recorded : s.Recorded fbs connect keyexpr)
    (sound : s.poisoned = false) (nowMs : UInt64) :
    s.state.snapshot fromStr nowMs = none ↔ s.CutsShort fromStr := by
  have polls := recorded.polls.all (Or.inl sound)
  have returns := GraphState.snapshot_isSome fromStr s.state nowMs
  rw [show s.state.adminEntries = pollEntries s.stored by
    rw [recorded.state]
    exact GraphState.run_adminEntries connect keyexpr s.log] at returns
  have last : s.CutsShort fromStr ↔ Unshortenable fromStr (pollEntries s.stored) := by
    constructor
    · rintro ⟨stored, own, cut⟩
      rw [polls] at own
      obtain rfl : s.stored = stored := List.append_cancel_right own
      exact cut
    · exact fun cut => ⟨_, polls, cut⟩
  rw [last, Unshortenable, ← Option.not_isSome_iff_eq_none, returns]
  simp only [not_forall, exists_prop]

/-- The last step of a run adds to the silence where it asks for the graph at such a moment. -/
theorem silenced_append
    (reached : Automaton.run (GraphServer.step fbs fromStr) (.boot connect keyexpr) schedule =
      some s) (action : ServerAction) :
    Silenced fbs fromStr connect keyexpr (schedule ++ [action]) ↔
      Silenced fbs fromStr connect keyexpr schedule ∨
      ∃ method path, action = .request method path ∧ route method path = .graph ∧
        s.CutsShort fromStr := by
  constructor
  · rintro ⟨before, method, path, after, u, split, asked, first, cut⟩
    rcases List.eq_nil_or_concat after with rfl | ⟨rest, last, rfl⟩
    · obtain ⟨rfl, same⟩ := List.append_inj' split rfl
      rw [reached, Option.some.injEq] at first
      subst first
      exact Or.inr ⟨method, path, List.singleton_inj.mp same, asked, cut⟩
    · rw [List.concat_eq_append, ← List.cons_append, ← List.append_assoc] at split
      obtain ⟨earlier, -⟩ := List.append_inj' split rfl
      exact Or.inl ⟨before, method, path, rest, u, earlier, asked, first, cut⟩
  · rintro (⟨before, method, path, after, u, rfl, asked, first, cut⟩ |
      ⟨method, path, rfl, asked, cut⟩)
    · refine ⟨before, method, path, after ++ [action], u, ?_, asked, first, cut⟩
      rw [List.append_assoc, List.cons_append]
    · exact ⟨schedule, method, path, [], s, rfl, asked, reached, cut⟩

/-- The mutex is poisoned by the first such request, and by nothing else. -/
theorem GraphServer.poisoned_iff
    (reached : Automaton.run (GraphServer.step fbs fromStr) (.boot connect keyexpr) schedule =
      some s) : s.poisoned = true ↔ Silenced fbs fromStr connect keyexpr schedule := by
  induction schedule using List.reverseRecOn generalizing s with
  | nil =>
      cases reached
      constructor
      · exact nofun
      · rintro ⟨before, method, path, after, u, split, -⟩
        exact absurd split.symm (by simp)
  | append_singleton earlier action ih =>
      obtain ⟨u, first, last⟩ := (Automaton.run_append_some _).mp reached
      obtain ⟨v, taken, done⟩ := (Automaton.run_cons_some _).mp last
      cases done
      have recorded := GraphServer.run_recorded first
      rw [silenced_append first, ← ih first]
      rcases GraphServer.step_took taken with ⟨none_, took⟩ | ⟨method, path, rfl, rfl⟩
      · rw [took.poisoned]
        constructor
        · exact Or.inl
        · rintro (was | ⟨method, path, same, -⟩)
          · exact was
          · exact absurd same (none_ method path)
      · have own : (∃ m p, ServerAction.request method path = .request m p ∧ route m p = .graph ∧
            u.CutsShort fromStr) ↔ route method path = .graph ∧ u.CutsShort fromStr := by
          constructor
          · rintro ⟨m, p, ⟨⟩, both⟩
            exact both
          · exact fun both => ⟨method, path, rfl, both⟩
        rw [own]
        rcases u.handleConnection_cases fromStr method path with ⟨other, same⟩ |
          ⟨asked, poisoned, same⟩ | ⟨asked, sound, panics, same⟩ |
          ⟨asked, sound, snap, returned, same⟩
        · rw [same]
          simp [GraphServer.handle, other]
        · rw [same]
          simp [GraphServer.handle, poisoned]
        · rw [same]
          simp [asked, (recorded.snapshot_none_iff sound _).mp panics]
        · have whole := (recorded.snapshot_none_iff sound _).not.mp (by rw [returned]; exact nofun)
          rw [same]
          simp [GraphServer.handle, sound, whole]

/-- The graph page goes silent exactly when it is asked for while the last completed poll names an
identifier that is cut inside a character. From then on nothing reaches the state and no request
for the graph is answered; the other pages still are. -/
theorem graph_silenced_iff (connect keyexpr : Str) (schedule : List ServerAction)
    (s : GraphServer)
    (reached : Automaton.run (GraphServer.step fbs fromStr) (.boot connect keyexpr) schedule =
      some s) :
    (∀ before method path after, schedule = before ++ .request method path :: after →
      ∃ u r, Automaton.run (GraphServer.step fbs fromStr) (.boot connect keyexpr) before = some u ∧
        s.handled[u.handled.length]? = some r ∧ r.route = route method path ∧
        (r.route = .graph → (r.response = none ↔
          Silenced fbs fromStr connect keyexpr (before ++ [.request method path]))) ∧
        (r.route ≠ .graph → r.response = r.route.fixed ∧ r.response ≠ none)) ∧
    ∀ before method path after u, schedule = before ++ .request method path :: after →
      route method path = .graph →
      Automaton.run (GraphServer.step fbs fromStr) (.boot connect keyexpr) before = some u →
      u.CutsShort fromStr → s.state = u.state := by
  constructor
  · intro before method path after split
    obtain ⟨u, first, onward⟩ := GraphServer.run_request split reached
    have asked : Automaton.run (GraphServer.step fbs fromStr) (.boot connect keyexpr)
        (before ++ [.request method path]) = some (u.handleConnection fromStr method path) :=
      (Automaton.run_append_some _).mpr ⟨u, first, rfl⟩
    have silent := GraphServer.poisoned_iff asked
    refine ⟨u, ?_⟩
    rcases u.handleConnection_cases fromStr method path with ⟨other, same⟩ |
      ⟨own, poisoned, same⟩ | ⟨own, -, -, same⟩ | ⟨own, sound, snap, -, same⟩
    · rw [same] at onward
      refine ⟨_, first, onward.response, rfl, fun own => absurd own other, fun _ => ⟨rfl, ?_⟩⟩
      rw [Ne, route_fixed_eq_none]
      exact other
    · rw [same] at onward silent
      refine ⟨_, first, onward.response, own.symm, fun _ => ?_, fun other => absurd rfl other⟩
      simp [← silent, GraphServer.handle, poisoned]
    · rw [same] at onward silent
      refine ⟨_, first, onward.response, own.symm, fun _ => ?_, fun other => absurd rfl other⟩
      simp [← silent]
    · rw [same] at onward silent
      refine ⟨_, first, onward.response, own.symm, fun _ => ?_, fun other => absurd rfl other⟩
      simp [← silent, GraphServer.handle, sound]
  · intro before method path after u split asked first cut
    obtain ⟨u', first', onward⟩ := GraphServer.run_request split reached
    rw [first, Option.some.injEq] at first'
    subst first'
    have silenced : Silenced fbs fromStr connect keyexpr (before ++ [.request method path]) :=
      ⟨before, method, path, [], u, rfl, asked, first, cut⟩
    have poisoned := (GraphServer.poisoned_iff
      ((Automaton.run_append_some _).mpr ⟨u, first, rfl⟩)).mpr silenced
    rw [(onward.poisoned poisoned).2]
    rcases u.handleConnection_cases fromStr method path with ⟨-, same⟩ |
      ⟨-, -, same⟩ | ⟨-, -, -, same⟩ | ⟨-, -, snap, -, same⟩
    all_goals
      rw [same]
      rfl

end

end

def getGraph : ServerAction := .request (str "GET") (str "/api/graph?t=1")

/-- A poll with such an identifier is stored, and the graph was served once before. -/
def silencingPoll : List ServerAction :=
  [.pollerConnected (.ok ()), .queried (.ok ()), .replied (.entry accentedKey (str "null")),
    .replied .done, getGraph, .pollerReports]

/-- The next request for the graph panics. -/
theorem graph_silenced_iff_polled :
    ∃ s, Automaton.run (GraphServer.step recordFbs fun _ => none) (.boot (str "c") (str "**"))
        (silencingPoll ++ getGraph :: [.observerConnected (.error (str "refused")),
          .observerReports]) = some s ∧
      s.handled[1]? = some ⟨.graph, none⟩ ∧
      Silenced recordFbs (fun _ => none) (str "c") (str "**") (silencingPoll ++ [getGraph]) := by
  have ran : (Automaton.run (GraphServer.step recordFbs fun _ => none) (.boot (str "c") (str "**"))
      (silencingPoll ++ getGraph :: [.observerConnected (.error (str "refused")),
        .observerReports])).map (fun s => s.handled.map fun r => (r.route, r.response.isSome)) =
      some [(.graph, true), (.graph, false)] := by decide
  have came : (Automaton.run (GraphServer.step recordFbs fun _ => none) (.boot (str "c") (str "**"))
      silencingPoll).map (fun u => u.handled.length) = some 1 := by decide
  obtain ⟨s, reached, answered⟩ := Option.map_eq_some_iff.mp ran
  obtain ⟨own, -⟩ := graph_silenced_iff (str "c") (str "**") _ s reached
  obtain ⟨u, r, first, found, -, silent, -⟩ :=
    own silencingPoll (str "GET") (str "/api/graph?t=1") _ rfl
  rw [first, Option.map_some, Option.some.injEq] at came
  rw [came] at found
  have given : (s.handled.map fun r => (r.route, r.response.isSome))[1]? =
      some (.graph, false) := by
    rw [answered]
    rfl
  rw [List.getElem?_map, found, Option.map_some, Option.some.injEq, Prod.mk.injEq,
    Option.isSome_eq_false_iff, Option.isNone_iff_eq_none] at given
  obtain ⟨asked, nothing⟩ := given
  refine ⟨s, reached, ?_, (silent asked).mp nothing⟩
  rw [found, ← asked, ← nothing]

end Csyn
