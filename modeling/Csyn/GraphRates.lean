import Csyn.GraphBuild
import Csyn.Lib.Window
import Mathlib.Algebra.Field.Rat
import Mathlib.Data.Rat.Cast.CharZero
import Mathlib.Tactic.NormNum

set_option autoImplicit false

/- The rates that a snapshot reports, against the samples of the last five seconds. `observe_topic`
moves the window of a topic, `snapshot` only reads it. -/
namespace Csyn

/-- When `observe_topic` was called, if the event is one. -/
def GraphEvent.observedAt : GraphEvent → Option Nat
  | .observe _ _ _ now => some now.toNat
  | _ => none

def observationTimes (events : List GraphEvent) : List Nat :=
  events.filterMap GraphEvent.observedAt

/-- When a sample of the topic was observed. -/
def GraphEvent.sampledAt (topic : Str) : GraphEvent → Option Nat
  | .observe observed _ _ now => if observed = topic then some now.toNat else none
  | _ => none

def sampleTimes (events : List GraphEvent) (topic : Str) : List Nat :=
  events.filterMap (GraphEvent.sampledAt topic)

/-- The samples of the topic within the last five seconds. -/
def recentSamples (events : List GraphEvent) (topic : Str) (nowMs : UInt64) : Nat :=
  (sampleTimes events topic).countP fun t => nowMs.toNat - t ≤ 5000

/-- The rates in a snapshot are those of the last five seconds. -/
structure RatesCurrent (events : List GraphEvent) (nowMs : UInt64) (snap : GraphSnapshot) :
    Prop where
  nodes : ∀ topic, ∀ node ∈ snap.nodes, node.id = str "topic:" ++ topic →
    node.rateHz = (recentSamples events topic nowMs : Rat) / 5
  topics : ∀ report ∈ snap.topics,
    report.rateHz5s = (recentSamples events report.topic nowMs : Rat) / 5
  stale : ∀ topic, ∀ node ∈ snap.nodes, node.id = str "topic:" ++ topic → node.stale = true →
    node.rateHz = 0

/-- Of what was within five seconds when a topic was last sampled, nothing is older by now. -/
def WindowsCurrent (events : List GraphEvent) (nowMs : UInt64) : Prop :=
  ∀ topic last, (sampleTimes events topic).getLast? = some last →
    ∀ t ∈ sampleTimes events topic, last - t ≤ 5000 → nowMs.toNat - t ≤ 5000

theorem sampleTimes_sublist (events : List GraphEvent) (topic : Str) :
    (sampleTimes events topic).Sublist (observationTimes events) := by
  induction events with
  | nil => exact List.Sublist.refl _
  | cons event rest ih =>
      cases event with
      | observe observed payloadLen rootType now =>
          by_cases same : observed = topic
          · have sampled : sampleTimes (.observe observed payloadLen rootType now :: rest) topic =
                now.toNat :: sampleTimes rest topic :=
              List.filterMap_cons_some (if_pos same)
            rw [sampled]
            exact ih.cons_cons _
          · have skipped : sampleTimes (.observe observed payloadLen rootType now :: rest) topic =
                sampleTimes rest topic := List.filterMap_cons_none (if_neg same)
            rw [skipped]
            exact ih.cons _
      | observerError error => exact ih
      | adminPoll replies now => exact ih
      | adminFailed error => exact ih

/-! What the observer keeps. -/

/-- The statistics are those of a topic sampled at these times. -/
structure TopicStats.Tracks (stats : TopicStats) (topic : Str) (times : List Nat) : Prop where
  topic : stats.topic = topic
  last : times.getLast? = some stats.lastSeenMs.toNat
  recent : stats.recent.map UInt64.toNat = Window.after 5000 times

structure GraphState.Tracks (s : GraphState) (events : List GraphEvent) : Prop where
  absent : ∀ topic : Str, s.topics[topic]? = none → sampleTimes events topic = []
  present : ∀ (topic : Str) (stats : TopicStats), s.topics[topic]? = some stats →
    stats.Tracks topic (sampleTimes events topic)

theorem saturatingSub_toNat (a b : UInt64) : (saturatingSub a b).toNat = a.toNat - b.toNat := by
  unfold saturatingSub
  split
  · rename_i fits
    exact UInt64.toNat_sub_of_le a b fits
  · rename_i behind
    rw [UInt64.le_iff_toNat_le] at behind
    show 0 = _
    omega

theorem saturatingSub_gt (a b : UInt64) :
    saturatingSub a b > 5000 ↔ 5000 < a.toNat - b.toNat := by
  rw [gt_iff_lt, UInt64.lt_iff_toNat_lt, saturatingSub_toNat]
  rfl

/-- The queue of a topic is pushed as a window. -/
theorem recent_push (recent : List UInt64) (now : UInt64) :
    ((recent ++ [now]).dropWhile fun oldest => saturatingSub now oldest > 5000).map UInt64.toNat =
      Window.push 5000 (recent.map UInt64.toNat) now.toNat := by
  have same : (fun oldest => decide (saturatingSub now oldest > 5000)) =
      (fun t => decide (5000 < now.toNat - t)) ∘ UInt64.toNat := by
    funext oldest
    rw [Function.comp_apply, decide_eq_decide]
    exact saturatingSub_gt now oldest
  rw [Window.push, same, ← List.dropWhile_map, List.map_append]
  rfl

theorem sampleTimes_observe (events : List GraphEvent) (observed : Str) (payloadLen : Nat)
    (rootType : Option Str) (now : UInt64) (topic : Str) :
    sampleTimes (events ++ [.observe observed payloadLen rootType now]) topic =
      if observed = topic then sampleTimes events topic ++ [now.toNat]
      else sampleTimes events topic := by
  rw [sampleTimes, List.filterMap_append]
  split
  · rename_i same
    have sampled : (GraphEvent.observe observed payloadLen rootType now).sampledAt topic =
        some now.toNat := if_pos same
    rw [List.filterMap_cons_some sampled]
    rfl
  · rename_i other
    have skipped : (GraphEvent.observe observed payloadLen rootType now).sampledAt topic = none :=
      if_neg other
    rw [List.filterMap_cons_none skipped, List.filterMap_nil, List.append_nil]
    rfl

theorem sampleTimes_other {event : GraphEvent} (other : ∀ topic, event.sampledAt topic = none)
    (events : List GraphEvent) (topic : Str) :
    sampleTimes (events ++ [event]) topic = sampleTimes events topic := by
  rw [sampleTimes, List.filterMap_append, List.filterMap_cons_none (other topic),
    List.filterMap_nil, List.append_nil]
  rfl

theorem GraphState.Tracks.observe {s : GraphState} {events : List GraphEvent}
    (tracks : s.Tracks events) (topic : Str) (payloadLen : Nat) (rootType : Option Str)
    (now : UInt64) :
    (s.observeTopic topic payloadLen rootType now).Tracks
      (events ++ [.observe topic payloadLen rootType now]) := by
  constructor
  · intro other missing
    rw [GraphState.observeTopic, Std.TreeMap.getElem?_insert] at missing
    split at missing
    · cases missing
    · rename_i differs
      rw [Std.LawfulEqCmp.compare_eq_iff_eq] at differs
      rw [sampleTimes_observe, if_neg differs]
      exact tracks.absent other missing
  · intro other stats found
    rw [GraphState.observeTopic, Std.TreeMap.getElem?_insert] at found
    split at found
    · rename_i same
      obtain rfl := Std.LawfulEqCmp.eq_of_compare same
      rw [sampleTimes_observe, if_pos rfl]
      cases found
      cases earlier : s.topics.get? topic with
      | none =>
          have first := tracks.absent topic earlier
          refine ⟨rfl, List.getLast?_concat, ?_⟩
          rw [first]
          exact recent_push [] now
      | some stats =>
          have known := tracks.present topic stats earlier
          refine ⟨known.topic, List.getLast?_concat, ?_⟩
          rw [Window.after_concat, ← known.recent]
          exact recent_push stats.recent now
    · rename_i differs
      rw [Std.LawfulEqCmp.compare_eq_iff_eq] at differs
      rw [sampleTimes_observe, if_neg differs]
      exact tracks.present other stats found

/-- An event that leaves the topics alone keeps them in line with the samples. -/
theorem GraphState.Tracks.other {s t : GraphState} {events : List GraphEvent} {event : GraphEvent}
    (tracks : s.Tracks events) (unsampled : ∀ topic, event.sampledAt topic = none)
    (topics : t.topics = s.topics) : t.Tracks (events ++ [event]) := by
  constructor
  · intro topic missing
    rw [sampleTimes_other unsampled]
    exact tracks.absent topic (topics ▸ missing)
  · intro topic stats found
    rw [sampleTimes_other unsampled]
    exact tracks.present topic stats (topics ▸ found)

/-- After any run the statistics are those of the samples. -/
theorem GraphState.run_tracks (connect keyexpr : Str) (events : List GraphEvent) :
    ((GraphState.new connect keyexpr).run events).Tracks events := by
  induction events using List.reverseRecOn with
  | nil =>
      constructor
      · intro topic _
        rfl
      · intro topic stats found
        rw [GraphState.run, List.foldl_nil, GraphState.new, Std.TreeMap.getElem?_emptyc] at found
        cases found
  | append_singleton earlier event ih =>
      rw [GraphState.run, List.foldl_append, List.foldl_cons, List.foldl_nil]
      cases event with
      | observe topic payloadLen rootType now => exact ih.observe topic payloadLen rootType now
      | observerError error => exact ih.other (fun _ => rfl) rfl
      | adminPoll replies now => exact ih.other (fun _ => rfl) rfl
      | adminFailed error => exact ih.other (fun _ => rfl) rfl

/-- The length of a tracked queue: the samples within five seconds of the last one. -/
theorem TopicStats.Tracks.recent_length {stats : TopicStats} {topic : Str} {times : List Nat}
    (tracks : stats.Tracks topic times) (ordered : times.Pairwise (· ≤ ·)) :
    stats.recent.length = (Window.within 5000 stats.lastSeenMs.toNat times).length := by
  obtain ⟨earlier, rfl⟩ := List.getLast?_eq_some_iff.mp tracks.last
  rw [← Window.after_eq_within ordered, ← tracks.recent, List.length_map]

/-! What a snapshot shows. -/

section

variable {fromStr : Str → Option JsonValue} {s : GraphState} {nowMs : UInt64}
  {snap : GraphSnapshot}

/-- The topics of a state under their own names. -/
def GraphState.Named (s : GraphState) : Prop :=
  ∀ (topic : Str) (stats : TopicStats), s.topics[topic]? = some stats → stats.topic = topic

/-- In the traffic a topic's id has the node of its statistics, if it has any. -/
theorem GraphState.Named.traffic_topic (named : s.Named) (nowMs : UInt64) (topic : Str) :
    (s.traffic nowMs).nodes[str "topic:" ++ topic]? = (s.topics[topic]?).map (topicNode nowMs) := by
  have transport : ¬ str "zenoh" = str "topic:" ++ topic := by
    intro same
    have first := congrArg List.head? same
    rw [List.head?_append_of_ne_nil _ (by decide)] at first
    revert first
    decide
  have stored {stats : TopicStats} (observed : stats ∈ s.topics.values)
      (same : str "topic:" ++ stats.topic = str "topic:" ++ topic) :
      s.topics[topic]? = some stats := by
    obtain ⟨key, found⟩ := mem_values.mp observed
    rw [named key stats found] at same
    rw [← topicId_inj same]
    exact found
  rw [s.traffic_nodes nowMs, if_neg transport, Option.or_none]
  cases looked : (s.topics.values.reverse.map (topicNode nowMs)).find?
      fun node => node.id = str "topic:" ++ topic with
  | none =>
      rw [List.find?_eq_none] at looked
      cases found : s.topics[topic]? with
      | none => rfl
      | some stats =>
          have observed : topicNode nowMs stats ∈ s.topics.values.reverse.map (topicNode nowMs) :=
            List.mem_map_of_mem (List.mem_reverse.mpr (mem_values.mpr ⟨topic, found⟩))
          have other := looked _ observed
          rw [decide_eq_true_iff] at other
          exact absurd (congrArg (str "topic:" ++ ·) (named topic stats found)) other
  | some node =>
      have same := List.find?_some looked
      rw [decide_eq_true_iff] at same
      obtain ⟨stats, observed, rfl⟩ := List.mem_map.mp (List.mem_of_find?_eq_some looked)
      rw [stored (List.mem_reverse.mp observed) same]
      rfl

/-- A node under a topic's id shows the statistics of the topic, or carries no traffic. -/
theorem GraphState.Named.snapshot_node (named : s.Named)
    (returned : s.snapshot fromStr nowMs = some snap) {topic : Str} {node : GraphNode}
    (shown : node ∈ snap.nodes) (same : node.id = str "topic:" ++ topic) :
    match s.topics[topic]? with
    | some stats => node = topicNode nowMs stats
    | none => node.rateHz = 0 := by
  obtain ⟨graph, built, nodes, -⟩ := GraphState.snapshot_built returned
  rw [nodes] at shown
  obtain ⟨id, found⟩ := mem_values.mp shown
  obtain rfl := built.keyed (s.traffic_keyed nowMs) id node found
  rw [same, built.nodes, named.traffic_topic nowMs] at found
  cases known : s.topics[topic]? with
  | none =>
      rw [known, Option.map_none, Option.none_or] at found
      exact adminOps_quiet (nodeOf_eq_some found).1
  | some stats =>
      rw [known, Option.map_some, Option.some_or, Option.some.injEq] at found
      exact found.symm

/-- Every observed topic has its node. -/
theorem GraphState.Named.snapshot_observed (named : s.Named)
    (returned : s.snapshot fromStr nowMs = some snap) {topic : Str} {stats : TopicStats}
    (known : s.topics[topic]? = some stats) : topicNode nowMs stats ∈ snap.nodes := by
  obtain ⟨graph, built, nodes, -⟩ := GraphState.snapshot_built returned
  rw [nodes, mem_values]
  refine ⟨str "topic:" ++ topic, ?_⟩
  rw [built.nodes, named.traffic_topic nowMs, known]
  rfl

theorem GraphState.snapshot_topics (returned : s.snapshot fromStr nowMs = some snap) :
    ∀ report ∈ snap.topics, ∃ stats, (∃ key : Str, s.topics[key]? = some stats) ∧
      report.topic = stats.topic ∧ report.rateHz5s = (stats.recent.length : Rat) / 5 := by
  obtain ⟨topology, -, mapped⟩ := Option.bind_eq_some_iff.mp returned
  obtain ⟨graph, -, rfl⟩ := Option.map_eq_some_iff.mp mapped
  intro report member
  obtain ⟨stats, observed, rfl⟩ := List.mem_map.mp member
  exact ⟨stats, mem_values.mp observed, rfl, rfl⟩

end

/-! The rates. -/

/-- The rate kept for a topic is current exactly if its window is. -/
theorem TopicStats.Tracks.rate_iff {stats : TopicStats} {topic : Str} {events : List GraphEvent}
    {nowMs : UInt64} (tracks : stats.Tracks topic (sampleTimes events topic))
    (ordered : (observationTimes events).Pairwise (· ≤ ·))
    (past : ∀ t ∈ observationTimes events, t ≤ nowMs.toNat) :
    (stats.recent.length : Rat) / 5 = (recentSamples events topic nowMs : Rat) / 5 ↔
      ∀ t ∈ sampleTimes events topic, stats.lastSeenMs.toNat - t ≤ 5000 →
        nowMs.toNat - t ≤ 5000 := by
  have sublist := sampleTimes_sublist events topic
  have passed : stats.lastSeenMs.toNat ≤ nowMs.toNat :=
    past _ (sublist.subset (List.mem_of_getLast? tracks.last))
  rw [← Window.length_within_iff passed, div_left_inj' (by norm_num), Nat.cast_inj,
    tracks.recent_length (ordered.sublist sublist), recentSamples, List.countP_eq_length_filter]
  rfl

theorem GraphState.Tracks.named {s : GraphState} {events : List GraphEvent}
    (tracks : s.Tracks events) : s.Named :=
  fun topic stats found => (tracks.present topic stats found).topic

/-- The rates of a snapshot are those of the last five seconds if and only if no sample that a
topic's last one found within five seconds has passed that age since. -/
theorem graph_rates_current_iff (fromStr : Str → Option JsonValue) (connect keyexpr : Str)
    (events : List GraphEvent) (nowMs : UInt64) (snap : GraphSnapshot)
    (ordered : (observationTimes events).Pairwise (· ≤ ·))
    (past : ∀ t ∈ observationTimes events, t ≤ nowMs.toNat)
    (returned : ((GraphState.new connect keyexpr).run events).snapshot fromStr nowMs = some snap) :
    RatesCurrent events nowMs snap ↔ WindowsCurrent events nowMs := by
  have tracks := GraphState.run_tracks connect keyexpr events
  constructor
  · intro current topic last sampled
    cases known : ((GraphState.new connect keyexpr).run events).topics[topic]? with
    | none =>
        rw [tracks.absent topic known] at sampled
        cases sampled
    | some stats =>
        have kept := tracks.present topic stats known
        rw [kept.last, Option.some.injEq] at sampled
        rw [← sampled, ← kept.rate_iff ordered past]
        exact current.nodes topic _ (tracks.named.snapshot_observed returned known)
          (congrArg (str "topic:" ++ ·) kept.topic)
  · intro windows
    have rate {topic : Str} {stats : TopicStats}
        (kept : stats.Tracks topic (sampleTimes events topic)) :
        (stats.recent.length : Rat) / 5 = (recentSamples events topic nowMs : Rat) / 5 :=
      (kept.rate_iff ordered past).mpr (windows topic _ kept.last)
    constructor
    · intro topic node shown same
      have node_is := tracks.named.snapshot_node returned shown same
      split at node_is
      · rename_i stats known
        rw [node_is]
        exact rate (tracks.present topic stats known)
      · rename_i unknown
        rw [node_is, recentSamples, tracks.absent topic unknown, List.countP_nil, Nat.cast_zero,
          zero_div]
    · intro report member
      obtain ⟨stats, ⟨key, known⟩, topic, reported⟩ :=
        GraphState.snapshot_topics returned report member
      have kept := tracks.present key stats known
      rw [reported, topic, kept.topic]
      exact rate kept
    · intro topic node shown same stale
      have node_is := tracks.named.snapshot_node returned shown same
      split at node_is
      · rename_i stats known
        have kept := tracks.present topic stats known
        have fresh := windows topic _ kept.last _ (List.mem_of_getLast? kept.last) (by omega)
        rw [node_is, topicNode, decide_eq_true_iff, saturatingSub_gt] at stale
        omega
      · exact node_is

/-- Two samples of one topic, after one of another. -/
def sampledEvents : List GraphEvent :=
  [.observe (str "b") 8 none 0, .observe (str "a") 8 none 4000, .observe (str "a") 8 none 6000]

theorem graph_rates_current_iff_sampled :
    ∃ snap, ((GraphState.new (str "c") (str "**")).run sampledEvents).snapshot (fun _ => none) 6000 =
        some snap ∧
      (RatesCurrent sampledEvents 6000 snap ↔ WindowsCurrent sampledEvents 6000) := by
  have returns : (((GraphState.new (str "c") (str "**")).run sampledEvents).snapshot
      (fun _ => none) 6000).isSome := by decide
  obtain ⟨snap, returned⟩ := Option.isSome_iff_exists.mp returns
  exact ⟨snap, returned,
    graph_rates_current_iff (fun _ => none) (str "c") (str "**") sampledEvents 6000 snap (by decide)
      (by decide) returned⟩

/-- A topic sampled once is still reported at a fifth of a hertz after six seconds of silence. -/
theorem graph_rate_outlives_samples :
    ∃ snap, ((GraphState.new (str "c") (str "**")).run [.observe (str "a") 8 none 0]).snapshot
        (fun _ => none) 6000 = some snap ∧
      ¬ RatesCurrent [.observe (str "a") 8 none 0] 6000 snap := by
  have shown : (((GraphState.new (str "c") (str "**")).run
      [.observe (str "a") 8 none 0]).snapshot (fun _ => none) 6000).map
        (fun snap => snap.topics.map fun report => (report.topic, report.rateHz5s)) =
          some [(str "a", 1 / 5)] := by decide +kernel
  obtain ⟨snap, returned, rates⟩ := Option.map_eq_some_iff.mp shown
  refine ⟨snap, returned, ?_⟩
  intro current
  have listed : (str "a", (1 / 5 : Rat)) ∈
      snap.topics.map fun report => (report.topic, report.rateHz5s) := by
    rw [rates]
    exact List.mem_cons_self
  obtain ⟨report, member, same⟩ := List.mem_map.mp listed
  obtain ⟨topic, rate⟩ := Prod.mk.inj same
  have reported := current.topics report member
  have silent : recentSamples [.observe (str "a") 8 none 0] (str "a") 6000 = 0 := by decide
  rw [rate, topic, silent] at reported
  norm_num at reported

end Csyn
