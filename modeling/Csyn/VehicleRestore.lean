import Csyn.RecordReplay

set_option autoImplicit false

/- A recording played to a board: the puts of `bag_play` arrive at a subscription that
`open_session` of zephyr/src/csyn_zenoh.c declared, among everything else the board does. -/
namespace Csyn

/-- What is still to be put, and the board. `shown` is a history variable: the payloads that the
subscription got, oldest first. -/
structure Restoring where
  puts : List HostPut
  board : Feed
  shown : List (List UInt8)

/-- `deliver` brings the next put, in the order in which they were put. -/
inductive RestoreAction where
  | deliver (now : Int)
  | traffic (action : FeedAction)

def Restoring.boot (puts : List HostPut) (registry : List CsynTopic) : Restoring where
  puts := puts
  board := .boot registry
  shown := []

/-- A put as the receiving zenoh-pico presents it, with its rendering of the encoding. -/
def HostPut.sample (put : HostPut) (wrapper : Str) : ZSample :=
  (⟨put.key, put.payload, put.encoding⟩ : ZPut).sample wrapper

/-- The subscription gets the puts with its key. No other traffic is for its topic. -/
def Restoring.step (config : Kconfig) (wrapper : Str) (subscription : Subscription)
    (s : Restoring) : RestoreAction → Option Restoring
  | .deliver now =>
      match s.puts with
      | [] => none
      | put :: rest =>
          if put.key = subscription.key then
            (s.board.step config (.sample subscription.handler subscription.topic
              (put.sample wrapper) now)).map fun board =>
                ⟨rest, board, s.shown ++ [put.payload]⟩
          else some { s with puts := rest }
  | .traffic action =>
      if s.board.feeds config subscription.topic action then none
      else (s.board.step config action).map fun board => { s with board := board }

/-- The payloads that are put on a key. -/
def payloadsOn (key : Str) (puts : List HostPut) : List (List UInt8) :=
  (puts.filter fun put => put.key == key).map HostPut.payload

section

variable {config : Kconfig} {wrapper key : Str} {j : Nat} {registry : List CsynTopic}
  {s t : Restoring}

/-- Everything a step can do. -/
theorem Restoring.step_cases {subscription : Subscription} {action : RestoreAction}
    (taken : s.step config wrapper subscription action = some t) :
    (∃ put rest now board, s.puts = put :: rest ∧ put.key = subscription.key ∧
      s.board.step config (.sample subscription.handler subscription.topic (put.sample wrapper)
        now) = some board ∧ t = ⟨rest, board, s.shown ++ [put.payload]⟩) ∨
    (∃ put rest, s.puts = put :: rest ∧ put.key ≠ subscription.key ∧
      t = { s with puts := rest }) ∨
    (∃ fed board, (∀ bytes, s.board.handed config fed ≠ some (subscription.topic, bytes)) ∧
      s.board.step config fed = some board ∧ t = { s with board := board }) := by
  cases action with
  | deliver now =>
      unfold Restoring.step at taken
      dsimp only at taken
      split at taken
      · cases taken
      · rename_i put rest pending
        split at taken
        · rename_i own
          obtain ⟨board, stepped, rfl⟩ := Option.map_eq_some_iff.mp taken
          exact Or.inl ⟨put, rest, now, board, pending, own, stepped, rfl⟩
        · rename_i foreign
          cases taken
          exact Or.inr (Or.inl ⟨put, rest, pending, foreign, rfl⟩)
  | traffic fed =>
      unfold Restoring.step at taken
      dsimp only at taken
      split at taken
      · cases taken
      · rename_i apart
        obtain ⟨board, stepped, rfl⟩ := Option.map_eq_some_iff.mp taken
        rw [Bool.not_eq_true] at apart
        exact Or.inr (Or.inr ⟨fed, board, Feed.feeds_false.mp apart, stepped, rfl⟩)

/-- The topic can take the put. -/
structure HostPut.TakenBy (config : Kconfig) (topic : CsynTopic) (info : SynapseTopicInfo)
    (put : HostPut) : Prop where
  contract : info.contract = some put.encoding
  positive : 0 < put.payload.length
  bounded : put.payload.length ≤ min topic.maxSize.toNat config.flatbufferMaxSize

/-- What was delivered and what is still to come make up `recorded`, and the topic of the board
shows the first part. -/
structure Restoring.Consistent (config : Kconfig) (registry : List CsynTopic) (key : Str) (j : Nat)
    (topic : CsynTopic) (info : SynapseTopicInfo) (recorded : List (List UInt8)) (s : Restoring) :
    Prop where
  declared : SameDeclarations s.board.registry registry
  shown : s.board.Shows j s.shown
  split : s.shown ++ payloadsOn key s.puts = recorded
  taken : ∀ put ∈ s.puts, put.key = key → put.TakenBy config topic info

variable {topic : CsynTopic} {info : SynapseTopicInfo} {recorded : List (List UInt8)}

/-- A put of the key is published on the topic. -/
theorem Restoring.Consistent.deliver {put : HostPut} {rest : List HostPut} {now : Int}
    {board : Feed} (valid : s.Consistent config registry key j topic info recorded)
    (present : registry[j]? = some topic) (resolved : topic.info = some info)
    (wrapped : wrapper ∈ transportWrappers) (pending : s.puts = put :: rest) (own : put.key = key)
    (taken : s.board.step config (.sample .input j (put.sample wrapper) now) = some board) :
    (⟨rest, board, s.shown ++ [put.payload]⟩ : Restoring).Consistent config registry key j topic
      info recorded := by
  have takes := valid.taken put (by rw [pending]; exact List.mem_cons_self) own
  obtain ⟨own_, found, same⟩ := valid.declared.get present
  have roomy : put.payload.length ≤ min own_.maxSize.toNat config.flatbufferMaxSize := by
    rw [same.maxSize]
    exact takes.bounded
  have passed : InputHandler.input.handsOn config own_ s.board.suppressFallback
      (put.sample wrapper) = some put.payload :=
    inputHandler_handsOn config (same.info.trans resolved) takes.contract wrapped roomy _
  have handed : s.board.handed config (.sample .input j (put.sample wrapper) now) =
      some (j, put.payload) := by
    simp only [Feed.handed, found, passed, Option.map_some]
  have fits : own_.accepts (some put.payload) = true := by
    rw [CsynTopic.accepts_some, same.maxSize]
    exact ⟨takes.positive, Nat.le_trans takes.bounded (Nat.min_le_left _ _)⟩
  refine ⟨(Feed.step_sameDeclarations taken).trans valid.declared,
    valid.shown.handed found fits handed taken, ?_, ?_⟩
  · have whole := valid.split
    rw [pending, payloadsOn, List.filter_cons, if_pos (beq_iff_eq.mpr own), List.map_cons] at whole
    rw [List.append_assoc]
    exact whole
  · intro other member
    exact valid.taken other (by rw [pending]; exact List.mem_cons_of_mem _ member)

theorem Restoring.step_consistent (present : registry[j]? = some topic)
    (resolved : topic.info = some info) (wrapped : wrapper ∈ transportWrappers) (s : Restoring)
    (action : RestoreAction) (t : Restoring)
    (taken : s.step config wrapper ⟨key, .input, j⟩ action = some t)
    (valid : s.Consistent config registry key j topic info recorded) :
    t.Consistent config registry key j topic info recorded := by
  rcases Restoring.step_cases taken with ⟨put, rest, now, board, pending, own, stepped, rfl⟩ |
    ⟨put, rest, pending, foreign, rfl⟩ | ⟨fed, board, apart, stepped, rfl⟩
  · exact valid.deliver present resolved wrapped pending own stepped
  · refine ⟨valid.declared, valid.shown, ?_, ?_⟩
    · have whole := valid.split
      rw [pending, payloadsOn, List.filter_cons, if_neg (by simpa using foreign)] at whole
      exact whole
    · intro other member
      exact valid.taken other (by rw [pending]; exact List.mem_cons_of_mem _ member)
  · exact ⟨(Feed.step_sameDeclarations stepped).trans valid.declared,
      valid.shown.apart apart stepped, valid.split, valid.taken⟩

end

/-! ## The samples of the recording -/

/-- The host received this as a put of the topic, in some rendering of the encoding. -/
def ReceivedSample.PutOf (config : Kconfig) (source : CsynTopic) (info : SynapseTopicInfo)
    (sample : ReceivedSample) : Prop :=
  ∃ pico payload put, ∃ wrapper ∈ transportWrappers,
    (zenohPut config pico source info payload).2 = some put ∧ 0 < payload.length ∧
    payload.length ≤ source.maxSize.toNat ∧ sample.key = put.key ∧
    sample.encoding = wrapper ++ put.encoding ∧ sample.payload = put.payload

section

variable {fbs : SynapseFbs} {entry : TopicInfo} {info : SynapseTopicInfo}

theorem SameEntry.contract (same : SameEntry entry info) {contract : Str}
    (built : info.contract = some contract) : contract = entry.contract := by
  obtain ⟨wireType, schemaHash, typed, hashed, rfl, -⟩ := completeContract_some built
  rw [same.wireType, Option.some.injEq] at typed
  rw [same.schemaHash, Option.some.injEq] at hashed
  rw [TopicInfo.contract, same.fixedLayout, typed, hashed]

/-- The host knows the type of what the board put. -/
theorem ReceivedSample.PutOf.typed {config : Kconfig} {source : CsynTopic}
    {sample : ReceivedSample} (put : sample.PutOf config source info)
    (exact_ : fbs.ExactContracts) (listed : entry ∈ fbs.topics) (same : SameEntry entry info) :
    ∃ known, requireValueType fbs sample.key sample.encoding none = .ok known ∧
      known.topic = entry := by
  obtain ⟨pico, payload, put, wrapper, wrapped, sent, -, -, -, encoded, -⟩ := put
  obtain ⟨-, stamped⟩ := zenohPut_stamped sent
  have canonical : canonicalEncoding sample.encoding = entry.contract :=
    (canonicalEncoding_eq_contract entry).mpr ⟨wrapper, by rw [encoded, same.contract stamped], by
      rw [encoded, same.contract stamped]
      exact find?_wrapped wrapped (mediaPrefix_contract _ _ _)⟩
  obtain ⟨known, resolved, named⟩ := (SynapseFbs.resolves_iff exact_ listed).mpr canonical
  refine ⟨known, ?_, named⟩
  unfold requireValueType
  rw [resolved]

end

section

variable {fbs : SynapseFbs} {receptions : List Reception} {encodingForTopic : TopicInfo → Str}
  {topicFilter : Option Str} {config : Kconfig} {source : CsynTopic} {info : SynapseTopicInfo}
  {entry : TopicInfo} {key : Str}

end

end Csyn
