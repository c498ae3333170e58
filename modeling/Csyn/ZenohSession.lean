import Csyn.Registry
import Csyn.ZenohInput

set_option autoImplicit false

/- Sessions of zephyr/src/csyn_zenoh.c: `open_session`, one declaration at a time, inside the
loop of `csyn_zenoh_thread`. A subscription is live as soon as it is declared. -/
namespace Csyn

/-- `CSYN_ZENOH_KEYEXPR_MAX` -/
def csynZenohKeyexprMax : Nat := 96

/-- `CSYN_ZENOH_MAX_TOPICS` -/
def csynZenohMaxTopics : Nat := 32

/-- `snprintf(out, out_size, ..)` with the test that follows it: `none` for `-EINVAL`. -/
def formatKey (text : Str) (outSize : Nat) : Option Str :=
  let written := snprintf outSize text
  if 0 < written.1 ∧ written.1 < outSize then some written.2 else none

section

variable (config : Kconfig)

/-- `key_with_namespace` -/
def keyWithNamespace (key : Str) (outSize : Nat) : Option Str :=
  if config.deploymentNamespace ≠ [] then
    formatKey (config.deploymentNamespace ++ slash :: key) outSize
  else formatKey key outSize

/-- `topic_keyexpr` -/
def topicKeyexpr (topic : CsynTopic) (outSize : Nat) : Option Str :=
  if slash ∉ topic.key then keyWithNamespace config topic.key outSize
  else formatKey topic.key outSize

/-- The callback that the loop of `open_session` declares for a topic, `none` for `continue`. -/
def rxHandler (topic : CsynTopic) : Option InputHandler :=
  if topic.dir ≠ .rx then none
  else
    match topic.info with
    | none => none
    | some info =>
        if info.key = str "mocap" then
          if config.mocapSource = .frame then some .mocap else none
        else some .input

/-- The topic that the configured pose key feeds. -/
def legacyMocapTopic (registry : List CsynTopic) : Option Nat :=
  if config.mocapSource = .poseKey ∧ config.zenohMocapPoseKey ≠ [] then
    csynTopicFind registry (some (str "mocap"))
  else none

end

/-- A background subscriber. -/
structure Subscription where
  key : Str
  handler : InputHandler
  topic : Nat

/-- Where `csyn_zenoh_thread` is. -/
inductive SessionPhase where
  | closed
  | topics (i : Nat)
  | legacyMocap
  | queryables (i : Nat)
  | running
  | ended
  deriving DecidableEq

structure ZenohSession where
  phase : SessionPhase
  subscriptions : List Subscription

/-- `z_drop(session)`, which ends its subscriptions; the thread then tries again. -/
def ZenohSession.drop : ZenohSession := ⟨.closed, []⟩

/-- The next declaration of `open_session`. `ok` is whether the zenoh-pico calls it makes
succeed; from `closed` these are the ones up to the two background tasks. -/
def ZenohSession.declare (config : Kconfig) (registry : List CsynTopic)
    (queryables : List CsynQueryable) (session : ZenohSession) (ok : Bool) : ZenohSession :=
  match session.phase with
  | .closed => if ok then ⟨.topics 0, []⟩ else .drop
  | .topics i =>
      match registry[i]? with
      | none => { session with phase := .legacyMocap }
      | some topic =>
          match rxHandler config topic with
          | none => { session with phase := .topics (i + 1) }
          | some handler =>
              match topicKeyexpr config topic csynZenohKeyexprMax with
              | none => .drop
              | some key =>
                  if ok then ⟨.topics (i + 1), session.subscriptions ++ [⟨key, handler, i⟩]⟩
                  else .drop
  | .legacyMocap =>
      match legacyMocapTopic config registry with
      | none => { session with phase := .queryables 0 }
      | some i =>
          if ok then
            ⟨.queryables 0,
              session.subscriptions ++ [⟨config.zenohMocapPoseKey, .legacyMocap, i⟩]⟩
          else .drop
  | .queryables i =>
      match queryables[i]? with
      | none =>
          -- "too many csyn topics for zenoh transport"
          if csynTopicCount registry > csynZenohMaxTopics then ⟨.ended, []⟩
          else { session with phase := .running }
      | some service =>
          if (keyWithNamespace config service.key csynZenohKeyexprMax).isSome ∧ ok then
            { session with phase := .queryables (i + 1) }
          else .drop
  | .running => session
  | .ended => session

/-- The session ends, `z_session_is_closed`. -/
def ZenohSession.close (session : ZenohSession) : ZenohSession :=
  match session.phase with
  | .ended => session
  | _ => .drop

/-- What a subscription of a session can be: one of the loop, or the pose key's. -/
def Subscription.Declared (config : Kconfig) (registry : List CsynTopic)
    (subscription : Subscription) : Prop :=
  (∃ topic, registry[subscription.topic]? = some topic ∧
      rxHandler config topic = some subscription.handler) ∨
    (subscription.handler = .legacyMocap ∧
      legacyMocapTopic config registry = some subscription.topic)

theorem rxHandler_congr {topic before : CsynTopic} (config : Kconfig)
    (same : topic.SameDeclaration before) : rxHandler config topic = rxHandler config before := by
  rw [rxHandler, rxHandler, same.dir, same.info]

theorem Subscription.Declared.congr {config : Kconfig} {registry before : List CsynTopic}
    {subscription : Subscription} (same : SameDeclarations registry before)
    (declared : subscription.Declared config registry) :
    subscription.Declared config before := by
  rcases declared with ⟨topic, present, handled⟩ | ⟨legacy, found⟩
  · obtain ⟨earlier, presentEarlier, declaration⟩ := same.symm.get present
    exact Or.inl ⟨earlier, presentEarlier, (rxHandler_congr config declaration).trans handled⟩
  · refine Or.inr ⟨legacy, ?_⟩
    rw [legacyMocapTopic, ← csynTopicFind_congr same]
    exact found

section

variable {config : Kconfig} {registry : List CsynTopic} {queryables : List CsynQueryable}
  {session : ZenohSession}

/-- Declaring keeps every subscription one of those. -/
theorem ZenohSession.declare_declared {ok : Bool}
    (valid : ∀ subscription ∈ session.subscriptions, subscription.Declared config registry) :
    ∀ subscription ∈ (session.declare config registry queryables ok).subscriptions,
      subscription.Declared config registry := by
  have dropped : ∀ subscription ∈ ZenohSession.drop.subscriptions,
      subscription.Declared config registry := by rintro _ ⟨⟩
  have added : ∀ new : Subscription, new.Declared config registry →
      ∀ subscription ∈ session.subscriptions ++ [new],
        subscription.Declared config registry := by
    intro new declared subscription member
    rcases List.mem_append.mp member with earlier | last
    · exact valid subscription earlier
    · exact List.mem_singleton.mp last ▸ declared
  unfold ZenohSession.declare
  split
  · split
    · rintro _ ⟨⟩
    · exact dropped
  · rename_i i _
    split
    · exact valid
    · rename_i topic present
      split
      · exact valid
      · rename_i handler handled
        split
        · exact dropped
        · split
          · exact added _ (Or.inl ⟨topic, present, handled⟩)
          · exact dropped
  · split
    · exact valid
    · rename_i i found
      split
      · exact added _ (Or.inr ⟨rfl, found⟩)
      · exact dropped
  · split
    · split
      · rintro _ ⟨⟩
      · exact valid
    · split
      · exact valid
      · exact dropped
  · exact valid
  · exact valid

theorem ZenohSession.close_declared
    (valid : ∀ subscription ∈ session.subscriptions, subscription.Declared config registry) :
    ∀ subscription ∈ session.close.subscriptions, subscription.Declared config registry := by
  unfold ZenohSession.close
  split
  · exact valid
  · rintro _ ⟨⟩

end

end Csyn
