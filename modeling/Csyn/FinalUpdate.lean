import Mathlib.Data.List.Forall2
import Csyn.OutboundPipeline

set_option autoImplicit false

/- The outbound pipeline ends on the last update and never goes backwards. Each stage
reads a generation first and the data later, so what it records can lag behind what it
passed on but never runs ahead of it. -/
namespace Csyn

/-- The sample a busy writer is storing. -/
def PublishPc.Carries (bytes : List UInt8) : PublishPc → Prop
  | .idle => False
  | .copying _ stored _ => stored = bytes
  | .lengthStored _ stored => stored = bytes

/-- A publish call of `bytes` either goes on or completes with exactly these. -/
theorem Store.publish_carries {s t : Store} {action : PublishAction} {bytes : List UInt8}
    (taken : s.publish action = some t)
    (carries : s.writer.Carries bytes ∨
      action = .call (some bytes) ∧ s.topic.accepts (some bytes) = true) :
    (t.writer.Carries bytes ∧ completes s.writer action = [] ∧ t.published = s.published) ∨
      (t.writer = .idle ∧ ∃ next, completes s.writer action = [⟨next, bytes⟩] ∧
        t.published = s.published ++ [⟨next, bytes⟩]) := by
  rcases s.publish_cases taken with ⟨buf, rfl, at_rest, refused, rfl⟩ |
    ⟨called, rfl, at_rest, -, rfl⟩ | ⟨next, stored, pending, offset, byte, rfl, at_copy, -, -, rfl⟩ |
    ⟨next, stored, rfl, at_copy, rfl⟩ | ⟨next, stored, rfl, at_end, rfl⟩
  · rcases carries with busy | ⟨same, fits⟩
    · rw [at_rest] at busy
      exact absurd busy id
    · cases same
      rw [fits] at refused
      cases refused
  · rcases carries with busy | ⟨same, -⟩
    · rw [at_rest] at busy
      exact absurd busy id
    · cases same
      rw [at_rest]
      exact Or.inl ⟨rfl, rfl, rfl⟩
  · rcases carries with busy | ⟨same, -⟩
    · rw [at_copy] at busy ⊢
      exact Or.inl ⟨busy, rfl, rfl⟩
    · cases same
  · rcases carries with busy | ⟨same, -⟩
    · rw [at_copy] at busy ⊢
      exact Or.inl ⟨busy, rfl, rfl⟩
    · cases same
  · rcases carries with busy | ⟨same, -⟩
    · rw [at_end] at busy ⊢
      cases busy
      exact Or.inr ⟨rfl, next, rfl, rfl⟩
    · cases same

theorem Store.publish_maxSize {s t : Store} {action : PublishAction}
    (taken : s.publish action = some t) : t.topic.maxSize = s.topic.maxSize := by
  rcases s.publish_cases taken with ⟨_, -, -, -, rfl⟩ | ⟨_, -, -, -, rfl⟩ |
    ⟨_, _, _, _, _, -, -, -, -, rfl⟩ | ⟨_, _, -, -, rfl⟩ | ⟨_, _, -, -, rfl⟩
  all_goals rfl

/-- The poller never touches the store. -/
theorem Polling.step_store {rule : PollRule} {s t : Polling} {action : PollingAction}
    (taken : s.step rule action = some t) (other : ∀ write, action ≠ .writer write) :
    t.store = s.store := by
  rcases s.step_cases taken with ⟨write, _, writing, -, -⟩ | ⟨_, -, -, rfl⟩ |
    ⟨_, _, -, -, -, -, rfl⟩ | ⟨_, _, _, _, _, -, -, -, rfl⟩ | ⟨_, _, _, _, -, -, -, rfl⟩ |
    ⟨_, _, _, _, _, _, -, -, -, rfl⟩ | ⟨_, _, _, _, -, -, rfl⟩ | ⟨-, -, -, rfl⟩
  · exact absurd writing (other write)
  all_goals rfl

section

variable {n : Nat}

/-- A published sample is the update with this number. -/
def CarriesUpdate (updates : List (Vector UInt8 n)) (origin : Nat) (p : Published) : Prop :=
  0 < origin ∧ ∃ message, updates[origin - 1]? = some message ∧ p.payload = message.toList

/-- A generation the mirror is about to record: newer than the recorded one. -/
structure Outbound.Due (s : Outbound n) (generation : UInt32) : Prop where
  newer : s.map.lastGeneration.toNat < generation.toNat
  reached : generation.toNat ≤ s.updates.length

/-- What the mirror holds in `msg`: an update no older than the generation it is about to
record and than everything published before. -/
structure Outbound.Holding (s : Outbound n) (generation : UInt32) : Prop where
  recent : generation.toNat ≤ s.map.read
  message : s.updates[s.map.read - 1]? = some s.map.msg
  latest : ∀ origin ∈ s.origins, origin ≤ s.map.read

/-- Where the mirror is. It publishes at most once for each generation it records. -/
def Outbound.MirrorView (s : Outbound n) : MirrorPc → Prop
  | .idle => s.polling.store.writer = .idle ∧
      s.polling.store.published.length ≤ s.map.lastGeneration.toNat
  | .reading generation => s.polling.store.writer = .idle ∧
      s.polling.store.published.length ≤ s.map.lastGeneration.toNat ∧ s.Due generation
  | .calling generation => s.polling.store.writer = .idle ∧
      s.polling.store.published.length ≤ s.map.lastGeneration.toNat ∧ s.Due generation ∧
      s.Holding generation
  | .publishing generation => s.polling.store.writer.Carries s.map.msg.toList ∧
      s.polling.store.published.length ≤ s.map.lastGeneration.toNat ∧ s.Due generation ∧
      s.Holding generation
  | .recording generation => s.polling.store.writer = .idle ∧
      s.polling.store.published.length ≤ s.map.lastGeneration.toNat + 1 ∧ s.Due generation ∧
      ∃ origin, s.origins.getLast? = some origin ∧ generation.toNat ≤ origin

structure Outbound.Consistent (config : Kconfig) (s : Outbound n) : Prop where
  polling : s.polling.Consistent (putTopicIfUpdated config)
  counted : s.zros.locklessGeneration = UInt32.ofNat s.updates.length
  newest : ∀ message, s.updates.getLast? = some message → s.zros.message = message
  fits : 0 < n ∧ n ≤ s.polling.store.topic.maxSize.toNat
  carried : List.Forall₂ (CarriesUpdate s.updates) s.origins s.polling.store.published
  known : ∀ origin ∈ s.origins, origin ≤ s.updates.length
  ordered : s.origins.Pairwise (· ≤ ·)
  behind : s.map.lastGeneration.toNat ≤ s.updates.length
  covered : s.map.lastGeneration ≠ 0 →
    ∃ origin, s.origins.getLast? = some origin ∧ s.map.lastGeneration.toNat ≤ origin
  mirror : s.MirrorView s.map.pc

theorem Outbound.boot_consistent (config : Kconfig) (message : Vector UInt8 n) (store : Store)
    (valid : store.Consistent) (at_rest : store.writer = .idle) (empty : store.published = [])
    (fits : 0 < n ∧ n ≤ store.topic.maxSize.toNat) :
    (Outbound.boot message store).Consistent config where
  polling := Polling.boot_consistent _ store valid
  counted := rfl
  newest := by simp [Outbound.boot]
  fits := fits
  carried := by
    change List.Forall₂ _ [] store.published
    rw [empty]
    exact List.Forall₂.nil
  known := by simp [Outbound.boot]
  ordered := List.Pairwise.nil
  behind := Nat.le_refl _
  covered := fun nonzero => absurd rfl nonzero
  mirror := by
    refine ⟨at_rest, ?_⟩
    change store.published.length ≤ _
    rw [empty]
    exact Nat.zero_le _

theorem CarriesUpdate.extend {updates : List (Vector UInt8 n)} {origin : Nat} {p : Published}
    (carries : CarriesUpdate updates origin p) (message : Vector UInt8 n) :
    CarriesUpdate (updates ++ [message]) origin p := by
  obtain ⟨positive, carried, found, bytes⟩ := carries
  refine ⟨positive, carried, ?_, bytes⟩
  rw [List.getElem?_append_left (List.getElem?_eq_some_iff.mp found).1]
  exact found

/-- The update that the `k`-th publish carries. -/
theorem Outbound.Consistent.origin {config : Kconfig} {s : Outbound n}
    (valid : s.Consistent config) {k : Nat} {p : Published}
    (found : s.polling.store.published[k]? = some p) :
    ∃ origin, s.origins[k]? = some origin ∧ CarriesUpdate s.updates origin p := by
  obtain ⟨sameLength, carried⟩ := List.forall₂_iff_get.mp valid.carried
  obtain ⟨inside, rfl⟩ := List.getElem?_eq_some_iff.mp found
  have present : k < s.origins.length := by omega
  exact ⟨_, List.getElem?_eq_getElem present, carried k present inside⟩

/-- A new update disturbs nothing the mirror knows. -/
theorem Outbound.MirrorView.update {s : Outbound n} {pc : MirrorPc} (view : s.MirrorView pc)
    (zros : ZrosTopic n) (message : Vector UInt8 n) :
    ({ s with zros := zros, updates := s.updates ++ [message] } : Outbound n).MirrorView pc := by
  have due : ∀ generation, s.Due generation →
      ({ s with zros := zros, updates := s.updates ++ [message] } : Outbound n).Due generation := by
    rintro generation ⟨newer, reached⟩
    refine ⟨newer, ?_⟩
    simp only [List.length_append]
    omega
  have holding : ∀ generation, s.Holding generation →
      ({ s with zros := zros, updates := s.updates ++ [message] } : Outbound n).Holding
        generation := by
    rintro generation ⟨recent, held, latest⟩
    refine ⟨recent, ?_, latest⟩
    dsimp only
    rw [List.getElem?_append_left (List.getElem?_eq_some_iff.mp held).1]
    exact held
  cases pc with
  | idle => exact view
  | reading generation => exact ⟨view.1, view.2.1, due _ view.2.2⟩
  | calling generation => exact ⟨view.1, view.2.1, due _ view.2.2.1, holding _ view.2.2.2⟩
  | publishing generation => exact ⟨view.1, view.2.1, due _ view.2.2.1, holding _ view.2.2.2⟩
  | recording generation => exact ⟨view.1, view.2.1, due _ view.2.2.1, view.2.2.2⟩

/-- A step of `csyn_topic_publish`, the first or a later one. -/
theorem Outbound.Consistent.write {config : Kconfig} {s t : Outbound n} {generation : UInt32}
    {action : PublishAction} (valid : s.Consistent config)
    (taken : s.write config generation action = some t)
    (small : s.updates.length < 2 ^ 32)
    (carries : s.polling.store.writer.Carries s.map.msg.toList ∨
      action = .call (some s.map.msg.toList) ∧
        s.polling.store.topic.accepts (some s.map.msg.toList) = true)
    (few : s.polling.store.published.length ≤ s.map.lastGeneration.toNat)
    (due : s.Due generation) (held : s.Holding generation) : t.Consistent config := by
  obtain ⟨polling, stepped, rfl⟩ := Option.map_eq_some_iff.mp taken
  have keep := Polling.step_consistent _ _ _ _ stepped
  obtain ⟨store, published, rfl⟩ := Option.map_eq_some_iff.mp stepped
  have reached := due.reached
  have newer := due.newer
  have capacity := Store.publish_maxSize published
  have fits : 0 < n ∧ n ≤ store.topic.maxSize.toNat := capacity ▸ valid.fits
  rcases Store.publish_carries published carries with
    ⟨busy, nothing, same⟩ | ⟨done, next, completed, grown⟩
  · have consistent := keep (by dsimp only; rw [same]; omega) valid.polling
    have still : store.writer ≠ .idle := by
      intro at_rest
      rw [at_rest] at busy
      exact busy
    refine ⟨consistent, valid.counted, valid.newest, fits, ?_, ?_, ?_, valid.behind, ?_, ?_⟩
    all_goals simp only [nothing, same, List.map_nil, List.append_nil]
    · exact valid.carried
    · exact valid.known
    · exact valid.ordered
    · exact valid.covered
    · rw [MirrorPc.afterWrite, if_neg still]
      exact ⟨busy, same ▸ few, ⟨newer, reached⟩, held.recent, held.message, held.latest⟩
  · have consistent := keep (by
      dsimp only
      rw [grown, List.length_append, List.length_singleton]
      omega) valid.polling
    have inside := (List.getElem?_eq_some_iff.mp held.message).1
    have positive : 0 < s.map.read := Nat.lt_of_lt_of_le
      (Nat.lt_of_le_of_lt (Nat.zero_le _) newer) held.recent
    refine ⟨consistent, valid.counted, valid.newest, fits, ?_, ?_, ?_, valid.behind, ?_, ?_⟩
    all_goals simp only [completed, List.map_cons, List.map_nil]
    · rw [grown]
      exact List.rel_append valid.carried
        (List.Forall₂.cons ⟨positive, _, held.message, rfl⟩ List.Forall₂.nil)
    · intro origin member
      rcases List.mem_append.mp member with earlier | last
      · exact valid.known origin earlier
      · rw [List.mem_singleton.mp last]
        omega
    · exact pairwise_concat valid.ordered held.latest
    · intro _
      exact ⟨_, List.getLast?_concat, Nat.le_trans (Nat.le_of_lt newer) held.recent⟩
    · rw [MirrorPc.afterWrite, if_pos done]
      refine ⟨done, ?_, ⟨newer, reached⟩, _, List.getLast?_concat, held.recent⟩
      rw [grown, List.length_append, List.length_singleton]
      exact Nat.succ_le_succ few

/-- A step of the transport's poller disturbs nothing the mirror knows. -/
theorem Outbound.MirrorView.polling {s : Outbound n} {pc : MirrorPc} {polling : Polling}
    (view : s.MirrorView pc) (same : polling.store = s.polling.store) :
    ({ s with polling := polling } : Outbound n).MirrorView pc := by
  cases pc with
  | idle => exact ⟨same ▸ view.1, same ▸ view.2⟩
  | reading generation =>
      obtain ⟨quiet, few, newer, reached⟩ := view
      exact ⟨same ▸ quiet, same ▸ few, newer, reached⟩
  | calling generation =>
      obtain ⟨quiet, few, ⟨newer, reached⟩, recent, message, latest⟩ := view
      exact ⟨same ▸ quiet, same ▸ few, ⟨newer, reached⟩, recent, message, latest⟩
  | publishing generation =>
      obtain ⟨busy, few, ⟨newer, reached⟩, recent, message, latest⟩ := view
      exact ⟨same ▸ busy, same ▸ few, ⟨newer, reached⟩, recent, message, latest⟩
  | recording generation =>
      obtain ⟨quiet, few, ⟨newer, reached⟩, last⟩ := view
      exact ⟨same ▸ quiet, same ▸ few, ⟨newer, reached⟩, last⟩

/-- The mirror publishes no more often than zros is updated. -/
theorem Outbound.Consistent.published_le {config : Kconfig} {s : Outbound n}
    (valid : s.Consistent config) : s.polling.store.published.length ≤ s.updates.length := by
  have view := valid.mirror
  have behind := valid.behind
  cases at_pc : s.map.pc with
  | idle =>
      rw [at_pc] at view
      exact Nat.le_trans view.2 behind
  | reading generation =>
      rw [at_pc] at view
      exact Nat.le_trans view.2.1 behind
  | calling generation =>
      rw [at_pc] at view
      exact Nat.le_trans view.2.1 behind
  | publishing generation =>
      rw [at_pc] at view
      exact Nat.le_trans view.2.1 behind
  | recording generation =>
      rw [at_pc] at view
      obtain ⟨-, few, ⟨newer, reached⟩, -⟩ := view
      omega

section

variable {config : Kconfig} {s : Outbound n}

/-- A new update leaves what was passed on and recorded as it was. -/
theorem Outbound.Consistent.update (valid : s.Consistent config) (message : Vector UInt8 n) :
    ({ s with
      zros := ⟨s.zros.locklessGeneration + 1, message⟩
      updates := s.updates ++ [message] } : Outbound n).Consistent config where
  polling := valid.polling
  counted := by
    dsimp only
    rw [valid.counted, Counter.next, List.length_append, List.length_singleton]
  newest := by
    intro latest last
    rw [List.getLast?_concat] at last
    exact Option.some.inj last
  fits := valid.fits
  carried := valid.carried.imp fun _ _ carries => carries.extend message
  known := by
    intro origin member
    have bounded := valid.known origin member
    simp only [List.length_append]
    omega
  ordered := valid.ordered
  behind := by
    have behind := valid.behind
    simp only [List.length_append]
    omega
  covered := valid.covered
  mirror := valid.mirror.update _ message

/-- The mirror moves without recording. -/
theorem Outbound.Consistent.move (valid : s.Consistent config) {map : BridgeTxMap n}
    (kept : map.lastGeneration = s.map.lastGeneration)
    (view : ({ s with map := map } : Outbound n).MirrorView map.pc) :
    ({ s with map := map } : Outbound n).Consistent config where
  polling := valid.polling
  counted := valid.counted
  newest := valid.newest
  fits := valid.fits
  carried := valid.carried
  known := valid.known
  ordered := valid.ordered
  behind := by
    dsimp only
    rw [kept]
    exact valid.behind
  covered := by
    dsimp only
    rw [kept]
    exact valid.covered
  mirror := view

/-- The mirror records the generation it has passed on. -/
theorem Outbound.Consistent.record (valid : s.Consistent config) {generation : UInt32}
    (view : s.MirrorView (.recording generation)) :
    ({ s with map := { s.map with lastGeneration := generation, pc := .idle } } :
      Outbound n).Consistent config where
  polling := valid.polling
  counted := valid.counted
  newest := valid.newest
  fits := valid.fits
  carried := valid.carried
  known := valid.known
  ordered := valid.ordered
  behind := view.2.2.1.reached
  covered := fun _ => view.2.2.2
  mirror := by
    obtain ⟨quiet, few, ⟨newer, reached⟩, -⟩ := view
    refine ⟨quiet, ?_⟩
    dsimp only
    omega

/-- The poller moves; what the mirror relies on is in the store. -/
theorem Outbound.Consistent.poll (valid : s.Consistent config) {action : PollingAction}
    {polling : Polling} (other : ∀ write, action ≠ .writer write)
    (stepped : s.polling.step (putTopicIfUpdated config) action = some polling)
    (small : s.updates.length < 2 ^ 32) :
    ({ s with polling := polling } : Outbound n).Consistent config := by
  have same := Polling.step_store stepped other
  have published : polling.store.published.length < 2 ^ 32 := by
    rw [same]
    exact Nat.lt_of_le_of_lt valid.published_le small
  constructor
  · exact Polling.step_consistent _ _ _ _ stepped published valid.polling
  · exact valid.counted
  · exact valid.newest
  · dsimp only
    rw [same]
    exact valid.fits
  · dsimp only
    rw [same]
    exact valid.carried
  · exact valid.known
  · exact valid.ordered
  · exact valid.behind
  · exact valid.covered
  · exact valid.mirror.polling same

end

theorem Outbound.step_consistent (config : Kconfig) (s : Outbound n) (action : OutboundAction n)
    (t : Outbound n) (taken : s.step config action = some t) (small : t.updates.length < 2 ^ 32)
    (valid : s.Consistent config) : t.Consistent config := by
  have view := valid.mirror
  rcases s.step_cases taken with ⟨message, rfl⟩ | ⟨-, rfl⟩ | ⟨at_rest, moved, rfl⟩ |
    ⟨generation, at_read, rfl⟩ | ⟨generation, msg, at_read, rfl⟩ | ⟨generation, at_call, written⟩ |
    ⟨generation, write, at_publish, written⟩ | ⟨generation, at_record, rfl⟩ |
    ⟨action, polling, other, stepped, rfl⟩
  · exact valid.update message
  · exact valid
  · rw [at_rest] at view
    have behind := valid.behind
    have reading : s.zros.locklessGeneration.toNat = s.updates.length := by
      rw [valid.counted, Counter.toNat_of_lt small]
    have differ : s.zros.locklessGeneration.toNat ≠ s.map.lastGeneration.toNat :=
      fun same => moved (UInt32.toNat_inj.mp same)
    refine valid.move rfl ⟨view.1, view.2, ?_, ?_⟩
    · dsimp only
      omega
    · exact Nat.le_of_eq reading
  · rw [at_read] at view
    obtain ⟨quiet, few, newer, reached⟩ := view
    have present : s.updates.length - 1 < s.updates.length := by omega
    have last : s.updates.getLast? = some s.updates[s.updates.length - 1] := by
      rw [List.getLast?_eq_getElem?, List.getElem?_eq_getElem present]
    refine valid.move rfl ⟨quiet, few, ⟨newer, reached⟩, reached, ?_, valid.known⟩
    dsimp only
    rw [List.getElem?_eq_getElem present, valid.newest _ last]
  · rw [at_read] at view
    exact valid.move rfl ⟨view.1, view.2.1⟩
  · rw [at_call] at view
    obtain ⟨quiet, few, due, held⟩ := view
    have same : t.updates = s.updates := by
      obtain ⟨polling, -, rfl⟩ := Option.map_eq_some_iff.mp written
      rfl
    have accepted : s.polling.store.topic.accepts (some s.map.msg.toList) = true := by
      rw [CsynTopic.accepts_some, Vector.length_toList]
      exact valid.fits
    exact valid.write written (same ▸ small) (Or.inr ⟨rfl, accepted⟩) few due held
  · rw [at_publish] at view
    obtain ⟨busy, few, due, held⟩ := view
    have same : t.updates = s.updates := by
      obtain ⟨polling, -, rfl⟩ := Option.map_eq_some_iff.mp written
      rfl
    exact valid.write written (same ▸ small) (Or.inl busy) few due held
  · rw [at_record] at view
    exact valid.record view
  · exact valid.poll other stepped small

theorem Outbound.updates_le (config : Kconfig) (s : Outbound n) (action : OutboundAction n)
    (t : Outbound n) (taken : s.step config action = some t) :
    s.updates.length ≤ t.updates.length := by
  rcases s.step_cases taken with ⟨message, rfl⟩ | ⟨-, rfl⟩ | ⟨-, -, rfl⟩ | ⟨_, -, rfl⟩ |
    ⟨_, _, -, rfl⟩ | ⟨_, -, written⟩ | ⟨_, _, -, written⟩ | ⟨_, -, rfl⟩ | ⟨_, _, -, -, rfl⟩
  · simp only [List.length_append]
    omega
  · exact Nat.le_refl _
  · exact Nat.le_refl _
  · exact Nat.le_refl _
  · exact Nat.le_refl _
  · obtain ⟨polling, -, rfl⟩ := Option.map_eq_some_iff.mp written
    exact Nat.le_refl _
  · obtain ⟨polling, -, rfl⟩ := Option.map_eq_some_iff.mp written
    exact Nat.le_refl _
  · exact Nat.le_refl _
  · exact Nat.le_refl _

/-- What a put carried: the update with its number. -/
theorem Outbound.Consistent.put {config : Kconfig} {s : Outbound n} (valid : s.Consistent config)
    {h : Handed} (sent : h ∈ s.puts) :
    s.origins[h.sample.toNat - 1]? = some (s.originOf h) ∧ 0 < s.originOf h ∧
      ∃ message, s.updates[s.originOf h - 1]? = some message ∧ h.payload = message.toList := by
  have faithful := valid.polling.faithful h (List.mem_of_mem_filter sent)
  obtain ⟨p, found, -, bytes⟩ := faithful.origin
  obtain ⟨origin, numbered, positive, message, update, same⟩ := valid.origin found
  have number : s.originOf h = origin := by
    rw [Outbound.originOf, numbered, Option.getD_some]
  rw [number]
  exact ⟨numbered, positive, message, update, bytes.trans same⟩

/-- The puts of a session carry updates in non-decreasing order. -/
theorem Outbound.Consistent.puts_ordered {config : Kconfig} {s : Outbound n}
    (valid : s.Consistent config) : s.puts.Pairwise fun a b => s.originOf a ≤ s.originOf b := by
  have ordered : s.puts.Pairwise fun a b => a.sample.toNat ≤ b.sample.toNat :=
    valid.polling.ordered.sublist List.filter_sublist
  refine ordered.imp_of_mem ?_
  intro a b first second earlier
  obtain ⟨atFirst, -⟩ := valid.put first
  obtain ⟨atSecond, -⟩ := valid.put second
  obtain ⟨firstInside, firstOrigin⟩ := List.getElem?_eq_some_iff.mp atFirst
  obtain ⟨secondInside, secondOrigin⟩ := List.getElem?_eq_some_iff.mp atSecond
  rw [← firstOrigin, ← secondOrigin]
  rcases Nat.eq_or_lt_of_le (Nat.sub_le_sub_right earlier 1) with same | before
  · simp only [same, Nat.le_refl]
  · exact List.pairwise_iff_getElem.mp valid.ordered _ _ firstInside secondInside before

/-- When both stages have recorded the current generation, the last put of the session
carries the current message. -/
theorem Outbound.Consistent.settled {config : Kconfig} {s : Outbound n}
    (valid : s.Consistent config) (small : s.updates.length < 2 ^ 32)
    (mirrored : s.map.lastGeneration = s.zros.locklessGeneration)
    (live : s.zros.locklessGeneration ≠ 0)
    (upToDate : s.polling.poller.lastGeneration = s.polling.store.topic.generation) :
    ∃ h, s.puts.getLast? = some h ∧ h.payload = s.zros.message.toList := by
  have few := valid.published_le
  obtain ⟨origin, lastOrigin, recent⟩ := valid.covered (mirrored ▸ live)
  have bounded := valid.known origin (List.mem_of_getLast? lastOrigin)
  rw [mirrored, valid.counted, Counter.toNat_of_lt small] at recent
  have newest : origin = s.updates.length := Nat.le_antisymm bounded recent
  rw [List.getLast?_eq_getElem?, valid.carried.length_eq] at lastOrigin
  have inside := (List.getElem?_eq_some_iff.mp lastOrigin).1
  rw [valid.carried.length_eq] at inside
  obtain ⟨p, lastPublished⟩ : ∃ p, s.polling.store.published.getLast? = some p := by
    rw [List.getLast?_eq_getElem?]
    exact ⟨_, List.getElem?_eq_getElem inside⟩
  have current := lastPublished
  rw [List.getLast?_eq_getElem?] at current
  obtain ⟨carried, numbered, -, message, update, same⟩ := valid.origin current
  rw [lastOrigin, Option.some.injEq] at numbered
  rw [← numbered, newest, ← List.getLast?_eq_getElem?] at update
  have nonzero : s.polling.store.topic.generation ≠ 0 := by
    intro zero
    have reading := congrArg UInt32.toNat (valid.polling.store.generation.symm.trans zero)
    rw [Counter.toNat_of_lt (by omega)] at reading
    change s.polling.store.published.length = 0 at reading
    omega
  obtain ⟨h, recorded, -, -, bytes⟩ :=
    valid.polling.last_current (by omega) upToDate nonzero lastPublished
  exact ⟨h, recorded, bytes.trans (same.trans (congrArg _ (valid.newest _ update).symm))⟩

end

/-- The outbound pipeline loses no final update and never goes backwards. -/
theorem outbound_ends_on_latest {n : Nat} (config : Kconfig) (key : Str)
    (info : Option SynapseTopicInfo) (maxSize : UInt16) (positive : 0 < n)
    (fits : n ≤ maxSize.toNat) (message : Vector UInt8 n) (schedule : List (OutboundAction n))
    (s : Outbound n)
    (reached : Automaton.run (Outbound.step config) (.boot message (.boot key info .tx maxSize))
      schedule = some s)
    (small : s.updates.length < 2 ^ 32) :
    (s.map.lastGeneration = s.zros.locklessGeneration → s.zros.locklessGeneration ≠ 0 →
        s.polling.poller.lastGeneration = s.polling.store.topic.generation →
        ∃ h, s.puts.getLast? = some h ∧ h.payload = s.zros.message.toList) ∧
      s.puts.Pairwise (fun a b => s.originOf a ≤ s.originOf b) ∧
      ∀ h ∈ s.puts, 0 < s.originOf h ∧
        ∃ update, s.updates[s.originOf h - 1]? = some update ∧ h.payload = update.toList := by
  have valid := Automaton.run_invariant_bounded (Outbound.updates_le config)
    (Outbound.step_consistent config) reached
    (Outbound.boot_consistent config message _ (Store.boot_consistent key info .tx maxSize) rfl rfl
      ⟨positive, fits⟩) small
  exact ⟨valid.settled small, valid.puts_ordered, fun h sent => (valid.put sent).2⟩

/-- Two updates, the second while the mirror is about to record the first. The first put
fails, the second carries the later message. -/
def lateUpdate : List (OutboundAction 1) :=
  [.update #v[5], .mirrorPoll, .mirrorRead, .mirrorCall, .mirrorPublish (.moveByte 0),
    .mirrorPublish .storeLength, .mirrorPublish .setGeneration, .update #v[6], .mirrorRecord,
    .poll (fun _ => 0), .copy .readGeneration, .copy .readLength, .copy (.moveByte 0),
    .copy .rereadGeneration, .put false, .mirrorPoll, .mirrorRead, .mirrorCall,
    .mirrorPublish (.moveByte 0), .mirrorPublish .storeLength, .mirrorPublish .setGeneration,
    .mirrorRecord, .reopen, .poll (fun _ => 0), .copy .readGeneration, .copy .readLength,
    .copy (.moveByte 0), .copy .rereadGeneration, .put true]

theorem outbound_ends_on_latest_late :
    ∃ s h, Automaton.run (Outbound.step .default)
        (.boot #v[0] (.boot (str "vehicle_command") (some gVehicleCommandInfo) .tx 1)) lateUpdate =
        some s ∧
      s.puts.getLast? = some h ∧ h.payload = [6] := by
  obtain ⟨settled, -, -⟩ := outbound_ends_on_latest .default (str "vehicle_command")
    (some gVehicleCommandInfo) 1 (by decide) (by decide) #v[0] lateUpdate _ rfl (by decide)
  obtain ⟨h, last, carries⟩ := settled rfl (by decide) rfl
  exact ⟨_, h, rfl, last, carries⟩

end Csyn
