import Csyn.Poller

set_option autoImplicit false

/- What holds of every poller, whatever its rule, while the generation has not
wrapped: samples are handed on whole and in publish order, and the recorded
generation never runs ahead of what was handed on. -/
namespace Csyn

/-- What was handed on is exactly the publish that set its generation. -/
structure Handed.Faithful (published : List Published) (h : Handed) : Prop where
  positive : 0 < h.sample.toNat
  origin : ∃ p, published[h.sample.toNat - 1]? = some p ∧
    h.length.toNat = p.payload.length ∧ h.buf.load 0 h.length.toNat = p.payload

theorem Handed.Faithful.bounded {published : List Published} {h : Handed}
    (faithful : h.Faithful published) : h.sample.toNat ≤ published.length := by
  obtain ⟨p, found, -, -⟩ := faithful.origin
  have inside := (List.getElem?_eq_some_iff.mp found).1
  omega

theorem Handed.Faithful.extend {published later : List Published} {h : Handed}
    (faithful : h.Faithful published) (grown : published <+: later) : h.Faithful later := by
  have bounded := faithful.bounded
  have positive := faithful.positive
  obtain ⟨p, found, sized, bytes⟩ := faithful.origin
  obtain ⟨extra, rfl⟩ := grown
  refine ⟨positive, p, ?_, sized, bytes⟩
  rw [List.getElem?_append_left (by omega)]
  exact found

/-- The samples handed on whose generation reading the rule recorded. -/
def Polling.recorded (rule : PollRule) (s : Polling) : List Handed :=
  s.handed.filter fun h => rule.records h.sent

/-- Nothing handed on is newer than the `n`-th publish. -/
def UpTo (handed : List Handed) (n : Nat) : Prop := ∀ h ∈ handed, h.sample.toNat ≤ n

/-- Where the poller is. A poll that is copying began when `since` publishes had completed. -/
def PollView (published : List Published) (handed : List Handed) (buf : ByteMemory) :
    PollPc → Prop
  | .idle => True
  | .copying generation pc => ∃ since, 0 < since ∧ generation = UInt32.ofNat since ∧
      UpTo handed since ∧ CopyView published since pc buf
  | .copied generation length sample => generation.toNat ≤ sample.toNat ∧
      UpTo handed sample.toNat ∧ (⟨sample, length, buf, true⟩ : Handed).Faithful published

structure Polling.Consistent (rule : PollRule) (s : Polling) : Prop where
  store : s.store.Consistent
  faithful : ∀ h ∈ s.handed, h.Faithful s.store.published
  ordered : s.handed.Pairwise fun a b => a.sample.toNat ≤ b.sample.toNat
  covered : s.poller.lastGeneration ≠ 0 → ∃ h, (s.recorded rule).getLast? = some h ∧
    s.poller.lastGeneration.toNat ≤ h.sample.toNat
  polling : PollView s.store.published s.handed s.poller.buf s.poller.pc

theorem Polling.boot_consistent (rule : PollRule) (store : Store) (valid : store.Consistent) :
    (Polling.boot store).Consistent rule := by
  refine ⟨valid, by simp [Polling.boot], List.Pairwise.nil, ?_, trivial⟩
  intro nonzero
  exact absurd rfl nonzero

theorem CopyView.since_le {published : List Published} {since : Nat} {pc : CopyPc}
    {buf : ByteMemory} (view : CopyView published since pc buf) : since ≤ published.length := by
  cases pc with
  | atLoop => exact view
  | slotChosen start => exact ReadsFrom.since_le view
  | copying start length pending => exact ReadsFrom.since_le view

theorem PollView.extend {published later : List Published} {handed : List Handed}
    {buf : ByteMemory} {pc : PollPc} (view : PollView published handed buf pc)
    (grown : published <+: later) : PollView later handed buf pc := by
  cases pc with
  | idle => trivial
  | copying generation pc =>
      obtain ⟨since, positive, reading, upTo, copy⟩ := view
      exact ⟨since, positive, reading, upTo, copy.extend grown⟩
  | copied generation length sample =>
      obtain ⟨later_, upTo, faithful⟩ := view
      exact ⟨later_, upTo, faithful.extend grown⟩

/-- The copy a poll ends with is the sample current at its last access. -/
theorem CopyView.handed {s : Store} {since bufSize : Nat} {pc : CopyPc} {buf after : ByteMemory}
    {move : CopyAction} {length : UInt16} {sample : UInt32} (valid : s.Consistent)
    (view : CopyView s.published since pc buf)
    (taken : copyStep s.topic bufSize pc buf move = some (.copied length sample after))
    (small : s.published.length < 2 ^ 32) :
    sample.toNat = s.published.length ∧
      (⟨sample, length, after, true⟩ : Handed).Faithful s.published := by
  obtain ⟨p, last, set, sized, holds⟩ := view.copied valid taken (by omega)
  have nonempty : 0 < s.published.length := List.length_pos_of_mem (List.mem_of_getLast? last)
  rw [List.getLast?_eq_getElem?] at last
  have number : sample.toNat = s.published.length := by
    rw [← set, valid.numbered _ p last, Nat.sub_add_cancel nonempty, Counter.toNat_of_lt small]
  refine ⟨number, ?_, p, ?_, sized, ?_⟩
  · dsimp only
    omega
  · dsimp only
    rw [number]
    exact last
  · dsimp only
    rw [sized]
    exact holds.load

theorem pairwise_concat {α : Type} {r : α → α → Prop} {xs : List α} {x : α}
    (before : xs.Pairwise r) (last : ∀ y ∈ xs, r y x) : (xs ++ [x]).Pairwise r := by
  rw [List.pairwise_append]
  refine ⟨before, List.pairwise_singleton r x, ?_⟩
  intro y member z single
  rw [List.mem_singleton.mp single]
  exact last y member

theorem Polling.recorded_concat (rule : PollRule) (s : Polling) (h : Handed) (poller : Poller) :
    ({ s with poller := poller, handed := s.handed ++ [h] } : Polling).recorded rule =
      s.recorded rule ++ if rule.records h.sent then [h] else [] := by
  simp only [Polling.recorded, List.filter_append, List.filter_cons, List.filter_nil]

theorem Polling.step_consistent (rule : PollRule) (s : Polling) (action : PollingAction)
    (t : Polling) (taken : s.step rule action = some t)
    (small : t.store.published.length < 2 ^ 32) (valid : s.Consistent rule) :
    t.Consistent rule := by
  rcases s.step_cases taken with ⟨write, store, -, published, rfl⟩ | ⟨scratch, -, -, rfl⟩ |
    ⟨scratch, buf, -, -, live, -, rfl⟩ |
    ⟨move, generation, pc, pc', buf, -, at_copy, stepped, rfl⟩ |
    ⟨move, generation, pc, buf, -, at_copy, stepped, rfl⟩ |
    ⟨move, generation, pc, length, sample, buf, -, at_copy, stepped, rfl⟩ |
    ⟨sent, generation, length, sample, -, at_hand, rfl⟩ | ⟨-, at_rest, -, rfl⟩
  · have grown := Store.publish_extends published
    exact ⟨valid.store.publish published, fun h member => (valid.faithful h member).extend grown,
      valid.ordered, valid.covered, valid.polling.extend grown⟩
  · exact valid
  · refine ⟨valid.store, valid.faithful, valid.ordered, valid.covered, ?_⟩
    rw [valid.store.generation] at live
    exact ⟨s.store.published.length, Counter.reading_pos live, valid.store.generation,
      fun h member => (valid.faithful h member).bounded, Nat.le_refl _⟩
  · have view := valid.polling
    rw [at_copy] at view
    obtain ⟨since, positive, reading, upTo, copy⟩ := view
    exact ⟨valid.store, valid.faithful, valid.ordered, valid.covered,
      since, positive, reading, upTo, copy.step valid.store stepped⟩
  · exact ⟨valid.store, valid.faithful, valid.ordered, valid.covered, trivial⟩
  · have view := valid.polling
    rw [at_copy] at view
    obtain ⟨since, positive, reading, upTo, copy⟩ := view
    obtain ⟨number, faithful⟩ := copy.handed valid.store stepped small
    have began := copy.since_le
    refine ⟨valid.store, valid.faithful, valid.ordered, valid.covered, ?_, ?_, faithful⟩
    · rw [reading, number, Counter.toNat_of_lt (Nat.lt_of_le_of_lt began small)]
      exact began
    · intro h member
      rw [number]
      exact (valid.faithful h member).bounded
  · have view := valid.polling
    rw [at_hand] at view
    obtain ⟨later, upTo, faithful⟩ := view
    refine ⟨valid.store, ?_, pairwise_concat valid.ordered upTo, ?_, trivial⟩
    · intro h member
      rcases List.mem_append.mp member with earlier | last
      · exact valid.faithful h earlier
      · rw [List.mem_singleton.mp last]
        exact ⟨faithful.positive, faithful.origin⟩
    · intro nonzero
      rw [Polling.recorded_concat]
      dsimp only at nonzero ⊢
      cases kept : rule.records sent with
      | true =>
          simp only [↓reduceIte]
          exact ⟨_, List.getLast?_concat, later⟩
      | false =>
          simp only [kept, Bool.false_eq_true, ↓reduceIte] at nonzero
          simp only [Bool.false_eq_true, ↓reduceIte, List.append_nil]
          exact valid.covered nonzero
  · refine ⟨valid.store, by simp, List.Pairwise.nil, ?_, ?_⟩
    · intro nonzero
      exact absurd rfl nonzero
    · dsimp only
      rw [at_rest]
      trivial

theorem Polling.published_le (rule : PollRule) (s : Polling) (action : PollingAction)
    (t : Polling) (taken : s.step rule action = some t) :
    s.store.published.length ≤ t.store.published.length := by
  rcases s.step_cases taken with ⟨write, store, -, published, rfl⟩ | ⟨_, -, -, rfl⟩ |
    ⟨_, _, -, -, -, -, rfl⟩ | ⟨_, _, _, _, _, -, -, -, rfl⟩ | ⟨_, _, _, _, -, -, -, rfl⟩ |
    ⟨_, _, _, _, _, _, -, -, -, rfl⟩ | ⟨_, _, _, _, -, -, rfl⟩ | ⟨-, -, -, rfl⟩
  · exact (Store.publish_extends published).length_le
  all_goals exact Nat.le_refl _

/-- If the recorded generation is the current one, the last sample handed on is the
current one. -/
theorem Polling.Consistent.last_current {rule : PollRule} {s : Polling} {p : Published}
    (valid : s.Consistent rule) (small : s.store.published.length < 2 ^ 32)
    (upToDate : s.poller.lastGeneration = s.store.topic.generation)
    (live : s.store.topic.generation ≠ 0) (last : s.store.published.getLast? = some p) :
    ∃ h, (s.recorded rule).getLast? = some h ∧ h.sample = p.generation ∧
      h.length.toNat = p.payload.length ∧ h.buf.load 0 h.length.toNat = p.payload := by
  obtain ⟨h, recorded, covered⟩ := valid.covered (upToDate ▸ live)
  have faithful := valid.faithful h (List.mem_of_mem_filter (List.mem_of_getLast? recorded))
  have bounded := faithful.bounded
  have positive := faithful.positive
  rw [upToDate, valid.store.generation, Counter.toNat_of_lt small] at covered
  have newest : h.sample.toNat = s.store.published.length := Nat.le_antisymm bounded covered
  obtain ⟨q, found, sized, bytes⟩ := faithful.origin
  rw [List.getLast?_eq_getElem?] at last
  rw [newest, last] at found
  cases found
  refine ⟨h, recorded, ?_, sized, bytes⟩
  apply UInt32.toNat_inj.mp
  rw [valid.store.numbered _ p last, newest, Nat.sub_add_cancel (newest ▸ positive),
    Counter.toNat_of_lt small]

end Csyn
