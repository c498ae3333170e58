import Csyn.ContractWarning
import Csyn.Lib.Throttle
import Csyn.ZenohInput

set_option autoImplicit false

/- The warnings about rejected samples, on the host and on the board, as one throttle for each
topic. -/
namespace Csyn

/-- A rejected sample, at a time in the unit of the clock that is read. -/
structure Rejection where
  topic : Str
  error : Str
  time : Nat

/-- `ContractWarningThrottle::warn` at one rejection, with so many nanoseconds to the unit of its
time. -/
def ContractWarningThrottle.reject (tick : Nat) (throttle : ContractWarningThrottle)
    (rejection : Rejection) : Bool × ContractWarningThrottle :=
  let warned := throttle.warn rejection.topic rejection.error (tick * rejection.time)
  (warned.1.isSome, warned.2)

/-- The rejections with the host's decisions. -/
def hostWarnings (tick : Nat) (rejections : List Rejection) : List (Rejection × Bool) :=
  Throttle.run (ContractWarningThrottle.reject tick) ContractWarningThrottle.default rejections

/-- A rejection on the board; the state is `last_contract_warning_ms` of every topic. -/
def boardReject (clocks : Str → Int) (rejection : Rejection) : Bool × (Str → Int) :=
  let warning := contractWarning (clocks rejection.topic) rejection.time
  (warning.1, fun topic => if topic = rejection.topic then warning.2 else clocks topic)

/-- The rejections with the board's decisions. -/
def boardWarnings (rejections : List Rejection) : List (Rejection × Bool) :=
  Throttle.run boardReject (fun _ => 0) rejections

/-- A sample that is rejected moves the clock of its topic as `boardReject` does, and an accepted
one leaves it. -/
theorem sampleContractMatches_clock {topic after : CsynTopic} {sample : ZSample} {now : Int}
    {matched : Bool} (checked : sampleContractMatches topic sample now = some (matched, after)) :
    after.lastContractWarningMs =
      if matched then topic.lastContractWarningMs
      else (contractWarning topic.lastContractWarningMs now).2 := by
  unfold sampleContractMatches at checked
  split at checked
  · cases checked
  · split at checked
    · cases checked
      rfl
    · cases checked
      rfl

/-! The host. -/

section

variable (throttle : ContractWarningThrottle) (key error : Str) (now : Nat)

theorem ContractWarningThrottle.warn_isSome :
    (throttle.warn key error now).1.isSome ↔
      ∀ last, throttle.lastWarning key = some last → warningInterval ≤ now - last := by
  have decided : ((throttle.lastWarning key).filter
      fun last => decide (now - last < warningInterval)).all
        (fun last => decide (warningInterval ≤ now - last)) = true ↔
      ∀ last, throttle.lastWarning key = some last → warningInterval ≤ now - last := by
    cases throttle.lastWarning key with
    | none => simp
    | some last =>
        by_cases recent : now - last < warningInterval
        · simp [recent, Nat.not_le.mpr recent]
        · simp [recent, Nat.not_lt.mp recent]
  rw [← decided]
  unfold ContractWarningThrottle.warn
  dsimp only
  split
  · rename_i due
    simp [due]
  · rename_i quiet
    simp [quiet]

/-- A warning is remembered; the others are kept while they are recent. -/
theorem ContractWarningThrottle.warn_lastWarning (other : Str) :
    (throttle.warn key error now).2.lastWarning other =
      if (throttle.warn key error now).1.isSome ∧ other = key then some now
      else (throttle.lastWarning other).filter fun last => now - last < warningInterval := by
  unfold ContractWarningThrottle.warn
  dsimp only
  split
  · by_cases same : other = key
    · simp [same]
    · simp [same]
  · simp

end

/-- The host recalls the warnings in its map. -/
theorem reject_implements (tick : Nat) :
    Throttle.Implements Rejection.topic (fun r => ((tick * r.time : Nat) : Int))
      (warningInterval : Int) (ContractWarningThrottle.reject tick) (fun _ => True)
      fun throttle topic => (throttle.lastWarning topic).map Int.ofNat := by
  have positive : 0 < warningInterval := by decide
  constructor
  · intro throttle rejection _
    show (throttle.warn rejection.topic rejection.error (tick * rejection.time)).1.isSome = true ↔ _
    rw [ContractWarningThrottle.warn_isSome]
    cases throttle.lastWarning rejection.topic with
    | none => simp
    | some last =>
        simp only [Option.some.injEq, forall_eq', Option.map_some, Int.ofNat_eq_natCast]
        omega
  · intro throttle rejection _ warned
    show ((throttle.warn rejection.topic rejection.error (tick * rejection.time)).2.lastWarning
      rejection.topic).map Int.ofNat = _
    rw [ContractWarningThrottle.warn_lastWarning, if_pos ⟨warned, rfl⟩]
    rfl
  · intro throttle rejection topic _ other
    have kept : ¬ ((throttle.warn rejection.topic rejection.error
        (tick * rejection.time)).1.isSome = true ∧ topic = rejection.topic) :=
      fun both => other both.1 both.2
    show ((throttle.warn rejection.topic rejection.error (tick * rejection.time)).2.lastWarning
      topic).map Int.ofNat = _ ∨ ((throttle.warn rejection.topic rejection.error
        (tick * rejection.time)).2.lastWarning topic).map Int.ofNat = none ∧ _
    rw [ContractWarningThrottle.warn_lastWarning, if_neg kept]
    cases throttle.lastWarning topic with
    | none => simp
    | some last =>
        by_cases recent : tick * rejection.time - last < warningInterval
        · simp [recent]
        · simp only [Option.filter_some, recent, decide_false, Bool.false_eq_true, ↓reduceIte,
            Option.map_none, Option.map_some, Option.some.injEq, forall_eq', true_and,
            Int.ofNat_eq_natCast]
          omega

/-! The board. -/

section

variable (clocks : Str → Int) (rejection : Rejection)

theorem boardReject_warns :
    (boardReject clocks rejection).1 = true ↔ clocks rejection.topic = 0 ∨
      csynContractWarningIntervalMs ≤ rejection.time - clocks rejection.topic := by
  unfold boardReject contractWarning
  dsimp only
  split
  · rename_i due
    simpa using due
  · rename_i quiet
    simpa using quiet

/-- A warning sets the clock of its topic; zero is kept free. -/
theorem boardReject_clock (topic : Str) :
    (boardReject clocks rejection).2 topic =
      if (boardReject clocks rejection).1 = true ∧ topic = rejection.topic then
        max (rejection.time : Int) 1
      else clocks topic := by
  unfold boardReject contractWarning
  dsimp only
  by_cases same : topic = rejection.topic
  · rw [if_pos same]
    split
    · simp [same]
    · simp [same]
  · simp [same]

end

/-- The board recalls the clocks that are not zero. -/
theorem boardReject_implements :
    Throttle.Implements Rejection.topic (fun r => (r.time : Int)) csynContractWarningIntervalMs
      boardReject (fun r => 1 ≤ r.time)
      fun clocks topic => if clocks topic = 0 then none else some (clocks topic) := by
  constructor
  · intro clocks rejection _
    rw [boardReject_warns]
    by_cases never : clocks rejection.topic = 0
    · simp [never]
    · simp [never]
  · intro clocks rejection started warned
    have after := boardReject_clock clocks rejection rejection.topic
    rw [if_pos ⟨warned, rfl⟩] at after
    rw [after, if_neg (by omega)]
    congr 1
    omega
  · intro clocks rejection topic _ other
    have after := boardReject_clock clocks rejection topic
    rw [if_neg fun both => other both.1 both.2] at after
    apply Or.inl
    rw [after]

/-! Both. -/

section

variable {rejections : List Rejection}

theorem times_scaled (tick : Nat) (ordered : rejections.Pairwise fun a b => a.time ≤ b.time) :
    rejections.Pairwise fun a b => ((tick * a.time : Nat) : Int) ≤ (tick * b.time : Nat) := by
  apply ordered.imp
  intro a b before
  exact Int.ofNat_le.mpr (Nat.mul_le_mul_left tick before)

theorem hostWarnings_obeys (tick : Nat)
    (ordered : rejections.Pairwise fun a b => a.time ≤ b.time) :
    Throttle.Obeys Rejection.topic (fun r => ((tick * r.time : Nat) : Int)) (warningInterval : Int)
      (hostWarnings tick rejections) := by
  apply (reject_implements tick).obeys
  · intro topic
    rfl
  · exact times_scaled tick ordered
  · exact fun _ _ => trivial

theorem hostWarnings_filter (tick : Nat)
    (ordered : rejections.Pairwise fun a b => a.time ≤ b.time) (topic : Str) :
    (hostWarnings tick rejections).filter (fun entry => entry.1.topic = topic) =
      hostWarnings tick (rejections.filter fun r => r.topic = topic) := by
  apply (reject_implements tick).run_filter
  · intro topic
    rfl
  · exact times_scaled tick ordered
  · exact fun _ _ => trivial

theorem boardWarnings_obeys (ordered : rejections.Pairwise fun a b => a.time ≤ b.time)
    (started : ∀ r ∈ rejections, 1 ≤ r.time) :
    Throttle.Obeys Rejection.topic (fun r => (r.time : Int)) csynContractWarningIntervalMs
      (boardWarnings rejections) := by
  apply boardReject_implements.obeys
  · intro topic
    rfl
  · exact ordered.imp fun before => Int.ofNat_le.mpr before
  · exact started

theorem boardWarnings_filter (ordered : rejections.Pairwise fun a b => a.time ≤ b.time)
    (started : ∀ r ∈ rejections, 1 ≤ r.time) (topic : Str) :
    (boardWarnings rejections).filter (fun entry => entry.1.topic = topic) =
      boardWarnings (rejections.filter fun r => r.topic = topic) := by
  apply boardReject_implements.run_filter
  · intro topic
    rfl
  · exact ordered.imp fun before => Int.ofNat_le.mpr before
  · exact started

/-- On times in milliseconds the two rules are one, which leaves no choice. -/
theorem hostWarnings_eq_board (ordered : rejections.Pairwise fun a b => a.time ≤ b.time)
    (started : ∀ r ∈ rejections, 1 ≤ r.time) :
    hostWarnings 1000000 rejections = boardWarnings rejections := by
  have same_unit (a b : Rejection) :
      (warningInterval : Int) ≤ ((1000000 * a.time : Nat) : Int) - (1000000 * b.time : Nat) ↔
        csynContractWarningIntervalMs ≤ (a.time : Int) - b.time := by
    unfold warningInterval csynContractWarningIntervalMs
    omega
  have host := (Throttle.obeys_congr same_unit _).mp (hostWarnings_obeys 1000000 ordered)
  apply host.unique (boardWarnings_obeys ordered started)
  rw [hostWarnings, boardWarnings, Throttle.run_map_fst, Throttle.run_map_fst]

end

/-- A warning is emitted exactly where none was emitted for the topic less than ten seconds
before it. The host keeps the rule at any times in nanoseconds that never go back, the board at any
such times of at least one millisecond; there they take the same decisions, and on both the
decisions for a topic are those of its rejections alone. -/
theorem contract_throttles_agree :
    (∀ rejections : List Rejection, (rejections.Pairwise fun a b => a.time ≤ b.time) →
      Throttle.Obeys Rejection.topic (fun r => (r.time : Int)) 10000000000
        (hostWarnings 1 rejections) ∧
      ∀ topic, (hostWarnings 1 rejections).filter (fun entry => entry.1.topic = topic) =
        hostWarnings 1 (rejections.filter fun r => r.topic = topic)) ∧
    ∀ rejections : List Rejection, (rejections.Pairwise fun a b => a.time ≤ b.time) →
      (∀ r ∈ rejections, 1 ≤ r.time) →
      Throttle.Obeys Rejection.topic (fun r => (r.time : Int)) 10000 (boardWarnings rejections) ∧
      (∀ topic, (boardWarnings rejections).filter (fun entry => entry.1.topic = topic) =
        boardWarnings (rejections.filter fun r => r.topic = topic)) ∧
      hostWarnings 1000000 rejections = boardWarnings rejections := by
  constructor
  · intro rejections ordered
    have nanoseconds (r : Rejection) : ((1 * r.time : Nat) : Int) = (r.time : Int) := by
      rw [Nat.one_mul]
    have host := hostWarnings_obeys 1 ordered
    simp only [nanoseconds] at host
    exact ⟨host, hostWarnings_filter 1 ordered⟩
  · intro rejections ordered started
    exact ⟨boardWarnings_obeys ordered started, boardWarnings_filter ordered started,
      hostWarnings_eq_board ordered started⟩

/-- Two topics, one of them again just before the end of its ten seconds and at it. -/
def edgeRejections : List Rejection :=
  [⟨str "a", [], 1⟩, ⟨str "b", [], 5⟩, ⟨str "a", [], 10000⟩, ⟨str "a", [], 10001⟩]

theorem contract_throttles_agree_edge :
    hostWarnings 1000000 edgeRejections = boardWarnings edgeRejections ∧
      (boardWarnings edgeRejections).map Prod.snd = [true, true, false, true] :=
  ⟨(contract_throttles_agree.2 edgeRejections (by decide) (by decide)).2.2, by decide⟩

end Csyn
