import Mathlib.Data.List.Basic
import Mathlib.Data.List.Induction

set_option autoImplicit false

/- Throttling requests by key: a request is granted unless its key was granted less than an interval
before. The rule reads the whole log; an implementation recalls one time for each key. -/
namespace Throttle

universe u v w

variable {ρ : Type u} {κ : Type v} {σ : Type w}

section

variable (key : ρ → κ) (time : ρ → Int) (interval : Int)

/-- The key of the request was granted nothing less than the interval before it. -/
def Quiet (log : List (ρ × Bool)) (request : ρ) : Prop :=
  ∀ earlier, (earlier, true) ∈ log → key earlier = key request →
    interval ≤ time request - time earlier

/-- Every request in the log is granted exactly if its key was quiet. -/
def Obeys (log : List (ρ × Bool)) : Prop :=
  ∀ before request granted later, log = before ++ (request, granted) :: later →
    (granted = true ↔ Quiet key time interval before request)

/-- The requests with their decisions. -/
def run (step : σ → ρ → Bool × σ) (s : σ) : List ρ → List (ρ × Bool)
  | [] => []
  | request :: rest => (request, (step s request).1) :: run step (step s request).2 rest

/-- What is recalled for a key is a grant to it, and no earlier than the latest, unless that one has
expired by some request in the log. -/
structure Recalls (log : List (ρ × Bool)) (remember : κ → Option Int) : Prop where
  granted : ∀ k t, remember k = some t → ∃ request, (request, true) ∈ log ∧ key request = k ∧
    time request = t
  latest : ∀ request, (request, true) ∈ log →
    (∃ t, remember (key request) = some t ∧ time request ≤ t) ∨
      ∃ entry ∈ log, interval ≤ time entry.1 - time request

/-- A step that decides by what its state recalls for the key, recalls the grants it makes, and
forgets others only when they have expired. -/
structure Implements (step : σ → ρ → Bool × σ) (valid : ρ → Prop)
    (remember : σ → κ → Option Int) : Prop where
  decides : ∀ s request, valid request → ((step s request).1 = true ↔
    ∀ t, remember s (key request) = some t → interval ≤ time request - t)
  records : ∀ s request, valid request → (step s request).1 = true →
    remember (step s request).2 (key request) = some (time request)
  forgets : ∀ s request k, valid request → ((step s request).1 = true → k ≠ key request) →
    remember (step s request).2 k = remember s k ∨ remember (step s request).2 k = none ∧
      ∀ t, remember s k = some t → interval ≤ time request - t

end

variable {key : ρ → κ} {time : ρ → Int} {interval : Int}

/-! The rule. -/

theorem obeys_nil : Obeys key time interval [] := by
  intro before request granted later split
  cases before <;> cases split

theorem obeys_concat {log : List (ρ × Bool)} {request : ρ} {granted : Bool} :
    Obeys key time interval (log ++ [(request, granted)]) ↔
      Obeys key time interval log ∧ (granted = true ↔ Quiet key time interval log request) := by
  constructor
  · intro obeyed
    constructor
    · intro before other decided later split
      exact obeyed before other decided (later ++ [(request, granted)]) (by simp [split])
    · exact obeyed log request granted [] rfl
  · rintro ⟨obeyed, here⟩ before other decided later split
    rcases List.eq_nil_or_concat' later with rfl | ⟨later', last, rfl⟩
    · obtain ⟨rfl, same⟩ := List.append_inj' split rfl
      cases same
      exact here
    · rw [← List.cons_append, ← List.append_assoc] at split
      obtain ⟨rfl, -⟩ := List.append_inj' split rfl
      exact obeyed before other decided later' rfl

/-- The rule leaves no choice: the requests determine the decisions. -/
theorem Obeys.unique {log log' : List (ρ × Bool)} (obeyed : Obeys key time interval log)
    (obeyed' : Obeys key time interval log') (same : log.map Prod.fst = log'.map Prod.fst) :
    log = log' := by
  induction log using List.reverseRecOn generalizing log' with
  | nil =>
      rw [List.map_nil, eq_comm, List.map_eq_nil_iff] at same
      exact same.symm
  | append_singleton log entry ih =>
      rcases List.eq_nil_or_concat' log' with rfl | ⟨log', entry', rfl⟩
      · simp at same
      · rw [List.map_append, List.map_append] at same
        obtain ⟨earlier, last⟩ := List.append_inj' same rfl
        obtain ⟨before, here⟩ := obeys_concat.mp obeyed
        obtain ⟨before', here'⟩ := obeys_concat.mp obeyed'
        obtain rfl := ih before before' earlier
        have request : entry.1 = entry'.1 := (List.cons.inj last).1
        have decision : entry.2 = entry'.2 := by
          rw [Bool.eq_iff_iff, here, here', request]
        rw [Prod.ext request decision]

/-- The requests for one key obey the rule among themselves. -/
theorem Obeys.filter [DecidableEq κ] {log : List (ρ × Bool)} (obeyed : Obeys key time interval log)
    (k : κ) : Obeys key time interval (log.filter fun entry => key entry.1 = k) := by
  induction log using List.reverseRecOn with
  | nil => exact obeys_nil
  | append_singleton log entry ih =>
      obtain ⟨before, here⟩ := obeys_concat.mp obeyed
      rw [List.filter_append]
      by_cases chosen : key entry.1 = k
      · rw [List.filter_cons_of_pos (by simpa using chosen), List.filter_nil]
        refine obeys_concat.mpr ⟨ih before, here.trans ?_⟩
        constructor
        · intro quiet earlier member same
          exact quiet earlier (List.mem_filter.mp member).1 same
        · intro quiet earlier member same
          exact quiet earlier (List.mem_filter.mpr ⟨member, by simpa [same] using chosen⟩) same
      · rw [List.filter_cons_of_neg (by simpa using chosen), List.filter_nil, List.append_nil]
        exact ih before

/-- Only which requests lie less than the interval apart matters, not the unit of time. -/
theorem obeys_congr {time' : ρ → Int} {interval' : Int}
    (rescaled : ∀ a b, interval' ≤ time' a - time' b ↔ interval ≤ time a - time b)
    (log : List (ρ × Bool)) : Obeys key time' interval' log ↔ Obeys key time interval log := by
  simp only [Obeys, Quiet, rescaled]

/-! Runs. -/

theorem run_map_fst (step : σ → ρ → Bool × σ) (s : σ) (requests : List ρ) :
    (run step s requests).map Prod.fst = requests := by
  induction requests generalizing s with
  | nil => rfl
  | cons request rest ih => rw [run, List.map_cons, ih]

theorem recalls_nil : Recalls key time interval [] fun _ => none := by
  constructor
  · intro k t recalled
    cases recalled
  · intro request member
    cases member

section

variable {log : List (ρ × Bool)} {request : ρ}

/-- At a later request, a key is quiet exactly if what is recalled for it has expired. -/
theorem Recalls.quiet_iff {remember : κ → Option Int} (recalls : Recalls key time interval log remember)
    (ordered : ∀ entry ∈ log, time entry.1 ≤ time request) :
    Quiet key time interval log request ↔
      ∀ t, remember (key request) = some t → interval ≤ time request - t := by
  constructor
  · intro quiet t recalled
    obtain ⟨earlier, member, same, rfl⟩ := recalls.granted _ t recalled
    exact quiet earlier member same
  · intro expired earlier member same
    rcases recalls.latest earlier member with ⟨t, recalled, no_later⟩ | ⟨entry, later, gone⟩
    · have passed := expired t (same ▸ recalled)
      omega
    · have before := ordered entry later
      omega

/-- One step keeps what the state recalls in line with the log. -/
theorem Implements.recalls_concat {step : σ → ρ → Bool × σ} {valid : ρ → Prop}
    {remember : σ → κ → Option Int} (implements : Implements key time interval step valid remember)
    {s : σ} (recalls : Recalls key time interval log (remember s)) (accepted : valid request)
    (ordered : ∀ entry ∈ log, time entry.1 ≤ time request) :
    Recalls key time interval (log ++ [(request, (step s request).1)])
      (remember (step s request).2) := by
  constructor
  · intro k t recalled
    by_cases new : (step s request).1 = true ∧ k = key request
    · rw [new.2, implements.records s request accepted new.1, Option.some.injEq] at recalled
      refine ⟨request, ?_, new.2.symm, recalled⟩
      rw [new.1]
      exact List.mem_append_right _ List.mem_cons_self
    · rcases implements.forgets s request k accepted fun granted same => new ⟨granted, same⟩ with
        kept | ⟨forgotten, -⟩
      · obtain ⟨earlier, member, rest⟩ := recalls.granted k t (kept ▸ recalled)
        exact ⟨earlier, List.mem_append_left _ member, rest⟩
      · rw [forgotten] at recalled
        cases recalled
  · intro earlier member
    by_cases new : (step s request).1 = true ∧ key earlier = key request
    · refine Or.inl ⟨time request, new.2 ▸ implements.records s request accepted new.1, ?_⟩
      rcases List.mem_append.mp member with before | last
      · exact ordered _ before
      · rw [List.mem_singleton, Prod.mk.injEq] at last
        exact Int.le_of_eq (congrArg time last.1)
    · have before : (earlier, true) ∈ log := by
        rcases List.mem_append.mp member with before | last
        · exact before
        · rw [List.mem_singleton, Prod.mk.injEq] at last
          exact absurd ⟨last.2.symm, congrArg key last.1⟩ new
      rcases recalls.latest earlier before with ⟨t, recalled, no_later⟩ | ⟨entry, later, gone⟩
      · rcases implements.forgets s request (key earlier) accepted
          fun granted same => new ⟨granted, same⟩ with kept | ⟨-, expired⟩
        · exact Or.inl ⟨t, kept.trans recalled, no_later⟩
        · refine Or.inr ⟨_, List.mem_append_right _ List.mem_cons_self, ?_⟩
          have passed := expired t recalled
          show interval ≤ time request - time earlier
          omega
      · exact Or.inr ⟨entry, List.mem_append_left _ later, gone⟩

end

/-- An implementation obeys the rule in every run at times that never go back. -/
theorem Implements.run_obeys {step : σ → ρ → Bool × σ} {valid : ρ → Prop}
    {remember : σ → κ → Option Int} (implements : Implements key time interval step valid remember)
    {log : List (ρ × Bool)} {s : σ} {requests : List ρ}
    (recalls : Recalls key time interval log (remember s)) (obeyed : Obeys key time interval log)
    (ordered : (log.map Prod.fst ++ requests).Pairwise fun a b => time a ≤ time b)
    (accepted : ∀ request ∈ requests, valid request) :
    Obeys key time interval (log ++ run step s requests) := by
  induction requests generalizing log s with
  | nil =>
      rw [run, List.append_nil]
      exact obeyed
  | cons request rest ih =>
      have before : ∀ entry ∈ log, time entry.1 ≤ time request := by
        intro entry member
        exact (List.pairwise_append.mp ordered).2.2 entry.1 (List.mem_map_of_mem member) request
          List.mem_cons_self
      have here := accepted request List.mem_cons_self
      have decided := (implements.decides s request here).trans (recalls.quiet_iff before).symm
      rw [run, List.append_cons]
      apply ih (implements.recalls_concat recalls here before)
      · exact obeys_concat.mpr ⟨obeyed, decided⟩
      · rw [List.map_append, List.append_assoc]
        exact ordered
      · exact fun other member => accepted other (List.mem_cons_of_mem _ member)

section

variable {step : σ → ρ → Bool × σ} {valid : ρ → Prop} {remember : σ → κ → Option Int} {s : σ}
  {requests : List ρ}

/-- A run from a state that recalls nothing obeys the rule. -/
theorem Implements.obeys (implements : Implements key time interval step valid remember)
    (fresh : ∀ k, remember s k = none)
    (ordered : requests.Pairwise fun a b => time a ≤ time b)
    (accepted : ∀ request ∈ requests, valid request) :
    Obeys key time interval (run step s requests) := by
  have nothing : remember s = fun _ => none := funext fresh
  have start : Recalls key time interval [] (remember s) := nothing ▸ recalls_nil
  exact implements.run_obeys start obeys_nil ordered accepted

/-- The decisions for one key are those of a run of its requests alone. -/
theorem Implements.run_filter [DecidableEq κ]
    (implements : Implements key time interval step valid remember)
    (fresh : ∀ k, remember s k = none)
    (ordered : requests.Pairwise fun a b => time a ≤ time b)
    (accepted : ∀ request ∈ requests, valid request) (k : κ) :
    (run step s requests).filter (fun entry => key entry.1 = k) =
      run step s (requests.filter fun request => key request = k) := by
  have alone : Obeys key time interval
      (run step s (requests.filter fun request => key request = k)) :=
    implements.obeys fresh (ordered.filter _)
      fun request member => accepted request (List.mem_filter.mp member).1
  apply ((implements.obeys fresh ordered accepted).filter k).unique alone
  rw [run_map_fst]
  conv_rhs => rw [← run_map_fst step s requests]
  rw [List.filter_map]
  rfl

end

end Throttle
