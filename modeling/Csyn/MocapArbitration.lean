import Csyn.HandedOn
import Csyn.Lib.Countdown

set_option autoImplicit false

/- The arbitration of the mocap streams over a whole run: what `suppress_fallback` remembers of
the samples that came before. -/
namespace Csyn

/-- A mocap sample that passed the contract, size and read checks. -/
structure MocapArrival where
  key : Option Str
  buf : List UInt8

/-- It came on the stream that the station selected. -/
def MocapArrival.Selected (arrival : MocapArrival) : Prop :=
  ∃ key, arrival.key = some key ∧ str "/selected/" <:+: key

/-- It has four bytes and does not begin with the tracking-lost sentinel. -/
def MocapArrival.Plausible (arrival : MocapArrival) : Prop :=
  4 ≤ arrival.buf.length ∧ ¬ [0xff, 0xff, 0xff, 0xff] <+: arrival.buf

def MocapArrival.selected (arrival : MocapArrival) : Bool :=
  keyContains arrival.key (str "/selected/")

/-- It starts the hold. -/
def MocapArrival.holds (arrival : MocapArrival) : Bool :=
  arrival.selected && plausiblePose arrival.buf

/-- It is one of the samples that the hold suppresses. -/
def MocapArrival.fallback (arrival : MocapArrival) : Bool := !arrival.selected

theorem MocapArrival.selected_iff (arrival : MocapArrival) :
    arrival.selected = true ↔ arrival.Selected := by
  unfold MocapArrival.selected MocapArrival.Selected
  cases arrival.key with
  | none => simp [keyContains]
  | some key => simp [keyContains_iff]

theorem plausiblePose_iff (arrival : MocapArrival) :
    plausiblePose arrival.buf = true ↔ arrival.Plausible := by
  unfold plausiblePose MocapArrival.Plausible
  rw [Bool.and_eq_true, decide_eq_true_eq, Bool.not_eq_true', beq_eq_false_iff_ne,
    List.prefix_iff_eq_take]
  exact and_congr_right fun _ => not_congr eq_comm

theorem MocapArrival.holds_iff (arrival : MocapArrival) :
    arrival.holds = true ↔ arrival.Selected ∧ arrival.Plausible := by
  rw [MocapArrival.holds, Bool.and_eq_true, arrival.selected_iff, plausiblePose_iff]

/-- `max(CONFIG_CSYN_ZENOH_MOCAP_SELECTED_HOLD_SAMPLES, 0)` -/
def Kconfig.holdSamples (config : Kconfig) : Nat := config.zenohMocapSelectedHoldSamples.toNat

/-- The mocap sample of an event, if it passes the checks of its callback. -/
def mocapArrival (config : Kconfig) (registry : List CsynTopic) : ZenohEvent → Option MocapArrival
  | .sample handler i sample _ =>
      if handler = .input then none
      else
        (registry[i]?.bind fun topic => topic.admits config handler.requiresContract sample).map
          fun buf => ⟨sample.key, buf⟩
  | .query _ _ _ _ _ _ => none

theorem mocapArrival_sample {config : Kconfig} {registry : List CsynTopic} {i : Nat}
    {topic : CsynTopic} (present : registry[i]? = some topic) (handler : InputHandler)
    (sample : ZSample) (now : Int) :
    mocapArrival config registry (.sample handler i sample now) =
      if handler = .input then none
      else (topic.admits config handler.requiresContract sample).map fun buf =>
        ⟨sample.key, buf⟩ := by
  rw [mocapArrival, present, Option.bind_some]

/-- The hold that a history of arrivals leaves. -/
def holdAfter (config : Kconfig) (left : Nat) (history : List MocapArrival) : Nat :=
  Countdown.after config.holdSamples MocapArrival.holds MocapArrival.fallback left history

/-- What the arbitration does with the hold, in numbers. -/
theorem mocapArbitration_spec (config : Kconfig) (suppressFallback : Int) (sample : ZSample)
    (buf : List UInt8) :
    ((mocapArbitration config suppressFallback sample buf).1 = true ↔
        (⟨sample.key, buf⟩ : MocapArrival).selected = true ∨ suppressFallback.toNat = 0) ∧
      (mocapArbitration config suppressFallback sample buf).2.toNat =
        holdAfter config suppressFallback.toNat [⟨sample.key, buf⟩] := by
  unfold mocapArbitration holdAfter Countdown.after
  rw [List.foldl_cons, List.foldl_nil, Countdown.next]
  unfold MocapArrival.holds MocapArrival.fallback MocapArrival.selected Kconfig.holdSamples
  dsimp only
  by_cases selected : keyContains sample.key (str "/selected/") = true
  · rw [if_pos selected, selected]
    by_cases tracked : plausiblePose buf = true
    · simp [tracked]
    · simp [tracked]
  · rw [if_neg selected]
    rw [Bool.not_eq_true] at selected
    rw [selected]
    by_cases held : suppressFallback > 0
    · rw [if_pos held]
      simp only [Bool.false_and, Bool.not_false, Bool.false_eq_true, ↓reduceIte, false_or,
        false_iff]
      omega
    · rw [if_neg held]
      simp only [Bool.false_and, Bool.not_false, Bool.false_eq_true, ↓reduceIte, false_or,
        true_iff]
      omega

section

variable {config : Kconfig} {registry : List CsynTopic} {s t : ZenohInput}

/-- A sample event, by the callback's specification. -/
theorem ZenohInput.step_sample {handler : InputHandler} {i : Nat} {sample : ZSample} {now : Int}
    (taken : s.step config (.sample handler i sample now) = some t) :
    ∃ topic stored after, s.registry[i]? = some topic ∧ t.registry = s.registry.set i after ∧
      t.suppressFallback = handler.suppression config topic s.suppressFallback sample ∧
      HandedAs topic (handler.handsOn config topic s.suppressFallback sample) stored after := by
  unfold ZenohInput.step at taken
  dsimp only at taken
  split at taken
  · cases taken
  · rename_i topic found
    obtain ⟨⟨stored, after, suppressed⟩, handled, rfl⟩ := Option.map_eq_some_iff.mp taken
    obtain ⟨suppression, handed⟩ := InputHandler.handle_spec handled
    exact ⟨topic, stored, after, found, rfl, suppression, handed⟩

theorem HandedAs.sameDeclaration {topic after : CsynTopic} {buf : Option (List UInt8)}
    {stored : Bool} (handed : HandedAs topic buf stored after) : after.SameDeclaration topic := by
  cases handed with
  | nothing store declared => exact declared
  | sample buf => exact csynTopicPublish_sameDeclaration topic _

/-- Only a mocap sample that passes its checks moves the hold. -/
theorem ZenohInput.step_hold {event : ZenohEvent} (taken : s.step config event = some t)
    (declared : SameDeclarations s.registry registry) :
    SameDeclarations t.registry registry ∧
      t.suppressFallback.toNat = holdAfter config s.suppressFallback.toNat
        (mocapArrival config registry event).toList := by
  cases event with
  | sample handler i sample now =>
      obtain ⟨topic, stored, after, found, registry_, suppression, handed⟩ :=
        ZenohInput.step_sample taken
      refine ⟨?_, ?_⟩
      · rw [registry_]
        exact (sameDeclarations_set found handed.sameDeclaration).trans declared
      · obtain ⟨before, present, same⟩ := declared.symm.get found
        rw [suppression, mocapArrival_sample present, same.admits]
        unfold InputHandler.suppression
        cases topic.admits config handler.requiresContract sample with
        | none =>
            rw [Option.map_none, ite_self]
            rfl
        | some buf =>
            cases handler with
            | input => rfl
            | mocap => exact (mocapArbitration_spec config s.suppressFallback sample buf).2
            | legacyMocap => exact (mocapArbitration_spec config s.suppressFallback sample buf).2
  | query i query now handler copies encodes =>
      unfold ZenohInput.step at taken
      dsimp only at taken
      split at taken
      · cases taken
      · cases taken
        exact ⟨declared, rfl⟩

/-- `suppress_fallback` is the hold that the arrivals of the run leave. -/
theorem ZenohInput.run_hold {events : List ZenohEvent}
    (reached : Automaton.run (ZenohInput.step config) s events = some t)
    (declared : SameDeclarations s.registry registry) :
    SameDeclarations t.registry registry ∧
      t.suppressFallback.toNat = holdAfter config s.suppressFallback.toNat
        (events.filterMap (mocapArrival config registry)) := by
  induction events generalizing s with
  | nil =>
      cases reached
      exact ⟨declared, rfl⟩
  | cons event rest ih =>
      obtain ⟨mid, first, later⟩ := (Automaton.run_cons_some _).mp reached
      obtain ⟨still, moved⟩ := ZenohInput.step_hold first declared
      obtain ⟨declared', held⟩ := ih later still
      refine ⟨declared', ?_⟩
      rw [held, moved, holdAfter, holdAfter, ← Countdown.after_append]
      congr 1
      rw [List.filterMap_cons]
      cases mocapArrival config registry event with
      | none => rfl
      | some arrival => rfl

end

/-- A fallback sample may pass: no plausible selected sample came before it, or enough fallback
samples since the most recent one. -/
def FallbackPasses (config : Kconfig) (history : List MocapArrival) : Prop :=
  (∀ earlier ∈ history, ¬ (earlier.Selected ∧ earlier.Plausible)) ∨
    ∃ before recent since, history = before ++ recent :: since ∧
      (recent.Selected ∧ recent.Plausible) ∧
      (∀ later ∈ since, ¬ (later.Selected ∧ later.Plausible)) ∧
      config.holdSamples ≤ since.countP MocapArrival.fallback

theorem fallbackPasses_iff (config : Kconfig) (history : List MocapArrival) :
    FallbackPasses config history ↔ holdAfter config 0 history = 0 := by
  have unheld : ∀ arrival : MocapArrival,
      arrival.holds = false ↔ ¬ (arrival.Selected ∧ arrival.Plausible) := by
    intro arrival
    rw [← Bool.not_eq_true, arrival.holds_iff]
  rw [holdAfter, Countdown.after_eq_zero_iff]
  simp only [FallbackPasses, unheld, MocapArrival.holds_iff]

/-- Over every run a mocap sample that passes its checks is handed to `csyn_topic_publish` if and
only if it is selected or the samples before it let a fallback pass. -/
theorem mocap_arbitration (config : Kconfig) (registry : List CsynTopic)
    (queryables : List CsynQueryable) (events : List ZenohEvent) (s t : ZenohInput)
    (reached : Automaton.run (ZenohInput.step config) (.boot registry queryables) events = some s)
    (handler : InputHandler) (i : Nat) (sample : ZSample) (now : Int) (arrival : MocapArrival)
    (passed : mocapArrival config registry (.sample handler i sample now) = some arrival)
    (taken : s.step config (.sample handler i sample now) = some t) :
    ∃ topic handed stored after, s.registry[i]? = some topic ∧
      t.registry = s.registry.set i after ∧ HandedAs topic handed stored after ∧
      (handed = none ∨ handed = some arrival.buf) ∧
      (handed = some arrival.buf ↔ arrival.Selected ∨
        FallbackPasses config (events.filterMap (mocapArrival config registry))) := by
  obtain ⟨declared, held⟩ := ZenohInput.run_hold reached (SameDeclarations.refl registry)
  obtain ⟨topic, stored, after, found, stores, -, handed⟩ := ZenohInput.step_sample taken
  obtain ⟨before, present, same⟩ := declared.symm.get found
  -- The sample passed the checks, which only depend on declarations.
  rw [mocapArrival_sample present, same.admits] at passed
  by_cases mocap : handler = .input
  · rw [if_pos mocap] at passed
    cases passed
  · rw [if_neg mocap, Option.map_eq_some_iff] at passed
    obtain ⟨buf, admitted, rfl⟩ := passed
    have arbitrated : handler.arbitrate config s.suppressFallback sample buf =
        mocapArbitration config s.suppressFallback sample buf := by
      cases handler with
      | input => exact absurd rfl mocap
      | mocap => rfl
      | legacyMocap => rfl
    have handsOn : handler.handsOn config topic s.suppressFallback sample =
        if (mocapArbitration config s.suppressFallback sample buf).1 then some buf else none := by
      rw [InputHandler.handsOn, admitted, ← arbitrated]
    have decides := (mocapArbitration_spec config s.suppressFallback sample buf).1
    rw [held, MocapArrival.selected_iff] at decides
    rw [fallbackPasses_iff]
    refine ⟨topic, _, stored, after, found, stores, handed, ?_, ?_⟩
    · rw [handsOn]
      split
      · exact Or.inr rfl
      · exact Or.inl rfl
    · rw [handsOn]
      refine Iff.trans ?_ decides
      by_cases goesOn : (mocapArbitration config s.suppressFallback sample buf).1 = true
      · simp [goesOn]
      · simp [goesOn]

/-- One fallback sample is suppressed after each selected one. -/
def holdOne : Kconfig := { Kconfig.default with zenohMocapSelectedHoldSamples := 1 }

def mocapRegistry : List CsynTopic := [csynTopicDefine (str "vicon/mocap") .rx 64]

def poseOn (key : Str) (byte : UInt8) : ZenohEvent :=
  .sample .legacyMocap 0 ⟨some key, none, ⟨4, List.replicate 4 byte⟩⟩ 0

/-- A selected pose and a fallback one, which is suppressed. -/
def heldBack : List ZenohEvent := [poseOn (str "lab/selected/mocap") 1, poseOn (str "mocap") 2]

/-- The next fallback pose is handed on. -/
theorem mocap_arbitration_second_fallback :
    ∃ s t topic stored after,
      Automaton.run (ZenohInput.step holdOne) (.boot mocapRegistry []) heldBack = some s ∧
        s.step holdOne (poseOn (str "mocap") 3) = some t ∧ s.registry[0]? = some topic ∧
        t.registry = s.registry.set 0 after ∧
        HandedAs topic (some [3, 3, 3, 3]) stored after := by
  obtain ⟨topic, handed, stored, after, found, stores, handedAs, -, decides⟩ :=
    mocap_arbitration holdOne mocapRegistry [] heldBack _ _ rfl .legacyMocap 0
      ⟨some (str "mocap"), none, ⟨4, List.replicate 4 3⟩⟩ 0 ⟨some (str "mocap"), [3, 3, 3, 3]⟩
      rfl rfl
  have enough : FallbackPasses holdOne (heldBack.filterMap (mocapArrival holdOne mocapRegistry)) :=
    (fallbackPasses_iff _ _).mpr rfl
  rw [decides.mpr (Or.inr enough)] at handedAs
  exact ⟨_, _, topic, stored, after, rfl, rfl, found, stores, handedAs⟩

end Csyn
