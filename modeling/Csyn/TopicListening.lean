import Csyn.TopicCommands
import Mathlib.Algebra.Order.Ring.Nat
import Mathlib.Data.List.Sort

set_option autoImplicit false

/- What the listening commands of rust/src/main.rs report of what they hear. -/
namespace Csyn

section

variable (fbs : SynapseFbs)

/-- What `topic_list` notes of a sample: its key and the name of its type. -/
def ReceivedSample.listed (typeFilter : Option TopicType) (sample : ReceivedSample) :
    Option (Str × Str) :=
  match requireValueType fbs sample.key sample.encoding none with
  | .error _ => none
  | .ok known =>
      if typeFilter.any fun expected => expected.topic.id ≠ known.topic.id then none
      else some (sample.key, known.topic.name)

def listedIn (typeFilter : Option TopicType) (receptions : List Reception) : List (Str × Str) :=
  (heard receptions).filterMap (·.listed fbs typeFilter)

/-- No key has two names. -/
def OneName (entries : List (Str × Str)) : Prop :=
  ∀ a ∈ entries, ∀ b ∈ entries, a.1 = b.1 → a.2 = b.2

/-- The order of a `BTreeMap`. -/
def KeyBefore (a b : Str × Str) : Prop := compare a.1 b.1 = .lt

instance : Std.Irrefl KeyBefore where
  irrefl a before := by
    unfold KeyBefore at before
    rw [(Std.ReflCmp.compare_self : compare a.1 a.1 = .eq)] at before
    cases before

instance : Std.Antisymm KeyBefore where
  antisymm a b before after := by
    have less : compare a.1 a.1 = .lt := Std.TransCmp.lt_trans before after
    rw [(Std.ReflCmp.compare_self : compare a.1 a.1 = .eq)] at less
    cases less

/-- The map holds these entries. -/
def Listing.Holds (state : Listing) (entries : List (Str × Str)) : Prop :=
  ∀ key name, state.topics[key]? = some name ↔ (key, name) ∈ entries

/-- A sample with the type that a loop asks for. -/
def ReceivedSample.accepted (expected : Option TopicType) (sample : ReceivedSample) :
    Option (ReceivedSample × TopicType) :=
  match requireValueType fbs sample.key sample.encoding expected with
  | .error _ => none
  | .ok known => some (sample, known)

def acceptedIn (expected : Option TopicType) (receptions : List Reception) :
    List (ReceivedSample × TopicType) :=
  (heard receptions).filterMap (·.accepted fbs expected)

end

section

variable {fbs : SynapseFbs} {typeFilter : Option TopicType}

/-! ## topic list -/

theorem Listing.Holds.oneName {state : Listing} {entries : List (Str × Str)}
    (holds : state.Holds entries) : OneName entries := by
  rintro ⟨key, name⟩ first ⟨key', name'⟩ second rfl
  have found := (holds key name).mpr first
  rw [(holds key name').mpr second, Option.some.injEq] at found
  exact found.symm

/-- A sample that is not noted changes no entry. -/
theorem listTurn_unlisted {sample : ReceivedSample} (unlisted : sample.listed fbs typeFilter = none)
    (state : Listing) :
    ∃ listener, listTurn fbs typeFilter state (.sample sample) =
      .next { state with listener := listener } := by
  unfold ReceivedSample.listed at unlisted
  unfold listTurn
  dsimp only
  cases typed : requireValueType fbs sample.key sample.encoding none with
  | error error => exact ⟨_, rfl⟩
  | ok known =>
      rw [typed] at unlisted
      dsimp only at unlisted ⊢
      by_cases other : (typeFilter.any fun expected => expected.topic.id ≠ known.topic.id) = true
      · rw [if_pos other]
        exact ⟨_, rfl⟩
      · rw [if_neg other] at unlisted
        cases unlisted

/-- A sample that is noted under its name, unless its key already has another one. -/
theorem listTurn_listed {sample : ReceivedSample} {key name : Str}
    (listed : sample.listed fbs typeFilter = some (key, name)) (state : Listing) :
    (state.topics[key]?.getD name = name ∧ listTurn fbs typeFilter state (.sample sample) =
      .next { state with topics := state.topics.insert key name }) ∨
    (∃ previous, state.topics[key]? = some previous ∧ previous ≠ name ∧ ∃ after error,
      listTurn fbs typeFilter state (.sample sample) = .stop after error) := by
  unfold ReceivedSample.listed at listed
  unfold listTurn
  dsimp only
  cases typed : requireValueType fbs sample.key sample.encoding none with
  | error error =>
      rw [typed] at listed
      cases listed
  | ok known =>
      rw [typed] at listed
      dsimp only at listed ⊢
      by_cases other : (typeFilter.any fun expected => expected.topic.id ≠ known.topic.id) = true
      · rw [if_pos other] at listed
        cases listed
      · rw [if_neg other] at listed ⊢
        cases listed
        cases found : state.topics[sample.key]? with
        | none => exact Or.inl ⟨rfl, rfl⟩
        | some previous =>
            dsimp only
            by_cases same : previous = known.topic.name
            · rw [if_neg (not_not.mpr same)]
              exact Or.inl ⟨same, rfl⟩
            · rw [if_pos same]
              exact Or.inr ⟨previous, rfl, same, _, _, rfl⟩

theorem Listing.Holds.insert {state : Listing} {entries : List (Str × Str)} {key name : Str}
    (holds : state.Holds entries) (same : state.topics[key]?.getD name = name) :
    Listing.Holds { state with topics := state.topics.insert key name }
      (entries ++ [(key, name)]) := by
  intro other found
  dsimp only
  rw [Std.TreeMap.getElem?_insert, List.mem_append, List.mem_singleton, Prod.mk.injEq,
    ← holds other found]
  by_cases here : other = key
  · subst here
    rw [if_pos (Std.ReflCmp.compare_self)]
    cases present : state.topics[other]? with
    | none => simp [eq_comm]
    | some previous =>
        rw [present, Option.getD_some] at same
        simp [same, eq_comm]
  · rw [if_neg fun equal => here (Std.LawfulEqCmp.eq_of_compare equal).symm]
    simp [here]

variable (fbs typeFilter) in
/-- The loop runs out where it received all the time and heard no key with two names, and has then
noted everything. -/
theorem listLoop_run (receptions : List Reception) (state : Listing)
    (earlier : List (Str × Str)) (holds : state.Holds earlier) :
    ((Scan.run (listTurn fbs typeFilter) state receptions).2 = none ↔
      (∀ error, .failed error ∉ receptions) ∧
        OneName (earlier ++ listedIn fbs typeFilter receptions)) ∧
    ((Scan.run (listTurn fbs typeFilter) state receptions).2 = none →
      (Scan.run (listTurn fbs typeFilter) state receptions).1.Holds
        (earlier ++ listedIn fbs typeFilter receptions)) := by
  induction receptions generalizing state earlier with
  | nil =>
      have nothing : listedIn fbs typeFilter [] = [] := rfl
      rw [nothing, List.append_nil]
      exact ⟨⟨fun _ => ⟨nofun, holds.oneName⟩, fun _ => rfl⟩, fun _ => holds⟩
  | cons reception rest ih =>
      cases reception with
      | failed error =>
          have stops : listTurn fbs typeFilter state (.failed error) =
              .stop state (failedToReceive error) := rfl
          rw [Scan.run_stop stops]
          refine ⟨⟨nofun, ?_⟩, nofun⟩
          rintro ⟨quiet, -⟩
          exact absurd List.mem_cons_self (quiet error)
      | nothing =>
          have goes : listTurn fbs typeFilter state .nothing = .next state := rfl
          rw [Scan.run_next goes]
          have same : listedIn fbs typeFilter (.nothing :: rest) = listedIn fbs typeFilter rest := rfl
          rw [same]
          obtain ⟨ends, noted⟩ := ih state earlier holds
          refine ⟨ends.trans (and_congr_left' ?_), noted⟩
          simp
      | sample sample =>
          have quiet : (∀ error, Reception.failed error ∉ Reception.sample sample :: rest) ↔
              ∀ error, .failed error ∉ rest := by simp
          cases listed : sample.listed fbs typeFilter with
          | none =>
              have same : listedIn fbs typeFilter (.sample sample :: rest) =
                  listedIn fbs typeFilter rest := by
                rw [listedIn, heard_sample, List.filterMap_cons_none listed, listedIn]
              obtain ⟨listener, goes⟩ := listTurn_unlisted listed state
              rw [Scan.run_next goes, same, quiet]
              exact ih _ earlier holds
          | some entry =>
              obtain ⟨key, name⟩ := entry
              have more : listedIn fbs typeFilter (.sample sample :: rest) =
                  (key, name) :: listedIn fbs typeFilter rest := by
                rw [listedIn, heard_sample, List.filterMap_cons_some listed, listedIn]
              rw [more, quiet]
              rcases listTurn_listed listed state with
                ⟨same, goes⟩ | ⟨previous, found, differs, after, error, stops⟩
              · rw [Scan.run_next goes, List.append_cons]
                exact ih _ _ (holds.insert same)
              · rw [Scan.run_stop stops]
                refine ⟨⟨nofun, ?_⟩, nofun⟩
                rintro ⟨-, single⟩
                refine absurd (single (key, previous) ?_ (key, name) ?_ rfl) differs
                · exact List.mem_append_left _ ((holds key previous).mp found)
                · exact List.mem_append_right _ List.mem_cons_self

/-- The entries of a map are the sorted list of what it holds. -/
theorem toList_eq_of_sorted {topics : Std.TreeMap Str Str} {entries : List (Str × Str)}
    (sorted : entries.Pairwise KeyBefore)
    (holds : ∀ entry, entry ∈ entries ↔ topics[entry.1]? = some entry.2) :
    topics.toList = entries := by
  have ordered : topics.toList.Pairwise KeyBefore := Std.TreeMap.ordered_keys_toList
  apply List.Pairwise.eq_of_mem_iff ordered sorted
  rintro ⟨key, name⟩
  rw [holds (key, name), Std.TreeMap.mem_toList_iff_getElem?_eq_some]

theorem Listing.holds_empty (listener : Listener) : Listing.Holds ⟨∅, listener⟩ [] := by
  intro key name
  simp

/-- `topic list` succeeds where it subscribes, receives all the time and hears no key with two
names. It then prints every key it heard with its name, once and in the order of the keys. -/
theorem topic_list_iff (filter ty : Option Str) (subscribing : Subscribing)
    (duration : Except Str Unit) (receptions : List Reception) (lines : List Str) :
    topicList fbs filter ty subscribing duration receptions = .ok lines ↔
      subscribing.start ((filter.map (subscribeKeyexpr fbs)).getD (str "**")) = .ok () ∧
      duration = .ok () ∧ (∀ error, .failed error ∉ receptions) ∧
      ∃ typeFilter, requireType fbs ty = .ok typeFilter ∧
        OneName (listedIn fbs typeFilter receptions) ∧
        ∃ entries : List (Str × Str), entries.Pairwise KeyBefore ∧
          (∀ entry, entry ∈ entries ↔ entry ∈ listedIn fbs typeFilter receptions) ∧
          lines = entries.map listLine := by
  unfold topicList
  dsimp only
  cases requireType fbs ty with
  | error error => simp
  | ok typeFilter =>
      cases subscribing.start ((filter.map (subscribeKeyexpr fbs)).getD (str "**")) with
      | error error => simp
      | ok started =>
          cases duration with
          | error error => simp
          | ok parsed =>
              obtain ⟨ends, noted⟩ := listLoop_run fbs typeFilter receptions
                ⟨∅, ⟨.default, []⟩⟩ [] (Listing.holds_empty _)
              dsimp only
              generalize Scan.run (listTurn fbs typeFilter) ⟨∅, ⟨.default, []⟩⟩ receptions = run
                at ends noted ⊢
              obtain ⟨state, result⟩ := run
              rw [List.nil_append] at ends noted
              constructor
              · intro listed
                cases result with
                | some error => cases listed
                | none =>
                    cases listed
                    obtain ⟨quiet, single⟩ := ends.mp rfl
                    refine ⟨rfl, rfl, quiet, typeFilter, rfl, single, state.topics.toList,
                      Std.TreeMap.ordered_keys_toList, ?_, rfl⟩
                    rintro ⟨key, name⟩
                    rw [Std.TreeMap.mem_toList_iff_getElem?_eq_some]
                    exact noted rfl key name
              · rintro ⟨-, -, quiet, _, own, single, entries, sorted, members, rfl⟩
                cases own
                obtain rfl : result = none := ends.mpr ⟨quiet, single⟩
                have held : ∀ entry, entry ∈ entries ↔ state.topics[entry.1]? = some entry.2 :=
                  fun entry => (members entry).trans (noted rfl entry.1 entry.2).symm
                dsimp only
                rw [toList_eq_of_sorted sorted held]

/-! ## topic echo and observe_topic -/

section

variable {expected : Option TopicType}

theorem acceptedIn_sample (sample : ReceivedSample) (rest : List Reception) :
    acceptedIn fbs expected (.sample sample :: rest) =
      (sample.accepted fbs expected).toList ++ acceptedIn fbs expected rest := by
  unfold acceptedIn
  rw [heard_sample]
  cases accepted : sample.accepted fbs expected with
  | none => rw [List.filterMap_cons_none accepted, Option.toList_none, List.nil_append]
  | some entry =>
      rw [List.filterMap_cons_some accepted, Option.toList_some, List.singleton_append]

/-- Only the id of the type that is asked for counts. -/
theorem accepted_congr {first second : Option TopicType}
    (same : first.map (·.topic.id) = second.map (·.topic.id)) (sample : ReceivedSample) :
    sample.accepted fbs first = sample.accepted fbs second := by
  unfold ReceivedSample.accepted requireValueType
  cases TopicType.fromValueEncoding fbs sample.encoding with
  | error error => rfl
  | ok actual =>
      cases first with
      | none =>
          cases second with
          | none => rfl
          | some other => cases same
      | some known =>
          cases second with
          | none => cases same
          | some other =>
              have ids : known.topic.id = other.topic.id := Option.some.inj same
              dsimp only
              rw [ids]
              by_cases other : other.topic.id ≠ actual.topic.id
              · rw [if_pos other, if_pos other]
              · rw [if_neg other, if_neg other]

theorem accepted_sample {sample : ReceivedSample} {entry : ReceivedSample × TopicType}
    (accepted : sample.accepted fbs expected = some entry) :
    entry.1 = sample ∧
      requireValueType fbs sample.key sample.encoding expected = .ok entry.2 ∧
      ∀ known, expected = some known → known.topic.id = entry.2.topic.id := by
  unfold ReceivedSample.accepted at accepted
  cases typed : requireValueType fbs sample.key sample.encoding expected with
  | error error =>
      rw [typed] at accepted
      cases accepted
  | ok known =>
      rw [typed] at accepted
      cases accepted
      refine ⟨rfl, rfl, ?_⟩
      rintro other rfl
      unfold requireValueType at typed
      split at typed
      · cases typed
      · dsimp only at typed
        split at typed
        · cases typed
        · rename_i ids
          cases typed
          exact not_not.mp ids

theorem rejected_sample {sample : ReceivedSample}
    (rejected : sample.accepted fbs expected = none) :
    ∃ error, requireValueType fbs sample.key sample.encoding expected = .error error := by
  unfold ReceivedSample.accepted at rejected
  cases typed : requireValueType fbs sample.key sample.encoding expected with
  | error error => exact ⟨error, rfl⟩
  | ok known =>
      rw [typed] at rejected
      cases rejected

theorem accepted_none {sample : ReceivedSample} (unknown : sample.accepted fbs none = none) :
    sample.accepted fbs expected = none := by
  unfold ReceivedSample.accepted requireValueType at unknown ⊢
  cases typed : TopicType.fromValueEncoding fbs sample.encoding with
  | error error => rfl
  | ok actual =>
      rw [typed] at unknown
      cases unknown

/-- Once a loop fixed the type of a sample, it accepts that sample. -/
theorem accepted_fixed {sample : ReceivedSample} {known : TopicType}
    (accepted : sample.accepted fbs expected = some (sample, known)) :
    sample.accepted fbs (some known) = some (sample, known) := by
  cases expected with
  | some other =>
      have ids : (some known).map (·.topic.id) = (some other).map (·.topic.id) :=
        congrArg some ((accepted_sample accepted).2.2 other rfl).symm
      rw [← accepted]
      exact accepted_congr ids sample
  | none =>
      unfold ReceivedSample.accepted requireValueType at accepted ⊢
      cases typed : TopicType.fromValueEncoding fbs sample.encoding with
      | error error =>
          rw [typed] at accepted
          cases accepted
      | ok actual =>
          rw [typed] at accepted
          cases accepted
          dsimp only
          rw [if_neg (not_not.mpr rfl)]

/-- The loop counts what it would have accepted with the type that it reports in the end. -/
theorem observeLoop_run {receptions : List Reception} {state final : Observing}
    (ran : Scan.run (observeTurn fbs) state receptions = (final, none))
    (reported : expected.map (·.topic.id) = final.knownType.map (·.topic.id)) :
    (∀ known, state.knownType = some known →
      final.knownType.map (·.topic.id) = some known.topic.id) ∧
    final.samples = state.samples + UInt64.ofNat (acceptedIn fbs expected receptions).length ∧
    final.bytes = state.bytes + UInt64.ofNat
      ((acceptedIn fbs expected receptions).map (·.1.payload.length)).sum := by
  induction receptions generalizing state with
  | nil =>
      cases ran
      have nothing : acceptedIn fbs expected [] = [] := rfl
      rw [nothing]
      refine ⟨?_, (UInt64.add_zero _).symm, (UInt64.add_zero _).symm⟩
      rintro known fixed
      rw [fixed]
      rfl
  | cons reception rest ih =>
      cases reception with
      | failed error => cases ran
      | nothing => exact ih ran
      | sample sample =>
          rw [acceptedIn_sample]
          cases accepted : sample.accepted fbs state.knownType with
          | none =>
              obtain ⟨error, typed⟩ := rejected_sample accepted
              have goes : observeTurn fbs state (.sample sample) =
                  .next { state with listener := state.listener.reject sample error } := by
                unfold observeTurn
                dsimp only
                rw [typed]
              rw [Scan.run_next goes] at ran
              obtain ⟨fixed, samples, bytes⟩ := ih ran
              have unheard : sample.accepted fbs expected = none := by
                cases known : state.knownType with
                | none => exact accepted_none (known ▸ accepted)
                | some known' =>
                    rw [← accepted]
                    apply accepted_congr
                    rw [reported, fixed known' known, known, Option.map_some]
              rw [unheard, Option.toList_none, List.nil_append]
              exact ⟨fixed, samples, bytes⟩
          | some entry =>
              obtain ⟨own, typed, ids⟩ := accepted_sample accepted
              have goes : observeTurn fbs state (.sample sample) =
                  .next { state with
                    samples := state.samples + 1
                    bytes := state.bytes + UInt64.ofNat sample.payload.length
                    knownType := some entry.2 } := by
                unfold observeTurn
                dsimp only
                rw [typed]
              rw [Scan.run_next goes] at ran
              obtain ⟨fixed, samples, bytes⟩ := ih ran
              have final_id := fixed entry.2 rfl
              have counted : sample.accepted fbs expected = some (sample, entry.2) := by
                have same : entry = (sample, entry.2) := Prod.ext own rfl
                rw [← accepted_fixed (accepted.trans (congrArg some same))]
                apply accepted_congr
                rw [reported, final_id, Option.map_some]
              rw [counted, Option.toList_some, List.singleton_append, List.length_cons,
                List.map_cons, List.sum_cons, UInt64.ofNat_add, UInt64.ofNat_add]
              refine ⟨?_, ?_, ?_⟩
              · intro known was
                rw [final_id, ids known was]
              · rw [samples, UInt64.add_assoc, UInt64.add_comm 1]
                rfl
              · rw [bytes, UInt64.add_assoc]

end

section

variable (fbs) in
/-- These texts are what the loop prints of these samples. -/
def Printed (json : EchoJson → Except Str Str) (output : TopicOutput) (raw : Bool)
    (shown : List (ReceivedSample × TopicType)) (texts : List (List Str)) : Prop :=
  List.Forall₂ (fun entry lines => echoText fbs json output raw entry.1 entry.2 = .ok lines)
    shown texts

variable {json : EchoJson → Except Str Str} {output : TopicOutput} {raw : Bool}
  {forcedType : Option TopicType}

variable (json output raw forcedType) in
/-- What a round of `topic_echo` does with a sample. -/
theorem echoTurn_sample (once : Bool) (state : Echoing) (sample : ReceivedSample) :
    (sample.accepted fbs forcedType = none ∧ ∃ listener,
      echoTurn fbs json output once raw forcedType state (.sample sample) =
        .next { state with listener := listener }) ∨
    ∃ known, sample.accepted fbs forcedType = some (sample, known) ∧
      ((∃ lines, echoText fbs json output raw sample known = .ok lines ∧
        echoTurn fbs json output once raw forcedType state (.sample sample) =
          let after := { state with
            stdout := state.stdout ++ lines
            echoed := state.echoed ++ [(sample, known)] }
          if once then .stop after (.ok ()) else .next after) ∨
      ∃ error, echoText fbs json output raw sample known = .error error ∧
        echoTurn fbs json output once raw forcedType state (.sample sample) =
          .stop state (.error error)) := by
  unfold ReceivedSample.accepted echoTurn
  dsimp only
  cases requireValueType fbs sample.key sample.encoding forcedType with
  | error error => exact Or.inl ⟨rfl, _, rfl⟩
  | ok known =>
      refine Or.inr ⟨known, rfl, ?_⟩
      dsimp only
      cases echoText fbs json output raw sample known with
      | error error => exact Or.inr ⟨error, rfl, rfl⟩
      | ok lines => exact Or.inl ⟨lines, rfl, rfl⟩

/-- A loop without an error printed every sample it accepts, or the first one with `--once`. -/
theorem echoLoop_run {once : Bool} {receptions : List Reception} {state final : Echoing}
    {result : Option (Except Str Unit)}
    (ran : Scan.run (echoTurn fbs json output once raw forcedType) state receptions =
      (final, result))
    (fine : result.getD (.ok ()) = .ok ()) :
    ∃ shown texts,
      shown = (if once then (acceptedIn fbs forcedType receptions).take 1
        else acceptedIn fbs forcedType receptions) ∧
      Printed fbs json output raw shown texts ∧
      final.echoed = state.echoed ++ shown ∧ final.stdout = state.stdout ++ texts.flatten := by
  induction receptions generalizing state with
  | nil =>
      cases ran
      refine ⟨[], [], ?_, .nil, (List.append_nil _).symm, (List.append_nil _).symm⟩
      cases once <;> rfl
  | cons reception rest ih =>
      cases reception with
      | failed error =>
          cases ran
          cases fine
      | nothing => exact ih ran
      | sample sample =>
          rw [acceptedIn_sample]
          rcases echoTurn_sample json output raw forcedType once state sample with
            ⟨rejected, listener, goes⟩ |
            ⟨known, accepted, ⟨lines, text, turns⟩ | ⟨error, text, stops⟩⟩
          · rw [Scan.run_next goes] at ran
            rw [rejected, Option.toList_none, List.nil_append]
            obtain ⟨shown, texts, all, printed, echoed, stdout⟩ := ih ran
            exact ⟨shown, texts, all, printed, echoed, stdout⟩
          · rw [accepted, Option.toList_some, List.singleton_append]
            cases once with
            | true =>
                rw [Scan.run_stop turns] at ran
                cases ran
                exact ⟨[(sample, known)], [lines], rfl, .cons text .nil, rfl, by simp⟩
            | false =>
                rw [Scan.run_next turns] at ran
                obtain ⟨shown, texts, rfl, printed, echoed, stdout⟩ := ih ran
                refine ⟨_, lines :: texts, rfl, .cons text printed, ?_, ?_⟩
                · rw [echoed, List.append_assoc]
                  rfl
                · rw [stdout, List.append_assoc]
                  rfl
          · rw [Scan.run_stop stops] at ran
            cases ran
            cases fine

/-- Where the loop goes through, it also does with `--once`, whatever it printed before. -/
theorem echoLoop_once {receptions : List Reception} {state final : Echoing}
    (ran : Scan.run (echoTurn fbs json output false raw forcedType) state receptions =
      (final, none)) (other : Echoing) :
    (Scan.run (echoTurn fbs json output true raw forcedType) other receptions).2.getD (.ok ()) =
      .ok () := by
  induction receptions generalizing state other with
  | nil => rfl
  | cons reception rest ih =>
      cases reception with
      | failed error => cases ran
      | nothing => exact ih ran other
      | sample sample =>
          rcases echoTurn_sample json output raw forcedType true other sample with
            ⟨rejected, listener, goes⟩ |
            ⟨known, accepted, ⟨lines, text, turns⟩ | ⟨error, text, stops⟩⟩
          · rw [Scan.run_next goes]
            rcases echoTurn_sample json output raw forcedType false state sample with
              ⟨-, listener', goes'⟩ | ⟨known, accepted, -⟩
            · rw [Scan.run_next goes'] at ran
              exact ih ran _
            · rw [rejected] at accepted
              cases accepted
          · rw [Scan.run_stop turns]
            rfl
          · rcases echoTurn_sample json output raw forcedType false state sample with
              ⟨rejected, -⟩ | ⟨known', accepted', ⟨lines, text', -⟩ | ⟨error', -, stops'⟩⟩
            · rw [accepted] at rejected
              cases rejected
            · rw [accepted] at accepted'
              cases accepted'
              rw [text] at text'
              cases text'
            · rw [Scan.run_stop stops'] at ran
              cases ran

variable (fbs json output raw forcedType) in
theorem echoLoop_eq (once : Bool) (receptions : List Reception) :
    echoLoop fbs json output once raw forcedType receptions =
      let ran := Scan.run (echoTurn fbs json output once raw forcedType) ⟨⟨.default, []⟩, [], []⟩
        receptions
      (ran.2.getD (.ok ()), ran.1) := by
  unfold echoLoop
  dsimp only
  generalize Scan.run (echoTurn fbs json output once raw forcedType) ⟨⟨.default, []⟩, [], []⟩
    receptions = ran
  obtain ⟨state, result⟩ := ran
  cases result <;> rfl

/-- A loop that is not to end after one sample ends without an error only where the receptions
do. -/
theorem echoLoop_through {receptions : List Reception} {state final : Echoing}
    {result : Option (Except Str Unit)}
    (ran : Scan.run (echoTurn fbs json output false raw forcedType) state receptions =
      (final, result))
    (fine : result.getD (.ok ()) = .ok ()) : result = none := by
  cases result with
  | none => rfl
  | some ended =>
      obtain ⟨before, reception, rest, mid, -, -, stops⟩ := Scan.run_stopped ran
      cases reception with
      | failed error =>
          cases stops
          cases fine
      | nothing => cases stops
      | sample sample =>
          rcases echoTurn_sample json output raw forcedType false mid sample with
            ⟨-, listener, goes⟩ | ⟨known, -, ⟨lines, -, goes⟩ | ⟨error, -, fails⟩⟩
          · rw [goes] at stops
            cases stops
          · rw [goes] at stops
            cases stops
          · rw [fails] at stops
            cases stops
            cases fine

theorem acceptedIn_sublist (expected : Option TopicType) (receptions : List Reception) :
    ((acceptedIn fbs expected receptions).map Prod.fst).Sublist (heard receptions) := by
  induction receptions with
  | nil => exact List.Sublist.slnil
  | cons reception rest ih =>
      cases reception with
      | failed error => exact ih
      | nothing => exact ih
      | sample sample =>
          rw [acceptedIn_sample, heard_sample]
          cases accepted : sample.accepted fbs expected with
          | none => exact ih.cons sample
          | some entry =>
              have own := (accepted_sample accepted).1
              rw [Option.toList_some, List.singleton_append, List.map_cons, own]
              exact ih.cons_cons sample

/-- Two commands that hear the same samples. `topic info`, `hz` and `bw` count the samples and the
bytes that `topic echo` prints with the type they report, one text each and in the order they
came; with `--once` it prints the first of them. -/
theorem observe_counts_what_echo_prints {topic : Str} {ty : Option Str}
    {subscribing : Subscribing} {duration : Except Str Unit} {receptions : List Reception}
    {stats : Observing} {echoing : Echoing}
    (observed : observeTopic fbs topic subscribing duration receptions = .ok stats)
    (typed : requireType fbs ty = .ok forcedType)
    (reported : forcedType.map (·.topic.id) = stats.knownType.map (·.topic.id))
    (echoed : topicEcho fbs json topic ty output false raw subscribing receptions =
      (.ok (), some echoing)) :
    stats.samples = UInt64.ofNat echoing.echoed.length ∧
    stats.bytes = UInt64.ofNat (echoing.echoed.map (·.1.payload.length)).sum ∧
    (echoing.echoed.map Prod.fst).Sublist (heard receptions) ∧
    (∃ texts, Printed fbs json output raw echoing.echoed texts ∧ echoing.stdout = texts.flatten) ∧
    ∃ first, topicEcho fbs json topic ty output true raw subscribing receptions =
        (.ok (), some first) ∧
      first.echoed = echoing.echoed.take 1 := by
  unfold observeTopic at observed
  unfold topicEcho at echoed ⊢
  cases started : subscribing.start (subscribeKeyexpr fbs topic) with
  | error error =>
      rw [started] at observed
      cases observed
  | ok subscribed =>
      rw [started] at observed echoed
      rw [typed] at echoed ⊢
      dsimp only at observed echoed ⊢
      rw [echoLoop_eq] at echoed ⊢
      have listens : ∃ state, Scan.run (observeTurn fbs) ⟨0, 0, none, ⟨.default, []⟩⟩ receptions =
          (state, none) ∧ state = stats := by
        cases duration with
        | error error => cases observed
        | ok parsed =>
            dsimp only at observed
            split at observed
            · cases observed
            · rename_i state ran
              cases observed
              exact ⟨_, ran, rfl⟩
      obtain ⟨_, ran, rfl⟩ := listens
      obtain ⟨-, samples, bytes⟩ := observeLoop_run ran reported
      generalize run : Scan.run (echoTurn fbs json output false raw forcedType)
        ⟨⟨.default, []⟩, [], []⟩ receptions = ended at echoed
      obtain ⟨final, result⟩ := ended
      obtain ⟨fine, same⟩ := Prod.mk.inj echoed
      cases same
      obtain ⟨shown, texts, all, printed, entries, stdout⟩ := echoLoop_run run fine
      obtain rfl := echoLoop_through run fine
      rw [if_neg Bool.false_ne_true] at all
      subst all
      rw [List.nil_append] at entries stdout
      rw [UInt64.zero_add] at samples bytes
      rw [entries]
      refine ⟨samples, bytes, acceptedIn_sublist _ _, ⟨texts, printed, stdout⟩, ?_⟩
      have first := echoLoop_once run ⟨⟨.default, []⟩, [], []⟩
      generalize once : Scan.run (echoTurn fbs json output true raw forcedType)
        ⟨⟨.default, []⟩, [], []⟩ receptions = ended at first ⊢
      obtain ⟨state, result⟩ := ended
      obtain ⟨shown, _, one, -, echoed, -⟩ := echoLoop_run once first
      refine ⟨state, Prod.ext first rfl, ?_⟩
      rw [echoed, one, if_pos rfl, List.nil_append]

/-- A second attitude after those. -/
def listenedReceptions : List Reception :=
  mixedReceptions ++
    [.sample ⟨str "b/att", attitudeTopic.contract, [4, 0, 0, 0, 0, 0, 0, 171], .ok 130, 30⟩]

theorem observe_counts_what_echo_prints_attitudes :
    ∃ stats echoing,
      observeTopic recordFbs (str "**") ⟨.ok (), .ok ()⟩ (.ok ()) listenedReceptions = .ok stats ∧
      topicEcho recordFbs (fun _ => .ok []) (str "**") (some attitudeTopic.name) .debug false true
        ⟨.ok (), .ok ()⟩ listenedReceptions = (.ok (), some echoing) ∧
      stats.samples = UInt64.ofNat echoing.echoed.length ∧
      echoing.stdout = [str "01 00 00 00 00 00 00 00", str "04 00 00 00 00 00 00 ab"] := by
  obtain ⟨stats, observed, known⟩ : ∃ stats,
      observeTopic recordFbs (str "**") ⟨.ok (), .ok ()⟩ (.ok ()) listenedReceptions = .ok stats ∧
      some attitudeTopic.id = stats.knownType.map (·.topic.id) := ⟨_, rfl, rfl⟩
  obtain ⟨echoing, echoed, printed⟩ : ∃ echoing,
      topicEcho recordFbs (fun _ => .ok []) (str "**") (some attitudeTopic.name) .debug false true
        ⟨.ok (), .ok ()⟩ listenedReceptions = (.ok (), some echoing) ∧
      echoing.stdout = [str "01 00 00 00 00 00 00 00", str "04 00 00 00 00 00 00 ab"] :=
    ⟨_, rfl, by decide⟩
  have typed : requireType recordFbs (some attitudeTopic.name) =
      .ok (some (.fromTopic recordFbs attitudeTopic)) := rfl
  exact ⟨stats, echoing, observed, echoed,
    (observe_counts_what_echo_prints observed typed known echoed).1, printed⟩

end

end

end Csyn
