import Csyn.TopicListening
import Csyn.VehicleRestore

set_option autoImplicit false

/- `topic_pub` of rust/src/main.rs, and what its samples are to those who get them. -/
namespace Csyn

/-- `rate`: nothing to wait for unless it is positive, else its period, where
`Duration::from_secs_f64` can represent that. -/
inductive PubRate where
  | once
  | period (ns : Nat)
  | unrepresentable
  deriving DecidableEq

structure TopicPubArgs where
  topic : Str
  ty : Str
  file : Option Str
  text : Option Str
  rate : PubRate
  count : Option UInt64

/-- The bytes to publish. `readFile` is `fs::read`. -/
def TopicPubArgs.payload (readFile : Str → Except Str (List UInt8)) (args : TopicPubArgs) :
    Except Str (List UInt8) :=
  match args.file, args.text with
  | some path, none =>
      match readFile path with
      | .error _ => .error (str "failed to read payload file " ++ path)
      | .ok bytes => .ok bytes
  | none, some text => .ok text
  | none, none => .error (str "topic pub requires --file or --text")
  | some _, some _ => .error (str "use only one of --file or --text")

/-- `delay` -/
def PubRate.delay : PubRate → Except Str (Option Nat)
  | .once => .ok none
  | .period ns => .ok (some ns)
  | .unrepresentable =>
      .error (str "cannot convert float seconds to Duration: value is either too big or NaN")

/-- The counter of `topic_pub`, and what it did: the time it slept and the samples it put. -/
structure Publisher where
  sent : Nat
  sleptNs : Nat
  puts : List HostPut

def Publisher.idle : Publisher := ⟨0, 0, []⟩

/-- A round of the loop in `topic_pub`. -/
def pubTurn (put : HostPut) (count : Option UInt64) (delay : Option Nat) (state : Publisher)
    (turn : PlayTurn) : Scan.Turn Publisher (Except Str Unit) :=
  if turn.shutdown then .stop state (.ok ())
  else if count.any fun limit => limit.toNat ≤ state.sent then .stop state (.ok ())
  else
    match turn.put with
    | .error error =>
        .stop state (.error (str "failed to publish " ++ put.key ++ str ": " ++ error))
    | .ok () =>
        let after := { state with sent := state.sent + 1, puts := state.puts ++ [put] }
        match delay with
        | .none => .stop after (.ok ())
        | some ns => .next { after with sleptNs := state.sleptNs + ns }

section

variable (fbs : SynapseFbs) (encodingForTopic : TopicInfo → Str)
  (readFile : Str → Except Str (List UInt8))

/-- What `topic_pub` is to put, once its arguments are checked. -/
def TopicPubArgs.put (args : TopicPubArgs) : Except Str HostPut :=
  match args.payload readFile with
  | .error error => .error error
  | .ok payload =>
      match TopicType.require fbs args.ty with
      | .error error => .error error
      | .ok known =>
          match known.decode fbs payload with
          | .error _ => .error (str "payload does not match required type " ++ args.ty)
          | .ok _ => .ok ⟨publishKey fbs args.topic, payload, known.zenohEncoding encodingForTopic⟩

end

/-! ## What was put -/

/-- As many samples are no more than what is asked for. -/
def TopicPubArgs.Within (args : TopicPubArgs) (sent : Nat) : Prop :=
  (args.rate = .once → sent ≤ 1) ∧ ∀ limit, args.count = some limit → sent ≤ limit.toNat

/-- They are all of it. -/
def TopicPubArgs.Complete (args : TopicPubArgs) (sent : Nat) : Prop :=
  args.Within sent ∧ ¬ args.Within (sent + 1)

/-- The loop put copies of one sample, with a pause of the delay after each. -/
structure Publisher.Copies (put : HostPut) (delay : Option Nat) (state : Publisher) : Prop where
  puts : state.puts = List.replicate state.sent put
  slept : state.sleptNs = state.sent * delay.getD 0

section

variable {args : TopicPubArgs} {put : HostPut} {delay : Option Nat} {state after : Publisher}
  {turn : PlayTurn}

theorem PubRate.delay_none {rate : PubRate} (converted : rate.delay = .ok none) : rate = .once := by
  cases rate with
  | once => rfl
  | period ns => cases converted
  | unrepresentable => cases converted

/-- One more copy, without the pause where there is none. -/
theorem Publisher.Copies.more (copies : state.Copies put delay) :
    Publisher.Copies put delay ⟨state.sent + 1, state.sleptNs + delay.getD 0, state.puts ++ [put]⟩ := by
  constructor
  · change state.puts ++ [put] = List.replicate (state.sent + 1) put
    rw [copies.puts, List.replicate_succ']
  · change state.sleptNs + delay.getD 0 = (state.sent + 1) * delay.getD 0
    rw [copies.slept, Nat.succ_mul]

/-- What a round can do. -/
theorem pubTurn_cases (put : HostPut) (count : Option UInt64) (delay : Option Nat)
    (state : Publisher) (turn : PlayTurn) :
    (turn.shutdown = true ∧ pubTurn put count delay state turn = .stop state (.ok ())) ∨
    ((∃ limit, count = some limit ∧ limit.toNat ≤ state.sent) ∧
      pubTurn put count delay state turn = .stop state (.ok ())) ∨
    (∃ error, turn.put = .error error ∧ pubTurn put count delay state turn =
      .stop state (.error (str "failed to publish " ++ put.key ++ str ": " ++ error))) ∨
    ((∀ limit, count = some limit → state.sent < limit.toNat) ∧
      pubTurn put count delay state turn =
        let after := ⟨state.sent + 1, state.sleptNs + delay.getD 0, state.puts ++ [put]⟩
        if delay = none then .stop after (.ok ()) else .next after) := by
  unfold pubTurn
  by_cases down : turn.shutdown = true
  · exact Or.inl ⟨down, if_pos down⟩
  · rw [if_neg down]
    have reached : (count.any fun limit => limit.toNat ≤ state.sent) = true ↔
        ∃ limit, count = some limit ∧ limit.toNat ≤ state.sent := by
      simp [Option.any_eq_true]
    by_cases enough : ∃ limit, count = some limit ∧ limit.toNat ≤ state.sent
    · exact Or.inr (Or.inl ⟨enough, if_pos (reached.mpr enough)⟩)
    · have room : ∀ limit, count = some limit → state.sent < limit.toNat := by
        intro limit known
        have short : ¬ limit.toNat ≤ state.sent := fun below => enough ⟨limit, known, below⟩
        omega
      rw [if_neg fun full => enough (reached.mp full)]
      cases sent : turn.put with
      | error error => exact Or.inr (Or.inr (Or.inl ⟨error, rfl, rfl⟩))
      | ok done =>
          refine Or.inr (Or.inr (Or.inr ⟨room, ?_⟩))
          cases delay with
          | none => rfl
          | some ns => rfl

/-- Before each round: a further sample is still wanted where there is no period. -/
structure Publisher.Going (args : TopicPubArgs) (put : HostPut) (delay : Option Nat)
    (state : Publisher) : Prop where
  copies : state.Copies put delay
  within : args.Within state.sent
  first : delay = none → state.sent = 0

/-- The end of the loop, with its result. -/
structure Publisher.Ended (args : TopicPubArgs) (put : HostPut) (turns : List PlayTurn)
    (state : Publisher) (result : Option (Except Str Unit)) : Prop where
  puts : state.puts = List.replicate state.sent put
  slept : ∀ delay, args.rate.delay = .ok delay → state.sleptNs = state.sent * delay.getD 0
  within : args.Within state.sent
  whole : result = some (.ok ()) → (∃ turn ∈ turns, turn.shutdown = true) ∨ args.Complete state.sent
  failed : ∀ error, result = some (.error error) → ∃ turn ∈ turns, ∃ cause,
    turn.put = .error cause ∧ error = str "failed to publish " ++ put.key ++ str ": " ++ cause

/-- A loop that stopped for the count has put all. -/
theorem TopicPubArgs.Within.complete {sent : Nat} {limit : UInt64} (within : args.Within sent)
    (counted : args.count = some limit) (reached : limit.toNat ≤ sent) : args.Complete sent := by
  refine ⟨within, ?_⟩
  intro more
  have bound := more.2 limit counted
  omega

/-- One more sample is within what is asked for, where the loop goes to put it. -/
theorem Publisher.Going.within_succ (going : state.Going args put delay)
    (converted : args.rate.delay = .ok delay)
    (room : ∀ limit, args.count = some limit → state.sent < limit.toNat) :
    args.Within (state.sent + 1) := by
  constructor
  · intro single
    rw [single] at converted
    cases converted
    have first := going.first rfl
    omega
  · exact fun limit counted => room limit counted

theorem Publisher.Going.step (converted : args.rate.delay = .ok delay)
    (taken : pubTurn put args.count delay state turn = .next after)
    (going : state.Going args put delay) : after.Going args put delay := by
  rcases pubTurn_cases put args.count delay state turn with
    ⟨-, stops⟩ | ⟨-, stops⟩ | ⟨error, -, stops⟩ | ⟨room, goes⟩
  · rw [stops] at taken
    cases taken
  · rw [stops] at taken
    cases taken
  · rw [stops] at taken
    cases taken
  · have within := going.within_succ converted room
    rw [goes] at taken
    by_cases single : delay = none
    · simp only [if_pos single] at taken
      cases taken
    · simp only [if_neg single] at taken
      cases taken
      exact ⟨going.copies.more, within, fun none_ => absurd none_ single⟩

theorem Publisher.Going.stop {turns : List PlayTurn} {result : Except Str Unit}
    (converted : args.rate.delay = .ok delay) (member : turn ∈ turns)
    (taken : pubTurn put args.count delay state turn = .stop after result)
    (going : state.Going args put delay) :
    Publisher.Ended args put turns after (some result) := by
  have slept : ∀ {now : Publisher}, now.Copies put delay → ∀ delay,
      args.rate.delay = .ok delay → now.sleptNs = now.sent * delay.getD 0 := by
    intro now copies other same
    rw [converted, Except.ok.injEq] at same
    rw [← same]
    exact copies.slept
  rcases pubTurn_cases put args.count delay state turn with
    ⟨down, stops⟩ | ⟨⟨limit, counted, reached⟩, stops⟩ | ⟨cause, failed, stops⟩ | ⟨room, goes⟩
  · rw [stops] at taken
    cases taken
    exact ⟨going.copies.puts, slept going.copies, going.within,
      fun _ => Or.inl ⟨turn, member, down⟩, nofun⟩
  · rw [stops] at taken
    cases taken
    exact ⟨going.copies.puts, slept going.copies, going.within,
      fun _ => Or.inr (going.within.complete counted reached), nofun⟩
  · rw [stops] at taken
    cases taken
    refine ⟨going.copies.puts, slept going.copies, going.within, nofun, ?_⟩
    rintro _ ⟨⟩
    exact ⟨turn, member, cause, failed, rfl⟩
  · have within := going.within_succ converted room
    rw [goes] at taken
    by_cases single : delay = none
    · have once : args.rate = .once := PubRate.delay_none (single ▸ converted)
      have first := going.first single
      simp only [if_pos single] at taken
      cases taken
      have copies := going.copies.more
      refine ⟨copies.puts, slept copies, within, fun _ => Or.inr ⟨within, ?_⟩, nofun⟩
      intro more
      have bound := more.1 once
      change state.sent + 1 + 1 ≤ 1 at bound
      omega
    · simp only [if_neg single] at taken
      cases taken

end

/-! ## Who gets it -/

/-- A subscriber of the host gets the put as this sample. -/
def HostPut.arrivesAs (put : HostPut) (sample : ReceivedSample) : Bool :=
  sample.key == put.key && sample.payload == put.payload &&
    transportWrappers.any fun wrapper => sample.encoding == wrapper ++ put.encoding

/-- What `print_sample` prints of it. -/
def HostPut.lines (put : HostPut) (known : TopicType) (decoded : Str) : List Str :=
  [str "topic: " ++ put.key, str "type: " ++ known.topic.wireType, decoded, str "---"]

section

variable {fbs : SynapseFbs} {known : TopicType} {put : HostPut} {decoded : Str}
  {forcedType : Option TopicType}

/-- A copy of a put has its type for every listener that does not ask for another one. -/
theorem HostPut.arrivesAs.accepted (exact_ : fbs.ExactContracts)
    (catalogued : known ∈ TopicType.all fbs) (stamped : put.encoding = known.topic.contract)
    (asked : forcedType.all fun other => other.topic.id == known.topic.id)
    {sample : ReceivedSample} (arrives : put.arrivesAs sample = true) :
    sample.accepted fbs forcedType = some (sample, known) := by
  obtain ⟨entry, listed, rfl⟩ := List.mem_map.mp catalogued
  unfold HostPut.arrivesAs at arrives
  simp only [Bool.and_eq_true, List.any_eq_true, beq_iff_eq] at arrives
  obtain ⟨-, wrapper, wrapped, encoded⟩ := arrives
  have canonical : canonicalEncoding sample.encoding = entry.contract :=
    (canonicalEncoding_eq_contract entry).mpr ⟨wrapper, by rw [encoded, stamped]; rfl, by
      rw [encoded, stamped]
      exact find?_wrapped wrapped (mediaPrefix_contract _ _ _)⟩
  have typed : TopicType.fromValueEncoding fbs sample.encoding =
      .ok (TopicType.fromTopic fbs entry) := by
    unfold TopicType.fromValueEncoding
    rw [(exact_ _ _).mpr ⟨listed, canonical⟩]
    rfl
  unfold ReceivedSample.accepted requireValueType
  rw [typed]
  cases forcedType with
  | none => rfl
  | some other =>
      have same : other.topic.id = (TopicType.fromTopic fbs entry).topic.id := by simpa using asked
      dsimp only
      rw [if_neg fun differs => differs same]

end

section

variable {fbs : SynapseFbs} {encodingForTopic : TopicInfo → Str}
  {readFile : Str → Except Str (List UInt8)} {args : TopicPubArgs} {put : HostPut}

end

end Csyn
