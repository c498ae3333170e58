import Mathlib.Data.List.Dedup
import Std.Data.TreeSet
import Csyn.Lib.Tally
import Csyn.VehicleRestore

set_option autoImplicit false

/- `bag_info` of rust/src/main.rs, and how its counts compare with what is played and recorded. -/
namespace Csyn

/-- A message with the ids of its channel and its schema. -/
structure NumberedMessage where
  message : McapMessage
  channelId : UInt16
  schemaId : UInt16

structure NumberedBag where
  records : Except Str (List (Except Str McapRecord))
  messages : Except Str (List (Except Str NumberedMessage))

/-- The bag as the other commands read it. -/
def NumberedBag.file (bag : NumberedBag) : BagFile where
  records := bag.records
  messages := bag.messages.map fun items => items.map fun item => item.map NumberedMessage.message

/-- The locals of the loop in `bag_info`. -/
structure Counting where
  channels : Std.TreeMap UInt16 (McapChannel × Nat)
  schemas : Std.TreeSet UInt16
  messageCount : Nat
  startTime : UInt64
  endTime : UInt64

def Counting.start : Counting := ⟨∅, ∅, 0, 18446744073709551615, 0⟩

def Counting.add (state : Counting) (numbered : NumberedMessage) : Counting where
  channels := Tally.count state.channels numbered.channelId numbered.message.channel
  schemas := state.schemas.insert numbered.schemaId
  messageCount := state.messageCount + 1
  startTime := min state.startTime numbered.message.logTime
  endTime := max state.endTime numbered.message.logTime

/-- The body of the loop. A channel without a schema is a panic. -/
def infoTurn (state : Counting) : Except Str NumberedMessage → Scan.Turn Counting Str
  | .error _ => .stop state (str "failed to read bag message")
  | .ok numbered =>
      match numbered.message.channel.schema with
      | none => .stop state (str "validated channels have schemas")
      | some _ => .next (state.add numbered)

/-- What `bag_info` has to print. -/
structure BagInfo where
  profile : ProfileMetadata
  schemas : Nat
  channels : List (UInt16 × McapChannel × Nat)
  messages : Nat
  durationNs : Option UInt64

def Counting.info (profile : ProfileMetadata) (state : Counting) : BagInfo where
  profile := profile
  schemas := state.schemas.size
  channels := state.channels.toList
  messages := state.messageCount
  durationNs :=
    if 0 < state.messageCount then some (saturatingSub state.endTime state.startTime) else none

section

variable (names : ProfileNames)

/-- `bag_info` up to the printing. -/
def readInfo (bag : Except Str NumberedBag) : Except Str BagInfo :=
  match bag with
  | .error error => .error error
  | .ok bag =>
      match profileMetadata names bag.records with
      | .error error => .error error
      | .ok profile =>
          match bag.messages with
          | .error _ => .error (str "failed to open bag")
          | .ok items =>
              match Scan.run infoTurn .start items with
              | (_, some error) => .error error
              | (state, none) => .ok (state.info profile)

def channelLine (profile : McapProfile) (channel : McapChannel) (count : Nat) : Str :=
  str "  " ++ channel.topic ++ str " [" ++ (channel.schema.map McapSchema.name).getD (str "unknown") ++
    str "] messages=" ++ decimal count ++ str " encoding=" ++ channel.messageEncoding ++
    str " topic_id=" ++ (channel.metadata.lookup profile.topicIdKey).getD (str "missing")

/-- The lines of `bag_info`. `seconds` renders nanoseconds as seconds. -/
def BagInfo.lines (profile : McapProfile) (seconds : UInt64 → Str) (input : Str) (info : BagInfo) :
    List Str :=
  [str "file: " ++ input, str "format: mcap", str "profile: " ++ names.profile,
    str "library: " ++ info.profile.library, str "source: " ++ info.profile.source,
    str "session: " ++ info.profile.sessionId, str "time basis: " ++ info.profile.timeBasis,
    str "schema set: " ++ info.profile.schemaSetHash, str "schemas: " ++ decimal info.schemas,
    str "channels: " ++ decimal info.channels.length,
    str "messages: " ++ decimal info.messages] ++
  (info.durationNs.map fun ns => str "duration: " ++ seconds ns ++ str " s").toList ++
  if info.channels.isEmpty then []
  else
    [] :: str "channels:" :: info.channels.map fun entry =>
      channelLine profile entry.2.1 entry.2.2

/-- `bag_info` -/
def bagInfo (profile : McapProfile) (seconds : UInt64 → Str) (input : Str)
    (bag : Except Str NumberedBag) : Except Str (List Str) :=
  (readInfo names bag).map (BagInfo.lines names profile seconds input)

end

/-! ## What it prints -/

/-- The counts against the messages of the bag. -/
structure BagInfo.Describes (names : ProfileNames) (bag : NumberedBag)
    (messages : List NumberedMessage) (info : BagInfo) : Prop where
  read : bag.messages = .ok (messages.map .ok)
  whole : ∀ m ∈ messages, m.message.channel.schema.isSome
  profile : profileMetadata names bag.records = .ok info.profile
  schemas : info.schemas = (messages.map NumberedMessage.schemaId).dedup.length
  ordered : info.channels.Pairwise fun a b => a.1 < b.1
  channels : ∀ id channel count, (id, channel, count) ∈ info.channels ↔
    count = messages.countP (fun m => m.channelId = id) ∧
      ∃ first, messages.find? (fun m => m.channelId = id) = some first ∧
        channel = first.message.channel
  counted : info.messages = messages.length
  duration : ∀ ns, info.durationNs = some ns ↔ ∃ first ∈ messages, ∃ last ∈ messages,
    (∀ m ∈ messages, first.message.logTime ≤ m.message.logTime ∧
      m.message.logTime ≤ last.message.logTime) ∧
    ns = last.message.logTime - first.message.logTime

section

variable {messages : List NumberedMessage} {state : Counting}

/-- The messages as the loop counts them. -/
def byChannel (messages : List NumberedMessage) : List (UInt16 × McapChannel) :=
  messages.map fun m => (m.channelId, m.message.channel)

theorem foldl_add_channels (messages : List NumberedMessage) (state : Counting) :
    (messages.foldl Counting.add state).channels =
      Tally.countAll state.channels (byChannel messages) := by
  induction messages generalizing state with
  | nil => rfl
  | cons m rest ih => exact ih (state.add m)

theorem foldl_add_messageCount (messages : List NumberedMessage) (state : Counting) :
    (messages.foldl Counting.add state).messageCount = state.messageCount + messages.length := by
  induction messages generalizing state with
  | nil => rfl
  | cons m rest ih =>
      rw [List.foldl_cons, ih, List.length_cons]
      change state.messageCount + 1 + rest.length = _
      omega

theorem mem_foldl_add_schemas (messages : List NumberedMessage) (state : Counting) (id : UInt16) :
    id ∈ (messages.foldl Counting.add state).schemas ↔
      id ∈ state.schemas ∨ id ∈ messages.map NumberedMessage.schemaId := by
  induction messages generalizing state with
  | nil => simp
  | cons m rest ih =>
      rw [List.foldl_cons, ih]
      have added : id ∈ (state.add m).schemas ↔ m.schemaId = id ∨ id ∈ state.schemas := by
        simp [Counting.add, Std.TreeSet.mem_insert]
      rw [added, List.map_cons, List.mem_cons]
      grind

theorem foldl_add_schemas (messages : List NumberedMessage) :
    (messages.foldl Counting.add .start).schemas.size =
      (messages.map NumberedMessage.schemaId).dedup.length := by
  rw [← Std.TreeSet.length_toList]
  apply List.Perm.length_eq
  have distinct := Std.TreeSet.distinct_toList
    (t := (messages.foldl Counting.add .start).schemas)
  have nodup : (messages.foldl Counting.add .start).schemas.toList.Nodup := by
    apply distinct.imp
    intro first second apart same
    apply apart
    rw [same]
    exact Std.ReflCmp.compare_self
  rw [List.perm_ext_iff_of_nodup nodup (List.nodup_dedup _)]
  intro id
  rw [Std.TreeSet.mem_toList, mem_foldl_add_schemas, List.mem_dedup]
  simp [Counting.start]

/-- A time that the loop keeps by picking one of two comes before the times of all messages, in the
order in which it is picked, and is one of them or the one of the state before. -/
theorem foldl_add_picked (time : Counting → UInt64) (pick : UInt64 → UInt64 → UInt64)
    (before : UInt64 → UInt64 → Prop) (trans : ∀ a b c, before a b → before b c → before a c)
    (picks : ∀ a b, pick a b = a ∧ before a b ∨ pick a b = b ∧ before b a)
    (step : ∀ state m, time (Counting.add state m) = pick (time state) m.message.logTime)
    (messages : List NumberedMessage) (state : Counting) :
    before (time (messages.foldl Counting.add state)) (time state) ∧
    (∀ m ∈ messages, before (time (messages.foldl Counting.add state)) m.message.logTime) ∧
    (time (messages.foldl Counting.add state) = time state ∨
      ∃ m ∈ messages, time (messages.foldl Counting.add state) = m.message.logTime) := by
  induction messages generalizing state with
  | nil =>
      have self : before (time state) (time state) := by
        rcases picks (time state) (time state) with ⟨-, own⟩ | ⟨-, own⟩
        · exact own
        · exact own
      exact ⟨self, nofun, Or.inl rfl⟩
  | cons m rest ih =>
      obtain ⟨ahead, within, origin⟩ := ih (state.add m)
      rw [List.foldl_cons]
      generalize rest.foldl Counting.add (state.add m) = final at ahead within origin ⊢
      have both : before (time final) (time state) ∧ before (time final) m.message.logTime := by
        rw [step] at ahead
        rcases picks (time state) m.message.logTime with ⟨kept, first⟩ | ⟨own, first⟩
        · rw [kept] at ahead
          exact ⟨ahead, trans _ _ _ ahead first⟩
        · rw [own] at ahead
          exact ⟨trans _ _ _ ahead first, ahead⟩
      refine ⟨both.1, ?_, ?_⟩
      · intro other member
        rcases List.mem_cons.mp member with rfl | inside
        · exact both.2
        · exact within other inside
      · rcases origin with same | ⟨other, inside, same⟩
        · rw [step] at same
          rcases picks (time state) m.message.logTime with ⟨kept, -⟩ | ⟨own, -⟩
          · exact Or.inl (same.trans kept)
          · exact Or.inr ⟨m, List.mem_cons_self, same.trans own⟩
        · exact Or.inr ⟨other, List.mem_cons_of_mem _ inside, same⟩

theorem foldl_add_startTime (messages : List NumberedMessage) (state : Counting) :
    (messages.foldl Counting.add state).startTime ≤ state.startTime ∧
    (∀ m ∈ messages, (messages.foldl Counting.add state).startTime ≤ m.message.logTime) ∧
    ((messages.foldl Counting.add state).startTime = state.startTime ∨
      ∃ m ∈ messages, (messages.foldl Counting.add state).startTime = m.message.logTime) := by
  apply foldl_add_picked Counting.startTime min (· ≤ ·)
  · exact fun a b c => UInt64.le_trans
  · intro a b
    have chosen : min a b = if a ≤ b then a else b := rfl
    by_cases le : a ≤ b
    · exact Or.inl ⟨chosen.trans (if_pos le), le⟩
    · exact Or.inr ⟨chosen.trans (if_neg le), UInt64.le_of_lt (UInt64.not_le.mp le)⟩
  · exact fun state m => rfl

theorem foldl_add_endTime (messages : List NumberedMessage) (state : Counting) :
    state.endTime ≤ (messages.foldl Counting.add state).endTime ∧
    (∀ m ∈ messages, m.message.logTime ≤ (messages.foldl Counting.add state).endTime) ∧
    ((messages.foldl Counting.add state).endTime = state.endTime ∨
      ∃ m ∈ messages, (messages.foldl Counting.add state).endTime = m.message.logTime) := by
  apply foldl_add_picked Counting.endTime max (fun a b => b ≤ a)
  · exact fun a b c first second => UInt64.le_trans second first
  · intro a b
    have chosen : max a b = if a ≤ b then b else a := rfl
    by_cases le : a ≤ b
    · exact Or.inr ⟨chosen.trans (if_pos le), le⟩
    · exact Or.inl ⟨chosen.trans (if_neg le), UInt64.le_of_lt (UInt64.not_le.mp le)⟩
  · exact fun state m => rfl

/-- The loop runs out where every message can be read and has a schema. -/
theorem infoLoop_run (items : List (Except Str NumberedMessage)) (state final : Counting) :
    Scan.run infoTurn state items = (final, none) ↔ ∃ messages : List NumberedMessage,
      items = messages.map .ok ∧ (∀ m ∈ messages, m.message.channel.schema.isSome) ∧
      final = messages.foldl Counting.add state := by
  induction items generalizing state with
  | nil =>
      constructor
      · rintro ⟨⟩
        exact ⟨[], rfl, nofun, rfl⟩
      · rintro ⟨messages, none_, -, rfl⟩
        rw [List.map_eq_nil_iff.mp none_.symm]
        rfl
  | cons item rest ih =>
      cases item with
      | error error =>
          have stops : infoTurn state (.error error) = .stop state (str "failed to read bag message") :=
            rfl
          rw [Scan.run_stop stops]
          constructor
          · nofun
          · rintro ⟨messages, same, -, -⟩
            cases messages with
            | nil => cases same
            | cons m messages => cases same
      | ok m =>
          cases known : m.message.channel.schema with
          | none =>
              have stops : infoTurn state (.ok m) =
                  .stop state (str "validated channels have schemas") := by
                simp only [infoTurn, known]
              rw [Scan.run_stop stops]
              constructor
              · nofun
              · rintro ⟨messages, same, whole, -⟩
                cases messages with
                | nil => cases same
                | cons other messages =>
                    cases same
                    have present := whole m List.mem_cons_self
                    rw [known] at present
                    cases present
          | some schema =>
              have goes : infoTurn state (.ok m) = .next (state.add m) := by
                simp only [infoTurn, known]
              rw [Scan.run_next goes, ih]
              constructor
              · rintro ⟨messages, rfl, whole, rfl⟩
                refine ⟨m :: messages, rfl, ?_, rfl⟩
                intro other member
                rcases List.mem_cons.mp member with rfl | inside
                · rw [known]
                  rfl
                · exact whole other inside
              · rintro ⟨messages, same, whole, rfl⟩
                cases messages with
                | nil => cases same
                | cons other messages =>
                    cases same
                    exact ⟨messages, rfl,
                      fun m member => whole m (List.mem_cons_of_mem _ member), rfl⟩

/-- The channels of the loop, by id. -/
theorem mem_foldl_add_channels (id : UInt16) (channel : McapChannel) (count : Nat) :
    (id, channel, count) ∈ (messages.foldl Counting.add .start).channels.toList ↔
      count = messages.countP (fun m => m.channelId = id) ∧
        ∃ first, messages.find? (fun m => m.channelId = id) = some first ∧
          channel = first.message.channel := by
  rw [Std.TreeMap.mem_toList_iff_getElem?_eq_some, foldl_add_channels, Tally.getElem?_countAll]
  have empty : Counting.start.channels[id]? = none := rfl
  have found : (byChannel messages).find? (fun item => item.1 = id) =
      (messages.find? fun m => m.channelId = id).map fun m => (m.channelId, m.message.channel) := by
    rw [byChannel, List.find?_map]
    rfl
  have counted : (byChannel messages).countP (fun item => item.1 = id) =
      messages.countP fun m => m.channelId = id := by
    rw [byChannel, List.countP_map]
    rfl
  rw [empty, found, counted]
  cases messages.find? fun m => m.channelId = id with
  | none => simp
  | some first =>
      simp
      grind

/-- Where there are messages, the loop keeps the time of one that comes before all. -/
theorem exists_first (nonempty : messages ≠ []) : ∃ first ∈ messages,
    (messages.foldl Counting.add .start).startTime = first.message.logTime ∧
    ∀ m ∈ messages, first.message.logTime ≤ m.message.logTime := by
  obtain ⟨-, within, origin⟩ := foldl_add_startTime messages .start
  rcases origin with never | ⟨first, member, same⟩
  · obtain ⟨m, rest, rfl⟩ := List.exists_cons_of_ne_nil nonempty
    have last : Counting.start.startTime.toNat = 2 ^ 64 - 1 := rfl
    have own := UInt64.le_iff_toNat_le.mp (never ▸ within m List.mem_cons_self)
    have same : Counting.start.startTime = m.message.logTime := by
      rw [← UInt64.toNat_inj]
      have bound := m.message.logTime.toNat_lt
      omega
    rw [never.trans same] at within ⊢
    exact ⟨m, List.mem_cons_self, rfl, within⟩
  · rw [same] at within ⊢
    exact ⟨first, member, rfl, within⟩

theorem exists_last (nonempty : messages ≠ []) : ∃ last ∈ messages,
    (messages.foldl Counting.add .start).endTime = last.message.logTime ∧
    ∀ m ∈ messages, m.message.logTime ≤ last.message.logTime := by
  obtain ⟨-, within, origin⟩ := foldl_add_endTime messages .start
  rcases origin with never | ⟨last, member, same⟩
  · obtain ⟨m, rest, rfl⟩ := List.exists_cons_of_ne_nil nonempty
    have first : Counting.start.endTime.toNat = 0 := rfl
    have own := UInt64.le_iff_toNat_le.mp (never ▸ within m List.mem_cons_self)
    have same : Counting.start.endTime = m.message.logTime := by
      rw [← UInt64.toNat_inj]
      omega
    rw [never.trans same] at within ⊢
    exact ⟨m, List.mem_cons_self, rfl, within⟩
  · rw [same] at within ⊢
    exact ⟨last, member, rfl, within⟩

theorem foldl_add_duration (ns : UInt64) (profile : ProfileMetadata) :
    ((messages.foldl Counting.add .start).info profile).durationNs = some ns ↔
      ∃ first ∈ messages, ∃ last ∈ messages,
        (∀ m ∈ messages, first.message.logTime ≤ m.message.logTime ∧
          m.message.logTime ≤ last.message.logTime) ∧
        ns = last.message.logTime - first.message.logTime := by
  have told : ((messages.foldl Counting.add .start).info profile).durationNs =
      if 0 < (messages.foldl Counting.add .start).messageCount then
        some (saturatingSub (messages.foldl Counting.add .start).endTime
          (messages.foldl Counting.add .start).startTime)
      else none := rfl
  rw [told, foldl_add_messageCount]
  have none_ : Counting.start.messageCount = 0 := rfl
  rw [none_, Nat.zero_add]
  by_cases nonempty : messages = []
  · subst nonempty
    simp
  · obtain ⟨first, firstIn, starts, least⟩ := exists_first nonempty
    obtain ⟨last, lastIn, ends, greatest⟩ := exists_last nonempty
    have span : saturatingSub last.message.logTime first.message.logTime =
        last.message.logTime - first.message.logTime := by
      unfold saturatingSub
      exact if_pos (least last lastIn)
    rw [if_pos (List.length_pos_iff.mpr nonempty), starts, ends, span, Option.some.injEq]
    constructor
    · rintro rfl
      exact ⟨first, firstIn, last, lastIn, fun m member => ⟨least m member, greatest m member⟩, rfl⟩
    · rintro ⟨first', firstIn', last', lastIn', bounds, rfl⟩
      have sameFirst : first'.message.logTime = first.message.logTime :=
        UInt64.le_antisymm (bounds first firstIn).1 (least first' firstIn')
      have sameLast : last'.message.logTime = last.message.logTime :=
        UInt64.le_antisymm (greatest last' lastIn') (bounds last lastIn).2
      rw [sameFirst, sameLast]

theorem foldl_add_describes {names : ProfileNames} {bag : NumberedBag} {profile : ProfileMetadata}
    (read : bag.messages = .ok (messages.map .ok))
    (whole : ∀ m ∈ messages, m.message.channel.schema.isSome)
    (profiled : profileMetadata names bag.records = .ok profile) :
    ((messages.foldl Counting.add .start).info profile).Describes names bag messages := by
  constructor
  · exact read
  · exact whole
  · exact profiled
  · exact foldl_add_schemas messages
  · have ordered := Std.TreeMap.ordered_keys_toList
      (t := (messages.foldl Counting.add .start).channels)
    apply ordered.imp
    intro first second less
    exact compareOfLessAndEq_eq_lt.mp less
  · exact fun id channel count => mem_foldl_add_channels id channel count
  · exact (foldl_add_messageCount messages .start).trans (Nat.zero_add _)
  · exact fun ns => foldl_add_duration ns profile

/-- The counts are determined by the bag. -/
theorem BagInfo.Describes.unique {names : ProfileNames} {bag : NumberedBag} {info other : BagInfo}
    (describes : info.Describes names bag messages) (other_ : other.Describes names bag messages) :
    info = other := by
  have profile : info.profile = other.profile :=
    Except.ok.inj (describes.profile.symm.trans other_.profile)
  have schemas : info.schemas = other.schemas := describes.schemas.trans other_.schemas.symm
  have channels : info.channels = other.channels := by
    have same : ∀ entry, entry ∈ info.channels ↔ entry ∈ other.channels :=
      fun ⟨id, channel, count⟩ =>
        (describes.channels id channel count).trans (other_.channels id channel count).symm
    have nodup (told : BagInfo) (ordered : told.channels.Pairwise fun a b => a.1 < b.1) :
        told.channels.Nodup := by
      apply ordered.imp
      rintro first second less rfl
      exact UInt16.lt_irrefl _ less
    have perm : info.channels.Perm other.channels :=
      (List.perm_ext_iff_of_nodup (nodup info describes.ordered) (nodup other other_.ordered)).mpr
        same
    apply perm.eq_of_pairwise _ describes.ordered other_.ordered
    intro first second _ _ less greater
    exact absurd (UInt16.lt_trans less greater) (UInt16.lt_irrefl _)
  have counted : info.messages = other.messages := describes.counted.trans other_.counted.symm
  have duration : info.durationNs = other.durationNs := by
    apply Option.ext
    intro ns
    rw [describes.duration, other_.duration]
  cases info
  cases other
  simp only at profile schemas channels counted duration
  subst profile schemas channels counted duration
  rfl

theorem readInfo_iff {names : ProfileNames} {bag : NumberedBag} {info : BagInfo} :
    readInfo names (.ok bag) = .ok info ↔ ∃ messages, info.Describes names bag messages := by
  constructor
  · intro told
    unfold readInfo at told
    dsimp only at told
    cases profiled : profileMetadata names bag.records with
    | error error =>
        rw [profiled] at told
        cases told
    | ok profile =>
        rw [profiled] at told
        cases opened : bag.messages with
        | error error =>
            rw [opened] at told
            cases told
        | ok items =>
            rw [opened] at told
            dsimp only at told
            cases ran : Scan.run infoTurn .start items with
            | mk final result =>
                rw [ran] at told
                cases result with
                | some error => cases told
                | none =>
                    cases told
                    obtain ⟨messages, rfl, whole, rfl⟩ := (infoLoop_run _ _ _).mp ran
                    exact ⟨messages, foldl_add_describes opened whole profiled⟩
  · rintro ⟨messages, describes⟩
    have ran := (infoLoop_run (messages.map .ok) .start _).mpr ⟨messages, rfl, describes.whole, rfl⟩
    have same := (foldl_add_describes describes.read describes.whole describes.profile).unique describes
    unfold readInfo
    simp only [describes.profile, describes.read, ran]
    rw [same]

end

/-- `bag info` succeeds where the profile is in order, every message can be read and every channel
has a schema. It then prints the number of distinct schemas, each channel once by its id with the
number of its messages, the number of all messages and the time between the first and the last. -/
theorem bag_info_iff (names : ProfileNames) (profile : McapProfile) (seconds : UInt64 → Str)
    (input : Str) (bag : NumberedBag) (lines : List Str) :
    bagInfo names profile seconds input (.ok bag) = .ok lines ↔
      ∃ messages, ∃ info : BagInfo, info.Describes names bag messages ∧
        lines = info.lines names profile seconds input := by
  unfold bagInfo
  cases told : readInfo names (.ok bag) with
  | error error =>
      constructor
      · nofun
      · rintro ⟨messages, info, describes, -⟩
        have found := readInfo_iff.mpr ⟨messages, describes⟩
        rw [told] at found
        cases found
  | ok info =>
      obtain ⟨messages, describes⟩ := readInfo_iff.mp told
      constructor
      · rintro ⟨⟩
        exact ⟨messages, info, describes, rfl⟩
      · rintro ⟨messages', info', describes', rfl⟩
        have found := readInfo_iff.mpr ⟨messages', describes'⟩
        rw [told] at found
        cases found
        rfl

/-! ## What is played -/

/-- The messages that `bag_info` counts for a topic, or for all. -/
def BagInfo.countOn (info : BagInfo) (topicFilter : Option Str) : Nat :=
  ((info.channels.filter fun entry => selects topicFilter entry.2.1.topic).map
    fun entry => entry.2.2).sum

/-- The id of a channel identifies it in the file. -/
def NumberedBag.Consistent (bag : NumberedBag) : Prop :=
  ∀ messages : List NumberedMessage, bag.messages = .ok (messages.map .ok) →
    ∀ a ∈ messages, ∀ b ∈ messages, a.channelId = b.channelId →
      a.message.channel = b.message.channel

theorem consistent_of_messages {records : Except Str (List (Except Str McapRecord))}
    {messages : List NumberedMessage} (single : ∀ a ∈ messages, ∀ b ∈ messages,
      a.channelId = b.channelId → a.message.channel = b.message.channel) :
    (NumberedBag.mk records (.ok (messages.map .ok))).Consistent := by
  intro other read
  have same : other = messages := by
    apply List.map_injective_iff.mpr fun _ _ => Except.ok.inj
    exact (Except.ok.inj read).symm
  rw [same]
  exact single

section

variable {profile : McapProfile} {fbs : SynapseFbs} {names : ProfileNames} {bag : NumberedBag}
  {info : BagInfo} {messages : List NumberedMessage}

theorem BagInfo.Describes.countOn (describes : info.Describes names bag messages)
    (consistent : bag.Consistent) (topicFilter : Option Str) :
    info.countOn topicFilter =
      messages.countP fun m => selects topicFilter m.message.channel.topic := by
  rw [describes.unique (foldl_add_describes describes.read describes.whole describes.profile)]
  change Tally.total (fun channel : McapChannel => selects topicFilter channel.topic)
    (messages.foldl Counting.add .start).channels = _
  rw [foldl_add_channels, Tally.total_countAll]
  · rw [byChannel, List.countP_map]
    exact Nat.zero_add _
  · intro item member entry found
    cases found
  · have apart := consistent messages describes.read
    apply List.pairwise_map.mpr
    apply List.Pairwise.imp_of_mem (R := fun _ _ => True) _ (List.pairwise_of_forall fun _ _ => trivial)
    intro first second firstIn secondIn _ same
    rw [apart first firstIn second secondIn same]

theorem filteredOut_eq (topicFilter : Option Str) (message : McapMessage) :
    filteredOut topicFilter message = !selects topicFilter message.channel.topic := by
  cases topicFilter with
  | none => rfl
  | some filter => rfl

variable (profile fbs) in
/-- What is there to be played is no more than the selected messages, and all of them where none is
unreadable. -/
theorem readSelected_length (topicFilter : Option Str) (log : List McapMessage) :
    (readSelected profile fbs topicFilter (log.map .ok)).1.length ≤
        log.countP (fun message => selects topicFilter message.channel.topic) ∧
      ((readSelected profile fbs topicFilter (log.map .ok)).2 = none →
        (readSelected profile fbs topicFilter (log.map .ok)).1.length =
          log.countP fun message => selects topicFilter message.channel.topic) := by
  induction log with
  | nil => exact ⟨Nat.le_refl 0, fun _ => rfl⟩
  | cons message rest ih =>
      rw [List.map_cons, readSelected, filteredOut_eq, List.countP_cons]
      cases selects topicFilter message.channel.topic with
      | false => simpa using ih
      | true =>
          cases readMessage profile fbs message with
          | error error => simp
          | ok sample =>
              obtain ⟨bound, whole⟩ := ih
              constructor
              · simpa using bound
              · intro clean
                have same := whole clean
                simpa using same

theorem NumberedBag.file_messages (read : bag.messages = .ok (messages.map .ok)) :
    bag.file.messages = .ok ((messages.map NumberedMessage.message).map .ok) := by
  change bag.messages.map _ = _
  rw [read]
  change Except.ok ((messages.map Except.ok).map fun item => item.map NumberedMessage.message) = _
  rw [List.map_map, List.map_map]
  rfl

end

/-- What `bag info` counts for a topic is what `bag play` plays of it where it ends well, and never
less than what it plays. All topics together have all messages. -/
theorem bag_info_counts_what_plays (profile : McapProfile) (fbs : SynapseFbs)
    (encodingForTopic : TopicInfo → Str) (names : ProfileNames) (bag : NumberedBag)
    (consistent : bag.Consistent) (info : BagInfo) (told : readInfo names (.ok bag) = .ok info) :
    info.countOn none = info.messages ∧
    ∀ topicFilter {F : Type} (f64 : F64 F) rate,
      (∀ session turns,
        (putsOf (bagPlay profile fbs encodingForTopic names f64 rate session (.ok bag.file)
          topicFilter turns).2).length ≤ info.countOn topicFilter) ∧
      ((∀ items, bag.file.messages = .ok items → SleepsThrough (f64.scaled rate) items) →
        ∀ played events, bagPlay profile fbs encodingForTopic names f64 rate (.ok ())
          (.ok bag.file) topicFilter (fun _ => .clear) = (.ok played, events) →
        played = info.countOn topicFilter) := by
  obtain ⟨messages, describes⟩ := readInfo_iff.mp told
  have opened := NumberedBag.file_messages describes.read
  constructor
  · rw [describes.countOn consistent, describes.counted]
    exact List.countP_eq_length.mpr fun _ _ => rfl
  · intro topicFilter F f64 rate
    obtain ⟨bound, whole⟩ := readSelected_length profile fbs topicFilter
      (messages.map NumberedMessage.message)
    have counted : (messages.map NumberedMessage.message).countP
        (fun message => selects topicFilter message.channel.topic) = info.countOn topicFilter := by
      rw [describes.countOn consistent, List.countP_map]
      rfl
    rw [counted] at bound whole
    constructor
    · intro session turns
      rcases bagPlay_events opened topicFilter turns with nothing | looped
      · rw [nothing]
        exact Nat.zero_le _
      · have begun : putsOf (playLoop profile fbs encodingForTopic f64 rate topicFilter
            (meeting turns ((messages.map NumberedMessage.message).map .ok))).2 <+:
            (readSelected profile fbs topicFilter
              ((messages.map NumberedMessage.message).map .ok)).1.map (·.hostPut encodingForTopic) :=
          playLoop_puts _ turns
        have shorter := begun.length_le
        rw [List.length_map] at shorter
        rw [looped]
        exact Nat.le_trans shorter bound
    · intro sleeps played events plays
      obtain ⟨-, ends⟩ := playLoop_clear profile fbs encodingForTopic topicFilter
        (sleeps _ opened)
      have profiled : profileMetadata names bag.file.records = .ok info.profile := describes.profile
      unfold bagPlay at plays
      by_cases refused : f64.le rate f64.zero = true
      · rw [if_pos refused] at plays
        cases plays
      · rw [if_neg refused] at plays
        simp only [profiled, opened] at plays
        rw [plays] at ends
        cases clean : (readSelected profile fbs topicFilter
            ((messages.map NumberedMessage.message).map .ok)).2 with
        | some error =>
            rw [clean] at ends
            cases ends
        | none =>
            rw [clean] at ends
            exact (Except.ok.inj ends).trans (whole clean)

/-! ## What was recorded -/

section

variable {profile : McapProfile} {fbs : SynapseFbs} {message : McapMessage} {sample : BagSample}

end

/-- The messages of `spacedFile` with the ids of two channels. -/
def spacedMessages : List NumberedMessage :=
  [⟨attitudeMessage 100 1, 1, 1⟩,
    ⟨{ attitudeMessage 150 2 with channel := { (attitudeMessage 150 2).channel with
      topic := str "b/att" } }, 2, 1⟩,
    ⟨attitudeMessage 220 3, 1, 1⟩]

def spacedBag : NumberedBag := ⟨.ok sampleRecords, .ok (spacedMessages.map .ok)⟩

theorem spacedBag_consistent : spacedBag.Consistent :=
  consistent_of_messages (by decide)

/-- Two messages on the first channel, which are played. -/
theorem bag_info_counts_what_plays_spaced :
    ∃ info, readInfo sampleNames (.ok spacedBag) = .ok info ∧ info.countOn none = 3 ∧
      info.countOn (some (str "a/att")) = 2 := by
  obtain ⟨profile, profiled⟩ : ∃ profile, profileMetadata sampleNames (.ok sampleRecords) =
      .ok profile := ⟨_, rfl⟩
  have read : spacedBag.messages = .ok (spacedMessages.map .ok) := rfl
  have describes := foldl_add_describes read (by decide) profiled
  obtain ⟨all, plays⟩ := bag_info_counts_what_plays synapseProfile recordFbs TopicInfo.contract
    sampleNames spacedBag spacedBag_consistent _ (readInfo_iff.mpr ⟨_, describes⟩)
  refine ⟨_, readInfo_iff.mpr ⟨_, describes⟩, all.trans describes.counted, ?_⟩
  have played := (plays (some (str "a/att")) fractionF64 (2, 1)).2
    (fun items _ => (fractionF64_playable two_pos).sleepsThrough items) 2
    [.put (attitudePut 1), .sleep 60, .put (attitudePut 3)] (by decide)
  exact played.symm

end Csyn
