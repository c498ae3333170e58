import Csyn.Lib.Delimited
import Csyn.Topic

set_option autoImplicit false

/- Value contracts: zephyr/src/csyn_zenoh.c, `value_contract`, `command_contract` and
`contract_string_matches`. -/
namespace Csyn

def einval : Int := 22

/-- `snprintf` of an already formatted text: the length it would have, or a negative number
if that is no `int`, and what fits the buffer before the NUL. -/
def snprintf (outSize : Nat) (text : Str) : Int × Str :=
  (if text.length < 2 ^ 31 then text.length else -1, text.take (outSize - 1))

/-- `CSYN_VALUE_CONTRACT_MAX` -/
def csynValueContractMax : Nat := 192

/-- The two media types of a value contract. -/
def mediaType (fixedLayout : Bool) : Str :=
  if fixedLayout then str "application/x-synapse-struct" else str "application/x-flatbuffers"

/-- `"%s;type=%s;schema=sha256-128:%s"` -/
def contractText (fixedLayout : Bool) (wireType schemaHash : Str) : Str :=
  mediaType fixedLayout ++ str ";type=" ++ wireType ++ str ";schema=sha256-128:" ++ schemaHash

/-- `value_contract`; the buffer is not written when a string is NULL. -/
def valueContract (info : SynapseTopicInfo) (outSize : Nat) : Int × Str :=
  match info.wireType, info.schemaHash with
  | some wireType, some schemaHash =>
      snprintf outSize (contractText info.fixedLayout wireType schemaHash)
  | _, _ => (-einval, [])

/-- `synapse_command_info_t`: the catalog fields the module reads. -/
structure SynapseCommandInfo where
  name : Str
  requestEncoding : Option Str
  replyEncoding : Option Str
  requestType : Option Str
  replyType : Option Str
  requestSchemaHash : Option Str
  replySchemaHash : Option Str
  deriving DecidableEq

/-- `command_contract` -/
def commandContract (command : SynapseCommandInfo) (reply : Bool) (outSize : Nat) : Int × Str :=
  let encoding := if reply then command.replyEncoding else command.requestEncoding
  let type := if reply then command.replyType else command.requestType
  let hash := if reply then command.replySchemaHash else command.requestSchemaHash
  match type, hash with
  | some type, some hash =>
      snprintf outSize (contractText (encoding == some (str "struct")) type hash)
  | _, _ => (-einval, [])

/-- `memcmp(a, b, n) == 0` on buffers of at least `n` bytes. -/
def memcmpEq (a b : Str) (n : Nat) : Bool := a.take n == b.take n

def semicolon : UInt8 := 59

def legacyPrefix : Str := str "zenoh/bytes;"

/-- `contract_string_matches` -/
def contractStringMatches (received expected : Str) (expectedLen : Nat) : Bool :=
  if received.length = expectedLen ∧ memcmpEq received expected expectedLen then true
  else if received.length = expectedLen + 1 ∧ received[0]? = some semicolon ∧
      memcmpEq (received.drop 1) expected expectedLen then true
  else
    received.length == legacyPrefix.length + expectedLen &&
      memcmpEq received legacyPrefix legacyPrefix.length &&
      memcmpEq (received.drop legacyPrefix.length) expected expectedLen

/-- The test both contract checks make: the contract fits its buffer and the encoding, when
it can be rendered at all, matches it. -/
def checkContract (expected : Int × Str) (received : Option Str) : Bool :=
  if 0 < expected.1 ∧ expected.1 < csynValueContractMax then
    match received with
    | none => false
    | some received => contractStringMatches received expected.2 expected.1.toNat
  else false

/-! What the checks accept. -/

/-- The forms in which a transport hands over an encoding. -/
def transportWrappers : List Str := [[], [semicolon], legacyPrefix]

/-- The encoding is this contract, bare or under a transport wrapper. -/
def NamesContract (encoding : Str) (fixedLayout : Bool) (wireType schemaHash : Str) : Prop :=
  ∃ wrapper ∈ transportWrappers,
    encoding = wrapper ++ contractText fixedLayout wireType schemaHash

theorem memcmpEq_full {a b : Str} (sized : a.length = b.length) :
    memcmpEq a b b.length = true ↔ a = b := by
  rw [memcmpEq, beq_iff_eq, List.take_length, ← sized, List.take_length]

theorem contractStringMatches_iff (received expected : Str) :
    contractStringMatches received expected expected.length = true ↔
      ∃ wrapper ∈ transportWrappers, received = wrapper ++ expected := by
  simp only [transportWrappers, List.mem_cons, List.not_mem_nil, or_false, exists_eq_or_imp,
    exists_eq_left, List.nil_append]
  unfold contractStringMatches
  split
  · rename_i bare
    simp only [true_iff]
    exact Or.inl ((memcmpEq_full bare.1).mp bare.2)
  · rename_i notBare
    split
    · rename_i custom
      obtain ⟨sized, marked, same⟩ := custom
      simp only [true_iff]
      obtain ⟨first, rest, rfl⟩ := List.exists_cons_of_length_eq_add_one sized
      rw [List.length_cons, Nat.add_right_cancel_iff] at sized
      rw [List.drop_one, List.tail_cons, memcmpEq_full sized] at same
      rw [List.getElem?_cons_zero, Option.some.injEq] at marked
      exact Or.inr (Or.inl (by rw [marked, same, List.singleton_append]))
    · rename_i notCustom
      constructor
      · intro legacy
        rw [Bool.and_eq_true, Bool.and_eq_true, beq_iff_eq] at legacy
        obtain ⟨⟨sized, wrapped⟩, same⟩ := legacy
        have rest : (received.drop legacyPrefix.length).length = expected.length := by
          rw [List.length_drop, sized, Nat.add_sub_cancel_left]
        rw [memcmpEq_full rest] at same
        rw [memcmpEq, beq_iff_eq, List.take_length] at wrapped
        refine Or.inr (Or.inr ?_)
        rw [← same, ← wrapped, List.length_take, sized]
        simp only [Nat.min_eq_left (Nat.le_add_right _ _), List.take_append_drop]
      · rintro (rfl | rfl | rfl)
        · exact absurd ⟨rfl, (memcmpEq_full rfl).mpr rfl⟩ notBare
        · exact absurd ⟨List.length_cons, rfl, (memcmpEq_full rfl).mpr rfl⟩ notCustom
        · rw [List.length_append, List.drop_left, beq_self_eq_true, Bool.true_and,
            Bool.and_eq_true]
          refine ⟨?_, (memcmpEq_full rfl).mpr rfl⟩
          rw [memcmpEq, beq_iff_eq, List.take_left, List.take_length]

/-- A contract is its media type, then the fields after each `;`. -/
theorem contractText_fields (fixedLayout : Bool) (wireType schemaHash : Str) :
    contractText fixedLayout wireType schemaHash =
      mediaType fixedLayout ++ semicolon :: (str "type=" ++
        (wireType ++ semicolon :: (str "schema=sha256-128:" ++ schemaHash))) := by
  have first : str ";type=" = semicolon :: str "type=" := rfl
  have second : str ";schema=sha256-128:" = semicolon :: str "schema=sha256-128:" := rfl
  simp only [contractText, first, second, List.append_assoc, List.cons_append]

theorem contractText_length_pos (fixedLayout : Bool) (wireType schemaHash : Str) :
    0 < (contractText fixedLayout wireType schemaHash).length := by
  rw [contractText_fields, List.length_append, List.length_cons]
  omega

theorem contractText_head? (fixedLayout : Bool) (wireType schemaHash : Str) :
    (contractText fixedLayout wireType schemaHash).head? = some 97 := by
  rw [contractText_fields, List.head?_append]
  cases fixedLayout <;> rfl

/-- Nothing matches a contract that does not fit its buffer. -/
theorem checkContract_iff (fixedLayout : Bool) (wireType schemaHash : Str)
    (received : Option Str) :
    checkContract (snprintf csynValueContractMax (contractText fixedLayout wireType schemaHash))
        received = true ↔
      (contractText fixedLayout wireType schemaHash).length < csynValueContractMax ∧
        ∃ encoding, received = some encoding ∧
          NamesContract encoding fixedLayout wireType schemaHash := by
  have nonempty := contractText_length_pos fixedLayout wireType schemaHash
  generalize same : contractText fixedLayout wireType schemaHash = text at nonempty
  unfold checkContract snprintf NamesContract
  rw [same]
  by_cases fits : text.length < csynValueContractMax
  · have narrow : text.length < 2 ^ 31 := Nat.lt_trans fits (by decide)
    have whole : text.take (csynValueContractMax - 1) = text :=
      List.take_of_length_le (by omega)
    simp only [if_pos narrow, whole, Int.toNat_natCast]
    rw [if_pos ⟨by omega, by omega⟩]
    cases received with
    | none => simp
    | some encoding =>
        simp only [contractStringMatches_iff, fits, true_and, Option.some.injEq, exists_eq_left']
  · have rejected : ¬ (0 < (if text.length < 2 ^ 31 then (text.length : Int) else -1) ∧
        (if text.length < 2 ^ 31 then (text.length : Int) else -1) < csynValueContractMax) := by
      split <;> omega
    rw [if_neg rejected]
    simp [fits]

theorem checkContract_missing (received : Option Str) :
    checkContract (-einval, []) received = false := by
  unfold checkContract einval
  rw [if_neg (by decide)]

theorem mediaType_clean (fixedLayout : Bool) : semicolon ∉ mediaType fixedLayout := by
  cases fixedLayout <;> decide

/-- The contract determines what it names: only `;` separates its parts. -/
theorem contractText_inj {fixedLayout fixedLayout' : Bool}
    {wireType wireType' schemaHash schemaHash' : Str} (clean : semicolon ∉ wireType)
    (clean' : semicolon ∉ wireType')
    (same : contractText fixedLayout wireType schemaHash =
      contractText fixedLayout' wireType' schemaHash') :
    fixedLayout = fixedLayout' ∧ wireType = wireType' ∧ schemaHash = schemaHash' := by
  rw [contractText_fields, contractText_fields] at same
  obtain ⟨media, rest⟩ :=
    Delimited.append_cons_inj (mediaType_clean _) (mediaType_clean _) same
  obtain ⟨type, schema⟩ := Delimited.append_cons_inj clean clean' (List.append_cancel_left rest)
  refine ⟨?_, type, List.append_cancel_left schema⟩
  revert media
  cases fixedLayout <;> cases fixedLayout' <;> decide

/-- The transport wrappers do not blur which contract an encoding names. -/
theorem NamesContract.unique {encoding : Str} {fixedLayout fixedLayout' : Bool}
    {wireType wireType' schemaHash schemaHash' : Str} (clean : semicolon ∉ wireType)
    (clean' : semicolon ∉ wireType')
    (names : NamesContract encoding fixedLayout wireType schemaHash)
    (names' : NamesContract encoding fixedLayout' wireType' schemaHash') :
    fixedLayout = fixedLayout' ∧ wireType = wireType' ∧ schemaHash = schemaHash' := by
  obtain ⟨wrapper, known, rfl⟩ := names
  obtain ⟨wrapper', known', same⟩ := names'
  -- The first byte tells the three forms apart: `a`, `;` or `z`.
  have first := congrArg List.head? same
  rw [List.head?_append, List.head?_append, contractText_head?, contractText_head?] at first
  have wrappers : wrapper = wrapper' := by
    simp only [transportWrappers, List.mem_cons, List.not_mem_nil, or_false] at known known'
    rcases known with rfl | rfl | rfl <;> rcases known' with rfl | rfl | rfl <;>
      first | rfl | exact absurd first (by decide)
  subst wrappers
  exact contractText_inj clean clean' (List.append_cancel_left same)

end Csyn
