import Csyn.ContractChecked
import Csyn.ZenohPut

set_option autoImplicit false

/- The contract of command replies. `query_handler` builds it after the handler ran, and unlike
`zenoh_put` it goes on when that fails. Where it succeeds, `z_query_reply` is given the address of an
encoding whose block has ended; `zenoh_put` has its encoding in the block of the whole function. -/
namespace Csyn

/-- The contract requests for a command have to name. -/
def SynapseCommandInfo.requestContract (command : SynapseCommandInfo) : Option Str :=
  completeContract (command.requestEncoding == some (str "struct")) command.requestType
    command.requestSchemaHash

/-- The contract its replies are to carry. -/
def SynapseCommandInfo.replyContract (command : SynapseCommandInfo) : Option Str :=
  completeContract (command.replyEncoding == some (str "struct")) command.replyType
    command.replySchemaHash

/-- Where the request contract of a command passes the length test, it is complete. -/
theorem commandContract_request (command : SynapseCommandInfo) :
    usableContract (commandContract command false csynValueContractMax) =
      command.requestContract := by
  unfold SynapseCommandInfo.requestContract commandContract
  dsimp only [Bool.false_eq_true, ↓reduceIte]
  cases command.requestType with
  | none => rfl
  | some type =>
      cases command.requestSchemaHash with
      | none => rfl
      | some hash => exact (completeContract_format _ _ _).symm

/-- So is the reply contract. -/
theorem commandContract_reply (command : SynapseCommandInfo) :
    usableContract (commandContract command true csynValueContractMax) =
      command.replyContract := by
  unfold SynapseCommandInfo.replyContract commandContract
  dsimp only [↓reduceIte]
  cases command.replyType with
  | none => rfl
  | some type =>
      cases command.replySchemaHash with
      | none => rfl
      | some hash => exact (completeContract_format _ _ _).symm

section

variable {config : Kconfig} {handler : List UInt8 → ServiceAnswer} {copies : Bool}
  {encodes : Str → Bool} {service : CsynQueryable} {command : SynapseCommandInfo}
  {query : ZQuery} {now : Int}

/-- A contract that is complete and can be encoded was in the block that has ended. -/
theorem replyEncoding_bound (bound : service.command = some command) :
    replyEncoding service encodes =
      ((command.replyContract.filter encodes).map .ended).getD .null := by
  unfold replyEncoding
  rw [bound, ← commandContract_reply]
  unfold usableContract
  dsimp only
  by_cases usable : 0 < (commandContract command true csynValueContractMax).1 ∧
      (commandContract command true csynValueContractMax).1 < csynValueContractMax
  · rw [if_pos usable, Option.filter_some]
    simp only [usable, true_and]
    by_cases encoded : encodes (commandContract command true csynValueContractMax).2 = true
    · rw [if_pos encoded, if_pos encoded]
      rfl
    · rw [if_neg encoded, if_neg encoded]
      rfl
  · rw [if_neg usable, if_neg (fun all => usable ⟨all.1, all.2.1⟩)]
    rfl

/-- No request passes without a request contract. -/
theorem queryContractMatches_bound (bound : service.command = some command)
    (matched : (queryContractMatches service query now).1 = true) :
    command.requestContract.isSome := by
  unfold queryContractMatches at matched
  rw [bound] at matched
  dsimp only at matched
  rw [← commandContract_request]
  unfold usableContract
  unfold checkContract at matched
  by_cases usable : 0 < (commandContract command false csynValueContractMax).1 ∧
      (commandContract command false csynValueContractMax).1 < csynValueContractMax
  · rw [if_pos usable]
    rfl
  · rw [if_neg usable] at matched
    cases matched

/-- A request that names its contract bare passes. -/
theorem queryContractMatches_bare {contract : Str} (bound : service.command = some command)
    (known : command.requestContract = some contract) (payload : ZBytes) :
    queryContractMatches service ⟨some contract, payload⟩ now = (true, service) := by
  obtain ⟨type, hash, typed, hashed, rfl, fits⟩ := completeContract_some known
  have written : commandContract command false csynValueContractMax =
      snprintf csynValueContractMax
        (contractText (command.requestEncoding == some (str "struct")) type hash) := by
    unfold commandContract
    dsimp only [Bool.false_eq_true, ↓reduceIte]
    rw [typed, hashed]
    rfl
  unfold queryContractMatches
  rw [bound]
  dsimp only
  rw [written]
  apply if_pos
  apply (checkContract_iff _ _ _ _).mpr
  exact ⟨fits, _, rfl, [], List.mem_cons_self, rfl⟩

/-- A reply is sent only for a request that passed, stamped as `replyEncoding` says. -/
theorem queryHandler_replies {reply : QueryReply}
    (sent : (queryHandler config handler copies encodes service query now).reply = some reply) :
    (queryContractMatches service query now).1 = true ∧
      ∃ after : CsynQueryable, (queryContractMatches service query now).2 = after ∧
        reply.encoding = replyEncoding after encodes := by
  unfold queryHandler at sent
  split at sent
  · cases sent
  · rename_i after matched
    rw [matched]
    refine ⟨rfl, after, rfl, ?_⟩
    split at sent
    · cases sent
    · dsimp only at sent
      split at sent
      · cases sent
      · split at sent
        · cases sent
        · split at sent
          · cases sent
            rfl
          · cases sent

end

/-- Whatever is asked and answered, a reply carries the complete reply contract. `residue` is what
is left of an encoding after its block. -/
def CarriesContract (config : Kconfig) (encodes : Str → Bool) (residue : Str → Option Str)
    (service : CsynQueryable) (command : SynapseCommandInfo) : Prop :=
  ∀ handler copies query now reply,
    (queryHandler config handler copies encodes service query now).reply = some reply →
      ∃ contract, command.replyContract = some contract ∧
        reply.encoding.read residue = some contract

/-- It does so whatever a read after the end of the block gives. -/
def RepliesCarryContract (config : Kconfig) (encodes : Str → Bool) (service : CsynQueryable)
    (command : SynapseCommandInfo) : Prop :=
  ∀ residue, CarriesContract config encodes residue service command

/-- The reply contract can be built and encoded. -/
def SynapseCommandInfo.Stampable (encodes : Str → Bool) (command : SynapseCommandInfo) : Prop :=
  ∃ contract, command.replyContract = some contract ∧ encodes contract = true

/-- A handler that accepts every request with an empty reply. -/
def acknowledge (_ : List UInt8) : ServiceAnswer := ⟨true, [], 0⟩

/-- A command whose request contract can be built gets replies, also without their contract. -/
theorem queryHandler_acknowledge {contract : Str} {service : CsynQueryable}
    {command : SynapseCommandInfo} (config : Kconfig) (encodes : Str → Bool) (now : Int)
    (bound : service.command = some command) (known : command.requestContract = some contract) :
    (queryHandler config acknowledge true encodes service ⟨some contract, ⟨0, []⟩⟩ now).reply =
      some ⟨[], replyEncoding service encodes⟩ := by
  unfold queryHandler
  rw [queryContractMatches_bare bound known]
  rfl

/-- Where the storage keeps the encoding after its block, replies carry the contract if and only if
it can be built and encoded, or no request can name the request contract. -/
theorem carriesContract_kept_iff (config : Kconfig) (encodes : Str → Bool)
    (service : CsynQueryable) (command : SynapseCommandInfo)
    (bound : service.command = some command) :
    CarriesContract config encodes some service command ↔
      command.Stampable encodes ∨ command.requestContract = none := by
  constructor
  · intro carry
    cases known : command.requestContract with
    | none => exact Or.inr rfl
    | some request =>
        apply Or.inl
        obtain ⟨contract, built, stamped⟩ :=
          carry _ _ _ 0 _ (queryHandler_acknowledge config encodes 0 bound known)
        refine ⟨contract, built, ?_⟩
        rw [replyEncoding_bound bound, built, Option.filter_some] at stamped
        split at stamped
        · assumption
        · cases stamped
  · intro condition handler copies query now reply sent
    obtain ⟨matched, after, kept, stamped⟩ := queryHandler_replies sent
    have bound' : after.command = some command := by
      rw [← kept, queryContractMatches_command, bound]
    rcases condition with ⟨contract, built, encoded⟩ | unrequested
    · refine ⟨contract, built, ?_⟩
      rw [stamped, replyEncoding_bound bound', built, Option.filter_some, if_pos encoded]
      rfl
    · have requested := queryContractMatches_bound bound matched
      rw [unrequested] at requested
      cases requested

/-- Where a read after the block gives nothing, no reply carries a contract. -/
theorem OptionsEncoding.read_lost (encoding : OptionsEncoding) :
    encoding.read (fun _ => none) = none := by
  cases encoding with
  | null => rfl
  | ended held => rfl

/-- Replies of a service bound to a command are certain to carry the complete reply contract if and
only if none is sent, because no request can name the request contract. -/
theorem command_replies_carry_contract_iff (config : Kconfig) (encodes : Str → Bool)
    (service : CsynQueryable) (command : SynapseCommandInfo)
    (bound : service.command = some command) :
    RepliesCarryContract config encodes service command ↔ command.requestContract = none := by
  constructor
  · intro carry
    cases known : command.requestContract with
    | none => rfl
    | some request =>
        obtain ⟨contract, -, stamped⟩ := carry (fun _ => none) _ _ _ 0 _
          (queryHandler_acknowledge config encodes 0 bound known)
        rw [OptionsEncoding.read_lost] at stamped
        cases stamped
  · intro unrequested residue handler copies query now reply sent
    obtain ⟨matched, -⟩ := queryHandler_replies sent
    have requested := queryContractMatches_bound bound matched
    rw [unrequested] at requested
    cases requested

/-- The command to arm, with its two contracts. -/
def armCommand : SynapseCommandInfo where
  name := str "arm"
  requestEncoding := some (str "struct")
  replyEncoding := some (str "struct")
  requestType := some (str "synapse.command.ArmRequest")
  replyType := some (str "synapse.command.ArmReply")
  requestSchemaHash := some (str "00112233445566778899aabbccddeeff")
  replySchemaHash := some (str "ffeeddccbbaa99887766554433221100")

def armService : CsynQueryable := ⟨str "cmd/arm", some armCommand, 0⟩

/-- A command whose requests have no type: no request passes. -/
def untypedCommand : SynapseCommandInfo := { armCommand with requestType := none }

theorem command_replies_carry_contract_untyped :
    RepliesCarryContract .default (fun _ => true) ⟨str "cmd/arm", some untypedCommand, 0⟩
      untypedCommand :=
  (command_replies_carry_contract_iff .default (fun _ => true)
    ⟨str "cmd/arm", some untypedCommand, 0⟩ untypedCommand rfl).mpr rfl

def armRequestContract : Str :=
  contractText true (str "synapse.command.ArmRequest") (str "00112233445566778899aabbccddeeff")

def armReplyContract : Str :=
  contractText true (str "synapse.command.ArmReply") (str "ffeeddccbbaa99887766554433221100")

/-- Where the encoding cannot be allocated, the reply is sent without one; where it can, it is read
after the end of its block. -/
theorem command_reply_unstamped :
    (queryHandler .default acknowledge true (fun _ => false) armService
        ⟨some armRequestContract, ⟨0, []⟩⟩ 0).reply = some ⟨[], .null⟩ ∧
      (queryHandler .default acknowledge true (fun _ => true) armService
        ⟨some armRequestContract, ⟨0, []⟩⟩ 0).reply = some ⟨[], .ended armReplyContract⟩ ∧
      (∀ residue, ¬ CarriesContract .default (fun _ => false) residue armService armCommand) ∧
      ¬ RepliesCarryContract .default (fun _ => true) armService armCommand := by
  have known : armCommand.requestContract = some armRequestContract := rfl
  have bound : armService.command = some armCommand := rfl
  have unstamped := queryHandler_acknowledge .default (fun _ => false) 0 bound known
  have ended := queryHandler_acknowledge .default (fun _ => true) 0 bound known
  refine ⟨unstamped, ended, ?_, ?_⟩
  · intro residue carry
    obtain ⟨contract, -, stamped⟩ := carry _ _ _ _ _ unstamped
    cases stamped
  · intro carry
    obtain ⟨contract, -, stamped⟩ := carry (fun _ => none) _ _ _ _ _ ended
    cases stamped

end Csyn
