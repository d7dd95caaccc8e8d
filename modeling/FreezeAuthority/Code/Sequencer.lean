import FreezeAuthority.Code.Ledger

/-!
# `lez_rules.rs`: how a sequencer lands a transaction

LEZ checks the post-states against the accounts. Then claims apply, and the nonce of every
signer goes up.
-/

namespace FreezeAuthority

/-- `nssa_core`: the checks of LEZ, and the nonce that a signature uses up. -/
class Sequencer [Lez] where
  ExecutionValidationError : Type
  validate_execution : List AccountWithMetadata → List AccountPostState → ProgramId →
    Except ExecutionValidationError Unit
  public_account_nonce_increment : BitVec 128 → BitVec 128

variable [Lez] [Sequencer]

/-- The account after the transaction that it signed, or did not sign. -/
def AccountWithMetadata.bump (a : AccountWithMetadata) : AccountWithMetadata :=
  if a.is_authorized then
    { a with account :=
        { a.account with nonce := Sequencer.public_account_nonce_increment a.account.nonce } }
  else a

def land (pre : List AccountWithMetadata) (posts : List AccountPostState) (program : ProgramId) :
    Except Sequencer.ExecutionValidationError (List AccountWithMetadata) := do
  Sequencer.validate_execution pre posts program
  return (pre.zip posts).map fun (before, post) => (before.land program post).bump

/-! ## The chain -/

/-- Every account, by its id. -/
abbrev Chain := AccountId → Account

def Chain.put (c : Chain) (a : AccountWithMetadata) : Chain := Function.update c a.account_id a.account

/-- A program with the library, and where its accounts are. An address is a hash, so only the
addresses in use are known to differ. -/
structure Site extends Deployment where
  admin_config : AccountId
  freeze_config : AccountId
  marker : Bytes32 → AccountId
  targets : List Bytes32
  marker_inj : ∀ t ∈ targets, ∀ t' ∈ targets, marker t = marker t' → t = t'
  marker_ne : ∀ t ∈ targets, marker t ≠ freeze_config

namespace Site

/-- The accounts of the library as the instructions see them. No key signs for a PDA. -/
def store (P : Site) (c : Chain) : Store where
  freeze_config := ⟨c P.freeze_config, false, P.freeze_config⟩
  marker t := if t ∈ P.targets then ⟨c (P.marker t), false, P.marker t⟩ else ⟨.default, false, P.marker t⟩

/-- The targets whose markers a call by `caller` takes. -/
def takes (caller : AccountId) : Call → List Bytes32
  | .freeze_program => [caller.value]
  | .freeze_account target => [target]
  | .freeze_account_release target => [target]
  | _ => []

/-- A transaction as it is sent. It names accounts, and the chain has what is in them. A program that
embeds the config has no `freeze_initialize`. -/
structure Submission (P : Site) where
  signed : AccountId → Bool
  caller : AccountId
  call : Call
  dedicated : call = Call.freeze_initialize → P.offset = 0
  admin_unsigned : signed P.admin_config = false
  config_unsigned : signed P.freeze_config = false
  marker_unsigned : ∀ t ∈ P.targets, signed (P.marker t) = false
  in_use : ∀ t ∈ takes caller call, t ∈ P.targets

variable {P : Site}

def Submission.view (sub : P.Submission) (c : Chain) (id : AccountId) : AccountWithMetadata :=
  ⟨c id, sub.signed id, id⟩

/-- The call, with the new account as the chain has it. -/
def Submission.load (sub : P.Submission) (c : Chain) : Call :=
  match sub.call with
  | .freeze_authority_transfer new_account candidate =>
    .freeze_authority_transfer (sub.view c new_account.account_id) candidate
  | call => call

def Submission.tx (sub : P.Submission) (c : Chain) : Tx :=
  ⟨sub.view c P.admin_config, sub.view c sub.caller, sub.load c⟩

def Submission.instruction (sub : P.Submission) (c : Chain) : Instruction :=
  P.toDeployment.instruction (P.store c) (sub.tx c)

/-- The program refuses, or LEZ does. -/
def Submission.submit [Crates] (sub : P.Submission) (c : Chain) :
    Except (SpelError ⊕ Sequencer.ExecutionValidationError) Chain := do
  let i := sub.instruction c
  let out ← (i.dispatch P.mode).mapError .inl
  let after ← (land (i.transactionAccounts.map (·.2)) out.post_states P.program_id).mapError .inr
  return after.foldl Chain.put c

end Site

end FreezeAuthority
