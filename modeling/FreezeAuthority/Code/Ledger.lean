import FreezeAuthority.Lib.Machine
import FreezeAuthority.Code.Instructions
import Mathlib.Logic.Function.Basic

/-!
# A program with the instructions, on its accounts

The dispatcher hands the accounts to an instruction in the order of its parameters, and
LEZ matches the post-states with them by position. A claim makes the program the owner.
No instruction reads a nonce, so the nonce of a signer is left as it is. Each of the nine instructions
checks the signature of its caller, so what the framework checks of a `signer` parameter before it
refuses nothing more.
-/

namespace FreezeAuthority

variable [Lez] [Crates]

/-- A call of one management instruction, with everything its function takes. -/
inductive Instruction
  | freeze_initialize (admin_config caller freeze_config : AccountWithMetadata)
  | freeze_authority_transfer (admin_config freeze_config caller new_account : AccountWithMetadata)
      (candidate : FreezeCandidate) (offset admin_offset : Nat)
  | freeze_authority_renounce (admin_config freeze_config caller : AccountWithMetadata)
      (offset admin_offset : Nat)
  | freeze_program (freeze_config freeze_account caller : AccountWithMetadata) (offset : Nat)
  | freeze_program_release (freeze_config caller : AccountWithMetadata) (offset : Nat)
  | freeze_account (freeze_config frozen_pda caller : AccountWithMetadata) (target : Bytes32)
      (offset : Nat)
  | freeze_account_release (freeze_config frozen_pda caller : AccountWithMetadata) (target : Bytes32)
      (offset : Nat)
  | freeze_authority_nominate (admin_config freeze_config caller : AccountWithMetadata)
      (new_freeze_authority : Bytes32) (offset admin_offset : Nat)
  | freeze_authority_accept (freeze_config caller : AccountWithMetadata) (offset : Nat)

inductive Role
  | admin_config
  | freeze_config
  | marker (target : Bytes32)
  | caller
  | new_account
deriving DecidableEq

inductive Mode
  | auto
  | manual
deriving DecidableEq

namespace Instruction

def invoke : Instruction → SpelResult
  | freeze_initialize a c f => FreezeAuthority.freeze_initialize a c f
  | .freeze_authority_transfer a f c n candidate offset admin_offset =>
    FreezeAuthority.freeze_authority_transfer a f c n candidate offset admin_offset
  | .freeze_authority_renounce a f c offset admin_offset =>
    FreezeAuthority.freeze_authority_renounce a f c offset admin_offset
  | .freeze_program f m c offset => FreezeAuthority.freeze_program f m c offset
  | .freeze_program_release f c offset => FreezeAuthority.freeze_program_release f c offset
  | .freeze_account f m c target offset => FreezeAuthority.freeze_account f m c target offset
  | .freeze_account_release f m c target offset =>
    FreezeAuthority.freeze_account_release f m c target offset
  | .freeze_authority_nominate a f c next offset admin_offset =>
    FreezeAuthority.freeze_authority_nominate a f c next offset admin_offset
  | .freeze_authority_accept f c offset => FreezeAuthority.freeze_authority_accept f c offset

/-- The account parameters, in declared order. -/
def accounts : Instruction → List (Role × AccountWithMetadata)
  | freeze_initialize a c f => [(.admin_config, a), (.caller, c), (.freeze_config, f)]
  | .freeze_authority_transfer a f c n _ _ _ =>
    [(.admin_config, a), (.freeze_config, f), (.caller, c), (.new_account, n)]
  | .freeze_authority_renounce a f c _ _ => [(.admin_config, a), (.freeze_config, f), (.caller, c)]
  -- The marker that `freeze_program` declares is the one of its caller.
  | .freeze_program f m c _ => [(.freeze_config, f), (.marker c.account_id.value, m), (.caller, c)]
  | .freeze_program_release f c _ => [(.freeze_config, f), (.caller, c)]
  | .freeze_account f m c target _ => [(.freeze_config, f), (.marker target, m), (.caller, c)]
  | .freeze_account_release f m c target _ => [(.freeze_config, f), (.marker target, m), (.caller, c)]
  | .freeze_authority_nominate a f c _ _ _ => [(.admin_config, a), (.freeze_config, f), (.caller, c)]
  | .freeze_authority_accept f c _ => [(.freeze_config, f), (.caller, c)]

/-- The accounts of the transaction: an account with both config roles is listed once. -/
def transactionAccounts (i : Instruction) : List (Role × AccountWithMetadata) :=
  match i.accounts with
  | (.admin_config, a) :: (.freeze_config, f) :: rest =>
    if a.account_id = f.account_id then (.freeze_config, f) :: rest
    else (.admin_config, a) :: (.freeze_config, f) :: rest
  | accounts => accounts

def checkInit : Instruction → Except SpelError Unit
  | freeze_initialize _ _ freeze_config => Crates.account_init freeze_config
  | _ => .ok ()

/-- In auto mode the gate is in front of every function without `#[freeze_exempt]`. Among the
nine that is `freeze_program` alone. -/
def autoWrap (i : Instruction) : SpelResult :=
  match i with
  | .freeze_program f m _ offset => require_not_frozen f m offset i.invoke
  | _ => i.invoke

def dispatch (mode : Mode) (i : Instruction) : SpelResult := do
  i.checkInit
  match mode with
  | .auto => i.autoWrap
  | .manual => i.invoke

end Instruction

/-! ## The accounts of the library -/

/-- What a program with the library fixes at its build. -/
structure Deployment where
  program_id : ProgramId
  deployed : program_id ≠ .default
  mode : Mode
  offset : Nat
  admin_offset : Nat

/-- The accounts the instructions write: the config, and one marker per target. -/
structure Store where
  freeze_config : AccountWithMetadata
  marker : Bytes32 → AccountWithMetadata

inductive Call
  | freeze_initialize
  | freeze_authority_transfer (new_account : AccountWithMetadata) (candidate : FreezeCandidate)
  | freeze_authority_renounce
  | freeze_program
  | freeze_program_release
  | freeze_account (target : Bytes32)
  | freeze_account_release (target : Bytes32)
  | freeze_authority_nominate (new_freeze_authority : Bytes32)
  | freeze_authority_accept

/-- A call with its signer and the admin config it finds. The library writes neither. -/
structure Tx where
  admin_config : AccountWithMetadata
  caller : AccountWithMetadata
  call : Call

def Deployment.instruction (D : Deployment) (S : Store) (tx : Tx) : Instruction :=
  match tx.call with
  | Call.freeze_initialize => Instruction.freeze_initialize tx.admin_config tx.caller S.freeze_config
  | .freeze_authority_transfer new_account candidate =>
    .freeze_authority_transfer tx.admin_config S.freeze_config tx.caller new_account candidate
      D.offset D.admin_offset
  | .freeze_authority_renounce =>
    .freeze_authority_renounce tx.admin_config S.freeze_config tx.caller D.offset D.admin_offset
  | .freeze_program =>
    .freeze_program S.freeze_config (S.marker tx.caller.account_id.value) tx.caller D.offset
  | .freeze_program_release => .freeze_program_release S.freeze_config tx.caller D.offset
  | .freeze_account target =>
    .freeze_account S.freeze_config (S.marker target) tx.caller target D.offset
  | .freeze_account_release target =>
    .freeze_account_release S.freeze_config (S.marker target) tx.caller target D.offset
  | .freeze_authority_nominate new_freeze_authority =>
    .freeze_authority_nominate tx.admin_config S.freeze_config tx.caller new_freeze_authority
      D.offset D.admin_offset
  | .freeze_authority_accept => .freeze_authority_accept S.freeze_config tx.caller D.offset

def AccountWithMetadata.land (before : AccountWithMetadata) (program_id : ProgramId)
    (post : AccountPostState) : AccountWithMetadata :=
  { before with account :=
      if post.required_claim.isSome then { post.account with program_owner := program_id }
      else post.account }

/-- The post-states of an accepted transaction, each with the account it is for. -/
def Deployment.outcome (D : Deployment) (S : Store) (tx : Tx) :
    Except SpelError (List (Role × AccountPostState)) := do
  let i := D.instruction S tx
  let out ← i.dispatch D.mode
  return (i.transactionAccounts.map (·.1)).zip out.post_states

def Deployment.put (D : Deployment) (S : Store) : Role × AccountPostState → Store
  | (.freeze_config, post) => { S with freeze_config := S.freeze_config.land D.program_id post }
  | (.marker target, post) =>
    { S with marker := Function.update S.marker target ((S.marker target).land D.program_id post) }
  | _ => S

def Deployment.step (D : Deployment) (S : Store) (tx : Tx) : Except SpelError Store := do
  let landed ← D.outcome S tx
  return landed.foldl D.put S

def Deployment.machine (D : Deployment) : Machine Store Tx SpelError := ⟨D.step⟩

def Deployment.admits (D : Deployment) (S : Store) (A : AccountId) : Except SpelError Unit :=
  gate S.freeze_config (S.marker A.value) D.offset

end FreezeAuthority
