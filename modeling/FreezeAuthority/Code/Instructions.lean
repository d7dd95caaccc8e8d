import FreezeAuthority.Code.FrozenAccount

/-!
# `lib.rs`: the nine management instructions

An account passed by value as `mut` is changed in place and ends up in the output.
-/

namespace FreezeAuthority

variable [Lez] [Crates]

/-- One post-state for a shared account, the written copy. Two for distinct accounts. -/
def post_state_pair (read written : AccountWithMetadata) : List Account :=
  if read.account_id = written.account_id then [written.account]
  else [read.account, written.account]

/-- `SpelOutput::execute` on accounts without claims. -/
def execute (accounts : List Account) : SpelOutput := ⟨accounts.map .of_account⟩

def executeClaims (accounts : List (Account × AutoClaim)) : SpelOutput :=
  ⟨accounts.map fun (account, claim) => .of_pair account claim⟩

/-- The seeds of the marker of `target`, as `freeze_account` declares them:
`pda = [literal("frozen"), arg("target")]`. -/
def frozen_pda_seeds (target : Bytes32) : List Bytes32 :=
  [Crates.seed_from_str "frozen", Crates.to_seed target]

def freeze_initialize (admin_config caller freeze_config : AccountWithMetadata) : SpelResult := do
  Crates.require_admin admin_config caller
  let freeze_config ← fromFreeze ((FreezeConfig.bootstrap .Signer caller).on freeze_config)
  return executeClaims [
    (admin_config.account, .None),
    (caller.account, .None),
    (freeze_config.account, .Claimed (.Pda ⟨Crates.seed_from_str "freeze_config"⟩))]

def freeze_authority_transfer (admin_config freeze_config caller new_account : AccountWithMetadata)
    (candidate : FreezeCandidate) (offset admin_offset : Nat) : SpelResult := do
  let admin ← (Crates.admin_from_account_at admin_config admin_offset).mapError Crates.admin_error_to_spel
  (Crates.assert_admin admin caller).mapError Crates.admin_error_to_spel
  let freeze_config ← fromFreeze
    ((FreezeConfig.perform_transfer_at offset candidate new_account).on freeze_config)
  return execute (post_state_pair admin_config freeze_config ++ [caller.account, new_account.account])

def freeze_authority_renounce (admin_config freeze_config caller : AccountWithMetadata)
    (offset admin_offset : Nat) : SpelResult := do
  let admin := (Crates.admin_from_account_at admin_config admin_offset).toOption
  let freeze_config ← fromFreeze
    ((FreezeConfig.perform_renounce_at admin offset caller).on freeze_config)
  return execute (post_state_pair admin_config freeze_config ++ [caller.account])

def freeze_program (freeze_config freeze_account caller : AccountWithMetadata) (offset : Nat) :
    SpelResult := do
  let freeze_config ← fromFreeze ((FreezeConfig.perform_freeze_at offset caller).on freeze_config)
  return execute [freeze_config.account, freeze_account.account, caller.account]

def freeze_program_release (freeze_config caller : AccountWithMetadata) (offset : Nat) : SpelResult := do
  let freeze_config ← fromFreeze ((FreezeConfig.perform_release_at offset caller).on freeze_config)
  return execute [freeze_config.account, caller.account]

def freeze_account (freeze_config frozen_pda caller : AccountWithMetadata) (target : Bytes32)
    (offset : Nat) : SpelResult := do
  let first_touch := frozen_pda.account.data.bytes.isEmpty
  let authority ← fromFreeze (FreezeConfig.from_account_at freeze_config offset)
  let frozen_pda ← fromFreeze ((FrozenAccountState.perform_freeze authority caller).on frozen_pda)
  let claim := if first_touch then
      Crates.pda_from_seeds [Crates.seed_from_str "frozen", Crates.to_seed target]
    else .None
  return executeClaims [
    (freeze_config.account, .None), (frozen_pda.account, claim), (caller.account, .None)]

def freeze_account_release (freeze_config frozen_pda caller : AccountWithMetadata) (_target : Bytes32)
    (offset : Nat) : SpelResult := do
  let authority ← fromFreeze (FreezeConfig.from_account_at freeze_config offset)
  let frozen_pda ← fromFreeze ((FrozenAccountState.perform_release authority caller).on frozen_pda)
  return execute [freeze_config.account, frozen_pda.account, caller.account]

def freeze_authority_nominate (admin_config freeze_config caller : AccountWithMetadata)
    (new_freeze_authority : Bytes32) (offset admin_offset : Nat) : SpelResult := do
  let admin := (Crates.admin_from_account_at admin_config admin_offset).toOption
  let freeze_config ← fromFreeze
    ((FreezeConfig.perform_nominate_at admin offset caller ⟨new_freeze_authority⟩).on freeze_config)
  return execute (post_state_pair admin_config freeze_config ++ [caller.account])

def freeze_authority_accept (freeze_config caller : AccountWithMetadata) (offset : Nat) : SpelResult := do
  let freeze_config ← fromFreeze ((FreezeConfig.perform_accept_at offset caller).on freeze_config)
  return execute [freeze_config.account, caller.account]

end FreezeAuthority
