import FreezeAuthority.Code.Config

/-! # `frozen_account.rs` -/

namespace FreezeAuthority

variable [Lez] [Crates]

namespace FrozenAccountState

def from_data_or_default (data : List UInt8) : Except FreezeError FrozenAccountState :=
  if data.isEmpty then .ok .default
  else match Crates.state_from_slice data with
    | some state => .ok state
    | none => .error .DecodingFailed

def from_account (account : AccountWithMetadata) : Except FreezeError FrozenAccountState :=
  from_data_or_default account.account.data.bytes

def encode (self : FrozenAccountState) : Except FreezeError (List UInt8) :=
  match Crates.state_to_vec self with
  | some bytes => .ok bytes
  | none => .error .EncodingFailed

def write_to (self : FrozenAccountState) : Borrow AccountWithMetadata FreezeError Unit := do
  let bytes ← .attempt self.encode
  FreezeConfig.assignData bytes

def set_is_frozen (authority_state : FreezeConfig) (caller : AccountWithMetadata) (state : Bool) :
    Borrow FrozenAccountState FreezeError Unit := do
  .attempt (authority_state.assert caller)
  modify fun self => { self with is_frozen := state }

def perform_freeze (authority_state : FreezeConfig) (current : AccountWithMetadata) :
    Borrow AccountWithMetadata FreezeError Unit := do
  let state ← .attempt (from_account (← get))
  let state ← .attempt ((set_is_frozen authority_state current true).on state)
  state.write_to

def perform_release (authority_state : FreezeConfig) (current : AccountWithMetadata) :
    Borrow AccountWithMetadata FreezeError Unit := do
  .attempt (authority_state.assert current)
  let state ← .attempt (from_account (← get))
  if !state.is_frozen then throw .AccountNotFrozen
  let state ← .attempt ((set_is_frozen authority_state current false).on state)
  state.write_to

end FrozenAccountState

/-! ## The gate that `require_not_frozen` puts before a function -/

/-- The prologue, with the accounts and the offset its arguments name. -/
def gate (freeze_config freeze_account : AccountWithMetadata) (offset : Nat) : Except SpelError Unit := do
  -- Program-wide: strict decode. A missing config is `NotInitialized`.
  let cfg ← fromFreeze (FreezeConfig.from_account_at freeze_config offset)
  if cfg.is_frozen then throw FreezeError.Frozen.toSpelError
  -- Per account: lenient decode. A missing marker is not frozen.
  let acc ← fromFreeze (FrozenAccountState.from_data_or_default freeze_account.account.data.bytes)
  if acc.is_frozen then throw FreezeError.AccountFrozen.toSpelError

def require_not_frozen {α : Type} (freeze_config freeze_account : AccountWithMetadata) (offset : Nat)
    (body : Except SpelError α) : Except SpelError α := do
  gate freeze_config freeze_account offset
  body

end FreezeAuthority
