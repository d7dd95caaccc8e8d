import FreezeAuthority.Code.Errors

/-!
# The crates outside this repository

`spel-authority`, `admin-authority`, `borsh` and the SPEL framework are not part of the
source. The model takes what the library calls in them as one parameter. What the library
relies on is in `Spec/Crates.lean`.
-/

namespace FreezeAuthority

class Crates [Lez] where
  -- `nssa_core`: the address of a PDA.
  for_public_pda : ProgramId → PdaSeed → AccountId
  -- `authority::AuthorityCandidate`
  validate : AuthorityCandidate → AccountWithMetadata → Except AuthorityError AccountId
  -- `authority::AuthoritySlot`. A `&mut self` method that cannot fail returns the new slot.
  slot_initialize : AccountId → Except AuthorityError AuthoritySlot
  slot_assert : AuthoritySlot → AccountWithMetadata → Except AuthorityError Unit
  slot_transfer_to : AccountId → Borrow AuthoritySlot AuthorityError Unit
  slot_renounce : AuthoritySlot → AuthoritySlot
  slot_nominate : AuthoritySlot → AccountId → AuthoritySlot
  slot_accept : AccountWithMetadata → Borrow AuthoritySlot AuthorityError Unit
  slot_pending : AuthoritySlot → Option AccountId
  slot_read_at : List UInt8 → Nat → Except AuthorityError AuthoritySlot
  slot_write_at : AuthoritySlot → Nat → Borrow (List UInt8) AuthorityError Unit
  -- `admin_authority`
  AdminConfig : Type
  admin : AdminConfig → AccountId
  admin_from_account_at : AccountWithMetadata → Nat → Except AdminError AdminConfig
  assert_admin : AdminConfig → AccountWithMetadata → Except AdminError Unit
  admin_error_to_spel : AdminError → SpelError
  /-- The prologue of `#[require_admin]` on an `admin_config` and a `caller`. -/
  require_admin : AccountWithMetadata → AccountWithMetadata → Except SpelError Unit
  -- The codecs that `borsh` derives, `none` for an `io::Error`.
  config_to_vec : FreezeConfig → Option (List UInt8)
  config_try_from_slice : List UInt8 → Option FreezeConfig
  state_to_vec : FrozenAccountState → Option (List UInt8)
  state_from_slice : List UInt8 → Option FrozenAccountState
  -- The SPEL framework: seeds, claims and the check of `#[account(init)]`.
  seed_from_str : String → Bytes32
  to_seed : Bytes32 → Bytes32
  pda_from_seeds : List Bytes32 → AutoClaim
  account_init : AccountWithMetadata → Except SpelError Unit

end FreezeAuthority
