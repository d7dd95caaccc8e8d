import FreezeAuthority.Code.Crates
import FreezeAuthority.Lib.Window

/-!
# What the crates outside this repository do

The documented behaviour that the library relies on, as laws on the parameter. An order
between two failures of one check is not part of it.
-/

namespace FreezeAuthority

variable [Lez]

/-- The chain state behind a candidate: a signature of an owned account, or a deployed PDA. -/
def AuthorityCandidate.Evidence [Crates] (c : AuthorityCandidate) (a : AccountWithMetadata)
    (h : AccountId) : Prop :=
  a.account_id = h ∧ a.account.program_owner ≠ .default ∧
  match c with
  | .Signer => a.is_authorized = true
  | .Pda program_id seed => Crates.for_public_pda program_id ⟨seed⟩ = h ∧ a.account ≠ .default

class LawfulCrates [Crates] : Prop where
  -- `AuthorityCandidate`
  validate_sound (c : AuthorityCandidate) (a : AccountWithMetadata) (h : AccountId) :
    Crates.validate c a = .ok h → c.Evidence a h
  validate_complete (c : AuthorityCandidate) (a : AccountWithMetadata) (h : AccountId) :
    c.Evidence a h → h ≠ .default → Crates.validate c a = .ok h
  validate_error (c : AuthorityCandidate) (a : AccountWithMetadata) (e : AuthorityError) :
    Crates.validate c a = .error e →
      e ∈ [.InvalidCandidate, .UndeployedPda, .CandidateMismatch, .UnownedSigner]
  -- `AuthoritySlot`
  slot_initialize_eq (id : AccountId) : Crates.slot_initialize id =
    if id = .default then .error .InvalidCandidate else .ok ⟨id, .default⟩
  slot_assert_ok_iff (s : AuthoritySlot) (a : AccountWithMetadata) :
    Crates.slot_assert s a = .ok () ↔
      s.holder ≠ .default ∧ a.account_id = s.holder ∧ a.is_authorized = true
  slot_assert_error (s : AuthoritySlot) (a : AccountWithMetadata) (e : AuthorityError) :
    Crates.slot_assert s a = .error e → e ∈ [.NotHolder, .Renounced, .MissingSignature]
  slot_transfer_to_on (id : AccountId) (s : AuthoritySlot) : (Crates.slot_transfer_to id).on s =
    if id = .default then .error .InvalidCandidate else .ok ⟨id, .default⟩
  slot_renounce_eq (s : AuthoritySlot) : Crates.slot_renounce s = .vacant
  slot_nominate_eq (s : AuthoritySlot) (id : AccountId) :
    Crates.slot_nominate s id = { s with nominee := id }
  slot_accept_ok_iff (a : AccountWithMetadata) (s s' : AuthoritySlot) :
    (Crates.slot_accept a).on s = .ok s' ↔
      (s.nominee ≠ .default ∧ a.account_id = s.nominee ∧ a.is_authorized = true ∧
        a.account.program_owner ≠ .default) ∧ s' = ⟨s.nominee, .default⟩
  slot_accept_error (a : AccountWithMetadata) (s : AuthoritySlot) (e : AuthorityError) :
    (Crates.slot_accept a).on s = .error e →
      e ∈ [.NoNomination, .NotNominee, .MissingSignature, .UnownedSigner]
  slot_read_at_of_fits (d : List UInt8) (o : Nat) (h : o + AuthoritySlot.ENCODED_LEN ≤ d.length) :
    ∃ s, Crates.slot_read_at d o = .ok s ∧ Window.read d o AuthoritySlot.ENCODED_LEN = s.bytes
  slot_read_at_of_short (d : List UInt8) (o : Nat) (h : d.length < o + AuthoritySlot.ENCODED_LEN) :
    Crates.slot_read_at d o = .error .SlotOutOfBounds
  slot_write_at_of_fits (s : AuthoritySlot) (d : List UInt8) (o : Nat)
    (h : o + AuthoritySlot.ENCODED_LEN ≤ d.length) :
    (Crates.slot_write_at s o).call d = (.ok (), Window.write d o s.bytes)
  slot_write_at_of_short (s : AuthoritySlot) (d : List UInt8) (o : Nat)
    (h : d.length < o + AuthoritySlot.ENCODED_LEN) :
    (Crates.slot_write_at s o).call d = (.error .SlotOutOfBounds, d)
  -- `AdminConfig`
  admin_from_account_at_window (x y : AccountWithMetadata) (a b : Nat)
    (hx : a + AuthoritySlot.ENCODED_LEN ≤ x.account.data.bytes.length)
    (hy : b + AuthoritySlot.ENCODED_LEN ≤ y.account.data.bytes.length)
    (h : Window.read x.account.data.bytes a AuthoritySlot.ENCODED_LEN =
      Window.read y.account.data.bytes b AuthoritySlot.ENCODED_LEN) :
    Crates.admin_from_account_at x a = Crates.admin_from_account_at y b
  admin_from_account_at_empty (x : AccountWithMetadata) (a : Nat) (h : x.account.data.bytes = []) :
    Crates.admin_from_account_at x a = .error .NotInitialized
  assert_admin_ok_iff (a : Crates.AdminConfig) (signer : AccountWithMetadata) :
    Crates.assert_admin a signer = .ok () ↔
      Crates.admin a ≠ .default ∧ signer.account_id = Crates.admin a ∧ signer.is_authorized = true
  require_admin_ok_iff (admin_config caller : AccountWithMetadata) :
    Crates.require_admin admin_config caller = .ok () ↔
      ∃ a, Crates.admin_from_account_at admin_config 0 = .ok a ∧ Crates.assert_admin a caller = .ok ()
  admin_error_code (e : AdminError) :
    ∃ code message, Crates.admin_error_to_spel e = .Custom code message ∧ code < 200
  -- `borsh`
  config_to_vec_eq (c : FreezeConfig) :
    Crates.config_to_vec c = some (c.slot.bytes ++ [c.is_frozen.toUInt8])
  config_try_from_slice_iff (d : List UInt8) (c : FreezeConfig) :
    Crates.config_try_from_slice d = some c ↔ d = c.slot.bytes ++ [c.is_frozen.toUInt8]
  state_to_vec_eq (s : FrozenAccountState) : Crates.state_to_vec s = some [s.is_frozen.toUInt8]
  state_from_slice_iff (d : List UInt8) (s : FrozenAccountState) :
    Crates.state_from_slice d = some s ↔ d = [s.is_frozen.toUInt8]
  -- The SPEL framework
  account_init_ok_iff (a : AccountWithMetadata) : Crates.account_init a = .ok () ↔ a.account = .default
  pda_from_seeds_claims (seeds : List Bytes32) : ∃ claim, Crates.pda_from_seeds seeds = .Claimed claim

end FreezeAuthority
