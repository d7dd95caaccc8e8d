import FreezeAuthority.Code.Macros
import FreezeAuthority.Spec.Runs

/-!
# A reference for the crates outside this repository

The laws of `Spec/Crates.lean` have a model. The address of a PDA is a hash on the chain. Here it
is its seed.
-/

namespace FreezeAuthority.Reference

scoped instance : Lez where
  dataMaxLength := 102400
  usizeBits := 32
  addressable := by decide

scoped instance : Macros.Host where
  usizeBits := 64

/-! ## `spel-authority` -/

def validate (c : AuthorityCandidate) (a : AccountWithMetadata) : Except AuthorityError AccountId := do
  match c with
  | .Signer => if !a.is_authorized then throw .InvalidCandidate
  | .Pda _ seed =>
    if a.account_id ≠ ⟨seed⟩ then throw .CandidateMismatch
    if a.account = .default then throw .UndeployedPda
  if a.account_id = .default then throw .InvalidCandidate
  if a.account.program_owner = .default then throw .UnownedSigner
  return a.account_id

def slot_assert (s : AuthoritySlot) (a : AccountWithMetadata) : Except AuthorityError Unit := do
  if s.holder = .default then throw .Renounced
  if a.account_id ≠ s.holder then throw .NotHolder
  if !a.is_authorized then throw .MissingSignature
  return ()

def slot_transfer_to (id : AccountId) : Borrow AuthoritySlot AuthorityError Unit :=
  if id = .default then throw .InvalidCandidate else set (⟨id, .default⟩ : AuthoritySlot)

def acceptable (s : AuthoritySlot) (a : AccountWithMetadata) : Except AuthorityError Unit := do
  if s.nominee = .default then throw .NoNomination
  if a.account_id ≠ s.nominee then throw .NotNominee
  if !a.is_authorized then throw .MissingSignature
  if a.account.program_owner = .default then throw .UnownedSigner
  return ()

def slot_accept (a : AccountWithMetadata) : Borrow AuthoritySlot AuthorityError Unit := do
  let s ← get
  .attempt (acceptable s a)
  set (⟨s.nominee, .default⟩ : AuthoritySlot)

def id_at (d : List UInt8) (o : Nat) (h : o + 32 ≤ d.length) : AccountId :=
  ⟨⟨Window.read d o 32, Window.length_read d o 32 h⟩⟩

def slot_read_at (d : List UInt8) (o : Nat) : Except AuthorityError AuthoritySlot :=
  if h : o + AuthoritySlot.ENCODED_LEN ≤ d.length then
    .ok ⟨id_at d o (by unfold AuthoritySlot.ENCODED_LEN at h; omega), id_at d (o + 32) h⟩
  else .error .SlotOutOfBounds

def slot_write_at (s : AuthoritySlot) (o : Nat) : Borrow (List UInt8) AuthorityError Unit := do
  let d ← get
  if d.length < o + AuthoritySlot.ENCODED_LEN then throw .SlotOutOfBounds
  set (Window.write d o s.bytes)

/-! ## `admin-authority` -/

def admin_from_account_at (a : AccountWithMetadata) (o : Nat) : Except AdminError AuthoritySlot :=
  if a.account.data.bytes.isEmpty then .error .NotInitialized
  else (slot_read_at a.account.data.bytes o).mapError fun _ => .SlotOutOfBounds

def assert_admin (admin : AuthoritySlot) (a : AccountWithMetadata) : Except AdminError Unit := do
  if admin.holder = .default then throw .Renounced
  if a.account_id ≠ admin.holder then throw .NotAdmin
  if !a.is_authorized then throw .MissingSignature
  return ()

/-- The first three codes of the 1xx block, and one for the rest. -/
def admin_error_to_spel : AdminError → SpelError
  | .NotInitialized => .Custom 101 "admin authority not initialized"
  | .Renounced => .Custom 102 "admin authority renounced"
  | .NotAdmin => .Custom 103 "signer is not the current admin"
  | _ => .Custom 199 "admin check failed"

def require_admin (admin_config caller : AccountWithMetadata) : Except SpelError Unit := do
  let admin ← (admin_from_account_at admin_config 0).mapError admin_error_to_spel
  (assert_admin admin caller).mapError admin_error_to_spel

/-! ## `borsh` and the framework -/

def config_try_from_slice (d : List UInt8) : Option FreezeConfig :=
  match slot_read_at d 0, d.drop AuthoritySlot.ENCODED_LEN with
  | .ok slot, [0] => some ⟨slot, false⟩
  | .ok slot, [1] => some ⟨slot, true⟩
  | _, _ => none

def state_from_slice : List UInt8 → Option FrozenAccountState
  | [0] => some ⟨false⟩
  | [1] => some ⟨true⟩
  | _ => none

def seed_from_str (s : String) : Bytes32 :=
  let bytes := s.toList.map fun c => UInt8.ofNat c.toNat
  ⟨(bytes ++ List.replicate 32 0).take 32, by simp⟩

scoped instance : Crates where
  for_public_pda _ seed := ⟨seed.bytes⟩
  validate := validate
  slot_initialize id := if id = .default then .error .InvalidCandidate else .ok ⟨id, .default⟩
  slot_assert := slot_assert
  slot_transfer_to := slot_transfer_to
  slot_renounce _ := .vacant
  slot_nominate s id := { s with nominee := id }
  slot_accept := slot_accept
  slot_pending s := if s.nominee = .default then none else some s.nominee
  slot_read_at := slot_read_at
  slot_write_at := slot_write_at
  AdminConfig := AuthoritySlot
  admin := AuthoritySlot.holder
  admin_from_account_at := admin_from_account_at
  assert_admin := assert_admin
  admin_error_to_spel := admin_error_to_spel
  require_admin := require_admin
  config_to_vec c := some (c.slot.bytes ++ [c.is_frozen.toUInt8])
  config_try_from_slice := config_try_from_slice
  state_to_vec s := some [s.is_frozen.toUInt8]
  state_from_slice := state_from_slice
  seed_from_str := seed_from_str
  to_seed target := target
  pda_from_seeds seeds := .Claimed (.Pda ⟨seeds.getLastD (.fill 32 0)⟩)
  account_init a :=
    if a.account = .default then .ok () else .error (.Unauthorized "account already initialized")

/-! ## The laws -/

theorem slot_read_at_of_fits (d : List UInt8) (o : Nat) (h : o + AuthoritySlot.ENCODED_LEN ≤ d.length) :
    ∃ s, slot_read_at d o = .ok s ∧ Window.read d o AuthoritySlot.ENCODED_LEN = s.bytes := by
  unfold slot_read_at
  rw [dif_pos h]
  exact ⟨_, rfl, Window.read_add d o 32 32⟩

theorem slot_read_at_of_short (d : List UInt8) (o : Nat) (h : d.length < o + AuthoritySlot.ENCODED_LEN) :
    slot_read_at d o = .error .SlotOutOfBounds := by
  unfold slot_read_at
  rw [dif_neg (Nat.not_le.mpr h)]

theorem config_try_from_slice_iff (d : List UInt8) (c : FreezeConfig) :
    config_try_from_slice d = some c ↔ d = c.slot.bytes ++ [c.is_frozen.toUInt8] := by
  obtain ⟨slot, b⟩ := c
  rcases Nat.lt_or_ge d.length AuthoritySlot.ENCODED_LEN with h | h
  · have hread := slot_read_at_of_short d 0 (by omega)
    have hne : d ≠ slot.bytes ++ [b.toUInt8] := by
      rintro rfl
      rw [List.length_append, AuthoritySlot.length_bytes] at h
      omega
    unfold config_try_from_slice
    rw [hread]
    simp [hne]
  · obtain ⟨s, hs, hread⟩ := slot_read_at_of_fits d 0 (by omega)
    have hsplit : d = s.bytes ++ d.drop AuthoritySlot.ENCODED_LEN := by
      rw [← hread]
      exact (List.take_append_drop _ d).symm
    have hiff : d = slot.bytes ++ [b.toUInt8] ↔ s = slot ∧ d.drop AuthoritySlot.ENCODED_LEN = [b.toUInt8] := by
      constructor
      · intro h
        obtain ⟨hslot, hflag⟩ := List.append_inj (hsplit.symm.trans h) (by simp)
        exact ⟨AuthoritySlot.bytes_injective hslot, hflag⟩
      · rintro ⟨rfl, hflag⟩
        rw [← hflag]
        exact hsplit
    rw [hiff]
    clear hiff hsplit
    unfold config_try_from_slice
    rw [hs]
    generalize d.drop AuthoritySlot.ENCODED_LEN = flag
    split
    · cases b <;> simp_all [Bool.toUInt8]
    · cases b <;> simp_all [Bool.toUInt8]
    · cases b <;> simp_all [Bool.toUInt8]

theorem check_eq_ok {ε α : Type} {p : Prop} [Decidable p] {e : ε} {k : Except ε α} {a : α} :
    (do if p then throw e
        k) = .ok a ↔ ¬p ∧ k = .ok a := by
  by_cases h : p <;> simp [h]

theorem check_eq_error {ε α : Type} {p : Prop} [Decidable p] {e e' : ε} {k : Except ε α} :
    (do if p then throw e
        k) = .error e' ↔ p ∧ e' = e ∨ ¬p ∧ k = .error e' := by
  by_cases h : p <;> simp [h, eq_comm]

theorem slot_accept_on (a : AccountWithMetadata) (s : AuthoritySlot) :
    (slot_accept a).on s = do
      acceptable s a
      return ⟨s.nominee, .default⟩ := by
  unfold slot_accept
  simp

theorem validate_sound (c : AuthorityCandidate) (a : AccountWithMetadata) (h : AccountId)
    (hval : validate c a = .ok h) : c.Evidence a h := by
  unfold validate at hval
  cases c with
  | Signer =>
    simp only [check_eq_ok, Result.pure_eq, Except.ok.injEq] at hval
    obtain ⟨hauth, -, howned, rfl⟩ := hval
    exact ⟨rfl, howned, by simpa using hauth⟩
  | Pda program_id seed =>
    simp only [check_eq_ok, Result.pure_eq, Except.ok.injEq] at hval
    obtain ⟨hid, hdeployed, -, howned, rfl⟩ := hval
    exact ⟨rfl, howned, (not_not.mp hid).symm, hdeployed⟩

theorem validate_complete (c : AuthorityCandidate) (a : AccountWithMetadata) (h : AccountId)
    (hev : c.Evidence a h) (hne : h ≠ .default) : validate c a = .ok h := by
  unfold validate
  cases c with
  | Signer =>
    obtain ⟨rfl, howned, hauth⟩ := hev
    have hauth : a.is_authorized = true := hauth
    simp [hauth, hne, howned]
  | Pda program_id seed =>
    obtain ⟨rfl, howned, hid, hdeployed⟩ := hev
    have hid : (⟨seed⟩ : AccountId) = a.account_id := hid
    simp only [check_eq_ok, hid]
    exact ⟨not_not.mpr rfl, hdeployed, hne, howned, rfl⟩

theorem validate_error (c : AuthorityCandidate) (a : AccountWithMetadata) (e : AuthorityError)
    (h : validate c a = .error e) :
    e ∈ [.InvalidCandidate, .UndeployedPda, .CandidateMismatch, .UnownedSigner] := by
  unfold validate at h
  cases c with
  | Signer =>
    simp only [check_eq_error, Result.pure_eq, reduceCtorEq, and_false, or_false] at h
    rcases h with ⟨-, rfl⟩ | ⟨-, ⟨-, rfl⟩ | ⟨-, -, rfl⟩⟩ <;> simp
  | Pda program_id seed =>
    simp only [check_eq_error, Result.pure_eq, reduceCtorEq, and_false, or_false] at h
    rcases h with ⟨-, rfl⟩ | ⟨-, ⟨-, rfl⟩ | ⟨-, ⟨-, rfl⟩ | ⟨-, -, rfl⟩⟩⟩ <;> simp

theorem acceptable_eq_ok_iff (s : AuthoritySlot) (a : AccountWithMetadata) :
    acceptable s a = .ok () ↔ s.nominee ≠ .default ∧ a.account_id = s.nominee ∧ a.is_authorized = true ∧
      a.account.program_owner ≠ .default := by
  unfold acceptable
  simp only [check_eq_ok, Result.pure_eq, and_true, Bool.not_eq_true', Bool.not_eq_false, ne_eq, not_not]

theorem acceptable_error (s : AuthoritySlot) (a : AccountWithMetadata) (e : AuthorityError)
    (h : acceptable s a = .error e) : e ∈ [.NoNomination, .NotNominee, .MissingSignature, .UnownedSigner] := by
  unfold acceptable at h
  simp only [check_eq_error, Result.pure_eq, reduceCtorEq, and_false, or_false] at h
  rcases h with ⟨-, rfl⟩ | ⟨-, ⟨-, rfl⟩ | ⟨-, ⟨-, rfl⟩ | ⟨-, -, rfl⟩⟩⟩ <;> simp

theorem admin_from_account_at_of_fits (x : AccountWithMetadata) (o : Nat)
    (h : o + AuthoritySlot.ENCODED_LEN ≤ x.account.data.bytes.length) :
    ∃ s : AuthoritySlot, admin_from_account_at x o = .ok s ∧
      Window.read x.account.data.bytes o AuthoritySlot.ENCODED_LEN = s.bytes := by
  obtain ⟨s, hs, hread⟩ := slot_read_at_of_fits x.account.data.bytes o h
  have hne : x.account.data.bytes.isEmpty = false := by
    rw [List.isEmpty_eq_false_iff, ← List.length_pos_iff]
    unfold AuthoritySlot.ENCODED_LEN at h
    omega
  refine ⟨s, ?_, hread⟩
  unfold admin_from_account_at
  rw [hne, hs]
  rfl

scoped instance : LawfulCrates where
  validate_sound := validate_sound
  validate_complete := validate_complete
  validate_error := validate_error
  slot_initialize_eq _ := rfl
  slot_assert_ok_iff s a := by
    show slot_assert s a = _ ↔ _
    unfold slot_assert
    simp only [check_eq_ok, Result.pure_eq, and_true, Bool.not_eq_true', Bool.not_eq_false, ne_eq, not_not]
  slot_assert_error s a e h := by
    replace h : slot_assert s a = .error e := h
    unfold slot_assert at h
    simp only [check_eq_error, Result.pure_eq, reduceCtorEq, and_false, or_false] at h
    rcases h with ⟨-, rfl⟩ | ⟨-, ⟨-, rfl⟩ | ⟨-, -, rfl⟩⟩ <;> simp
  slot_transfer_to_on id s := by
    show (slot_transfer_to id).on s = _
    unfold slot_transfer_to
    split <;> rfl
  slot_renounce_eq _ := rfl
  slot_nominate_eq _ _ := rfl
  slot_accept_ok_iff a s s' := by
    show (slot_accept a).on s = _ ↔ _
    rw [slot_accept_on, Result.check_eq_ok, acceptable_eq_ok_iff]
  slot_accept_error a s e h := by
    replace h : (slot_accept a).on s = .error e := h
    rw [slot_accept_on] at h
    rcases Result.bind_eq_error.mp h with h | ⟨_, -, h⟩
    · exact acceptable_error s a e h
    · cases h
  slot_read_at_of_fits := slot_read_at_of_fits
  slot_read_at_of_short := slot_read_at_of_short
  slot_write_at_of_fits s d o h := by
    show (slot_write_at s o).call d = _
    unfold slot_write_at
    rw [Borrow.call_bind, Borrow.call_get]
    simp only [Nat.not_lt.mpr h, if_false]
    rfl
  slot_write_at_of_short s d o h := by
    show (slot_write_at s o).call d = _
    unfold slot_write_at
    rw [Borrow.call_bind, Borrow.call_get]
    simp only [h, if_true]
    rfl
  admin_from_account_at_window x y a b hx hy h := by
    show admin_from_account_at x a = admin_from_account_at y b
    obtain ⟨s, hs, hread⟩ := admin_from_account_at_of_fits x a hx
    obtain ⟨t, ht, hread'⟩ := admin_from_account_at_of_fits y b hy
    rw [hread, hread'] at h
    rw [hs, ht, AuthoritySlot.bytes_injective h]
  admin_from_account_at_empty x a h := by
    show admin_from_account_at x a = _
    unfold admin_from_account_at
    rw [h]
    rfl
  assert_admin_ok_iff a signer := by
    show assert_admin a signer = _ ↔ _
    unfold assert_admin
    simp only [check_eq_ok, Result.pure_eq, and_true, Bool.not_eq_true', Bool.not_eq_false, ne_eq, not_not]
    rfl
  require_admin_ok_iff admin_config caller := by
    show require_admin admin_config caller = _ ↔ _
    unfold require_admin
    simp only [Result.bind_eq_ok, Result.mapError_eq_ok]
    rfl
  admin_error_code e := by
    cases e <;> exact ⟨_, _, rfl, by decide⟩
  config_to_vec_eq _ := rfl
  config_try_from_slice_iff := config_try_from_slice_iff
  state_to_vec_eq _ := rfl
  state_from_slice_iff d s := by
    show state_from_slice d = _ ↔ _
    obtain ⟨b⟩ := s
    unfold state_from_slice
    split
    · cases b <;> simp [Bool.toUInt8]
    · cases b <;> simp [Bool.toUInt8]
    · cases b <;> simp_all [Bool.toUInt8]
  account_init_ok_iff a := by
    show (if a.account = .default then Except.ok () else .error _) = _ ↔ _
    split <;> simp [*]
  pda_from_seeds_claims _ := ⟨_, rfl⟩

/-! ## A program, its accounts and its callers -/

def key (n : UInt8) : AccountId := ⟨.fill 32 n⟩

def dataOf (bytes : List UInt8) : Data := (Data.try_from bytes).getD .empty

def account (n : UInt8) (bytes : List UInt8) : AccountWithMetadata :=
  ⟨⟨.fill 8 1, 0, dataOf bytes, 0⟩, true, key n⟩

def signer (n : UInt8) : AccountWithMetadata := account n []

def admin_config : AccountWithMetadata := account 100 (AuthoritySlot.bytes ⟨key 1, .default⟩)

def call (n : UInt8) (c : Call) : Tx := ⟨admin_config, signer n, c⟩

def program : Deployment where
  program_id := .fill 8 1
  deployed := by decide
  mode := .auto
  offset := 0
  admin_offset := 0

/-- The accounts of the library, with `bytes` in the config and no marker written. -/
def store (bytes : List UInt8) : Store := ⟨account 101 bytes, fun t => ⟨.default, false, ⟨t⟩⟩⟩

def empty_store : Store := { store [] with freeze_config := ⟨.default, false, key 101⟩ }

def initialized : Store :=
  { empty_store with
    freeze_config :=
      ⟨⟨.fill 8 1, 0, dataOf (FreezeConfig.bytes ⟨⟨key 1, .default⟩, false⟩), 0⟩, false, key 101⟩ }

/-- One account for both configs, the admin slot first. -/
def shared : AccountWithMetadata :=
  account 101 (AuthoritySlot.bytes ⟨key 1, .default⟩ ++ FreezeConfig.bytes ⟨⟨key 2, .default⟩, false⟩)

set_option maxRecDepth 8000 in
theorem length_shared : shared.account.data.bytes.length = AuthoritySlot.ENCODED_LEN + FreezeConfig.SIZE := by
  decide

theorem initialized_start : program.Initialized initialized :=
  ⟨rfl, empty_store, admin_config, signer 1, fun _ => rfl, rfl⟩

set_option maxRecDepth 8000 in
theorem initialized_config :
    FreezeConfig.from_account_at initialized.freeze_config 0 = .ok ⟨⟨key 1, .default⟩, false⟩ := rfl

theorem initialized_reachable (txs : List Tx) : program.Reachable (program.machine.run initialized txs) :=
  ⟨initialized, txs, initialized_start, rfl⟩

end FreezeAuthority.Reference
