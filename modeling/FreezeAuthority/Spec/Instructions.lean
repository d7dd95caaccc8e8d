import FreezeAuthority.Code.Ledger
import FreezeAuthority.Spec.Functions

/-!
# One spec per instruction of `lib.rs`

Six of the nine instructions change the config in place. They differ in a check before they
read it and in the method they call on it. Two write a marker, and one creates the config.
-/

namespace FreezeAuthority

@[simp]
theorem fromFreeze_ok {α : Type} (a : α) : fromFreeze (.ok a) = .ok a := rfl

theorem fromFreeze_bind {α β : Type} (x : Except FreezeError α) (k : α → Except FreezeError β) :
    fromFreeze (x >>= k) = fromFreeze x >>= fun a => fromFreeze (k a) :=
  Result.mapError_bind x k _

variable [Lez]

/-- The post-states of accounts of which only the one in role `r` was written. -/
def postStates (accounts : List (Role × AccountWithMetadata)) (r : Role) (written : AccountWithMetadata) :
    List AccountPostState :=
  accounts.map fun x => .of_account (if x.1 = r then written.account else x.2.account)

/-- The shared account has one entry, the one of the written copy. -/
theorem execute_post_state_pair (a f f' : AccountWithMetadata) (rest : List (Role × AccountWithMetadata))
    (hid : f'.account_id = f.account_id) (hrest : ∀ x ∈ rest, x.1 ≠ .freeze_config) :
    execute (post_state_pair a f' ++ rest.map (·.2.account)) =
      ⟨postStates (if a.account_id = f.account_id then (.freeze_config, f) :: rest
        else (.admin_config, a) :: (.freeze_config, f) :: rest) .freeze_config f'⟩ := by
  have hpass : (rest.map (·.2.account)).map AccountPostState.of_account =
      postStates rest .freeze_config f' := by
    unfold postStates
    rw [List.map_map]
    apply List.map_congr_left
    intro x hx
    rw [if_neg (hrest x hx)]
    rfl
  unfold execute post_state_pair
  rw [List.map_append, hpass, hid]
  unfold postStates
  split <;> simp

/-- A marker that was just written is claimed when it had no data. -/
def AccountWithMetadata.markerClaim [Crates] (frozen_pda : AccountWithMetadata) (target : Bytes32) :
    Option Claim :=
  if frozen_pda.account.data.bytes.isEmpty then
    (Crates.pda_from_seeds (frozen_pda_seeds target)).required_claim
  else none

namespace Instruction

def freeze_config_account : Instruction → AccountWithMetadata
  | freeze_initialize _ _ f => f
  | .freeze_authority_transfer _ f _ _ _ _ _ => f
  | .freeze_authority_renounce _ f _ _ _ => f
  | .freeze_program f _ _ _ => f
  | .freeze_program_release f _ _ => f
  | .freeze_account f _ _ _ _ => f
  | .freeze_account_release f _ _ _ _ => f
  | .freeze_authority_nominate _ f _ _ _ _ => f
  | .freeze_authority_accept f _ _ => f

theorem config_of_mem (i : Instruction) :
    ∀ x ∈ i.accounts, x.1 = .freeze_config → x.2 = i.freeze_config_account := by
  cases i <;> simp [accounts, freeze_config_account]

def config_offset : Instruction → Nat
  | freeze_initialize _ _ _ => 0
  | .freeze_authority_transfer _ _ _ _ _ offset _ => offset
  | .freeze_authority_renounce _ _ _ offset _ => offset
  | .freeze_program _ _ _ offset => offset
  | .freeze_program_release _ _ offset => offset
  | .freeze_account _ _ _ _ offset => offset
  | .freeze_account_release _ _ _ _ offset => offset
  | .freeze_authority_nominate _ _ _ _ offset _ => offset
  | .freeze_authority_accept _ _ offset => offset

variable [Crates]

def check : Instruction → Except SpelError Unit
  | .freeze_authority_transfer a _ c _ _ _ admin_offset => do
    let admin ← (Crates.admin_from_account_at a admin_offset).mapError Crates.admin_error_to_spel
    (Crates.assert_admin admin c).mapError Crates.admin_error_to_spel
  | _ => .ok ()

/-- The method that runs on the config, for an instruction that changes it in place. -/
def method : Instruction → Option (Borrow FreezeConfig FreezeError Unit)
  | .freeze_authority_transfer _ _ _ n candidate _ _ => some (FreezeConfig.transfer candidate n)
  | .freeze_authority_renounce a _ c _ admin_offset =>
    some (FreezeConfig.renounce (Crates.admin_from_account_at a admin_offset).toOption c)
  | .freeze_program _ _ c _ => some (FreezeConfig.set_is_frozen c true)
  | .freeze_program_release _ c _ => some (FreezeConfig.set_is_frozen c false)
  | .freeze_authority_nominate a _ c next _ admin_offset =>
    some (FreezeConfig.nominate (Crates.admin_from_account_at a admin_offset).toOption c ⟨next⟩)
  | .freeze_authority_accept _ c _ => some (FreezeConfig.accept c)
  | _ => none

end Instruction

variable [Crates] [LawfulCrates]

theorem fromFreeze_perform_at (offset : Nat) (m : Borrow FreezeConfig FreezeError Unit)
    (a : AccountWithMetadata) :
    fromFreeze ((FreezeConfig.perform_at offset m).on a) = do
      let c ← fromFreeze (FreezeConfig.from_account_at a offset)
      let c' ← fromFreeze (m.on c)
      return a.withConfig offset c' := by
  rw [FreezeConfig.perform_at_on, fromFreeze_bind]
  simp only [fromFreeze_bind]
  rfl

namespace Instruction

theorem invoke_config (i : Instruction) (m : Borrow FreezeConfig FreezeError Unit) (h : i.method = some m) :
    i.invoke = do
      i.check
      let c ← fromFreeze (FreezeConfig.from_account_at i.freeze_config_account i.config_offset)
      let c' ← fromFreeze (m.on c)
      return ⟨postStates i.transactionAccounts .freeze_config
        (i.freeze_config_account.withConfig i.config_offset c')⟩ := by
  cases i <;> cases h
  case freeze_program f m c o =>
    show FreezeAuthority.freeze_program f m c o = _
    unfold FreezeAuthority.freeze_program FreezeConfig.perform_freeze_at
    simp only [fromFreeze_perform_at, bind_assoc, pure_bind]
    rfl
  case freeze_program_release f c o =>
    show FreezeAuthority.freeze_program_release f c o = _
    unfold FreezeAuthority.freeze_program_release FreezeConfig.perform_release_at
    simp only [fromFreeze_perform_at, bind_assoc, pure_bind]
    rfl
  case freeze_authority_accept f c o =>
    show FreezeAuthority.freeze_authority_accept f c o = _
    unfold FreezeAuthority.freeze_authority_accept FreezeConfig.perform_accept_at
    simp only [fromFreeze_perform_at, bind_assoc, pure_bind]
    rfl
  case freeze_authority_renounce a f c o ao =>
    have hposts := fun c' => execute_post_state_pair a f (f.withConfig o c') [(.caller, c)] rfl (by simp)
    show FreezeAuthority.freeze_authority_renounce a f c o ao = _
    unfold FreezeAuthority.freeze_authority_renounce FreezeConfig.perform_renounce_at
    simp only [List.map_cons, List.map_nil] at hposts
    simp only [fromFreeze_perform_at, bind_assoc, pure_bind, hposts]
    rfl
  case freeze_authority_nominate a f c n o ao =>
    have hposts := fun c' => execute_post_state_pair a f (f.withConfig o c') [(.caller, c)] rfl (by simp)
    show FreezeAuthority.freeze_authority_nominate a f c n o ao = _
    unfold FreezeAuthority.freeze_authority_nominate FreezeConfig.perform_nominate_at
    simp only [List.map_cons, List.map_nil] at hposts
    simp only [fromFreeze_perform_at, bind_assoc, pure_bind, hposts]
    rfl
  case freeze_authority_transfer a f c n candidate o ao =>
    have hposts := fun c' => execute_post_state_pair a f (f.withConfig o c')
      [(.caller, c), (.new_account, n)] rfl (by simp)
    show FreezeAuthority.freeze_authority_transfer a f c n candidate o ao = _
    unfold FreezeAuthority.freeze_authority_transfer FreezeConfig.perform_transfer_at
    simp only [List.map_cons, List.map_nil] at hposts
    simp only [fromFreeze_perform_at, bind_assoc, pure_bind, hposts, check]
    rfl

/-- A marker of one byte fits wherever a config does. -/
theorem one_le_of_config {f : AccountWithMetadata} {o : Nat} {c : FreezeConfig}
    (h : FreezeConfig.from_account_at f o = .ok c) : 1 ≤ Lez.dataMaxLength := by
  have hfits := ((FreezeConfig.decode_at_eq_ok_iff _ _ _).mp h).1
  have hdata := f.account.data.fits
  unfold FreezeConfig.SIZE at hfits
  omega

theorem invoke_freeze_account (f m c : AccountWithMetadata) (t : Bytes32) (o : Nat) :
    (Instruction.freeze_account f m c t o).invoke = do
      let cfg ← fromFreeze (FreezeConfig.from_account_at f o)
      let _ ← fromFreeze (FrozenAccountState.from_account m)
      fromFreeze (cfg.assert c)
      return ⟨[.of_account f.account, ⟨(m.withMarker ⟨true⟩).account, m.markerClaim t⟩,
        .of_account c.account]⟩ := by
  show FreezeAuthority.freeze_account f m c t o = _
  unfold FreezeAuthority.freeze_account
  cases hcfg : FreezeConfig.from_account_at f o with
  | error e => rfl
  | ok cfg =>
    have hone := one_le_of_config hcfg
    unfold fromFreeze
    simp only [Result.mapError_ok, Result.ok_bind, FrozenAccountState.perform_freeze_on cfg c m hone]
    cases FrozenAccountState.from_account m with
    | error e => rfl
    | ok s =>
      cases cfg.assert c with
      | error e => rfl
      | ok u =>
        unfold AccountWithMetadata.markerClaim
        split <;> rfl

theorem invoke_freeze_account_release (f m c : AccountWithMetadata) (t : Bytes32) (o : Nat) :
    (Instruction.freeze_account_release f m c t o).invoke = do
      let cfg ← fromFreeze (FreezeConfig.from_account_at f o)
      fromFreeze (cfg.assert c)
      let s ← fromFreeze (FrozenAccountState.from_account m)
      if !s.is_frozen then throw (FreezeError.toSpelError .AccountNotFrozen)
      return ⟨[.of_account f.account, .of_account (m.withMarker ⟨false⟩).account, .of_account c.account]⟩ := by
  show FreezeAuthority.freeze_account_release f m c t o = _
  unfold FreezeAuthority.freeze_account_release
  cases hcfg : FreezeConfig.from_account_at f o with
  | error e => rfl
  | ok cfg =>
    have hone := one_le_of_config hcfg
    unfold fromFreeze
    simp only [Result.mapError_ok, Result.ok_bind, FrozenAccountState.perform_release_on cfg c m hone]
    cases cfg.assert c with
    | error e => rfl
    | ok u =>
      cases FrozenAccountState.from_account m with
      | error e => rfl
      | ok s =>
        obtain ⟨b⟩ := s
        cases b <;> rfl

/-- The caller signs as the admin at offset 0, and becomes the holder of a new config. -/
theorem invoke_freeze_initialize_eq_ok_iff (a c f : AccountWithMetadata) (out : SpelOutput) :
    (Instruction.freeze_initialize a c f).invoke = .ok out ↔
      Crates.require_admin a c = .ok () ∧ AuthorityCandidate.Signer.Evidence c c.account_id ∧
      c.account_id ≠ .default ∧
      ∃ d : Data, d.bytes = FreezeConfig.bytes ⟨⟨c.account_id, .default⟩, false⟩ ∧
        out = ⟨[.of_account a.account, .of_account c.account,
          ⟨(f.withData d).account, some (.Pda ⟨Crates.seed_from_str "freeze_config"⟩)⟩]⟩ := by
  show FreezeAuthority.freeze_initialize a c f = _ ↔ _
  unfold FreezeAuthority.freeze_initialize fromFreeze
  simp only [Result.bind_eq_ok, Result.mapError_eq_ok, FreezeConfig.bootstrap_on_eq_ok_iff, Result.pure_eq,
    Except.ok.injEq]
  constructor
  · rintro ⟨u, hadmin, f', ⟨h, d, hval, hne, hd, rfl⟩, rfl⟩
    have hev := LawfulCrates.validate_sound _ _ _ hval
    obtain rfl := hev.1
    exact ⟨hadmin, hev, hne, d, hd, rfl⟩
  · rintro ⟨hadmin, hev, hne, d, hd, rfl⟩
    exact ⟨(), hadmin, _, ⟨_, d, LawfulCrates.validate_complete _ _ _ hev hne, hne, hd, rfl⟩, rfl⟩

end Instruction

end FreezeAuthority
