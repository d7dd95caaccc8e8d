import FreezeAuthority.Spec.Layout

/-!
# One spec per function of `config.rs` and `frozen_account.rs`

Each `&mut` method, as the value it leaves or the error it returns.
-/

namespace FreezeAuthority

theorem FreezeConfig.onSlot_on (m : Borrow AuthoritySlot AuthorityError Unit) (c : FreezeConfig) :
    (onSlot m).on c = do
      let slot ← fromAuthority (m.on c.slot)
      return { c with slot } := by
  unfold onSlot fromAuthority Borrow.on
  rcases h : m.call c.slot with ⟨_ | _, slot⟩ <;> simp [Borrow.call_bind, h]

variable [Lez] [Crates]

theorem FreezeConfig.set_is_frozen_on (current : AccountWithMetadata) (state : Bool) (c : FreezeConfig) :
    (set_is_frozen current state).on c = do
      c.assert current
      return { c with is_frozen := state } := by
  unfold set_is_frozen assert
  simp

theorem FrozenAccountState.set_is_frozen_on (authority_state : FreezeConfig) (caller : AccountWithMetadata)
    (state : Bool) (s : FrozenAccountState) :
    (set_is_frozen authority_state caller state).on s = do
      authority_state.assert caller
      return { is_frozen := state } := by
  unfold set_is_frozen
  simp

namespace FreezeConfig

/-! ## The dual path -/

/-- The admin window decodes and its admin accepts the caller, or the slot does. -/
def DualPath (c : FreezeConfig) (admin_config : AccountWithMetadata) (admin_offset : Nat)
    (caller : AccountWithMetadata) : Prop :=
  (∃ admin, Crates.admin_from_account_at admin_config admin_offset = .ok admin ∧
    Crates.assert_admin admin caller = .ok ()) ∨ c.assert caller = .ok ()

theorem adminOrHolder_eq_ok_iff_dualPath (c : FreezeConfig) (admin_config : AccountWithMetadata)
    (admin_offset : Nat) (caller : AccountWithMetadata) :
    c.adminOrHolder (Crates.admin_from_account_at admin_config admin_offset).toOption caller = .ok () ↔
      c.DualPath admin_config admin_offset caller := by
  unfold adminOrHolder DualPath assert fromAuthority
  cases Crates.slot_assert c.slot caller <;> cases Crates.admin_from_account_at admin_config admin_offset with
  | error e => simp [Except.toOption, Except.isOk, Except.toBool]
  | ok a => cases h : Crates.assert_admin a caller <;> simp [h, Except.toOption, Except.isOk, Except.toBool]

theorem adminOrHolder_eq_error {c : FreezeConfig} {admin_config : Option Crates.AdminConfig}
    {caller : AccountWithMetadata} {e : FreezeError} (h : c.adminOrHolder admin_config caller = .error e) :
    e = .NotAdminOrFreezeAuthority := by
  unfold adminOrHolder at h
  simp only at h
  split at h
  · cases h
    rfl
  · cases h

end FreezeConfig

variable [LawfulCrates]

namespace FreezeConfig

theorem transfer_on (candidate : FreezeCandidate) (new_account : AccountWithMetadata) (c : FreezeConfig) :
    (transfer candidate new_account).on c = do
      let next ← fromAuthority (Crates.validate candidate new_account)
      if next = .default then .error .InvalidCandidate
      else return { c with slot := ⟨next, .default⟩ } := by
  unfold transfer
  rw [Borrow.on_attempt_bind]
  congr 1
  funext next
  rw [onSlot_on, LawfulCrates.slot_transfer_to_on]
  split <;> rfl

theorem renounce_on (admin_config : Option (Crates.AdminConfig)) (current : AccountWithMetadata)
    (c : FreezeConfig) :
    (renounce admin_config current).on c = do
      c.adminOrHolder admin_config current
      return { c with slot := .vacant } := by
  unfold renounce
  simp [LawfulCrates.slot_renounce_eq]

theorem nominate_on (admin_config : Option (Crates.AdminConfig)) (current : AccountWithMetadata)
    (next : AccountId) (c : FreezeConfig) :
    (nominate admin_config current next).on c = do
      c.adminOrHolder admin_config current
      return { c with slot := { c.slot with nominee := next } } := by
  unfold nominate
  simp [LawfulCrates.slot_nominate_eq]

theorem perform_at_on (offset : Nat) (m : Borrow FreezeConfig FreezeError Unit) (a : AccountWithMetadata) :
    (perform_at offset m).on a = do
      let c ← from_account_at a offset
      let c' ← m.on c
      return a.withConfig offset c' := by
  unfold perform_at
  rw [Borrow.on_get_bind, Borrow.on_attempt_bind]
  cases h : from_account_at a offset with
  | error e => rfl
  | ok c =>
    have hfits := ((decode_at_eq_ok_iff _ _ _).mp h).1
    simp only [Result.ok_bind, Borrow.on_attempt_bind]
    congr 1
    funext c'
    exact Borrow.on_ok (write_to_at_call c' offset a hfits)

/-- `bootstrap` writes the whole data: the candidate as holder, no nominee, not frozen. -/
theorem bootstrap_on_eq_ok_iff (candidate : FreezeCandidate) (new_account a a' : AccountWithMetadata) :
    (bootstrap candidate new_account).on a = .ok a' ↔
      ∃ h d, Crates.validate candidate new_account = .ok h ∧ h ≠ .default ∧
        d.bytes = bytes ⟨⟨h, .default⟩, false⟩ ∧ a' = a.withData d := by
  unfold bootstrap initialize_config write_to fromAuthority
  simp only [Borrow.on_attempt_bind, Result.bind_eq_ok, Result.mapError_eq_ok, encode_eq,
    assignData_on_eq_ok_iff, LawfulCrates.slot_initialize_eq, Result.pure_eq, Except.ok.injEq]
  constructor
  · rintro ⟨h, hval, c, ⟨slot, hslot, rfl⟩, bytes, rfl, d, hd, rfl⟩
    split at hslot
    · cases hslot
    · cases hslot
      exact ⟨h, d, hval, ‹_›, hd, rfl⟩
  · rintro ⟨h, d, hval, hne, hd, rfl⟩
    exact ⟨h, hval, _, ⟨⟨h, .default⟩, by rw [if_neg hne], rfl⟩, _, rfl, d, hd, rfl⟩

end FreezeConfig

namespace FrozenAccountState

theorem perform_freeze_on (authority_state : FreezeConfig) (current a : AccountWithMetadata)
    (h : 1 ≤ Lez.dataMaxLength) :
    (perform_freeze authority_state current).on a = do
      let _ ← from_account a
      authority_state.assert current
      return a.withMarker ⟨true⟩ := by
  unfold perform_freeze
  simp only [Borrow.on_get_bind, Borrow.on_attempt_bind, set_is_frozen_on, bind_assoc, pure_bind]
  simp only [Borrow.on_ok (write_to_call _ a h), Result.pure_eq]

theorem perform_release_on (authority_state : FreezeConfig) (current a : AccountWithMetadata)
    (h : 1 ≤ Lez.dataMaxLength) :
    (perform_release authority_state current).on a = do
      authority_state.assert current
      let s ← from_account a
      if !s.is_frozen then throw .AccountNotFrozen
      return a.withMarker ⟨false⟩ := by
  unfold perform_release
  rw [Borrow.on_attempt_bind]
  cases hc : authority_state.assert current with
  | error e => rfl
  | ok u =>
    simp only [Result.ok_bind, Borrow.on_get_bind, Borrow.on_attempt_bind]
    congr 1
    funext s
    obtain ⟨b⟩ := s
    cases b with
    | false => rfl
    | true => simp [set_is_frozen_on, hc, Borrow.on_ok (write_to_call _ a h)]

end FrozenAccountState

end FreezeAuthority
