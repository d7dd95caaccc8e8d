import FreezeAuthority.Spec.Reference

/-!
# The dual path

`freeze_authority_renounce` and `freeze_authority_nominate` accept the admin or the holder. Admin
state that does not decode fails the admin's half only.
-/

namespace FreezeAuthority

variable [Lez] [Crates]

/-- The output of both instructions, with `written` as the config account. -/
def dualPathOutput (admin_config written caller : AccountWithMetadata) : SpelOutput :=
  execute (post_state_pair admin_config written ++ [caller.account])

/-- A result behind the dual path: the output where it is open, and one error where it is not. -/
theorem dualPath_outcome {c : FreezeConfig} {a caller : AccountWithMetadata} {ao : Nat} {out : SpelOutput}
    {r : SpelResult} (hr : r = fromFreeze (do
      c.adminOrHolder (Crates.admin_from_account_at a ao).toOption caller
      return out)) :
    (∀ out', r = .ok out' ↔ c.DualPath a ao caller ∧ out' = out) ∧
    ∀ e, r = .error e ↔ ¬c.DualPath a ao caller ∧ e = FreezeError.toSpelError .NotAdminOrFreezeAuthority := by
  have hiff := c.adminOrHolder_eq_ok_iff_dualPath a ao caller
  subst hr
  cases h : c.adminOrHolder (Crates.admin_from_account_at a ao).toOption caller with
  | ok u =>
    have hopen := hiff.mp h
    simp [hopen, eq_comm]
  | error e =>
    obtain rfl := FreezeConfig.adminOrHolder_eq_error h
    have hclosed : ¬c.DualPath a ao caller := by
      rw [← hiff, h]
      simp
    simp [hclosed, fromFreeze, eq_comm]

variable [LawfulCrates]

theorem freeze_authority_renounce_eq {f : AccountWithMetadata} {o : Nat} {c : FreezeConfig}
    (h : FreezeConfig.from_account_at f o = .ok c) (a caller : AccountWithMetadata) (ao : Nat) :
    freeze_authority_renounce a f caller o ao = fromFreeze (do
      c.adminOrHolder (Crates.admin_from_account_at a ao).toOption caller
      return dualPathOutput a (f.withConfig o ⟨.vacant, c.is_frozen⟩) caller) := by
  unfold freeze_authority_renounce FreezeConfig.perform_renounce_at
  simp only [fromFreeze_perform_at, h, fromFreeze_ok, pure_bind, Result.ok_bind, FreezeConfig.renounce_on,
    fromFreeze_bind, bind_assoc]
  rfl

theorem freeze_authority_nominate_eq {f : AccountWithMetadata} {o : Nat} {c : FreezeConfig}
    (h : FreezeConfig.from_account_at f o = .ok c) (a caller : AccountWithMetadata) (next : Bytes32)
    (ao : Nat) :
    freeze_authority_nominate a f caller next o ao = fromFreeze (do
      c.adminOrHolder (Crates.admin_from_account_at a ao).toOption caller
      return dualPathOutput a (f.withConfig o ⟨⟨c.slot.holder, ⟨next⟩⟩, c.is_frozen⟩) caller) := by
  unfold freeze_authority_nominate FreezeConfig.perform_nominate_at
  simp only [fromFreeze_perform_at, h, fromFreeze_ok, pure_bind, Result.ok_bind, FreezeConfig.nominate_on,
    fromFreeze_bind, bind_assoc]
  rfl

/-- Both instructions succeed exactly on the dual path and fail with one error off it. What they write does
not depend on the admin, and a caller whom the slot accepts needs none. -/
theorem dual_path_is_an_or {f : AccountWithMetadata} {o : Nat} {c : FreezeConfig}
    (h : FreezeConfig.from_account_at f o = .ok c) (caller : AccountWithMetadata) (next : Bytes32) :
    let renounced := f.withConfig o ⟨.vacant, c.is_frozen⟩
    let nominated := f.withConfig o ⟨⟨c.slot.holder, ⟨next⟩⟩, c.is_frozen⟩
    FreezeConfig.from_account_at renounced o = .ok ⟨⟨.default, .default⟩, c.is_frozen⟩ ∧
    FreezeConfig.from_account_at nominated o = .ok ⟨⟨c.slot.holder, ⟨next⟩⟩, c.is_frozen⟩ ∧
    (∀ a ao out, freeze_authority_renounce a f caller o ao = .ok out ↔
      c.DualPath a ao caller ∧ out = dualPathOutput a renounced caller) ∧
    (∀ a ao e, freeze_authority_renounce a f caller o ao = .error e ↔
      ¬c.DualPath a ao caller ∧ e = FreezeError.toSpelError .NotAdminOrFreezeAuthority) ∧
    (∀ a ao out, freeze_authority_nominate a f caller next o ao = .ok out ↔
      c.DualPath a ao caller ∧ out = dualPathOutput a nominated caller) ∧
    (∀ a ao e, freeze_authority_nominate a f caller next o ao = .error e ↔
      ¬c.DualPath a ao caller ∧ e = FreezeError.toSpelError .NotAdminOrFreezeAuthority) ∧
    (c.assert caller = .ok () → ∀ a ao,
      freeze_authority_renounce a f caller o ao = .ok (dualPathOutput a renounced caller) ∧
      freeze_authority_nominate a f caller next o ao = .ok (dualPathOutput a nominated caller)) := by
  intro renounced nominated
  have hfits := ((FreezeConfig.decode_at_eq_ok_iff _ _ _).mp h).1
  have hrenounce := fun a ao => dualPath_outcome (freeze_authority_renounce_eq h a caller ao)
  have hnominate := fun a ao => dualPath_outcome (freeze_authority_nominate_eq h a caller next ao)
  refine ⟨?_, ?_, ?_, ?_, ?_, ?_, ?_⟩
  · exact FreezeConfig.from_account_at_withConfig f o _ hfits
  · exact FreezeConfig.from_account_at_withConfig f o _ hfits
  · exact fun a ao => (hrenounce a ao).1
  · exact fun a ao => (hrenounce a ao).2
  · exact fun a ao => (hnominate a ao).1
  · exact fun a ao => (hnominate a ao).2
  · intro hheld a ao
    have hopen : c.DualPath a ao caller := Or.inr hheld
    exact ⟨((hrenounce a ao).1 _).mpr ⟨hopen, rfl⟩, ((hnominate a ao).1 _).mpr ⟨hopen, rfl⟩⟩

end FreezeAuthority

namespace FreezeAuthority.Reference

/-- The holder leaves while the admin config has no bytes at all. -/
theorem holder_renounces_without_admin :
    ∃ out, freeze_authority_renounce (account 100 []) initialized.freeze_config (signer 1) 0 0 = .ok out := by
  obtain ⟨-, -, -, -, -, -, hholder⟩ := dual_path_is_an_or initialized_config (signer 1) (key 2).value
  exact ⟨_, (hholder rfl (account 100 []) 0).1⟩

end FreezeAuthority.Reference
