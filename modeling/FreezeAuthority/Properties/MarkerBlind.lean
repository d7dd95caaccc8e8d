import FreezeAuthority.Spec.Reference

/-!
# What a stranger learns of a marker

`freeze_account_release` asserts the holder before it reads the marker. `freeze_account` reads the
marker first, so one it cannot read answers before the holder is asserted.
-/

namespace FreezeAuthority

variable [Lez] [Crates]

def FrozenAccountState.Readable (marker : AccountWithMetadata) : Prop := ∃ s, from_account marker = .ok s

/-- Both directions of the toggle give `caller` the error `e` on either marker, and `e` is one of the three
that `FreezeConfig::assert` gives. -/
structure MarkerBlind (freeze_config caller : AccountWithMetadata) (target : Bytes32) (offset : Nat)
    (e : FreezeError) (m₁ m₂ : AccountWithMetadata) : Prop where
  freeze : freeze_account freeze_config m₁ caller target offset =
    freeze_account freeze_config m₂ caller target offset
  release : freeze_account_release freeze_config m₁ caller target offset =
    freeze_account_release freeze_config m₂ caller target offset
  freeze_error : freeze_account freeze_config m₁ caller target offset = .error e.toSpelError
  release_error : freeze_account_release freeze_config m₁ caller target offset = .error e.toSpelError
  assert_error : e ∈ [FreezeError.NotFreezeAuthority, .Renounced, .MissingSignature]

theorem FrozenAccountState.from_account_of_not_readable {m : AccountWithMetadata} (h : ¬Readable m) :
    from_account m = .error .DecodingFailed := by
  cases hm : from_account m with
  | ok s => exact absurd ⟨s, hm⟩ h
  | error e => rw [from_account_eq_error hm]

variable [LawfulCrates]

theorem FrozenAccountState.readable_iff (m : AccountWithMetadata) :
    Readable m ↔ m.account.data.bytes ∈ ([[], [0], [1]] : List (List UInt8)) := by
  unfold Readable from_account
  simp only [from_data_or_default_eq_ok_iff, bytes, List.mem_cons, List.not_mem_nil, or_false]
  constructor
  · rintro ⟨⟨b⟩, h | ⟨h, -⟩⟩
    · cases b
      · exact Or.inr (Or.inl h)
      · exact Or.inr (Or.inr h)
    · exact Or.inl h
  · rintro (h | h | h)
    · exact ⟨.default, Or.inr ⟨h, rfl⟩⟩
    · exact ⟨⟨false⟩, Or.inl h⟩
    · exact ⟨⟨true⟩, Or.inl h⟩

theorem FreezeConfig.assert_error_mem {c : FreezeConfig} {caller : AccountWithMetadata} {e : FreezeError}
    (h : c.assert caller = .error e) : e ∈ [FreezeError.NotFreezeAuthority, .Renounced, .MissingSignature] := by
  unfold assert fromAuthority at h
  obtain ⟨e', herror, rfl⟩ := Result.mapError_eq_error.mp h
  have hmem := LawfulCrates.slot_assert_error _ _ _ herror
  simp only [List.mem_cons, List.not_mem_nil, or_false] at hmem
  rcases hmem with rfl | rfl | rfl <;> simp [FreezeError.ofAuthorityError]

section Refused

variable {f : AccountWithMetadata} {o : Nat} {c : FreezeConfig} {caller : AccountWithMetadata}
  {e : FreezeError} (hc : FreezeConfig.from_account_at f o = .ok c) (hrefused : c.assert caller = .error e)

include hc hrefused

theorem freeze_account_release_of_refused (m : AccountWithMetadata) (t : Bytes32) :
    freeze_account_release f m caller t o = .error e.toSpelError := by
  have hinvoke := Instruction.invoke_freeze_account_release f m caller t o
  rw [hc, fromFreeze_ok, Result.ok_bind, hrefused] at hinvoke
  exact hinvoke

theorem freeze_account_of_refused {m : AccountWithMetadata} (hm : FrozenAccountState.Readable m) (t : Bytes32) :
    freeze_account f m caller t o = .error e.toSpelError := by
  obtain ⟨s, hs⟩ := hm
  have hinvoke := Instruction.invoke_freeze_account f m caller t o
  rw [hc, hs, fromFreeze_ok, fromFreeze_ok, Result.ok_bind, Result.ok_bind, hrefused] at hinvoke
  exact hinvoke

omit hrefused in
/-- Nobody gets past a marker that cannot be read. -/
theorem freeze_account_of_not_readable {m : AccountWithMetadata} (hm : ¬FrozenAccountState.Readable m)
    (t : Bytes32) : freeze_account f m caller t o = .error (FreezeError.toSpelError .DecodingFailed) := by
  have hinvoke := Instruction.invoke_freeze_account f m caller t o
  rw [hc, FrozenAccountState.from_account_of_not_readable hm] at hinvoke
  exact hinvoke

theorem readable_of_freeze_error {m : AccountWithMetadata} {t : Bytes32}
    (h : freeze_account f m caller t o = .error e.toSpelError) : FrozenAccountState.Readable m := by
  by_contra hm
  rw [freeze_account_of_not_readable hc hm, Except.error.injEq] at h
  have hmem := FreezeConfig.assert_error_mem hrefused
  rw [← FreezeError.toSpelError_injective h] at hmem
  simp at hmem

/-- The answer to a refused caller is blind to two markers exactly when each holds nothing, or one byte that
is a flag. -/
theorem marker_blind_iff (t : Bytes32) (m₁ m₂ : AccountWithMetadata) :
    MarkerBlind f caller t o e m₁ m₂ ↔
      ∀ m ∈ [m₁, m₂], m.account.data.bytes ∈ ([[], [0], [1]] : List (List UInt8)) := by
  have hrelease := fun m => freeze_account_release_of_refused hc hrefused m t
  rw [List.forall_mem_cons, List.forall_mem_singleton, ← FrozenAccountState.readable_iff,
    ← FrozenAccountState.readable_iff]
  constructor
  · intro h
    have hfreeze := h.freeze_error
    refine ⟨readable_of_freeze_error hc hrefused hfreeze, ?_⟩
    rw [h.freeze] at hfreeze
    exact readable_of_freeze_error hc hrefused hfreeze
  · rintro ⟨h₁, h₂⟩
    have hfreeze₁ := freeze_account_of_refused hc hrefused h₁ t
    have hfreeze₂ := freeze_account_of_refused hc hrefused h₂ t
    refine ⟨?_, ?_, hfreeze₁, hrelease m₁, FreezeConfig.assert_error_mem hrefused⟩
    · rw [hfreeze₁, hfreeze₂]
    · rw [hrelease m₁, hrelease m₂]

end Refused

end FreezeAuthority

namespace FreezeAuthority.Reference

theorem stranger_refused :
    FreezeConfig.assert ⟨⟨key 1, .default⟩, false⟩ (signer 2) = .error .NotFreezeAuthority := rfl

theorem not_readable : ¬FrozenAccountState.Readable (account 5 [2]) := by
  rw [FrozenAccountState.readable_iff]
  decide

/-- A stranger freezes a target, on a marker without data and on one with a byte that is no flag. -/
theorem stranger_tells_markers_apart :
    freeze_account initialized.freeze_config (account 5 []) (signer 2) (key 5).value 0 =
      .error (FreezeError.toSpelError .NotFreezeAuthority) ∧
    freeze_account initialized.freeze_config (account 5 [2]) (signer 2) (key 5).value 0 =
      .error (FreezeError.toSpelError .DecodingFailed) ∧
    ¬MarkerBlind initialized.freeze_config (signer 2) (key 5).value 0 .NotFreezeAuthority
      (account 5 []) (account 5 [2]) := by
  have hempty := freeze_account_of_refused initialized_config stranger_refused
    (⟨.default, rfl⟩ : FrozenAccountState.Readable (account 5 [])) (key 5).value
  have hgarbage : freeze_account initialized.freeze_config (account 5 [2]) (signer 2) (key 5).value 0 =
      .error (FreezeError.toSpelError .DecodingFailed) :=
    freeze_account_of_not_readable initialized_config not_readable (key 5).value
  refine ⟨hempty, hgarbage, ?_⟩
  intro h
  have hsame := h.freeze
  rw [hempty, hgarbage] at hsame
  cases hsame

theorem marker_blind_on_readable :
    MarkerBlind initialized.freeze_config (signer 2) (key 5).value 0 .NotFreezeAuthority
      (account 5 []) (account 5 [1]) :=
  (marker_blind_iff initialized_config stranger_refused (key 5).value (account 5 []) (account 5 [1])).mpr
    (by decide)

end FreezeAuthority.Reference
