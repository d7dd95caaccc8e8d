import FreezeAuthority.Spec.Reference

/-!
# Before `freeze_initialize`

An empty config answers `NotInitialized`. `freeze_authority_transfer` alone checks the admin before it
looks at the config.
-/

namespace FreezeAuthority

variable [Lez] [Crates]

theorem FreezeConfig.from_account_at_of_empty {f : AccountWithMetadata} (h : f.account.data.bytes = [])
    (o : Nat) : from_account_at f o = .error .NotInitialized := by
  unfold from_account_at
  rw [h]
  rfl

theorem gate_of_empty {f : AccountWithMetadata} (h : f.account.data.bytes = []) (marker : AccountWithMetadata)
    (o : Nat) : gate f marker o = .error (FreezeError.toSpelError .NotInitialized) := by
  unfold gate
  rw [FreezeConfig.from_account_at_of_empty h]
  rfl

variable [LawfulCrates]

namespace Instruction

/-- What is left of an instruction without a config: the check in front of it. -/
theorem invoke_of_empty {i : Instruction} (hinit : ∀ a c f, i ≠ freeze_initialize a c f)
    (h : i.freeze_config_account.account.data.bytes = []) :
    i.invoke = i.check >>= fun _ => .error (FreezeError.toSpelError .NotInitialized) := by
  have hread := FreezeConfig.from_account_at_of_empty h i.config_offset
  cases hm : i.method with
  | some m =>
    rw [invoke_config i m hm, hread]
    rfl
  | none =>
    cases i
    case freeze_initialize a c f => exact absurd rfl (hinit a c f)
    case freeze_account f m c t o =>
      have hread : FreezeConfig.from_account_at f o = .error .NotInitialized := hread
      rw [invoke_freeze_account, hread]
      rfl
    case freeze_account_release f m c t o =>
      have hread : FreezeConfig.from_account_at f o = .error .NotInitialized := hread
      rw [invoke_freeze_account_release, hread]
      rfl
    all_goals cases hm

/-- The gate in front of `freeze_program` gives the answer that its body gives. -/
theorem dispatch_of_empty {i : Instruction} (hinit : ∀ a c f, i ≠ freeze_initialize a c f)
    (h : i.freeze_config_account.account.data.bytes = []) (mode : Mode) :
    i.dispatch mode = i.check >>= fun _ => .error (FreezeError.toSpelError .NotInitialized) := by
  have hinvoke := invoke_of_empty hinit h
  have hcheckInit : i.checkInit = .ok () := by
    cases i
    case freeze_initialize a c f => exact absurd rfl (hinit a c f)
    all_goals rfl
  unfold dispatch
  rw [hcheckInit, Result.ok_bind]
  cases mode with
  | manual => exact hinvoke
  | auto =>
    cases i
    case freeze_program f m c o =>
      have hgate := gate_of_empty h m o
      unfold autoWrap require_not_frozen
      simp only [freeze_config_account] at hgate ⊢
      rw [hgate]
      rfl
    all_goals exact hinvoke

end Instruction

/-- On an empty config every instruction but two answers `NotInitialized`, whatever else it is given.
`freeze_initialize` is the one it is for, and `freeze_authority_transfer` answers so to the admin. Anyone
else gets the error of the admin check, which on a shared account is that the admin is not initialized. -/
theorem uninitialized_answers {i : Instruction}
    (hinit : ∀ a c f, i ≠ Instruction.freeze_initialize a c f)
    (hempty : i.freeze_config_account.account.data.bytes = []) (mode : Mode) :
    ((∀ a f c n candidate o ao, i ≠ .freeze_authority_transfer a f c n candidate o ao) →
      i.dispatch mode = .error (FreezeError.toSpelError .NotInitialized)) ∧
    ∀ a f c n candidate o ao, i = .freeze_authority_transfer a f c n candidate o ao →
      (∀ admin, Crates.admin_from_account_at a ao = .ok admin → Crates.assert_admin admin c = .ok () →
        i.dispatch mode = .error (FreezeError.toSpelError .NotInitialized)) ∧
      (∀ admin e, Crates.admin_from_account_at a ao = .ok admin → Crates.assert_admin admin c = .error e →
        i.dispatch mode = .error (Crates.admin_error_to_spel e)) ∧
      (∀ e, Crates.admin_from_account_at a ao = .error e →
        i.dispatch mode = .error (Crates.admin_error_to_spel e)) ∧
      (a = f → i.dispatch mode = .error (Crates.admin_error_to_spel .NotInitialized)) := by
  have hdispatch := Instruction.dispatch_of_empty hinit hempty mode
  constructor
  · intro htransfer
    rw [hdispatch]
    cases i
    case freeze_authority_transfer a f c n candidate o ao =>
      exact absurd rfl (htransfer a f c n candidate o ao)
    all_goals rfl
  · rintro a f c n candidate o ao rfl
    have hread (e : AdminError) (h : Crates.admin_from_account_at a ao = .error e) :
        (Instruction.freeze_authority_transfer a f c n candidate o ao).dispatch mode =
          .error (Crates.admin_error_to_spel e) := by
      rw [hdispatch]
      simp only [Instruction.check, h, Result.mapError_error, Result.error_bind]
    refine ⟨?_, ?_, hread, ?_⟩
    · intro admin hadmin hassert
      rw [hdispatch]
      simp only [Instruction.check, hadmin, hassert, Result.mapError_ok, Result.ok_bind]
    · intro admin e hadmin hassert
      rw [hdispatch]
      simp only [Instruction.check, hadmin, hassert, Result.mapError_ok, Result.mapError_error, Result.ok_bind,
        Result.error_bind]
    · rintro rfl
      exact hread .NotInitialized (LawfulCrates.admin_from_account_at_empty a ao hempty)

end FreezeAuthority

namespace FreezeAuthority.Reference

def empty_config : AccountWithMetadata := empty_store.freeze_config

/-- A stranger asks for a transfer before `freeze_initialize`, and anyone on a shared account. -/
theorem transfer_before_initialize :
    empty_config.account.data.bytes = [] ∧
    (Instruction.freeze_authority_transfer admin_config empty_config (signer 2) (signer 3) .Signer 0 0).dispatch
      .auto = .error (.Custom 103 "signer is not the current admin") ∧
    (Instruction.freeze_authority_transfer empty_config empty_config (signer 1) (signer 3) .Signer 64
      0).dispatch .auto = .error (.Custom 101 "admin authority not initialized") ∧
    (Instruction.freeze_authority_transfer admin_config empty_config (signer 2) (signer 3) .Signer 0 0).dispatch
      .auto ≠ .error (FreezeError.toSpelError .NotInitialized) := by
  have hstranger : (Instruction.freeze_authority_transfer admin_config empty_config (signer 2) (signer 3)
      .Signer 0 0).dispatch .auto = .error (.Custom 103 "signer is not the current admin") := rfl
  refine ⟨rfl, hstranger, rfl, ?_⟩
  rw [hstranger]
  intro h
  cases h

theorem renounce_before_initialize :
    (Instruction.freeze_authority_renounce admin_config empty_config (signer 1) 0 0).dispatch .auto =
      .error (FreezeError.toSpelError .NotInitialized) := by
  have hinit : ∀ a c f, Instruction.freeze_authority_renounce admin_config empty_config (signer 1) 0 0 ≠
      Instruction.freeze_initialize a c f := by
    intro _ _ _ h
    cases h
  have hanswers := uninitialized_answers hinit rfl .auto
  apply hanswers.1
  intro _ _ _ _ _ _ _ h
  cases h

end FreezeAuthority.Reference
