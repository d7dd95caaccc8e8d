import FreezeAuthority.Properties.Uninitialized

/-!
# Initialized once, by the admin

Whoever calls what before it, the first `freeze_initialize` that the admin signs goes through. No call is
accepted before it, and no other `freeze_initialize` ever is.
-/

namespace FreezeAuthority

variable [Lez] [Crates]

/-- A `freeze_initialize` that the admin signs, on an account that some program owns. -/
structure Tx.Initializes (tx : Tx) : Prop where
  call : tx.call = Call.freeze_initialize
  signed : AdminSigned tx.admin_config 0 tx.caller
  owned : tx.caller.account.program_owner ≠ .default

/-- The state right after it: the admin holds the slot, and the program is not frozen. -/
def Tx.installed (tx : Tx) (S : Store) : FreezeState := ⟨⟨tx.caller.account_id, .default⟩, false, S.marked⟩

variable [LawfulCrates] {D : Deployment} {S : Store}

omit [Crates] [LawfulCrates] in
theorem bytes_of_new (hnew : S.freeze_config.account = .default) : S.freeze_config.account.data.bytes = [] := by
  rw [hnew]
  rfl

theorem initializes_of_step (hnew : S.freeze_config.account = .default) {tx : Tx} {S' : Store}
    (h : D.step S tx = .ok S') : tx.Initializes := by
  by_cases hcall : tx.call = Call.freeze_initialize
  · obtain ⟨a, caller, call⟩ := tx
    subst hcall
    obtain ⟨-, hadmin, hev, -, -⟩ := (Deployment.step_initialize_eq_ok_iff _ _ _ _ _).mp h
    exact ⟨rfl, (require_admin_eq_ok_iff _ _).mp hadmin, hev.2.1⟩
  · obtain ⟨c, hc⟩ := Deployment.config_of_step h hcall
    unfold Deployment.config at hc
    rw [FreezeConfig.from_account_at_of_empty (bytes_of_new hnew)] at hc
    cases hc

theorem step_of_initializes (hnew : S.freeze_config.account = .default)
    (hfits : FreezeConfig.SIZE ≤ Lez.dataMaxLength) {tx : Tx} (h : tx.Initializes) :
    ∃ S', D.step S tx = .ok S' := by
  obtain ⟨a, caller, call⟩ := tx
  obtain ⟨rfl, hadmin, howned⟩ := h
  have hsigned : caller.is_authorized = true := hadmin.choose_spec.2.2.2
  have hne : caller.account_id ≠ .default := by
    obtain ⟨admin, -, hne, hid, -⟩ := hadmin
    rwa [← hid] at hne
  have hlen := FreezeConfig.length_bytes ⟨⟨caller.account_id, .default⟩, false⟩
  exact ⟨_, (Deployment.step_initialize_eq_ok_iff _ _ _ _ _).mpr
    ⟨hnew, (require_admin_eq_ok_iff _ _).mpr hadmin, ⟨rfl, howned, hsigned⟩, hne,
      ⟨_, hlen ▸ hfits⟩, rfl, rfl⟩⟩

theorem represents_of_initializes (hoffset : D.offset = 0) {tx : Tx} (h : tx.Initializes) {S' : Store}
    (hstep : D.step S tx = .ok S') : D.Represents S' (tx.installed S) := by
  obtain ⟨a, caller, call⟩ := tx
  obtain ⟨rfl, -, -⟩ := h
  exact Deployment.represents_of_initialize hoffset hstep

/-- A config that exists is never initialized again. -/
theorem accepted_of_represents {s : FreezeState} (h : D.Represents S s) (txs : List Tx) :
    ∀ tx ∈ D.machine.accepted S txs, tx.call ≠ Call.freeze_initialize := by
  refine D.machine.accepted_inv (fun S => ∃ s, D.Represents S s) _ ?_ txs S ⟨s, h⟩
  rintro S tx S' ⟨s, hrep⟩ hstep
  refine ⟨?_, _, ((Deployment.step_refines hrep tx).2 S' hstep).2⟩
  intro hcall
  obtain ⟨a, caller, call⟩ := tx
  subst hcall
  exact Deployment.step_initialize_refused hrep a caller S' hstep

/-- From accounts that are not initialized, in any run. Either it has no `freeze_initialize` that the admin
signs, and then every call is refused, nothing changes and the gate answers `NotInitialized`. Or the first
such call, whatever stands before it, is the first that is accepted. It makes its signer the holder, and every
later `freeze_initialize` is refused. -/
theorem initialized_once_by_the_admin (hoffset : D.offset = 0) (hnew : S.freeze_config.account = .default)
    (hfits : FreezeConfig.SIZE ≤ Lez.dataMaxLength) (txs : List Tx) :
    ((∀ tx ∈ txs, ¬tx.Initializes) ∧ D.machine.accepted S txs = [] ∧ D.machine.run S txs = S ∧
      ∀ A, D.admits S A = .error (FreezeError.toSpelError .NotInitialized)) ∨
    ∃ before tx after S', txs = before ++ tx :: after ∧ (∀ tx' ∈ before, ¬tx'.Initializes) ∧
      tx.Initializes ∧ D.step S tx = .ok S' ∧ D.Represents S' (tx.installed S) ∧
      D.machine.run S txs = D.machine.run S' after ∧
      D.machine.accepted S txs = tx :: D.machine.accepted S' after ∧
      ∀ tx' ∈ D.machine.accepted S' after, tx'.call ≠ Call.freeze_initialize := by
  induction txs with
  | nil => exact Or.inl ⟨by simp, rfl, rfl, fun A => gate_of_empty (bytes_of_new hnew) _ _⟩
  | cons tx txs ih =>
    cases hstep : D.step S tx with
    | ok S' =>
      have hinit := initializes_of_step hnew hstep
      have hrep := represents_of_initializes hoffset hinit hstep
      have hrun : D.machine.run S (tx :: txs) = D.machine.run S' txs := by
        rw [Machine.run_cons, D.machine.next_of_ok hstep]
      exact Or.inr ⟨[], tx, txs, S', rfl, by simp, hinit, hstep, hrep, hrun,
        D.machine.accepted_of_ok hstep txs, accepted_of_represents hrep txs⟩
    | error e =>
      have hrefused : ¬tx.Initializes := by
        intro h
        obtain ⟨S', hok⟩ := step_of_initializes (D := D) hnew hfits h
        rw [hstep] at hok
        cases hok
      have hrun : D.machine.run S (tx :: txs) = D.machine.run S txs := by
        rw [Machine.run_cons, D.machine.next_of_error hstep]
      rw [hrun, D.machine.accepted_of_error hstep]
      rcases ih with ⟨hnone, hacc, hsame, hgate⟩ | ⟨before, tx', after, S', rfl, hbefore, hrest⟩
      · exact Or.inl ⟨List.forall_mem_cons.mpr ⟨hrefused, hnone⟩, hacc, hsame, hgate⟩
      · exact Or.inr ⟨tx :: before, tx', after, S', rfl, List.forall_mem_cons.mpr ⟨hrefused, hbefore⟩, hrest⟩

end FreezeAuthority

namespace FreezeAuthority.Reference

/-- A stranger is first to call, and the admin is initialized. -/
theorem stranger_does_not_front_run :
    program.slot (program.machine.run empty_store
      [call 2 Call.freeze_initialize, call 1 Call.freeze_initialize]) = ⟨key 1, .default⟩ := by
  have hadmin : (call 1 Call.freeze_initialize).Initializes :=
    ⟨rfl, ⟨⟨key 1, .default⟩, rfl, by decide, rfl, rfl⟩, by decide⟩
  have hstranger : ¬(call 2 Call.freeze_initialize).Initializes := by
    rintro ⟨-, ⟨admin, hadmin, -, hid, -⟩, -⟩
    cases hadmin
    exact absurd hid (by decide)
  rcases initialized_once_by_the_admin (D := program) (S := empty_store) rfl rfl (by decide)
    [call 2 Call.freeze_initialize, call 1 Call.freeze_initialize] with
    ⟨hnone, -⟩ | ⟨before, tx, after, S', htxs, -, hinit, -, hrep, hrun, -⟩
  · exact absurd hadmin (hnone _ (by simp))
  · rcases before with _ | ⟨first, _ | ⟨second, before⟩⟩
    · obtain ⟨rfl, -⟩ := List.cons.inj htxs
      exact absurd hinit hstranger
    · obtain ⟨-, htxs⟩ := List.cons.inj htxs
      obtain ⟨rfl, rfl⟩ := List.cons.inj htxs
      rw [hrun]
      exact Deployment.slot_of_represents hrep
    · have hlength := congrArg List.length htxs
      simp at hlength

end FreezeAuthority.Reference
