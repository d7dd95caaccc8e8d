import FreezeAuthority.Spec.Reference

/-!
# A failed call changes nothing

Each `&mut` method reads and checks first, works on copies, and writes once at its end.
-/

namespace FreezeAuthority

open Borrow

/-- The slot is assigned what its method left, so it is unchanged where the method is atomic. -/
theorem FreezeConfig.onSlot_atomic {m : Borrow AuthoritySlot AuthorityError Unit} (h : Atomic m) :
    Atomic (onSlot m) := by
  intro c e hcall
  unfold onSlot fromAuthority at hcall ⊢
  rcases hm : m.call c.slot with ⟨r, slot⟩
  have hslot := h c.slot
  rw [hm] at hslot
  simp only [call_bind, call_get, hm, call_set, call_attempt] at hcall ⊢
  cases r with
  | ok a => cases hcall
  | error e' =>
    have hslot : slot = c.slot := hslot e' rfl
    rw [hslot]

variable [Lez]

theorem FreezeConfig.assignData_atomic (bytes : List UInt8) : Atomic (assignData bytes) := by
  unfold assignData
  apply (readOnly_attempt _).bind
  intro data
  exact atomic_modify _

variable [Crates]

namespace FreezeConfig

theorem set_is_frozen_atomic (current : AccountWithMetadata) (state : Bool) :
    Atomic (set_is_frozen current state) := by
  unfold set_is_frozen
  exact atomic_check_set _ _

theorem transfer_atomic (h : ∀ id, Atomic (Crates.slot_transfer_to id)) (candidate : FreezeCandidate)
    (new_account : AccountWithMetadata) : Atomic (transfer candidate new_account) := by
  unfold transfer
  apply (readOnly_attempt _).bind
  intro next
  exact onSlot_atomic (h next)

theorem renounce_atomic (admin_config : Option Crates.AdminConfig) (current : AccountWithMetadata) :
    Atomic (renounce admin_config current) := by
  unfold renounce
  exact atomic_check_set _ _

theorem nominate_atomic (admin_config : Option Crates.AdminConfig) (current : AccountWithMetadata)
    (next : AccountId) : Atomic (nominate admin_config current next) := by
  unfold nominate
  exact atomic_check_set _ _

theorem write_to_atomic (c : FreezeConfig) : Atomic c.write_to := by
  unfold write_to
  apply (readOnly_attempt _).bind
  intro bytes
  exact assignData_atomic bytes

/-- Both splices are made in a copy of the data. -/
theorem write_to_at_atomic (c : FreezeConfig) (offset : Nat) : Atomic (c.write_to_at offset) := by
  unfold write_to_at
  apply readOnly_get.bind
  intro a
  apply (readOnly_attempt _).bind
  intro bytes
  apply (readOnly_attempt _).bind
  intro bytes'
  exact assignData_atomic bytes'

theorem bootstrap_atomic (candidate : FreezeCandidate) (new_account : AccountWithMetadata) :
    Atomic (bootstrap candidate new_account) := by
  unfold bootstrap
  apply (readOnly_attempt _).bind
  intro resolved
  apply (readOnly_attempt _).bind
  intro state
  exact state.write_to_atomic

theorem bootstrap_at_atomic (offset : Nat) (candidate : FreezeCandidate) (new_account : AccountWithMetadata) :
    Atomic (bootstrap_at offset candidate new_account) := by
  unfold bootstrap_at
  apply (readOnly_attempt _).bind
  intro resolved
  apply (readOnly_attempt _).bind
  intro state
  exact state.write_to_at_atomic offset

/-- The method runs on a copy, so nothing is asked of it. -/
theorem perform_at_atomic (offset : Nat) (m : Borrow FreezeConfig FreezeError Unit) :
    Atomic (perform_at offset m) := by
  unfold perform_at
  apply readOnly_get.bind
  intro a
  apply (readOnly_attempt _).bind
  intro state
  apply (readOnly_attempt _).bind
  intro state'
  exact state'.write_to_at_atomic offset

end FreezeConfig

namespace FrozenAccountState

theorem write_to_atomic (s : FrozenAccountState) : Atomic s.write_to := by
  unfold write_to
  apply (readOnly_attempt _).bind
  intro bytes
  exact FreezeConfig.assignData_atomic bytes

theorem set_is_frozen_atomic (authority_state : FreezeConfig) (caller : AccountWithMetadata) (state : Bool) :
    Atomic (set_is_frozen authority_state caller state) := by
  unfold set_is_frozen
  apply (readOnly_attempt _).bind
  intro _
  exact atomic_modify _

theorem perform_freeze_atomic (authority_state : FreezeConfig) (current : AccountWithMetadata) :
    Atomic (perform_freeze authority_state current) := by
  unfold perform_freeze
  apply readOnly_get.bind
  intro a
  apply (readOnly_attempt _).bind
  intro state
  apply (readOnly_attempt _).bind
  intro state'
  exact state'.write_to_atomic

theorem perform_release_atomic (authority_state : FreezeConfig) (current : AccountWithMetadata) :
    Atomic (perform_release authority_state current) := by
  unfold perform_release
  apply (readOnly_attempt _).bind
  intro _
  apply readOnly_get.bind
  intro a
  apply (readOnly_attempt _).bind
  intro state
  cases state.is_frozen with
  | false => exact atomic_throw _
  | true =>
    apply (readOnly_attempt _).bind
    intro state'
    exact state'.write_to_atomic

end FrozenAccountState

/-- Each of the nineteen `&mut` functions leaves its argument as it was when it fails. -/
structure FailuresChangeNothing : Prop where
  -- On a `&mut FreezeConfig`.
  set_is_frozen (current : AccountWithMetadata) (state : Bool) :
    Atomic (FreezeConfig.set_is_frozen current state)
  transfer (candidate : FreezeCandidate) (new_account : AccountWithMetadata) :
    Atomic (FreezeConfig.transfer candidate new_account)
  renounce (admin_config : Option Crates.AdminConfig) (current : AccountWithMetadata) :
    Atomic (FreezeConfig.renounce admin_config current)
  nominate (admin_config : Option Crates.AdminConfig) (current : AccountWithMetadata) (next : AccountId) :
    Atomic (FreezeConfig.nominate admin_config current next)
  accept (nominee : AccountWithMetadata) : Atomic (FreezeConfig.accept nominee)
  -- On a `&mut` account that holds a config.
  write_to (self : FreezeConfig) : Atomic self.write_to
  write_to_at (self : FreezeConfig) (offset : Nat) : Atomic (self.write_to_at offset)
  bootstrap (new_authority : FreezeCandidate) (new_authority_account : AccountWithMetadata) :
    Atomic (FreezeConfig.bootstrap new_authority new_authority_account)
  bootstrap_at (offset : Nat) (candidate : FreezeCandidate) (new_account : AccountWithMetadata) :
    Atomic (FreezeConfig.bootstrap_at offset candidate new_account)
  perform_transfer_at (offset : Nat) (candidate : FreezeCandidate) (new_account : AccountWithMetadata) :
    Atomic (FreezeConfig.perform_transfer_at offset candidate new_account)
  perform_renounce_at (admin_config : Option Crates.AdminConfig) (offset : Nat)
    (current : AccountWithMetadata) : Atomic (FreezeConfig.perform_renounce_at admin_config offset current)
  perform_nominate_at (admin_config : Option Crates.AdminConfig) (offset : Nat)
    (current : AccountWithMetadata) (next : AccountId) :
    Atomic (FreezeConfig.perform_nominate_at admin_config offset current next)
  perform_accept_at (offset : Nat) (nominee : AccountWithMetadata) :
    Atomic (FreezeConfig.perform_accept_at offset nominee)
  perform_freeze_at (offset : Nat) (current : AccountWithMetadata) :
    Atomic (FreezeConfig.perform_freeze_at offset current)
  perform_release_at (offset : Nat) (current : AccountWithMetadata) :
    Atomic (FreezeConfig.perform_release_at offset current)
  -- On a marker.
  marker_set_is_frozen (authority_state : FreezeConfig) (caller : AccountWithMetadata) (state : Bool) :
    Atomic (FrozenAccountState.set_is_frozen authority_state caller state)
  marker_write_to (self : FrozenAccountState) : Atomic self.write_to
  perform_freeze (authority_state : FreezeConfig) (current : AccountWithMetadata) :
    Atomic (FrozenAccountState.perform_freeze authority_state current)
  perform_release (authority_state : FreezeConfig) (current : AccountWithMetadata) :
    Atomic (FrozenAccountState.perform_release authority_state current)

/-- Only a direct `transfer` or `accept` runs a method of `authority` on the caller's own slot, so only
these two ask it to fail without a change. -/
theorem failures_change_nothing (htransfer : ∀ id, Atomic (Crates.slot_transfer_to id))
    (haccept : ∀ nominee, Atomic (Crates.slot_accept nominee)) : FailuresChangeNothing where
  set_is_frozen := FreezeConfig.set_is_frozen_atomic
  transfer := FreezeConfig.transfer_atomic htransfer
  renounce := FreezeConfig.renounce_atomic
  nominate := FreezeConfig.nominate_atomic
  accept nominee := FreezeConfig.onSlot_atomic (haccept nominee)
  write_to := FreezeConfig.write_to_atomic
  write_to_at := FreezeConfig.write_to_at_atomic
  bootstrap := FreezeConfig.bootstrap_atomic
  bootstrap_at := FreezeConfig.bootstrap_at_atomic
  perform_transfer_at offset _ _ := FreezeConfig.perform_at_atomic offset _
  perform_renounce_at _ offset _ := FreezeConfig.perform_at_atomic offset _
  perform_nominate_at _ offset _ _ := FreezeConfig.perform_at_atomic offset _
  perform_accept_at offset _ := FreezeConfig.perform_at_atomic offset _
  perform_freeze_at offset _ := FreezeConfig.perform_at_atomic offset _
  perform_release_at offset _ := FreezeConfig.perform_at_atomic offset _
  marker_set_is_frozen := FrozenAccountState.set_is_frozen_atomic
  marker_write_to := FrozenAccountState.write_to_atomic
  perform_freeze := FrozenAccountState.perform_freeze_atomic
  perform_release := FrozenAccountState.perform_release_atomic

end FreezeAuthority

namespace FreezeAuthority.Reference

theorem slot_transfer_to_atomic (id : AccountId) : Borrow.Atomic (slot_transfer_to id) := by
  unfold slot_transfer_to
  split
  · exact Borrow.atomic_throw _
  · exact Borrow.atomic_set _

theorem slot_accept_atomic (nominee : AccountWithMetadata) : Borrow.Atomic (slot_accept nominee) := by
  unfold slot_accept
  exact Borrow.atomic_check_set _ _

/-- The slot fits before the end of the data, and the flag does not. -/
theorem failures_change_nothing_at_the_end :
    (((FreezeConfig.mk ⟨key 1, .default⟩ true).write_to_at 65).call shared).2 = shared := by
  have hatomic := failures_change_nothing slot_transfer_to_atomic slot_accept_atomic
  have hshort : shared.account.data.bytes.length < 65 + FreezeConfig.SIZE := by
    rw [length_shared]
    decide
  apply hatomic.write_to_at _ 65 shared .SlotOutOfBounds
  rw [FreezeConfig.write_to_at_call_of_short _ 65 shared hshort]

end FreezeAuthority.Reference
