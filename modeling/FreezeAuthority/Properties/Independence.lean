import FreezeAuthority.Spec.Reference

/-!
# The slot does not look at the flags

Two runs that start from one slot, with flags and markers of their own, hold the same slot all
along. A call that moves the slot has one outcome in both.
-/

namespace FreezeAuthority

def Call.ofSlot [Lez] : Call → Bool
  | .freeze_authority_transfer _ _ => true
  | .freeze_authority_renounce => true
  | .freeze_authority_nominate _ => true
  | .freeze_authority_accept => true
  | _ => false

variable [Lez] [Crates]

/-- Where a call moves the slot, or its error. Nothing else of the state is an argument. -/
def Deployment.moveSlot (D : Deployment) (tx : Tx) (slot : AuthoritySlot) : Except SpelError AuthoritySlot :=
  let admin := Crates.admin_from_account_at tx.admin_config D.admin_offset
  let config : FreezeConfig := ⟨slot, false⟩
  match tx.call with
  | .freeze_authority_transfer new_account candidate => do
    let admin ← admin.mapError Crates.admin_error_to_spel
    (Crates.assert_admin admin tx.caller).mapError Crates.admin_error_to_spel
    let next ← fromFreeze (fromAuthority (Crates.validate candidate new_account))
    if next = .default then .error (FreezeError.toSpelError .InvalidCandidate) else .ok ⟨next, .default⟩
  | .freeze_authority_renounce => do
    fromFreeze (config.adminOrHolder admin.toOption tx.caller)
    return .vacant
  | .freeze_authority_nominate next => do
    fromFreeze (config.adminOrHolder admin.toOption tx.caller)
    return { slot with nominee := ⟨next⟩ }
  | .freeze_authority_accept => fromFreeze (fromAuthority ((Crates.slot_accept tx.caller).on slot))
  | _ => .ok slot

theorem Deployment.Same.moveSlot {D : Deployment} {tx tx' : Tx} (h : Deployment.Same D D tx tx') :
    D.moveSlot tx = D.moveSlot tx' := by
  funext slot
  unfold Deployment.moveSlot
  rw [h.call, h.caller, h.admin]

variable [LawfulCrates]

theorem step_of_slot {D : Deployment} {S : Store} {s : FreezeState} {tx : Tx} (h : D.Represents S s)
    (hcall : tx.call.ofSlot = true) :
    D.step S tx = do
      let slot ← D.moveSlot tx s.slot
      return S.withConfig D.offset ⟨slot, s.is_frozen⟩ := by
  obtain ⟨a, caller, call⟩ := tx
  unfold Deployment.moveSlot
  cases call
  case freeze_authority_transfer n candidate =>
    have hguard : D.guard S ⟨a, caller, .freeze_authority_transfer n candidate⟩ = .ok () := rfl
    rw [D.step_config S _ _ rfl, h.config]
    simp only [hguard, Deployment.instruction, Instruction.check, fromFreeze_ok, FreezeConfig.transfer_on,
      fromFreeze_bind, Result.ok_bind, bind_assoc]
    congr 1; funext admin
    congr 1; funext _
    congr 1; funext next
    split <;> rfl
  case freeze_authority_renounce =>
    rw [D.step_config S _ _ rfl, h.config]
    simp only [fromFreeze_ok, FreezeConfig.renounce_on, fromFreeze_bind, Result.ok_bind, bind_assoc]
    rfl
  case freeze_authority_nominate id =>
    rw [D.step_config S _ _ rfl, h.config]
    simp only [fromFreeze_ok, FreezeConfig.nominate_on, fromFreeze_bind, Result.ok_bind, bind_assoc]
    rfl
  case freeze_authority_accept =>
    rw [D.step_config S _ _ rfl, h.config]
    unfold FreezeConfig.accept
    simp only [fromFreeze_ok, FreezeConfig.onSlot_on, fromFreeze_bind, Result.ok_bind, bind_assoc]
    rfl
  all_goals cases hcall

def Deployment.SameSlot (D : Deployment) (S T : Store) : Prop :=
  ∃ s t, D.Represents S s ∧ D.Represents T t ∧ s.slot = t.slot

/-- What a call on the slot leaves: both runs on one slot, each with its own flags. -/
def Deployment.SlotMoved (D : Deployment) (S T S' T' : Store) : Prop :=
  D.SameSlot S' T' ∧ (D.is_frozen S' = D.is_frozen S ∧ S'.marker = S.marker) ∧
    (D.is_frozen T' = D.is_frozen T ∧ T'.marker = T.marker)

theorem agree_of_slot {D : Deployment} {S T : Store} {tx tx' : Tx} (h : D.SameSlot S T)
    (hsame : Deployment.Same D D tx tx') (hcall : tx.call.ofSlot = true) :
    Machine.Agree (D.SlotMoved S T) (D.step S tx) (D.step T tx') := by
  obtain ⟨s, t, hs, ht, hslot⟩ := h
  have hcall' : tx'.call.ofSlot = true := hsame.call ▸ hcall
  rw [step_of_slot hs hcall, step_of_slot ht hcall', hsame.moveSlot, hslot]
  cases D.moveSlot tx' t.slot with
  | error e => exact .error e
  | ok slot =>
    have hs' := Deployment.represents_withConfig hs ⟨slot, s.is_frozen⟩
    have ht' := Deployment.represents_withConfig ht ⟨slot, t.is_frozen⟩
    refine .ok ⟨⟨_, _, hs', ht', rfl⟩, ⟨?_, rfl⟩, ⟨?_, rfl⟩⟩
    · rw [Deployment.is_frozen_of_represents hs', Deployment.is_frozen_of_represents hs]
    · rw [Deployment.is_frozen_of_represents ht', Deployment.is_frozen_of_represents ht]

theorem slot_of_toggle {D : Deployment} {S : Store} {s : FreezeState} (tx : Tx) (h : D.Represents S s)
    (hcall : tx.call.ofSlot = false) : ∃ s', D.Represents (D.machine.next S tx) s' ∧ s'.slot = s.slot := by
  cases hstep : D.step S tx with
  | error e =>
    rw [D.machine.next_of_error hstep]
    exact ⟨s, h, rfl⟩
  | ok S' =>
    rw [D.machine.next_of_ok hstep]
    refine ⟨_, ((Deployment.step_refines h tx).2 S' hstep).2, ?_⟩
    obtain ⟨a, caller, call⟩ := tx
    cases call <;> first | rfl | cases hcall

theorem sameSlot_next {D : Deployment} {S T : Store} {tx tx' : Tx} (h : D.SameSlot S T)
    (hsame : Deployment.Same D D tx tx') : D.SameSlot (D.machine.next S tx) (D.machine.next T tx') := by
  cases hcall : tx.call.ofSlot with
  | true =>
    have hagree := agree_of_slot h hsame hcall
    exact Machine.Agree.next (hagree.imp fun _ _ hmoved => hmoved.1) h
  | false =>
    obtain ⟨s, t, hs, ht, hslot⟩ := h
    obtain ⟨s', hs', hslot₁⟩ := slot_of_toggle tx hs hcall
    obtain ⟨t', ht', hslot₂⟩ := slot_of_toggle tx' ht (hsame.call ▸ hcall)
    exact ⟨s', t', hs', ht', by rw [hslot₁, hslot₂, hslot]⟩

/-- The slot evolves without the flags: two runs of the same calls, from one slot with any flags and
markers, hold one slot at every step, and give every call on the slot the same answer. -/
theorem slot_independent_of_flags {D : Deployment} {S T : Store} {c d : FreezeConfig} (hc : D.config S = .ok c)
    (hd : D.config T = .ok d) (hslot : c.slot = d.slot) {txs txs' : List Tx}
    (hsame : List.Forall₂ (Deployment.Same D D) txs txs') (n : Nat) :
    let Sₙ := D.machine.run S (txs.take n)
    let Tₙ := D.machine.run T (txs'.take n)
    D.SameSlot Sₙ Tₙ ∧
    ∀ tx tx', txs[n]? = some tx → txs'[n]? = some tx' → tx.call.ofSlot = true →
      Machine.Agree (D.SlotMoved Sₙ Tₙ) (D.step Sₙ tx) (D.step Tₙ tx') := by
  have hstart : D.SameSlot S T :=
    ⟨_, _, Deployment.represents_of_config hc, Deployment.represents_of_config hd, hslot⟩
  have hrun := D.machine.run_rel D.machine D.SameSlot (Deployment.Same D D) (fun _ _ _ _ => sameSlot_next)
    (List.forall₂_take n hsame) S T hstart
  exact ⟨hrun, fun tx tx' htx htx' hcall => agree_of_slot hrun (Machine.pair_at hsame htx htx') hcall⟩

end FreezeAuthority

namespace FreezeAuthority.Reference

theorem slot_independent_of_freeze :
    program.SameSlot
      (program.machine.run (store (FreezeConfig.bytes ⟨⟨key 2, key 3⟩, true⟩))
        [call 3 .freeze_authority_accept])
      (program.machine.run (store (FreezeConfig.bytes ⟨⟨key 2, key 3⟩, false⟩))
        [call 3 .freeze_authority_accept]) :=
  have hc : program.config (store (FreezeConfig.bytes ⟨⟨key 2, key 3⟩, true⟩)) =
    .ok ⟨⟨key 2, key 3⟩, true⟩ := rfl
  have hd : program.config (store (FreezeConfig.bytes ⟨⟨key 2, key 3⟩, false⟩)) =
    .ok ⟨⟨key 2, key 3⟩, false⟩ := rfl
  (slot_independent_of_flags hc hd rfl (.cons ⟨rfl, rfl, rfl⟩ .nil) 1).1

end FreezeAuthority.Reference
