import FreezeAuthority.Properties.Hosts
import FreezeAuthority.Spec.Reference

/-!
# The gate and the nomination tell the history of a run

A flag holds what the last toggle of it wrote. The nominee is the one the last nomination
named, unless a handover came after it.
-/

namespace FreezeAuthority

variable [Lez]

def Call.nomination : Call → Option AccountId
  | .freeze_authority_nominate id => some ⟨id⟩
  | .freeze_authority_accept => some .default
  | .freeze_authority_transfer _ _ => some .default
  | .freeze_authority_renounce => some .default
  | _ => none

theorem next_nominee (s : FreezeState) (call : Call) :
    (s.next call).slot.nominee = call.nomination.getD s.slot.nominee := by
  cases call <;> rfl

theorem nomination_eq_some_iff (call : Call) (id : AccountId) (hid : id ≠ .default) :
    call.nomination = some id ↔ call = .freeze_authority_nominate id.value := by
  obtain ⟨value⟩ := id
  have hid' := Ne.symm hid
  cases call <;> simp [Call.nomination, hid']

variable [Crates]

/-- The last accepted toggle of the run, as the value it wrote. -/
def Deployment.lastToggle (D : Deployment) (toggle : Call → Option Bool) (S : Store) (txs : List Tx) :
    Option Bool :=
  D.machine.lastWrite (fun tx => toggle tx.call) S txs

variable [LawfulCrates]

/-- The gate tells the history of freezes: it refuses a call by `A` exactly when the last toggle of
the program, or of `A`, is a freeze. -/
theorem gate_tells_history {D : Deployment} {S : Store} (h : D.Initialized S ∨ D.BornVacant S)
    (txs : List Tx) (A : AccountId) :
    let program := D.lastToggle Call.programToggle S txs
    let account := D.lastToggle (Call.accountToggle A.value) S txs
    let verdict := D.admits (D.machine.run S txs) A
    (verdict = .ok () ↔ program ≠ some true ∧ account ≠ some true) ∧
    (verdict = .error (FreezeError.toSpelError .Frozen) ↔ program = some true) ∧
    (verdict = .error (FreezeError.toSpelError .AccountFrozen) ↔
      program ≠ some true ∧ account = some true) := by
  obtain ⟨s, hs⟩ := Deployment.fresh_of_start h
  intro program account verdict
  have hverdict : verdict =
      if program = some true then .error (FreezeError.toSpelError .Frozen)
      else if account = some true then .error (FreezeError.toSpelError .AccountFrozen)
      else .ok () := D.hosts_itself.admits_run trivial hs txs A
  rw [hverdict]
  clear_value program account
  rcases program with _ | _ | _ <;> rcases account with _ | _ | _ <;>
    simp [FreezeError.toSpelError, FreezeError.code]

end FreezeAuthority

namespace FreezeAuthority.Reference

set_option maxRecDepth 8000 in
theorem gate_tells_history_of_freezes :
    program.admits (program.machine.run initialized
        [call 1 (.freeze_account (key 5).value), call 1 .freeze_program])
      (key 5) = .error (FreezeError.toSpelError .Frozen) :=
  (gate_tells_history (Or.inl initialized_start) _ (key 5)).2.1.mpr rfl

end FreezeAuthority.Reference

namespace FreezeAuthority

variable [Lez] [Crates] [LawfulCrates]

theorem nominee_eq_iff {D : Deployment} {S : Store} {s s' : FreezeState} (h : D.Fresh S s) (txs : List Tx)
    (h' : D.Represents (D.machine.run S txs) s') (id : AccountId) (hid : id ≠ .default) :
    s'.slot.nominee = id ↔ ∃ m tx, D.machine.AcceptedAt S txs m tx ∧
      tx.call = .freeze_authority_nominate id.value ∧
      ∀ k tx', m < k → D.machine.AcceptedAt S txs k tx' → tx'.call.nomination = none := by
  obtain ⟨s'', hrep, hreg⟩ := D.hosts_itself.register_run (fun s => s.slot.nominee) Call.nomination next_nominee
    trivial h.represents txs
  simp only [Option.bind_some] at hreg
  have hlast := D.machine.lastWrite_eq_some_iff (fun tx => tx.call.nomination) id txs S
  simp only [nomination_eq_some_iff _ _ hid] at hlast
  rw [← hlast, h'.unique hrep, hreg, h.nominee]
  cases D.machine.lastWrite (fun tx => tx.call.nomination) S txs with
  | none => simp [Ne.symm hid]
  | some b => simp

/-- A nomination is live until the next one, a transfer, an acceptance or a renounce, and while it
lives its nominee can accept. -/
theorem accept_iff_live_nomination {D : Deployment} {S : Store} (h : D.Initialized S ∨ D.BornVacant S)
    (txs : List Tx) (n : Nat) (tx : Tx) (hn : txs[n]? = some tx) (hcall : tx.call = .freeze_authority_accept) :
    D.machine.AcceptedAt S txs n tx ↔
      tx.caller.is_authorized = true ∧ tx.caller.account.program_owner ≠ .default ∧
      tx.caller.account_id ≠ .default ∧
      ∃ m tx', m < n ∧ D.machine.AcceptedAt S txs m tx' ∧
        tx'.call = .freeze_authority_nominate tx.caller.account_id.value ∧
        ∀ k tx'', m < k → k < n → D.machine.AcceptedAt S txs k tx'' → tx''.call.nomination = none := by
  obtain ⟨s, hs⟩ := Deployment.fresh_of_start h
  obtain ⟨s', hrep⟩ : ∃ s', D.Represents (D.machine.run S (txs.take n)) s' :=
    ⟨_, D.hosts_itself.follows_run trivial hs.represents (txs.take n)⟩
  have haccepted : D.machine.AcceptedAt S txs n tx ↔ s'.slot.AcceptableBy tx.caller := by
    obtain ⟨a, caller, call⟩ := tx
    subst hcall
    have haccepts := Deployment.accepts_iff_permits hrep ⟨a, caller, .freeze_authority_accept⟩
    unfold Machine.AcceptedAt
    rw [haccepts]
    exact ⟨And.right, fun hp => ⟨hn, hp⟩⟩
  have hnominee := nominee_eq_iff hs (txs.take n) hrep tx.caller.account_id
  simp only [Machine.acceptedAt_take] at hnominee
  rw [haccepted]
  constructor
  · rintro ⟨hne, hid, hauth, howned⟩
    rw [← hid] at hne
    obtain ⟨m, tx', ⟨hm, hacc⟩, hnom, hlater⟩ := (hnominee hne).mp hid.symm
    exact ⟨hauth, howned, hne, m, tx', hm, hacc, hnom, fun k tx'' hk hkn h => hlater k tx'' hk ⟨hkn, h⟩⟩
  · rintro ⟨hauth, howned, hne, m, tx', hm, hacc, hnom, hlater⟩
    have hid := (hnominee hne).mpr ⟨m, tx', ⟨hm, hacc⟩, hnom, fun k tx'' hk h => hlater k tx'' hk h.1 h.2⟩
    exact ⟨by rw [hid]; exact hne, hid.symm, hauth, howned⟩

end FreezeAuthority

namespace FreezeAuthority.Reference

set_option maxRecDepth 8000 in
theorem accept_after_freeze :
    program.machine.AcceptedAt initialized
      [call 1 (.freeze_authority_nominate (key 3).value), call 1 (.freeze_account (key 3).value),
        call 3 .freeze_authority_accept] 2 (call 3 .freeze_authority_accept) := by
  refine (accept_iff_live_nomination (Or.inl initialized_start) _ 2 _ rfl rfl).mpr
    ⟨rfl, by decide, by decide, 0, _, by decide, ⟨rfl, rfl⟩, rfl, ?_⟩
  rintro k tx hk hk' ⟨htx, -⟩
  obtain rfl : k = 1 := by omega
  cases htx
  rfl

end FreezeAuthority.Reference
