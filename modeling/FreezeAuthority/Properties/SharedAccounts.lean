import FreezeAuthority.Lib.Distinct
import FreezeAuthority.Spec.Reference

/-!
# One post-state per account id

LEZ wants one post-state per id. `post_state_pair` merges the two config roles. The caller and the
new account come after it, under whatever ids they have.
-/

namespace FreezeAuthority

variable [Lez]

namespace Instruction

/-- The three instructions that take both configs, with the accounts after the two. -/
inductive TakesBoth : Instruction → AccountWithMetadata → AccountWithMetadata →
    List (Role × AccountWithMetadata) → Prop
  | transfer (a f c n : AccountWithMetadata) (candidate : FreezeCandidate) (o ao : Nat) :
    TakesBoth (.freeze_authority_transfer a f c n candidate o ao) a f [(.caller, c), (.new_account, n)]
  | nominate (a f c : AccountWithMetadata) (next : Bytes32) (o ao : Nat) :
    TakesBoth (.freeze_authority_nominate a f c next o ao) a f [(.caller, c)]
  | renounce (a f c : AccountWithMetadata) (o ao : Nat) :
    TakesBoth (.freeze_authority_renounce a f c o ao) a f [(.caller, c)]

/-- One post-state per distinct id, in order of first appearance: `written` for the id of the config, an
account as it was passed for every other. -/
def OnePerId (i : Instruction) (written : AccountWithMetadata) (posts : List AccountPostState) : Prop :=
  List.Forall₂ (fun id post =>
      if id = i.freeze_config_account.account_id then post = .of_account written.account
      else ∃ x ∈ i.accounts, x.2.account_id = id ∧ post = .of_account x.2.account)
    (i.accounts.map (·.2.account_id)).eraseDups posts

/-- What the instruction left in the config account. -/
def Written [Crates] (i : Instruction) (written : AccountWithMetadata) : Prop :=
  ∃ m, i.method = some m ∧ (FreezeConfig.perform_at i.config_offset m).on i.freeze_config_account = .ok written

/-- The accounts after the configs have ids of their own. The two configs may share one. -/
def RestApart (a f : AccountWithMetadata) (rest : List (Role × AccountWithMetadata)) : Prop :=
  (rest.map (·.2.account_id)).Nodup ∧
    ∀ x ∈ rest, x.2.account_id ≠ a.account_id ∧ x.2.account_id ≠ f.account_id

variable {i : Instruction} {a f : AccountWithMetadata} {rest : List (Role × AccountWithMetadata)}

theorem TakesBoth.accounts (h : i.TakesBoth a f rest) :
    i.accounts = (.admin_config, a) :: (.freeze_config, f) :: rest := by
  cases h <;> rfl

theorem TakesBoth.freeze_config_account (h : i.TakesBoth a f rest) : i.freeze_config_account = f := by
  cases h <;> rfl

theorem TakesBoth.transactionAccounts (h : i.TakesBoth a f rest) :
    i.transactionAccounts = if a.account_id = f.account_id then (.freeze_config, f) :: rest
      else (.admin_config, a) :: (.freeze_config, f) :: rest := by
  unfold Instruction.transactionAccounts
  rw [h.accounts]

/-! ## The ids -/

/-- The merge of the two configs drops a repeated id and nothing else. -/
theorem TakesBoth.eraseDups_ids (h : i.TakesBoth a f rest) :
    (i.accounts.map (·.2.account_id)).eraseDups = (i.transactionAccounts.map (·.2.account_id)).eraseDups := by
  rw [h.accounts, h.transactionAccounts]
  split
  · next hid =>
    simp only [List.map_cons]
    rw [hid]
    exact Distinct.eraseDups_cons_cons_self _ _
  · rfl

theorem TakesBoth.nodup_ids_iff (h : i.TakesBoth a f rest) :
    (i.transactionAccounts.map (·.2.account_id)).Nodup ↔ RestApart a f rest := by
  have hmem (id : AccountId) : id ∉ rest.map (·.2.account_id) ↔ ∀ x ∈ rest, x.2.account_id ≠ id := by
    simp
  unfold RestApart
  rw [h.transactionAccounts]
  split
  · next hid =>
    rw [List.map_cons, List.nodup_cons, hmem, hid]
    constructor
    · rintro ⟨hf, hrest⟩
      exact ⟨hrest, fun x hx => ⟨hf x hx, hf x hx⟩⟩
    · rintro ⟨hrest, hapart⟩
      exact ⟨fun x hx => (hapart x hx).2, hrest⟩
  · next hid =>
    rw [List.map_cons, List.map_cons, List.nodup_cons, List.nodup_cons, List.mem_cons, not_or, hmem, hmem]
    constructor
    · rintro ⟨⟨-, ha⟩, hf, hrest⟩
      exact ⟨hrest, fun x hx => ⟨ha x hx, hf x hx⟩⟩
    · rintro ⟨hrest, hapart⟩
      exact ⟨⟨hid, fun x hx => (hapart x hx).1⟩, fun x hx => (hapart x hx).2, hrest⟩

/-! ## The post-states -/

theorem TakesBoth.restApart_of_onePerId (h : i.TakesBoth a f rest) {written : AccountWithMetadata}
    (hone : i.OnePerId written (postStates i.transactionAccounts .freeze_config written)) :
    RestApart a f rest := by
  have hlen := hone.length_eq
  rw [h.eraseDups_ids] at hlen
  apply h.nodup_ids_iff.mp
  apply Distinct.nodup_of_length_eraseDups
  rw [hlen]
  unfold postStates
  rw [List.length_map, List.length_map]

/-- Where the ids are distinct, the config is the account with the role of the config. -/
theorem TakesBoth.id_eq_iff (h : i.TakesBoth a f rest) (hapart : RestApart a f rest)
    {x : Role × AccountWithMetadata} (hx : x ∈ i.transactionAccounts) :
    x.2.account_id = f.account_id ↔ x.1 = .freeze_config := by
  constructor
  · intro hid
    rw [h.transactionAccounts] at hx
    split at hx
    · rcases List.mem_cons.mp hx with rfl | hx
      · rfl
      · exact absurd hid (hapart.2 x hx).2
    · next hne =>
      rcases List.mem_cons.mp hx with rfl | hx
      · exact absurd hid hne
      · rcases List.mem_cons.mp hx with rfl | hx
        · rfl
        · exact absurd hid (hapart.2 x hx).2
  · intro hrole
    rw [i.config_of_mem x (Deployment.mem_accounts hx) hrole, h.freeze_config_account]

theorem TakesBoth.onePerId_of_restApart (h : i.TakesBoth a f rest) (written : AccountWithMetadata)
    (hapart : RestApart a f rest) :
    i.OnePerId written (postStates i.transactionAccounts .freeze_config written) := by
  have hnodup := h.nodup_ids_iff.mpr hapart
  unfold OnePerId postStates
  rw [h.eraseDups_ids, Distinct.eraseDups_of_nodup hnodup, List.forall₂_map_left_iff,
    List.forall₂_map_right_iff, List.forall₂_same, h.freeze_config_account]
  intro x hx
  have hid := h.id_eq_iff hapart hx
  split
  · next hconfig => rw [if_pos (hid.mp hconfig)]
  · next hother =>
    rw [if_neg (fun hrole => hother (hid.mpr hrole))]
    exact ⟨x, Deployment.mem_accounts hx, rfl, rfl⟩

variable [Crates] [LawfulCrates]

/-- An accepted call returns the post-states of its accounts, with the written copy for the config. -/
theorem TakesBoth.written_of_invoke (h : i.TakesBoth a f rest) {out : SpelOutput} (hout : i.invoke = .ok out) :
    ∃ written, i.Written written ∧ (∀ w, i.Written w → w = written) ∧
      out.post_states = postStates i.transactionAccounts .freeze_config written := by
  obtain ⟨m, hm⟩ : ∃ m, i.method = some m := by
    cases h <;> exact ⟨_, rfl⟩
  rw [invoke_config i m hm] at hout
  obtain ⟨_, -, hout⟩ := Result.bind_eq_ok.mp hout
  obtain ⟨c, hc, hout⟩ := Result.bind_eq_ok.mp hout
  obtain ⟨c', hc', hout⟩ := Result.bind_eq_ok.mp hout
  cases hout
  have hperform : (FreezeConfig.perform_at i.config_offset m).on i.freeze_config_account =
      .ok (i.freeze_config_account.withConfig i.config_offset c') := by
    rw [FreezeConfig.perform_at_on, Result.mapError_eq_ok.mp hc, Result.ok_bind, Result.mapError_eq_ok.mp hc']
    rfl
  refine ⟨_, ⟨m, hm, hperform⟩, ?_, rfl⟩
  rintro w ⟨m', hm', hw⟩
  rw [hm] at hm'
  cases hm'
  rw [hperform] at hw
  cases hw
  rfl

end Instruction

variable [Crates] [LawfulCrates]

/-- An accepted call of the three has one post-state per distinct id, in order of first appearance and with
the written config, exactly when the caller and the new account differ from each other and from both
configs. -/
theorem one_per_id_iff {i : Instruction} {a f : AccountWithMetadata} {rest : List (Role × AccountWithMetadata)}
    (h : i.TakesBoth a f rest) {out : SpelOutput} (hout : i.invoke = .ok out) :
    (∃ written, i.Written written ∧ i.OnePerId written out.post_states) ↔ Instruction.RestApart a f rest := by
  obtain ⟨written, hwritten, hunique, hposts⟩ := h.written_of_invoke hout
  rw [hposts]
  constructor
  · rintro ⟨w, hw, hone⟩
    obtain rfl := hunique w hw
    exact h.restApart_of_onePerId hone
  · intro hapart
    exact ⟨written, hwritten, h.onePerId_of_restApart written hapart⟩

end FreezeAuthority

namespace FreezeAuthority.Reference

/-- The admin signs and appoints itself. -/
def self_appointment : Instruction :=
  .freeze_authority_transfer admin_config initialized.freeze_config (signer 1) (signer 1) .Signer 0 0

set_option maxRecDepth 8000 in
theorem self_appointment_repeats_the_admin :
    ∃ out, self_appointment.invoke = .ok out ∧ out.post_states.length = 4 ∧
      (self_appointment.accounts.map (·.2.account_id)).eraseDups.length = 3 ∧
      ∀ written, ¬self_appointment.OnePerId written out.post_states := by
  obtain ⟨out, hout, hlen⟩ : ∃ out, self_appointment.invoke = .ok out ∧ out.post_states.length = 4 :=
    ⟨_, rfl, rfl⟩
  have hids : (self_appointment.accounts.map (·.2.account_id)).eraseDups.length = 3 := by decide
  refine ⟨out, hout, hlen, hids, ?_⟩
  intro written hone
  have hsame := hone.length_eq
  omega

set_option maxRecDepth 8000 in
theorem one_per_id_on_shared :
    ∃ out, (Instruction.freeze_authority_renounce shared shared (signer 1) 64 0).invoke = .ok out ∧
      ∃ written, (Instruction.freeze_authority_renounce shared shared (signer 1) 64 0).OnePerId written
        out.post_states := by
  obtain ⟨out, hout⟩ : ∃ out, (Instruction.freeze_authority_renounce shared shared (signer 1) 64 0).invoke =
      .ok out := ⟨_, rfl⟩
  have hapart : Instruction.RestApart shared shared [(.caller, signer 1)] := by
    constructor
    · simp
    · intro x hx
      obtain rfl := List.mem_singleton.mp hx
      have hne : key 1 ≠ key 101 := by decide
      exact ⟨hne, hne⟩
  obtain ⟨written, -, hone⟩ := (one_per_id_iff (.renounce shared shared (signer 1) 64 0) hout).mpr hapart
  exact ⟨out, hout, written, hone⟩

end FreezeAuthority.Reference
