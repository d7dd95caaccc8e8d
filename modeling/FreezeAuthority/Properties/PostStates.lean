import FreezeAuthority.Spec.Reference

/-!
# Post-states line up with the accounts

LEZ pairs post-states with accounts by position. Each instruction returns one per distinct account,
in declared order, and changes no byte outside what it declares.
-/

namespace FreezeAuthority

variable [Lez]

namespace Instruction

def written : Instruction → Role
  | .freeze_account _ _ _ target _ => .marker target
  | .freeze_account_release _ _ _ target _ => .marker target
  | _ => .freeze_config

/-- Distinct accounts, but for one that comes as a copy in both config roles. -/
def DistinctIds (i : Instruction) : Prop :=
  i.accounts.Pairwise fun x y => x.2.account_id = y.2.account_id →
    x.1 = .admin_config ∧ y.1 = .freeze_config ∧ x.2 = y.2

/-! ## The accounts of a transaction -/

theorem transactionAccounts_sublist (i : Instruction) : i.transactionAccounts.Sublist i.accounts := by
  unfold transactionAccounts
  split
  · next hi =>
    rw [hi]
    split
    · exact List.sublist_cons_self _ _
    · exact List.Sublist.refl _
  · exact List.Sublist.refl _

/-- Only a copy of the config account is dropped, in favour of the one that is written. -/
theorem mem_transactionAccounts {i : Instruction} (h : i.DistinctIds) {x : Role × AccountWithMetadata}
    (hx : x ∈ i.accounts) : x ∈ i.transactionAccounts ∨
      x.1 = .admin_config ∧ ∃ y ∈ i.transactionAccounts, y.1 = .freeze_config ∧ x.2 = y.2 := by
  unfold DistinctIds at h
  unfold transactionAccounts
  split
  · next a f rest hi =>
    rw [hi] at h hx
    split
    · next hid =>
      rcases List.mem_cons.mp hx with rfl | hx
      · have hcopy := (List.pairwise_cons.mp h).1 (.freeze_config, f) List.mem_cons_self hid
        exact Or.inr ⟨rfl, _, List.mem_cons_self, rfl, hcopy.2.2⟩
      · exact Or.inl hx
    · exact Or.inl hx
  · exact Or.inl hx

variable [Crates]

/-! ## What an instruction writes -/

/-- The config in the window at `o` changed by `m`, and every byte beside the window as it was. -/
structure Splices (m : Borrow FreezeConfig FreezeError Unit) (o : Nat) (before after : Data) : Prop where
  config : ∃ c c', FreezeConfig.decode_at before.bytes o = .ok c ∧ m.on c = .ok c' ∧
    FreezeConfig.decode_at after.bytes o = .ok c'
  length : after.bytes.length = before.bytes.length
  outside : ∀ j, j < o ∨ o + FreezeConfig.SIZE ≤ j → after.bytes[j]? = before.bytes[j]?

def WritesData (i : Instruction) (before after : Data) : Prop :=
  match i with
  | freeze_initialize _ caller _ => after.bytes = FreezeConfig.bytes ⟨⟨caller.account_id, .default⟩, false⟩
  | .freeze_account _ _ _ _ _ => after.bytes = FrozenAccountState.bytes ⟨true⟩
  | .freeze_account_release _ _ _ _ _ => after.bytes = FrozenAccountState.bytes ⟨false⟩
  | i => ∃ m, i.method = some m ∧ Splices m i.config_offset before after

def claim : Instruction → Option Claim
  | freeze_initialize _ _ _ => some (.Pda ⟨Crates.seed_from_str "freeze_config"⟩)
  | .freeze_account _ frozen_pda _ target _ => frozen_pda.markerClaim target
  | _ => none

structure Writes (i : Instruction) (before : Account) (post : AccountPostState) : Prop where
  program_owner : post.account.program_owner = before.program_owner
  balance : post.account.balance = before.balance
  nonce : post.account.nonce = before.nonce
  data : i.WritesData before.data post.account.data
  required_claim : post.required_claim = i.claim

/-- The post-state for an account: the write where it is due, the account as it was elsewhere. -/
def Leaves (i : Instruction) (x : Role × AccountWithMetadata) (post : AccountPostState) : Prop :=
  if x.1 = i.written then i.Writes x.2.account post else post = .of_account x.2.account

end Instruction

variable [Crates]

theorem Instruction.invoke_of_dispatch {i : Instruction} {mode : Mode} {out : SpelOutput}
    (h : i.dispatch mode = .ok out) : i.checkInit = .ok () ∧ i.invoke = .ok out := by
  unfold dispatch at h
  obtain ⟨_, hinit, h⟩ := Result.bind_eq_ok.mp h
  refine ⟨hinit, ?_⟩
  cases mode with
  | manual => exact h
  | auto =>
    unfold autoWrap at h
    simp only at h
    split at h
    · obtain ⟨_, -, h⟩ := Result.bind_eq_ok.mp h
      exact h
    · exact h

theorem leaves_marker {i : Instruction} {m : AccountWithMetadata} {s : FrozenAccountState} {t : Bytes32}
    {f c : AccountWithMetadata} (haccounts : i.accounts = [(.freeze_config, f), (.marker t, m), (.caller, c)])
    (hwritten : i.written = .marker t) (hdata : i.WritesData m.account.data (m.withMarker s).account.data) :
    List.Forall₂ i.Leaves i.transactionAccounts
      [.of_account f.account, ⟨(m.withMarker s).account, i.claim⟩, .of_account c.account] := by
  have hlist : i.transactionAccounts = [(.freeze_config, f), (.marker t, m), (.caller, c)] := by
    unfold Instruction.transactionAccounts
    rw [haccounts]
  rw [hlist]
  unfold Instruction.Leaves
  rw [hwritten]
  refine .cons ?_ (.cons ?_ (.cons ?_ .nil))
  · rw [if_neg (by simp)]
  · rw [if_pos rfl]
    exact ⟨rfl, rfl, rfl, hdata, rfl⟩
  · rw [if_neg (by simp)]

variable [LawfulCrates]

/-- A config account that is new cannot be the admin config too. -/
theorem initialize_distinct {a c f : AccountWithMetadata} {mode : Mode} {out : SpelOutput}
    (h : (Instruction.freeze_initialize a c f).dispatch mode = .ok out) : a ≠ f := by
  rintro rfl
  obtain ⟨hinit, hinvoke⟩ := Instruction.invoke_of_dispatch h
  have hnew := (LawfulCrates.account_init_ok_iff a).mp hinit
  have hadmin := ((Instruction.invoke_freeze_initialize_eq_ok_iff ..).mp hinvoke).1
  obtain ⟨admin, hread, -⟩ := (LawfulCrates.require_admin_ok_iff ..).mp hadmin
  rw [LawfulCrates.admin_from_account_at_empty a 0 (by rw [hnew]; rfl)] at hread
  cases hread

theorem Instruction.nodup_ids {i : Instruction} {mode : Mode} {out : SpelOutput} (h : i.dispatch mode = .ok out)
    (hids : i.DistinctIds) : (i.transactionAccounts.map (·.2.account_id)).Nodup := by
  unfold DistinctIds at hids
  unfold transactionAccounts
  cases i <;> simp only [accounts, List.pairwise_cons, List.mem_cons, List.not_mem_nil, or_false,
    forall_eq_or_imp, forall_eq, reduceCtorEq, false_and, imp_false, true_and] at hids ⊢
  case freeze_initialize a c f =>
    have hne := initialize_distinct h
    simp_all
  case freeze_authority_transfer => split <;> simp_all
  case freeze_authority_renounce => split <;> simp_all
  case freeze_authority_nominate => split <;> simp_all
  all_goals simp_all

/-! ## The writes -/

theorem splices_withConfig {f : AccountWithMetadata} {o : Nat} {c c' : FreezeConfig}
    {m : Borrow FreezeConfig FreezeError Unit} (hc : FreezeConfig.from_account_at f o = .ok c)
    (hc' : m.on c = .ok c') : Instruction.Splices m o f.account.data (f.withConfig o c').account.data := by
  have hfits := ((FreezeConfig.decode_at_eq_ok_iff _ _ _).mp hc).1
  have hbytes := f.withConfig_bytes o c' hfits
  have hlen : o + c'.bytes.length ≤ f.account.data.bytes.length := by simpa using hfits
  refine ⟨⟨c, c', hc, hc', FreezeConfig.from_account_at_withConfig f o c' hfits⟩, ?_, ?_⟩
  · rw [hbytes, Window.length_write _ _ _ hlen]
  · intro j hj
    rw [hbytes]
    exact Window.getElem?_write_outside _ _ _ _ hlen (by rw [FreezeConfig.length_bytes]; exact hj)

theorem leaves_config {i : Instruction} {m : Borrow FreezeConfig FreezeError Unit} (hm : i.method = some m)
    {out : SpelOutput} (h : i.invoke = .ok out) :
    List.Forall₂ i.Leaves i.transactionAccounts out.post_states := by
  rw [Instruction.invoke_config i m hm] at h
  obtain ⟨_, -, h⟩ := Result.bind_eq_ok.mp h
  obtain ⟨c, hc, h⟩ := Result.bind_eq_ok.mp h
  obtain ⟨c', hc', h⟩ := Result.bind_eq_ok.mp h
  cases h
  have hsplices := splices_withConfig (Result.mapError_eq_ok.mp hc) (Result.mapError_eq_ok.mp hc')
  have hwritten : i.written = .freeze_config := by
    cases i <;> first | rfl | cases hm
  have hclaim : i.claim = none := by
    cases i <;> first | rfl | cases hm
  have hdata (before after : Data) (hs : Instruction.Splices m i.config_offset before after) :
      i.WritesData before after := by
    cases i <;> first | exact ⟨m, hm, hs⟩ | cases hm
  unfold postStates
  rw [List.forall₂_map_right_iff, List.forall₂_same]
  intro x hx
  unfold Instruction.Leaves
  rw [hwritten]
  split
  · next hrole =>
    rw [i.config_of_mem x (Deployment.mem_accounts hx) hrole]
    exact ⟨rfl, rfl, rfl, hdata _ _ hsplices, hclaim.symm⟩
  · rfl

/-- The post-states of an accepted instruction are one per distinct account, in declared order. The
account it writes keeps everything but the declared bytes, and every other account all it had. -/
theorem post_states_line_up {i : Instruction} {mode : Mode} {out : SpelOutput} (h : i.dispatch mode = .ok out)
    (hids : i.DistinctIds) :
    (i.transactionAccounts.map (·.2.account_id)).Nodup ∧ i.transactionAccounts.Sublist i.accounts ∧
    (∀ x ∈ i.accounts, x ∈ i.transactionAccounts ∨
      x.1 = .admin_config ∧ ∃ y ∈ i.transactionAccounts, y.1 = .freeze_config ∧ x.2 = y.2) ∧
    List.Forall₂ i.Leaves i.transactionAccounts out.post_states := by
  refine ⟨Instruction.nodup_ids h hids, i.transactionAccounts_sublist,
    fun _ => Instruction.mem_transactionAccounts hids, ?_⟩
  have hinvoke := (Instruction.invoke_of_dispatch h).2
  cases hm : i.method with
  | some m => exact leaves_config hm hinvoke
  | none =>
    cases i
    case freeze_initialize a c f =>
      obtain ⟨-, -, -, d, hd, rfl⟩ := (Instruction.invoke_freeze_initialize_eq_ok_iff ..).mp hinvoke
      refine .cons ?_ (.cons ?_ (.cons ?_ .nil))
      · rfl
      · rfl
      · exact ⟨rfl, rfl, rfl, hd, rfl⟩
    case freeze_account f m c t o =>
      rw [Instruction.invoke_freeze_account] at hinvoke
      obtain ⟨cfg, hcfg, hinvoke⟩ := Result.bind_eq_ok.mp hinvoke
      obtain ⟨_, -, hinvoke⟩ := Result.bind_eq_ok.mp hinvoke
      obtain ⟨_, -, hinvoke⟩ := Result.bind_eq_ok.mp hinvoke
      cases hinvoke
      have hone := Instruction.one_le_of_config (Result.mapError_eq_ok.mp hcfg)
      exact leaves_marker rfl rfl (m.withMarker_bytes ⟨true⟩ hone)
    case freeze_account_release f m c t o =>
      rw [Instruction.invoke_freeze_account_release] at hinvoke
      obtain ⟨cfg, hcfg, hinvoke⟩ := Result.bind_eq_ok.mp hinvoke
      obtain ⟨_, -, hinvoke⟩ := Result.bind_eq_ok.mp hinvoke
      obtain ⟨⟨b⟩, -, hinvoke⟩ := Result.bind_eq_ok.mp hinvoke
      have hone := Instruction.one_le_of_config (Result.mapError_eq_ok.mp hcfg)
      cases b
      · cases hinvoke
      · cases hinvoke
        exact leaves_marker rfl rfl (m.withMarker_bytes ⟨false⟩ hone)
    all_goals cases hm

end FreezeAuthority

namespace FreezeAuthority.Reference

def nominate_on_shared : Instruction :=
  .freeze_authority_nominate shared shared (signer 2) (key 3).value AuthoritySlot.ENCODED_LEN 0

set_option maxRecDepth 8000 in
theorem post_states_line_up_on_shared :
    ∃ out, nominate_on_shared.dispatch .auto = .ok out ∧
      List.Forall₂ nominate_on_shared.Leaves [(.freeze_config, shared), (.caller, signer 2)]
        out.post_states := by
  obtain ⟨out, hout⟩ : ∃ out, nominate_on_shared.dispatch .auto = .ok out := ⟨_, rfl⟩
  have hcaller : shared.account_id ≠ (signer 2).account_id := by
    show key 101 ≠ key 2
    decide
  have hids : nominate_on_shared.DistinctIds := by
    simp [Instruction.DistinctIds, nominate_on_shared, Instruction.accounts, hcaller]
  have hposts := (post_states_line_up hout hids).2.2.2
  have haccounts : nominate_on_shared.transactionAccounts =
      [(.freeze_config, shared), (.caller, signer 2)] := by
    simp [Instruction.transactionAccounts, nominate_on_shared, Instruction.accounts]
  rw [haccounts] at hposts
  exact ⟨out, hout, hposts⟩

end FreezeAuthority.Reference
