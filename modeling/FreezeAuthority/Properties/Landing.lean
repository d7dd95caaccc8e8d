import FreezeAuthority.Properties.PostStates
import FreezeAuthority.Spec.Sequencer

/-!
# LEZ takes what the library returns

A transaction that an instruction accepts lands, unless two of its accounts are one or no program owns
the account of its caller.
-/

namespace FreezeAuthority

variable [Lez]

theorem ne_default_of_data {a : Account} (h : a.data.bytes ≠ []) : a ≠ .default := by
  rintro rfl
  exact h rfl

theorem Instruction.written_stored {i : Instruction} {role : Role} (h : role = i.written) :
    role = .freeze_config ∨ ∃ t, role = .marker t := by
  subst h
  cases i <;> first | exact Or.inl rfl | exact Or.inr ⟨_, rfl⟩

variable [Crates] [LawfulCrates]

/-! ## The post-states of an accepted instruction -/

theorem leaves_of_invoke {i : Instruction} {out : SpelOutput} (h : i.invoke = .ok out) :
    List.Forall₂ i.Leaves i.transactionAccounts out.post_states := by
  cases hm : i.method with
  | some m => exact leaves_config hm h
  | none =>
    cases i
    case freeze_initialize a c f =>
      obtain ⟨-, -, -, d, hd, rfl⟩ := (Instruction.invoke_freeze_initialize_eq_ok_iff ..).mp h
      exact .cons rfl (.cons rfl (.cons ⟨rfl, rfl, rfl, hd, rfl⟩ .nil))
    case freeze_account f m c t o =>
      rw [Instruction.invoke_freeze_account] at h
      obtain ⟨cfg, hcfg, h⟩ := Result.bind_eq_ok.mp h
      obtain ⟨_, -, h⟩ := Result.bind_eq_ok.mp h
      obtain ⟨_, -, h⟩ := Result.bind_eq_ok.mp h
      cases h
      have hone := Instruction.one_le_of_config (Result.mapError_eq_ok.mp hcfg)
      exact leaves_marker rfl rfl (m.withMarker_bytes ⟨true⟩ hone)
    case freeze_account_release f m c t o =>
      rw [Instruction.invoke_freeze_account_release] at h
      obtain ⟨cfg, hcfg, h⟩ := Result.bind_eq_ok.mp h
      obtain ⟨_, -, h⟩ := Result.bind_eq_ok.mp h
      obtain ⟨⟨b⟩, -, h⟩ := Result.bind_eq_ok.mp h
      have hone := Instruction.one_le_of_config (Result.mapError_eq_ok.mp hcfg)
      cases b with
      | false => cases h
      | true =>
        cases h
        exact leaves_marker rfl rfl (m.withMarker_bytes ⟨false⟩ hone)
    all_goals cases hm

omit [LawfulCrates] in
theorem Instruction.Leaves.program_owner {i : Instruction} {x : Role × AccountWithMetadata}
    {post : AccountPostState} (h : i.Leaves x post) : post.account.program_owner = x.2.account.program_owner := by
  unfold Instruction.Leaves at h
  split at h
  · exact h.program_owner
  · rw [h]
    rfl

theorem data_of_config {f : AccountWithMetadata} {o : Nat} {c : FreezeConfig}
    (h : FreezeConfig.from_account_at f o = .ok c) : f.account.data.bytes ≠ [] := by
  have hfits := ((FreezeConfig.decode_at_eq_ok_iff _ _ _).mp h).1
  intro hempty
  rw [hempty] at hfits
  simp [FreezeConfig.SIZE] at hfits

/-- The account that an instruction writes is claimed exactly when it is new. -/
theorem claim_iff_new {i : Instruction} {mode : Mode} {out : SpelOutput} (h : i.dispatch mode = .ok out)
    {x : Role × AccountWithMetadata} (hx : x ∈ i.accounts) (hrole : x.1 = i.written)
    (hempty : x.2.account.data.bytes = [] → x.2.account = .default) :
    i.claim.isSome = true ↔ x.2.account = .default := by
  obtain ⟨hinit, hinvoke⟩ := Instruction.invoke_of_dispatch h
  cases hm : i.method with
  | some m =>
    rw [i.invoke_config m hm] at hinvoke
    obtain ⟨_, -, hinvoke⟩ := Result.bind_eq_ok.mp hinvoke
    obtain ⟨c, hc, -⟩ := Result.bind_eq_ok.mp hinvoke
    have hdata := data_of_config (Result.mapError_eq_ok.mp hc)
    have hclaim : i.claim = none := by
      cases i <;> first | rfl | cases hm
    have hconfig : x.1 = .freeze_config := by
      rw [hrole]
      cases i <;> first | rfl | cases hm
    rw [← i.config_of_mem x hx hconfig] at hdata
    rw [hclaim]
    exact ⟨by rintro ⟨⟩, fun hnew => absurd hnew (ne_default_of_data hdata)⟩
  | none =>
    cases i
    case freeze_initialize a c f =>
      have hnew := (LawfulCrates.account_init_ok_iff f).mp hinit
      rw [Instruction.config_of_mem _ x hx hrole]
      exact ⟨fun _ => hnew, fun _ => rfl⟩
    case freeze_account f m c t o =>
      obtain rfl : x = (.marker t, m) := by
        obtain ⟨role, y⟩ := x
        obtain rfl : role = .marker t := hrole
        simpa [Instruction.accounts] using hx
      obtain ⟨claim, hclaim⟩ := LawfulCrates.pda_from_seeds_claims (frozen_pda_seeds t)
      unfold Instruction.claim AccountWithMetadata.markerClaim
      simp only [hclaim, AutoClaim.required_claim]
      constructor
      · intro hsome
        split at hsome
        · next hnil => exact hempty (List.isEmpty_iff.mp hnil)
        · cases hsome
      · intro hnew
        rw [show m.account = .default from hnew]
        rfl
    case freeze_account_release f m c t o =>
      obtain rfl : x = (.marker t, m) := by
        obtain ⟨role, y⟩ := x
        obtain rfl : role = .marker t := hrole
        simpa [Instruction.accounts] using hx
      rw [Instruction.invoke_freeze_account_release] at hinvoke
      obtain ⟨_, -, hinvoke⟩ := Result.bind_eq_ok.mp hinvoke
      obtain ⟨_, -, hinvoke⟩ := Result.bind_eq_ok.mp hinvoke
      obtain ⟨⟨b⟩, hb, hinvoke⟩ := Result.bind_eq_ok.mp hinvoke
      cases b with
      | false => cases hinvoke
      | true =>
        have hdata := Deployment.isEmpty_of_frozen (Result.mapError_eq_ok.mp hb) rfl
        have hne : m.account ≠ .default := ne_default_of_data (List.isEmpty_eq_false_iff.mp hdata)
        exact ⟨by rintro ⟨⟩, fun hnew => absurd hnew hne⟩
    all_goals cases hm

/-- A transfer appoints an account that some program owns. -/
theorem new_account_owned {i : Instruction} {mode : Mode} {out : SpelOutput} (h : i.dispatch mode = .ok out)
    {n : AccountWithMetadata} (hn : (.new_account, n) ∈ i.accounts) : n.account.program_owner ≠ .default := by
  obtain ⟨-, hinvoke⟩ := Instruction.invoke_of_dispatch h
  cases i
  case freeze_authority_transfer a f c n' candidate o ao =>
    obtain rfl : n = n' := by simpa [Instruction.accounts] using hn
    rw [Instruction.invoke_config _ _ rfl] at hinvoke
    obtain ⟨_, -, hinvoke⟩ := Result.bind_eq_ok.mp hinvoke
    obtain ⟨cfg, -, hinvoke⟩ := Result.bind_eq_ok.mp hinvoke
    obtain ⟨c', hc', -⟩ := Result.bind_eq_ok.mp hinvoke
    exact ((FreezeConfig.transfer_on_eq_ok_iff _ _ _ _).mp (Result.mapError_eq_ok.mp hc')).1.1.2.1
  all_goals simp [Instruction.accounts] at hn

/-! ## The accounts of the library -/

/-- An account of the library is new, or owned by the program and in use. -/
structure Deployment.Kept (D : Deployment) (S : Store) : Prop where
  config : S.freeze_config.account = .default ∨
    S.freeze_config.account.program_owner = D.program_id ∧ ∃ cfg, D.config S = .ok cfg
  marker (t : Bytes32) : (S.marker t).account = .default ∨
    (S.marker t).account.program_owner = D.program_id ∧ (S.marker t).account.data.bytes ≠ []

theorem Deployment.Kept.owned {D : Deployment} {S : Store} (h : D.Kept S) {cfg : FreezeConfig}
    (hcfg : D.config S = .ok cfg) : S.freeze_config.account.program_owner = D.program_id := by
  rcases h.config with hnew | ⟨howned, -⟩
  · exact absurd hnew (ne_default_of_data (data_of_config hcfg))
  · exact howned

namespace Site

variable {P : Site}

/-! ## A transaction on the chain -/

/-- The admin config exists, and the library's accounts are as its instructions leave them. -/
structure Sane (P : Site) (c : Chain) : Prop where
  admin : (c P.admin_config).program_owner ≠ .default
  kept : P.Kept (P.store c)

def Submission.entries (sub : P.Submission) (c : Chain) (out : SpelOutput) : List Entry :=
  (sub.instruction c).transactionAccounts.zip out.post_states

omit [Crates] [LawfulCrates] in
theorem Submission.mem_entries {sub : P.Submission} {c : Chain} {out : SpelOutput} {e : Entry}
    (he : e ∈ sub.entries c out) : e.1 ∈ (sub.instruction c).accounts ∧ sub.Names c e.1 := by
  have hmem := Deployment.mem_accounts (List.of_mem_zip he).1
  exact ⟨hmem, sub.names_of_mem c _ hmem⟩

theorem Submission.leaves_of_mem {sub : P.Submission} {c : Chain} {out : SpelOutput}
    (h : (sub.instruction c).dispatch P.mode = .ok out) {e : Entry} (he : e ∈ sub.entries c out) :
    (sub.instruction c).Leaves e.1 e.2 :=
  List.forall₂_zip (leaves_of_invoke (Instruction.invoke_of_dispatch h).2) he

theorem Submission.passes_of_dispatch {sub : P.Submission} {c : Chain} {out : SpelOutput}
    (h : (sub.instruction c).dispatch P.mode = .ok out) : ∀ e ∈ sub.entries c out, e.Passes := by
  rintro e he hconfig hmarker
  have hpost := Submission.leaves_of_mem h he
  unfold Instruction.Leaves at hpost
  rwa [if_neg] at hpost
  intro hrole
  rcases Instruction.written_stored hrole with h | ⟨t, h⟩
  · exact hconfig h
  · exact hmarker t h

theorem Submission.nodup_entries {sub : P.Submission} {c : Chain} {out : SpelOutput}
    (h : (sub.instruction c).dispatch P.mode = .ok out)
    (hids : ((sub.instruction c).transactionAccounts.map (·.2.account_id)).Nodup) :
    ((sub.entries c out).map (·.1.2.account_id)).Nodup := by
  have hlen := (leaves_of_invoke (Instruction.invoke_of_dispatch h).2).length_eq
  have hfst : (sub.entries c out).map (·.1) = (sub.instruction c).transactionAccounts :=
    List.map_fst_zip (Nat.le_of_eq hlen)
  rw [← hfst, List.map_map] at hids
  exact hids

omit [LawfulCrates] in
/-- LEZ matches every account of the transaction with one post-state. -/
theorem exists_post {sub : P.Submission} {c : Chain} {out : SpelOutput}
    (h : List.Forall₂ (sub.instruction c).Leaves (sub.instruction c).transactionAccounts out.post_states)
    {x : Role × AccountWithMetadata} (hx : x ∈ (sub.instruction c).transactionAccounts) :
    ∃ post, (x, post) ∈ sub.entries c out ∧ (sub.instruction c).Leaves x post := by
  rw [← List.map_fst_zip (Nat.le_of_eq h.length_eq)] at hx
  obtain ⟨⟨x', post⟩, hmem, rfl⟩ := List.mem_map.mp hx
  exact ⟨post, hmem, List.forall₂_zip h hmem⟩

/-- A stored account is new, or the program's own. -/
theorem Submission.ours {sub : P.Submission} {c : Chain} (hsane : P.Sane c) {role : Role} {id : AccountId}
    (haddress : sub.Address id role) (hstored : role = .freeze_config ∨ ∃ t, role = .marker t) :
    c id = .default ∨ (c id).program_owner = P.program_id ∧ (c id).data.bytes ≠ [] := by
  rcases hstored with rfl | ⟨t, rfl⟩
  · rw [show id = P.freeze_config from haddress]
    rcases hsane.kept.config with hnew | ⟨howned, cfg, hcfg⟩
    · exact Or.inl hnew
    · exact Or.inr ⟨howned, data_of_config hcfg⟩
  · obtain ⟨ht, rfl⟩ : t ∈ P.targets ∧ id = P.marker t := haddress
    have hkept := hsane.kept.marker t
    rw [store_marker c ht] at hkept
    exact hkept

theorem Submission.unstranded {sub : P.Submission} {c : Chain} {out : SpelOutput} (hsane : P.Sane c)
    (h : (sub.instruction c).dispatch P.mode = .ok out) (hcaller : ¬(c sub.caller).Stranded)
    {x : Role × AccountWithMetadata} (hx : x ∈ (sub.instruction c).accounts) : ¬x.2.account.Stranded := by
  obtain ⟨hview, haddress⟩ := sub.names_of_mem c x hx
  obtain ⟨role, x⟩ := x
  have haccount : x.account = c x.account_id := congrArg AccountWithMetadata.account hview
  have hours (hstored : role = .freeze_config ∨ ∃ t, role = .marker t) : ¬x.account.Stranded := by
    rw [haccount]
    rintro ⟨hne, howner⟩
    rcases Submission.ours hsane haddress hstored with hnew | ⟨howned, -⟩
    · exact hne hnew
    · exact P.deployed (howned.symm.trans howner)
  cases role
  case admin_config =>
    rw [haccount, show x.account_id = P.admin_config from haddress]
    exact Account.not_stranded_of_owned hsane.admin
  case freeze_config => exact hours (Or.inl rfl)
  case marker t => exact hours (Or.inr ⟨t, rfl⟩)
  case caller =>
    rw [haccount, show x.account_id = sub.caller from haddress]
    exact hcaller
  case new_account => exact Account.not_stranded_of_owned (new_account_owned h hx)

theorem Submission.abides {sub : P.Submission} {c : Chain} {out : SpelOutput} (hsane : P.Sane c)
    (h : (sub.instruction c).dispatch P.mode = .ok out) (hcaller : ¬(c sub.caller).Stranded) :
    List.Forall₂ (Abides P.program_id) ((sub.instruction c).transactionAccounts.map (·.2)) out.post_states := by
  have hleaves := leaves_of_invoke (Instruction.invoke_of_dispatch h).2
  rw [List.forall₂_map_left_iff, List.forall₂_iff_zip]
  refine ⟨hleaves.length_eq, ?_⟩
  intro x post hmem
  have hx := Deployment.mem_accounts (List.of_mem_zip hmem).1
  have hstranded := Submission.unstranded hsane h hcaller hx
  have hpost := List.forall₂_zip hleaves hmem
  unfold Instruction.Leaves at hpost
  split at hpost
  · next hrole =>
    obtain ⟨hview, haddress⟩ := sub.names_of_mem c x hx
    have haccount : x.2.account = c x.2.account_id := congrArg AccountWithMetadata.account hview
    -- What the program writes is new, or its own already.
    have hours : x.2.account = .default ∨
        x.2.account.program_owner = P.program_id ∧ x.2.account.data.bytes ≠ [] := by
      rw [haccount]
      exact Submission.ours hsane haddress (Instruction.written_stored hrole)
    have hclaim := claim_iff_new h hx hrole (fun hempty => by
      rcases hours with hnew | ⟨-, hdata⟩
      · exact hnew
      · exact absurd hempty hdata)
    refine ⟨hpost.nonce, hpost.balance, hpost.program_owner, ?_, ?_, ?_⟩
    · rw [hpost.program_owner]
      intro howner
      by_contra hne
      exact hstranded ⟨hne, howner⟩
    · rw [hpost.required_claim, hclaim]
      rcases hours with hnew | ⟨howned, -⟩
      · exact Or.inr (Or.inr ⟨hnew, hnew⟩)
      · exact Or.inr (Or.inl howned)
    · rw [hpost.required_claim, hclaim]
      intro hnew
      rw [hnew]
      rfl
  · rw [hpost]
    exact Abides.of_account hstranded

variable [Sequencer]

omit [LawfulCrates] in
theorem Submission.submit_eq_ok (sub : P.Submission) (c c' : Chain) :
    sub.submit c = .ok c' ↔ ∃ out, (sub.instruction c).dispatch P.mode = .ok out ∧
      Sequencer.validate_execution ((sub.instruction c).transactionAccounts.map (·.2)) out.post_states
        P.program_id = .ok () ∧
      c' = ((sub.entries c out).map (·.after P.program_id)).foldl Chain.put c := by
  have hafter (out : SpelOutput) :
      (((sub.instruction c).transactionAccounts.map (·.2)).zip out.post_states).map
          (fun x => (x.1.land P.program_id x.2).bump) =
        (sub.entries c out).map (·.after P.program_id) := by
    unfold Submission.entries
    rw [List.zip_map_left, List.map_map]
    rfl
  unfold Submission.submit
  simp only [Result.bind_eq_ok, Result.mapError_eq_ok, land_eq_ok_iff, Result.pure_eq, Except.ok.injEq, hafter]
  constructor
  · rintro ⟨out, hout, _, ⟨hvalid, rfl⟩, rfl⟩
    exact ⟨out, hout, hvalid, rfl⟩
  · rintro ⟨out, hout, hvalid, rfl⟩
    exact ⟨out, hout, _, ⟨hvalid, rfl⟩, rfl⟩

variable [LawfulSequencer]

/-- A landed transaction is a step of the program on its own accounts. -/
theorem Submission.step_of_submit {sub : P.Submission} {c c' : Chain} (h : sub.submit c = .ok c') :
    P.step (P.store c) (sub.tx c) = .ok (P.store c') := by
  obtain ⟨out, hout, hvalid, rfl⟩ := (sub.submit_eq_ok c c').mp h
  have hids := LawfulSequencer.distinct _ _ _ hvalid
  rw [List.map_map] at hids
  have hnames : ∀ e ∈ sub.entries c out, sub.Names c e.1 := fun e he => (Submission.mem_entries he).2
  rw [store_foldl _ (Submission.nodup_entries hout hids) hnames (Submission.passes_of_dispatch hout)]
  have hentries : (sub.entries c out).map (fun e => (e.1.1, e.2)) =
      ((sub.instruction c).transactionAccounts.map (·.1)).zip out.post_states := by
    unfold Submission.entries
    rw [List.zip_map_left]
    rfl
  unfold Deployment.step Deployment.outcome
  rw [hentries]
  have hinstruction : P.toDeployment.instruction (P.store c) (sub.tx c) = sub.instruction c := rfl
  simp only [hinstruction, hout]
  rfl

/-- LEZ refuses what the library accepts for two reasons only: two of its accounts are one, or the
account of the caller is stranded. -/
theorem lands_iff {c : Chain} (hsane : P.Sane c) (sub : P.Submission) :
    (∃ c', sub.submit c = .ok c') ↔
      (∃ out, (sub.instruction c).dispatch P.mode = .ok out) ∧
      ((sub.instruction c).transactionAccounts.map (·.2.account_id)).Nodup ∧
      ¬(c sub.caller).Stranded := by
  simp only [sub.submit_eq_ok c]
  constructor
  · rintro ⟨c', out, hout, hvalid, -⟩
    have hids := LawfulSequencer.distinct _ _ _ hvalid
    rw [List.map_map] at hids
    refine ⟨⟨out, hout⟩, hids, ?_⟩
    rintro ⟨hne, howner⟩
    have hleaves := leaves_of_invoke (Instruction.invoke_of_dispatch hout).2
    obtain ⟨post, hmem, hpost⟩ := exists_post hleaves (sub.caller_mem c)
    have hpass : post = .of_account (c sub.caller) :=
      Submission.passes_of_dispatch hout _ hmem (by simp) (by simp)
    have hzip : (sub.view c sub.caller, post) ∈
        ((sub.instruction c).transactionAccounts.map (·.2)).zip out.post_states := by
      rw [List.zip_map_left]
      exact List.mem_map.mpr ⟨_, hmem, rfl⟩
    exact hne (LawfulSequencer.owned _ _ _ hvalid _ hzip (by rw [hpass]; exact howner))
  · rintro ⟨⟨out, hout⟩, hids, hcaller⟩
    refine ⟨_, out, hout, ?_, rfl⟩
    apply LawfulSequencer.accepts
    · rw [List.map_map]
      exact hids
    · exact Submission.abides hsane hout hcaller

end Site

end FreezeAuthority
