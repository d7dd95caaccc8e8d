import FreezeAuthority.Spec.Instructions

/-!
# What a transaction does to the accounts of the library

LEZ lands the post-states of an accepted transaction. What they leave in the store follows.
-/

namespace FreezeAuthority

variable [Lez]

def AccountWithMetadata.ownedBy (a : AccountWithMetadata) (program_id : ProgramId) : AccountWithMetadata :=
  { a with account := { a.account with program_owner := program_id } }

/-- The marker with `s` written by the program `p`. It is claimed when it had no data. -/
def AccountWithMetadata.writeMarker (m : AccountWithMetadata) (p : ProgramId) (s : FrozenAccountState) :
    AccountWithMetadata :=
  if m.account.data.bytes.isEmpty then (m.withMarker s).ownedBy p else m.withMarker s

theorem AccountWithMetadata.writeMarker_bytes (m : AccountWithMetadata) (p : ProgramId)
    (s : FrozenAccountState) (h : 1 ≤ Lez.dataMaxLength) :
    (m.writeMarker p s).account.data.bytes = s.bytes := by
  have hbytes := m.withMarker_bytes s h
  unfold writeMarker ownedBy
  split <;> exact hbytes

def Store.withConfig (S : Store) (o : Nat) (c : FreezeConfig) : Store :=
  { S with freeze_config := S.freeze_config.withConfig o c }

/-- The account that a role names, but for the one a transfer appoints. -/
def Tx.Reads (tx : Tx) (S : Store) : Role × AccountWithMetadata → Prop
  | (.admin_config, x) => x = tx.admin_config
  | (.freeze_config, x) => x = S.freeze_config
  | (.marker t, x) => x = S.marker t
  | (.caller, x) => x = tx.caller
  | (.new_account, _) => True

namespace Deployment

def withMarker (D : Deployment) (S : Store) (t : Bytes32) (s : FrozenAccountState) : Store :=
  { S with marker := Function.update S.marker t ((S.marker t).writeMarker D.program_id s) }

theorem withMarker_self (D : Deployment) (S : Store) (t : Bytes32) (s : FrozenAccountState) :
    (D.withMarker S t s).marker t = (S.marker t).writeMarker D.program_id s := by
  unfold withMarker
  simp

theorem withMarker_of_ne (D : Deployment) (S : Store) (s : FrozenAccountState) {t t' : Bytes32}
    (h : t' ≠ t) : (D.withMarker S t s).marker t' = S.marker t' := by
  unfold withMarker
  simp [h]

/-- What lands when an instruction changes the config to `c`: every other account as it was. -/
def configPosts (D : Deployment) (S : Store) (tx : Tx) (c : FreezeConfig) : List (Role × AccountPostState) :=
  (D.instruction S tx).transactionAccounts.map fun x =>
    (x.1, .of_account (if x.1 = .freeze_config then (S.freeze_config.withConfig D.offset c).account
      else x.2.account))

def markerPosts (S : Store) (tx : Tx) (t : Bytes32) (post : AccountPostState) :
    List (Role × AccountPostState) :=
  [(.freeze_config, .of_account S.freeze_config.account), (.marker t, post),
    (.caller, .of_account tx.caller.account)]

/-! ## What an instruction reads -/

theorem mem_accounts {i : Instruction} {x : Role × AccountWithMetadata} (h : x ∈ i.transactionAccounts) :
    x ∈ i.accounts := by
  unfold Instruction.transactionAccounts at h
  split at h
  · next hi =>
    rw [hi]
    split at h
    · exact List.mem_cons_of_mem _ h
    · exact h
  · exact h

theorem reads_of_mem (D : Deployment) (S : Store) (tx : Tx) :
    ∀ x ∈ (D.instruction S tx).accounts, tx.Reads S x := by
  obtain ⟨a, caller, call⟩ := tx
  cases call <;> simp [instruction, Instruction.accounts, Tx.Reads]

theorem reads_of_configPosts {D : Deployment} {S : Store} {tx : Tx} {c : FreezeConfig} {role : Role}
    {post : AccountPostState} (h : (role, post) ∈ D.configPosts S tx c) (hrole : role ≠ .freeze_config) :
    ∃ x, tx.Reads S (role, x) ∧ post = .of_account x.account := by
  obtain ⟨⟨role', x⟩, hx, heq⟩ := List.mem_map.mp h
  obtain ⟨rfl, rfl⟩ := Prod.mk.inj heq
  exact ⟨x, reads_of_mem D S tx _ (mem_accounts hx), by rw [if_neg hrole]⟩

variable [Crates]

def config (D : Deployment) (S : Store) : Except FreezeError FreezeConfig :=
  FreezeConfig.from_account_at S.freeze_config D.offset

/-- The gate, where a call runs behind it. -/
def guard (D : Deployment) (S : Store) (tx : Tx) : Except SpelError Unit :=
  match tx.call with
  | .freeze_program => match D.mode with
    | .auto => D.admits S tx.caller.account_id
    | .manual => .ok ()
  | _ => .ok ()

/-! ## What lands -/

/-- The post-states of an accepted transaction, each with the account it is for. -/
inductive Landed (D : Deployment) (S : Store) (tx : Tx) : List (Role × AccountPostState) → Prop
  | created (d : Data) (hcall : tx.call = Call.freeze_initialize) (hnew : S.freeze_config.account = .default)
      (hd : d.bytes = FreezeConfig.bytes ⟨⟨tx.caller.account_id, .default⟩, false⟩) :
      Landed D S tx [(.admin_config, .of_account tx.admin_config.account),
        (.caller, .of_account tx.caller.account),
        (.freeze_config, ⟨(S.freeze_config.withData d).account,
          some (.Pda ⟨Crates.seed_from_str "freeze_config"⟩)⟩)]
  | config (c c' : FreezeConfig) (hc : D.config S = .ok c) (hcall : (D.instruction S tx).method ≠ none) :
      Landed D S tx (D.configPosts S tx c')
  | frozen (c : FreezeConfig) (t : Bytes32) (hc : D.config S = .ok c) (hcall : tx.call = .freeze_account t) :
      Landed D S tx (markerPosts S tx t
        ⟨((S.marker t).withMarker ⟨true⟩).account, (S.marker t).markerClaim t⟩)
  | released (c : FreezeConfig) (t : Bytes32) (hc : D.config S = .ok c)
      (hcall : tx.call = .freeze_account_release t)
      (hfrozen : FrozenAccountState.from_account (S.marker t) = .ok ⟨true⟩) :
      Landed D S tx (markerPosts S tx t (.of_account ((S.marker t).withMarker ⟨false⟩).account))

theorem Landed.admin {D : Deployment} {S : Store} {tx : Tx} {landed : List (Role × AccountPostState)}
    (h : Landed D S tx landed) {post : AccountPostState} (hmem : (.admin_config, post) ∈ landed) :
    post = .of_account tx.admin_config.account := by
  cases h with
  | created => simpa using hmem
  | config =>
    obtain ⟨x, rfl, rfl⟩ := reads_of_configPosts hmem (by simp)
    rfl
  | frozen => simp [markerPosts] at hmem
  | released => simp [markerPosts] at hmem

theorem Landed.marker {D : Deployment} {S : Store} {tx : Tx} {landed : List (Role × AccountPostState)}
    (h : Landed D S tx landed) {t : Bytes32} {post : AccountPostState} (hmem : (.marker t, post) ∈ landed) :
    post = .of_account (S.marker t).account ∨
    (tx.call = .freeze_account t ∧
      post = ⟨((S.marker t).withMarker ⟨true⟩).account, (S.marker t).markerClaim t⟩) ∨
    (tx.call = .freeze_account_release t ∧
      FrozenAccountState.from_account (S.marker t) = .ok ⟨true⟩ ∧
      post = .of_account ((S.marker t).withMarker ⟨false⟩).account) := by
  cases h with
  | created => simp at hmem
  | config =>
    obtain ⟨x, rfl, rfl⟩ := reads_of_configPosts hmem (by simp)
    exact Or.inl rfl
  | frozen c t' _ hcall =>
    obtain ⟨rfl, rfl⟩ : t = t' ∧ post = _ := by simpa [markerPosts] using hmem
    exact Or.inr (Or.inl ⟨hcall, rfl⟩)
  | released c t' _ hcall hfrozen =>
    obtain ⟨rfl, rfl⟩ : t = t' ∧ post = _ := by simpa [markerPosts] using hmem
    exact Or.inr (Or.inr ⟨hcall, hfrozen, rfl⟩)

theorem foldl_configPosts (D : Deployment) (S : Store) (tx : Tx) (h : (D.instruction S tx).method ≠ none)
    (c : FreezeConfig) : (D.configPosts S tx c).foldl D.put S = S.withConfig D.offset c := by
  have hmarker (t : Bytes32) : D.put (S.withConfig D.offset c)
      (.marker t, .of_account (S.marker t).account) = S.withConfig D.offset c := by
    show { S.withConfig D.offset c with marker := Function.update S.marker t (S.marker t) } = _
    rw [Function.update_eq_self]
    rfl
  obtain ⟨a, caller, call⟩ := tx
  unfold configPosts Instruction.transactionAccounts
  cases call
  case freeze_program => exact hmarker caller.account_id.value
  case freeze_program_release => rfl
  case freeze_authority_accept => rfl
  case freeze_authority_transfer n candidate =>
    simp only [instruction, Instruction.accounts]
    split <;> rfl
  case freeze_authority_renounce =>
    simp only [instruction, Instruction.accounts]
    split <;> rfl
  case freeze_authority_nominate next =>
    simp only [instruction, Instruction.accounts]
    split <;> rfl
  all_goals exact absurd rfl h

/-- A released marker had data, so no claim is due. -/
theorem isEmpty_of_frozen {m : AccountWithMetadata} {s : FrozenAccountState}
    (h : FrozenAccountState.from_account m = .ok s) (hs : s.is_frozen = true) :
    m.account.data.bytes.isEmpty = false := by
  unfold FrozenAccountState.from_account FrozenAccountState.from_data_or_default at h
  by_contra hempty
  rw [if_pos (by simpa using hempty)] at h
  cases h
  cases hs

theorem foldl_released (D : Deployment) {S : Store} (tx : Tx) {t : Bytes32}
    (h : FrozenAccountState.from_account (S.marker t) = .ok ⟨true⟩) :
    (markerPosts S tx t (.of_account ((S.marker t).withMarker ⟨false⟩).account)).foldl D.put S =
      D.withMarker S t ⟨false⟩ := by
  have hempty := isEmpty_of_frozen h rfl
  unfold withMarker AccountWithMetadata.writeMarker
  simp only [hempty, Bool.false_eq_true, if_false]
  rfl

variable [LawfulCrates]

/-- LEZ takes the first write of a marker with its claim, and every later one without. -/
theorem land_markerClaim (m : AccountWithMetadata) (p : ProgramId) (t : Bytes32) (s : FrozenAccountState) :
    m.land p ⟨(m.withMarker s).account, m.markerClaim t⟩ = m.writeMarker p s := by
  obtain ⟨claim, hclaim⟩ := LawfulCrates.pda_from_seeds_claims (frozen_pda_seeds t)
  unfold AccountWithMetadata.land AccountWithMetadata.markerClaim AccountWithMetadata.writeMarker
  rw [hclaim]
  cases m.account.data.bytes.isEmpty <;> rfl

theorem foldl_frozen (D : Deployment) (S : Store) (tx : Tx) (t : Bytes32) :
    (markerPosts S tx t ⟨((S.marker t).withMarker ⟨true⟩).account, (S.marker t).markerClaim t⟩).foldl D.put S =
      D.withMarker S t ⟨true⟩ := by
  unfold withMarker
  rw [← land_markerClaim _ _ t]
  rfl

/-! ## The post-states -/

theorem outcome_config (D : Deployment) (S : Store) (tx : Tx) (m : Borrow FreezeConfig FreezeError Unit)
    (h : (D.instruction S tx).method = some m) :
    D.outcome S tx = do
      D.guard S tx
      (D.instruction S tx).check
      let c ← fromFreeze (D.config S)
      let c' ← fromFreeze (m.on c)
      return D.configPosts S tx c' := by
  have hdispatch : (D.instruction S tx).dispatch D.mode =
      (do D.guard S tx; (D.instruction S tx).invoke) := by
    obtain ⟨a, caller, call⟩ := tx
    unfold guard Instruction.dispatch
    cases D.mode <;> cases call <;> first | rfl | cases h
  have hconfig : FreezeConfig.from_account_at (D.instruction S tx).freeze_config_account
      (D.instruction S tx).config_offset = D.config S := by
    obtain ⟨a, caller, call⟩ := tx
    cases call <;> first | rfl | cases h
  have hwritten : ∀ c', (D.instruction S tx).freeze_config_account.withConfig
      (D.instruction S tx).config_offset c' = S.freeze_config.withConfig D.offset c' := by
    obtain ⟨a, caller, call⟩ := tx
    cases call <;> first | (intro c'; rfl) | cases h
  unfold outcome configPosts
  simp only [hdispatch, Instruction.invoke_config _ m h, hconfig, hwritten, bind_assoc, pure_bind]
  unfold postStates
  simp only [List.zip_map']

theorem outcome_freeze_account (D : Deployment) (S : Store) (a caller : AccountWithMetadata) (t : Bytes32) :
    D.outcome S ⟨a, caller, .freeze_account t⟩ = do
      let c ← fromFreeze (D.config S)
      let _ ← fromFreeze (FrozenAccountState.from_account (S.marker t))
      fromFreeze (c.assert caller)
      return markerPosts S ⟨a, caller, .freeze_account t⟩ t
        ⟨((S.marker t).withMarker ⟨true⟩).account, (S.marker t).markerClaim t⟩ := by
  have hinvoke := Instruction.invoke_freeze_account S.freeze_config (S.marker t) caller t D.offset
  have hdispatch : (D.instruction S ⟨a, caller, .freeze_account t⟩).dispatch D.mode =
      (Instruction.freeze_account S.freeze_config (S.marker t) caller t D.offset).invoke := by
    unfold Instruction.dispatch
    cases D.mode <;> rfl
  unfold outcome
  simp only [hdispatch, hinvoke, bind_assoc, pure_bind]
  rfl

theorem outcome_freeze_account_release (D : Deployment) (S : Store) (a caller : AccountWithMetadata)
    (t : Bytes32) :
    D.outcome S ⟨a, caller, .freeze_account_release t⟩ = do
      let c ← fromFreeze (D.config S)
      fromFreeze (c.assert caller)
      let s ← fromFreeze (FrozenAccountState.from_account (S.marker t))
      if !s.is_frozen then throw (FreezeError.toSpelError .AccountNotFrozen)
      return markerPosts S ⟨a, caller, .freeze_account_release t⟩ t
        (.of_account ((S.marker t).withMarker ⟨false⟩).account) := by
  have hinvoke := Instruction.invoke_freeze_account_release S.freeze_config (S.marker t) caller t D.offset
  have hdispatch : (D.instruction S ⟨a, caller, .freeze_account_release t⟩).dispatch D.mode =
      (Instruction.freeze_account_release S.freeze_config (S.marker t) caller t D.offset).invoke := by
    unfold Instruction.dispatch
    cases D.mode <;> rfl
  unfold outcome
  simp only [hdispatch, hinvoke, bind_assoc]
  congr 1; funext c
  congr 1; funext u
  congr 1; funext s
  obtain ⟨b⟩ := s
  cases b <;> rfl

theorem outcome_initialize_eq_ok_iff (D : Deployment) (S : Store) (a caller : AccountWithMetadata)
    (landed : List (Role × AccountPostState)) :
    D.outcome S ⟨a, caller, Call.freeze_initialize⟩ = .ok landed ↔
      S.freeze_config.account = .default ∧ Crates.require_admin a caller = .ok () ∧
      AuthorityCandidate.Signer.Evidence caller caller.account_id ∧ caller.account_id ≠ .default ∧
      ∃ d : Data, d.bytes = FreezeConfig.bytes ⟨⟨caller.account_id, .default⟩, false⟩ ∧
        landed = [(.admin_config, .of_account a.account), (.caller, .of_account caller.account),
          (.freeze_config, ⟨(S.freeze_config.withData d).account,
            some (.Pda ⟨Crates.seed_from_str "freeze_config"⟩)⟩)] := by
  have hdispatch : (D.instruction S ⟨a, caller, Call.freeze_initialize⟩).dispatch D.mode =
      (do Crates.account_init S.freeze_config
          (Instruction.freeze_initialize a caller S.freeze_config).invoke) := by
    unfold Instruction.dispatch
    cases D.mode <;> rfl
  unfold outcome
  simp only [hdispatch, Result.bind_eq_ok, Result.pure_eq, Except.ok.injEq,
    Instruction.invoke_freeze_initialize_eq_ok_iff]
  constructor
  · rintro ⟨out, ⟨u, hinit, hadmin, hev, hne, d, hd, rfl⟩, rfl⟩
    exact ⟨(LawfulCrates.account_init_ok_iff _).mp hinit, hadmin, hev, hne, d, hd, rfl⟩
  · rintro ⟨hinit, hadmin, hev, hne, d, hd, rfl⟩
    exact ⟨_, ⟨(), (LawfulCrates.account_init_ok_iff _).mpr hinit, hadmin, hev, hne, d, hd, rfl⟩, rfl⟩

theorem landed_of_outcome {D : Deployment} {S : Store} {tx : Tx} {landed : List (Role × AccountPostState)}
    (h : D.outcome S tx = .ok landed) : Landed D S tx landed := by
  obtain ⟨a, caller, call⟩ := tx
  cases hm : (D.instruction S ⟨a, caller, call⟩).method with
  | some m =>
    rw [outcome_config D S _ m hm] at h
    obtain ⟨_, -, h⟩ := Result.bind_eq_ok.mp h
    obtain ⟨_, -, h⟩ := Result.bind_eq_ok.mp h
    obtain ⟨c, hc, h⟩ := Result.bind_eq_ok.mp h
    obtain ⟨c', -, h⟩ := Result.bind_eq_ok.mp h
    cases h
    exact .config c c' (Result.mapError_eq_ok.mp hc) (by rw [hm]; simp)
  | none =>
    cases call
    case freeze_initialize =>
      obtain ⟨hnew, -, -, -, d, hd, rfl⟩ := (outcome_initialize_eq_ok_iff _ _ _ _ _).mp h
      exact .created d rfl hnew hd
    case freeze_account t =>
      rw [outcome_freeze_account] at h
      obtain ⟨c, hc, h⟩ := Result.bind_eq_ok.mp h
      obtain ⟨_, -, h⟩ := Result.bind_eq_ok.mp h
      obtain ⟨_, -, h⟩ := Result.bind_eq_ok.mp h
      cases h
      exact .frozen c t (Result.mapError_eq_ok.mp hc) rfl
    case freeze_account_release t =>
      rw [outcome_freeze_account_release] at h
      obtain ⟨c, hc, h⟩ := Result.bind_eq_ok.mp h
      obtain ⟨_, -, h⟩ := Result.bind_eq_ok.mp h
      obtain ⟨⟨b⟩, hb, h⟩ := Result.bind_eq_ok.mp h
      cases b with
      | false => cases h
      | true =>
        cases h
        exact .released c t (Result.mapError_eq_ok.mp hc) rfl (Result.mapError_eq_ok.mp hb)
    all_goals cases hm

/-! ## The stores -/

theorem step_config (D : Deployment) (S : Store) (tx : Tx) (m : Borrow FreezeConfig FreezeError Unit)
    (h : (D.instruction S tx).method = some m) :
    D.step S tx = do
      D.guard S tx
      (D.instruction S tx).check
      let c ← fromFreeze (D.config S)
      let c' ← fromFreeze (m.on c)
      return S.withConfig D.offset c' := by
  have hfoldl := foldl_configPosts D S tx (by rw [h]; simp)
  unfold step
  simp only [outcome_config D S tx m h, bind_assoc, pure_bind, hfoldl]

theorem step_freeze_account (D : Deployment) (S : Store) (a caller : AccountWithMetadata) (t : Bytes32) :
    D.step S ⟨a, caller, .freeze_account t⟩ = do
      let c ← fromFreeze (D.config S)
      let _ ← fromFreeze (FrozenAccountState.from_account (S.marker t))
      fromFreeze (c.assert caller)
      return D.withMarker S t ⟨true⟩ := by
  unfold step
  simp only [outcome_freeze_account, bind_assoc, pure_bind, foldl_frozen]

theorem step_freeze_account_release (D : Deployment) (S : Store) (a caller : AccountWithMetadata)
    (t : Bytes32) :
    D.step S ⟨a, caller, .freeze_account_release t⟩ = do
      let c ← fromFreeze (D.config S)
      fromFreeze (c.assert caller)
      let s ← fromFreeze (FrozenAccountState.from_account (S.marker t))
      if !s.is_frozen then throw (FreezeError.toSpelError .AccountNotFrozen)
      return D.withMarker S t ⟨false⟩ := by
  unfold step
  simp only [outcome_freeze_account_release, bind_assoc]
  congr 1; funext c
  congr 1; funext u
  cases hs : FrozenAccountState.from_account (S.marker t) with
  | error e => rfl
  | ok s =>
    obtain ⟨b⟩ := s
    cases b with
    | false => rfl
    | true => exact congrArg Except.ok (foldl_released D _ hs)

theorem step_initialize_eq_ok_iff (D : Deployment) (S S' : Store) (a caller : AccountWithMetadata) :
    D.step S ⟨a, caller, Call.freeze_initialize⟩ = .ok S' ↔
      S.freeze_config.account = .default ∧ Crates.require_admin a caller = .ok () ∧
      AuthorityCandidate.Signer.Evidence caller caller.account_id ∧ caller.account_id ≠ .default ∧
      ∃ d : Data, d.bytes = FreezeConfig.bytes ⟨⟨caller.account_id, .default⟩, false⟩ ∧
        S' = { S with freeze_config := (S.freeze_config.withData d).ownedBy D.program_id } := by
  unfold step
  simp only [Result.bind_eq_ok, Result.pure_eq, Except.ok.injEq, outcome_initialize_eq_ok_iff]
  constructor
  · rintro ⟨_, ⟨hinit, hadmin, hev, hne, d, hd, rfl⟩, rfl⟩
    exact ⟨hinit, hadmin, hev, hne, d, hd, rfl⟩
  · rintro ⟨hinit, hadmin, hev, hne, d, hd, rfl⟩
    exact ⟨_, ⟨hinit, hadmin, hev, hne, d, hd, rfl⟩, rfl⟩

/-- What an accepted step leaves in the accounts. -/
inductive Effect (D : Deployment) (S : Store) (tx : Tx) : Store → Prop
  | created (d : Data) (hcall : tx.call = Call.freeze_initialize) (hnew : S.freeze_config.account = .default)
      (hd : d.bytes = FreezeConfig.bytes ⟨⟨tx.caller.account_id, .default⟩, false⟩) :
      Effect D S tx { S with freeze_config := (S.freeze_config.withData d).ownedBy D.program_id }
  | config (c c' : FreezeConfig) (hc : D.config S = .ok c) (hcall : (D.instruction S tx).method ≠ none) :
      Effect D S tx (S.withConfig D.offset c')
  | frozen (c : FreezeConfig) (t : Bytes32) (hc : D.config S = .ok c) (hcall : tx.call = .freeze_account t) :
      Effect D S tx (D.withMarker S t ⟨true⟩)
  | released (c : FreezeConfig) (t : Bytes32) (hc : D.config S = .ok c)
      (hcall : tx.call = .freeze_account_release t)
      (hfrozen : FrozenAccountState.from_account (S.marker t) = .ok ⟨true⟩) :
      Effect D S tx (D.withMarker S t ⟨false⟩)

theorem effect_of_step {D : Deployment} {S S' : Store} {tx : Tx} (h : D.step S tx = .ok S') :
    Effect D S tx S' := by
  unfold step at h
  obtain ⟨landed, hlanded, h⟩ := Result.bind_eq_ok.mp h
  cases h
  cases landed_of_outcome hlanded with
  | created d hcall hnew hd => exact .created d hcall hnew hd
  | config c c' hc hcall =>
    rw [foldl_configPosts D S tx hcall]
    exact .config c c' hc hcall
  | frozen c t hc hcall =>
    rw [foldl_frozen]
    exact .frozen c t hc hcall
  | released c t hc hcall hfrozen =>
    rw [foldl_released D tx hfrozen]
    exact .released c t hc hcall hfrozen

theorem config_of_step {D : Deployment} {S S' : Store} {tx : Tx} (h : D.step S tx = .ok S')
    (hcall : tx.call ≠ Call.freeze_initialize) : ∃ c, D.config S = .ok c := by
  cases effect_of_step h with
  | created _ hcall' => exact absurd hcall' hcall
  | config c _ hc => exact ⟨c, hc⟩
  | frozen c _ hc => exact ⟨c, hc⟩
  | released c _ hc => exact ⟨c, hc⟩

theorem marker_of_step {D : Deployment} {S S' : Store} {tx : Tx} (h : D.step S tx = .ok S') {t : Bytes32}
    (hne : S'.marker t ≠ S.marker t) :
    tx.call = .freeze_account t ∨ tx.call = .freeze_account_release t := by
  cases effect_of_step h with
  | created => exact absurd rfl hne
  | config => exact absurd rfl hne
  | frozen _ t' _ hcall =>
    by_cases ht : t = t'
    · exact Or.inl (ht ▸ hcall)
    · exact absurd (withMarker_of_ne D S _ ht) hne
  | released _ t' _ hcall _ =>
    by_cases ht : t = t'
    · exact Or.inr (ht ▸ hcall)
    · exact absurd (withMarker_of_ne D S _ ht) hne

end Deployment

end FreezeAuthority
