import FreezeAuthority.Code.Sequencer
import FreezeAuthority.Spec.Reference

/-!
# What LEZ checks, and what a landed transaction leaves

The rules of LEZ that the library is written for, as laws on the parameter. A landed transaction
does to the accounts of the library what the program's own step does.
-/

namespace FreezeAuthority

variable [Lez]

/-- An account in use that no program owns. Its key signed before any program took it. -/
def Account.Stranded (a : Account) : Prop := a ≠ .default ∧ a.program_owner = .default

/-- What LEZ lets the program `p` do to one account. -/
structure Abides (p : ProgramId) (before : AccountWithMetadata) (post : AccountPostState) : Prop where
  nonce : post.account.nonce = before.account.nonce
  balance : post.account.balance = before.account.balance
  program_owner : post.account.program_owner = before.account.program_owner
  owned : post.account.program_owner = .default → before.account = .default
  data : post.account.data = before.account.data ∨ before.account.program_owner = p ∨
    before.account = .default ∧ post.required_claim.isSome = true
  -- Whether the seed of a claim derives the address is not asked here: LEZ checks that outside
  -- `validate_execution`.
  claim : post.required_claim.isSome = true → before.account.program_owner = .default

class LawfulSequencer [Sequencer] : Prop where
  -- One post-state per account id.
  distinct (pre : List AccountWithMetadata) (posts : List AccountPostState) (p : ProgramId) :
    Sequencer.validate_execution pre posts p = .ok () → (pre.map (·.account_id)).Nodup
  -- Rule 7: an account in use has an owner.
  owned (pre : List AccountWithMetadata) (posts : List AccountPostState) (p : ProgramId) :
    Sequencer.validate_execution pre posts p = .ok () → ∀ x ∈ pre.zip posts,
      x.2.account.program_owner = .default → x.1.account = .default
  -- There are no more checks than these. A landed claim is also checked against its address, outside.
  accepts (pre : List AccountWithMetadata) (posts : List AccountPostState) (p : ProgramId) :
    (pre.map (·.account_id)).Nodup → List.Forall₂ (Abides p) pre posts →
      Sequencer.validate_execution pre posts p = .ok ()

theorem Abides.of_account {p : ProgramId} {a : AccountWithMetadata} (h : ¬a.account.Stranded) :
    Abides p a (.of_account a.account) where
  nonce := rfl
  balance := rfl
  program_owner := rfl
  owned howner := by
    by_contra hne
    exact h ⟨hne, howner⟩
  data := Or.inl rfl
  claim := by
    rintro ⟨⟩

theorem Account.not_stranded_of_owned {a : Account} (h : a.program_owner ≠ .default) : ¬a.Stranded :=
  fun hs => h hs.2

/-- The merge of the two configs drops no other account. -/
theorem mem_transactionAccounts_of_ne {i : Instruction} {x : Role × AccountWithMetadata}
    (hx : x ∈ i.accounts) (hne : x.1 ≠ .admin_config) : x ∈ i.transactionAccounts := by
  unfold Instruction.transactionAccounts
  split
  · next a f rest hi =>
    rw [hi] at hx
    split
    · rcases List.mem_cons.mp hx with rfl | hx
      · exact absurd rfl hne
      · exact hx
    · exact hx
  · exact hx

theorem Chain.put_self (c : Chain) (a : AccountWithMetadata) : c.put a a.account_id = a.account :=
  Function.update_self _ _ _

theorem Chain.put_of_ne (c : Chain) {a : AccountWithMetadata} {id : AccountId} (h : id ≠ a.account_id) :
    c.put a id = c id :=
  Function.update_of_ne h _ _

theorem Store.eq_of {S T : Store} (hconfig : S.freeze_config = T.freeze_config)
    (hmarker : ∀ t, S.marker t = T.marker t) : S = T := by
  obtain ⟨config, marker⟩ := S
  obtain ⟨config', marker'⟩ := T
  obtain rfl : config = config' := hconfig
  obtain rfl : marker = marker' := funext hmarker
  rfl

namespace Site

variable {P : Site}

theorem store_marker (c : Chain) {t : Bytes32} (h : t ∈ P.targets) :
    (P.store c).marker t = ⟨c (P.marker t), false, P.marker t⟩ :=
  if_pos h

theorem store_marker_of_not_mem (c : Chain) {t : Bytes32} (h : t ∉ P.targets) :
    (P.store c).marker t = ⟨.default, false, P.marker t⟩ :=
  if_neg h

/-! ## The accounts of a submission -/

/-- The address that a role tells. -/
def Submission.Address (sub : P.Submission) (id : AccountId) : Role → Prop
  | .admin_config => id = P.admin_config
  | .freeze_config => id = P.freeze_config
  | .marker t => t ∈ P.targets ∧ id = P.marker t
  | .caller => id = sub.caller
  | .new_account => True

/-- The account is the one on the chain, at the address of its role. -/
structure Submission.Names (sub : P.Submission) (c : Chain) (x : Role × AccountWithMetadata) : Prop where
  view : x.2 = sub.view c x.2.account_id
  address : sub.Address x.2.account_id x.1

theorem Submission.config_view (sub : P.Submission) (c : Chain) :
    (P.store c).freeze_config = sub.view c P.freeze_config := by
  unfold view
  rw [sub.config_unsigned]
  rfl

theorem Submission.marker_view (sub : P.Submission) (c : Chain) {t : Bytes32} (h : t ∈ P.targets) :
    (P.store c).marker t = sub.view c (P.marker t) := by
  unfold view
  rw [sub.marker_unsigned t h, store_marker c h]

theorem Submission.names_of_mem (sub : P.Submission) (c : Chain) :
    ∀ x ∈ (sub.instruction c).accounts, sub.Names c x := by
  have hadmin : sub.Names c (.admin_config, sub.view c P.admin_config) := ⟨rfl, rfl⟩
  have hcaller : sub.Names c (.caller, sub.view c sub.caller) := ⟨rfl, rfl⟩
  have hconfig : sub.Names c (.freeze_config, (P.store c).freeze_config) := ⟨sub.config_view c, rfl⟩
  have hmarker (t : Bytes32) (ht : t ∈ P.targets) : sub.Names c (.marker t, (P.store c).marker t) := by
    rw [sub.marker_view c ht]
    exact ⟨rfl, ht, rfl⟩
  have huse := sub.in_use
  unfold instruction tx load Deployment.instruction
  cases hcall : sub.call
  all_goals simp only [Instruction.accounts, List.forall_mem_cons, List.not_mem_nil, false_imp_iff, implies_true,
    and_true]
  case freeze_authority_transfer n candidate =>
    exact ⟨hadmin, hconfig, hcaller, rfl, trivial⟩
  case freeze_initialize => exact ⟨hadmin, hcaller, hconfig⟩
  case freeze_authority_renounce => exact ⟨hadmin, hconfig, hcaller⟩
  case freeze_authority_nominate => exact ⟨hadmin, hconfig, hcaller⟩
  case freeze_program =>
    rw [hcall] at huse
    exact ⟨hconfig, hmarker _ (huse _ (List.mem_singleton_self _)), hcaller⟩
  case freeze_account t =>
    rw [hcall] at huse
    exact ⟨hconfig, hmarker t (huse _ (List.mem_singleton_self _)), hcaller⟩
  case freeze_account_release t =>
    rw [hcall] at huse
    exact ⟨hconfig, hmarker t (huse _ (List.mem_singleton_self _)), hcaller⟩
  case freeze_program_release => exact ⟨hconfig, hcaller⟩
  case freeze_authority_accept => exact ⟨hconfig, hcaller⟩

theorem Submission.caller_mem (sub : P.Submission) (c : Chain) :
    (.caller, sub.view c sub.caller) ∈ (sub.instruction c).transactionAccounts := by
  have hmem : (.caller, sub.view c sub.caller) ∈ (sub.instruction c).accounts := by
    unfold instruction tx load Deployment.instruction
    cases sub.call <;> simp [Instruction.accounts]
  exact mem_transactionAccounts_of_ne hmem (by simp)

/-- Another account of the transaction is on the chain as it was. -/
theorem Submission.Names.put {sub : P.Submission} {c : Chain} {x : Role × AccountWithMetadata}
    (h : sub.Names c x) {a : AccountWithMetadata} (hne : x.2.account_id ≠ a.account_id) :
    sub.Names (c.put a) x := by
  refine ⟨?_, h.address⟩
  unfold Submission.view
  rw [c.put_of_ne hne]
  exact h.view

/-! One account put on the chain, as the store sees it. -/

theorem store_put_config (c : Chain) {a : AccountWithMetadata} (hid : a.account_id = P.freeze_config) :
    P.store (c.put a) = { P.store c with freeze_config := ⟨a.account, false, P.freeze_config⟩ } := by
  apply Store.eq_of
  · show (⟨c.put a P.freeze_config, false, P.freeze_config⟩ : AccountWithMetadata) = _
    rw [← hid, c.put_self]
  · intro t
    by_cases ht : t ∈ P.targets
    · show (P.store (c.put a)).marker t = (P.store c).marker t
      rw [store_marker _ ht, store_marker _ ht, c.put_of_ne (by rw [hid]; exact P.marker_ne t ht)]
    · show (P.store (c.put a)).marker t = (P.store c).marker t
      rw [store_marker_of_not_mem _ ht, store_marker_of_not_mem _ ht]

theorem store_put_marker (c : Chain) {a : AccountWithMetadata} {t : Bytes32} (ht : t ∈ P.targets)
    (hid : a.account_id = P.marker t) :
    P.store (c.put a) =
      { P.store c with marker := Function.update (P.store c).marker t ⟨a.account, false, P.marker t⟩ } := by
  apply Store.eq_of
  · show (⟨c.put a P.freeze_config, false, P.freeze_config⟩ : AccountWithMetadata) = _
    rw [c.put_of_ne (by rw [hid]; exact Ne.symm (P.marker_ne t ht))]
    rfl
  · intro t'
    show (P.store (c.put a)).marker t' = Function.update (P.store c).marker t _ t'
    by_cases heq : t' = t
    · subst heq
      rw [Function.update_self, store_marker _ ht, ← hid, c.put_self]
    · rw [Function.update_of_ne heq]
      by_cases ht' : t' ∈ P.targets
      · have hne : P.marker t' ≠ a.account_id := by
          rw [hid]
          exact fun h => heq (P.marker_inj t' ht' t ht h)
        rw [store_marker _ ht', store_marker _ ht', c.put_of_ne hne]
      · rw [store_marker_of_not_mem _ ht', store_marker_of_not_mem _ ht']

theorem store_put_same {c : Chain} {a : AccountWithMetadata}
    (hconfig : a.account_id = P.freeze_config → a.account = c a.account_id)
    (hmarker : ∀ t ∈ P.targets, a.account_id = P.marker t → a.account = c a.account_id) :
    P.store (c.put a) = P.store c := by
  have hsame (id : AccountId) (h : a.account_id = id → a.account = c a.account_id) : c.put a id = c id := by
    by_cases hid : a.account_id = id
    · subst hid
      rw [c.put_self]
      exact h rfl
    · exact c.put_of_ne (Ne.symm hid)
  apply Store.eq_of
  · show (⟨c.put a P.freeze_config, false, P.freeze_config⟩ : AccountWithMetadata) = _
    rw [hsame _ hconfig]
    rfl
  · intro t
    by_cases ht : t ∈ P.targets
    · rw [store_marker _ ht, store_marker _ ht, hsame _ (hmarker t ht)]
    · rw [store_marker_of_not_mem _ ht, store_marker_of_not_mem _ ht]

end Site

/-! ## Landing -/

variable [Sequencer]

theorem land_eq_ok_iff (pre : List AccountWithMetadata) (posts : List AccountPostState) (p : ProgramId)
    (after : List AccountWithMetadata) :
    land pre posts p = .ok after ↔ Sequencer.validate_execution pre posts p = .ok () ∧
      after = (pre.zip posts).map fun x => (x.1.land p x.2).bump := by
  unfold land
  exact Result.check_eq_ok

theorem bump_account_of_unsigned {a : AccountWithMetadata} (h : a.is_authorized = false) : a.bump = a := by
  unfold AccountWithMetadata.bump
  rw [h]
  rfl

@[simp]
theorem bump_account_id (a : AccountWithMetadata) : a.bump.account_id = a.account_id := by
  unfold AccountWithMetadata.bump
  split <;> rfl

namespace Site

variable {P : Site}

/-- An account with its role, and the post-state it lands with. -/
abbrev Entry : Type := (Role × AccountWithMetadata) × AccountPostState

/-- A post-state in a role that the program does not store is the account as it was. -/
def Entry.Passes (e : Entry) : Prop :=
  e.1.1 ≠ .freeze_config → (∀ t, e.1.1 ≠ .marker t) → e.2 = .of_account e.1.2.account

def Entry.after (p : ProgramId) (e : Entry) : AccountWithMetadata := (e.1.2.land p e.2).bump

theorem Entry.after_id (p : ProgramId) (e : Entry) : (e.after p).account_id = e.1.2.account_id := by
  unfold after
  rw [bump_account_id]
  rfl

theorem Entry.after_of_unsigned {sub : P.Submission} {c : Chain} {e : Entry} (hnames : sub.Names c e.1)
    (h : sub.signed e.1.2.account_id = false) : e.after P.program_id = e.1.2.land P.program_id e.2 := by
  apply bump_account_of_unsigned
  show e.1.2.is_authorized = false
  rw [hnames.view]
  exact h

/-- One account landing on the chain is its post-state landing in the store. -/
theorem store_put {sub : P.Submission} {c : Chain} {e : Entry} (hnames : sub.Names c e.1)
    (hpasses : e.Passes) :
    P.store (c.put (e.after P.program_id)) = P.put (P.store c) (e.1.1, e.2) := by
  have hid := e.after_id P.program_id
  have hunsigned := Entry.after_of_unsigned hnames
  have hview := hnames.view
  obtain ⟨⟨role, x⟩, post⟩ := e
  -- In the roles that are not stored, a library account passes through unsigned.
  have hpass (hconfig : role ≠ .freeze_config) (hmarker : ∀ t, role ≠ .marker t) :
      P.store (c.put (Entry.after P.program_id ((role, x), post))) = P.store c := by
    have hpost : post = .of_account x.account := hpasses hconfig hmarker
    have hkeeps (h : sub.signed x.account_id = false) :
        (Entry.after P.program_id ((role, x), post)).account = c x.account_id := by
      rw [hunsigned h, hpost]
      show x.account = _
      rw [show x = sub.view c x.account_id from hview]
      rfl
    apply store_put_same
    · intro h
      rw [hid] at h ⊢
      exact hkeeps (by rw [h]; exact sub.config_unsigned)
    · intro t ht h
      rw [hid] at h ⊢
      exact hkeeps (by rw [h]; exact sub.marker_unsigned t ht)
  cases role
  case freeze_config =>
    have hx : x.account_id = P.freeze_config := hnames.address
    rw [store_put_config c (hid.trans hx), hunsigned (by rw [hx]; exact sub.config_unsigned)]
    rfl
  case marker t =>
    obtain ⟨ht, hx⟩ : t ∈ P.targets ∧ x.account_id = P.marker t := hnames.address
    rw [store_put_marker c ht (hid.trans hx), hunsigned (by rw [hx]; exact sub.marker_unsigned t ht)]
    have hmarker := store_marker c ht
    unfold Deployment.put
    simp only [hmarker]
    rfl
  all_goals exact hpass (by simp) (by simp)

/-- A transaction lands on the chain account by account, and so it does in the store. -/
theorem store_foldl {sub : P.Submission} (entries : List Entry) {c : Chain}
    (hids : (entries.map (·.1.2.account_id)).Nodup) (hnames : ∀ e ∈ entries, sub.Names c e.1)
    (hpasses : ∀ e ∈ entries, e.Passes) :
    P.store ((entries.map (·.after P.program_id)).foldl Chain.put c) =
      (entries.map fun e => (e.1.1, e.2)).foldl P.put (P.store c) := by
  induction entries generalizing c with
  | nil => rfl
  | cons e entries ih =>
    obtain ⟨hid, hids⟩ := List.nodup_cons.mp hids
    obtain ⟨hname, hnames⟩ := List.forall_mem_cons.mp hnames
    obtain ⟨hpass, hpasses⟩ := List.forall_mem_cons.mp hpasses
    simp only [List.map_cons, List.foldl_cons]
    rw [← store_put hname hpass]
    apply ih hids
    · intro e' he'
      apply (hnames e' he').put
      rw [e.after_id]
      intro heq
      exact hid (List.mem_map.mpr ⟨e', he', heq⟩)
    · exact hpasses

end Site

end FreezeAuthority

namespace FreezeAuthority.Reference

/-! ## A reference for LEZ -/

instance (p : ProgramId) (before : AccountWithMetadata) (post : AccountPostState) :
    Decidable (Abides p before post) :=
  decidable_of_iff
    (post.account.nonce = before.account.nonce ∧ post.account.balance = before.account.balance ∧
      post.account.program_owner = before.account.program_owner ∧
      (post.account.program_owner = .default → before.account = .default) ∧
      (post.account.data = before.account.data ∨ before.account.program_owner = p ∨
        before.account = .default ∧ post.required_claim.isSome = true) ∧
      (post.required_claim.isSome = true → before.account.program_owner = .default))
    ⟨fun ⟨hn, hb, hp, ho, hd, hc⟩ => ⟨hn, hb, hp, ho, hd, hc⟩,
      fun h => ⟨h.nonce, h.balance, h.program_owner, h.owned, h.data, h.claim⟩⟩

/-- The three kinds of refusal that the library is written against. -/
inductive ExecutionValidationError
  | DuplicateAccount
  | LengthMismatch
  | RuleBroken

def validate_execution (pre : List AccountWithMetadata) (posts : List AccountPostState) (p : ProgramId) :
    Except ExecutionValidationError Unit :=
  if ¬(pre.map (·.account_id)).Nodup then .error .DuplicateAccount
  else if pre.length ≠ posts.length then .error .LengthMismatch
  else if ∀ x ∈ pre.zip posts, Abides p x.1 x.2 then .ok ()
  else .error .RuleBroken

scoped instance : Sequencer where
  ExecutionValidationError := ExecutionValidationError
  validate_execution := validate_execution
  public_account_nonce_increment nonce := nonce + 1

theorem validate_execution_eq_ok_iff (pre : List AccountWithMetadata) (posts : List AccountPostState)
    (p : ProgramId) : validate_execution pre posts p = .ok () ↔
      (pre.map (·.account_id)).Nodup ∧ pre.length = posts.length ∧ ∀ x ∈ pre.zip posts, Abides p x.1 x.2 := by
  unfold validate_execution
  split_ifs <;> simp_all

scoped instance : LawfulSequencer where
  distinct pre posts p h := ((validate_execution_eq_ok_iff pre posts p).mp h).1
  owned pre posts p h x hx := (((validate_execution_eq_ok_iff pre posts p).mp h).2.2 x hx).owned
  accepts pre posts p hids habides := by
    refine (validate_execution_eq_ok_iff pre posts p).mpr ⟨hids, habides.length_eq, ?_⟩
    rintro ⟨a, post⟩ hx
    exact List.forall₂_zip habides hx

/-! ## A chain -/

/-- One target is in use. -/
def site : Site where
  toDeployment := program
  admin_config := key 100
  freeze_config := key 101
  marker t := ⟨t⟩
  targets := [(key 5).value]
  marker_inj := by
    intro t ht t' ht' _
    rw [List.mem_singleton] at ht ht'
    rw [ht, ht']
  marker_ne := by
    intro t ht
    obtain rfl := List.mem_singleton.mp ht
    decide

/-- The admin is key 1. Every account without a role is a wallet. -/
def chain (config : Account) : Chain := fun id =>
  if id = key 100 then admin_config.account
  else if id = key 101 then config
  else if id = key 5 then .default
  else (signer 1).account

theorem key_injective : Function.Injective key := by
  intro a b h
  have hhead := congrArg (fun id : AccountId => id.value.toList.head?) h
  simpa [key, FixedArray.fill] using hhead

/-- A transaction that key `n` signs. -/
def submission (n : UInt8) (call : Call) (hn : n ∉ [5, 100, 101])
    (huse : ∀ t ∈ Site.takes (key n) call, t ∈ site.targets) : site.Submission where
  signed id := id = key n
  caller := key n
  call := call
  dedicated _ := rfl
  admin_unsigned := by
    refine decide_eq_false fun h => hn ?_
    rw [← key_injective h]
    decide
  config_unsigned := by
    refine decide_eq_false fun h => hn ?_
    rw [← key_injective h]
    decide
  marker_unsigned := by
    intro t ht
    obtain rfl := List.mem_singleton.mp ht
    refine decide_eq_false fun h => hn ?_
    rw [← key_injective (show key 5 = key n from h)]
    decide
  in_use := huse

end FreezeAuthority.Reference
