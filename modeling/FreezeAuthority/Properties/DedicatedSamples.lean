import FreezeAuthority.Properties.History
import FreezeAuthority.Spec.Samples

/-!
# The auto sample and the manual one

Their value is in an account of its own. The library and the sample share nothing but the gate: neither
moves the accounts of the other.
-/

namespace FreezeAuthority.Sample

variable [Lez]

/-! ## What an input writes -/

def Action.value : Action → Option UInt64
  | .update_value new_value => some new_value
  | _ => none

/-- The transaction of the library, where the input is one. -/
def Input.tx (i : Input) : Option Tx :=
  match i.action with
  | .management admin_config call => some ⟨admin_config, i.caller, call⟩
  | _ => none

variable [Crates] [Framework] {D : Deployment} {T T' : Accounts} {i : Input} {v : UInt64}

def Accounts.Holds (T : Accounts) (v : UInt64) : Prop :=
  T.config.account.data.bytes = ProgramConfig.bytes ⟨v⟩

/-! ## The steps -/

theorem step_management_eq_ok_iff (a caller : AccountWithMetadata) (call : Call) :
    step D T ⟨caller, .management a call⟩ = .ok T' ↔
      ∃ store, D.step T.store ⟨a, caller, call⟩ = .ok store ∧ T' = { T with store } := by
  unfold step
  simp only [Result.bind_eq_ok, Result.pure_eq, Except.ok.injEq]
  constructor
  · rintro ⟨store, hstep, rfl⟩
    exact ⟨store, hstep, rfl⟩
  · rintro ⟨store, hstep, rfl⟩
    exact ⟨store, hstep, rfl⟩

theorem accepts_management (a caller : AccountWithMetadata) (call : Call) :
    (machine D).accepts T ⟨caller, .management a call⟩ = D.machine.accepts T.store ⟨a, caller, call⟩ := by
  rw [Bool.eq_iff_iff, Machine.accepts_iff, Machine.accepts_iff]
  constructor
  · rintro ⟨T', hstep⟩
    obtain ⟨store, hstore, -⟩ := (step_management_eq_ok_iff a caller call).mp hstep
    exact ⟨store, hstore⟩
  · rintro ⟨store, hstore⟩
    exact ⟨_, (step_management_eq_ok_iff a caller call).mpr ⟨store, hstore, rfl⟩⟩

theorem step_read_value (h : T.Holds v) (caller : AccountWithMetadata) :
    step D T ⟨caller, .read_value⟩ = .ok T := by
  unfold step
  rw [read_value_eq_ok h]
  rfl

variable [LawfulFramework]

theorem step_update_value_eq_ok_iff (h : T.Holds v) (caller : AccountWithMetadata) (new_value : UInt64) :
    ∃ d : Data, d.bytes = ProgramConfig.bytes ⟨new_value⟩ ∧
      ∀ T', step D T ⟨caller, .update_value new_value⟩ = .ok T' ↔
        caller.is_authorized = true ∧ D.admits T.store caller.account_id = .ok () ∧
          T' = { T with config := T.config.withData d } := by
  obtain ⟨d, hd, hupdate⟩ := update_value_eq_ok h new_value
  refine ⟨d, hd, fun T' => ?_⟩
  have hgate : gate T.store.freeze_config (T.store.marker caller.account_id.value) D.offset =
      D.admits T.store caller.account_id := rfl
  unfold step require_not_frozen
  simp only [Result.bind_eq_ok, Result.pure_eq, Except.ok.injEq, hgate, hupdate]
  constructor
  · rintro ⟨_, hsigner, _, ⟨_, hadmits, rfl⟩, rfl⟩
    exact ⟨(LawfulFramework.account_signer_ok_iff caller).mp hsigner, hadmits, rfl⟩
  · rintro ⟨hsigned, hadmits, rfl⟩
    exact ⟨(), (LawfulFramework.account_signer_ok_iff caller).mpr hsigned, _, ⟨(), hadmits, rfl⟩, rfl⟩

/-- What an accepted input does: a transaction of the library moves the store alone, and an update the
value alone. -/
theorem step_holds (h : T.Holds v) (hstep : step D T i = .ok T') :
    T'.Holds (i.action.value.getD v) ∧ (i.tx = none → T'.store = T.store) ∧
      ∀ tx, i.tx = some tx → D.step T.store tx = .ok T'.store := by
  obtain ⟨caller, action⟩ := i
  cases action with
  | management a call =>
    obtain ⟨store, hstore, rfl⟩ := (step_management_eq_ok_iff a caller call).mp hstep
    refine ⟨h, by rintro ⟨⟩, ?_⟩
    rintro _ ⟨⟩
    exact hstore
  | update_value new_value =>
    obtain ⟨d, hd, hiff⟩ := step_update_value_eq_ok_iff h caller new_value
    obtain ⟨-, -, rfl⟩ := (hiff T').mp hstep
    exact ⟨hd, fun _ => rfl, by rintro _ ⟨⟩⟩
  | read_value =>
    rw [step_read_value h] at hstep
    cases hstep
    exact ⟨h, fun _ => rfl, by rintro _ ⟨⟩⟩

/-- The store moves as the library moves it. What the library refuses, the sample refuses. -/
theorem store_next (h : T.Holds v) (i : Input) :
    ((machine D).next T i).store = i.tx.elim T.store (D.machine.next T.store) := by
  cases hstep : step D T i with
  | ok T' =>
    obtain ⟨-, hown, hlibrary⟩ := step_holds h hstep
    rw [Machine.next_of_ok _ hstep]
    cases htx : i.tx with
    | none => exact hown htx
    | some tx => exact (Machine.next_of_ok _ (hlibrary tx htx)).symm
  | error e =>
    rw [Machine.next_of_error _ hstep]
    obtain ⟨caller, action⟩ := i
    cases action with
    | management a call =>
      have herror : D.step T.store ⟨a, caller, call⟩ = .error e := by
        unfold step at hstep
        exact Result.bind_return_eq_error.mp hstep
      exact (Machine.next_of_error _ herror).symm
    | update_value new_value => rfl
    | read_value => rfl

/-! ## The runs -/

theorem store_run (h : T.Holds v) (is : List Input) :
    ((machine D).run T is).store = D.machine.run T.store (is.filterMap Input.tx) := by
  refine Machine.run_project _ D.machine Accounts.store Input.tx (fun T => ∃ v, T.Holds v) ?_ ?_ is T ⟨v, h⟩
  · rintro T i T' ⟨v, h⟩ hstep
    exact ⟨_, (step_holds h hstep).1⟩
  · rintro T i ⟨v, h⟩
    exact store_next h i

theorem value_run (h : T.Holds v) (is : List Input) : ((machine D).run T is).Holds
    (((machine D).lastWrite (fun i => i.action.value) T is).getD v) :=
  (machine D).register_run Accounts.Holds (fun i => i.action.value)
    (fun _ _ _ _ h hstep => (step_holds h hstep).1) is T v h

variable [LawfulCrates]

/-! ## Starting -/

variable [AdminCrate]

/-- The deployments of the auto sample: the library's `freeze_initialize`, and the sample's own
`initialize`. -/
def AutoStart (D : Deployment) (T : Accounts) : Prop :=
  D.Initialized T.store ∧ ∃ config post, initialize_config config = .ok ⟨[post]⟩ ∧
    T.config.account.data = post.account.data

/-- The deployments of the manual sample: one `initialize` for all three accounts. -/
def ManualStart (D : Deployment) (T : Accounts) : Prop :=
  D.offset = 0 ∧ Deployment.NoMarkers T.store ∧ ∃ admin_config freeze_config config signer a f c s,
    initialize_configs admin_config freeze_config config signer = .ok ⟨[a, f, c, s]⟩ ∧
    T.store.freeze_config.account.data = f.account.data ∧ T.config.account.data = c.account.data

omit [Framework] [LawfulFramework] [AdminCrate] in
theorem AutoStart.fresh (h : AutoStart D T) : T.Holds 0 ∧ ∃ s, D.Fresh T.store s := by
  obtain ⟨hstore, config, post, hinit, hdata⟩ := h
  obtain ⟨d, hd, hout⟩ := (initialize_config_eq_ok_iff _ _).mp hinit
  cases hout
  refine ⟨?_, Deployment.fresh_of_start (Or.inl hstore)⟩
  unfold Accounts.Holds
  rw [hdata]
  exact hd

omit [Framework] [LawfulFramework] in
theorem initialize_configs_eq_ok {admin_config freeze_config config signer : AccountWithMetadata} {out : SpelOutput}
    (h : initialize_configs admin_config freeze_config config signer = .ok out) :
    ∃ (a : Account) (d e : Data), d.bytes = FreezeConfig.bytes ⟨⟨signer.account_id, .default⟩, false⟩ ∧
      e.bytes = ProgramConfig.default.bytes ∧
      out = execute [a, (freeze_config.withData d).account, (config.withData e).account, signer.account] := by
  unfold initialize_configs at h
  obtain ⟨a, -, h⟩ := Result.bind_eq_ok.mp h
  obtain ⟨f, hf, h⟩ := Result.bind_eq_ok.mp h
  obtain ⟨c, hc, h⟩ := Result.bind_eq_ok.mp h
  obtain ⟨id, d, hval, -, hd, rfl⟩ := (FreezeConfig.bootstrap_on_eq_ok_iff _ _ _ _).mp (Result.mapError_eq_ok.mp hf)
  obtain ⟨e, he, rfl⟩ := (write_to_on_eq_ok_iff _ _ _).mp hc
  obtain ⟨rfl, -⟩ := LawfulCrates.validate_sound _ _ _ hval
  cases h
  exact ⟨a.account, d, e, hd, he, rfl⟩

omit [Framework] [LawfulFramework] in
theorem ManualStart.fresh (h : ManualStart D T) : T.Holds 0 ∧ ∃ s, D.Fresh T.store s := by
  obtain ⟨hoffset, hmarkers, admin_config, freeze_config, config, signer, a, f, c, s, hinit, hf, hc⟩ := h
  obtain ⟨a', d, e, hd, he, hout⟩ := initialize_configs_eq_ok hinit
  cases hout
  have hbytes : T.store.freeze_config.account.data.bytes =
      FreezeConfig.bytes ⟨⟨signer.account_id, .default⟩, false⟩ := by
    rw [hf]
    exact hd
  have hconfig : D.config T.store = .ok ⟨⟨signer.account_id, .default⟩, false⟩ := by
    unfold Deployment.config FreezeConfig.from_account_at
    rw [hoffset, FreezeConfig.decode_at_eq_ok_iff, hbytes]
    have hread := Window.read_all (FreezeConfig.bytes ⟨⟨signer.account_id, .default⟩, false⟩)
    rw [FreezeConfig.length_bytes] at hread
    exact ⟨by rw [FreezeConfig.length_bytes, Nat.zero_add], hread⟩
  refine ⟨?_, _, Deployment.represents_of_config hconfig, rfl, rfl,
    fun t => Deployment.marked_of_empty (hmarkers t)⟩
  unfold Accounts.Holds
  rw [hc]
  exact he

/-- The samples and the library share nothing but the gate. In any run the value is the one of the last
accepted update, the library's accounts are those of its own transactions alone, and it takes and refuses
these as it would by itself. An update is accepted where its caller signs and no freeze is the last toggle
among them. -/
theorem samples_share_only_the_gate (h : AutoStart D T ∨ ManualStart D T) (is : List Input) :
    let m := machine D
    ProgramConfig.from_account (m.run T is).config = .ok ⟨(m.lastWrite (fun i => i.action.value) T is).getD 0⟩ ∧
    (m.run T is).store = D.machine.run T.store (is.filterMap Input.tx) ∧
    ∀ n i, is[n]? = some i →
      let txs := (is.take n).filterMap Input.tx
      (∀ tx, i.tx = some tx → (m.AcceptedAt T is n i ↔
        D.machine.accepts (D.machine.run T.store txs) tx = true)) ∧
      (∀ new_value, i.action = .update_value new_value → (m.AcceptedAt T is n i ↔
        i.caller.is_authorized = true ∧
        D.lastToggle Call.programToggle T.store txs ≠ some true ∧
        D.lastToggle (Call.accountToggle i.caller.account_id.value) T.store txs ≠ some true)) ∧
      (i.action = .read_value → m.AcceptedAt T is n i) := by
  obtain ⟨hstart, s, hfresh⟩ : T.Holds 0 ∧ ∃ s, D.Fresh T.store s := by
    rcases h with h | h
    · exact h.fresh
    · exact h.fresh
  intro m
  refine ⟨(from_account_eq_ok_iff _ _).mpr (value_run hstart is), store_run hstart is, ?_⟩
  rintro n ⟨caller, action⟩ hn txs
  have hstore : (m.run T (is.take n)).store = D.machine.run T.store txs := store_run hstart (is.take n)
  have hholds := value_run (D := D) hstart (is.take n)
  have haccepted : m.AcceptedAt T is n ⟨caller, action⟩ ↔
      m.accepts (m.run T (is.take n)) ⟨caller, action⟩ = true := and_iff_right hn
  refine ⟨?_, ?_, ?_⟩
  · intro tx htx
    cases action with
    | management a call =>
      cases htx
      rw [haccepted, accepts_management, hstore]
    | update_value new_value => cases htx
    | read_value => cases htx
  · rintro new_value rfl
    have hadmits := D.hosts_itself.admits_eq_ok_iff trivial hfresh txs caller.account_id
    obtain ⟨d, -, hiff⟩ := step_update_value_eq_ok_iff (D := D) hholds caller new_value
    rw [haccepted, Machine.accepts_iff]
    constructor
    · rintro ⟨T', hstep⟩
      obtain ⟨hsigned, hopen, -⟩ := (hiff T').mp hstep
      exact ⟨hsigned, hadmits.mp (hstore ▸ hopen)⟩
    · rintro ⟨hsigned, hopen⟩
      exact ⟨_, (hiff _).mpr ⟨hsigned, hstore ▸ hadmits.mpr hopen, rfl⟩⟩
  · rintro rfl
    rw [haccepted, Machine.accepts_iff]
    exact ⟨_, step_read_value hholds caller⟩

end FreezeAuthority.Sample

namespace FreezeAuthority.Reference

def new_account (n : UInt8) : AccountWithMetadata := ⟨.default, false, key n⟩

/-- The accounts after the `initialize` of the manual sample, signed with key 1. -/
def sample_accounts : Sample.Accounts := ⟨initialized, account 102 (Sample.ProgramConfig.bytes ⟨0⟩)⟩

set_option maxRecDepth 8000 in
theorem manual_started : Sample.ManualStart program sample_accounts :=
  ⟨rfl, fun _ => rfl, new_account 100, new_account 101, new_account 102, signer 1, _, _, _, _, rfl, rfl, rfl⟩

/-- The account of key 3, which does not sign. -/
def bystander : AccountWithMetadata := { signer 3 with is_authorized := false }

def sample_inputs : List Sample.Input :=
  [⟨signer 1, .update_value 7⟩, ⟨bystander, .update_value 9⟩,
    ⟨signer 1, .management admin_config .freeze_program⟩, ⟨signer 1, .update_value 8⟩]

set_option maxRecDepth 8000 in
theorem frozen_sample_keeps_its_value :
    Sample.ProgramConfig.from_account ((Sample.machine program).run sample_accounts sample_inputs).config =
        .ok ⟨7⟩ ∧
      ¬(Sample.machine program).AcceptedAt sample_accounts sample_inputs 1 ⟨bystander, .update_value 9⟩ ∧
      ¬(Sample.machine program).AcceptedAt sample_accounts sample_inputs 3 ⟨signer 1, .update_value 8⟩ := by
  obtain ⟨hvalue, -, hinputs⟩ := Sample.samples_share_only_the_gate (Or.inr manual_started) sample_inputs
  refine ⟨hvalue.trans rfl, ?_, ?_⟩
  · rw [(hinputs 1 _ rfl).2.1 9 rfl]
    rintro ⟨hsigned, -⟩
    cases hsigned
  · rw [(hinputs 3 _ rfl).2.1 8 rfl]
    rintro ⟨-, hprogram, -⟩
    exact hprogram rfl

end FreezeAuthority.Reference

namespace FreezeAuthority.Sample

variable [Lez] [Crates] [AdminCrate]

/-- The three instructions one by one: the bootstrap of `admin-authority`, `freeze_initialize`, and the
`initialize` of the auto sample behind its admin check. -/
def initialize_separately (admin_config freeze_config config signer : AccountWithMetadata) : SpelResult := do
  let admin_config ← ((AdminCrate.admin_bootstrap .Signer signer).on admin_config).mapError
    Crates.admin_error_to_spel
  let freeze ← freeze_initialize admin_config signer freeze_config
  Crates.require_admin admin_config signer
  let own ← initialize_config config
  return execute ([admin_config.account] ++ (freeze.post_states.drop 2).map (·.account) ++
    own.post_states.map (·.account) ++ [signer.account])

variable [LawfulCrates] [LawfulAdminCrate]

/-- Whoever bootstraps the admin passes the admin check. -/
theorem require_admin_of_bootstrap {signer a a' : AccountWithMetadata}
    (h : (AdminCrate.admin_bootstrap .Signer signer).on a = .ok a') :
    Crates.require_admin a' signer = .ok () := by
  obtain ⟨admin, d, ⟨hid, -, hauth⟩, hne, hslot, rfl⟩ := LawfulAdminCrate.admin_bootstrap_on _ _ _ _ h
  have hlen : d.bytes.length = AuthoritySlot.ENCODED_LEN := by
    have hbytes := admin_to_vec_eq admin
    rw [hslot, Option.some.injEq] at hbytes
    rw [hbytes, admin_lawful.length]
  rw [require_admin_eq_ok_iff]
  refine ⟨admin, ?_, hne, hid, hauth⟩
  apply LawfulAdminCrate.admin_from_account_at_of_window
  · show 0 + _ ≤ d.bytes.length
    omega
  · show _ = some (Window.read d.bytes 0 _)
    rw [← hlen, Window.read_all, hslot]

/-- The combined `initialize` of the manual sample and the separate instructions have one outcome, the
same accounts or the same error. -/
theorem combined_initialize_eq_separate (admin_config freeze_config config signer : AccountWithMetadata) :
    initialize_configs admin_config freeze_config config signer =
      initialize_separately admin_config freeze_config config signer := by
  unfold initialize_configs initialize_separately freeze_initialize
  cases hadmin : (AdminCrate.admin_bootstrap .Signer signer).on admin_config with
  | error e => rfl
  | ok a =>
    simp only [Result.mapError_ok, Result.ok_bind, require_admin_of_bootstrap hadmin]
    cases hfreeze : (FreezeConfig.bootstrap .Signer signer).on freeze_config with
    | error e => rfl
    | ok f =>
      unfold initialize_config
      cases hown : ProgramConfig.default.write_to.on config with
      | error e => rfl
      | ok c => rfl

end FreezeAuthority.Sample

namespace FreezeAuthority.Reference

set_option maxRecDepth 8000 in
theorem separate_initialize_of_new_accounts : ∃ out,
    Sample.initialize_separately (new_account 100) (new_account 101) (new_account 102) (signer 1) = .ok out := by
  rw [← Sample.combined_initialize_eq_separate]
  exact ⟨_, rfl⟩

end FreezeAuthority.Reference
