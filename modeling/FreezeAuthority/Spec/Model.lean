import FreezeAuthority.Spec.Steps

/-!
# The freeze authority as a state machine

A state is a slot, a program-wide flag and a flag per target. A permitted call has one effect
on it. The accounts follow this machine, and refuse what it does not permit.
-/

namespace FreezeAuthority

variable [Lez]

/-- What the accounts stand for. The marker of a target is `none` when nobody can read it. -/
@[ext]
structure FreezeState where
  slot : AuthoritySlot
  is_frozen : Bool
  marker : Bytes32 → Option Bool

def AuthoritySlot.HeldBy (s : AuthoritySlot) (caller : AccountWithMetadata) : Prop :=
  s.holder ≠ .default ∧ caller.account_id = s.holder ∧ caller.is_authorized = true

def AuthoritySlot.AcceptableBy (s : AuthoritySlot) (caller : AccountWithMetadata) : Prop :=
  s.nominee ≠ .default ∧ caller.account_id = s.nominee ∧ caller.is_authorized = true ∧
    caller.account.program_owner ≠ .default

/-- The bytes at `offset` of `admin_config` hold an admin, and it signs as `caller`. -/
def AdminSigned [Crates] (admin_config : AccountWithMetadata) (offset : Nat) (caller : AccountWithMetadata) :
    Prop :=
  ∃ a, Crates.admin_from_account_at admin_config offset = .ok a ∧ Crates.admin a ≠ .default ∧
    caller.account_id = Crates.admin a ∧ caller.is_authorized = true

namespace FreezeState

def Permits [Crates] (D : Deployment) (s : FreezeState) (tx : Tx) : Prop :=
  match tx.call with
  -- The config exists.
  | Call.freeze_initialize => False
  | .freeze_authority_transfer n candidate =>
    AdminSigned tx.admin_config D.admin_offset tx.caller ∧
      candidate.Evidence n n.account_id ∧ n.account_id ≠ .default
  | .freeze_authority_renounce =>
    AdminSigned tx.admin_config D.admin_offset tx.caller ∨ s.slot.HeldBy tx.caller
  | .freeze_authority_nominate _ =>
    AdminSigned tx.admin_config D.admin_offset tx.caller ∨ s.slot.HeldBy tx.caller
  | .freeze_authority_accept => s.slot.AcceptableBy tx.caller
  | .freeze_program => s.slot.HeldBy tx.caller ∧
    (D.mode = .auto → s.is_frozen = false ∧ s.marker tx.caller.account_id.value = some false)
  | .freeze_program_release => s.slot.HeldBy tx.caller
  | .freeze_account t => s.slot.HeldBy tx.caller ∧ s.marker t ≠ none
  | .freeze_account_release t => s.slot.HeldBy tx.caller ∧ s.marker t = some true

def next (s : FreezeState) (call : Call) : FreezeState :=
  match call with
  | Call.freeze_initialize => s
  | .freeze_authority_transfer n _ => { s with slot := ⟨n.account_id, .default⟩ }
  | .freeze_authority_renounce => { s with slot := .vacant }
  | .freeze_authority_nominate id => { s with slot := { s.slot with nominee := ⟨id⟩ } }
  | .freeze_authority_accept => { s with slot := ⟨s.slot.nominee, .default⟩ }
  | .freeze_program => { s with is_frozen := true }
  | .freeze_program_release => { s with is_frozen := false }
  | .freeze_account t => { s with marker := Function.update s.marker t (some true) }
  | .freeze_account_release t => { s with marker := Function.update s.marker t (some false) }

theorem next_readable (s : FreezeState) (call : Call) (t : Bytes32) (h : s.marker t ≠ none) :
    (s.next call).marker t ≠ none := by
  cases call
  case freeze_account target =>
    show Function.update s.marker target (some true) t ≠ none
    rw [Function.update_apply]
    split
    · simp
    · exact h
  case freeze_account_release target =>
    show Function.update s.marker target (some false) t ≠ none
    rw [Function.update_apply]
    split
    · simp
    · exact h
  all_goals exact h

end FreezeState

variable [Crates]

def Store.marked (S : Store) (t : Bytes32) : Option Bool :=
  match FrozenAccountState.from_account (S.marker t) with
  | .ok s => some s.is_frozen
  | .error _ => none

structure Deployment.Represents (D : Deployment) (S : Store) (s : FreezeState) : Prop where
  config : D.config S = .ok ⟨s.slot, s.is_frozen⟩
  marked : S.marked = s.marker

/-! ## The gate -/

theorem FrozenAccountState.from_account_eq_error {m : AccountWithMetadata} {e : FreezeError}
    (h : from_account m = .error e) : e = .DecodingFailed :=
  from_data_or_default_eq_error h

theorem Store.marked_eq_some_iff (S : Store) (t : Bytes32) (b : Bool) :
    S.marked t = some b ↔ FrozenAccountState.from_account (S.marker t) = .ok ⟨b⟩ := by
  unfold marked
  cases FrozenAccountState.from_account (S.marker t) with
  | error e => simp
  | ok s =>
    obtain ⟨b'⟩ := s
    simp

theorem Store.marked_eq_none_iff (S : Store) (t : Bytes32) :
    S.marked t = none ↔ FrozenAccountState.from_account (S.marker t) = .error .DecodingFailed := by
  unfold marked
  cases h : FrozenAccountState.from_account (S.marker t) with
  | error e => simp [FrozenAccountState.from_account_eq_error h]
  | ok s => simp

theorem Deployment.admits_eq {D : Deployment} {S : Store} {s : FreezeState} (h : D.Represents S s)
    (A : AccountId) :
    D.admits S A =
      if s.is_frozen then .error (FreezeError.toSpelError .Frozen)
      else match s.marker A.value with
        | some false => .ok ()
        | some true => .error (FreezeError.toSpelError .AccountFrozen)
        | none => .error (FreezeError.toSpelError .DecodingFailed) := by
  have hconfig : FreezeConfig.from_account_at S.freeze_config D.offset = .ok ⟨s.slot, s.is_frozen⟩ := h.config
  have hmarker : FrozenAccountState.from_data_or_default (S.marker A.value).account.data.bytes =
      FrozenAccountState.from_account (S.marker A.value) := rfl
  unfold Deployment.admits gate fromFreeze
  rw [hconfig, hmarker, ← h.marked]
  cases s.is_frozen with
  | true => rfl
  | false =>
    cases hm : S.marked A.value with
    | none =>
      rw [(S.marked_eq_none_iff _).mp hm]
      rfl
    | some b =>
      rw [(S.marked_eq_some_iff _ _).mp hm]
      cases b <;> rfl

theorem Deployment.guard_freeze_program_eq_ok_iff {D : Deployment} {S : Store} {s : FreezeState}
    (h : D.Represents S s) (a caller : AccountWithMetadata) :
    D.guard S ⟨a, caller, .freeze_program⟩ = .ok () ↔
      (D.mode = .auto → s.is_frozen = false ∧ s.marker caller.account_id.value = some false) := by
  unfold guard
  cases D.mode with
  | manual => simp
  | auto =>
    simp only [admits_eq h, forall_const]
    cases s.is_frozen with
    | true => simp
    | false => rcases s.marker caller.account_id.value with _ | _ | _ <;> simp

variable [LawfulCrates]

/-! ## Who a check lets through -/

theorem assert_eq_ok_iff (c : FreezeConfig) (caller : AccountWithMetadata) :
    c.assert caller = .ok () ↔ c.slot.HeldBy caller := by
  unfold FreezeConfig.assert fromAuthority AuthoritySlot.HeldBy
  rw [Result.mapError_eq_ok, LawfulCrates.slot_assert_ok_iff]

theorem assert_admin_eq_ok_iff (ac caller : AccountWithMetadata) (o : Nat) :
    (∃ a, Crates.admin_from_account_at ac o = .ok a ∧ Crates.assert_admin a caller = .ok ()) ↔
      AdminSigned ac o caller := by
  unfold AdminSigned
  simp only [LawfulCrates.assert_admin_ok_iff]

theorem require_admin_eq_ok_iff (ac caller : AccountWithMetadata) :
    Crates.require_admin ac caller = .ok () ↔ AdminSigned ac 0 caller := by
  rw [LawfulCrates.require_admin_ok_iff, assert_admin_eq_ok_iff]

theorem adminOrHolder_eq_ok_iff (c : FreezeConfig) (ac caller : AccountWithMetadata) (o : Nat) :
    c.adminOrHolder (Crates.admin_from_account_at ac o).toOption caller = .ok () ↔
      AdminSigned ac o caller ∨ c.slot.HeldBy caller := by
  rw [FreezeConfig.adminOrHolder_eq_ok_iff_dualPath, ← assert_admin_eq_ok_iff, ← assert_eq_ok_iff]
  rfl

/-! ## What each method leaves -/

namespace FreezeConfig

theorem set_is_frozen_on_eq_ok_iff (caller : AccountWithMetadata) (b : Bool) (c c' : FreezeConfig) :
    (set_is_frozen caller b).on c = .ok c' ↔ c.slot.HeldBy caller ∧ c' = { c with is_frozen := b } := by
  rw [set_is_frozen_on, Result.check_eq_ok, assert_eq_ok_iff]

theorem transfer_on_eq_ok_iff (candidate : FreezeCandidate) (n : AccountWithMetadata) (c c' : FreezeConfig) :
    (transfer candidate n).on c = .ok c' ↔
      (candidate.Evidence n n.account_id ∧ n.account_id ≠ .default) ∧
        c' = { c with slot := ⟨n.account_id, .default⟩ } := by
  rw [transfer_on, Result.bind_eq_ok]
  unfold fromAuthority
  simp only [Result.mapError_eq_ok, Result.pure_eq]
  constructor
  · rintro ⟨h, hval, hset⟩
    have hev := LawfulCrates.validate_sound _ _ _ hval
    obtain rfl := hev.1
    split at hset
    · cases hset
    · cases hset
      exact ⟨⟨hev, ‹_›⟩, rfl⟩
  · rintro ⟨⟨hev, hne⟩, rfl⟩
    refine ⟨_, LawfulCrates.validate_complete _ _ _ hev hne, ?_⟩
    rw [if_neg hne]

theorem renounce_on_eq_ok_iff (ac caller : AccountWithMetadata) (o : Nat) (c c' : FreezeConfig) :
    (renounce (Crates.admin_from_account_at ac o).toOption caller).on c = .ok c' ↔
      (AdminSigned ac o caller ∨ c.slot.HeldBy caller) ∧ c' = { c with slot := .vacant } := by
  rw [renounce_on, Result.check_eq_ok, adminOrHolder_eq_ok_iff]

theorem nominate_on_eq_ok_iff (ac caller : AccountWithMetadata) (o : Nat) (next : AccountId)
    (c c' : FreezeConfig) :
    (nominate (Crates.admin_from_account_at ac o).toOption caller next).on c = .ok c' ↔
      (AdminSigned ac o caller ∨ c.slot.HeldBy caller) ∧
        c' = { c with slot := { c.slot with nominee := next } } := by
  rw [nominate_on, Result.check_eq_ok, adminOrHolder_eq_ok_iff]

theorem accept_on_eq_ok_iff (caller : AccountWithMetadata) (c c' : FreezeConfig) :
    (accept caller).on c = .ok c' ↔
      c.slot.AcceptableBy caller ∧ c' = { c with slot := ⟨c.slot.nominee, .default⟩ } := by
  unfold accept
  rw [onSlot_on, Result.bind_eq_ok]
  unfold fromAuthority AuthoritySlot.AcceptableBy
  simp only [Result.mapError_eq_ok, LawfulCrates.slot_accept_ok_iff, Result.pure_eq, Except.ok.injEq]
  constructor
  · rintro ⟨s, ⟨hacc, rfl⟩, rfl⟩
    exact ⟨hacc, rfl⟩
  · rintro ⟨hacc, rfl⟩
    exact ⟨_, ⟨hacc, rfl⟩, rfl⟩

end FreezeConfig

/-! ## The accounts follow the machine -/

namespace Deployment

theorem represents_withConfig {D : Deployment} {S : Store} {s : FreezeState} (h : D.Represents S s)
    (c : FreezeConfig) :
    D.Represents (S.withConfig D.offset c) { s with slot := c.slot, is_frozen := c.is_frozen } := by
  have hfits := ((FreezeConfig.decode_at_eq_ok_iff _ _ _).mp h.config).1
  exact ⟨FreezeConfig.from_account_at_withConfig _ _ _ hfits, h.marked⟩

theorem represents_withMarker {D : Deployment} {S : Store} {s : FreezeState} (h : D.Represents S s)
    (t : Bytes32) (b : Bool) :
    D.Represents (D.withMarker S t ⟨b⟩) { s with marker := Function.update s.marker t (some b) } := by
  refine ⟨h.config, ?_⟩
  have hone := Instruction.one_le_of_config h.config
  funext t'
  show _ = Function.update s.marker t (some b) t'
  rw [← h.marked]
  by_cases ht : t' = t
  · subst ht
    rw [Function.update_self, Store.marked_eq_some_iff]
    have hbytes : ((D.withMarker S t' ⟨b⟩).marker t').account.data.bytes = FrozenAccountState.bytes ⟨b⟩ := by
      rw [withMarker_self, AccountWithMetadata.writeMarker_bytes _ _ _ hone]
    unfold FrozenAccountState.from_account
    rw [FrozenAccountState.from_data_or_default_eq_ok_iff, hbytes]
    exact Or.inl rfl
  · rw [Function.update_of_ne ht]
    unfold Store.marked
    rw [withMarker_of_ne D S _ ht]

theorem step_initialize_refused {D : Deployment} {S : Store} {s : FreezeState} (h : D.Represents S s)
    (a caller : AccountWithMetadata) (S' : Store) : D.step S ⟨a, caller, Call.freeze_initialize⟩ ≠ .ok S' := by
  intro hstep
  have hdefault := ((step_initialize_eq_ok_iff _ _ _ _ _).mp hstep).1
  have hconfig := h.config
  unfold config FreezeConfig.from_account_at at hconfig
  rw [hdefault] at hconfig
  cases hconfig

theorem step_config_eq_ok_iff {D : Deployment} {S : Store} {s : FreezeState} (h : D.Represents S s)
    {tx : Tx} {m : Borrow FreezeConfig FreezeError Unit} (hm : (D.instruction S tx).method = some m)
    (S' : Store) :
    D.step S tx = .ok S' ↔ D.guard S tx = .ok () ∧ (D.instruction S tx).check = .ok () ∧
      ∃ c', m.on ⟨s.slot, s.is_frozen⟩ = .ok c' ∧ S' = S.withConfig D.offset c' := by
  rw [step_config D S tx m hm, h.config]
  unfold fromFreeze
  simp only [Result.bind_eq_ok, Result.mapError_ok, Result.ok_bind, Result.mapError_eq_ok, Result.pure_eq,
    Except.ok.injEq]
  constructor
  · rintro ⟨_, hguard, _, hcheck, c', hc', rfl⟩
    exact ⟨hguard, hcheck, c', hc', rfl⟩
  · rintro ⟨hguard, hcheck, c', hc', rfl⟩
    exact ⟨(), hguard, (), hcheck, c', hc', rfl⟩

theorem check_transfer_eq_ok_iff (a f c n : AccountWithMetadata) (candidate : FreezeCandidate)
    (o admin_offset : Nat) :
    (Instruction.freeze_authority_transfer a f c n candidate o admin_offset).check = .ok () ↔
      AdminSigned a admin_offset c := by
  rw [← assert_admin_eq_ok_iff]
  unfold Instruction.check
  simp only [Result.bind_eq_ok, Result.mapError_eq_ok]

theorem step_freeze_account_eq_ok_iff {D : Deployment} {S : Store} {s : FreezeState} (h : D.Represents S s)
    (a caller : AccountWithMetadata) (t : Bytes32) (S' : Store) :
    D.step S ⟨a, caller, .freeze_account t⟩ = .ok S' ↔
      s.slot.HeldBy caller ∧ s.marker t ≠ none ∧ S' = D.withMarker S t ⟨true⟩ := by
  rw [step_freeze_account, h.config, ← h.marked]
  unfold fromFreeze
  simp only [Result.bind_eq_ok, Result.mapError_ok, Result.ok_bind, Result.mapError_eq_ok, Result.pure_eq,
    Except.ok.injEq, ne_eq, Option.ne_none_iff_exists', S.marked_eq_some_iff]
  constructor
  · rintro ⟨⟨b⟩, hb, _, hheld, rfl⟩
    exact ⟨(assert_eq_ok_iff _ _).mp hheld, ⟨b, hb⟩, rfl⟩
  · rintro ⟨hheld, ⟨b, hb⟩, rfl⟩
    exact ⟨⟨b⟩, hb, (), (assert_eq_ok_iff _ _).mpr hheld, rfl⟩

theorem step_freeze_account_release_eq_ok_iff {D : Deployment} {S : Store} {s : FreezeState}
    (h : D.Represents S s) (a caller : AccountWithMetadata) (t : Bytes32) (S' : Store) :
    D.step S ⟨a, caller, .freeze_account_release t⟩ = .ok S' ↔
      s.slot.HeldBy caller ∧ s.marker t = some true ∧ S' = D.withMarker S t ⟨false⟩ := by
  rw [step_freeze_account_release, h.config, ← h.marked]
  unfold fromFreeze
  simp only [Result.bind_eq_ok, Result.mapError_ok, Result.ok_bind, Result.mapError_eq_ok,
    S.marked_eq_some_iff]
  constructor
  · rintro ⟨_, hheld, ⟨b⟩, hb, hret⟩
    cases b with
    | false => cases hret
    | true =>
      cases hret
      exact ⟨(assert_eq_ok_iff _ _).mp hheld, hb, rfl⟩
  · rintro ⟨hheld, hb, rfl⟩
    exact ⟨(), (assert_eq_ok_iff _ _).mpr hheld, ⟨true⟩, hb, rfl⟩

/-- A call that changes the config in place: what its method asks is what the call asks, next to the
guard and the check before it. -/
theorem refines_config {D : Deployment} {S : Store} {s : FreezeState} (h : D.Represents S s) (tx : Tx)
    {m : Borrow FreezeConfig FreezeError Unit} (hm : (D.instruction S tx).method = some m) {asks : Prop}
    {after : FreezeConfig} (hmethod : ∀ c', m.on ⟨s.slot, s.is_frozen⟩ = .ok c' ↔ asks ∧ c' = after) :
    (D.guard S tx = .ok () → (D.instruction S tx).check = .ok () → asks → ∃ S', D.step S tx = .ok S') ∧
    ∀ S', D.step S tx = .ok S' → D.guard S tx = .ok () ∧ (D.instruction S tx).check = .ok () ∧ asks ∧
      D.Represents S' { s with slot := after.slot, is_frozen := after.is_frozen } := by
  constructor
  · intro hguard hcheck hasks
    exact ⟨_, (step_config_eq_ok_iff h hm _).mpr ⟨hguard, hcheck, after, (hmethod after).mpr ⟨hasks, rfl⟩, rfl⟩⟩
  · intro S' hstep
    obtain ⟨hguard, hcheck, c', hc', rfl⟩ := (step_config_eq_ok_iff h hm S').mp hstep
    obtain ⟨hasks, rfl⟩ := (hmethod c').mp hc'
    exact ⟨hguard, hcheck, hasks, represents_withConfig h c'⟩

/-- The same, where nothing stands before the method. -/
theorem refines_method {D : Deployment} {S : Store} {s : FreezeState} (h : D.Represents S s) (tx : Tx)
    {m : Borrow FreezeConfig FreezeError Unit} (hm : (D.instruction S tx).method = some m)
    (hguard : D.guard S tx = .ok ()) (hcheck : (D.instruction S tx).check = .ok ()) {asks : Prop}
    {after : FreezeConfig} (hmethod : ∀ c', m.on ⟨s.slot, s.is_frozen⟩ = .ok c' ↔ asks ∧ c' = after) :
    (asks → ∃ S', D.step S tx = .ok S') ∧
    ∀ S', D.step S tx = .ok S' → asks ∧
      D.Represents S' { s with slot := after.slot, is_frozen := after.is_frozen } := by
  obtain ⟨haccepted, hleft⟩ := refines_config h tx hm hmethod
  refine ⟨haccepted hguard hcheck, ?_⟩
  intro S' hstep
  obtain ⟨-, -, hasks, hrep⟩ := hleft S' hstep
  exact ⟨hasks, hrep⟩

/-- A step is accepted exactly when the machine permits the call, and it has the machine's effect. -/
theorem step_refines {D : Deployment} {S : Store} {s : FreezeState} (h : D.Represents S s) (tx : Tx) :
    (s.Permits D tx → ∃ S', D.step S tx = .ok S') ∧
    ∀ S', D.step S tx = .ok S' → s.Permits D tx ∧ D.Represents S' (s.next tx.call) := by
  obtain ⟨a, caller, call⟩ := tx
  cases call
  case freeze_initialize =>
    exact ⟨False.elim, fun S' hstep => absurd hstep (step_initialize_refused h a caller S')⟩
  case freeze_authority_transfer n candidate =>
    have hcheck := check_transfer_eq_ok_iff a S.freeze_config caller n candidate D.offset D.admin_offset
    obtain ⟨haccepted, hleft⟩ := refines_config h ⟨a, caller, .freeze_authority_transfer n candidate⟩ rfl
      (FreezeConfig.transfer_on_eq_ok_iff candidate n _)
    constructor
    · rintro ⟨hadmin, hev⟩
      exact haccepted rfl (hcheck.mpr hadmin) hev
    · intro S' hstep
      obtain ⟨-, hadmin, hev, hrep⟩ := hleft S' hstep
      exact ⟨⟨hcheck.mp hadmin, hev⟩, hrep⟩
  case freeze_authority_renounce =>
    exact refines_method h ⟨a, caller, .freeze_authority_renounce⟩ rfl rfl rfl
      (FreezeConfig.renounce_on_eq_ok_iff a caller D.admin_offset _)
  case freeze_authority_nominate id =>
    exact refines_method h ⟨a, caller, .freeze_authority_nominate id⟩ rfl rfl rfl
      (FreezeConfig.nominate_on_eq_ok_iff a caller D.admin_offset ⟨id⟩ _)
  case freeze_authority_accept =>
    exact refines_method h ⟨a, caller, .freeze_authority_accept⟩ rfl rfl rfl
      (FreezeConfig.accept_on_eq_ok_iff caller _)
  case freeze_program =>
    have hguard := guard_freeze_program_eq_ok_iff h a caller
    obtain ⟨haccepted, hleft⟩ := refines_config h ⟨a, caller, .freeze_program⟩ rfl
      (FreezeConfig.set_is_frozen_on_eq_ok_iff caller true _)
    constructor
    · rintro ⟨hheld, hgate⟩
      exact haccepted (hguard.mpr hgate) rfl hheld
    · intro S' hstep
      obtain ⟨hgate, -, hheld, hrep⟩ := hleft S' hstep
      exact ⟨⟨hheld, hguard.mp hgate⟩, hrep⟩
  case freeze_program_release =>
    exact refines_method h ⟨a, caller, .freeze_program_release⟩ rfl rfl rfl
      (FreezeConfig.set_is_frozen_on_eq_ok_iff caller false _)
  case freeze_account t =>
    have hstep_iff := step_freeze_account_eq_ok_iff h a caller t
    constructor
    · rintro ⟨hheld, hmarker⟩
      exact ⟨_, (hstep_iff _).mpr ⟨hheld, hmarker, rfl⟩⟩
    · intro S' hstep
      obtain ⟨hheld, hmarker, rfl⟩ := (hstep_iff S').mp hstep
      exact ⟨⟨hheld, hmarker⟩, represents_withMarker h t true⟩
  case freeze_account_release t =>
    have hstep_iff := step_freeze_account_release_eq_ok_iff h a caller t
    constructor
    · rintro ⟨hheld, hmarker⟩
      exact ⟨_, (hstep_iff _).mpr ⟨hheld, hmarker, rfl⟩⟩
    · intro S' hstep
      obtain ⟨hheld, hmarker, rfl⟩ := (hstep_iff S').mp hstep
      exact ⟨⟨hheld, hmarker⟩, represents_withMarker h t false⟩

end Deployment

end FreezeAuthority
