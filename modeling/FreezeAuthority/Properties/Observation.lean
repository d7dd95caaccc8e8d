import FreezeAuthority.Properties.Embedding
import FreezeAuthority.Properties.Recovery

/-!
# The freeze state is what can be observed

Callers see whether a call is refused and with which error, and whom the gate lets through. They see no
more than the freeze state, and they can see all of it.
-/

namespace FreezeAuthority

variable [Lez] [Crates]

/-- One call, to a config that exists. -/
structure Deployment.Alike (D D' : Deployment) (tx tx' : Tx) : Prop extends Deployment.Same D D' tx tx' where
  exists_config : tx.call ≠ Call.freeze_initialize

/-- Every run of calls is answered alike, and after it the gate answers every account alike. -/
structure Deployment.SameAnswers (D D' : Deployment) (S T : Store) : Prop where
  calls {txs txs' : List Tx} : List.Forall₂ (D.Alike D') txs txs' →
    D.machine.answers S txs = D'.machine.answers T txs'
  gate {txs txs' : List Tx} : List.Forall₂ (D.Alike D') txs txs' →
    ∀ A, D.admits (D.machine.run S txs) A = D'.admits (D'.machine.run T txs') A

section

variable {D D' : Deployment} {S T : Store}

theorem Deployment.SameAnswers.accepts (h : D.SameAnswers D' S T) {txs txs' : List Tx} {tx tx' : Tx}
    (htxs : List.Forall₂ (D.Alike D') txs txs') (htx : D.Alike D' tx tx') :
    D.machine.accepts (D.machine.run S txs) tx = D'.machine.accepts (D'.machine.run T txs') tx' := by
  have hanswers := h.calls (List.rel_append htxs (.cons htx .nil))
  rw [Machine.answers_append, Machine.answers_append, h.calls htxs, List.append_cancel_left_eq] at hanswers
  exact Machine.accepts_of_answer (List.cons.inj hanswers).1

/-! ## No more than the freeze state -/

/-- Both stores stand for one state. -/
def Deployment.SameState (D D' : Deployment) (S T : Store) : Prop :=
  ∃ s, D.Represents S s ∧ D'.Represents T s

theorem admits_of_sameState (h : D.SameState D' S T) (A : AccountId) : D.admits S A = D'.admits T A := by
  obtain ⟨s, hs, ht⟩ := h
  rw [Deployment.admits_eq hs, Deployment.admits_eq ht]

theorem from_account_of_marked {t : Bytes32} (h : S.marked t = T.marked t) :
    FrozenAccountState.from_account (S.marker t) = FrozenAccountState.from_account (T.marker t) := by
  cases hm : S.marked t with
  | none =>
    rw [(S.marked_eq_none_iff t).mp hm, (T.marked_eq_none_iff t).mp (h ▸ hm)]
  | some b =>
    rw [(S.marked_eq_some_iff t b).mp hm, (T.marked_eq_some_iff t b).mp (h ▸ hm)]

theorem guard_of_sameState (h : D.SameState D' S T) (hmode : D.mode = D'.mode)
    (a a' caller : AccountWithMetadata) (call : Call) :
    D.guard S ⟨a, caller, call⟩ = D'.guard T ⟨a', caller, call⟩ := by
  unfold Deployment.guard
  rw [hmode]
  cases call
  case freeze_program =>
    cases D'.mode with
    | auto => exact admits_of_sameState h caller.account_id
    | manual => rfl
  all_goals rfl

variable [LawfulCrates]

theorem agree_of_sameState (h : D.SameState D' S T) (hmode : D.mode = D'.mode) {tx tx' : Tx}
    (halike : D.Alike D' tx tx') : Machine.Agree (fun _ _ => True) (D.step S tx) (D'.step T tx') := by
  obtain ⟨hsame, hcall⟩ := halike
  obtain ⟨hmethod, hcheck⟩ := Deployment.instruction_congr S T hsame
  obtain ⟨a, caller, call⟩ := tx
  obtain ⟨a', caller', call'⟩ := tx'
  obtain ⟨hc, hr, -⟩ := hsame
  subst hc hr
  have hguard := guard_of_sameState h hmode a a' caller call
  obtain ⟨s, hs, ht⟩ := h
  have hmarker (t : Bytes32) := from_account_of_marked (congrFun (hs.marked.trans ht.marked.symm) t)
  cases hm : (D.instruction S ⟨a, caller, call⟩).method with
  | some m =>
    rw [D.step_config S _ m hm, D'.step_config T _ m (hmethod ▸ hm), ← hguard, ← hcheck, hs.config, ht.config]
    apply Machine.Agree.bind; intro _ _
    apply Machine.Agree.bind; intro _ _
    apply Machine.Agree.bind; intro _ _
    apply Machine.Agree.bind; intro _ _
    exact .ok trivial
  | none =>
    cases call
    case freeze_initialize => exact absurd rfl hcall
    case freeze_account t =>
      rw [D.step_freeze_account, D'.step_freeze_account, hs.config, ht.config, hmarker]
      apply Machine.Agree.bind; intro _ _
      apply Machine.Agree.bind; intro _ _
      apply Machine.Agree.bind; intro _ _
      exact .ok trivial
    case freeze_account_release t =>
      rw [D.step_freeze_account_release, D'.step_freeze_account_release, hs.config, ht.config, hmarker]
      apply Machine.Agree.bind; intro _ _
      apply Machine.Agree.bind; intro _ _
      apply Machine.Agree.bind; rintro ⟨b⟩ _
      cases b with
      | false => exact .error _
      | true => exact .ok trivial
    all_goals cases hm

theorem sameState_step (hmode : D.mode = D'.mode) (h : D.SameState D' S T) {tx tx' : Tx}
    (halike : D.Alike D' tx tx') : Machine.Agree (D.SameState D') (D.step S tx) (D'.step T tx') := by
  apply (agree_of_sameState h hmode halike).refine
  intro S' T' hS hT
  obtain ⟨s, hs, ht⟩ := h
  have hs' := ((Deployment.step_refines hs tx).2 S' hS).2
  have ht' := ((Deployment.step_refines ht tx').2 T' hT).2
  rw [← halike.call] at ht'
  exact ⟨_, hs', ht'⟩

theorem sameAnswers_of_sameState (hmode : D.mode = D'.mode) (h : D.SameState D' S T) :
    D.SameAnswers D' S T := by
  have hstep (S T : Store) (tx tx' : Tx) (h : D.SameState D' S T) (halike : D.Alike D' tx tx') :=
    sameState_step hmode h halike
  constructor
  · intro txs txs' htxs
    exact D.machine.answers_rel D'.machine (D.SameState D') (D.Alike D') hstep htxs S T h
  · intro txs txs' htxs A
    refine admits_of_sameState (D.machine.run_rel D'.machine (D.SameState D') (D.Alike D') ?_ htxs S T h) A
    intro S T tx tx' h halike
    exact (hstep S T tx tx' h halike).next h

end

/-! ## All of the freeze state -/

omit [Lez] [Crates] in
/-- Two ids are one where each that is not the all-zero one is the other. -/
theorem AccountId.eq_of_named {x y : AccountId} (h : x ≠ .default → x = y) (h' : y ≠ .default → y = x) :
    x = y := by
  by_cases hx : x = .default
  · by_cases hy : y = .default
    · rw [hx, hy]
    · exact (h' hy).symm
  · exact h hx

omit [Crates] in
theorem holder_of_heldBy {s t : AuthoritySlot} (h : ∀ caller, s.HeldBy caller ↔ t.HeldBy caller) :
    s.holder = t.holder := by
  apply AccountId.eq_of_named
  · intro hne
    exact ((h ⟨.default, true, s.holder⟩).mp ⟨hne, rfl, rfl⟩).2.1
  · intro hne
    exact ((h ⟨.default, true, t.holder⟩).mpr ⟨hne, rfl, rfl⟩).2.1

omit [Crates] in
/-- The key of a nominee accepts where some program `p` owns its account. -/
theorem nominee_of_acceptableBy {p : ProgramId} (hp : p ≠ .default) {s t : AuthoritySlot}
    (h : ∀ caller, s.AcceptableBy caller ↔ t.AcceptableBy caller) : s.nominee = t.nominee := by
  let owned : Account := { Account.default with program_owner := p }
  apply AccountId.eq_of_named
  · intro hne
    exact ((h ⟨owned, true, s.nominee⟩).mp ⟨hne, rfl, rfl, hp⟩).2.1
  · intro hne
    exact ((h ⟨owned, true, t.nominee⟩).mpr ⟨hne, rfl, rfl, hp⟩).2.1

/-! ## The calls that tell two states apart -/

/-- An admin that signs for both programs. -/
structure CommonAdmin (D D' : Deployment) (a a' admin : AccountWithMetadata) : Prop where
  signed : AdminSigned a D.admin_offset admin
  same : Crates.admin_from_account_at a D.admin_offset = Crates.admin_from_account_at a' D'.admin_offset

theorem CommonAdmin.signed' {D D' : Deployment} {a a' admin : AccountWithMetadata}
    (h : CommonAdmin D D' a a' admin) : AdminSigned a' D'.admin_offset admin := by
  obtain ⟨config, hconfig, hrest⟩ := h.signed
  exact ⟨config, h.same ▸ hconfig, hrest⟩

theorem CommonAdmin.alike {D D' : Deployment} {a a' admin : AccountWithMetadata}
    (h : CommonAdmin D D' a a' admin) (caller : AccountWithMetadata) (call : Call)
    (hcall : call ≠ Call.freeze_initialize) : D.Alike D' ⟨a, caller, call⟩ ⟨a', caller, call⟩ :=
  ⟨⟨rfl, rfl, h.same⟩, hcall⟩

/-- A key the admin can appoint: another one than its own, that signs, on an account some program owns. -/
structure Appointee (admin key : AccountWithMetadata) : Prop where
  other : key.account_id ≠ admin.account_id
  named : key.account_id ≠ .default
  signed : key.is_authorized = true
  owned : key.account.program_owner ≠ .default

def appoint_and_release (a admin key : AccountWithMetadata) (x : Bytes32) : List Tx :=
  [⟨a, admin, .freeze_authority_transfer key .Signer⟩, ⟨a, key, .freeze_account_release x⟩]

/-- Exactly one of the two accepts some next call, or lets some account through its gate. -/
def Deployment.Splits (D D' : Deployment) (a a' : AccountWithMetadata) (S T : Store) : Prop :=
  (∃ caller call, call ≠ Call.freeze_initialize ∧
    D.machine.accepts S ⟨a, caller, call⟩ ≠ D'.machine.accepts T ⟨a', caller, call⟩) ∨
  ∃ A, ¬(D.admits S A = .ok () ↔ D'.admits T A = .ok ())

/-- Both accept the first `n` of the two calls by the admin and the key, and what comes next splits them. -/
def Deployment.ToldApart (D D' : Deployment) (S T : Store) (a a' admin key : AccountWithMetadata) : Prop :=
  ∃ n x, D.machine.AcceptsAll S ((appoint_and_release a admin key x).take n) ∧
    D'.machine.AcceptsAll T ((appoint_and_release a' admin key x).take n) ∧
    D.Splits D' a a' (D.machine.run S ((appoint_and_release a admin key x).take n))
      (D'.machine.run T ((appoint_and_release a' admin key x).take n))

section

variable {D D' : Deployment} {S T : Store} {s t : FreezeState} {a a' admin key : AccountWithMetadata}

theorem Deployment.SameAnswers.not_toldApart (h : D.SameAnswers D' S T) (hadmin : CommonAdmin D D' a a' admin) :
    ¬D.ToldApart D' S T a a' admin key := by
  rintro ⟨n, x, -, -, hsplits⟩
  have halike : List.Forall₂ (D.Alike D') ((appoint_and_release a admin key x).take n)
      ((appoint_and_release a' admin key x).take n) :=
    List.forall₂_take n (.cons (hadmin.alike _ _ nofun) (.cons (hadmin.alike _ _ nofun) .nil))
  rcases hsplits with ⟨caller, call, hcall, hne⟩ | ⟨A, hne⟩
  · exact hne (h.accepts halike (hadmin.alike caller call hcall))
  · rw [h.gate halike A] at hne
    exact hne Iff.rfl

theorem toldApart_at_once (h : D.Splits D' a a' S T) : D.ToldApart D' S T a a' admin key :=
  ⟨0, key.account_id.value, trivial, trivial, h⟩

/-- Where a target is not frozen, the gate tells whether the program is. -/
theorem splits_of_is_frozen (hs : D.Represents S s) (ht : D'.Represents T t) {A : AccountId}
    (hx : s.marker A.value = some false) (hx' : t.marker A.value = some false)
    (h : s.is_frozen ≠ t.is_frozen) : D.Splits D' a a' S T := by
  refine Or.inr ⟨A, ?_⟩
  rw [Deployment.admits_eq hs, Deployment.admits_eq ht, hx, hx']
  cases hf : s.is_frozen <;> cases hf' : t.is_frozen <;> simp_all

variable [LawfulCrates]

theorem splits_of_permits (hs : D.Represents S s) (ht : D'.Represents T t) (caller : AccountWithMetadata)
    (call : Call) (hcall : call ≠ Call.freeze_initialize)
    (h : ¬(s.Permits D ⟨a, caller, call⟩ ↔ t.Permits D' ⟨a', caller, call⟩)) : D.Splits D' a a' S T := by
  refine Or.inl ⟨caller, call, hcall, ?_⟩
  intro heq
  apply h
  rw [← Deployment.accepts_iff_permits hs, ← Deployment.accepts_iff_permits ht, heq]

/-- The holder that only one of them has releases the program there, and the nominee accepts. -/
theorem toldApart_of_slot (hs : D.Represents S s) (ht : D'.Represents T t) (h : s.slot ≠ t.slot) :
    D.ToldApart D' S T a a' admin key := by
  apply toldApart_at_once
  by_cases hholder : s.slot.holder = t.slot.holder
  · have hnominee : s.slot.nominee ≠ t.slot.nominee := fun heq => h (AuthoritySlot.ext hholder heq)
    obtain ⟨caller, hne⟩ := not_forall.mp (mt (nominee_of_acceptableBy D.deployed) hnominee)
    exact splits_of_permits hs ht caller .freeze_authority_accept nofun hne
  · obtain ⟨caller, hne⟩ := not_forall.mp (mt holder_of_heldBy hholder)
    exact splits_of_permits hs ht caller .freeze_program_release nofun hne

/-! ### Once the key is appointed -/

theorem appointed (hs : D.Represents S s) (hadmin : AdminSigned a D.admin_offset admin)
    (hkey : Appointee admin key) (x : Bytes32) :
    D.machine.AcceptsAll S ((appoint_and_release a admin key x).take 1) ∧
      D.Represents (D.machine.run S ((appoint_and_release a admin key x).take 1))
        { s with slot := ⟨key.account_id, .default⟩ } := by
  let tx : Tx := ⟨a, admin, .freeze_authority_transfer key .Signer⟩
  have hpermits : s.Permits D tx := ⟨hadmin, ⟨rfl, hkey.owned, hkey.signed⟩, hkey.named⟩
  obtain ⟨haccepted, hrep⟩ := accepted_of_permits hs tx hpermits
  exact ⟨⟨haccepted, trivial⟩, hrep⟩

theorem released (hs : D.Represents S s) (hadmin : AdminSigned a D.admin_offset admin)
    (hkey : Appointee admin key) {x : Bytes32} (hx : s.marker x = some true) :
    D.machine.AcceptsAll S ((appoint_and_release a admin key x).take 2) ∧
      D.Represents (D.machine.run S ((appoint_and_release a admin key x).take 2))
        { s with slot := ⟨key.account_id, .default⟩, marker := Function.update s.marker x (some false) } := by
  obtain ⟨hall, hrep⟩ := appointed hs hadmin hkey x
  let tx : Tx := ⟨a, key, .freeze_account_release x⟩
  have hheld : (⟨key.account_id, .default⟩ : AuthoritySlot).HeldBy key := ⟨hkey.named, rfl, hkey.signed⟩
  obtain ⟨haccepted, hrep'⟩ := accepted_of_permits hrep tx ⟨hheld, hx⟩
  exact ⟨⟨hall.1, haccepted, trivial⟩, hrep'⟩

/-- The appointed key can release a target exactly where it is frozen. -/
theorem toldApart_of_marker (hs : D.Represents S s) (ht : D'.Represents T t)
    (hadmin : CommonAdmin D D' a a' admin) (hkey : Appointee admin key) {x : Bytes32}
    (hread : s.marker x ≠ none) (hread' : t.marker x ≠ none) (h : s.marker x ≠ t.marker x) :
    D.ToldApart D' S T a a' admin key := by
  obtain ⟨hall, hrep⟩ := appointed hs hadmin.signed hkey x
  obtain ⟨hall', hrep'⟩ := appointed ht hadmin.signed' hkey x
  have hheld : (⟨key.account_id, .default⟩ : AuthoritySlot).HeldBy key := ⟨hkey.named, rfl, hkey.signed⟩
  refine ⟨1, x, hall, hall',
    splits_of_permits hrep hrep' key (.freeze_account_release x) nofun ?_⟩
  show ¬(_ ∧ s.marker x = some true ↔ _ ∧ t.marker x = some true)
  rw [and_iff_right hheld, and_iff_right hheld]
  obtain ⟨b, hb⟩ := Option.ne_none_iff_exists'.mp hread
  obtain ⟨b', hb'⟩ := Option.ne_none_iff_exists'.mp hread'
  rw [hb, hb'] at h ⊢
  cases b <;> cases b' <;> simp_all

/-- The gate tells it for a target that is not frozen, and the appointed key can see to that first. -/
theorem toldApart_of_is_frozen (hs : D.Represents S s) (ht : D'.Represents T t)
    (hadmin : CommonAdmin D D' a a' admin) (hkey : Appointee admin key) {A : AccountId}
    (hread : s.marker A.value ≠ none) (hmarker : s.marker A.value = t.marker A.value)
    (h : s.is_frozen ≠ t.is_frozen) : D.ToldApart D' S T a a' admin key := by
  obtain ⟨b, hb⟩ := Option.ne_none_iff_exists'.mp hread
  cases b with
  | false => exact toldApart_at_once (splits_of_is_frozen hs ht hb (hmarker ▸ hb) h)
  | true =>
    obtain ⟨hall, hrep⟩ := released hs hadmin.signed hkey hb
    obtain ⟨hall', hrep'⟩ := released ht hadmin.signed' hkey (hmarker ▸ hb)
    exact ⟨2, A.value, hall, hall',
      splits_of_is_frozen hrep hrep' (Function.update_self _ _ _) (Function.update_self _ _ _) h⟩

theorem toldApart_of_ne (hs : D.Represents S s) (ht : D'.Represents T t) (hread : ∀ x, s.marker x ≠ none)
    (hread' : ∀ x, t.marker x ≠ none) (hadmin : CommonAdmin D D' a a' admin) (hkey : Appointee admin key)
    (h : s ≠ t) : D.ToldApart D' S T a a' admin key := by
  by_cases hslot : s.slot = t.slot
  · by_cases hmarker : s.marker = t.marker
    · have hfrozen : s.is_frozen ≠ t.is_frozen := fun heq => h (FreezeState.ext hslot heq hmarker)
      exact toldApart_of_is_frozen (A := admin.account_id) hs ht hadmin hkey (hread _)
        (congrFun hmarker _) hfrozen
    · obtain ⟨x, hx⟩ := Function.ne_iff.mp hmarker
      exact toldApart_of_marker hs ht hadmin hkey (hread x) (hread' x) hx
  · exact toldApart_of_slot hs ht hslot

/-- Two programs in one mode answer every run alike, errors and gate included, exactly where their accounts
stand for one freeze state, wherever these are and whatever else is in them. Where the states differ, and
only there, at most two calls tell them apart that both accept: an admin appoints a key, the key releases a
target. Then exactly one of them accepts some next call, or lets some account through. -/
theorem freeze_state_is_what_is_observed (hmode : D.mode = D'.mode) (hs : D.Represents S s)
    (ht : D'.Represents T t) (hread : ∀ x, s.marker x ≠ none) (hread' : ∀ x, t.marker x ≠ none)
    (hadmin : CommonAdmin D D' a a' admin) (hkey : Appointee admin key) :
    (D.SameAnswers D' S T ↔ s = t) ∧ (D.ToldApart D' S T a a' admin key ↔ s ≠ t) := by
  have hsame (heq : s = t) : D.SameAnswers D' S T := sameAnswers_of_sameState hmode ⟨s, hs, heq ▸ ht⟩
  have htold (hne : s ≠ t) := toldApart_of_ne hs ht hread hread' hadmin hkey hne
  refine ⟨⟨?_, hsame⟩, ⟨?_, htold⟩⟩
  · intro h
    by_contra hne
    exact h.not_toldApart hadmin (htold hne)
  · intro h heq
    exact (hsame heq).not_toldApart hadmin h

end

end FreezeAuthority

namespace FreezeAuthority.Reference

/-- Dedicated accounts, with markers that were all frozen and released. -/
def worn : Store :=
  { store (FreezeConfig.bytes ⟨⟨key 2, .default⟩, false⟩) with marker := fun _ => account 7 [0] }

/-- The program frozen, and every account. -/
def stalled : Store :=
  { store (FreezeConfig.bytes ⟨⟨key 2, .default⟩, true⟩) with marker := fun _ => account 7 [1] }

set_option maxRecDepth 8000 in
/-- The slot behind the one of the admin and markers never written, next to a config account and worn
markers. With everything frozen there it is told apart. -/
theorem shared_program_answers_like_worn_one :
    embedded.SameAnswers program (store shared_data) worn ∧
      embedded.ToldApart program (store shared_data) stalled admin_config admin_config (signer 1)
        (signer 4) := by
  let s : FreezeState := ⟨⟨key 2, .default⟩, false, fun _ => some false⟩
  let t : FreezeState := ⟨⟨key 2, .default⟩, true, fun _ => some true⟩
  have hs : embedded.Represents (store shared_data) s := ⟨rfl, rfl⟩
  have hworn : program.Represents worn s := ⟨rfl, rfl⟩
  have hstalled : program.Represents stalled t := ⟨rfl, rfl⟩
  have hadmin : CommonAdmin embedded program admin_config admin_config (signer 1) :=
    ⟨⟨⟨key 1, .default⟩, rfl, by decide, rfl, rfl⟩, rfl⟩
  have hkey : Appointee (signer 1) (signer 4) := ⟨by decide, by decide, rfl, by decide⟩
  have hmode : embedded.mode = program.mode := rfl
  have hne : s ≠ t := fun heq => absurd (congrArg FreezeState.is_frozen heq) nofun
  have hread (x : Bytes32) : s.marker x ≠ none := nofun
  have hread' (x : Bytes32) : t.marker x ≠ none := nofun
  exact ⟨(freeze_state_is_what_is_observed hmode hs hworn hread hread hadmin hkey).1.mpr rfl,
    (freeze_state_is_what_is_observed hmode hs hstalled hread hread' hadmin hkey).2.mpr hne⟩

end FreezeAuthority.Reference
