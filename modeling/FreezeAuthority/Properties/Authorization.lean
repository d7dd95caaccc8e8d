import FreezeAuthority.Spec.Reference

/-!
# Who may change what

Every part of the freeze state has its own rule. A vacant slot without a nominee moves for
nobody but the admin.
-/

namespace FreezeAuthority

variable [Lez] [Crates]

/-- A transaction that may make `h` the holder. -/
def Deployment.Installs (D : Deployment) (S : Store) (tx : Tx) (h : AccountId) : Prop :=
  match tx.call with
  | Call.freeze_initialize =>
    AdminSigned tx.admin_config 0 tx.caller ∧ AuthorityCandidate.Signer.Evidence tx.caller h
  | .freeze_authority_transfer new_account candidate =>
    AdminSigned tx.admin_config D.admin_offset tx.caller ∧ candidate.Evidence new_account h
  | .freeze_authority_accept => (D.slot S).AcceptableBy tx.caller ∧ h = (D.slot S).nominee
  | _ => False

/-- A transaction that may make `id` the nominee, or leave none with the default id. -/
def Deployment.Names (D : Deployment) (S : Store) (tx : Tx) (id : AccountId) : Prop :=
  match tx.call with
  | .freeze_authority_nominate next => id = ⟨next⟩ ∧
    (AdminSigned tx.admin_config D.admin_offset tx.caller ∨ (D.slot S).HeldBy tx.caller)
  | .freeze_authority_renounce => id = .default ∧
    (AdminSigned tx.admin_config D.admin_offset tx.caller ∨ (D.slot S).HeldBy tx.caller)
  | .freeze_authority_transfer _ _ => id = .default ∧ AdminSigned tx.admin_config D.admin_offset tx.caller
  | .freeze_authority_accept => id = .default ∧ (D.slot S).AcceptableBy tx.caller
  | _ => False

/-! ## One step -/

theorem next_is_frozen_authorized {D : Deployment} {s : FreezeState} {tx : Tx} (hp : s.Permits D tx)
    (hne : (s.next tx.call).is_frozen ≠ s.is_frozen) :
    (tx.call = .freeze_program ∨ tx.call = .freeze_program_release) ∧ s.slot.HeldBy tx.caller := by
  obtain ⟨a, caller, call⟩ := tx
  cases call
  case freeze_program => exact ⟨Or.inl rfl, hp.1⟩
  case freeze_program_release => exact ⟨Or.inr rfl, hp⟩
  all_goals exact absurd rfl hne

theorem toggle_authorized {D : Deployment} {s : FreezeState} {tx : Tx} {t : Bytes32} (hp : s.Permits D tx)
    (hcall : tx.call = .freeze_account t ∨ tx.call = .freeze_account_release t) :
    s.slot.HeldBy tx.caller := by
  obtain ⟨a, caller, call⟩ := tx
  rcases hcall with rfl | rfl <;> exact hp.1

theorem next_holder_authorized {D : Deployment} {S : Store} {s : FreezeState} {tx : Tx} (h : D.Represents S s)
    (hp : s.Permits D tx) (hne : (s.next tx.call).slot.holder ≠ s.slot.holder)
    (hset : (s.next tx.call).slot.holder ≠ .default) : D.Installs S tx (s.next tx.call).slot.holder := by
  obtain ⟨a, caller, call⟩ := tx
  unfold Deployment.Installs
  rw [Deployment.slot_of_represents h]
  cases call
  case freeze_authority_transfer n candidate => exact ⟨hp.1, hp.2.1⟩
  case freeze_authority_accept => exact ⟨hp, rfl⟩
  case freeze_authority_renounce => exact absurd rfl hset
  all_goals exact absurd rfl hne

theorem next_vacant_authorized {D : Deployment} {s : FreezeState} {tx : Tx}
    (hp : s.Permits D tx) (hne : s.slot.holder ≠ .default)
    (hvacant : (s.next tx.call).slot.holder = .default) :
    tx.call = .freeze_authority_renounce ∧
      (AdminSigned tx.admin_config D.admin_offset tx.caller ∨ s.slot.HeldBy tx.caller) := by
  obtain ⟨a, caller, call⟩ := tx
  cases call
  case freeze_authority_transfer n candidate => exact absurd hvacant hp.2.2
  case freeze_authority_accept => exact absurd hvacant hp.1
  case freeze_authority_renounce => exact ⟨rfl, hp⟩
  all_goals exact absurd hvacant hne

theorem next_nominee_authorized {D : Deployment} {S : Store} {s : FreezeState} {tx : Tx} (h : D.Represents S s)
    (hp : s.Permits D tx) (hne : (s.next tx.call).slot.nominee ≠ s.slot.nominee) :
    D.Names S tx (s.next tx.call).slot.nominee := by
  obtain ⟨a, caller, call⟩ := tx
  unfold Deployment.Names
  rw [Deployment.slot_of_represents h]
  cases call
  case freeze_authority_transfer n candidate => exact ⟨rfl, hp.1⟩
  case freeze_authority_accept => exact ⟨rfl, hp⟩
  case freeze_authority_renounce => exact ⟨rfl, hp⟩
  case freeze_authority_nominate id => exact ⟨rfl, hp⟩
  all_goals exact absurd rfl hne

theorem installs_of_initialize (D : Deployment) (S : Store) {a caller : AccountWithMetadata}
    (hadmin : AdminSigned a 0 caller) (hev : AuthorityCandidate.Signer.Evidence caller caller.account_id) :
    D.Installs S ⟨a, caller, Call.freeze_initialize⟩ caller.account_id := ⟨hadmin, hev⟩

variable [LawfulCrates]

/-- Before `freeze_initialize` there is no config. After it there is none at `offset`, or the new one. -/
theorem config_of_initialize {D : Deployment} {S S' : Store} {a caller : AccountWithMetadata}
    (h : D.step S ⟨a, caller, Call.freeze_initialize⟩ = .ok S') :
    (∃ e, D.config S = .error e) ∧
      ((∃ e, D.config S' = .error e) ∨ D.config S' = .ok ⟨⟨caller.account_id, .default⟩, false⟩) := by
  obtain ⟨hnew, -, -, -, d, hd, rfl⟩ := (Deployment.step_initialize_eq_ok_iff _ _ _ _ _).mp h
  constructor
  · refine ⟨.NotInitialized, ?_⟩
    unfold Deployment.config FreezeConfig.from_account_at
    rw [hnew]
    rfl
  · by_cases hoffset : D.offset = 0
    · exact Or.inr (Deployment.represents_of_initialize hoffset h).config
    · have hlen : d.bytes.length = FreezeConfig.SIZE := by rw [hd, FreezeConfig.length_bytes]
      exact Or.inl ⟨_, FreezeConfig.decode_at_of_short d.slice D.offset (show d.bytes.length < _ by omega)⟩

/-- Once the config exists, no call writes its account outside the freeze window. -/
theorem outside_of_step {D : Deployment} {S S' : Store} {tx : Tx} (h : D.step S tx = .ok S')
    (hcall : tx.call ≠ Call.freeze_initialize) {o n : Nat}
    (hd : Window.Disjoint D.offset FreezeConfig.SIZE o n) :
    Window.read S'.freeze_config.account.data.bytes o n =
      Window.read S.freeze_config.account.data.bytes o n := by
  cases Deployment.effect_of_step h with
  | created _ hcreate => exact absurd hcreate hcall
  | config c c' hc =>
    have hfits := ((FreezeConfig.decode_at_eq_ok_iff _ _ _).mp hc).1
    show Window.read (S.freeze_config.withConfig D.offset c').account.data.bytes o n = _
    rw [AccountWithMetadata.withConfig_bytes _ _ _ hfits]
    rw [← FreezeConfig.length_bytes c'] at hfits hd
    exact Window.read_write_disjoint _ _ _ _ _ hfits hd
  | frozen => rfl
  | released => rfl

/-- Every accepted call changes only what its caller may change. The admin's bytes stay as they are, in an
account of their own and in one they share with the config. -/
theorem step_authorized {D : Deployment} {S S' : Store} {tx : Tx} (h : D.step S tx = .ok S') :
    (D.is_frozen S' ≠ D.is_frozen S →
      (tx.call = .freeze_program ∨ tx.call = .freeze_program_release) ∧ (D.slot S).HeldBy tx.caller) ∧
    (∀ t, S'.marker t ≠ S.marker t →
      (tx.call = .freeze_account t ∨ tx.call = .freeze_account_release t) ∧ (D.slot S).HeldBy tx.caller) ∧
    ((D.slot S').holder ≠ (D.slot S).holder → (D.slot S').holder ≠ .default →
      D.Installs S tx (D.slot S').holder) ∧
    ((D.slot S').holder ≠ (D.slot S).holder → (D.slot S').holder = .default →
      tx.call = .freeze_authority_renounce ∧
        (AdminSigned tx.admin_config D.admin_offset tx.caller ∨ (D.slot S).HeldBy tx.caller)) ∧
    ((D.slot S').nominee ≠ (D.slot S).nominee → D.Names S tx (D.slot S').nominee) ∧
    (∀ landed post, D.outcome S tx = .ok landed → (.admin_config, post) ∈ landed →
      post = .of_account tx.admin_config.account) ∧
    (tx.call ≠ Call.freeze_initialize → ∀ o n, Window.Disjoint D.offset FreezeConfig.SIZE o n →
      Window.read S'.freeze_config.account.data.bytes o n =
        Window.read S.freeze_config.account.data.bytes o n) := by
  have hadmin : ∀ landed post, D.outcome S tx = .ok landed → (.admin_config, post) ∈ landed →
      post = .of_account tx.admin_config.account :=
    fun _ _ hlanded hmem => (Deployment.landed_of_outcome hlanded).admin hmem
  have hshared (hcall : tx.call ≠ Call.freeze_initialize) (o n : Nat)
      (hd : Window.Disjoint D.offset FreezeConfig.SIZE o n) := outside_of_step h hcall hd
  rcases Deployment.step_cases h with hcall | ⟨s, hrep, hp, hrep'⟩
  · obtain ⟨a, caller, call⟩ := tx
    subst hcall
    obtain ⟨-, hsigned, hev, -⟩ := (Deployment.step_initialize_eq_ok_iff _ _ _ _ _).mp h
    obtain ⟨⟨e, hbefore⟩, hafter⟩ := config_of_initialize h
    have hinstalls := installs_of_initialize D S ((require_admin_eq_ok_iff _ _).mp hsigned) hev
    have hmarker (t : Bytes32) : S'.marker t = S.marker t := by
      by_contra hne
      rcases D.marker_of_step h hne with hcall | hcall <;> cases hcall
    unfold Deployment.is_frozen Deployment.slot
    rw [hbefore]
    rcases hafter with ⟨e', hafter⟩ | hafter <;> rw [hafter]
    · exact ⟨fun hne => absurd rfl hne, fun t hne => absurd (hmarker t) hne, fun hne => absurd rfl hne,
        fun hne => absurd rfl hne, fun hne => absurd rfl hne, hadmin, hshared⟩
    · exact ⟨fun hne => absurd rfl hne, fun t hne => absurd (hmarker t) hne, fun _ _ => hinstalls,
        fun hne hd => absurd hd hne, fun hne => absurd rfl hne, hadmin, hshared⟩
  · rw [Deployment.is_frozen_of_represents hrep, Deployment.is_frozen_of_represents hrep',
      Deployment.slot_of_represents hrep, Deployment.slot_of_represents hrep']
    refine ⟨next_is_frozen_authorized hp, ?_, next_holder_authorized hrep hp, ?_,
      next_nominee_authorized hrep hp, hadmin, hshared⟩
    · intro t hne
      have hcall := D.marker_of_step h hne
      exact ⟨hcall, toggle_authorized hp hcall⟩
    · intro hne hvacant
      exact next_vacant_authorized hp (fun hd => hne (hvacant.trans hd.symm)) hvacant

end FreezeAuthority

namespace FreezeAuthority.Reference

set_option maxRecDepth 8000 in
theorem step_authorized_release :
    program.is_frozen (store (FreezeConfig.bytes ⟨⟨key 2, .default⟩, false⟩)) ≠
        program.is_frozen (store (FreezeConfig.bytes ⟨⟨key 2, .default⟩, true⟩)) ∧
      (program.slot (store (FreezeConfig.bytes ⟨⟨key 2, .default⟩, true⟩))).HeldBy (signer 2) := by
  have hstep : program.step (store (FreezeConfig.bytes ⟨⟨key 2, .default⟩, true⟩))
      (call 2 .freeze_program_release) =
      .ok (store (FreezeConfig.bytes ⟨⟨key 2, .default⟩, false⟩)) := rfl
  have hreleased : program.is_frozen (store (FreezeConfig.bytes ⟨⟨key 2, .default⟩, false⟩)) ≠
      program.is_frozen (store (FreezeConfig.bytes ⟨⟨key 2, .default⟩, true⟩)) := by
    show false ≠ true
    decide
  exact ⟨hreleased, ((step_authorized hstep).1 hreleased).2⟩

end FreezeAuthority.Reference

namespace FreezeAuthority

variable [Lez] [Crates] [LawfulCrates]

/-! ## A vacant slot without a nominee -/

theorem vacant_refuses {D : Deployment} {S : Store} {c : FreezeConfig} (hc : D.config S = .ok c)
    (hvacant : c.slot = .vacant) {tx : Tx}
    (hadmin : ¬ AdminSigned tx.admin_config D.admin_offset tx.caller) : ∃ e, D.step S tx = .error e := by
  have hrep := Deployment.represents_of_config hc
  rw [hvacant] at hrep
  have hheld : ¬ AuthoritySlot.vacant.HeldBy tx.caller := fun hheld => hheld.1 rfl
  have hnominee : ¬ AuthoritySlot.vacant.AcceptableBy tx.caller := fun haccept => haccept.1 rfl
  cases hstep : D.step S tx with
  | error e => exact ⟨e, rfl⟩
  | ok S' =>
    have hp := ((Deployment.step_refines hrep tx).2 S' hstep).1
    obtain ⟨a, caller, call⟩ := tx
    cases call
    case freeze_initialize => exact hp.elim
    case freeze_authority_transfer => exact absurd hp.1 hadmin
    case freeze_authority_renounce => exact absurd hp (not_or.mpr ⟨hadmin, hheld⟩)
    case freeze_authority_nominate => exact absurd hp (not_or.mpr ⟨hadmin, hheld⟩)
    case freeze_authority_accept => exact absurd hp hnominee
    case freeze_program => exact absurd hp.1 hheld
    case freeze_program_release => exact absurd hp hheld
    case freeze_account => exact absurd hp.1 hheld
    case freeze_account_release => exact absurd hp.1 hheld

/-- Vacant and without a nominee, the freeze authority moves for the admin alone: every other call is
refused, in any sequence, and no byte changes. -/
theorem vacant_is_a_sink {D : Deployment} {S : Store} {c : FreezeConfig} (hc : D.config S = .ok c)
    (hholder : c.slot.holder = .default) (hnominee : c.slot.nominee = .default) (txs : List Tx)
    (hadmin : ∀ tx ∈ txs, ¬ ∃ a, Crates.admin_from_account_at tx.admin_config D.admin_offset = .ok a ∧
      Crates.assert_admin a tx.caller = .ok ()) :
    (∀ n tx, txs[n]? = some tx → ∃ e, D.step (D.machine.run S (txs.take n)) tx = .error e) ∧
      D.machine.run S txs = S := by
  have hvacant : c.slot = .vacant := AuthoritySlot.ext hholder hnominee
  have hrefuses : ∀ tx, (¬ AdminSigned tx.admin_config D.admin_offset tx.caller) →
      ∃ e, D.machine.step S tx = .error e := fun tx => vacant_refuses hc hvacant
  simp only [assert_admin_eq_ok_iff] at hadmin
  refine ⟨?_, D.machine.run_stuck _ S hrefuses txs hadmin⟩
  intro n tx hn
  have hbefore := D.machine.run_stuck _ S hrefuses (txs.take n)
    fun tx htx => hadmin tx (List.mem_of_mem_take htx)
  rw [hbefore]
  exact hrefuses tx (hadmin tx (List.mem_of_getElem? hn))

end FreezeAuthority

namespace FreezeAuthority.Reference

set_option maxRecDepth 8000 in
theorem vacant_is_a_sink_after_renounce :
    program.machine.run (store (FreezeConfig.bytes ⟨.vacant, true⟩))
      [call 3 .freeze_authority_accept, call 2 .freeze_program_release] =
      store (FreezeConfig.bytes ⟨.vacant, true⟩) := by
  have hadmin : ∀ tx ∈ [call 3 .freeze_authority_accept, call 2 .freeze_program_release],
      ¬ ∃ a, Crates.admin_from_account_at tx.admin_config program.admin_offset = .ok a ∧
        Crates.assert_admin a tx.caller = .ok () := by
    intro tx htx
    rintro ⟨a, ha, hassert⟩
    simp only [List.mem_cons, List.not_mem_nil, or_false] at htx
    rcases htx with rfl | rfl <;> cases ha <;> cases hassert
  exact (vacant_is_a_sink rfl rfl rfl _ hadmin).2

end FreezeAuthority.Reference
