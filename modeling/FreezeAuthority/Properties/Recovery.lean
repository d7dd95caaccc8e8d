import FreezeAuthority.Properties.Hosts
import FreezeAuthority.Spec.Reference
import Mathlib.Data.Finset.Basic
import Mathlib.Data.Set.Finite.Basic

/-!
# No state locks out recovery

Whatever froze, the holder can release it all. Whoever holds the slot, the admin can give it to
someone who can.
-/

namespace FreezeAuthority

variable [Lez]

/-- Calls by the holder that release each frozen target once, in the order of `ts`. -/
structure Releases (slot : AuthoritySlot) (marker : Bytes32 → Option Bool) (txs : List Tx)
    (ts : List Bytes32) : Prop where
  calls : txs.map Tx.call = ts.map .freeze_account_release
  signed : ∀ tx ∈ txs, slot.HeldBy tx.caller
  nodup : ts.Nodup
  frozen : ∀ t, t ∈ ts ↔ marker t = some true

/-- What every run keeps: markers that can be read, of which finitely many are frozen. -/
structure FreezeState.Sound (s : FreezeState) : Prop where
  readable : ∀ t, s.marker t ≠ none
  finite : {t | s.marker t = some true}.Finite

theorem FreezeState.Sound.next {s : FreezeState} (h : s.Sound) (call : Call) : (s.next call).Sound := by
  refine ⟨fun t => s.next_readable call t (h.readable t), ?_⟩
  cases call
  case freeze_account target =>
    apply (h.finite.insert target).subset
    intro t ht
    have ht : Function.update s.marker target (some true) t = some true := ht
    by_cases heq : t = target
    · exact Or.inl heq
    · rw [Function.update_of_ne heq] at ht
      exact Or.inr ht
  case freeze_account_release target =>
    apply h.finite.subset
    intro t ht
    have ht : Function.update s.marker target (some false) t = some true := ht
    by_cases heq : t = target
    · subst heq
      simp at ht
    · rwa [Function.update_of_ne heq] at ht
  all_goals exact h.finite

variable [Crates]

/-- The frozen targets are finitely many. The holder can release the program and then each of them, in any
order, and the gate is open afterwards. -/
structure Deployment.Recoverable (D : Deployment) (S : Store) : Prop where
  finite : {t | S.marked t = some true}.Finite
  release : ∀ tx rest ts, tx.call = .freeze_program_release → (D.slot S).HeldBy tx.caller →
    Releases (D.slot S) S.marked rest ts →
    D.machine.AcceptsAll S (tx :: rest) ∧ ∀ A, D.admits (D.machine.run S (tx :: rest)) A = .ok ()

/-- The state while the holder releases: the program is, and `rest` is to come. -/
structure Releasing (D : Deployment) (rest : List Tx) (S : Store) (s : FreezeState) : Prop where
  represents : D.Represents S s
  readable : ∀ t, s.marker t ≠ none
  program : s.is_frozen = false
  releases : ∃ ts, Releases s.slot s.marker rest ts

theorem Releasing.admits {D : Deployment} {S : Store} {s : FreezeState} (h : Releasing D [] S s)
    (A : AccountId) : D.admits S A = .ok () := by
  obtain ⟨ts, hcalls, -, -, hfrozen⟩ := h.releases
  obtain rfl : ts = [] := by simpa using hcalls.symm
  have hmarker : s.marker A.value = some false := by
    obtain ⟨b, hb⟩ := Option.ne_none_iff_exists'.mp (h.readable A.value)
    cases b with
    | false => exact hb
    | true => exact absurd ((hfrozen _).mpr hb) List.not_mem_nil
  rw [Deployment.admits_eq h.represents, h.program, hmarker]
  rfl

variable [LawfulCrates]

theorem sound_of_reachable {D : Deployment} {S : Store} (h : D.Reachable S) :
    ∃ s, D.Represents S s ∧ s.Sound := by
  obtain ⟨S₀, txs, hstart, rfl⟩ := h
  obtain ⟨s, hs⟩ := Deployment.fresh_of_start (Or.inl hstart)
  have hsound : s.Sound := by
    constructor
    · intro t
      simp [hs.marker t]
    · apply Set.finite_empty.subset
      intro t ht
      simp [hs.marker t] at ht
  exact D.hosts_itself.represents_run FreezeState.Sound (fun _ call h => h.next call) trivial hs.represents
    hsound txs

theorem step_of_permits {D : Deployment} {S : Store} {s : FreezeState} (h : D.Represents S s) (tx : Tx)
    (hp : s.Permits D tx) : ∃ S', D.step S tx = .ok S' ∧ D.Represents S' (s.next tx.call) := by
  obtain ⟨S', hstep⟩ := (Deployment.step_refines h tx).1 hp
  exact ⟨S', hstep, ((Deployment.step_refines h tx).2 S' hstep).2⟩

theorem accepted_of_permits {D : Deployment} {S : Store} {s : FreezeState} (h : D.Represents S s) (tx : Tx)
    (hp : s.Permits D tx) :
    D.machine.accepts S tx = true ∧ D.Represents (D.machine.next S tx) (s.next tx.call) := by
  obtain ⟨S', hstep, hrep⟩ := step_of_permits h tx hp
  rw [D.machine.next_of_ok hstep]
  exact ⟨(D.machine.accepts_iff S tx).mpr ⟨S', hstep⟩, hrep⟩

theorem Releases.step {D : Deployment} {S : Store} {s : FreezeState} (h : D.Represents S s) {tx : Tx}
    {rest : List Tx} {ts : List Bytes32} (hr : Releases s.slot s.marker (tx :: rest) ts) :
    ∃ S' t ts', tx.call = .freeze_account_release t ∧ D.step S tx = .ok S' ∧
      D.Represents S' (s.next tx.call) ∧ Releases (s.next tx.call).slot (s.next tx.call).marker rest ts' := by
  obtain ⟨a, caller, call⟩ := tx
  obtain ⟨hcalls, hsigned, hnodup, hfrozen⟩ := hr
  cases ts with
  | nil => simp at hcalls
  | cons t ts =>
    simp only [List.map_cons, List.cons.injEq] at hcalls
    obtain ⟨rfl, hcalls⟩ := hcalls
    obtain ⟨hfresh, hnodup⟩ := List.nodup_cons.mp hnodup
    have hheld := hsigned _ List.mem_cons_self
    have hmarker : s.marker t = some true := (hfrozen t).mp List.mem_cons_self
    obtain ⟨S', hstep, hrep⟩ := step_of_permits h ⟨a, caller, .freeze_account_release t⟩
      ⟨hheld, hmarker⟩
    have hsigned' : ∀ tx ∈ rest, s.slot.HeldBy tx.caller := by
      intro tx htx
      exact hsigned tx (List.mem_cons_of_mem _ htx)
    refine ⟨S', t, ts, rfl, hstep, hrep, hcalls, hsigned', hnodup, ?_⟩
    intro t'
    show t' ∈ ts ↔ Function.update s.marker t (some false) t' = some true
    by_cases heq : t' = t
    · subst heq
      simp [hfresh]
    · rw [Function.update_of_ne heq, ← hfrozen t', List.mem_cons, or_iff_right heq]

theorem Releasing.step {D : Deployment} {tx : Tx} {rest : List Tx} {S : Store}
    (h : ∃ s, Releasing D (tx :: rest) S s) : ∃ S', D.step S tx = .ok S' ∧ ∃ s, Releasing D rest S' s := by
  obtain ⟨s, hs⟩ := h
  obtain ⟨ts, hr⟩ := hs.releases
  obtain ⟨S', t, ts', hcall, hstep, hrep, hr'⟩ := hr.step hs.represents
  refine ⟨S', hstep, _, hrep, fun t => s.next_readable tx.call t (hs.readable t), ?_, ts', hr'⟩
  rw [hcall]
  exact hs.program

theorem recoverable_of_sound {D : Deployment} {S : Store} {s : FreezeState} (h : D.Represents S s)
    (hs : s.Sound) : D.Recoverable S := by
  refine ⟨by rw [h.marked]; exact hs.finite, ?_⟩
  intro tx rest ts hcall hheld hr
  rw [Deployment.slot_of_represents h] at hheld hr
  rw [h.marked] at hr
  obtain ⟨a, caller, call⟩ := tx
  subst hcall
  obtain ⟨haccepted, hrep⟩ := accepted_of_permits h ⟨a, caller, .freeze_program_release⟩ hheld
  obtain ⟨hall, s', hend⟩ := D.machine.acceptsAll_of (fun rest S => ∃ s, Releasing D rest S s)
    (fun _ _ _ => Releasing.step) rest _ ⟨_, hrep, hs.readable, rfl, ts, hr⟩
  exact ⟨⟨haccepted, hall⟩, hend.admits⟩

/-! ## The gate and the modes -/

omit [LawfulCrates] in
theorem step_of_exempt (D : Deployment) (S : Store) {tx : Tx} (hcall : tx.call ≠ .freeze_program) :
    ({ D with mode := .auto } : Deployment).step S tx = ({ D with mode := .manual } : Deployment).step S tx := by
  obtain ⟨a, caller, call⟩ := tx
  cases call
  case freeze_program => exact absurd rfl hcall
  all_goals rfl

theorem step_of_freeze_program (D : Deployment) (S : Store) (a caller : AccountWithMetadata) :
    ({ D with mode := .auto } : Deployment).step S ⟨a, caller, .freeze_program⟩ = (do
      D.admits S caller.account_id
      ({ D with mode := .manual } : Deployment).step S ⟨a, caller, .freeze_program⟩) := by
  rw [Deployment.step_config _ S ⟨a, caller, .freeze_program⟩ _ rfl,
    Deployment.step_config _ S ⟨a, caller, .freeze_program⟩ _ rfl]
  rfl

/-- No reachable state locks out recovery. The holder can release everything, the admin can install a
holder in one step or through a nomination, and of the nine instructions only `freeze_program` runs
behind the gate. -/
theorem recovery_stays_open {D : Deployment} {S : Store} (h : D.Reachable S) :
    D.Recoverable S ∧
    (∀ admin_config caller new_account candidate, AdminSigned admin_config D.admin_offset caller →
      AuthorityCandidate.Evidence candidate new_account new_account.account_id →
      new_account.account_id ≠ .default →
      ∃ S', D.step S ⟨admin_config, caller, .freeze_authority_transfer new_account candidate⟩ = .ok S' ∧
        (D.slot S').holder = new_account.account_id ∧ D.Recoverable S') ∧
    (∀ admin_config caller admin_config' nominee, AdminSigned admin_config D.admin_offset caller →
      nominee.account_id ≠ .default → nominee.is_authorized = true →
      nominee.account.program_owner ≠ .default →
      ∃ S' S'', D.step S ⟨admin_config, caller, .freeze_authority_nominate nominee.account_id.value⟩ = .ok S' ∧
        D.step S' ⟨admin_config', nominee, .freeze_authority_accept⟩ = .ok S'' ∧
        (D.slot S'').holder = nominee.account_id ∧ D.Recoverable S'') ∧
    (∀ tx, tx.call ≠ .freeze_program →
      ({ D with mode := .auto } : Deployment).step S tx = ({ D with mode := .manual } : Deployment).step S tx) ∧
    (∀ admin_config caller,
      ({ D with mode := .auto } : Deployment).step S ⟨admin_config, caller, .freeze_program⟩ = do
      D.admits S caller.account_id
      ({ D with mode := .manual } : Deployment).step S ⟨admin_config, caller, .freeze_program⟩) := by
  obtain ⟨s, hrep, hs⟩ := sound_of_reachable h
  refine ⟨recoverable_of_sound hrep hs, ?_, ?_, fun _ => step_of_exempt D S, step_of_freeze_program D S⟩
  · intro a caller n candidate hadmin hev hne
    obtain ⟨S', hstep, hrep'⟩ := step_of_permits hrep ⟨a, caller, .freeze_authority_transfer n candidate⟩
      ⟨hadmin, hev, hne⟩
    refine ⟨S', hstep, ?_, recoverable_of_sound hrep' (hs.next _)⟩
    rw [Deployment.slot_of_represents hrep']
    rfl
  · intro a caller a' nominee hadmin hne hauth howned
    obtain ⟨S', hstep, hrep'⟩ := step_of_permits hrep
      ⟨a, caller, .freeze_authority_nominate nominee.account_id.value⟩ (Or.inl hadmin)
    obtain ⟨S'', hstep', hrep''⟩ := step_of_permits hrep' ⟨a', nominee, .freeze_authority_accept⟩
      ⟨hne, rfl, hauth, howned⟩
    refine ⟨S', S'', hstep, hstep', ?_, recoverable_of_sound hrep'' ((hs.next _).next _)⟩
    rw [Deployment.slot_of_represents hrep'']
    rfl

end FreezeAuthority

namespace FreezeAuthority.Reference

set_option maxRecDepth 8000 in
theorem recovery_of_frozen_target :
    program.admits (program.machine.run initialized [call 1 (.freeze_account (key 5).value),
      call 1 .freeze_program_release, call 1 (.freeze_account_release (key 5).value)]) (key 5) = .ok () := by
  have hrep : program.Represents initialized ⟨⟨key 1, .default⟩, false, fun _ => some false⟩ := ⟨rfl, rfl⟩
  have hheld : (⟨key 1, .default⟩ : AuthoritySlot).HeldBy (signer 1) := ⟨by decide, rfl, rfl⟩
  have hstep := (Deployment.step_freeze_account_eq_ok_iff hrep admin_config (signer 1) (key 5).value _).mpr
    ⟨hheld, by simp, rfl⟩
  have hrun : program.machine.run initialized [call 1 (.freeze_account (key 5).value)] =
      program.withMarker initialized (key 5).value ⟨true⟩ := program.machine.next_of_ok hstep
  have hmarked := (Deployment.represents_withMarker hrep (key 5).value true).marked
  have hopen := recovery_stays_open (initialized_reachable [call 1 (.freeze_account (key 5).value)])
  rw [hrun] at hopen
  have hreleases : Releases (program.slot (program.withMarker initialized (key 5).value ⟨true⟩))
      (program.withMarker initialized (key 5).value ⟨true⟩).marked
      [call 1 (.freeze_account_release (key 5).value)] [(key 5).value] := by
    refine ⟨rfl, ?_, List.nodup_singleton _, ?_⟩
    · intro tx htx
      obtain rfl := List.mem_singleton.mp htx
      exact hheld
    · intro t
      rw [hmarked]
      by_cases ht : t = (key 5).value <;> simp [ht]
  have hopened := (hopen.1.release (call 1 .freeze_program_release) _ _ rfl hheld hreleases).2 (key 5)
  rw [← hrun] at hopened
  exact hopened

end FreezeAuthority.Reference
