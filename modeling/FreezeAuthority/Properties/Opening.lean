import FreezeAuthority.Lib.Distinct
import FreezeAuthority.Properties.Recovery

/-!
# The price of opening the gate

Each freeze has one call that lifts it, and no call lifts two. So the gate is open to everybody after as many
calls as there are freezes, and not before.
-/

namespace FreezeAuthority

variable [Lez]

namespace FreezeState

/-- The call lifts a freeze of `s`. -/
def Lifts (s : FreezeState) (call : Call) : Prop :=
  match call with
  | .freeze_program_release => s.is_frozen = true
  | .freeze_account_release t => s.marker t = some true
  | _ => False

/-- The number of freezes. -/
noncomputable def freezes (s : FreezeState) : Nat := {call | s.Lifts call}.ncard

/-- A freeze stays until the call that lifts it. -/
theorem lifts_next {s : FreezeState} {c : Call} (h : s.Lifts c) (call : Call) :
    c = call ∨ (s.next call).Lifts c := by
  cases c
  case freeze_program_release =>
    cases call
    case freeze_program_release => exact Or.inl rfl
    case freeze_program => exact Or.inr rfl
    all_goals exact Or.inr h
  case freeze_account_release t =>
    cases call
    case freeze_account target =>
      right
      show Function.update s.marker target (some true) t = some true
      by_cases heq : t = target
      · rw [heq, Function.update_self]
      · rwa [Function.update_of_ne heq]
    case freeze_account_release target =>
      by_cases heq : t = target
      · exact Or.inl (congrArg _ heq)
      · right
        show Function.update s.marker target (some false) t = some true
        rwa [Function.update_of_ne heq]
    all_goals exact Or.inr h
  all_goals exact h.elim

/-- A call that lifts a freeze lifts that one, and brings none. -/
theorem lifts_of_next {s : FreezeState} {call c : Call} (hlift : s.Lifts call) (h : (s.next call).Lifts c) :
    s.Lifts c ∧ c ≠ call := by
  cases call
  case freeze_program_release =>
    cases c
    case freeze_program_release => cases h
    case freeze_account_release t => exact ⟨h, nofun⟩
    all_goals exact h.elim
  case freeze_account_release target =>
    cases c
    case freeze_program_release => exact ⟨h, nofun⟩
    case freeze_account_release t =>
      have h : Function.update s.marker target (some false) t = some true := h
      have hne : t ≠ target := by
        rintro rfl
        simp at h
      rw [Function.update_of_ne hne] at h
      exact ⟨h, fun heq => hne (Call.freeze_account_release.inj heq)⟩
    all_goals exact h.elim
  all_goals exact hlift.elim

theorem lifts_foldl {s : FreezeState} {c : Call} (h : s.Lifts c) (calls : List Call) :
    c ∈ calls ∨ (calls.foldl next s).Lifts c := by
  induction calls generalizing s with
  | nil => exact Or.inr h
  | cons call calls ih =>
    rcases lifts_next h call with rfl | h'
    · exact Or.inl List.mem_cons_self
    · exact (ih h').imp_left (List.mem_cons_of_mem call)

/-- Who lifts a freeze holds the slot, and leaves it as it is. -/
theorem slot_of_lifts {s : FreezeState} {call : Call} (h : s.Lifts call) : (s.next call).slot = s.slot := by
  cases call
  case freeze_program_release => rfl
  case freeze_account_release => rfl
  all_goals exact h.elim

variable [Crates]

theorem permits_of_lifts {D : Deployment} {s : FreezeState} {tx : Tx} (h : s.Lifts tx.call) :
    s.Permits D tx ↔ s.slot.HeldBy tx.caller := by
  obtain ⟨a, caller, call⟩ := tx
  cases call
  case freeze_program_release => exact Iff.rfl
  case freeze_account_release t => exact and_iff_left h
  all_goals exact h.elim

end FreezeState

variable [Crates] {D : Deployment} {S : Store} {s : FreezeState}

theorem admits_iff_no_freeze (h : D.Represents S s) (hread : ∀ t, s.marker t ≠ none) :
    (∀ A, D.admits S A = .ok ()) ↔ ∀ call, ¬s.Lifts call := by
  constructor
  · intro hopen call hlift
    cases call
    case freeze_program_release =>
      have hgate := hopen .default
      have hlift : s.is_frozen = true := hlift
      rw [Deployment.admits_eq h, hlift] at hgate
      cases hgate
    case freeze_account_release t =>
      have hgate := hopen ⟨t⟩
      have hlift : s.marker t = some true := hlift
      rw [Deployment.admits_eq h, hlift] at hgate
      split at hgate <;> cases hgate
    all_goals exact hlift
  · intro hnone A
    have hprogram : s.is_frozen = false := Bool.eq_false_iff.mpr (hnone .freeze_program_release)
    obtain ⟨b, hb⟩ := Option.ne_none_iff_exists'.mp (hread A.value)
    have hmarker : s.marker A.value = some false := by
      cases b with
      | false => exact hb
      | true => exact absurd hb (hnone (.freeze_account_release A.value))
    rw [Deployment.admits_eq h, hprogram, hmarker]
    rfl

/-- Calls by the holder that lift every freeze of a state, each once. -/
structure FreezeState.Thaws (s : FreezeState) (txs : List Tx) : Prop where
  signed : ∀ tx ∈ txs, s.slot.HeldBy tx.caller
  nodup : (txs.map Tx.call).Nodup
  lifts : ∀ call, call ∈ txs.map Tx.call ↔ s.Lifts call

omit [Crates] in
theorem FreezeState.Thaws.length {txs : List Tx} (h : s.Thaws txs) : txs.length = s.freezes := by
  rw [← List.length_map Tx.call]
  exact Distinct.length_eq_ncard h.nodup h.lifts

omit [Crates] in
theorem FreezeState.Thaws.tail {tx : Tx} {txs : List Tx} (h : s.Thaws (tx :: txs)) :
    (s.next tx.call).Thaws txs := by
  have hlift : s.Lifts tx.call := (h.lifts _).mp List.mem_cons_self
  obtain ⟨hfresh, hnodup⟩ := List.nodup_cons.mp h.nodup
  refine ⟨?_, hnodup, ?_⟩
  · intro tx' htx'
    rw [FreezeState.slot_of_lifts hlift]
    exact h.signed tx' (List.mem_cons_of_mem _ htx')
  · intro call
    constructor
    · intro hmem
      have hnext := FreezeState.lifts_next ((h.lifts call).mp (List.mem_cons_of_mem _ hmem)) tx.call
      refine hnext.resolve_left ?_
      rintro rfl
      exact hfresh hmem
    · intro hnext
      obtain ⟨hcall, hne⟩ := FreezeState.lifts_of_next hlift hnext
      exact (List.mem_cons.mp ((h.lifts call).mpr hcall)).resolve_left hne

variable [LawfulCrates]

/-! ## What a run lifts -/

theorem represents_accepted (h : D.Represents S s) (txs : List Tx) : D.Represents (D.machine.run S txs)
    (((D.machine.accepted S txs).map Tx.call).foldl FreezeState.next s) := by
  rw [List.foldl_map]
  refine D.machine.fold_run D.Represents (fun s tx => s.next tx.call) ?_ txs S s h
  intro S tx S' s hrep hstep
  exact ((Deployment.step_refines hrep tx).2 S' hstep).2

omit [Crates] [LawfulCrates] in
theorem readable_foldl (hread : ∀ t, s.marker t ≠ none) (calls : List Call) (t : Bytes32) :
    (calls.foldl FreezeState.next s).marker t ≠ none := by
  induction calls generalizing s with
  | nil => exact hread t
  | cons call calls ih => exact ih fun t => s.next_readable call t (hread t)

/-- Where a run leaves the gate open, it has accepted the call that lifts each freeze it found. -/
theorem mem_accepted_of_open (h : D.Represents S s) (hread : ∀ t, s.marker t ≠ none) {txs : List Tx}
    (hopen : ∀ A, D.admits (D.machine.run S txs) A = .ok ()) {call : Call} (hlift : s.Lifts call) :
    call ∈ (D.machine.accepted S txs).map Tx.call := by
  have hnone := (admits_iff_no_freeze (represents_accepted h txs) (readable_foldl hread _)).mp hopen
  exact (FreezeState.lifts_foldl hlift _).resolve_right (hnone call)

theorem signed_of_lifts (h : D.Represents S s) {txs : List Tx} (hall : D.machine.AcceptsAll S txs)
    (hnodup : (txs.map Tx.call).Nodup) (hlifts : ∀ call ∈ txs.map Tx.call, s.Lifts call) :
    ∀ tx ∈ txs, s.slot.HeldBy tx.caller := by
  induction txs generalizing S s with
  | nil => exact fun _ hmem => absurd hmem List.not_mem_nil
  | cons tx txs ih =>
    obtain ⟨hacc, hrest⟩ := hall
    obtain ⟨hfresh, hnodup⟩ := List.nodup_cons.mp hnodup
    have hlift : s.Lifts tx.call := hlifts _ List.mem_cons_self
    have hpermits := (Deployment.accepts_iff_permits h tx).mp hacc
    have hrep := (accepted_of_permits h tx hpermits).2
    have hslot := FreezeState.slot_of_lifts hlift
    have htail := ih hrep hrest hnodup fun call hmem => by
      refine (FreezeState.lifts_next (hlifts call (List.mem_cons_of_mem _ hmem)) tx.call).resolve_left ?_
      rintro rfl
      exact hfresh hmem
    rw [hslot] at htail
    exact List.forall_mem_cons.mpr ⟨(FreezeState.permits_of_lifts hlift).mp hpermits, htail⟩

theorem open_of_thaws (h : D.Represents S s) (hread : ∀ t, s.marker t ≠ none) {txs : List Tx}
    (hthaws : s.Thaws txs) : D.machine.AcceptsAll S txs ∧ ∀ A, D.admits (D.machine.run S txs) A = .ok () := by
  have hrun := D.machine.acceptsAll_of
    (fun txs S => ∃ s, D.Represents S s ∧ (∀ t, s.marker t ≠ none) ∧ s.Thaws txs) ?_ txs S ⟨s, h, hread, hthaws⟩
  · obtain ⟨hall, s', hrep, hread', hthaws'⟩ := hrun
    refine ⟨hall, (admits_iff_no_freeze hrep hread').mpr ?_⟩
    intro call hlift
    exact absurd ((hthaws'.lifts call).mpr hlift) List.not_mem_nil
  · rintro tx txs S ⟨s, hrep, hread, hthaws⟩
    have hlift : s.Lifts tx.call := (hthaws.lifts _).mp List.mem_cons_self
    obtain ⟨S', hstep, hrep'⟩ := step_of_permits hrep tx
      ((FreezeState.permits_of_lifts hlift).mpr (hthaws.signed tx List.mem_cons_self))
    exact ⟨S', hstep, _, hrep', fun t => s.next_readable tx.call t (hread t), hthaws.tail⟩

omit [Crates] [LawfulCrates] in
theorem FreezeState.Sound.finite_lifts (h : s.Sound) : {call | s.Lifts call}.Finite := by
  apply ((h.finite.image Call.freeze_account_release).insert .freeze_program_release).subset
  intro call hlift
  cases call
  case freeze_program_release => exact Or.inl rfl
  case freeze_account_release t => exact Or.inr ⟨t, hlift, rfl⟩
  all_goals exact hlift.elim

omit [Crates] [LawfulCrates] in
/-- The freezes of a state can be lifted by one key, its holder's. -/
theorem exists_thaws (hs : s.Sound) (admin_config : AccountWithMetadata) {caller : AccountWithMetadata}
    (hheld : s.slot.HeldBy caller) :
    ∃ txs, s.Thaws txs ∧ ∀ tx ∈ txs, tx.admin_config = admin_config ∧ tx.caller = caller := by
  let calls := hs.finite_lifts.toFinset.toList
  have hmap : (calls.map (Tx.mk admin_config caller)).map Tx.call = calls := by simp [Function.comp_def]
  have hsigned : ∀ tx ∈ calls.map (Tx.mk admin_config caller),
      tx.admin_config = admin_config ∧ tx.caller = caller := by
    intro tx htx
    obtain ⟨call, -, rfl⟩ := List.mem_map.mp htx
    exact ⟨rfl, rfl⟩
  refine ⟨calls.map (Tx.mk admin_config caller), ⟨?_, ?_, ?_⟩, hsigned⟩
  · intro tx htx
    rw [(hsigned tx htx).2]
    exact hheld
  · rw [hmap]
    exact Finset.nodup_toList _
  · intro call
    rw [hmap]
    simp [calls]

/-- The price of an open gate. Whoever calls what, a run that ends with the gate open to everybody has accepted
the one call that lifts each freeze it found, so it has accepted as many calls as there were freezes. The runs
that need no more, and are refused nothing, are exactly those in which the holder lifts each freeze once, in
any order. Where there is a holder its key has such a run. -/
theorem price_of_opening (h : D.Represents S s) (hs : s.Sound) :
    (∀ txs, (∀ A, D.admits (D.machine.run S txs) A = .ok ()) →
      (∀ call, s.Lifts call → call ∈ (D.machine.accepted S txs).map Tx.call) ∧
      s.freezes ≤ (D.machine.accepted S txs).length) ∧
    (∀ txs, (D.machine.AcceptsAll S txs ∧ (∀ A, D.admits (D.machine.run S txs) A = .ok ()) ∧
      txs.length = s.freezes) ↔ s.Thaws txs) ∧
    ∀ admin_config caller, s.slot.HeldBy caller →
      ∃ txs, s.Thaws txs ∧ ∀ tx ∈ txs, tx.admin_config = admin_config ∧ tx.caller = caller := by
  refine ⟨?_, ?_, fun admin_config caller => exists_thaws hs admin_config⟩
  · intro txs hopen
    have hcovers (call : Call) (hlift : s.Lifts call) : call ∈ (D.machine.accepted S txs).map Tx.call :=
      mem_accepted_of_open h hs.readable hopen hlift
    refine ⟨hcovers, ?_⟩
    rw [← List.length_map Tx.call]
    exact Distinct.ncard_le_length hcovers
  · intro txs
    constructor
    · rintro ⟨hall, hopen, hlength⟩
      have hcovers (call : Call) (hlift : s.Lifts call) : call ∈ txs.map Tx.call := by
        have hmem := mem_accepted_of_open h hs.readable hopen hlift
        rwa [D.machine.accepted_of_acceptsAll hall] at hmem
      rw [← List.length_map Tx.call] at hlength
      obtain ⟨hnodup, hlifts⟩ := Distinct.enumerates_of_length hcovers hlength
      exact ⟨signed_of_lifts h hall hnodup fun call => (hlifts call).mp, hnodup, hlifts⟩
    · intro hthaws
      obtain ⟨hall, hopen⟩ := open_of_thaws h hs.readable hthaws
      exact ⟨hall, hopen, hthaws.length⟩

end FreezeAuthority

namespace FreezeAuthority.Reference

/-- The program and one target are frozen. -/
theorem thaw_of_two :
    ∃ txs, (⟨⟨key 1, .default⟩, true, Function.update (fun _ => some false) (key 5).value (some true)⟩ :
      FreezeState).Thaws txs ∧ ∀ tx ∈ txs, tx.admin_config = admin_config ∧ tx.caller = signer 1 := by
  have hrep : program.Represents initialized ⟨⟨key 1, .default⟩, false, fun _ => some false⟩ := ⟨rfl, rfl⟩
  have hfrozen := Deployment.represents_withMarker (Deployment.represents_withConfig hrep
    ⟨⟨key 1, .default⟩, true⟩) (key 5).value true
  have hsound : (⟨⟨key 1, .default⟩, false, fun _ => some false⟩ : FreezeState).Sound :=
    ⟨by simp, by simp⟩
  have hsound' := (hsound.next .freeze_program).next (.freeze_account (key 5).value)
  exact (price_of_opening hfrozen hsound').2.2 admin_config (signer 1) ⟨by decide, rfl, rfl⟩

end FreezeAuthority.Reference
