import FreezeAuthority.Spec.Runs

/-!
# Programs around the library

A program runs the library's instructions next to its own. Where its own leave the freeze state as it
is, the gate tells the history of freezes of the whole program.
-/

namespace FreezeAuthority

variable [Lez]

/-! ## Toggles -/

def Call.programToggle : Call → Option Bool
  | .freeze_program => some true
  | .freeze_program_release => some false
  | _ => none

def Call.accountToggle (t : Bytes32) : Call → Option Bool
  | .freeze_account target => if target = t then some true else none
  | .freeze_account_release target => if target = t then some false else none
  | _ => none

theorem next_is_frozen (s : FreezeState) (call : Call) :
    (s.next call).is_frozen = call.programToggle.getD s.is_frozen := by
  cases call <;> rfl

theorem next_marker (s : FreezeState) (call : Call) (t : Bytes32) :
    (s.next call).marker t = (call.accountToggle t).elim (s.marker t) some := by
  cases call
  case freeze_account target =>
    unfold Call.accountToggle
    by_cases h : target = t
    · simp [FreezeState.next, h]
    · simp [FreezeState.next, h, Function.update_of_ne (Ne.symm h)]
  case freeze_account_release target =>
    unfold Call.accountToggle
    by_cases h : target = t
    · simp [FreezeState.next, h]
    · simp [FreezeState.next, h, Function.update_of_ne (Ne.symm h)]
  all_goals rfl

variable [Crates] {τ ι : Type}

/-! ## A program and the library in it -/

/-- The program `m` has the library's accounts where `view` finds them. Its inputs with a `call` act on
what these stand for, and the other inputs do not. `inv` is what its own accounts keep. -/
structure Hosts (D : Deployment) (m : Machine τ ι SpelError) (view : τ → Store) (call : ι → Option Call)
    (inv : τ → Prop) : Prop where
  step (T T' : τ) (i : ι) : inv T → m.step T i = .ok T' → inv T' ∧
    ∀ s, D.Represents (view T) s → D.Represents (view T') ((call i).elim s s.next)

/-- The last accepted toggle of a run of the program. -/
def Hosts.lastToggle (m : Machine τ ι SpelError) (call : ι → Option Call) (toggle : Call → Option Bool)
    (T : τ) (is : List ι) : Option Bool :=
  m.lastWrite (fun i => (call i).bind toggle) T is

namespace Hosts

variable {D : Deployment} {m : Machine τ ι SpelError} {view : τ → Store} {call : ι → Option Call}
  {inv : τ → Prop}

/-- After a run the accounts stand for what the accepted calls made of the freeze state. -/
theorem follows_run (h : Hosts D m view call inv) {T : τ} {s : FreezeState} (hT : inv T)
    (hs : D.Represents (view T) s) (is : List ι) :
    D.Represents (view (m.run T is)) ((m.accepted T is).foldl (fun s i => (call i).elim s s.next) s) := by
  refine (m.fold_run (fun T s => inv T ∧ D.Represents (view T) s) _ ?_ is T s ⟨hT, hs⟩).2
  rintro T i T' s ⟨hT, hrep⟩ hstep
  obtain ⟨hT', hnext⟩ := h.step T T' i hT hstep
  exact ⟨hT', hnext s hrep⟩

/-- A part of the freeze state holds what the last accepted call that writes it wrote. -/
theorem register_run (h : Hosts D m view call inv) {β : Type} (f : FreezeState → β) (w : Call → Option β)
    (hw : ∀ s call, f (s.next call) = (w call).getD (f s)) {T : τ} {s : FreezeState} (hT : inv T)
    (hs : D.Represents (view T) s) (is : List ι) :
    ∃ s', D.Represents (view (m.run T is)) s' ∧
      f s' = (m.lastWrite (fun i => (call i).bind w) T is).getD (f s) := by
  have hrun := m.register_run (fun T b => inv T ∧ ∃ s, D.Represents (view T) s ∧ f s = b)
    (fun i => (call i).bind w) ?_ is T (f s) ⟨hT, s, hs, rfl⟩
  · exact hrun.2
  · rintro T i T' b ⟨hT, s, hs, rfl⟩ hstep
    obtain ⟨hT', hrep⟩ := h.step T T' i hT hstep
    refine ⟨hT', _, hrep s hs, ?_⟩
    cases call i with
    | none => rfl
    | some c => exact hw s c

theorem represents_run (h : Hosts D m view call inv) (P : FreezeState → Prop)
    (hP : ∀ s call, P s → P (s.next call)) {T : τ} {s : FreezeState} (hT : inv T)
    (hs : D.Represents (view T) s) (hp : P s) (is : List ι) :
    ∃ s', D.Represents (view (m.run T is)) s' ∧ P s' := by
  have hrun := m.run_inv (fun T => inv T ∧ ∃ s, D.Represents (view T) s ∧ P s) ?_ is T ⟨hT, s, hs, hp⟩
  · exact hrun.2
  · rintro T i T' ⟨hT, s, hs, hp⟩ hstep
    obtain ⟨hT', hrep⟩ := h.step T T' i hT hstep
    refine ⟨hT', _, hrep s hs, ?_⟩
    cases call i with
    | none => exact hp
    | some c => exact hP s c hp

/-- What the accounts stand for after a run: each flag as its last toggle left it. -/
theorem history (h : Hosts D m view call inv) {T : τ} {s : FreezeState} (hT : inv T)
    (hs : D.Fresh (view T) s) (is : List ι) : ∃ s', D.Represents (view (m.run T is)) s' ∧
      s'.is_frozen = (lastToggle m call Call.programToggle T is).getD false ∧
      ∀ t, s'.marker t = some ((lastToggle m call (Call.accountToggle t) T is).getD false) := by
  obtain ⟨s', hrep, hflag⟩ := h.register_run FreezeState.is_frozen Call.programToggle next_is_frozen hT
    hs.represents is
  rw [hs.not_frozen] at hflag
  refine ⟨s', hrep, hflag, ?_⟩
  intro t
  have hnext (s : FreezeState) (call : Call) :
      ((s.next call).marker t).getD false = (call.accountToggle t).getD ((s.marker t).getD false) := by
    rw [next_marker]
    cases call.accountToggle t <;> rfl
  obtain ⟨s₁, hrep₁, hreg⟩ := h.register_run (fun s => (s.marker t).getD false) (Call.accountToggle t) hnext hT
    hs.represents is
  obtain ⟨s₂, hrep₂, hsome⟩ := h.represents_run (fun s => s.marker t ≠ none)
    (fun s call hs => s.next_readable call t hs) hT hs.represents (by simp [hs.marker t]) is
  rw [hrep₁.unique hrep, hs.marker t] at hreg
  rw [hrep₂.unique hrep] at hsome
  obtain ⟨b, hb⟩ := Option.ne_none_iff_exists'.mp hsome
  rw [hb] at hreg ⊢
  exact congrArg some hreg

/-- The gate answers by the last toggle of the program, and of the account. -/
theorem admits_run (h : Hosts D m view call inv) {T : τ} {s : FreezeState} (hT : inv T)
    (hs : D.Fresh (view T) s) (is : List ι) (A : AccountId) :
    D.admits (view (m.run T is)) A =
      if lastToggle m call Call.programToggle T is = some true then .error (FreezeError.toSpelError .Frozen)
      else if lastToggle m call (Call.accountToggle A.value) T is = some true then
        .error (FreezeError.toSpelError .AccountFrozen)
      else .ok () := by
  obtain ⟨s', hrep, hflag, hmarker⟩ := h.history hT hs is
  rw [Deployment.admits_eq hrep, hflag, hmarker A.value]
  rcases lastToggle m call Call.programToggle T is with _ | _ | _ <;>
    rcases lastToggle m call (Call.accountToggle A.value) T is with _ | _ | _ <;> simp

theorem admits_eq_ok_iff (h : Hosts D m view call inv) {T : τ} {s : FreezeState} (hT : inv T)
    (hs : D.Fresh (view T) s) (is : List ι) (A : AccountId) :
    D.admits (view (m.run T is)) A = .ok () ↔
      lastToggle m call Call.programToggle T is ≠ some true ∧
      lastToggle m call (Call.accountToggle A.value) T is ≠ some true := by
  rw [h.admits_run hT hs is A]
  split
  · simp [*]
  · split <;> simp [*]

end Hosts

/-- The library by itself. -/
theorem Deployment.hosts_itself [LawfulCrates] (D : Deployment) :
    Hosts D D.machine (fun S => S) (fun tx => some tx.call) (fun _ => True) where
  step _ S' tx _ hstep := ⟨trivial, fun _ hrep => ((step_refines hrep tx).2 S' hstep).2⟩

end FreezeAuthority
