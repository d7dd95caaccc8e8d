import Mathlib.Data.List.Forall2
import Mathlib.Tactic.Common

/-!
# Machines that may refuse an input

A step gives the next state or an error. A refused input leaves the state as it was, so a
run over any list of inputs ends in some state. The rules here carry a fact about one step
to whole runs.
-/

/-- A deterministic machine with states `σ`, inputs `ι` and refusals `ε`. -/
structure Machine (σ ι ε : Type) where
  step : σ → ι → Except ε σ

namespace Machine

variable {σ τ ι ι' ε β : Type} (m : Machine σ ι ε)

def next (s : σ) (i : ι) : σ :=
  match m.step s i with
  | .ok s' => s'
  | .error _ => s

def accepts (s : σ) (i : ι) : Bool :=
  match m.step s i with
  | .ok _ => true
  | .error _ => false

def run (s : σ) (is : List ι) : σ := is.foldl m.next s

theorem next_of_ok {s s' : σ} {i : ι} (h : m.step s i = .ok s') : m.next s i = s' := by
  rw [next, h]

theorem next_of_error {s : σ} {i : ι} {e : ε} (h : m.step s i = .error e) : m.next s i = s := by
  rw [next, h]

theorem accepts_iff (s : σ) (i : ι) : m.accepts s i = true ↔ ∃ s', m.step s i = .ok s' := by
  rw [accepts]
  cases m.step s i <;> simp

theorem accepts_eq_false_iff (s : σ) (i : ι) : m.accepts s i = false ↔ ∃ e, m.step s i = .error e := by
  rw [accepts]
  cases m.step s i <;> simp

@[simp]
theorem run_nil (s : σ) : m.run s [] = s := rfl

@[simp]
theorem run_cons (s : σ) (i : ι) (is : List ι) : m.run s (i :: is) = m.run (m.next s i) is := rfl

/-! ## Invariants -/

/-- What every accepted step on an input of `Q` keeps, every run over such inputs keeps. -/
theorem run_inv_on (P : σ → Prop) (Q : ι → Prop)
    (hstep : ∀ s i s', P s → Q i → m.step s i = .ok s' → P s')
    (is : List ι) (hQ : ∀ i ∈ is, Q i) (s : σ) (hs : P s) : P (m.run s is) := by
  induction is generalizing s with
  | nil => exact hs
  | cons i is ih =>
    apply ih (fun j hj => hQ j (List.mem_cons_of_mem _ hj))
    rw [next]
    split
    · exact hstep s i _ hs (hQ i List.mem_cons_self) ‹_›
    · exact hs

theorem run_inv (P : σ → Prop) (hstep : ∀ s i s', P s → m.step s i = .ok s' → P s')
    (is : List ι) (s : σ) (hs : P s) : P (m.run s is) :=
  m.run_inv_on P (fun _ => True) (fun s i s' h _ => hstep s i s' h) is (fun _ _ => trivial) s hs

theorem run_stuck (Q : ι → Prop) (s : σ) (h : ∀ i, Q i → ∃ e, m.step s i = .error e)
    (is : List ι) (hQ : ∀ i ∈ is, Q i) : m.run s is = s := by
  induction is with
  | nil => rfl
  | cons i is ih =>
    obtain ⟨e, he⟩ := h i (hQ i List.mem_cons_self)
    rw [run_cons, m.next_of_error he]
    exact ih (fun j hj => hQ j (List.mem_cons_of_mem _ hj))

/-! ## What a run accepts -/

/-- The inputs of the run that are accepted, in order. -/
def accepted : σ → List ι → List ι
  | _, [] => []
  | s, i :: is => if m.accepts s i then i :: accepted (m.next s i) is else accepted (m.next s i) is

theorem accepted_cons (s : σ) (i : ι) (is : List ι) : m.accepted s (i :: is) =
    if m.accepts s i then i :: m.accepted (m.next s i) is else m.accepted (m.next s i) is := rfl

theorem accepted_of_ok {s s' : σ} {i : ι} (h : m.step s i = .ok s') (is : List ι) :
    m.accepted s (i :: is) = i :: m.accepted s' is := by
  rw [accepted_cons, (m.accepts_iff s i).mpr ⟨s', h⟩, m.next_of_ok h, if_pos rfl]

theorem accepted_of_error {s : σ} {i : ι} {e : ε} (h : m.step s i = .error e) (is : List ι) :
    m.accepted s (i :: is) = m.accepted s is := by
  rw [accepted_cons, (m.accepts_eq_false_iff s i).mpr ⟨e, h⟩, m.next_of_error h, if_neg Bool.false_ne_true]

/-- What an accepted input is in every state of an invariant, every accepted input of a run is. -/
theorem accepted_inv (P : σ → Prop) (Q : ι → Prop)
    (hstep : ∀ s i s', P s → m.step s i = .ok s' → Q i ∧ P s') (is : List ι) (s : σ) (hs : P s) :
    ∀ i ∈ m.accepted s is, Q i := by
  induction is generalizing s with
  | nil => exact fun _ hmem => absurd hmem List.not_mem_nil
  | cons i is ih =>
    intro j hj
    cases hi : m.step s i with
    | ok s' =>
      obtain ⟨hQ, hs'⟩ := hstep s i s' hs hi
      rw [m.accepted_of_ok hi] at hj
      rcases List.mem_cons.mp hj with rfl | hj
      · exact hQ
      · exact ih s' hs' j hj
    | error e =>
      rw [m.accepted_of_error hi] at hj
      exact ih s hs j hj

/-- Where each accepted input acts on `a` as `f` does, a run acts as the accepted inputs do, one by one. -/
theorem fold_run {α : Type} (R : σ → α → Prop) (f : α → ι → α)
    (hstep : ∀ s i s' a, R s a → m.step s i = .ok s' → R s' (f a i))
    (is : List ι) (s : σ) (a : α) (h : R s a) : R (m.run s is) ((m.accepted s is).foldl f a) := by
  induction is generalizing s a with
  | nil => exact h
  | cons i is ih =>
    rw [run_cons, accepted]
    cases hi : m.step s i with
    | ok s' =>
      rw [m.next_of_ok hi, (m.accepts_iff s i).mpr ⟨s', hi⟩]
      exact ih s' (f a i) (hstep s i s' a h hi)
    | error e =>
      rw [m.next_of_error hi, (m.accepts_eq_false_iff s i).mpr ⟨e, hi⟩]
      exact ih s a h

/-! ## Two machines -/

/-- Two outcomes agree: both accepted, with related states, or refused with one error. -/
inductive Agree (R : σ → τ → Prop) : Except ε σ → Except ε τ → Prop
  | ok {s : σ} {t : τ} (h : R s t) : Agree R (.ok s) (.ok t)
  | error (e : ε) : Agree R (.error e) (.error e)

theorem Agree.imp {R R' : σ → τ → Prop} {x : Except ε σ} {y : Except ε τ} (h : Agree R x y)
    (hR : ∀ s t, R s t → R' s t) : Agree R' x y := by
  cases h with
  | ok h => exact .ok (hR _ _ h)
  | error e => exact .error e

/-- Two outcomes that agree in any way are related as what they leave is. -/
theorem Agree.refine {R R' : σ → τ → Prop} {x : Except ε σ} {y : Except ε τ} (h : Agree R x y)
    (hR : ∀ s t, x = .ok s → y = .ok t → R' s t) : Agree R' x y := by
  cases h with
  | ok _ => exact .ok (hR _ _ rfl rfl)
  | error e => exact .error e

theorem Agree.bind {α : Type} {R : σ → τ → Prop} (x : Except ε α) {f : α → Except ε σ} {g : α → Except ε τ}
    (h : ∀ a, x = .ok a → Agree R (f a) (g a)) : Agree R (x >>= f) (x >>= g) := by
  cases x with
  | error e => exact .error e
  | ok a => exact h a rfl

theorem Agree.next {m : Machine σ ι ε} {m' : Machine τ ι' ε} {R : σ → τ → Prop} {s : σ} {t : τ} {i : ι}
    {j : ι'} (h : Agree R (m.step s i) (m'.step t j)) (hR : R s t) : R (m.next s i) (m'.next t j) := by
  rw [Machine.next, Machine.next]
  generalize m.step s i = x at h
  generalize m'.step t j = y at h
  cases h with
  | ok h' => exact h'
  | error e => exact hR

/-- A relation that paired inputs keep, accepted or not, holds after paired runs. -/
theorem run_rel (m' : Machine τ ι' ε) (R : σ → τ → Prop) (Q : ι → ι' → Prop)
    (hnext : ∀ s t i j, R s t → Q i j → R (m.next s i) (m'.next t j))
    {is : List ι} {js : List ι'} (hQ : List.Forall₂ Q is js) (s : σ) (t : τ) (h : R s t) :
    R (m.run s is) (m'.run t js) := by
  induction hQ generalizing s t with
  | nil => exact h
  | cons hij _ ih => exact ih _ _ (hnext s t _ _ h hij)

theorem pair_at {Q : ι → ι' → Prop} {is : List ι} {js : List ι'} (h : List.Forall₂ Q is js) {n : Nat} {i : ι}
    {j : ι'} (hi : is[n]? = some i) (hj : js[n]? = some j) : Q i j := by
  obtain ⟨hn, rfl⟩ := List.getElem?_eq_some_iff.mp hi
  obtain ⟨hn', rfl⟩ := List.getElem?_eq_some_iff.mp hj
  exact h.get hn hn'

/-- A part of the state that only some inputs move follows the run of these alone. -/
theorem run_project (m' : Machine τ ι' ε) (view : σ → τ) (pick : ι → Option ι') (P : σ → Prop)
    (hP : ∀ s i s', P s → m.step s i = .ok s' → P s')
    (hnext : ∀ s i, P s → view (m.next s i) = (pick i).elim (view s) (m'.next (view s))) (is : List ι) (s : σ)
    (hs : P s) : view (m.run s is) = m'.run (view s) (is.filterMap pick) := by
  induction is generalizing s with
  | nil => rfl
  | cons i is ih =>
    have hs' : P (m.next s i) := m.run_inv P hP [i] s hs
    rw [run_cons, ih _ hs', hnext s i hs]
    cases hi : pick i with
    | none =>
      rw [List.filterMap_cons_none hi]
      rfl
    | some j =>
      rw [List.filterMap_cons_some hi]
      rfl

/-! ## What a run answers -/

def answer (s : σ) (i : ι) : Except ε Unit := (m.step s i).map fun _ => ()

/-- The answers of a run, one for each input. -/
def answers : σ → List ι → List (Except ε Unit)
  | _, [] => []
  | s, i :: is => m.answer s i :: answers (m.next s i) is

theorem answers_append (s : σ) (is js : List ι) :
    m.answers s (is ++ js) = m.answers s is ++ m.answers (m.run s is) js := by
  induction is generalizing s with
  | nil => rfl
  | cons i is ih => rw [List.cons_append, answers, ih, answers, run_cons, List.cons_append]

theorem accepts_of_answer {m : Machine σ ι ε} {m' : Machine τ ι' ε} {s : σ} {t : τ} {i : ι} {j : ι'}
    (h : m.answer s i = m'.answer t j) : m.accepts s i = m'.accepts t j := by
  unfold answer at h
  unfold accepts
  cases hs : m.step s i <;> cases ht : m'.step t j <;> simp_all [Except.map]

theorem Agree.answer {m : Machine σ ι ε} {m' : Machine τ ι' ε} {R : σ → τ → Prop} {s : σ} {t : τ} {i : ι}
    {j : ι'} (h : Agree R (m.step s i) (m'.step t j)) : m.answer s i = m'.answer t j := by
  unfold Machine.answer
  generalize m.step s i = x at h
  generalize m'.step t j = y at h
  cases h with
  | ok _ => rfl
  | error e => rfl

/-- Two machines that agree on paired inputs answer paired runs alike. -/
theorem answers_rel (m' : Machine τ ι' ε) (R : σ → τ → Prop) (Q : ι → ι' → Prop)
    (hstep : ∀ s t i j, R s t → Q i j → Agree R (m.step s i) (m'.step t j))
    {is : List ι} {js : List ι'} (hQ : List.Forall₂ Q is js) (s : σ) (t : τ) (h : R s t) :
    m.answers s is = m'.answers t js := by
  induction hQ generalizing s t with
  | nil => rfl
  | cons hij _ ih =>
    have hagree := hstep s t _ _ h hij
    rw [answers, answers, hagree.answer, ih _ _ (hagree.next h)]

/-! ## Registers

A register is a part of the state that some inputs overwrite and the others keep. It holds
what the last accepted input that writes it wrote.
-/

/-- What the last accepted input of the run that writes the register wrote. -/
def lastWrite (w : ι → Option β) : σ → List ι → Option β
  | _, [] => none
  | s, i :: is => (lastWrite w (m.next s i) is).or (if m.accepts s i then w i else none)

/-- A register holds the last write to it. `reg s b` says that it holds `b` in `s`. -/
theorem register_run (reg : σ → β → Prop) (w : ι → Option β)
    (hreg : ∀ s i s' b, reg s b → m.step s i = .ok s' → reg s' ((w i).getD b))
    (is : List ι) (s : σ) (b : β) (h : reg s b) : reg (m.run s is) ((m.lastWrite w s is).getD b) := by
  induction is generalizing s b with
  | nil => exact h
  | cons i is ih =>
    rw [run_cons, lastWrite]
    cases hi : m.step s i with
    | ok s' =>
      have htail := ih s' _ (hreg s i s' b h hi)
      rw [m.next_of_ok hi, (m.accepts_iff s i).mpr ⟨s', hi⟩]
      cases hw : m.lastWrite w s' is with
      | none => simpa [hw] using htail
      | some b' => simpa [hw] using htail
    | error e =>
      rw [m.next_of_error hi, (m.accepts_eq_false_iff s i).mpr ⟨e, hi⟩]
      simpa using ih s b h

/-- Input `n` of the run is `i`, and it is accepted there. -/
def AcceptedAt (s : σ) (is : List ι) (n : Nat) (i : ι) : Prop :=
  is[n]? = some i ∧ m.accepts (m.run s (is.take n)) i = true

@[simp]
theorem acceptedAt_zero (s : σ) (i j : ι) (is : List ι) :
    m.AcceptedAt s (i :: is) 0 j ↔ i = j ∧ m.accepts s j = true := by
  simp [AcceptedAt]

@[simp]
theorem acceptedAt_succ (s : σ) (i j : ι) (is : List ι) (n : Nat) :
    m.AcceptedAt s (i :: is) (n + 1) j ↔ m.AcceptedAt (m.next s i) is n j := by
  simp [AcceptedAt]

theorem acceptedAt_take (s : σ) (i : ι) (is : List ι) (n k : Nat) :
    m.AcceptedAt s (is.take n) k i ↔ k < n ∧ m.AcceptedAt s is k i := by
  unfold AcceptedAt
  rw [List.getElem?_take, List.take_take]
  by_cases hk : k < n
  · simp [hk, Nat.min_eq_left (Nat.le_of_lt hk)]
  · simp [hk]

theorem lastWrite_eq_none_iff (w : ι → Option β) (is : List ι) (s : σ) :
    m.lastWrite w s is = none ↔ ∀ n i, m.AcceptedAt s is n i → w i = none := by
  induction is generalizing s with
  | nil => simp [lastWrite, AcceptedAt]
  | cons i is ih =>
    rw [lastWrite, Option.or_eq_none_iff, ih]
    constructor
    · rintro ⟨htail, hhead⟩ n j hj
      cases n with
      | zero =>
        obtain ⟨rfl, hacc⟩ := (m.acceptedAt_zero s i j is).mp hj
        simpa [hacc] using hhead
      | succ n => exact htail n j ((m.acceptedAt_succ s i j is n).mp hj)
    · intro h
      refine ⟨fun n j hj => h (n + 1) j ((m.acceptedAt_succ s i j is n).mpr hj), ?_⟩
      split
      · exact h 0 i ((m.acceptedAt_zero s i i is).mpr ⟨rfl, ‹_›⟩)
      · rfl

theorem lastWrite_eq_some_iff (w : ι → Option β) (b : β) (is : List ι) (s : σ) :
    m.lastWrite w s is = some b ↔ ∃ n i, m.AcceptedAt s is n i ∧ w i = some b ∧
      ∀ k j, n < k → m.AcceptedAt s is k j → w j = none := by
  induction is generalizing s with
  | nil => simp [lastWrite, AcceptedAt]
  | cons i is ih =>
    rw [lastWrite, Option.or_eq_some_iff, ih]
    constructor
    · rintro (⟨n, j, hj, hw, hlater⟩ | ⟨htail, hhead⟩)
      · refine ⟨n + 1, j, (m.acceptedAt_succ s i j is n).mpr hj, hw, ?_⟩
        intro k j' hk hj'
        obtain ⟨k, rfl⟩ : ∃ k', k = k' + 1 := ⟨k - 1, by omega⟩
        exact hlater k j' (by omega) ((m.acceptedAt_succ s i j' is k).mp hj')
      · split at hhead
        · refine ⟨0, i, (m.acceptedAt_zero s i i is).mpr ⟨rfl, ‹_›⟩, hhead, ?_⟩
          intro k j' hk hj'
          obtain ⟨k, rfl⟩ : ∃ k', k = k' + 1 := ⟨k - 1, by omega⟩
          exact (m.lastWrite_eq_none_iff w is _).mp htail k j' ((m.acceptedAt_succ s i j' is k).mp hj')
        · simp at hhead
    · rintro ⟨n, j, hj, hw, hlater⟩
      cases n with
      | zero =>
        obtain ⟨rfl, hacc⟩ := (m.acceptedAt_zero s i j is).mp hj
        refine Or.inr ⟨(m.lastWrite_eq_none_iff w is _).mpr ?_, by simpa [hacc] using hw⟩
        intro k j' hj'
        exact hlater (k + 1) j' (by omega) ((m.acceptedAt_succ s i j' is k).mpr hj')
      | succ n =>
        refine Or.inl ⟨n, j, (m.acceptedAt_succ s i j is n).mp hj, hw, ?_⟩
        intro k j' hk hj'
        exact hlater (k + 1) j' (by omega) ((m.acceptedAt_succ s i j' is k).mpr hj')

/-! ## Runs that refuse nothing -/

def AcceptsAll : σ → List ι → Prop
  | _, [] => True
  | s, i :: is => m.accepts s i = true ∧ AcceptsAll (m.next s i) is

theorem accepted_of_acceptsAll {s : σ} {is : List ι} (h : m.AcceptsAll s is) : m.accepted s is = is := by
  induction is generalizing s with
  | nil => rfl
  | cons i is ih => rw [accepted_cons, h.1, if_pos rfl, ih h.2]

/-- A run is accepted whole when each input is, in every state a measure of the rest allows. -/
theorem acceptsAll_of (P : List ι → σ → Prop)
    (hstep : ∀ i is s, P (i :: is) s → ∃ s', m.step s i = .ok s' ∧ P is s')
    (is : List ι) (s : σ) (hs : P is s) : m.AcceptsAll s is ∧ P [] (m.run s is) := by
  induction is generalizing s with
  | nil => exact ⟨trivial, hs⟩
  | cons i is ih =>
    obtain ⟨s', hi, hs'⟩ := hstep i is s hs
    obtain ⟨hall, hend⟩ := ih s' hs'
    rw [AcceptsAll, run_cons, m.next_of_ok hi]
    exact ⟨⟨(m.accepts_iff s i).mpr ⟨s', hi⟩, hall⟩, hend⟩

end Machine
