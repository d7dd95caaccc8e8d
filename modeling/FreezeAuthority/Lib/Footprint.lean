import FreezeAuthority.Lib.Machine
import Mathlib.Data.Set.Insert

/-!
# Inputs that touch different parts of a state

A state is seen part by part. An input reads some parts and writes some. Where neither of two
inputs writes what the other reads or writes, they may be exchanged.
-/

/-! ## Lists up to exchanges -/

/-- Two lists that exchanges of independent neighbours take into each other. -/
inductive Exchange {ι : Type} (I : ι → ι → Prop) : List ι → List ι → Prop
  | nil : Exchange I [] []
  | cons {is js : List ι} (i : ι) (h : Exchange I is js) : Exchange I (i :: is) (i :: js)
  | swap {i j : ι} (is : List ι) (h : I i j) : Exchange I (i :: j :: is) (j :: i :: is)
  | trans {is js ks : List ι} (h : Exchange I is js) (h' : Exchange I js ks) : Exchange I is ks

/-- The last list is made of the first two, each in its own order. -/
inductive Interleave {ι : Type} : List ι → List ι → List ι → Prop
  | nil : Interleave [] [] []
  | left {is js ks : List ι} (i : ι) (h : Interleave is js ks) : Interleave (i :: is) js (i :: ks)
  | right {is js ks : List ι} (j : ι) (h : Interleave is js ks) : Interleave is (j :: js) (j :: ks)

namespace Exchange

variable {ι : Type} {I : ι → ι → Prop}

theorem refl (is : List ι) : Exchange I is is := by
  induction is with
  | nil => exact .nil
  | cons i _ ih => exact .cons i ih

/-- An input moves to the front over inputs it is independent of. -/
theorem move {is : List ι} {j : ι} (js : List ι) (h : ∀ i ∈ is, I i j) :
    Exchange I (is ++ j :: js) (j :: is ++ js) := by
  induction is with
  | nil => exact refl _
  | cons i is ih =>
    have hmoved := ih (fun k hk => h k (List.mem_cons_of_mem _ hk))
    exact .trans (.cons i hmoved) (.swap _ (h i List.mem_cons_self))

theorem of_interleave {is js ks : List ι} (h : Interleave is js ks) (hI : ∀ i ∈ is, ∀ j ∈ js, I i j) :
    Exchange I (is ++ js) ks := by
  induction h with
  | nil => exact .nil
  | left i _ ih =>
    exact .cons i (ih fun k hk => hI k (List.mem_cons_of_mem _ hk))
  | @right is js ks j _ ih =>
    have hmoved : Exchange I (is ++ j :: js) (j :: is ++ js) :=
      move js fun i hi => hI i hi j List.mem_cons_self
    have hrest : Exchange I (is ++ js) ks := ih fun i hi k hk => hI i hi k (List.mem_cons_of_mem _ hk)
    exact .trans hmoved (.cons j hrest)

end Exchange

/-! ## Footprints -/

namespace Machine

variable {σ ι ε π : Type} {V : π → Type} {m : Machine σ ι ε}

/-- Which parts of the state each input reads and writes. What it does not write it keeps. Whether it is
accepted, and what it then writes, is decided by what it reads. -/
structure Footprint (m : Machine σ ι ε) (view : (p : π) → σ → V p) where
  reads : ι → Set π
  writes : ι → Set π
  separates : ∀ s t, (∀ p, view p s = view p t) → s = t
  keeps : ∀ s i s' p, m.step s i = .ok s' → p ∉ writes i → view p s' = view p s
  decides : ∀ s t i s', (∀ p ∈ reads i, view p s = view p t) → m.step s i = .ok s' →
    ∃ t', m.step t i = .ok t' ∧ ∀ p ∈ writes i, view p s' = view p t'

namespace Footprint

variable {view : (p : π) → σ → V p} (F : m.Footprint view)

/-- Neither input writes what the other reads or writes. -/
def Independent (i j : ι) : Prop :=
  (∀ p ∈ F.writes i, p ∉ F.reads j ∧ p ∉ F.writes j) ∧ ∀ p ∈ F.writes j, p ∉ F.reads i ∧ p ∉ F.writes i

theorem Independent.symm {F : m.Footprint view} {i j : ι} (h : F.Independent i j) : F.Independent j i :=
  ⟨h.2, h.1⟩

theorem view_next (s : σ) {i : ι} {p : π} (hp : p ∉ F.writes i) : view p (m.next s i) = view p s := by
  cases hi : m.step s i with
  | ok s' =>
    rw [m.next_of_ok hi]
    exact F.keeps s i s' p hi hp
  | error e => rw [m.next_of_error hi]

theorem accepts_congr {s t : σ} {i : ι} (h : ∀ p ∈ F.reads i, view p s = view p t) :
    m.accepts s i = m.accepts t i := by
  rw [Bool.eq_iff_iff, accepts_iff, accepts_iff]
  constructor
  · rintro ⟨s', hs⟩
    obtain ⟨t', ht, -⟩ := F.decides s t i s' h hs
    exact ⟨t', ht⟩
  · rintro ⟨t', ht⟩
    obtain ⟨s', hs, -⟩ := F.decides t s i t' (fun p hp => (h p hp).symm) ht
    exact ⟨s', hs⟩

/-- An input leaves the same in a part it writes, from states that agree there and on what it reads. -/
theorem view_next_congr {s t : σ} {i : ι} {p : π} (h : ∀ p ∈ F.reads i, view p s = view p t)
    (hp : p ∈ F.writes i) (hst : view p s = view p t) : view p (m.next s i) = view p (m.next t i) := by
  have haccepts := F.accepts_congr h
  cases hs : m.step s i with
  | ok s' =>
    obtain ⟨t', ht, hwritten⟩ := F.decides s t i s' h hs
    rw [m.next_of_ok hs, m.next_of_ok ht]
    exact hwritten p hp
  | error e =>
    rw [(m.accepts_eq_false_iff s i).mpr ⟨e, hs⟩] at haccepts
    obtain ⟨e', ht⟩ := (m.accepts_eq_false_iff t i).mp haccepts.symm
    rw [m.next_of_error hs, m.next_of_error ht]
    exact hst

variable {F}

theorem Independent.reads_next {i j : ι} (h : F.Independent i j) (s : σ) :
    ∀ p ∈ F.reads j, view p (m.next s i) = view p s :=
  fun _ hp => F.view_next s fun hw => (h.1 _ hw).1 hp

theorem Independent.accepts_next {i j : ι} (h : F.Independent i j) (s : σ) :
    m.accepts (m.next s i) j = m.accepts s j := F.accepts_congr (h.reads_next s)

theorem Independent.view_next_next {i j : ι} (h : F.Independent i j) (s : σ) {p : π} (hp : p ∈ F.writes i) :
    view p (m.next (m.next s i) j) = view p (m.next (m.next s j) i) := by
  have hj : p ∉ F.writes j := (h.1 p hp).2
  calc view p (m.next (m.next s i) j)
      = view p (m.next s i) := F.view_next _ hj
    _ = view p (m.next (m.next s j) i) :=
        F.view_next_congr (fun q hq => (h.symm.reads_next s q hq).symm) hp (F.view_next s hj).symm

/-- Independent inputs leave one state in either order. -/
theorem Independent.next_next {i j : ι} (h : F.Independent i j) (s : σ) :
    m.next (m.next s i) j = m.next (m.next s j) i := by
  apply F.separates
  intro p
  by_cases hi : p ∈ F.writes i
  · exact h.view_next_next s hi
  by_cases hj : p ∈ F.writes j
  · exact (h.symm.view_next_next s hj).symm
  · rw [F.view_next _ hj, F.view_next _ hi, F.view_next _ hi, F.view_next _ hj]

theorem Independent.accepted_swap {i j : ι} (h : F.Independent i j) (s : σ) (is : List ι) :
    Exchange F.Independent (m.accepted s (i :: j :: is)) (m.accepted s (j :: i :: is)) := by
  simp only [accepted_cons]
  rw [h.accepts_next, h.symm.accepts_next, h.next_next]
  cases m.accepts s i <;> cases m.accepts s j
  · exact .refl _
  · exact .refl _
  · exact .refl _
  · exact .swap _ h

variable (F)

/-- Runs of lists up to exchanges of independent inputs: they end in one state, and accept the same up to
such exchanges. -/
theorem run_exchange {is js : List ι} (h : Exchange F.Independent is js) (s : σ) :
    m.run s is = m.run s js ∧ Exchange F.Independent (m.accepted s is) (m.accepted s js) := by
  induction h generalizing s with
  | nil => exact ⟨rfl, .nil⟩
  | cons i _ ih =>
    obtain ⟨hrun, hacc⟩ := ih (m.next s i)
    refine ⟨hrun, ?_⟩
    simp only [accepted_cons]
    split
    · exact .cons i hacc
    · exact hacc
  | swap is h =>
    refine ⟨?_, h.accepted_swap s is⟩
    rw [run_cons, run_cons, run_cons, run_cons, h.next_next]
  | trans _ _ ih ih' =>
    exact ⟨(ih s).1.trans (ih' s).1, .trans (ih s).2 (ih' s).2⟩

/-- Inputs independent of `i` are accepted or refused as if `i` had not come. -/
theorem accepted_next {i : ι} {js : List ι} (h : ∀ j ∈ js, F.Independent i j) (s : σ) :
    m.accepted (m.next s i) js = m.accepted s js := by
  induction js generalizing s with
  | nil => rfl
  | cons j js ih =>
    have hj : F.Independent i j := h j List.mem_cons_self
    have hrest := ih (fun k hk => h k (List.mem_cons_of_mem _ hk)) (m.next s j)
    rw [accepted_cons, accepted_cons, hj.accepts_next, hj.next_next, hrest]

/-- Two lists of inputs that are independent of each other: however they are interleaved, the run ends as if
one came after the other, and accepts of each what it accepts of it alone. -/
theorem run_interleave {is js ks : List ι} (h : Interleave is js ks)
    (hI : ∀ i ∈ is, ∀ j ∈ js, F.Independent i j) (s : σ) :
    m.run s ks = m.run (m.run s is) js ∧ Interleave (m.accepted s is) (m.accepted s js) (m.accepted s ks) := by
  constructor
  · rw [← (F.run_exchange (.of_interleave h hI) s).1]
    exact List.foldl_append
  · induction h generalizing s with
    | nil => exact .nil
    | left i _ ih =>
      have hrest := ih (fun k hk => hI k (List.mem_cons_of_mem _ hk)) (m.next s i)
      rw [F.accepted_next (hI i List.mem_cons_self)] at hrest
      rw [m.accepted_cons s i, m.accepted_cons s i]
      split
      · exact .left i hrest
      · exact hrest
    | right j _ ih =>
      have hrest := ih (fun i hi k hk => hI i hi k (List.mem_cons_of_mem _ hk)) (m.next s j)
      rw [F.accepted_next fun i hi => (hI i hi j List.mem_cons_self).symm] at hrest
      rw [m.accepted_cons s j, m.accepted_cons s j]
      split
      · exact .right j hrest
      · exact hrest

end Footprint

end Machine
