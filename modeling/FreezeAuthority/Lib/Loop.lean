import FreezeAuthority.Lib.Borrow
import Mathlib.Data.List.Nodup
import Mathlib.Data.List.Perm.Basic

/-!
# Loops that check each item and keep the last write

A loop over a list stops at the first item it refuses. Otherwise it leaves in each variable the value
that the last item wrote there, or the one it started with.
-/

namespace Loop

variable {ε α β κ : Type}

/-- Whether an item is accepted does not depend on what came before it. -/
theorem foldlM_eq_ok_iff {f : β → α → Except ε β} {accepted : α → Prop} {next : β → α → β}
    (hf : ∀ b a b', f b a = .ok b' ↔ accepted a ∧ b' = next b a) (l : List α) (b b' : β) :
    l.foldlM f b = .ok b' ↔ (∀ a ∈ l, accepted a) ∧ b' = l.foldl next b := by
  induction l generalizing b with
  | nil => simp [eq_comm]
  | cons a as ih =>
    rw [List.foldlM_cons, Result.bind_eq_ok, List.forall_mem_cons, List.foldl_cons]
    constructor
    · rintro ⟨b₁, hstep, hrest⟩
      obtain ⟨ha, rfl⟩ := (hf b a b₁).mp hstep
      obtain ⟨has, hb'⟩ := (ih _).mp hrest
      exact ⟨⟨ha, has⟩, hb'⟩
    · rintro ⟨⟨ha, has⟩, hb'⟩
      exact ⟨next b a, (hf b a _).mpr ⟨ha, rfl⟩, (ih _).mpr ⟨has, hb'⟩⟩

/-- The last value that an item of `l` writes, and `b` where none does. -/
def last (write : α → Option β) (l : List α) (b : β) : β := (l.filterMap write).getLastD b

theorem last_cons (write : α → Option β) (a : α) (l : List α) (b : β) :
    last write (a :: l) b = last write l ((write a).getD b) := by
  unfold last
  cases hwrite : write a with
  | none => rw [List.filterMap_cons_none hwrite]; rfl
  | some v => rw [List.filterMap_cons_some hwrite, List.getLastD_cons]; rfl

/-- Items that write nothing can be left out. -/
theorem last_filter {write : α → Option β} {p : α → Bool} (l : List α) (b : β)
    (h : ∀ a ∈ l, p a = false → write a = none) : last write (l.filter p) b = last write l b := by
  induction l generalizing b with
  | nil => rfl
  | cons a as ih =>
    obtain ⟨ha, has⟩ := List.forall_mem_cons.mp h
    rw [last_cons]
    cases hp : p a with
    | true => rw [List.filter_cons_of_pos hp, last_cons, ih _ has]
    | false => rw [List.filter_cons_of_neg (by simp [hp]), ih _ has, ha hp]; rfl

/-- Where the writers share a key and the keys are distinct, at most one item writes. -/
theorem length_filterMap_le_one {write : α → Option β} {key : α → κ} {k : κ} {l : List α}
    (hkey : ∀ a ∈ l, write a ≠ none → key a = k) (h : (l.map key).Nodup) : (l.filterMap write).length ≤ 1 := by
  induction l with
  | nil => simp
  | cons a as ih =>
    obtain ⟨ha, has⟩ := List.nodup_cons.mp h
    obtain ⟨hka, hkas⟩ := List.forall_mem_cons.mp hkey
    cases hwrite : write a with
    | none =>
      rw [List.filterMap_cons_none hwrite]
      exact ih hkas has
    | some v =>
      -- Another writer would have the key of `a`.
      have hnone : as.filterMap write = [] := by
        rw [List.filterMap_eq_nil_iff]
        intro a' ha'
        by_contra hne
        rw [hka (by simp [hwrite]), ← hkas a' ha' hne] at ha
        exact ha (List.mem_map_of_mem ha')
      rw [List.filterMap_cons_some hwrite, hnone]
      exact Nat.le_refl 1

/-- The order of the items does not matter where at most one writes. -/
theorem last_perm {write : α → Option β} {key : α → κ} {k : κ} {l l' : List α}
    (hkey : ∀ a ∈ l, write a ≠ none → key a = k) (h : (l.map key).Nodup) (hperm : l'.Perm l) (b : β) :
    last write l' b = last write l b := by
  have hone := length_filterMap_le_one hkey h
  have hwrites := hperm.filterMap write
  unfold last
  rcases hl : l.filterMap write with _ | ⟨v, _ | ⟨w, vs⟩⟩
  · rw [hl] at hwrites
    rw [hwrites.eq_nil]
  · rw [hl, List.perm_singleton] at hwrites
    rw [hwrites]
  · rw [hl] at hone
    simp at hone

end Loop
