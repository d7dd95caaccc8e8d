import Mathlib.Data.List.Nodup
import Mathlib.Data.Set.Card

/-!
# Lists without duplicates

`eraseDups` keeps the first of each value. It drops nothing exactly when the values are distinct. A list that
enumerates a set once is as long as the set is large.
-/

namespace Distinct

/-! ## The first occurrences of a list -/

section

variable {α : Type} [BEq α]

theorem length_eraseDups_le (l : List α) : l.eraseDups.length ≤ l.length := by
  match l with
  | [] => simp
  | a :: as =>
    have hfilter := List.length_filter_le (fun b => !b == a) as
    have htail := length_eraseDups_le (as.filter fun b => !b == a)
    rw [List.eraseDups_cons, List.length_cons, List.length_cons]
    omega
termination_by l.length
decreasing_by
  exact Nat.lt_succ_of_le (List.length_filter_le _ _)

variable [LawfulBEq α]

theorem eraseDups_cons_cons_self (a : α) (as : List α) : (a :: a :: as).eraseDups = (a :: as).eraseDups := by
  rw [List.eraseDups_cons, List.eraseDups_cons]
  simp

theorem filter_bne_eq_self {a : α} {as : List α} (h : a ∉ as) : as.filter (fun b => !b == a) = as := by
  rw [List.filter_eq_self]
  intro b hb
  have hne : b ≠ a := fun hba => h (hba ▸ hb)
  simpa using hne

theorem eraseDups_of_nodup {l : List α} (h : l.Nodup) : l.eraseDups = l := by
  induction l with
  | nil => rfl
  | cons a as ih =>
    obtain ⟨ha, has⟩ := List.nodup_cons.mp h
    rw [List.eraseDups_cons, filter_bne_eq_self ha, ih has]

theorem nodup_of_length_eraseDups {l : List α} (h : l.eraseDups.length = l.length) : l.Nodup := by
  induction l with
  | nil => exact List.nodup_nil
  | cons a as ih =>
    have hle := length_eraseDups_le (as.filter fun b => !b == a)
    have hfilter := List.length_filter_le (fun b => !b == a) as
    rw [List.eraseDups_cons, List.length_cons, List.length_cons] at h
    -- The filter after `a` dropped nothing, so `a` does not come again.
    have hall : as.filter (fun b => !b == a) = as := by
      rw [List.filter_eq_self]
      exact List.length_filter_eq_length_iff.mp (by omega)
    have ha : a ∉ as := by
      intro ha
      rw [← hall, List.mem_filter] at ha
      simp at ha
    rw [hall] at h
    exact List.nodup_cons.mpr ⟨ha, ih (by omega)⟩

end

/-! ## Lists that enumerate a set -/

variable {α : Type} {l : List α} {A : Set α}

theorem length_eq_ncard (hnodup : l.Nodup) (hmem : ∀ a, a ∈ l ↔ a ∈ A) : l.length = A.ncard := by
  classical
  have hset : A = (l.toFinset : Set α) := by
    ext a
    simp [hmem]
  rw [hset, Set.ncard_coe_finset, List.toFinset_card_of_nodup hnodup]

theorem ncard_le_length (hcovers : ∀ a ∈ A, a ∈ l) : A.ncard ≤ l.length := by
  classical
  have hsubset : A ⊆ (l.toFinset : Set α) := by
    intro a ha
    simpa using hcovers a ha
  calc A.ncard ≤ (l.toFinset : Set α).ncard := Set.ncard_le_ncard hsubset
    _ = l.toFinset.card := Set.ncard_coe_finset _
    _ ≤ l.length := l.toFinset_card_le

/-- A list that covers a set and is no longer than the set is large enumerates it once. -/
theorem enumerates_of_length (hcovers : ∀ a ∈ A, a ∈ l) (hlength : l.length = A.ncard) :
    l.Nodup ∧ ∀ a, a ∈ l ↔ a ∈ A := by
  classical
  have hdedup : A.ncard ≤ l.dedup.length := ncard_le_length fun a ha => List.mem_dedup.mpr (hcovers a ha)
  have hnodup : l.Nodup := by
    rw [← List.dedup_eq_self]
    exact (List.dedup_sublist l).eq_of_length_le (by omega)
  refine ⟨hnodup, fun a => ⟨?_, hcovers a⟩⟩
  intro ha
  -- Without `a` the list would be too short for the set.
  by_contra hout
  have herase : A.ncard ≤ (l.erase a).length := ncard_le_length fun b hb => by
    rw [hnodup.mem_erase_iff]
    exact ⟨fun heq => hout (heq ▸ hb), hcovers b hb⟩
  have hlt := List.length_erase_of_mem ha
  have hpos := List.length_pos_of_mem ha
  omega

end Distinct
