import Mathlib.Tactic.Common

/-!
# Windows of a list

A window is the run of items that starts at an offset. `read` copies it out, `write`
replaces it in place. Two windows beside each other do not meet.
-/

namespace Window

variable {α : Type}

def read (d : List α) (o n : Nat) : List α := (d.drop o).take n

def write (d : List α) (o : Nat) (w : List α) : List α := d.take o ++ w ++ d.drop (o + w.length)

/-! ## Lengths -/

theorem length_read (d : List α) (o n : Nat) (h : o + n ≤ d.length) : (read d o n).length = n := by
  simp [read]; omega

@[simp]
theorem length_write (d w : List α) (o : Nat) (h : o + w.length ≤ d.length) :
    (write d o w).length = d.length := by
  simp [write]; omega

/-! ## One window -/

theorem getElem?_read (d : List α) (o n i : Nat) :
    (read d o n)[i]? = if i < n then d[o + i]? else none := by
  simp [read, List.getElem?_take, List.getElem?_drop]

theorem getElem?_write (d w : List α) (o i : Nat) (h : o + w.length ≤ d.length) :
    (write d o w)[i]? = if o ≤ i ∧ i < o + w.length then w[i - o]? else d[i]? := by
  have ho : (d.take o).length = o := by simp; omega
  rw [write, List.append_assoc]
  rcases Nat.lt_or_ge i o with hi | hi
  · rw [List.getElem?_append_left (by omega), List.getElem?_take_of_lt hi, if_neg (by omega)]
  · rw [List.getElem?_append_right (by omega), ho]
    rcases Nat.lt_or_ge (i - o) w.length with hw | hw
    · rw [List.getElem?_append_left hw, if_pos (by omega)]
    · rw [List.getElem?_append_right hw, List.getElem?_drop, if_neg (by omega)]
      congr 1; omega

theorem getElem?_write_outside (d w : List α) (o i : Nat) (h : o + w.length ≤ d.length)
    (hi : i < o ∨ o + w.length ≤ i) : (write d o w)[i]? = d[i]? := by
  rw [getElem?_write d w o i h, if_neg (by omega)]

theorem read_write (d w : List α) (o : Nat) (h : o + w.length ≤ d.length) :
    read (write d o w) o w.length = w := by
  apply List.ext_getElem?
  intro i
  rw [getElem?_read, getElem?_write d w o _ h]
  split
  · rw [if_pos (by omega)]; congr 1; omega
  · rw [List.getElem?_eq_none (by omega)]

/-- Writing back what was read changes nothing. -/
theorem write_read (d : List α) (o n : Nat) (h : o + n ≤ d.length) : write d o (read d o n) = d := by
  have hlen := length_read d o n h
  apply List.ext_getElem?
  intro i
  rw [getElem?_write _ _ _ _ (by rw [hlen]; exact h), hlen]
  split
  · rw [getElem?_read, if_pos (by omega)]
    congr 1
    omega
  · rfl

/-- The second write to a window hides the first. -/
theorem write_write (d w w' : List α) (o : Nat) (h : o + w.length ≤ d.length) (hw : w'.length = w.length) :
    write (write d o w) o w' = write d o w' := by
  have hlen := length_write d w o h
  apply List.ext_getElem?
  intro i
  rw [getElem?_write _ w' _ _ (by rw [hlen, hw]; exact h), getElem?_write d w' _ _ (by rw [hw]; exact h)]
  split
  · rfl
  · exact getElem?_write_outside d w o i h (by omega)

/-! ## Two windows -/

def Disjoint (o n o' n' : Nat) : Prop := o' + n' ≤ o ∨ o + n ≤ o'

theorem Disjoint.symm {o n o' n' : Nat} (h : Disjoint o n o' n') : Disjoint o' n' o n := Or.symm h

theorem read_write_disjoint (d w : List α) (o o' n : Nat) (h : o + w.length ≤ d.length)
    (hd : o' + n ≤ o ∨ o + w.length ≤ o') : read (write d o w) o' n = read d o' n := by
  apply List.ext_getElem?
  intro i
  rw [getElem?_read, getElem?_read]
  split
  · exact getElem?_write_outside d w o _ h (by omega)
  · rfl

/-- Two adjacent writes are one write of both. -/
theorem write_append (d w w' : List α) (o : Nat) (h : o + w.length + w'.length ≤ d.length) :
    write (write d o w) (o + w.length) w' = write d o (w ++ w') := by
  have hw : o + w.length ≤ d.length := by omega
  apply List.ext_getElem?
  intro i
  rw [getElem?_write _ w' _ i (by rw [length_write d w o hw]; exact h), getElem?_write d w o i hw,
    getElem?_write d (w ++ w') o i (by simp; omega), List.length_append]
  rcases Nat.lt_or_ge i (o + w.length) with hi | hi
  · rw [if_neg (by omega)]
    by_cases ho : o ≤ i
    · rw [if_pos ⟨ho, hi⟩, if_pos ⟨ho, by omega⟩, List.getElem?_append_left (by omega)]
    · rw [if_neg (by omega), if_neg (by omega)]
  · by_cases hi' : i < o + w.length + w'.length
    · rw [if_pos ⟨hi, hi'⟩, if_pos ⟨by omega, by omega⟩, List.getElem?_append_right (by omega)]
      congr 1; omega
    · rw [if_neg (by omega), if_neg (by omega), if_neg (by omega)]

theorem set_eq_write (d : List α) (o : Nat) (b : α) (h : o < d.length) : d.set o b = write d o [b] := by
  rw [List.set_eq_take_append_cons_drop, if_pos h, write]
  simp

theorem read_add (d : List α) (o m n : Nat) : read d o (m + n) = read d o m ++ read d (o + m) n := by
  rw [read, read, read, List.take_add, List.drop_drop]

theorem read_one (d : List α) (o : Nat) (h : o < d.length) : read d o 1 = [d[o]] := by
  rw [read, List.drop_eq_getElem_cons h]
  rfl

/-! ## Changes that stay inside a window -/

/-- `f` changes only the window, and only by what the window holds. -/
structure Confined (f : List α → List α) (o n : Nat) : Prop where
  length (d : List α) : o + n ≤ d.length → (f d).length = d.length
  outside (d : List α) (i : Nat) : o + n ≤ d.length → i < o ∨ o + n ≤ i → (f d)[i]? = d[i]?
  inside (d d' : List α) : o + n ≤ d.length → o + n ≤ d'.length → read d o n = read d' o n →
    read (f d) o n = read (f d') o n

theorem Confined.write (o : Nat) (w : List α) : Confined (Window.write · o w) o w.length where
  length d h := length_write d w o h
  outside d i h hi := getElem?_write_outside d w o i h hi
  inside d d' h h' _ := by rw [read_write d w o h, read_write d' w o h']

theorem Confined.read_disjoint {f : List α → List α} {o n o' n' : Nat} (hf : Confined f o n) {d : List α}
    (h : o + n ≤ d.length) (hd : Disjoint o n o' n') : read (f d) o' n' = read d o' n' := by
  unfold Disjoint at hd
  apply List.ext_getElem?
  intro i
  rw [getElem?_read, getElem?_read]
  split
  · exact hf.outside d (o' + i) h (by omega)
  · rfl

/-- Where a window is read at one index, it is read as a whole. -/
theorem getElem?_of_read_eq {d d' : List α} {o n i : Nat} (h : read d o n = read d' o n) (ho : o ≤ i)
    (hi : i < o + n) : d[i]? = d'[i]? := by
  have hread : (read d o n)[i - o]? = (read d' o n)[i - o]? := by rw [h]
  rw [getElem?_read, getElem?_read, if_pos (by omega), if_pos (by omega)] at hread
  rwa [show o + (i - o) = i by omega] at hread

theorem Confined.comm {f g : List α → List α} {o n o' n' : Nat} (hf : Confined f o n) (hg : Confined g o' n')
    {d : List α} (h : o + n ≤ d.length) (h' : o' + n' ≤ d.length) (hd : Disjoint o n o' n') :
    f (g d) = g (f d) := by
  have hfd := hf.length d h
  have hgd := hg.length d h'
  have hread := hf.inside (g d) d (by omega) h (hg.read_disjoint h' hd.symm)
  have hread' := hg.inside (f d) d (by omega) h' (hf.read_disjoint h hd)
  unfold Disjoint at hd
  apply List.ext_getElem?
  intro i
  -- An index is in the first window, in the second, or in neither.
  by_cases hi : o ≤ i ∧ i < o + n
  · rw [getElem?_of_read_eq hread hi.1 hi.2, hg.outside (f d) i (by omega) (by omega)]
  · rw [hf.outside (g d) i (by omega) (by omega)]
    by_cases hi' : o' ≤ i ∧ i < o' + n'
    · rw [getElem?_of_read_eq hread' hi'.1 hi'.2]
    · rw [hg.outside d i h' (by omega), hg.outside (f d) i (by omega) (by omega), hf.outside d i h (by omega)]

/-! ## The whole list -/

theorem read_all (d : List α) : read d 0 d.length = d := by simp [read]

theorem write_all (d w : List α) (h : w.length = d.length) : write d 0 w = w := by
  simp [write, h]

end Window
