import FreezeAuthority.Lib.Window
import Mathlib.Tactic.Ring

/-!
# Records of fixed-size fields

A record is written field by field. A reader takes the fields off the front in the same order, so each
field is a window of the whole.
-/

/-! ## Numbers as bytes, the low byte first -/

namespace LittleEndian

def encode : Nat → Nat → List UInt8
  | 0, _ => []
  | w + 1, n => UInt8.ofNat n :: encode w (n / 256)

def decode : List UInt8 → Nat
  | [] => 0
  | b :: bs => 256 * decode bs + b.toNat

@[simp]
theorem length_encode (w n : Nat) : (encode w n).length = w := by
  induction w generalizing n with
  | zero => rfl
  | succ w ih => rw [encode, List.length_cons, ih]

theorem decode_lt (l : List UInt8) : decode l < 256 ^ l.length := by
  induction l with
  | nil => simp [decode]
  | cons b bs ih =>
    have hb := b.toNat_lt
    rw [decode, List.length_cons, Nat.pow_succ]
    omega

theorem decode_encode {w n : Nat} (h : n < 256 ^ w) : decode (encode w n) = n := by
  induction w generalizing n with
  | zero =>
    rw [Nat.pow_zero, Nat.lt_one_iff] at h
    subst h
    rfl
  | succ w ih =>
    have hdiv : n / 256 < 256 ^ w := by
      rw [Nat.pow_succ] at h
      exact Nat.div_lt_of_lt_mul (by omega)
    rw [encode, decode, ih hdiv, UInt8.toNat_ofNat']
    omega

theorem encode_decode (l : List UInt8) : encode l.length (decode l) = l := by
  induction l with
  | nil => rfl
  | cons b bs ih =>
    have hb := b.toNat_lt
    have hdiv : (256 * decode bs + b.toNat) / 256 = decode bs := by omega
    have hlow : UInt8.ofNat (256 * decode bs + b.toNat) = b := by
      apply UInt8.toNat_inj.mp
      rw [UInt8.toNat_ofNat']
      omega
    rw [List.length_cons, decode, encode, hdiv, ih, hlow]

end LittleEndian

/-! ## Fields -/

namespace Field

variable {α β : Type}

/-- Takes the next `n` items off the front and decodes them. -/
def next (n : Nat) (decode : List β → Option α) (d : List β) : Option (α × List β) :=
  if n ≤ d.length then (decode (d.take n)).map (·, d.drop n) else none

/-- `decode` reads what `encode` writes, and nothing else. Every encoding has `n` items. -/
structure Lawful (n : Nat) (encode : α → List β) (decode : List β → Option α) : Prop where
  length (a : α) : (encode a).length = n
  decode_iff (d : List β) (a : α) : decode d = some a ↔ d = encode a

theorem Lawful.next_iff {n : Nat} {encode : α → List β} {decode : List β → Option α}
    (h : Lawful n encode decode) (d : List β) (a : α) (rest : List β) :
    next n decode d = some (a, rest) ↔ d = encode a ++ rest := by
  unfold next
  by_cases hn : n ≤ d.length
  · rw [if_pos hn, Option.map_eq_some_iff]
    constructor
    · rintro ⟨a', ha', heq⟩
      obtain ⟨rfl, rfl⟩ := Prod.mk.inj heq
      rw [← (h.decode_iff _ _).mp ha']
      exact (List.take_append_drop n d).symm
    · rintro rfl
      refine ⟨a, ?_, ?_⟩
      · rw [h.decode_iff, ← h.length a, List.take_left]
      · rw [← h.length a, List.drop_left]
  · rw [if_neg hn]
    constructor
    · rintro ⟨⟩
    · rintro rfl
      rw [List.length_append, h.length a] at hn
      omega

/-! A field of a record, between what is before it and what is after it. -/

theorem read_between (before field after : List β) :
    Window.read (before ++ field ++ after) before.length field.length = field := by
  unfold Window.read
  rw [List.append_assoc, List.drop_left, List.take_left]

theorem write_between (before field field' after : List β) (h : field'.length = field.length) :
    Window.write (before ++ field ++ after) before.length field' = before ++ field' ++ after := by
  unfold Window.write
  rw [h, ← List.length_append, List.drop_left, List.append_assoc before field after, List.take_left]

end Field
