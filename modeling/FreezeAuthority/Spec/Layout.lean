import FreezeAuthority.Code.FrozenAccount
import FreezeAuthority.Spec.Crates

/-!
# The bytes of the two states

A config is a window of 65 bytes: the slot, then the flag. A marker is one byte.
-/

namespace FreezeAuthority

theorem FixedArray.toList_injective {α : Type} {n : Nat} :
    Function.Injective (FixedArray.toList : FixedArray α n → List α) := by
  rintro ⟨a, ha⟩ ⟨b, hb⟩ h
  simpa using h

@[simp]
theorem AuthoritySlot.length_bytes (s : AuthoritySlot) : s.bytes.length = ENCODED_LEN := by
  simp [bytes, ENCODED_LEN, FixedArray.length_toList]

theorem AuthoritySlot.bytes_injective : Function.Injective bytes := by
  rintro ⟨⟨h⟩, ⟨n⟩⟩ ⟨⟨h'⟩, ⟨n'⟩⟩ heq
  unfold bytes at heq
  have hlen : h.toList.length = h'.toList.length := by rw [h.length_toList, h'.length_toList]
  obtain ⟨hh, hn⟩ := List.append_inj heq hlen
  have hh : h = h' := FixedArray.toList_injective hh
  have hn : n = n' := FixedArray.toList_injective hn
  rw [hh, hn]

namespace FreezeConfig

def bytes (c : FreezeConfig) : List UInt8 := c.slot.bytes ++ [c.is_frozen.toUInt8]

@[simp]
theorem length_bytes (c : FreezeConfig) : c.bytes.length = SIZE := by
  simp [bytes, SIZE, AuthoritySlot.ENCODED_LEN]

theorem toUInt8_injective : Function.Injective Bool.toUInt8 := by
  intro a b h
  cases a <;> cases b <;> first | rfl | simp [Bool.toUInt8] at h

theorem bytes_injective : Function.Injective bytes := by
  rintro ⟨s, b⟩ ⟨s', b'⟩ heq
  unfold bytes at heq
  obtain ⟨hs, hb⟩ := List.append_inj heq (by simp)
  have hs : s = s' := AuthoritySlot.bytes_injective hs
  have hb : b = b' := toUInt8_injective (List.singleton_inj.mp hb)
  rw [hs, hb]

theorem vacant_bytes : bytes ⟨.vacant, false⟩ = List.replicate SIZE 0 := by
  decide

def At (d : List UInt8) (o : Nat) (c : FreezeConfig) : Prop :=
  o + SIZE ≤ d.length ∧ Window.read d o SIZE = c.bytes

/-- The two writes, of the slot and of the flag, are one write of the window. -/
theorem write_slot_flag (c : FreezeConfig) (d : List UInt8) (o : Nat) (h : o + SIZE ≤ d.length) :
    (Window.write d o c.slot.bytes).set (o + AuthoritySlot.ENCODED_LEN) c.is_frozen.toUInt8 =
      Window.write d o c.bytes := by
  unfold SIZE at h
  have hslot : o + c.slot.bytes.length ≤ d.length := by simp [AuthoritySlot.ENCODED_LEN]; omega
  have hboth := Window.write_append d c.slot.bytes [c.is_frozen.toUInt8] o
    (by simp [AuthoritySlot.ENCODED_LEN]; omega)
  rw [AuthoritySlot.length_bytes] at hboth
  have hflag : o + AuthoritySlot.ENCODED_LEN < (Window.write d o c.slot.bytes).length := by
    rw [Window.length_write _ _ _ hslot]
    unfold AuthoritySlot.ENCODED_LEN
    omega
  rw [Window.set_eq_write _ _ _ hflag]
  exact hboth

end FreezeConfig

def FrozenAccountState.bytes (s : FrozenAccountState) : List UInt8 := [s.is_frozen.toUInt8]

/-! ## Account data -/

section Data

variable [Lez]

/-- The data as a function takes it, by reference. -/
def Data.slice (d : Data) : Slice := ⟨d.bytes, Nat.lt_of_le_of_lt d.fits Lez.addressable⟩

/-- An index inside a slice is below the limit of `usize`. -/
theorem Slice.usizeAdd_eq (d : Slice) {a b : Nat} (h : a + b ≤ d.bytes.length) : usizeAdd a b = a + b := by
  have hd := d.addressable
  unfold usizeAdd
  exact Nat.mod_eq_of_lt (by omega)

theorem Data.try_from_bytes (d : Data) : Data.try_from d.bytes = some d := by
  unfold Data.try_from
  rw [dif_pos d.fits]

theorem FreezeConfig.assignData_call (d : Data) (a : AccountWithMetadata) :
    (assignData d.bytes).call a = (.ok (), a.withData d) := by
  unfold assignData
  rw [Data.try_from_bytes]
  rfl

theorem FreezeConfig.assignData_on_eq_ok_iff (bytes : List UInt8) (a a' : AccountWithMetadata) :
    (assignData bytes).on a = .ok a' ↔ ∃ d : Data, d.bytes = bytes ∧ a' = a.withData d := by
  constructor
  · intro h
    unfold assignData Data.try_from at h
    by_cases hfits : bytes.length ≤ Lez.dataMaxLength
    · rw [dif_pos hfits] at h
      exact ⟨⟨bytes, hfits⟩, rfl, by simpa [eq_comm] using h⟩
    · rw [dif_neg hfits] at h
      simp at h
  · rintro ⟨d, rfl, rfl⟩
    exact Borrow.on_ok (assignData_call d a)

/-- The data after a change of its bytes, where LEZ stores them. -/
def Data.edit (d : Data) (f : List UInt8 → List UInt8) : Data := (Data.try_from (f d.bytes)).getD d

theorem Data.bytes_edit (d : Data) (f : List UInt8 → List UInt8) (h : (f d.bytes).length = d.bytes.length) :
    (d.edit f).bytes = f d.bytes := by
  have hfits : (f d.bytes).length ≤ Lez.dataMaxLength := by
    rw [h]
    exact d.fits
  unfold edit try_from
  rw [dif_pos hfits]
  rfl

def Data.splice (d : Data) (o : Nat) (w : List UInt8) : Data := d.edit (Window.write · o w)

theorem Data.bytes_splice (d : Data) (o : Nat) (w : List UInt8) (h : o + w.length ≤ d.bytes.length) :
    (d.splice o w).bytes = Window.write d.bytes o w :=
  d.bytes_edit (Window.write · o w) (Window.length_write _ _ _ h)

def AccountWithMetadata.withConfig (a : AccountWithMetadata) (o : Nat) (c : FreezeConfig) :
    AccountWithMetadata :=
  a.withData (a.account.data.splice o c.bytes)

theorem AccountWithMetadata.withConfig_bytes (a : AccountWithMetadata) (o : Nat) (c : FreezeConfig)
    (h : o + FreezeConfig.SIZE ≤ a.account.data.bytes.length) :
    (a.withConfig o c).account.data.bytes = Window.write a.account.data.bytes o c.bytes := by
  unfold withConfig withData
  exact Data.bytes_splice _ _ _ (by simpa using h)

def AccountWithMetadata.withMarker (a : AccountWithMetadata) (s : FrozenAccountState) :
    AccountWithMetadata :=
  a.withData ((Data.try_from s.bytes).getD a.account.data)

theorem AccountWithMetadata.withMarker_bytes (a : AccountWithMetadata) (s : FrozenAccountState)
    (h : 1 ≤ Lez.dataMaxLength) : (a.withMarker s).account.data.bytes = s.bytes := by
  have hfits : s.bytes.length ≤ Lez.dataMaxLength := h
  unfold withMarker withData Data.try_from
  rw [dif_pos hfits]
  rfl

end Data

variable [Lez] [Crates] [LawfulCrates]

namespace FreezeConfig

/-! ## The config -/

theorem encode_eq (c : FreezeConfig) : c.encode = .ok c.bytes := by
  unfold encode
  rw [LawfulCrates.config_to_vec_eq]
  rfl

theorem decode_eq_ok_iff (d : List UInt8) (c : FreezeConfig) : decode d = .ok c ↔ d = c.bytes := by
  unfold decode
  by_cases hd : d.isEmpty = true
  · have hne : d ≠ c.bytes := by
      rintro rfl
      simp [bytes] at hd
    simp [hd, hne]
  · have hiff := LawfulCrates.config_try_from_slice_iff d c
    rw [if_neg hd]
    unfold bytes
    rw [← hiff]
    cases Crates.config_try_from_slice d <;> simp

theorem exists_slot_of_fits (d : List UInt8) (o : Nat) (h : o + SIZE ≤ d.length) :
    ∃ s b, Crates.slot_read_at d o = .ok s ∧ d[o + AuthoritySlot.ENCODED_LEN]? = some b ∧
      Window.read d o SIZE = s.bytes ++ [b] := by
  unfold SIZE at h
  obtain ⟨s, hs, hread⟩ := LawfulCrates.slot_read_at_of_fits d o (by unfold AuthoritySlot.ENCODED_LEN; omega)
  have hflag : o + AuthoritySlot.ENCODED_LEN < d.length := by unfold AuthoritySlot.ENCODED_LEN; omega
  refine ⟨s, d[o + AuthoritySlot.ENCODED_LEN], hs, List.getElem?_eq_getElem hflag, ?_⟩
  rw [← hread, ← Window.read_one d _ hflag, ← Window.read_add]
  rfl

omit [LawfulCrates] in
theorem decode_at_of_fits (d : Slice) (o : Nat) (s : AuthoritySlot) (b : UInt8) (h : o + SIZE ≤ d.bytes.length)
    (hs : Crates.slot_read_at d.bytes o = .ok s)
    (hb : d.bytes[o + AuthoritySlot.ENCODED_LEN]? = some b) :
    decode_at d.bytes o =
      if b = 0 then .ok ⟨s, false⟩ else if b = 1 then .ok ⟨s, true⟩ else .error .DecodingFailed := by
  unfold SIZE at h
  have hne : d.bytes.isEmpty = false := by
    rw [List.isEmpty_eq_false_iff, ← List.length_pos_iff]; omega
  have hadd : usizeAdd o AuthoritySlot.ENCODED_LEN = o + AuthoritySlot.ENCODED_LEN :=
    d.usizeAdd_eq (by unfold AuthoritySlot.ENCODED_LEN; omega)
  unfold decode_at fromAuthority
  simp only [hne, hs, hadd, hb, Bool.false_eq_true, if_false, Result.pure_eq, Result.ok_bind,
    Result.mapError_ok]
  split
  · simp_all
  · simp_all
  · simp_all
  · simp_all

theorem decode_at_of_short (d : Slice) (o : Nat) (h : d.bytes.length < o + SIZE) :
    decode_at d.bytes o = .error (if d.bytes.isEmpty then .NotInitialized else .SlotOutOfBounds) := by
  unfold SIZE at h
  unfold decode_at fromAuthority
  by_cases hne : d.bytes.isEmpty = true
  · simp [hne]
  · simp only [hne]
    by_cases hslot : d.bytes.length < o + AuthoritySlot.ENCODED_LEN
    · simp [LawfulCrates.slot_read_at_of_short d.bytes o hslot, FreezeError.ofAuthorityError]
    · obtain ⟨s, hs, -⟩ := LawfulCrates.slot_read_at_of_fits d.bytes o (by omega)
      have hadd : usizeAdd o AuthoritySlot.ENCODED_LEN = o + AuthoritySlot.ENCODED_LEN :=
        d.usizeAdd_eq (by omega)
      have hflag : d.bytes[o + AuthoritySlot.ENCODED_LEN]? = none := by
        rw [List.getElem?_eq_none]; unfold AuthoritySlot.ENCODED_LEN; omega
      simp [hs, hadd, hflag]

/-- Of data that ends before the window, only the length matters. -/
theorem decode_at_of_short_congr (d d' : Slice) {o : Nat} (hlen : d'.bytes.length = d.bytes.length)
    (h : d.bytes.length < o + SIZE) : decode_at d'.bytes o = decode_at d.bytes o := by
  have hempty : d'.bytes.isEmpty = d.bytes.isEmpty := by
    rw [Bool.eq_iff_iff, List.isEmpty_iff_length_eq_zero, List.isEmpty_iff_length_eq_zero, hlen]
  rw [decode_at_of_short d' o (by rw [hlen]; exact h), decode_at_of_short d o h, hempty]

theorem decode_at_congr {d d' : Data} {o o' : Nat} (h : o + SIZE ≤ d.bytes.length)
    (h' : o' + SIZE ≤ d'.bytes.length)
    (hread : Window.read d.bytes o SIZE = Window.read d'.bytes o' SIZE) :
    decode_at d.bytes o = decode_at d'.bytes o' := by
  obtain ⟨s, b, hs, hb, hw⟩ := exists_slot_of_fits d.bytes o h
  obtain ⟨s', b', hs', hb', hw'⟩ := exists_slot_of_fits d'.bytes o' h'
  rw [hw, hw'] at hread
  obtain ⟨hslot, hflag⟩ := List.append_inj hread (by simp)
  have hd : decode_at d.bytes o = _ := decode_at_of_fits d.slice o s b h hs hb
  have hd' : decode_at d'.bytes o' = _ := decode_at_of_fits d'.slice o' s' b' h' hs' hb'
  rw [hd, hd', AuthoritySlot.bytes_injective hslot, List.singleton_inj.mp hflag]

theorem decode_at_slice_eq_ok_iff (d : Slice) (o : Nat) (c : FreezeConfig) :
    decode_at d.bytes o = .ok c ↔ At d.bytes o c := by
  unfold At
  rcases Nat.lt_or_ge d.bytes.length (o + SIZE) with h | h
  · rw [decode_at_of_short d o h]
    constructor
    · rintro ⟨⟩
    · rintro ⟨h', -⟩; omega
  · obtain ⟨s, b, hs, hb, hread⟩ := exists_slot_of_fits d.bytes o h
    rw [decode_at_of_fits d o s b h hs hb, hread]
    unfold bytes
    have hinj : s.bytes ++ [b] = c.slot.bytes ++ [c.is_frozen.toUInt8] ↔
        s = c.slot ∧ b = c.is_frozen.toUInt8 := by
      constructor
      · intro heq
        obtain ⟨h1, h2⟩ := List.append_inj heq (by simp)
        exact ⟨AuthoritySlot.bytes_injective h1, List.singleton_inj.mp h2⟩
      · rintro ⟨rfl, rfl⟩; rfl
    rw [hinj]
    obtain ⟨cs, cb⟩ := c
    cases cb <;> split_ifs <;> simp_all [Bool.toUInt8]

theorem decode_at_eq_ok_iff (d : Data) (o : Nat) (c : FreezeConfig) :
    decode_at d.bytes o = .ok c ↔ At d.bytes o c :=
  decode_at_slice_eq_ok_iff d.slice o c

theorem from_account_at_withConfig (a : AccountWithMetadata) (o : Nat) (c : FreezeConfig)
    (h : o + SIZE ≤ a.account.data.bytes.length) : from_account_at (a.withConfig o c) o = .ok c := by
  have hlen : o + c.bytes.length ≤ a.account.data.bytes.length := by simpa using h
  have hread := Window.read_write _ c.bytes o hlen
  unfold from_account_at
  rw [decode_at_eq_ok_iff, a.withConfig_bytes o c h]
  unfold At
  rw [length_bytes] at hread
  rw [Window.length_write _ _ _ hlen]
  exact ⟨h, hread⟩

theorem write_to_at_call (c : FreezeConfig) (o : Nat) (a : AccountWithMetadata)
    (h : o + SIZE ≤ a.account.data.bytes.length) :
    (c.write_to_at o).call a = (.ok (), a.withConfig o c) := by
  have hslot : o + AuthoritySlot.ENCODED_LEN < a.account.data.bytes.length := by
    unfold SIZE at h; unfold AuthoritySlot.ENCODED_LEN; omega
  have hwrite := LawfulCrates.slot_write_at_of_fits c.slot a.account.data.bytes o (by omega)
  have hlen : (Window.write a.account.data.bytes o c.slot.bytes).length = a.account.data.bytes.length :=
    Window.length_write _ _ _ (by rw [AuthoritySlot.length_bytes]; omega)
  have hadd : usizeAdd o AuthoritySlot.ENCODED_LEN = o + AuthoritySlot.ENCODED_LEN :=
    a.account.data.slice.usizeAdd_eq (Nat.le_of_lt hslot)
  have hdata := a.account.data.bytes_splice o c.bytes (by simpa using h)
  unfold write_to_at fromAuthority
  simp only [Borrow.call_bind, Borrow.call_get, Borrow.call_attempt, Borrow.on_ok hwrite, Result.mapError_ok,
    hadd, hlen, if_pos hslot, write_slot_flag c _ o h]
  rw [← hdata, assignData_call]
  rfl

/-- A window that does not fit is refused before the data is assigned. Either the slot does not fit, or
the flag behind it does not. -/
theorem write_to_at_call_of_short (c : FreezeConfig) (o : Nat) (a : AccountWithMetadata)
    (h : a.account.data.bytes.length < o + SIZE) :
    (c.write_to_at o).call a = (.error .SlotOutOfBounds, a) := by
  unfold SIZE at h
  unfold write_to_at fromAuthority
  by_cases hslot : a.account.data.bytes.length < o + AuthoritySlot.ENCODED_LEN
  · have hwrite := LawfulCrates.slot_write_at_of_short c.slot a.account.data.bytes o hslot
    have hon : (Crates.slot_write_at c.slot o).on a.account.data.bytes = .error .SlotOutOfBounds := by
      rw [Borrow.on, hwrite]
    simp only [Borrow.call_bind, Borrow.call_get, Borrow.call_attempt, hon, Result.mapError_error,
      FreezeError.ofAuthorityError]
  · have hwrite := LawfulCrates.slot_write_at_of_fits c.slot a.account.data.bytes o (by omega)
    have hlen : (Window.write a.account.data.bytes o c.slot.bytes).length = a.account.data.bytes.length :=
      Window.length_write _ _ _ (by rw [AuthoritySlot.length_bytes]; omega)
    have hadd : usizeAdd o AuthoritySlot.ENCODED_LEN = o + AuthoritySlot.ENCODED_LEN :=
      a.account.data.slice.usizeAdd_eq (Nat.not_lt.mp hslot)
    have hflag : ¬o + AuthoritySlot.ENCODED_LEN < a.account.data.bytes.length := by
      unfold AuthoritySlot.ENCODED_LEN
      omega
    simp only [Borrow.call_bind, Borrow.call_get, Borrow.call_attempt, Borrow.on_ok hwrite,
      Result.mapError_ok, hadd, hlen, if_neg hflag]

end FreezeConfig

namespace FrozenAccountState

/-! ## The marker -/

theorem encode_eq (s : FrozenAccountState) : s.encode = .ok s.bytes := by
  unfold encode
  rw [LawfulCrates.state_to_vec_eq]
  rfl

theorem from_data_or_default_eq_ok_iff (d : List UInt8) (s : FrozenAccountState) :
    from_data_or_default d = .ok s ↔ d = s.bytes ∨ d = [] ∧ s = .default := by
  unfold from_data_or_default
  by_cases hd : d.isEmpty = true
  · have hnil : d = [] := List.isEmpty_iff.mp hd
    simp [hnil, bytes, eq_comm]
  · have hnil : d ≠ [] := by simpa using hd
    have hiff := LawfulCrates.state_from_slice_iff d s
    rw [if_neg hd]
    unfold bytes
    rw [← hiff]
    cases Crates.state_from_slice d <;> simp [hnil]

omit [LawfulCrates] in
theorem from_data_or_default_eq_error {d : List UInt8} {e : FreezeError}
    (h : from_data_or_default d = .error e) : e = .DecodingFailed := by
  unfold from_data_or_default at h
  split at h
  · cases h
  · split at h <;> cases h
    rfl

/-- An empty marker reads as the byte 0. -/
theorem from_data_or_default_eq (d : List UInt8) : from_data_or_default d =
    if d = [] ∨ d = [0] then .ok ⟨false⟩ else if d = [1] then .ok ⟨true⟩ else .error .DecodingFailed := by
  by_cases hfalse : d = [] ∨ d = [0]
  · rw [if_pos hfalse, from_data_or_default_eq_ok_iff]
    exact hfalse.symm.imp id fun hempty => ⟨hempty, rfl⟩
  · rw [if_neg hfalse]
    by_cases htrue : d = [1]
    · rw [if_pos htrue, from_data_or_default_eq_ok_iff]
      exact Or.inl htrue
    · rw [if_neg htrue]
      cases hd : from_data_or_default d with
      | error e => rw [from_data_or_default_eq_error hd]
      | ok s =>
        obtain ⟨b⟩ := s
        rcases (from_data_or_default_eq_ok_iff d _).mp hd with hbytes | ⟨hempty, -⟩
        · cases b
          · exact absurd (Or.inr hbytes) hfalse
          · exact absurd hbytes htrue
        · exact absurd (Or.inl hempty) hfalse

theorem write_to_call (s : FrozenAccountState) (a : AccountWithMetadata) (h : 1 ≤ Lez.dataMaxLength) :
    s.write_to.call a = (.ok (), a.withMarker s) := by
  have hfits : s.bytes.length ≤ Lez.dataMaxLength := h
  unfold write_to AccountWithMetadata.withMarker
  rw [encode_eq, Data.try_from, dif_pos hfits]
  exact FreezeConfig.assignData_call ⟨s.bytes, hfits⟩ a

end FrozenAccountState

end FreezeAuthority
