import FreezeAuthority.Spec.Reference

/-!
# One format

`decode` reads a whole slice with the derived codec, `decode_at` a window with a reader of its own.
They accept the same 65 bytes, the ones `encode` writes.
-/

namespace FreezeAuthority

variable [Lez] [Crates]

namespace FreezeConfig

theorem from_account_of_owned {a : AccountWithMetadata} {p : ProgramId} {c : FreezeConfig}
    (h : from_owned_account a p = .ok c) : from_account a = .ok c := by
  unfold from_owned_account at h
  split at h
  · cases h
  · exact h

theorem from_account_at_of_owned {a : AccountWithMetadata} {o : Nat} {p : ProgramId} {c : FreezeConfig}
    (h : from_owned_account_at a o p = .ok c) : from_account_at a o = .ok c := by
  unfold from_owned_account_at at h
  split at h
  · cases h
  · exact h

end FreezeConfig

variable [LawfulCrates]

namespace FreezeConfig

theorem encode_eq_ok_iff (c : FreezeConfig) (d : List UInt8) : c.encode = .ok d ↔ d = c.bytes := by
  rw [encode_eq, Except.ok.injEq]
  exact eq_comm

theorem decode_eq_ok_iff_encode (d : List UInt8) (c : FreezeConfig) :
    decode d = .ok c ↔ c.encode = .ok d := by
  rw [decode_eq_ok_iff, encode_eq_ok_iff]

theorem decode_at_eq_ok_iff_encode (d : Slice) (o : Nat) (c : FreezeConfig) :
    decode_at d.bytes o = .ok c ↔
      o + SIZE ≤ d.bytes.length ∧ c.encode = .ok (Window.read d.bytes o SIZE) := by
  rw [decode_at_slice_eq_ok_iff, encode_eq_ok_iff]
  rfl

/-- The strict decoder is the window at 0 of a slice with nothing after it. -/
theorem decode_eq_ok_iff_decode_at (d : Slice) (c : FreezeConfig) :
    decode d.bytes = .ok c ↔ d.bytes.length = SIZE ∧ decode_at d.bytes 0 = .ok c := by
  rw [decode_eq_ok_iff, decode_at_slice_eq_ok_iff]
  unfold At
  constructor
  · intro h
    have hlen : d.bytes.length = SIZE := by rw [h, length_bytes]
    refine ⟨hlen, by omega, ?_⟩
    rw [← hlen, Window.read_all]
    exact h
  · rintro ⟨hlen, -, hread⟩
    rw [← hlen, Window.read_all] at hread
    exact hread

theorem decode_at_of_short_eq_error_iff (d : Slice) (o : Nat) (h : d.bytes.length < o + SIZE) (e : FreezeError) :
    decode_at d.bytes o = .error e ↔
      d.bytes = [] ∧ e = .NotInitialized ∨ d.bytes ≠ [] ∧ e = .SlotOutOfBounds := by
  rw [decode_at_of_short d o h, Except.error.injEq]
  by_cases hd : d.bytes = []
  · simp [hd, @eq_comm _ e]
  · simp [hd, @eq_comm _ e]

theorem decode_at_of_fits_eq_error_iff (d : Slice) (o : Nat) (h : o + SIZE ≤ d.bytes.length) (e : FreezeError) :
    decode_at d.bytes o = .error e ↔
      (∃ b, d.bytes[o + AuthoritySlot.ENCODED_LEN]? = some b ∧ 1 < b) ∧ e = .DecodingFailed := by
  obtain ⟨s, b, hs, hb, -⟩ := exists_slot_of_fits d.bytes o h
  have hflag : (∃ b', d.bytes[o + AuthoritySlot.ENCODED_LEN]? = some b' ∧ 1 < b') ↔ 1 < b := by
    simp [hb]
  rw [decode_at_of_fits d o s b h hs hb, hflag]
  by_cases h0 : b = 0
  · simp [h0]
  · by_cases h1 : b = 1
    · simp [h1]
    · have hlt : 1 < b := by
        rw [UInt8.lt_iff_toNat_lt]
        have h0' : b.toNat ≠ 0 := fun h => h0 (UInt8.toNat_inj.mp h)
        have h1' : b.toNat ≠ 1 := fun h => h1 (UInt8.toNat_inj.mp h)
        show 1 < b.toNat
        omega
      simp [h0, h1, hlt, eq_comm]

theorem decode_at_eq_error_iff (d : Slice) (o : Nat) (e : FreezeError) :
    decode_at d.bytes o = .error e ↔
      d.bytes = [] ∧ e = .NotInitialized ∨
      d.bytes ≠ [] ∧ d.bytes.length < o + SIZE ∧ e = .SlotOutOfBounds ∨
      o + SIZE ≤ d.bytes.length ∧ (∃ b, d.bytes[o + AuthoritySlot.ENCODED_LEN]? = some b ∧ 1 < b) ∧
        e = .DecodingFailed := by
  rcases Nat.lt_or_ge d.bytes.length (o + SIZE) with h | h
  · rw [decode_at_of_short_eq_error_iff d o h]
    simp [h, Nat.not_le.mpr h]
  · have hne : d.bytes ≠ [] := by
      intro hd
      rw [hd] at h
      simp [SIZE] at h
    rw [decode_at_of_fits_eq_error_iff d o h]
    simp [h, hne, Nat.not_lt.mpr h]

/-- `decode_at` adds to the offset only after `read_at` returned, and then the sum is exact. -/
theorem usizeAdd_of_read_at {d : Slice} {o : Nat} {s : AuthoritySlot}
    (h : Crates.slot_read_at d.bytes o = .ok s) :
    o + AuthoritySlot.ENCODED_LEN ≤ d.bytes.length ∧
      usizeAdd o AuthoritySlot.ENCODED_LEN = o + AuthoritySlot.ENCODED_LEN := by
  have hfits : o + AuthoritySlot.ENCODED_LEN ≤ d.bytes.length := by
    by_contra hshort
    rw [LawfulCrates.slot_read_at_of_short d.bytes o (by omega)] at h
    cases h
  exact ⟨hfits, d.usizeAdd_eq hfits⟩

theorem from_account_at_of_from_account {a : AccountWithMetadata} {c : FreezeConfig}
    (h : from_account a = .ok c) : from_account_at a 0 = .ok c :=
  ((decode_eq_ok_iff_decode_at a.account.data.slice c).mp h).2

end FreezeConfig

/-- What a strict reader makes of an account, a windowed one at 0 makes of it too. -/
theorem FreezeConfig.readers_agree {a : AccountWithMetadata} {p : ProgramId} {c : FreezeConfig}
    (h : from_account a = .ok c ∨ from_owned_account a p = .ok c) :
    from_account_at a 0 = .ok c ∧
    (∀ c', from_account_at a 0 = .ok c' ∨ from_owned_account_at a 0 p = .ok c' → c' = c) ∧
    (∀ marker, gate a marker 0 = do
      if c.is_frozen then throw FreezeError.Frozen.toSpelError
      let acc ← fromFreeze (FrozenAccountState.from_data_or_default marker.account.data.bytes)
      if acc.is_frozen then throw FreezeError.AccountFrozen.toSpelError) ∧
    ∀ m : Borrow FreezeConfig FreezeError Unit, (perform_at 0 m).on a = do
      let c' ← m.on c
      return a.withConfig 0 c' := by
  have hstrict : from_account a = .ok c := h.elim id from_account_of_owned
  have hwindow := from_account_at_of_from_account hstrict
  refine ⟨hwindow, ?_, ?_, ?_⟩
  · intro c' h'
    have hwindow' : from_account_at a 0 = .ok c' := h'.elim id from_account_at_of_owned
    rw [hwindow] at hwindow'
    cases hwindow'
    rfl
  · intro marker
    unfold gate
    rw [hwindow]
    rfl
  · intro m
    rw [perform_at_on, hwindow]
    rfl

/-- `encode`, `decode` and `decode_at` have one format of 65 bytes. `decode_at` refuses anything else by
name, and its sum never overflows. -/
theorem one_format (d : Slice) (o : Nat) (c : FreezeConfig) :
    (∃ bytes, c.encode = .ok bytes ∧ bytes.length = FreezeConfig.SIZE) ∧
    (FreezeConfig.decode d.bytes = .ok c ↔ c.encode = .ok d.bytes) ∧
    (FreezeConfig.decode_at d.bytes o = .ok c ↔
      o + FreezeConfig.SIZE ≤ d.bytes.length ∧ c.encode = .ok (Window.read d.bytes o FreezeConfig.SIZE)) ∧
    (FreezeConfig.decode d.bytes = .ok c ↔
      d.bytes.length = FreezeConfig.SIZE ∧ FreezeConfig.decode_at d.bytes 0 = .ok c) ∧
    (∀ e, FreezeConfig.decode_at d.bytes o = .error e ↔
      d.bytes = [] ∧ e = .NotInitialized ∨
      d.bytes ≠ [] ∧ d.bytes.length < o + FreezeConfig.SIZE ∧ e = .SlotOutOfBounds ∨
      o + FreezeConfig.SIZE ≤ d.bytes.length ∧
        (∃ b, d.bytes[o + AuthoritySlot.ENCODED_LEN]? = some b ∧ 1 < b) ∧ e = .DecodingFailed) ∧
    (∀ slot, Crates.slot_read_at d.bytes o = .ok slot →
      o + AuthoritySlot.ENCODED_LEN ≤ d.bytes.length ∧
      usizeAdd o AuthoritySlot.ENCODED_LEN = o + AuthoritySlot.ENCODED_LEN) ∧
    ∀ a p, FreezeConfig.from_account a = .ok c ∨ FreezeConfig.from_owned_account a p = .ok c →
      FreezeConfig.from_account_at a 0 = .ok c ∧
      (∀ c', FreezeConfig.from_account_at a 0 = .ok c' ∨ FreezeConfig.from_owned_account_at a 0 p = .ok c' →
        c' = c) ∧
      (∀ marker, gate a marker 0 = do
        if c.is_frozen then throw FreezeError.Frozen.toSpelError
        let acc ← fromFreeze (FrozenAccountState.from_data_or_default marker.account.data.bytes)
        if acc.is_frozen then throw FreezeError.AccountFrozen.toSpelError) ∧
      ∀ m : Borrow FreezeConfig FreezeError Unit, (FreezeConfig.perform_at 0 m).on a = do
        let c' ← m.on c
        return a.withConfig 0 c' := by
  refine ⟨⟨c.bytes, c.encode_eq, c.length_bytes⟩, ?_, ?_, ?_, ?_, ?_, ?_⟩
  · exact FreezeConfig.decode_eq_ok_iff_encode d.bytes c
  · exact FreezeConfig.decode_at_eq_ok_iff_encode d o c
  · exact FreezeConfig.decode_eq_ok_iff_decode_at d c
  · exact FreezeConfig.decode_at_eq_error_iff d o
  · intro slot hread
    exact FreezeConfig.usizeAdd_of_read_at hread
  · intro a p h
    exact FreezeConfig.readers_agree h

end FreezeAuthority

namespace FreezeAuthority.Reference

set_option maxRecDepth 8000 in
theorem one_format_of_initialized :
    FreezeConfig.decode initialized.freeze_config.account.data.bytes = .ok ⟨⟨key 1, .default⟩, false⟩ := by
  have hformat := one_format initialized.freeze_config.account.data.slice 0 ⟨⟨key 1, .default⟩, false⟩
  exact hformat.2.2.2.1.mpr ⟨rfl, rfl⟩

end FreezeAuthority.Reference
