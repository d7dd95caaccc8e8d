import FreezeAuthority.Spec.Reference

/-!
# Windows in account data

`write_to_at` and `decode_at` are a lens on the window of the config. A write beside the window is
not seen through it.
-/

namespace FreezeAuthority

/-- A write of a config is confined to its window. -/
theorem FreezeConfig.confined (o : Nat) (c : FreezeConfig) :
    Window.Confined (Window.write · o c.bytes) o SIZE := by
  have hconfined := Window.Confined.write o c.bytes
  rwa [length_bytes] at hconfined

variable [Lez]

/-! ## Changes of account data -/

theorem Data.bytes_edit_of_confined {d : Data} {f : List UInt8 → List UInt8} {o n : Nat}
    (hf : Window.Confined f o n) (h : o + n ≤ d.bytes.length) : (d.edit f).bytes = f d.bytes :=
  d.bytes_edit f (hf.length d.bytes h)

theorem Data.edit_comm {d : Data} {f g : List UInt8 → List UInt8} {o n o' n' : Nat}
    (hf : Window.Confined f o n) (hg : Window.Confined g o' n') (h : o + n ≤ d.bytes.length)
    (h' : o' + n' ≤ d.bytes.length) (hd : Window.Disjoint o n o' n') :
    (d.edit f).edit g = (d.edit g).edit f := by
  have hfd := bytes_edit_of_confined hf h
  have hgd := bytes_edit_of_confined hg h'
  have hfits : o' + n' ≤ (d.edit f).bytes.length := by
    rw [hfd, hf.length d.bytes h]
    exact h'
  have hfits' : o + n ≤ (d.edit g).bytes.length := by
    rw [hgd, hg.length d.bytes h']
    exact h
  have hfg : ((d.edit f).edit g).bytes = g (f d.bytes) := by rw [bytes_edit_of_confined hg hfits, hfd]
  have hgf : ((d.edit g).edit f).bytes = f (g d.bytes) := by rw [bytes_edit_of_confined hf hfits', hgd]
  apply Data.ext
  rw [hfg, hgf]
  exact (hf.comm hg h h' hd).symm

def AccountWithMetadata.edit (a : AccountWithMetadata) (f : List UInt8 → List UInt8) : AccountWithMetadata :=
  a.withData (a.account.data.edit f)

theorem AccountWithMetadata.bytes_edit {a : AccountWithMetadata} {f : List UInt8 → List UInt8} {o n : Nat}
    (hf : Window.Confined f o n) (h : o + n ≤ a.account.data.bytes.length) :
    (a.edit f).account.data.bytes = f a.account.data.bytes := Data.bytes_edit_of_confined hf h

theorem AccountWithMetadata.length_edit {a : AccountWithMetadata} {f : List UInt8 → List UInt8} {o n : Nat}
    (hf : Window.Confined f o n) (h : o + n ≤ a.account.data.bytes.length) :
    (a.edit f).account.data.bytes.length = a.account.data.bytes.length := by
  rw [bytes_edit hf h, hf.length _ h]

theorem AccountWithMetadata.withConfig_eq_edit (a : AccountWithMetadata) (o : Nat) (c : FreezeConfig) :
    a.withConfig o c = a.edit (Window.write · o c.bytes) := rfl

theorem AccountWithMetadata.edit_comm {a : AccountWithMetadata} {f g : List UInt8 → List UInt8}
    {o n o' n' : Nat} (hf : Window.Confined f o n) (hg : Window.Confined g o' n')
    (h : o + n ≤ a.account.data.bytes.length) (h' : o' + n' ≤ a.account.data.bytes.length)
    (hd : Window.Disjoint o n o' n') : (a.edit f).edit g = (a.edit g).edit f := by
  show a.withData ((a.account.data.edit f).edit g) = a.withData ((a.account.data.edit g).edit f)
  rw [Data.edit_comm hf hg h h' hd]

/-! ## The lens -/

theorem AccountWithMetadata.length_withConfig (a : AccountWithMetadata) (o : Nat) (c : FreezeConfig)
    (h : o + FreezeConfig.SIZE ≤ a.account.data.bytes.length) :
    (a.withConfig o c).account.data.bytes.length = a.account.data.bytes.length := by
  rw [a.withConfig_bytes o c h]
  exact Window.length_write _ _ _ (by simpa using h)

theorem AccountWithMetadata.withConfig_withConfig (a : AccountWithMetadata) (o : Nat) (c c' : FreezeConfig)
    (h : o + FreezeConfig.SIZE ≤ a.account.data.bytes.length) :
    (a.withConfig o c).withConfig o c' = a.withConfig o c' := by
  have hdata : (a.withConfig o c).account.data.splice o c'.bytes = a.account.data.splice o c'.bytes := by
    have hlen := a.length_withConfig o c h
    apply Data.ext
    rw [Data.bytes_splice _ _ _ (by rw [hlen]; simpa using h), Data.bytes_splice _ _ _ (by simpa using h),
      a.withConfig_bytes o c h]
    exact Window.write_write _ _ _ _ (by simpa using h) (by simp)
  show a.withData _ = a.withData _
  rw [hdata]

variable [Crates] [LawfulCrates]

theorem AccountWithMetadata.withConfig_of_decode {a : AccountWithMetadata} {o : Nat} {c : FreezeConfig}
    (h : FreezeConfig.decode_at a.account.data.bytes o = .ok c) : a.withConfig o c = a := by
  obtain ⟨hfits, hread⟩ := (FreezeConfig.decode_at_eq_ok_iff _ _ _).mp h
  have hdata : a.account.data.splice o c.bytes = a.account.data := by
    apply Data.ext
    rw [Data.bytes_splice _ _ _ (by simpa using hfits), ← hread]
    exact Window.write_read _ _ _ hfits
  show a.withData _ = a
  rw [hdata]
  rfl

namespace FreezeConfig

theorem write_to_at_on_of_fits (c : FreezeConfig) {o : Nat} {a : AccountWithMetadata}
    (h : o + SIZE ≤ a.account.data.bytes.length) : (c.write_to_at o).on a = .ok (a.withConfig o c) :=
  Borrow.on_ok (write_to_at_call c o a h)

theorem write_to_at_on_of_short (c : FreezeConfig) {o : Nat} {a : AccountWithMetadata}
    (h : a.account.data.bytes.length < o + SIZE) : (c.write_to_at o).on a = .error .SlotOutOfBounds := by
  rw [Borrow.on, write_to_at_call_of_short c o a h]

theorem write_to_at_on_eq_ok_iff (c : FreezeConfig) (o : Nat) (a a' : AccountWithMetadata) :
    (c.write_to_at o).on a = .ok a' ↔ o + SIZE ≤ a.account.data.bytes.length ∧ a' = a.withConfig o c := by
  rcases Nat.lt_or_ge a.account.data.bytes.length (o + SIZE) with h | h
  · simp [write_to_at_on_of_short c h, Nat.not_le.mpr h]
  · simp [write_to_at_on_of_fits c h, h, eq_comm]

/-- A change confined to other bytes is not seen through the window. -/
theorem decode_at_edit {a : AccountWithMetadata} {f : List UInt8 → List UInt8} {o p n : Nat}
    (hf : Window.Confined f p n) (hp : p + n ≤ a.account.data.bytes.length)
    (hd : Window.Disjoint o SIZE p n) :
    decode_at (a.edit f).account.data.bytes o = decode_at a.account.data.bytes o := by
  have hlen := AccountWithMetadata.length_edit hf hp
  rcases Nat.lt_or_ge a.account.data.bytes.length (o + SIZE) with h | h
  · have hshort : decode_at (a.edit f).account.data.bytes o = _ :=
      decode_at_of_short_congr a.account.data.slice (a.edit f).account.data.slice hlen h
    exact hshort
  · apply decode_at_congr
    · rw [hlen]
      exact h
    · exact h
    · rw [AccountWithMetadata.bytes_edit hf hp]
      exact hf.read_disjoint hp hd.symm

/-- A change confined to other bytes can come before the write or after it. -/
theorem write_to_at_edit (c : FreezeConfig) {a : AccountWithMetadata} {f : List UInt8 → List UInt8}
    {o p n : Nat} (hf : Window.Confined f p n) (hp : p + n ≤ a.account.data.bytes.length)
    (hd : Window.Disjoint o SIZE p n) :
    (c.write_to_at o).on (a.edit f) = do
      let a' ← (c.write_to_at o).on a
      return a'.edit f := by
  have hlen := AccountWithMetadata.length_edit hf hp
  rcases Nat.lt_or_ge a.account.data.bytes.length (o + SIZE) with h | h
  · rw [c.write_to_at_on_of_short h, c.write_to_at_on_of_short (by rw [hlen]; exact h)]
    rfl
  · rw [c.write_to_at_on_of_fits h, c.write_to_at_on_of_fits (by rw [hlen]; exact h), Result.ok_bind,
      Result.pure_eq]
    simp only [AccountWithMetadata.withConfig_eq_edit]
    rw [AccountWithMetadata.edit_comm hf (FreezeConfig.confined o c) hp h hd.symm]

/-- Two writes into disjoint windows come out the same in either order, accepted or refused. -/
theorem write_to_at_comm (c c' : FreezeConfig) {o o' : Nat} (hd : Window.Disjoint o SIZE o' SIZE)
    (a : AccountWithMetadata) :
    (do let a₁ ← (c.write_to_at o).on a
        (c'.write_to_at o').on a₁) =
      (do let a₁ ← (c'.write_to_at o').on a
          (c.write_to_at o).on a₁) := by
  rcases Nat.lt_or_ge a.account.data.bytes.length (o' + SIZE) with h' | h'
  · rw [c'.write_to_at_on_of_short h', Result.error_bind]
    rcases Nat.lt_or_ge a.account.data.bytes.length (o + SIZE) with h | h
    · rw [c.write_to_at_on_of_short h]
      rfl
    · have hlen := a.length_withConfig o c h
      rw [c.write_to_at_on_of_fits h, Result.ok_bind, c'.write_to_at_on_of_short (by rw [hlen]; exact h')]
  · rw [c'.write_to_at_on_of_fits h', Result.ok_bind, a.withConfig_eq_edit,
      c.write_to_at_edit (FreezeConfig.confined o' c') h' hd]
    rcases Nat.lt_or_ge a.account.data.bytes.length (o + SIZE) with h | h
    · rw [c.write_to_at_on_of_short h]
      rfl
    · have hlen := a.length_withConfig o c h
      rw [c.write_to_at_on_of_fits h, Result.ok_bind, Result.ok_bind,
        c'.write_to_at_on_of_fits (by rw [hlen]; exact h')]
      rfl

end FreezeConfig

/-- `write_to_at` succeeds where the window fits. It and `decode_at` are a lens, and a change confined to
other bytes commutes with the write and is not seen by the read, in both directions. -/
theorem window_is_a_lens (a : AccountWithMetadata) (o : Nat) (c c' : FreezeConfig) :
    ((∃ a', (c.write_to_at o).on a = .ok a') ↔ o + FreezeConfig.SIZE ≤ a.account.data.bytes.length) ∧
    (∀ a', (c.write_to_at o).on a = .ok a' →
      FreezeConfig.decode_at a'.account.data.bytes o = .ok c ∧
      a'.account.data.bytes.length = a.account.data.bytes.length ∧
      (∀ j, j < o ∨ o + FreezeConfig.SIZE ≤ j → a'.account.data.bytes[j]? = a.account.data.bytes[j]?) ∧
      a' = a.withData a'.account.data ∧
      (c'.write_to_at o).on a' = (c'.write_to_at o).on a) ∧
    (FreezeConfig.decode_at a.account.data.bytes o = .ok c → (c.write_to_at o).on a = .ok a) ∧
    (∀ o', Window.Disjoint o FreezeConfig.SIZE o' FreezeConfig.SIZE →
      (do let a₁ ← (c.write_to_at o).on a
          (c'.write_to_at o').on a₁) =
        (do let a₁ ← (c'.write_to_at o').on a
            (c.write_to_at o).on a₁) ∧
      ∀ a', (c.write_to_at o).on a = .ok a' →
        FreezeConfig.decode_at a'.account.data.bytes o' = FreezeConfig.decode_at a.account.data.bytes o') ∧
    ∀ f p n, Window.Confined f p n → p + n ≤ a.account.data.bytes.length →
      Window.Disjoint o FreezeConfig.SIZE p n →
      (c.write_to_at o).on (a.edit f) = (do let a' ← (c.write_to_at o).on a; return a'.edit f) ∧
      FreezeConfig.decode_at (a.edit f).account.data.bytes o = FreezeConfig.decode_at a.account.data.bytes o ∧
      ∀ a', (c.write_to_at o).on a = .ok a' →
        Window.read a'.account.data.bytes p n = Window.read a.account.data.bytes p n := by
  refine ⟨?_, ?_, ?_, ?_, ?_⟩
  · simp [FreezeConfig.write_to_at_on_eq_ok_iff]
  · intro a' h
    obtain ⟨hfits, rfl⟩ := (c.write_to_at_on_eq_ok_iff o a a').mp h
    have hlen := a.length_withConfig o c hfits
    refine ⟨FreezeConfig.from_account_at_withConfig a o c hfits, hlen, ?_, rfl, ?_⟩
    · intro j hj
      rw [a.withConfig_bytes o c hfits]
      exact (FreezeConfig.confined o c).outside _ j hfits hj
    · rw [c'.write_to_at_on_of_fits hfits, c'.write_to_at_on_of_fits (by rw [hlen]; exact hfits),
        a.withConfig_withConfig o c c' hfits]
  · intro h
    have hfits := ((FreezeConfig.decode_at_eq_ok_iff _ _ _).mp h).1
    rw [c.write_to_at_on_of_fits hfits, AccountWithMetadata.withConfig_of_decode h]
  · intro o' hd
    refine ⟨FreezeConfig.write_to_at_comm c c' hd a, ?_⟩
    intro a' h
    obtain ⟨hfits, rfl⟩ := (c.write_to_at_on_eq_ok_iff o a a').mp h
    rw [a.withConfig_eq_edit]
    exact FreezeConfig.decode_at_edit (FreezeConfig.confined o c) hfits hd.symm
  · intro f p n hf hp hd
    refine ⟨c.write_to_at_edit hf hp hd, FreezeConfig.decode_at_edit hf hp hd, ?_⟩
    intro a' h
    obtain ⟨hfits, rfl⟩ := (c.write_to_at_on_eq_ok_iff o a a').mp h
    rw [a.withConfig_bytes o c hfits]
    exact (FreezeConfig.confined o c).read_disjoint hfits hd

end FreezeAuthority

namespace FreezeAuthority.Reference

/-- The write of a new admin beside the config. -/
def new_admin : List UInt8 → List UInt8 := (Window.write · 0 (AuthoritySlot.bytes ⟨key 3, .default⟩))

def frozen_by_two : FreezeConfig := ⟨⟨key 2, .default⟩, true⟩

theorem window_beside_the_admin :
    (frozen_by_two.write_to_at AuthoritySlot.ENCODED_LEN).on (shared.edit new_admin) = do
      let a ← (frozen_by_two.write_to_at AuthoritySlot.ENCODED_LEN).on shared
      return a.edit new_admin := by
  have hadmin : Window.Confined new_admin 0 AuthoritySlot.ENCODED_LEN :=
    Window.Confined.write 0 (AuthoritySlot.bytes ⟨key 3, .default⟩)
  have hfits : 0 + AuthoritySlot.ENCODED_LEN ≤ shared.account.data.bytes.length := by
    rw [length_shared]
    decide
  have hlens := window_is_a_lens shared AuthoritySlot.ENCODED_LEN frozen_by_two frozen_by_two
  exact (hlens.2.2.2.2 new_admin 0 AuthoritySlot.ENCODED_LEN hadmin hfits (Or.inl (by omega))).1

end FreezeAuthority.Reference
