import FreezeAuthority.Properties.Windows

/-!
# Where a config is written

`write_to` and `bootstrap` write the whole data, the `_at` functions a window of it. A bootstrap and a
transfer install a holder, and differ in what they ask of the window and in the flag they leave. The probe
tells a layout which window that is.
-/

namespace FreezeAuthority

variable [Lez] [Crates] [LawfulCrates]

namespace FreezeConfig

/-! ## Whole data and a window -/

theorem write_to_on_of_fits (c : FreezeConfig) (a : AccountWithMetadata) (h : SIZE ≤ Lez.dataMaxLength) :
    ∃ d : Data, d.bytes = c.bytes ∧ c.write_to.on a = .ok (a.withData d) := by
  refine ⟨⟨c.bytes, by rw [length_bytes]; exact h⟩, rfl, ?_⟩
  unfold write_to
  rw [encode_eq, Borrow.on_attempt_bind, Result.ok_bind, assignData_on_eq_ok_iff]
  exact ⟨_, rfl, rfl⟩

theorem write_to_on_ne_slotOutOfBounds (c : FreezeConfig) (a : AccountWithMetadata) :
    c.write_to.on a ≠ .error .SlotOutOfBounds := by
  unfold write_to assignData
  rw [encode_eq, Borrow.on_attempt_bind, Result.ok_bind, Borrow.on_attempt_bind]
  cases Data.try_from c.bytes with
  | none => rintro ⟨⟩
  | some d => rintro ⟨⟩

/-- On an account that holds a config and nothing else the two writes are one. On any other they differ,
in what they answer or in the bytes behind the window. -/
theorem write_to_eq_write_to_at_iff (c : FreezeConfig) (a : AccountWithMetadata) :
    c.write_to.on a = (c.write_to_at 0).on a ↔ a.account.data.bytes.length = SIZE := by
  rcases Nat.lt_or_ge a.account.data.bytes.length SIZE with hshort | hfits
  · rw [c.write_to_at_on_of_short (by rwa [Nat.zero_add])]
    constructor
    · intro h
      exact absurd h (c.write_to_on_ne_slotOutOfBounds a)
    · intro h
      omega
  · obtain ⟨d, hd, hwrite⟩ := c.write_to_on_of_fits a (Nat.le_trans hfits a.account.data.fits)
    have hwindow : 0 + SIZE ≤ a.account.data.bytes.length := by rwa [Nat.zero_add]
    have hbytes := a.withConfig_bytes 0 c hwindow
    have hlen := a.length_withConfig 0 c hwindow
    rw [hwrite, c.write_to_at_on_of_fits hwindow, Except.ok.injEq]
    constructor
    · intro h
      rw [← h] at hlen
      rw [← hlen, ← c.length_bytes, ← hd]
      rfl
    · intro h
      rw [Window.write_all _ _ (by rw [c.length_bytes, h])] at hbytes
      have hdata : d = a.account.data.splice 0 c.bytes := Data.ext (hd.trans hbytes.symm)
      rw [hdata]
      rfl

/-! ## Installing a holder -/

/-- The config that a valid candidate starts with. -/
def installed (candidate : FreezeCandidate) (n : AccountWithMetadata) : Except FreezeError FreezeConfig := do
  let resolved ← fromAuthority (Crates.validate candidate n)
  initialize_config resolved

omit [LawfulCrates] in
theorem bootstrap_on_eq (candidate : FreezeCandidate) (n a : AccountWithMetadata) :
    (bootstrap candidate n).on a = (do let c ← installed candidate n; c.write_to.on a) := by
  unfold bootstrap installed
  simp only [Borrow.on_attempt_bind, bind_assoc]

omit [LawfulCrates] in
theorem bootstrap_at_on_eq (o : Nat) (candidate : FreezeCandidate) (n a : AccountWithMetadata) :
    (bootstrap_at o candidate n).on a = (do let c ← installed candidate n; (c.write_to_at o).on a) := by
  unfold bootstrap_at installed
  simp only [Borrow.on_attempt_bind, bind_assoc]

theorem transfer_on_eq (candidate : FreezeCandidate) (n : AccountWithMetadata) (c : FreezeConfig) :
    (transfer candidate n).on c = do
      let c' ← installed candidate n
      return { c' with is_frozen := c.is_frozen } := by
  rw [transfer_on]
  unfold installed initialize_config
  cases Crates.validate candidate n with
  | error e => rfl
  | ok id =>
    simp only [fromAuthority, Result.mapError_ok, Result.ok_bind, LawfulCrates.slot_initialize_eq]
    split <;> rfl

/-- A window that fits is refused for its flag alone. -/
theorem fits_of_decodingFailed {a : AccountWithMetadata} {o : Nat}
    (h : from_account_at a o = .error .DecodingFailed) : o + SIZE ≤ a.account.data.bytes.length := by
  by_contra hshort
  have hdecode : from_account_at a o = _ := decode_at_of_short a.account.data.slice o (Nat.not_le.mp hshort)
  rw [hdecode] at h
  split at h <;> cases h

theorem short_of_error {a : AccountWithMetadata} {o : Nat} {e : FreezeError}
    (h : from_account_at a o = .error e) (he : e ≠ .DecodingFailed) :
    a.account.data.bytes.length < o + SIZE := by
  by_contra hfits
  obtain ⟨s, b, hs, hb, -⟩ := exists_slot_of_fits a.account.data.bytes o (Nat.not_lt.mp hfits)
  have hdecode : from_account_at a o = _ :=
    decode_at_of_fits a.account.data.slice o s b (Nat.not_lt.mp hfits) hs hb
  rw [hdecode] at h
  split at h
  · cases h
  · split at h
    · cases h
    · cases h
      exact he rfl

theorem perform_transfer_at_of_config {a : AccountWithMetadata} {o : Nat} {c : FreezeConfig}
    (h : from_account_at a o = .ok c) (candidate : FreezeCandidate) (n : AccountWithMetadata) :
    (perform_transfer_at o candidate n).on a = (do
      let b ← (bootstrap_at o candidate n).on a
      let fresh ← from_account_at b o
      (({ fresh with is_frozen := c.is_frozen } : FreezeConfig).write_to_at o).on b) := by
  have hfits := ((decode_at_eq_ok_iff _ _ _).mp h).1
  unfold perform_transfer_at
  rw [perform_at_on, h, Result.ok_bind, transfer_on_eq, bootstrap_at_on_eq]
  cases installed candidate n with
  | error e => rfl
  | ok fresh =>
    have hlen := a.length_withConfig o fresh hfits
    simp only [Result.ok_bind, Result.pure_eq, fresh.write_to_at_on_of_fits hfits,
      from_account_at_withConfig a o fresh hfits]
    rw [write_to_at_on_of_fits _ (by rw [hlen]; exact hfits), a.withConfig_withConfig o fresh _ hfits]

end FreezeConfig

open FreezeConfig

/-- The writers of the whole data agree with those of the window at 0 exactly on an account of 65 bytes.
A bootstrap of a candidate that does not validate is refused alike on any account. -/
theorem whole_writers_agree_iff (a : AccountWithMetadata) :
    (∀ c : FreezeConfig, c.write_to.on a = (c.write_to_at 0).on a ↔ a.account.data.bytes.length = SIZE) ∧
    ∀ candidate n, (bootstrap candidate n).on a = (bootstrap_at 0 candidate n).on a ↔
      a.account.data.bytes.length = SIZE ∨ ∃ e, installed candidate n = .error e := by
  refine ⟨fun c => c.write_to_eq_write_to_at_iff a, ?_⟩
  intro candidate n
  rw [bootstrap_on_eq, bootstrap_at_on_eq]
  cases installed candidate n with
  | error e => simp
  | ok c => simp [c.write_to_eq_write_to_at_iff a]

/-- A transfer is a bootstrap that keeps the flag, with the same errors. Where the flag cannot be read the
transfer is refused and a bootstrap of a valid candidate makes the window readable. Where the window does
not fit, both are refused. -/
theorem transfer_is_bootstrap_with_the_flag (a n : AccountWithMetadata) (o : Nat) (candidate : FreezeCandidate) :
    (∀ c, from_account_at a o = .ok c → (perform_transfer_at o candidate n).on a = (do
      let b ← (bootstrap_at o candidate n).on a
      let fresh ← from_account_at b o
      (({ fresh with is_frozen := c.is_frozen } : FreezeConfig).write_to_at o).on b)) ∧
    (from_account_at a o = .error .DecodingFailed →
      (perform_transfer_at o candidate n).on a = .error .DecodingFailed ∧
      ∀ fresh, installed candidate n = .ok fresh →
        ∃ b, (bootstrap_at o candidate n).on a = .ok b ∧ from_account_at b o = .ok fresh) ∧
    ∀ e, from_account_at a o = .error e → e ≠ .DecodingFailed →
      (perform_transfer_at o candidate n).on a = .error e ∧
        ∀ b, (bootstrap_at o candidate n).on a ≠ .ok b := by
  have hrefused (e : FreezeError) (h : from_account_at a o = .error e) :
      (perform_transfer_at o candidate n).on a = .error e := by
    unfold perform_transfer_at
    rw [perform_at_on, h]
    rfl
  refine ⟨fun c h => perform_transfer_at_of_config h candidate n, ?_, ?_⟩
  · intro h
    have hfits := fits_of_decodingFailed h
    refine ⟨hrefused _ h, ?_⟩
    intro fresh hfresh
    refine ⟨a.withConfig o fresh, ?_, from_account_at_withConfig a o fresh hfits⟩
    rw [bootstrap_at_on_eq, hfresh]
    exact fresh.write_to_at_on_of_fits hfits
  · intro e h he
    have hshort := short_of_error h he
    refine ⟨hrefused e h, ?_⟩
    intro b hb
    rw [bootstrap_at_on_eq] at hb
    obtain ⟨fresh, -, hwrite⟩ := Result.bind_eq_ok.mp hb
    rw [fresh.write_to_at_on_of_short hshort] at hwrite
    cases hwrite

end FreezeAuthority

namespace FreezeAuthority.Reference

set_option maxRecDepth 8000 in
theorem whole_writer_drops_the_rest :
    frozen_by_two.write_to.on shared ≠ (frozen_by_two.write_to_at 0).on shared := by
  intro h
  have hlen := ((whole_writers_agree_iff shared).1 frozen_by_two).mp h
  rw [length_shared] at hlen
  cases hlen

/-- A config with a flag that is neither 0 nor 1. -/
def garbage_flag : AccountWithMetadata := account 101 (AuthoritySlot.bytes ⟨key 1, .default⟩ ++ [7])

set_option maxRecDepth 8000 in
theorem bootstrap_repairs_the_flag : ∃ b,
    (FreezeConfig.bootstrap_at 0 .Signer (signer 2)).on garbage_flag = .ok b ∧
      FreezeConfig.from_account_at b 0 = .ok ⟨⟨key 2, .default⟩, false⟩ :=
  ((transfer_is_bootstrap_with_the_flag garbage_flag (signer 2) 0 .Signer).2.1 rfl).2 _ rfl

end FreezeAuthority.Reference

namespace FreezeAuthority

variable [Lez] [Crates] [LawfulCrates]

namespace FreezeConfig

/-! ## The probe -/

/-- What the probe is, by its bytes. -/
def probed : FreezeConfig := ⟨⟨⟨.fill 32 0xA5⟩, ⟨.fill 32 0x5A⟩⟩, true⟩

theorem probe_eq : probe = .ok probed := by
  have hne : (⟨.fill 32 0xA5⟩ : AccountId) ≠ .default := by decide
  unfold probe initialize_config fromAuthority
  rw [LawfulCrates.slot_initialize_eq, if_neg hne]
  simp only [Result.mapError_ok, Result.ok_bind, Result.pure_eq, LawfulCrates.slot_nominate_eq]
  rfl

omit [Lez] [Crates] [LawfulCrates] in
theorem probed_bytes (i : Nat) (h : i < SIZE) :
    probed.bytes[i]? = some (if i < 32 then 0xA5 else if i < 64 then 0x5A else 1) := by
  revert i
  decide

omit [Lez] [Crates] [LawfulCrates] in
theorem probed_ne_zero {b : UInt8} (h : b ∈ probed.bytes) : b ≠ 0 := by
  obtain ⟨i, hi⟩ := List.mem_iff_getElem?.mp h
  have hlt : i < SIZE := by
    rw [← probed.length_bytes]
    exact (List.getElem?_eq_some_iff.mp hi).1
  rw [probed_bytes i hlt, Option.some.injEq] at hi
  rw [← hi]
  split
  · decide
  · split <;> decide

omit [Lez] [Crates] [LawfulCrates] in
theorem At.byte {d : List UInt8} {o i : Nat} (h : At d o probed) (hi : i < SIZE) :
    d[o + i]? = some (if i < 32 then 0xA5 else if i < 64 then 0x5A else 1) := by
  have hread := Window.getElem?_read d o SIZE i
  rw [if_pos hi, h.2, probed_bytes i hi] at hread
  exact hread.symm

omit [Lez] [Crates] [LawfulCrates] in
/-- The flag of the first window would be a slot byte of the second. A slot byte of the probe is not 1. -/
theorem probed_apart {d : List UInt8} {o o' : Nat} (h : At d o probed) (h' : At d o' probed) (hlt : o < o') :
    o + SIZE ≤ o' := by
  by_contra hoverlap
  unfold SIZE at hoverlap
  have hflag := h.byte (i := 64) (by decide)
  have hslot := h'.byte (i := o + 64 - o') (by unfold SIZE; omega)
  rw [show o' + (o + 64 - o') = o + 64 by omega, hflag] at hslot
  have hindex : o + 64 - o' < 64 := by omega
  by_cases hholder : o + 64 - o' < 32
  · simp [hholder] at hslot
  · simp [hholder, hindex] at hslot

end FreezeConfig

open FreezeConfig

/-- The probe locates a window. It is a config of the declared size without a zero byte. Two windows that
both read the probe are one or apart, and where every other byte is zero there is no second one. -/
theorem probe_locates_the_window : ∃ cfg w, probe = .ok cfg ∧ cfg.encode = .ok w ∧ w.length = SIZE ∧
    (∀ b ∈ w, b ≠ 0) ∧ ∀ (a : AccountWithMetadata) (o : Nat), from_account_at a o = .ok cfg →
      (∀ o', from_account_at a o' = .ok cfg → o' = o ∨ Window.Disjoint o SIZE o' SIZE) ∧
      ((∀ i b, i < o ∨ o + SIZE ≤ i → a.account.data.bytes[i]? = some b → b = 0) →
        ∀ o', from_account_at a o' = .ok cfg → o' = o) := by
  refine ⟨probed, probed.bytes, probe_eq, encode_eq _, length_bytes _, fun _ => probed_ne_zero, ?_⟩
  intro a o h
  have hat : At a.account.data.bytes o probed := (decode_at_eq_ok_iff _ _ _).mp h
  have hapart (o' : Nat) (h' : from_account_at a o' = .ok probed) : o' = o ∨ Window.Disjoint o SIZE o' SIZE := by
    have hat' : At a.account.data.bytes o' probed := (decode_at_eq_ok_iff _ _ _).mp h'
    rcases Nat.lt_trichotomy o o' with hlt | heq | hgt
    · exact Or.inr (Or.inr (probed_apart hat hat' hlt))
    · exact Or.inl heq.symm
    · exact Or.inr (Or.inl (probed_apart hat' hat hgt))
  refine ⟨hapart, ?_⟩
  intro hzero o' h'
  have hat' : At a.account.data.bytes o' probed := (decode_at_eq_ok_iff _ _ _).mp h'
  rcases hapart o' h' with heq | hdisjoint
  · exact heq
  · have hfirst := hat'.byte (i := 0) (by decide)
    have hb := hzero (o' + 0) _ (by unfold Window.Disjoint SIZE at hdisjoint; unfold SIZE; omega) hfirst
    cases hb

end FreezeAuthority

namespace FreezeAuthority.Reference

set_option maxRecDepth 8000 in
theorem probe_found_once : ∃ cfg, FreezeConfig.probe = .ok cfg ∧
    FreezeConfig.from_account_at (account 101 (List.replicate 32 0 ++ cfg.bytes)) 32 = .ok cfg ∧
    FreezeConfig.from_account_at (account 101 (List.replicate 32 0 ++ cfg.bytes)) 0 ≠ .ok cfg := by
  obtain ⟨cfg, w, hprobe, -, -, -, hwindows⟩ := probe_locates_the_window
  obtain rfl : FreezeConfig.probed = cfg := Except.ok.inj (FreezeConfig.probe_eq.symm.trans hprobe)
  refine ⟨_, hprobe, rfl, ?_⟩
  intro h
  rcases (hwindows _ 32 rfl).1 0 h with heq | hdisjoint
  · cases heq
  · unfold Window.Disjoint FreezeConfig.SIZE at hdisjoint
    omega

end FreezeAuthority.Reference
