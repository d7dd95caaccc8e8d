import FreezeAuthority.Code.Samples
import FreezeAuthority.Spec.Reference

/-!
# The accounts of the samples

The account of the embedded sample is one struct to its own instructions, and a window for each
authority to the libraries. One spec for each function, then the two views of the same bytes.
-/

namespace FreezeAuthority

/-! ## The fields -/

theorem u64_lawful : Field.Lawful 8 u64_to_vec u64_try_from_slice where
  length v := LittleEndian.length_encode 8 v.toNat
  decode_iff d v := by
    unfold u64_try_from_slice u64_to_vec
    by_cases h : d.length = 8
    · have hlt := LittleEndian.decode_lt d
      have hnum := LittleEndian.encode_decode d
      rw [h] at hlt hnum
      rw [if_pos h, Option.some.injEq]
      constructor
      · rintro rfl
        rw [UInt64.toNat_ofNat', Nat.mod_eq_of_lt (by omega), hnum]
      · rintro rfl
        rw [LittleEndian.decode_encode v.toNat_lt, UInt64.ofNat_toNat]
    · rw [if_neg h]
      constructor
      · rintro ⟨⟩
      · rintro rfl
        exact absurd (LittleEndian.length_encode 8 _) h

theorem array_lawful (n : Nat) : Field.Lawful n FixedArray.toList (array_try_from_slice n) where
  length a := a.length_toList
  decode_iff d a := by
    unfold array_try_from_slice
    by_cases h : d.length = n
    · rw [dif_pos h, Option.some.injEq]
      constructor
      · rintro rfl
        rfl
      · rintro rfl
        rfl
    · rw [dif_neg h]
      constructor
      · rintro ⟨⟩
      · rintro rfl
        exact absurd a.length_toList h

/-! ## Account types -/

structure AccountType.Lawful {α : Type} [AccountType α] (bytes : α → List UInt8) : Prop where
  to_vec_eq (state : α) : to_vec state = some (bytes state)
  try_from_slice_iff (d : List UInt8) (state : α) : try_from_slice d = some state ↔ d = bytes state

section AccountType

variable [Lez] {α : Type} [AccountType α] {bytes : α → List UInt8}

theorem AccountType.Lawful.from_account_eq_ok_iff (h : AccountType.Lawful bytes) (a : AccountWithMetadata)
    (state : α) : from_account a = .ok state ↔ a.account.data.bytes = bytes state := by
  unfold from_account
  rw [← h.try_from_slice_iff]
  cases AccountType.try_from_slice (α := α) a.account.data.bytes <;> simp

theorem AccountType.Lawful.write_to_on_eq_ok_iff (h : AccountType.Lawful bytes) (state : α)
    (a a' : AccountWithMetadata) :
    (write_to state).on a = .ok a' ↔ ∃ d : Data, d.bytes = bytes state ∧ a' = a.withData d := by
  unfold write_to
  rw [h.to_vec_eq, Borrow.on_attempt_bind, Result.ok_bind, Borrow.on_attempt_bind]
  unfold Data.try_from
  by_cases hfits : (bytes state).length ≤ Lez.dataMaxLength
  · rw [dif_pos hfits, Result.ok_bind, Borrow.on_modify, Except.ok.injEq]
    constructor
    · rintro rfl
      exact ⟨⟨bytes state, hfits⟩, rfl, rfl⟩
    · rintro ⟨⟨d, hd⟩, rfl, rfl⟩
      rfl
  · rw [dif_neg hfits, Result.error_bind]
    constructor
    · rintro ⟨⟩
    · rintro ⟨d, hd, -⟩
      exact absurd (hd ▸ d.fits) hfits

end AccountType

theorem Sample.ProgramConfig.lawful :
    AccountType.Lawful fun self : Sample.ProgramConfig => u64_to_vec self.value where
  to_vec_eq _ := rfl
  try_from_slice_iff d state := by
    simp only [AccountType.try_from_slice, Option.bind_eq_bind, Option.bind_eq_some_iff, Prod.exists, u64_lawful.next_iff]
    constructor
    · rintro ⟨value, rest, rfl, hend⟩
      by_cases hrest : rest.isEmpty
      · rw [if_pos hrest, Option.some.injEq] at hend
        rw [← hend, List.isEmpty_iff.mp hrest, List.append_nil]
      · rw [if_neg hrest] at hend
        cases hend
    · rintro rfl
      exact ⟨_, [], (List.append_nil _).symm, rfl⟩

class LawfulFramework [Lez] [Framework] : Prop where
  account_signer_ok_iff (a : AccountWithMetadata) : Framework.account_signer a = .ok () ↔ a.is_authorized = true

variable [Lez] [Crates] [AdminCrate]

/-! ## What `admin-authority` does for the samples -/

class LawfulAdminCrate : Prop where
  admin_codec (a : Crates.AdminConfig) : ∃ slot : FixedArray UInt8 AuthoritySlot.ENCODED_LEN,
    AdminCrate.admin_to_vec a = some slot.toList ∧
    ∀ d, AdminCrate.admin_try_from_slice d = some a ↔ d = slot.toList
  admin_from_account_at_of_window (x : AccountWithMetadata) (o : Nat) (a : Crates.AdminConfig)
    (h : o + AuthoritySlot.ENCODED_LEN ≤ x.account.data.bytes.length)
    (hread : AdminCrate.admin_to_vec a = some (Window.read x.account.data.bytes o AuthoritySlot.ENCODED_LEN)) :
    Crates.admin_from_account_at x o = .ok a
  -- A bootstrap installs the candidate, and writes its slot alone.
  admin_bootstrap_on (c : AuthorityCandidate) (n x x' : AccountWithMetadata)
    (h : (AdminCrate.admin_bootstrap c n).on x = .ok x') :
    ∃ a d, c.Evidence n (Crates.admin a) ∧ Crates.admin a ≠ .default ∧
      AdminCrate.admin_to_vec a = some d.bytes ∧ x' = x.withData d
  admin_bootstrap_at_on (o : Nat) (c : AuthorityCandidate) (n x x' : AccountWithMetadata)
    (h : (AdminCrate.admin_bootstrap_at o c n).on x = .ok x') :
    ∃ a slot d, c.Evidence n (Crates.admin a) ∧ Crates.admin a ≠ .default ∧
      AdminCrate.admin_to_vec a = some slot ∧ o + slot.length ≤ x.account.data.bytes.length ∧
      d.bytes = Window.write x.account.data.bytes o slot ∧ x' = x.withData d
  require_admin_at_ok_iff (config : AccountWithMetadata) (o : Nat) (caller : AccountWithMetadata) :
    AdminCrate.require_admin_at config o caller = .ok () ↔ AdminSigned config o caller

/-- The slot of an admin, as a field. -/
def admin_bytes (a : Crates.AdminConfig) : List UInt8 := (AdminCrate.admin_to_vec a).getD []

variable [LawfulAdminCrate]

theorem admin_to_vec_eq (a : Crates.AdminConfig) : AdminCrate.admin_to_vec a = some (admin_bytes a) := by
  obtain ⟨slot, hslot, -⟩ := LawfulAdminCrate.admin_codec a
  unfold admin_bytes
  rw [hslot]
  rfl

theorem admin_lawful : Field.Lawful AuthoritySlot.ENCODED_LEN admin_bytes AdminCrate.admin_try_from_slice where
  length a := by
    obtain ⟨slot, hslot, -⟩ := LawfulAdminCrate.admin_codec a
    unfold admin_bytes
    rw [hslot]
    exact slot.length_toList
  decode_iff d a := by
    obtain ⟨slot, hslot, hiff⟩ := LawfulAdminCrate.admin_codec a
    unfold admin_bytes
    rw [hslot]
    exact hiff d

namespace Embedded.ProgramConfig

def bytes (self : ProgramConfig) : List UInt8 :=
  u64_to_vec self.value ++ self.padding.toList ++ admin_bytes self.admin ++ self.freeze.bytes

/-! ## A slot is a window of the struct -/

@[simp]
theorem length_bytes (p : ProgramConfig) : p.bytes.length = 161 := by
  unfold bytes
  simp [u64_lawful.length, admin_lawful.length, p.padding.length_toList, AuthoritySlot.ENCODED_LEN,
    FreezeConfig.SIZE]

omit [AdminCrate] [LawfulAdminCrate] in
theorem before_admin (p : ProgramConfig) :
    (u64_to_vec p.value ++ p.padding.toList).length = ADMIN_SLOT_OFFSET := by
  rw [List.length_append, u64_lawful.length, p.padding.length_toList]
  rfl

theorem before_freeze (p : ProgramConfig) :
    (u64_to_vec p.value ++ p.padding.toList ++ admin_bytes p.admin).length = FREEZE_SLOT_OFFSET := by
  rw [List.length_append, p.before_admin, admin_lawful.length]
  rfl

theorem read_admin (p : ProgramConfig) :
    Window.read p.bytes ADMIN_SLOT_OFFSET AuthoritySlot.ENCODED_LEN = admin_bytes p.admin := by
  rw [← p.before_admin, ← admin_lawful.length p.admin]
  exact Field.read_between _ _ _

theorem write_admin (p : ProgramConfig) (next : Crates.AdminConfig) :
    Window.write p.bytes ADMIN_SLOT_OFFSET (admin_bytes next) = bytes { p with admin := next } := by
  rw [← p.before_admin]
  exact Field.write_between _ _ _ _ (by rw [admin_lawful.length, admin_lawful.length])

theorem read_freeze (p : ProgramConfig) :
    Window.read p.bytes FREEZE_SLOT_OFFSET FreezeConfig.SIZE = p.freeze.bytes := by
  have hread := Field.read_between (u64_to_vec p.value ++ p.padding.toList ++ admin_bytes p.admin)
    p.freeze.bytes []
  rw [List.append_nil, p.before_freeze, FreezeConfig.length_bytes] at hread
  exact hread

theorem write_freeze (p : ProgramConfig) (c : FreezeConfig) :
    Window.write p.bytes FREEZE_SLOT_OFFSET c.bytes = bytes { p with freeze := c } := by
  have hwrite := Field.write_between (u64_to_vec p.value ++ p.padding.toList ++ admin_bytes p.admin)
    p.freeze.bytes c.bytes [] (by rw [FreezeConfig.length_bytes, FreezeConfig.length_bytes])
  rw [List.append_nil, List.append_nil, p.before_freeze] at hwrite
  exact hwrite

end Embedded.ProgramConfig

variable [LawfulCrates]

omit [AdminCrate] [LawfulAdminCrate] in
theorem config_lawful : Field.Lawful FreezeConfig.SIZE FreezeConfig.bytes Crates.config_try_from_slice where
  length := FreezeConfig.length_bytes
  decode_iff := LawfulCrates.config_try_from_slice_iff

theorem Embedded.ProgramConfig.lawful : AccountType.Lawful (bytes : ProgramConfig → List UInt8) where
  to_vec_eq self := by
    show (do
      let admin ← AdminCrate.admin_to_vec self.admin
      let freeze ← Crates.config_to_vec self.freeze
      return u64_to_vec self.value ++ self.padding.toList ++ admin ++ freeze) = _
    rw [admin_to_vec_eq, LawfulCrates.config_to_vec_eq]
    rfl
  try_from_slice_iff d self := by
    simp only [AccountType.try_from_slice, Option.bind_eq_bind, Option.bind_eq_some_iff, Prod.exists,
      u64_lawful.next_iff, (array_lawful 24).next_iff, admin_lawful.next_iff, config_lawful.next_iff]
    unfold bytes
    constructor
    · rintro ⟨value, d₁, rfl, padding, d₂, rfl, admin, d₃, rfl, freeze, d₄, rfl, hend⟩
      by_cases hrest : d₄.isEmpty
      · rw [if_pos hrest, Option.some.injEq] at hend
        rw [← hend, List.isEmpty_iff.mp hrest, List.append_nil]
        simp only [List.append_assoc]
      · rw [if_neg hrest] at hend
        cases hend
    · rintro rfl
      refine ⟨_, _, ?_, _, _, rfl, _, _, rfl, _, [], (List.append_nil _).symm, rfl⟩
      simp only [List.append_assoc]

/-! ## The samples with config accounts of their own -/

namespace Sample

omit [Crates] [AdminCrate] [LawfulAdminCrate] [LawfulCrates]

variable {config : AccountWithMetadata} {state : ProgramConfig}

def ProgramConfig.bytes (self : ProgramConfig) : List UInt8 := u64_to_vec self.value

theorem from_account_eq_ok_iff (config : AccountWithMetadata) (state : ProgramConfig) :
    ProgramConfig.from_account config = .ok state ↔ config.account.data.bytes = state.bytes :=
  ProgramConfig.lawful.from_account_eq_ok_iff config state

theorem write_to_on_eq_ok_iff (state : ProgramConfig) (a a' : AccountWithMetadata) :
    state.write_to.on a = .ok a' ↔ ∃ d : Data, d.bytes = state.bytes ∧ a' = a.withData d :=
  ProgramConfig.lawful.write_to_on_eq_ok_iff state a a'

theorem initialize_config_eq_ok_iff (config : AccountWithMetadata) (out : SpelOutput) :
    initialize_config config = .ok out ↔ ∃ d : Data, d.bytes = ProgramConfig.default.bytes ∧
      out = ⟨[.of_account (config.withData d).account]⟩ := by
  unfold initialize_config
  simp only [Result.bind_eq_ok, write_to_on_eq_ok_iff, Result.pure_eq, Except.ok.injEq]
  constructor
  · rintro ⟨_, ⟨d, hd, rfl⟩, rfl⟩
    exact ⟨d, hd, rfl⟩
  · rintro ⟨d, hd, rfl⟩
    exact ⟨_, ⟨d, hd, rfl⟩, rfl⟩

theorem update_value_eq_ok (h : config.account.data.bytes = state.bytes) (new_value : UInt64) :
    ∃ d : Data, d.bytes = ProgramConfig.bytes ⟨new_value⟩ ∧
      update_value config new_value = .ok ⟨[.of_account (config.withData d).account]⟩ := by
  have hfits := config.account.data.fits
  have hlen : (ProgramConfig.bytes ⟨new_value⟩).length = state.bytes.length := by
    unfold ProgramConfig.bytes
    rw [u64_lawful.length, u64_lawful.length]
  rw [h, ← hlen] at hfits
  refine ⟨⟨_, hfits⟩, rfl, ?_⟩
  unfold update_value
  rw [(from_account_eq_ok_iff config state).mpr h, Result.ok_bind,
    (write_to_on_eq_ok_iff ⟨new_value⟩ config _).mpr ⟨⟨_, hfits⟩, rfl, rfl⟩]
  rfl

theorem read_value_eq_ok (h : config.account.data.bytes = state.bytes) :
    read_value config = .ok ⟨[.of_account config.account]⟩ := by
  unfold read_value
  rw [(from_account_eq_ok_iff config state).mpr h]
  rfl

end Sample

/-! ## The embedded sample -/

namespace Embedded

/-- The account holds one struct. -/
def Holds (S : Store) (p : ProgramConfig) : Prop := S.freeze_config.account.data.bytes = p.bytes

variable {S : Store} {p : ProgramConfig}

theorem Holds.from_account (h : Holds S p) : ProgramConfig.from_account S.freeze_config = .ok p :=
  (ProgramConfig.lawful.from_account_eq_ok_iff _ _).mpr h

/-- The readers of the freeze window read the field. -/
theorem Holds.config (h : Holds S p) :
    FreezeConfig.from_account_at S.freeze_config FREEZE_SLOT_OFFSET = .ok p.freeze := by
  unfold FreezeConfig.from_account_at
  rw [FreezeConfig.decode_at_eq_ok_iff, h]
  exact ⟨by rw [p.length_bytes]; decide, p.read_freeze⟩

omit [LawfulCrates] in
theorem Holds.admin (h : Holds S p) :
    Crates.admin_from_account_at S.freeze_config ADMIN_SLOT_OFFSET = .ok p.admin := by
  apply LawfulAdminCrate.admin_from_account_at_of_window
  · rw [h, p.length_bytes]
    decide
  · rw [h, p.read_admin, admin_to_vec_eq]

/-- A struct of the same type always fits where one was. -/
theorem Holds.write_to (h : Holds S p) (p' : ProgramConfig) :
    ∃ d : Data, d.bytes = p'.bytes ∧ p'.write_to.on S.freeze_config = .ok (S.freeze_config.withData d) := by
  have hfits := S.freeze_config.account.data.fits
  rw [h, p.length_bytes, ← p'.length_bytes] at hfits
  exact ⟨⟨p'.bytes, hfits⟩, rfl, (ProgramConfig.lawful.write_to_on_eq_ok_iff _ _ _).mpr ⟨_, rfl, rfl⟩⟩

theorem Holds.update_value (h : Holds S p) (new_value : UInt64) : ∃ d : Data,
    d.bytes = ProgramConfig.bytes { p with value := new_value } ∧
      Embedded.update_value S.freeze_config new_value = .ok ⟨[.of_account (S.freeze_config.withData d).account]⟩ := by
  obtain ⟨d, hd, hwrite⟩ := h.write_to { p with value := new_value }
  refine ⟨d, hd, ?_⟩
  unfold Embedded.update_value
  rw [h.from_account, Result.ok_bind, hwrite]
  rfl

theorem Holds.read_value (h : Holds S p) :
    Embedded.read_value S.freeze_config = .ok ⟨[.of_account S.freeze_config.account]⟩ := by
  unfold Embedded.read_value
  rw [h.from_account]
  rfl

omit [LawfulAdminCrate] [LawfulCrates] in
/-- `withdraw` is an update to zero. -/
theorem withdraw_eq (config : AccountWithMetadata) : withdraw config = Embedded.update_value config 0 := rfl

omit [LawfulCrates] in
theorem Holds.writeAdmin (h : Holds S p) (next : Crates.AdminConfig) :
    Holds { S with freeze_config := Embedded.writeAdmin next S.freeze_config } { p with admin := next } := by
  have hfits : ADMIN_SLOT_OFFSET + (admin_bytes next).length ≤ S.freeze_config.account.data.bytes.length := by
    rw [h, p.length_bytes, admin_lawful.length]
    decide
  unfold Holds Embedded.writeAdmin
  rw [admin_to_vec_eq]
  show (S.freeze_config.account.data.splice ADMIN_SLOT_OFFSET (admin_bytes next)).bytes = _
  rw [Data.bytes_splice _ _ _ hfits, h, p.write_admin]

omit [LawfulCrates] in
theorem Holds.withConfig (h : Holds S p) (c : FreezeConfig) :
    Holds (S.withConfig FREEZE_SLOT_OFFSET c) { p with freeze := c } := by
  unfold Holds Store.withConfig
  rw [AccountWithMetadata.withConfig_bytes _ _ _ (by rw [h, p.length_bytes]; decide), h, p.write_freeze]

/-- The struct that `initialize` leaves: the caller as admin, and a vacant freeze slot. -/
theorem initialize_config_eq_ok {caller config : AccountWithMetadata} {out : SpelOutput}
    (h : initialize_config caller config = .ok out) :
    ∃ (a : Crates.AdminConfig) (d : Data), Crates.admin a = caller.account_id ∧ caller.account_id ≠ .default ∧
      d.bytes = ProgramConfig.bytes ⟨0, .fill 24 0, a, .default⟩ ∧
      out = ⟨[.of_account (config.withData d).account]⟩ := by
  unfold initialize_config at h
  obtain ⟨config₁, hwrite, h⟩ := Result.bind_eq_ok.mp h
  obtain ⟨d₁, hd₁, rfl⟩ := (ProgramConfig.lawful.write_to_on_eq_ok_iff _ _ _).mp hwrite
  obtain ⟨config₂, hbootstrap, h⟩ := Result.bind_eq_ok.mp h
  obtain ⟨a, slot, d, hev, hne, hslot, -, hd, rfl⟩ :=
    LawfulAdminCrate.admin_bootstrap_at_on _ _ _ _ _ (Result.mapError_eq_ok.mp hbootstrap)
  rw [admin_to_vec_eq, Option.some.injEq] at hslot
  cases h
  refine ⟨a, d, hev.1.symm, hev.1 ▸ hne, ?_, rfl⟩
  rw [hd, ← hslot]
  show Window.write d₁.bytes _ _ = _
  rw [hd₁, ProgramConfig.write_admin]

end Embedded

end FreezeAuthority

/-! ## A reference for what the samples call -/

namespace FreezeAuthority.Reference

def admin_try_from_slice (d : List UInt8) : Option AuthoritySlot :=
  if d.length = AuthoritySlot.ENCODED_LEN then (slot_read_at d 0).toOption else none

/-- The candidate, as the slot of a new admin. -/
def admin_slot (c : AuthorityCandidate) (n : AccountWithMetadata) : Except AdminError AuthoritySlot :=
  match validate c n with
  | .ok h => .ok ⟨h, .default⟩
  | .error _ => .error .InvalidCandidate

def admin_assign (bytes : List UInt8) : Borrow AccountWithMetadata AdminError Unit := do
  let data ← .attempt (match Data.try_from bytes with
    | some data => .ok data
    | none => .error .AccountDataTooLarge)
  modify (·.withData data)

def admin_bootstrap (c : AuthorityCandidate) (n : AccountWithMetadata) :
    Borrow AccountWithMetadata AdminError Unit := do
  let slot ← .attempt (admin_slot c n)
  admin_assign slot.bytes

def admin_bootstrap_at (o : Nat) (c : AuthorityCandidate) (n : AccountWithMetadata) :
    Borrow AccountWithMetadata AdminError Unit := do
  let slot ← .attempt (admin_slot c n)
  let bytes := (← get).account.data.bytes
  .attempt (if o + AuthoritySlot.ENCODED_LEN ≤ bytes.length then .ok () else .error .SlotOutOfBounds)
  admin_assign (Window.write bytes o slot.bytes)

def require_admin_at (config : AccountWithMetadata) (o : Nat) (caller : AccountWithMetadata) :
    Except SpelError Unit := do
  let admin ← (admin_from_account_at config o).mapError admin_error_to_spel
  (assert_admin admin caller).mapError admin_error_to_spel

scoped instance : Framework where
  account_signer a := if a.is_authorized then .ok () else .error (.Unauthorized "account must sign")

scoped instance : LawfulFramework where
  account_signer_ok_iff a := by
    show (if a.is_authorized then Except.ok () else .error _) = _ ↔ _
    split <;> simp [*]

scoped instance : AdminCrate where
  admin_default := AuthoritySlot.vacant
  admin_to_vec a := some (AuthoritySlot.bytes a)
  admin_try_from_slice := admin_try_from_slice
  admin_bootstrap := admin_bootstrap
  admin_bootstrap_at := admin_bootstrap_at
  require_admin_at := require_admin_at

theorem admin_try_from_slice_iff (d : List UInt8) (s : AuthoritySlot) :
    admin_try_from_slice d = some s ↔ d = s.bytes := by
  unfold admin_try_from_slice
  by_cases h : d.length = AuthoritySlot.ENCODED_LEN
  · obtain ⟨s', hs', hread⟩ := slot_read_at_of_fits d 0 (by omega)
    rw [if_pos h, hs', ← h, Window.read_all] at *
    constructor
    · rintro ⟨⟩
      exact hread
    · rintro rfl
      exact congrArg some (AuthoritySlot.bytes_injective hread).symm
  · rw [if_neg h]
    constructor
    · rintro ⟨⟩
    · rintro rfl
      exact absurd s.length_bytes h

theorem admin_slot_eq_ok {c : AuthorityCandidate} {n : AccountWithMetadata} {s : AuthoritySlot}
    (h : admin_slot c n = .ok s) : c.Evidence n s.holder ∧ s.holder ≠ .default := by
  unfold admin_slot at h
  cases hval : validate c n with
  | error e =>
    rw [hval] at h
    cases h
  | ok id =>
    rw [hval] at h
    cases h
    have hev := validate_sound c n id hval
    refine ⟨hev, ?_⟩
    rintro rfl
    obtain ⟨hid, -, -⟩ := hev
    unfold validate at hval
    cases c with
    | Signer => simp [hid] at hval
    | Pda program_id seed =>
      simp only [check_eq_ok] at hval
      exact hval.2.2.1 hid

theorem admin_assign_on {bytes : List UInt8} {x x' : AccountWithMetadata} (h : (admin_assign bytes).on x = .ok x') :
    ∃ d : Data, d.bytes = bytes ∧ x' = x.withData d := by
  unfold admin_assign Data.try_from at h
  by_cases hfits : bytes.length ≤ Lez.dataMaxLength
  · rw [dif_pos hfits] at h
    exact ⟨⟨bytes, hfits⟩, rfl, by simpa [eq_comm] using h⟩
  · rw [dif_neg hfits] at h
    cases h

scoped instance : LawfulAdminCrate where
  admin_codec a := ⟨⟨AuthoritySlot.bytes a, AuthoritySlot.length_bytes a⟩, rfl,
    fun d => admin_try_from_slice_iff d a⟩
  admin_from_account_at_of_window x o a h hread := by
    obtain ⟨s, hs, hread'⟩ := admin_from_account_at_of_fits x o h
    have hbytes : AuthoritySlot.bytes a = s.bytes := (Option.some.inj hread).trans hread'
    show admin_from_account_at x o = _
    rw [hs, AuthoritySlot.bytes_injective hbytes]
  admin_bootstrap_on c n x x' h := by
    replace h : (admin_bootstrap c n).on x = .ok x' := h
    unfold admin_bootstrap at h
    rw [Borrow.on_attempt_bind] at h
    obtain ⟨slot, hslot, h⟩ := Result.bind_eq_ok.mp h
    obtain ⟨d, hd, rfl⟩ := admin_assign_on h
    obtain ⟨hev, hne⟩ := admin_slot_eq_ok hslot
    exact ⟨slot, d, hev, hne, congrArg some hd.symm, rfl⟩
  admin_bootstrap_at_on o c n x x' h := by
    replace h : (admin_bootstrap_at o c n).on x = .ok x' := h
    unfold admin_bootstrap_at at h
    simp only [Borrow.on_attempt_bind, Borrow.on_get_bind] at h
    obtain ⟨slot, hslot, h⟩ := Result.bind_eq_ok.mp h
    obtain ⟨u, hfits, h⟩ := Result.bind_eq_ok.mp h
    obtain ⟨d, hd, rfl⟩ := admin_assign_on h
    obtain ⟨hev, hne⟩ := admin_slot_eq_ok hslot
    refine ⟨slot, slot.bytes, d, hev, hne, rfl, ?_, hd, rfl⟩
    rw [slot.length_bytes]
    by_contra hout
    rw [if_neg hout] at hfits
    cases hfits
  require_admin_at_ok_iff config o caller := by
    show require_admin_at config o caller = _ ↔ _
    unfold require_admin_at
    simp only [Result.bind_eq_ok, Result.mapError_eq_ok]
    exact assert_admin_eq_ok_iff config caller o

end FreezeAuthority.Reference
