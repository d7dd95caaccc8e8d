import FreezeAuthority.Spec.Macros
import FreezeAuthority.Spec.Reference

/-!
# The gate fails closed

The gate chains two decoders. The config must be there and decode. A marker that was never written lets
the call in.
-/

namespace FreezeAuthority

/-- The answer on config data of `length` bytes with the byte `flag` behind the slot at `o`, and on the
marker data `m`. `none` lets the call in. -/
def verdict (length : Nat) (flag : Option UInt8) (o : Nat) (m : List UInt8) : Option FreezeError :=
  if length = 0 then some .NotInitialized
  else if length < o + FreezeConfig.SIZE then some .SlotOutOfBounds
  else if flag ≠ some 0 ∧ flag ≠ some 1 then some .DecodingFailed
  else if flag = some 1 then some .Frozen
  else if m ≠ [] ∧ m ≠ [0] ∧ m ≠ [1] then some .DecodingFailed
  else if m = [1] then some .AccountFrozen
  else none

theorem verdict_eq_none_iff (length : Nat) (flag : Option UInt8) (o : Nat) (m : List UInt8) :
    verdict length flag o m = none ↔
      o + FreezeConfig.SIZE ≤ length ∧ flag = some 0 ∧ (m = [] ∨ m = [0]) := by
  unfold verdict FreezeConfig.SIZE
  constructor
  · intro h
    split_ifs at h with hempty hshort hflag hfrozen hm hmarked
    refine ⟨Nat.not_lt.mp hshort, ?_, ?_⟩
    · tauto
    · tauto
  · rintro ⟨hfits, rfl, hm⟩
    rw [if_neg (by omega), if_neg (by omega)]
    rcases hm with rfl | rfl <;> simp

theorem verdict_of_short {length o : Nat} (h : length < o + FreezeConfig.SIZE) (flag : Option UInt8)
    (m : List UInt8) :
    verdict length flag o m = some (if length = 0 then .NotInitialized else .SlotOutOfBounds) := by
  unfold verdict
  split_ifs <;> rfl

theorem verdict_of_fits {length o : Nat} (h : o + FreezeConfig.SIZE ≤ length) (b : UInt8) (m : List UInt8) :
    verdict length (some b) o m =
      if b = 0 then
        if m = [] ∨ m = [0] then none else if m = [1] then some .AccountFrozen else some .DecodingFailed
      else if b = 1 then some .Frozen else some .DecodingFailed := by
  unfold FreezeConfig.SIZE at h
  unfold verdict FreezeConfig.SIZE
  rw [if_neg (by omega), if_neg (by omega)]
  simp only [ne_eq, Option.some.injEq]
  split_ifs <;> simp_all

namespace Macros

variable [Lez] {σ ε α : Type}

def GateArgs.config_data (args : GateArgs) (frame : Frame σ) : List UInt8 :=
  (frame.locals args.config_ident).account.data.bytes

def GateArgs.marker_data (args : GateArgs) (frame : Frame σ) : List UInt8 :=
  (frame.locals args.per_account_ident).account.data.bytes

def GateArgs.flag (args : GateArgs) (frame : Frame σ) : Option UInt8 :=
  (args.config_data frame)[args.offset + AuthoritySlot.ENCODED_LEN]?

def GateArgs.verdict (args : GateArgs) (frame : Frame σ) : Option FreezeError :=
  FreezeAuthority.verdict (args.config_data frame).length (args.flag frame) args.offset (args.marker_data frame)

variable [Crates] [FromFreezeError ε]

theorem GateArgs.check_of_config_error {args : GateArgs} {frame : Frame σ} {e : FreezeError}
    (h : FreezeConfig.decode_at (args.config_data frame) args.offset = .error e) :
    (args.check frame.locals : Except ε Unit) = .error (FromFreezeError.into e) := by
  unfold config_data at h
  unfold check FreezeConfig.from_account_at
  rw [h]
  rfl

theorem GateArgs.check_of_config {args : GateArgs} {frame : Frame σ} {c : FreezeConfig}
    (h : FreezeConfig.decode_at (args.config_data frame) args.offset = .ok c) :
    (args.check frame.locals : Except ε Unit) =
      if c.is_frozen then .error (FromFreezeError.into .Frozen)
      else match FrozenAccountState.from_data_or_default (args.marker_data frame) with
        | .ok s => if s.is_frozen then .error (FromFreezeError.into .AccountFrozen) else .ok ()
        | .error e => .error (FromFreezeError.into e) := by
  unfold config_data at h
  unfold check FreezeConfig.from_account_at marker_data
  rw [h]
  obtain ⟨slot, is_frozen⟩ := c
  cases is_frozen with
  | true => rfl
  | false =>
    cases FrozenAccountState.from_data_or_default (frame.locals args.per_account_ident).account.data.bytes with
    | error e => rfl
    | ok s => obtain ⟨b⟩ := s; cases b <;> rfl

variable [LawfulCrates]

theorem GateArgs.check_eq_verdict (args : GateArgs) (frame : Frame σ) :
    (args.check frame.locals : Except ε Unit) =
      match args.verdict frame with
      | none => .ok ()
      | some e => .error (FromFreezeError.into e) := by
  let d := (frame.locals args.config_ident).account.data.slice
  unfold verdict
  rcases Nat.lt_or_ge (args.config_data frame).length (args.offset + FreezeConfig.SIZE) with hshort | hfits
  · have hdecode : FreezeConfig.decode_at (args.config_data frame) args.offset = _ :=
      FreezeConfig.decode_at_of_short d args.offset hshort
    have hempty : d.bytes.isEmpty = true ↔ (args.config_data frame).length = 0 := by
      rw [List.isEmpty_iff_length_eq_zero]
      rfl
    rw [check_of_config_error hdecode, verdict_of_short hshort]
    simp only [hempty]
  · obtain ⟨s, b, hs, hb, -⟩ := FreezeConfig.exists_slot_of_fits _ args.offset hfits
    have hdecode : FreezeConfig.decode_at (args.config_data frame) args.offset = _ :=
      FreezeConfig.decode_at_of_fits d args.offset s b hfits hs hb
    have hflag : args.flag frame = some b := hb
    rw [hflag, verdict_of_fits hfits]
    by_cases h0 : b = 0
    · rw [if_pos h0] at hdecode ⊢
      rw [check_of_config hdecode, FrozenAccountState.from_data_or_default_eq]
      simp only [Bool.false_eq_true, if_false]
      split_ifs <;> rfl
    · by_cases h1 : b = 1
      · rw [if_neg h0, if_pos h1] at hdecode ⊢
        rw [check_of_config hdecode]
        rfl
      · rw [if_neg h0, if_neg h1] at hdecode ⊢
        rw [check_of_config_error hdecode]

/-- The expanded function runs its body exactly on unfrozen bytes. On any others it answers what is wrong
first, and no statement of the body has run. Of the config it looks at the length and the flag. -/
theorem gate_fails_closed [Host] {attr : List MetaNameValue} {args : GateArgs}
    (hargs : bind_args attr = .ok args) (func : ItemFn σ ε α) :
    ∃ gated, require_not_frozen attr func = .ok gated ∧ ∀ frame : Frame σ,
      (args.verdict frame = none ↔
        args.offset + FreezeConfig.SIZE ≤ (args.config_data frame).length ∧ args.flag frame = some 0 ∧
          (args.marker_data frame = [] ∨ args.marker_data frame = [0])) ∧
      (match args.verdict frame with
        | none => gated.call frame = func.call frame
        | some e => gated.call frame = (some (.error (FromFreezeError.into e)), frame)) ∧
      ∀ frame' : Frame σ, (args.config_data frame').length = (args.config_data frame).length →
        args.flag frame' = args.flag frame → args.marker_data frame' = args.marker_data frame →
        args.verdict frame' = args.verdict frame := by
  have hgated : require_not_frozen attr func = .ok (func.gated args) := by
    unfold require_not_frozen
    rw [hargs]
    rfl
  refine ⟨func.gated args, hgated, ?_⟩
  intro frame
  refine ⟨verdict_eq_none_iff _ _ _ _, ?_, ?_⟩
  · rw [func.call_gated, args.check_eq_verdict]
    cases args.verdict frame <;> rfl
  · intro frame' hlen hflag hmarker
    unfold GateArgs.verdict
    rw [hlen, hflag, hmarker]

end Macros

end FreezeAuthority

namespace FreezeAuthority.Reference

open Macros

/-- A function with the default parameter names, called on an account whose marker is set. -/
def on_frozen_account : Frame Unit where
  locals name := if name = "freeze_config" then initialized.freeze_config else account 5 [1]
  rest := ()

/-- The same, with the config behind the admin slot of an account with another name. -/
def on_shared_account : Frame Unit where
  locals name := if name = "vault" then shared else account 5 [1]
  rest := ()

def at_the_vault : GateArgs := ⟨"vault", "freeze_account", AuthoritySlot.ENCODED_LEN⟩

set_option maxRecDepth 8000 in
theorem gate_refuses_frozen_account :
    ∃ gated, Macros.require_not_frozen at_the_vault.attribute (⟨[]⟩ : ItemFn Unit SpelError Unit) = .ok gated ∧
      gated.call on_shared_account =
        (some (.error (FreezeError.toSpelError .AccountFrozen)), on_shared_account) := by
  have hargs := bind_args_attribute at_the_vault (by decide)
  obtain ⟨gated, hgated, hcalls⟩ := gate_fails_closed hargs (⟨[]⟩ : ItemFn Unit SpelError Unit)
  exact ⟨gated, hgated, (hcalls on_shared_account).2.1⟩

end FreezeAuthority.Reference

namespace FreezeAuthority.Macros

variable [Host] [Lez] [Crates] {σ : Type}

/-- The gate of the dispatcher is the expansion of the attribute, at any offset that is a `usize`. -/
theorem autoWrap_eq_expansion (f m c : AccountWithMetadata) (o : Nat) (h : o < 2 ^ Host.usizeBits) :
    let body := (Instruction.freeze_program f m c o).invoke
    ∃ gated, require_not_frozen (GateArgs.attribute ⟨"freeze_config", "freeze_account", o⟩)
        (⟨[.source (throw body)]⟩ : ItemFn σ SpelError SpelOutput) = .ok gated ∧
      ∀ frame : Frame σ, frame.locals "freeze_config" = f → frame.locals "freeze_account" = m →
        gated.call frame = (some (Instruction.freeze_program f m c o).autoWrap, frame) := by
  intro body
  let args : GateArgs := ⟨"freeze_config", "freeze_account", o⟩
  have hargs : bind_args args.attribute = .ok args := bind_args_attribute args h
  refine ⟨ItemFn.gated ⟨[.source (throw body)]⟩ args, ?_, ?_⟩
  · unfold require_not_frozen
    rw [hargs]
    rfl
  · rintro frame rfl rfl
    exact ItemFn.call_gated_tail args body frame

end FreezeAuthority.Macros
