import FreezeAuthority.Code.Macros
import FreezeAuthority.Lib.Loop

/-!
# What the attribute `#[require_not_frozen]` does

One spec for each of its functions: which arguments it accepts, what they bind, and what a call of the
function it returns does.
-/

namespace FreezeAuthority.Macros

/-! ## The arguments -/

/-- The path of one bare name. -/
def Path.of_ident (ident : Ident) : Path := ⟨false, [⟨ident, false⟩]⟩

theorem Path.is_ident_eq (path : Path) (ident : Ident) :
    path.is_ident ident = true ↔ path = .of_ident ident := by
  unfold is_ident
  rw [beq_iff_eq]
  constructor
  · intro h
    unfold get_ident at h
    split at h
    · cases h; rfl
    · cases h
  · rintro rfl
    rfl

/-- A path is one key at most. -/
theorem Path.is_ident_unique {path : Path} {a b : Ident} (ha : path.is_ident a = true)
    (hb : path.is_ident b = true) : a = b := by
  unfold is_ident at ha hb
  rw [beq_iff_eq] at ha hb
  rw [ha] at hb
  exact Option.some.inj hb

theorem Path.is_ident_of_ne {path : Path} {a b : Ident} (ha : path.is_ident a = true) (h : b ≠ a) :
    path.is_ident b = false := by
  rw [Bool.eq_false_iff]
  intro hb
  exact h (Path.is_ident_unique hb ha)

namespace MetaNameValue

def keys : List Ident := ["freeze_config", "freeze_account", "caller", "offset"]

/-- `key = name` -/
def kwarg (key name : Ident) : MetaNameValue := ⟨.of_ident key, .Path (.of_ident name)⟩

/-- What the macro takes for one argument. -/
structure Accepted [Host] (pair : MetaNameValue) : Prop where
  key : ∃ key ∈ keys, pair.path.is_ident key = true
  offset : pair.path.is_ident "offset" = true →
    ∃ n, pair.value = .Lit (.Int ⟨false, n⟩) ∧ n < 2 ^ Host.usizeBits
  name : pair.path.is_ident "offset" = false → ∃ ident, pair.value.get_ident = some ident

/-- The identifier that the argument binds to `key`. -/
def ident_for (key : Ident) (pair : MetaNameValue) : Option Ident :=
  if pair.path.is_ident key then pair.value.get_ident else none

def offset_for (pair : MetaNameValue) : Option Nat :=
  if pair.path.is_ident "offset" then
    match pair.value with
    | .Lit (.Int i) => some i.value
    | _ => none
  else none

theorem ident_for_of_not {key : Ident} {pair : MetaNameValue} (h : pair.path.is_ident key = false) :
    pair.ident_for key = none := by
  unfold ident_for
  rw [h]
  rfl

theorem offset_for_of_not {pair : MetaNameValue} (h : pair.path.is_ident "offset" = false) :
    pair.offset_for = none := by
  unfold offset_for
  rw [h]
  rfl

end MetaNameValue

open MetaNameValue in
/-- The variables after one argument. -/
def GateArgs.next (vars : GateArgs) (pair : MetaNameValue) : GateArgs where
  config_ident := (ident_for "freeze_config" pair).getD vars.config_ident
  per_account_ident := (ident_for "freeze_account" pair).getD vars.per_account_ident
  offset := (offset_for pair).getD vars.offset

/-- The last identifier bound to each name, and the last offset. -/
def GateArgs.named (attr : List MetaNameValue) : GateArgs where
  config_ident := Loop.last (MetaNameValue.ident_for "freeze_config") attr "freeze_config"
  per_account_ident := Loop.last (MetaNameValue.ident_for "freeze_account") attr "freeze_account"
  offset := Loop.last MetaNameValue.offset_for attr 0

theorem GateArgs.foldl_next (attr : List MetaNameValue) (vars : GateArgs) :
    attr.foldl next vars =
      ⟨Loop.last (MetaNameValue.ident_for "freeze_config") attr vars.config_ident,
        Loop.last (MetaNameValue.ident_for "freeze_account") attr vars.per_account_ident,
        Loop.last MetaNameValue.offset_for attr vars.offset⟩ := by
  induction attr generalizing vars with
  | nil => rfl
  | cons pair attr ih =>
    rw [List.foldl_cons, ih, Loop.last_cons, Loop.last_cons, Loop.last_cons]
    rfl

/-- `freeze_config = .., freeze_account = .., offset = ..` -/
def GateArgs.attribute (args : GateArgs) : List MetaNameValue :=
  [.kwarg "freeze_config" args.config_ident, .kwarg "freeze_account" args.per_account_ident,
    ⟨.of_ident "offset", .Lit (.Int ⟨false, args.offset⟩)⟩]

section Arguments

variable [Host]

theorem LitInt.base10_parse_eq_ok_iff (i : LitInt) (n : Nat) :
    i.base10_parse = .ok n ↔ i = ⟨false, n⟩ ∧ n < 2 ^ Host.usizeBits := by
  obtain ⟨negative, value⟩ := i
  unfold base10_parse
  cases negative with
  | true => simp
  | false =>
    by_cases h : 2 ^ Host.usizeBits ≤ value
    · simp only [Bool.false_eq_true, if_false, if_pos h]
      constructor
      · rintro ⟨⟩
      · rintro ⟨⟨⟩, hlt⟩; omega
    · simp only [Bool.false_eq_true, if_false, if_neg h, Except.ok.injEq]
      constructor
      · rintro rfl; exact ⟨rfl, Nat.not_le.mp h⟩
      · rintro ⟨⟨⟩, -⟩; rfl

theorem bind_pair_of_offset {pair : MetaNameValue} (h : pair.path.is_ident "offset" = true)
    (vars vars' : GateArgs) : bind_pair vars pair = .ok vars' ↔ pair.Accepted ∧ vars' = vars.next pair := by
  have hother (key : Ident) (hkey : key ≠ "offset") : pair.ident_for key = none :=
    MetaNameValue.ident_for_of_not (Path.is_ident_of_ne h hkey)
  have haccepted : pair.Accepted ↔ ∃ n, pair.value = .Lit (.Int ⟨false, n⟩) ∧ n < 2 ^ Host.usizeBits := by
    constructor
    · intro hpair
      exact hpair.offset h
    · intro hvalue
      exact ⟨⟨"offset", by simp [MetaNameValue.keys], h⟩, fun _ => hvalue, by simp [h]⟩
  have hnext : vars.next pair = { vars with offset := (pair.offset_for).getD vars.offset } := by
    unfold GateArgs.next
    rw [hother _ (by decide), hother _ (by decide)]
    rfl
  rw [haccepted, hnext]
  unfold bind_pair MetaNameValue.offset_for
  rw [if_pos h, if_pos h]
  cases hvalue : pair.value with
  | Lit lit =>
    cases lit with
    | Int i =>
      simp only [Result.bind_eq_ok, LitInt.base10_parse_eq_ok_iff, Result.pure_eq, Except.ok.injEq]
      constructor
      · rintro ⟨n, ⟨rfl, hn⟩, rfl⟩
        exact ⟨⟨n, rfl, hn⟩, rfl⟩
      · rintro ⟨⟨n, hi, hn⟩, rfl⟩
        cases hi
        exact ⟨n, ⟨rfl, hn⟩, rfl⟩
    | other tokens => simp
  | Path path => simp
  | other tokens => simp

theorem bind_pair_of_name {pair : MetaNameValue} (h : pair.path.is_ident "offset" = false)
    (vars vars' : GateArgs) : bind_pair vars pair = .ok vars' ↔ pair.Accepted ∧ vars' = vars.next pair := by
  unfold bind_pair
  rw [if_neg (by simp [h])]
  cases hvalue : pair.value.get_ident with
  | none =>
    have hpair : ¬pair.Accepted := by
      intro hpair
      obtain ⟨ident, hident⟩ := hpair.name h
      rw [hvalue] at hident
      cases hident
    simp [hpair]
  | some ident =>
    have haccepted (key : Ident) (hkey : key ∈ MetaNameValue.keys) (hpath : pair.path.is_ident key = true) :
        pair.Accepted := ⟨⟨key, hkey, hpath⟩, by simp [h], fun _ => ⟨ident, hvalue⟩⟩
    have hdone (hpair : pair.Accepted) (next : GateArgs) :
        (Except.ok next : Except CompileError GateArgs) = .ok vars' ↔ pair.Accepted ∧ vars' = next := by
      simp [hpair, eq_comm]
    unfold GateArgs.next MetaNameValue.ident_for
    rw [MetaNameValue.offset_for_of_not h, hvalue]
    dsimp only
    split_ifs with hconfig haccount haccount hcaller
    · have hsame := Path.is_ident_unique hconfig haccount
      simp at hsame
    · exact hdone (haccepted _ (by simp [MetaNameValue.keys]) hconfig) _
    · exact hdone (haccepted _ (by simp [MetaNameValue.keys]) haccount) _
    · exact hdone (haccepted _ (by simp [MetaNameValue.keys]) hcaller) _
    · constructor
      · rintro ⟨⟩
      · rintro ⟨hpair, -⟩
        obtain ⟨key, hkey, hpath⟩ := hpair.key
        simp only [MetaNameValue.keys, List.mem_cons, List.not_mem_nil, or_false] at hkey
        rcases hkey with rfl | rfl | rfl | rfl
        · exact absurd hpath hconfig
        · exact absurd hpath haccount
        · exact absurd hpath hcaller
        · rw [h] at hpath
          cases hpath

theorem bind_pair_eq_ok_iff (vars : GateArgs) (pair : MetaNameValue) (vars' : GateArgs) :
    bind_pair vars pair = .ok vars' ↔ pair.Accepted ∧ vars' = vars.next pair := by
  cases h : pair.path.is_ident "offset" with
  | true => exact bind_pair_of_offset h vars vars'
  | false => exact bind_pair_of_name h vars vars'

theorem bind_args_eq_ok_iff (attr : List MetaNameValue) (args : GateArgs) :
    bind_args attr = .ok args ↔ (∀ pair ∈ attr, pair.Accepted) ∧ args = .named attr := by
  have hloop := Loop.foldlM_eq_ok_iff bind_pair_eq_ok_iff attr .default args
  rw [GateArgs.foldl_next] at hloop
  exact hloop

/-- An attribute can bind any two names, and any offset that is a `usize`. -/
theorem bind_args_attribute (args : GateArgs) (h : args.offset < 2 ^ Host.usizeBits) :
    bind_args args.attribute = .ok args := by
  obtain ⟨config_ident, per_account_ident, offset⟩ := args
  refine (bind_args_eq_ok_iff _ _).mpr ⟨?_, rfl⟩
  have hname (key name : Ident) (hkey : key ∈ MetaNameValue.keys) (hne : key ≠ "offset") :
      (MetaNameValue.kwarg key name).Accepted := by
    have hpath : (Path.of_ident key).is_ident key = true := (Path.is_ident_eq _ _).mpr rfl
    have hnot := Path.is_ident_of_ne hpath (Ne.symm hne)
    exact ⟨⟨key, hkey, hpath⟩, fun h => absurd (hnot.symm.trans h) Bool.false_ne_true, fun _ => ⟨name, rfl⟩⟩
  intro pair hpair
  simp only [GateArgs.attribute, List.mem_cons, List.not_mem_nil, or_false] at hpair
  rcases hpair with rfl | rfl | rfl
  · exact hname _ _ (by simp [MetaNameValue.keys]) (by decide)
  · exact hname _ _ (by simp [MetaNameValue.keys]) (by decide)
  · have hpath : (Path.of_ident "offset").is_ident "offset" = true := by decide
    exact ⟨⟨"offset", by simp [MetaNameValue.keys], hpath⟩, fun _ => ⟨offset, rfl, h⟩,
      fun h => absurd (h.symm.trans hpath) Bool.false_ne_true⟩

end Arguments

/-! ## The function -/

variable [Lez] {σ ε α : Type}

theorem ItemFn.gated_stmts (func : ItemFn σ ε α) (args : GateArgs) :
    (func.gated args).stmts = .prologue args :: func.stmts := rfl

theorem require_not_frozen_eq_ok_iff [Host] (attr : List MetaNameValue) (func gated : ItemFn σ ε α) :
    require_not_frozen attr func = .ok gated ↔
      (∀ pair ∈ attr, pair.Accepted) ∧ gated = func.gated (.named attr) := by
  unfold require_not_frozen
  simp only [Result.bind_eq_ok, bind_args_eq_ok_iff, Result.pure_eq, Except.ok.injEq]
  constructor
  · rintro ⟨_, ⟨haccepted, rfl⟩, rfl⟩
    exact ⟨haccepted, rfl⟩
  · rintro ⟨haccepted, rfl⟩
    exact ⟨_, ⟨haccepted, rfl⟩, rfl⟩

variable [Crates] [FromFreezeError ε]

/-- The prologue answers first. An error ends the call there, and the function does nothing. -/
theorem ItemFn.call_gated (func : ItemFn σ ε α) (args : GateArgs) (frame : Frame σ) :
    (func.gated args).call frame =
      match (args.check frame.locals : Except ε Unit) with
      | .ok () => func.call frame
      | .error e => (some (.error e), frame) := by
  unfold call
  rw [gated_stmts, List.forM_cons, Borrow.call_bind]
  have hrun : (Stmt.prologue (α := α) args).run.call frame =
      ((args.check frame.locals : Except ε Unit).mapError .error, frame) := by
    unfold Stmt.run
    simp only [Borrow.call_bind, Borrow.call_get, Borrow.call_attempt]
  rw [hrun]
  cases (args.check frame.locals : Except ε Unit) <;> rfl

/-- The gate of the program's own instructions is this prologue. -/
theorem GateArgs.check_eq_gate (args : GateArgs) (locals : Ident → AccountWithMetadata) :
    (args.check locals : Except SpelError Unit) =
      gate (locals args.config_ident) (locals args.per_account_ident) args.offset := rfl

/-- A function of one expression is the body behind the gate, as the dispatcher has it. -/
theorem ItemFn.call_gated_tail (args : GateArgs) (body : Except SpelError α) (frame : Frame σ) :
    ((⟨[.source (throw body)]⟩ : ItemFn σ SpelError α).gated args).call frame =
      (some (FreezeAuthority.require_not_frozen (frame.locals args.config_ident)
        (frame.locals args.per_account_ident) args.offset body), frame) := by
  rw [call_gated, GateArgs.check_eq_gate]
  unfold FreezeAuthority.require_not_frozen
  cases gate (frame.locals args.config_ident) (frame.locals args.per_account_ident) args.offset <;> rfl

end FreezeAuthority.Macros
