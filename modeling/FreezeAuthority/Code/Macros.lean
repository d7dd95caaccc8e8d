import FreezeAuthority.Code.FrozenAccount

/-!
# `freeze-authority-macros`: the attribute `#[require_not_frozen]`

The macro reads its arguments at compile time and puts a statement in front of a function. `syn` has
parsed both. A token tree that the macro does not look into is its text.
-/

namespace FreezeAuthority.Macros

/-- The compiler's own machine, where the macro runs. -/
class Host where
  usizeBits : Nat

/-! ## What `syn` parses -/

/-- A raw identifier has its `r#` in the text. -/
abbrev Ident := String

structure PathSegment where
  ident : Ident
  has_arguments : Bool
deriving DecidableEq

structure Path where
  leading_colon : Bool
  segments : List PathSegment
deriving DecidableEq

def Path.get_ident : Path → Option Ident
  | ⟨false, [⟨ident, false⟩]⟩ => some ident
  | _ => none

def Path.is_ident (self : Path) (ident : Ident) : Bool := self.get_ident == some ident

/-- An integer literal of any length. In the last argument it may have a minus sign. -/
structure LitInt where
  negative : Bool
  value : Nat
deriving DecidableEq

inductive Lit
  | Int (i : LitInt)
  | other (tokens : String)
deriving DecidableEq

inductive Expr
  | Lit (lit : Lit)
  | Path (path : Path)
  | other (tokens : String)
deriving DecidableEq

/-- The name that the guard `Expr::Path(p) if p.path.get_ident().is_some()` finds. -/
def Expr.get_ident : Expr → Option Ident
  | .Path path => path.get_ident
  | _ => none

structure MetaNameValue where
  path : Path
  value : Expr
deriving DecidableEq

/-- What an error points at. -/
inductive Spanned
  | expr (value : Expr)
  | path (path : Path)
deriving DecidableEq

/-- `syn::Error`. -/
structure CompileError where
  spanned : Spanned
  message : String
deriving DecidableEq

/-- `LitInt::base10_parse::<usize>`. -/
def LitInt.base10_parse [Host] (self : LitInt) : Except CompileError Nat :=
  if self.negative then .error ⟨.expr (.Lit (.Int self)), "invalid digit found in string"⟩
  else if 2 ^ Host.usizeBits ≤ self.value then
    .error ⟨.expr (.Lit (.Int self)), "number too large to fit in target type"⟩
  else .ok self.value

/-! ## The arguments -/

/-- The variables that the loop over the arguments assigns. -/
@[ext]
structure GateArgs where
  config_ident : Ident
  per_account_ident : Ident
  offset : Nat
deriving DecidableEq

def GateArgs.default : GateArgs := ⟨"freeze_config", "freeze_account", 0⟩

/-- The body of `for pair in args`. -/
def bind_pair [Host] (vars : GateArgs) (pair : MetaNameValue) : Except CompileError GateArgs := do
  if pair.path.is_ident "offset" then
    match pair.value with
    | .Lit (.Int i) =>
      let offset ← i.base10_parse
      return { vars with offset }
    | value => throw ⟨.expr value, "offset must be an integer literal"⟩
  else
    let some value_ident := pair.value.get_ident
      | throw ⟨.expr pair.value, "expected a bare parameter name"⟩
    if pair.path.is_ident "freeze_config" then return { vars with config_ident := value_ident }
    else if pair.path.is_ident "freeze_account" then return { vars with per_account_ident := value_ident }
    -- `caller` is accepted, and its name is dropped.
    else if pair.path.is_ident "caller" then return vars
    else throw ⟨.path pair.path,
      "unknown key; expected `freeze_config` or `freeze_account` or `caller` or `offset`"⟩

def bind_args [Host] (attr : List MetaNameValue) : Except CompileError GateArgs :=
  attr.foldlM bind_pair .default

/-! ## The function -/

/-- `From<FreezeError>` for the error type of the function. -/
class FromFreezeError (ε : Type) where
  into : FreezeError → ε

instance : FromFreezeError SpelError := ⟨FreezeError.toSpelError⟩

variable [Lez]

/-- The accounts that the identifiers name, and whatever else the function has and can reach. -/
structure Frame (σ : Type) where
  locals : Ident → AccountWithMetadata
  rest : σ

/-- A statement of the source, or the block that the macro quotes. The source's own may read and change
everything. It goes on, or returns from the function. -/
inductive Stmt (σ ε α : Type)
  | source (run : Borrow (Frame σ) (Except ε α) Unit)
  | prologue (args : GateArgs)

structure ItemFn (σ ε α : Type) where
  stmts : List (Stmt σ ε α)

variable {σ ε α : Type}

def ItemFn.gated (func : ItemFn σ ε α) (args : GateArgs) : ItemFn σ ε α :=
  { func with stmts := func.stmts.insertIdx 0 (.prologue args) }

def require_not_frozen [Host] (attr : List MetaNameValue) (func : ItemFn σ ε α) :
    Except CompileError (ItemFn σ ε α) := do
  let args ← bind_args attr
  return func.gated args

/-! ## A call of the function -/

variable [Crates] [FromFreezeError ε]

/-- What the quoted block does. -/
def GateArgs.check (args : GateArgs) (locals : Ident → AccountWithMetadata) : Except ε Unit := do
  let cfg ← (FreezeConfig.from_account_at (locals args.config_ident) args.offset).mapError
    FromFreezeError.into
  if cfg.is_frozen then throw (FromFreezeError.into .Frozen)
  let acc ← (FrozenAccountState.from_data_or_default
    (locals args.per_account_ident).account.data.bytes).mapError FromFreezeError.into
  if acc.is_frozen then throw (FromFreezeError.into .AccountFrozen)

def Stmt.run : Stmt σ ε α → Borrow (Frame σ) (Except ε α) Unit
  | source run => run
  | prologue args => do
    let frame ← get
    .attempt ((args.check frame.locals).mapError .error)

/-- What the call returns, `none` where control falls off the end, and the frame it leaves. -/
def ItemFn.call (func : ItemFn σ ε α) (frame : Frame σ) : Option (Except ε α) × Frame σ :=
  match (forM func.stmts Stmt.run).call frame with
  | (.ok (), frame) => (none, frame)
  | (.error returned, frame) => (some returned, frame)

/-! ## The markers -/

/-- An attribute that is still on the item. Nothing here looks at its arguments. -/
structure Attribute where
  path : Path
deriving DecidableEq

/-- `syn::ItemMod`. -/
structure ItemMod where
  attrs : List Attribute
  ident : Ident
  content : String
deriving DecidableEq

/-- The item below an attribute, a module or anything else. -/
inductive Item
  | Mod (module : ItemMod)
  | other (tokens : String)
deriving DecidableEq

/-- It points at the name of the module, a path of one segment. -/
def misplaced (ident : Ident) : CompileError :=
  ⟨.path ⟨false, [⟨ident, false⟩]⟩,
    "#[freeze_authority] must come after #[lez_program]: a marker above " ++
      "it expands first and is invisible to the framework"⟩

def misplaced_above_lez_program (module : ItemMod) : Option CompileError :=
  if module.attrs.any (·.path.is_ident "lez_program") then some (misplaced module.ident) else none

def freeze_authority (item : Item) : Except CompileError Item :=
  match item with
  | .Mod module =>
    match misplaced_above_lez_program module with
    | some err => .error err
    | none => .ok item
  | .other _ => .ok item

def freeze_exempt (item : Item) : Item := item

/-! ## What the compiler expands -/

/-- What the path of an attribute resolves to. -/
inductive AttrMacro
  | lez_program
  | freeze_authority
  | other
deriving DecidableEq

/-- The attributes of a module expand from top to bottom, and each finds the ones below it on the module.
The result is what each `#[lez_program]` finds, where the framework looks for the marker. -/
def expand (resolve : Path → AttrMacro) (ident : Ident) (content : String) :
    List Attribute → Except CompileError (List (List Attribute))
  | [] => .ok []
  | attr :: below =>
    match resolve attr.path with
    | .lez_program => do
      let later ← expand resolve ident content below
      return below :: later
    | .freeze_authority => do
      let _ ← freeze_authority (.Mod ⟨below, ident, content⟩)
      expand resolve ident content below
    | .other => expand resolve ident content below

/-- The gates of a function, from the top one to the one next to it. -/
def require_not_frozen_all [Host] (attrs : List (List MetaNameValue)) (func : ItemFn σ ε α) :
    Except CompileError (ItemFn σ ε α) :=
  attrs.foldlM (fun func attr => require_not_frozen attr func) func

end FreezeAuthority.Macros
