import FreezeAuthority.Lib.Codec
import FreezeAuthority.Code.Ledger

/-!
# The three sample programs

Each keeps a value in an account of its own type. The embedded one keeps both authority slots in the
same account, the other two have a config account for each.
-/

namespace FreezeAuthority

/-- What the samples call in `admin-authority`, next to what the library calls there. -/
class AdminCrate [Lez] [Crates] where
  admin_default : Crates.AdminConfig
  admin_to_vec : Crates.AdminConfig → Option (List UInt8)
  admin_try_from_slice : List UInt8 → Option Crates.AdminConfig
  admin_bootstrap : AuthorityCandidate → AccountWithMetadata → Borrow AccountWithMetadata AdminError Unit
  admin_bootstrap_at : Nat → AuthorityCandidate → AccountWithMetadata →
    Borrow AccountWithMetadata AdminError Unit
  /-- The prologue of `#[require_admin]` with an `offset`. -/
  require_admin_at : AccountWithMetadata → Nat → AccountWithMetadata → Except SpelError Unit

/-- The framework's check of an account parameter with `signer`, before the function. -/
class Framework [Lez] where
  account_signer : AccountWithMetadata → Except SpelError Unit

/-! ## `borsh` on the fields -/

def u64_to_vec (v : UInt64) : List UInt8 := LittleEndian.encode 8 v.toNat

def u64_try_from_slice (d : List UInt8) : Option UInt64 :=
  if d.length = 8 then some (UInt64.ofNat (LittleEndian.decode d)) else none

def array_try_from_slice (n : Nat) (d : List UInt8) : Option (FixedArray UInt8 n) :=
  if h : d.length = n then some ⟨d, h⟩ else none

variable [Lez]

/-! ## Account types

`from_account` and `write_to` are one text in the three samples.
-/

/-- A type with `#[account_type]`, and the codec that `borsh` derives for it. -/
class AccountType (α : Type) where
  to_vec : α → Option (List UInt8)
  try_from_slice : List UInt8 → Option α

namespace AccountType

variable {α : Type} [AccountType α]

def from_account (account : AccountWithMetadata) : Except SpelError α :=
  match try_from_slice account.account.data.bytes with
  | some state => .ok state
  | none => .error (.SerializationError "decoding failed")

def write_to (self : α) : Borrow AccountWithMetadata SpelError Unit := do
  let bytes ← .attempt (match to_vec self with
    | some bytes => .ok bytes
    | none => .error (.SerializationError "encoding failed"))
  let data ← .attempt (match Data.try_from bytes with
    | some data => .ok data
    | none => .error (.SerializationError "data too large"))
  modify (·.withData data)

end AccountType

/-! ## The samples with config accounts of their own -/

namespace Sample

@[ext]
structure ProgramConfig where
  value : UInt64
deriving DecidableEq

namespace ProgramConfig

def default : ProgramConfig := ⟨0⟩

instance : AccountType ProgramConfig where
  to_vec self := some (u64_to_vec self.value)
  try_from_slice d := do
    let (value, d) ← Field.next 8 u64_try_from_slice d
    if d.isEmpty then some ⟨value⟩ else none

def from_account (account : AccountWithMetadata) : Except SpelError ProgramConfig :=
  AccountType.from_account account

def write_to (self : ProgramConfig) : Borrow AccountWithMetadata SpelError Unit := AccountType.write_to self

end ProgramConfig

/-- `initialize` of the auto sample. -/
def initialize_config (config : AccountWithMetadata) : SpelResult := do
  let config ← (ProgramConfig.default.write_to).on config
  return execute [config.account]

/-- `update_value` is the same in the auto sample and in the manual one. -/
def update_value (config : AccountWithMetadata) (new_value : UInt64) : SpelResult := do
  let state ← ProgramConfig.from_account config
  let config ← (({ state with value := new_value } : ProgramConfig).write_to).on config
  return execute [config.account]

def read_value (config : AccountWithMetadata) : SpelResult := do
  let _state ← ProgramConfig.from_account config
  return execute [config.account]

/-- `initialize` of the manual sample. -/
def initialize_configs [Crates] [AdminCrate] (admin_config freeze_config config signer : AccountWithMetadata) :
    SpelResult := do
  let admin_config ← ((AdminCrate.admin_bootstrap .Signer signer).on admin_config).mapError
    Crates.admin_error_to_spel
  let freeze_config ← fromFreeze ((FreezeConfig.bootstrap .Signer signer).on freeze_config)
  let config ← (ProgramConfig.default.write_to).on config
  return execute [admin_config.account, freeze_config.account, config.account, signer.account]

/-! What the dispatcher runs, next to the management instructions. -/

structure Accounts where
  store : Store
  config : AccountWithMetadata

inductive Action
  | management (admin_config : AccountWithMetadata) (call : Call)
  | update_value (new_value : UInt64)
  | read_value

structure Input where
  caller : AccountWithMetadata
  action : Action

def Accounts.land (T : Accounts) (D : Deployment) (out : SpelOutput) : Accounts :=
  match out.post_states with
  | [post] => { T with config := T.config.land D.program_id post }
  | _ => T

/-- The auto sample has its gate from the framework, the manual one from its own attribute. The gate comes
with the accounts it reads and a `caller` that has to sign. The marker is the one of the caller. -/
def step [Crates] [Framework] (D : Deployment) (T : Accounts) (i : Input) : Except SpelError Accounts := do
  match i.action with
  | .management admin_config call =>
    let store ← D.step T.store ⟨admin_config, i.caller, call⟩
    return { T with store }
  | .update_value new_value =>
    Framework.account_signer i.caller
    let out ← require_not_frozen T.store.freeze_config (T.store.marker i.caller.account_id.value) D.offset
      (update_value T.config new_value)
    return T.land D out
  | .read_value =>
    let out ← read_value T.config
    return T.land D out

def machine [Crates] [Framework] (D : Deployment) : Machine Accounts Input SpelError := ⟨step D⟩

end Sample

/-! ## The sample with both slots in its account -/

namespace Embedded

variable [Crates]

@[ext]
structure ProgramConfig where
  value : UInt64
  padding : FixedArray UInt8 24
  admin : Crates.AdminConfig
  freeze : FreezeConfig

def ADMIN_SLOT_OFFSET : Nat := 32

def FREEZE_SLOT_OFFSET : Nat := 96

variable [AdminCrate]

namespace ProgramConfig

instance : AccountType ProgramConfig where
  to_vec self := do
    let admin ← AdminCrate.admin_to_vec self.admin
    let freeze ← Crates.config_to_vec self.freeze
    return u64_to_vec self.value ++ self.padding.toList ++ admin ++ freeze
  try_from_slice d := do
    let (value, d) ← Field.next 8 u64_try_from_slice d
    let (padding, d) ← Field.next 24 (array_try_from_slice 24) d
    let (admin, d) ← Field.next AuthoritySlot.ENCODED_LEN AdminCrate.admin_try_from_slice d
    let (freeze, d) ← Field.next FreezeConfig.SIZE Crates.config_try_from_slice d
    if d.isEmpty then some ⟨value, padding, admin, freeze⟩ else none

def from_account (account : AccountWithMetadata) : Except SpelError ProgramConfig :=
  AccountType.from_account account

def write_to (self : ProgramConfig) : Borrow AccountWithMetadata SpelError Unit := AccountType.write_to self

end ProgramConfig

/-- `initialize` with the bootstrap that `#[admin_initialize]` injects behind it, for the signing caller. -/
def initialize_config (caller config : AccountWithMetadata) : SpelResult := do
  let state : ProgramConfig :=
    { value := 0, padding := .fill 24 0, admin := AdminCrate.admin_default, freeze := .default }
  let config ← state.write_to.on config
  let config ← ((AdminCrate.admin_bootstrap_at ADMIN_SLOT_OFFSET .Signer caller).on config).mapError
    Crates.admin_error_to_spel
  return execute [config.account]

def update_value (config : AccountWithMetadata) (new_value : UInt64) : SpelResult := do
  let state ← ProgramConfig.from_account config
  let config ← (({ state with value := new_value } : ProgramConfig).write_to).on config
  return execute [config.account]

def read_value (config : AccountWithMetadata) : SpelResult := do
  let _state ← ProgramConfig.from_account config
  return execute [config.account]

def withdraw (config : AccountWithMetadata) : SpelResult := do
  let state ← ProgramConfig.from_account config
  let config ← (({ state with value := 0 } : ProgramConfig).write_to).on config
  return execute [config.account]

/-! What the dispatcher runs. The library's `freeze_config` is the account of the sample. -/

inductive Action
  | management (call : Call)
  | update_value (new_value : UInt64)
  | read_value
  | withdraw
  -- An instruction of `admin-authority`, as what it leaves in the admin slot.
  | admin (next : Crates.AdminConfig)

structure Input where
  caller : AccountWithMetadata
  action : Action

def deployment (program_id : ProgramId) (deployed : program_id ≠ .default) : Deployment where
  program_id := program_id
  deployed := deployed
  mode := .auto
  offset := FREEZE_SLOT_OFFSET
  admin_offset := ADMIN_SLOT_OFFSET

def land (D : Deployment) (S : Store) (out : SpelOutput) : Store :=
  match out.post_states with
  | [post] => { S with freeze_config := S.freeze_config.land D.program_id post }
  | _ => S

def writeAdmin (next : Crates.AdminConfig) (config : AccountWithMetadata) : AccountWithMetadata :=
  match AdminCrate.admin_to_vec next with
  | some slot =>
    config.withData ((Data.try_from (Window.write config.account.data.bytes ADMIN_SLOT_OFFSET slot)).getD
      config.account.data)
  | none => config

/-- `update_value` and `withdraw` are behind the admin check, which asks for the signature of the caller, and
`update_value` behind the gate too. -/
def step (D : Deployment) (S : Store) (i : Input) : Except SpelError Store := do
  match i.action with
  | .management call => D.step S ⟨S.freeze_config, i.caller, call⟩
  | .update_value new_value =>
    AdminCrate.require_admin_at S.freeze_config ADMIN_SLOT_OFFSET i.caller
    let out ← require_not_frozen S.freeze_config (S.marker i.caller.account_id.value) FREEZE_SLOT_OFFSET
      (update_value S.freeze_config new_value)
    return land D S out
  | .read_value =>
    let out ← read_value S.freeze_config
    return land D S out
  | .withdraw =>
    AdminCrate.require_admin_at S.freeze_config ADMIN_SLOT_OFFSET i.caller
    let out ← withdraw S.freeze_config
    return land D S out
  | .admin next => return { S with freeze_config := writeAdmin next S.freeze_config }

def machine (D : Deployment) : Machine Store Input SpelError := ⟨step D⟩

end Embedded

end FreezeAuthority
