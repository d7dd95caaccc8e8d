import FreezeAuthority.Code.Crates

/-! # `config.rs` -/

namespace FreezeAuthority

variable [Lez] [Crates]

/-- `?` on a result of `authority`, in a function that returns a `FreezeError`. -/
def fromAuthority {α : Type} (r : Except AuthorityError α) : Except FreezeError α :=
  r.mapError .ofAuthorityError

/-- `?` on a result of this library, in a function that returns a `SpelError`. -/
def fromFreeze {α : Type} (r : Except FreezeError α) : Except SpelError α :=
  r.mapError FreezeError.toSpelError

namespace FreezeConfig

/-- `FreezeConfig::initialize`, a name that Lean reserves. -/
def initialize_config (freeze_authority : AccountId) : Except FreezeError FreezeConfig := do
  let slot ← fromAuthority <| Crates.slot_initialize freeze_authority
  return { slot, is_frozen := false }

def assert (self : FreezeConfig) (signer : AccountWithMetadata) : Except FreezeError Unit :=
  fromAuthority (Crates.slot_assert self.slot signer)

def encode (self : FreezeConfig) : Except FreezeError (List UInt8) :=
  match Crates.config_to_vec self with
  | some bytes => .ok bytes
  | none => .error .EncodingFailed

def decode (data : List UInt8) : Except FreezeError FreezeConfig :=
  if data.isEmpty then .error .NotInitialized
  else match Crates.config_try_from_slice data with
    | some config => .ok config
    | none => .error .DecodingFailed

def decode_at (data : List UInt8) (offset : Nat) : Except FreezeError FreezeConfig := do
  if data.isEmpty then throw .NotInitialized
  let slot ← fromAuthority (Crates.slot_read_at data offset)
  match data[usizeAdd offset AuthoritySlot.ENCODED_LEN]? with
  | some 0 => return { slot, is_frozen := false }
  | some 1 => return { slot, is_frozen := true }
  | some _ => throw .DecodingFailed
  | none => throw .SlotOutOfBounds

def from_account (account : AccountWithMetadata) : Except FreezeError FreezeConfig :=
  decode account.account.data.bytes

def from_account_at (account : AccountWithMetadata) (offset : Nat) : Except FreezeError FreezeConfig :=
  decode_at account.account.data.bytes offset

def from_owned_account (account : AccountWithMetadata) (program_id : ProgramId) :
    Except FreezeError FreezeConfig :=
  if account.account.program_owner ≠ program_id then .error .ConfigNotOwned
  else from_account account

def from_owned_account_at (account : AccountWithMetadata) (offset : Nat) (program_id : ProgramId) :
    Except FreezeError FreezeConfig :=
  if account.account.program_owner ≠ program_id then .error .ConfigNotOwned
  else from_account_at account offset

def set_is_frozen (current : AccountWithMetadata) (state : Bool) : Borrow FreezeConfig FreezeError Unit := do
  let self ← get
  .attempt (fromAuthority (Crates.slot_assert self.slot current))
  set { self with is_frozen := state }

/-- `account.account.data = bytes.try_into().map_err(|_| AccountDataTooLarge)?` -/
def assignData (bytes : List UInt8) : Borrow AccountWithMetadata FreezeError Unit := do
  let data ← .attempt (match Data.try_from bytes with
    | some data => .ok data
    | none => .error .AccountDataTooLarge)
  modify (·.withData data)

def write_to (self : FreezeConfig) : Borrow AccountWithMetadata FreezeError Unit := do
  let bytes ← .attempt self.encode
  assignData bytes

def write_to_at (self : FreezeConfig) (offset : Nat) : Borrow AccountWithMetadata FreezeError Unit := do
  let bytes := (← get).account.data.bytes
  let bytes ← .attempt (fromAuthority ((Crates.slot_write_at self.slot offset).on bytes))
  let flag := usizeAdd offset AuthoritySlot.ENCODED_LEN
  let bytes ← .attempt
    (if flag < bytes.length then .ok (bytes.set flag self.is_frozen.toUInt8) else .error .SlotOutOfBounds)
  assignData bytes

def bootstrap (new_authority : FreezeCandidate) (new_authority_account : AccountWithMetadata) :
    Borrow AccountWithMetadata FreezeError Unit := do
  let resolved ← .attempt (fromAuthority (Crates.validate new_authority new_authority_account))
  let state ← .attempt (initialize_config resolved)
  state.write_to

def bootstrap_at (offset : Nat) (candidate : FreezeCandidate) (new_account : AccountWithMetadata) :
    Borrow AccountWithMetadata FreezeError Unit := do
  let resolved ← .attempt (fromAuthority (Crates.validate candidate new_account))
  let state ← .attempt (initialize_config resolved)
  state.write_to_at offset

/-- A fallible `&mut self` method of the slot, called on `self.slot`. -/
def onSlot (m : Borrow AuthoritySlot AuthorityError Unit) : Borrow FreezeConfig FreezeError Unit := do
  let self ← get
  let (result, slot) := m.call self.slot
  set { self with slot }
  .attempt (fromAuthority result)

def transfer (candidate : FreezeCandidate) (new_account : AccountWithMetadata) :
    Borrow FreezeConfig FreezeError Unit := do
  let next ← .attempt (fromAuthority (Crates.validate candidate new_account))
  onSlot (Crates.slot_transfer_to next)

/-- The dual path of `renounce` and `nominate`: the admin, or the holder. -/
def adminOrHolder (self : FreezeConfig) (admin_config : Option (Crates.AdminConfig))
    (current : AccountWithMetadata) : Except FreezeError Unit :=
  let admin_ok := admin_config.any fun a => (Crates.assert_admin a current).isOk
  if !admin_ok && !(Crates.slot_assert self.slot current).isOk then .error .NotAdminOrFreezeAuthority
  else .ok ()

def renounce (admin_config : Option (Crates.AdminConfig)) (current : AccountWithMetadata) :
    Borrow FreezeConfig FreezeError Unit := do
  let self ← get
  .attempt (self.adminOrHolder admin_config current)
  set { self with slot := Crates.slot_renounce self.slot }

def nominate (admin_config : Option (Crates.AdminConfig)) (current : AccountWithMetadata)
    (next : AccountId) : Borrow FreezeConfig FreezeError Unit := do
  let self ← get
  .attempt (self.adminOrHolder admin_config current)
  set { self with slot := Crates.slot_nominate self.slot next }

def accept (nominee : AccountWithMetadata) : Borrow FreezeConfig FreezeError Unit :=
  onSlot (Crates.slot_accept nominee)

def nominee (self : FreezeConfig) : Option AccountId := Crates.slot_pending self.slot

/-! The `perform_*_at` functions differ in the method they call between load and store. -/

/-- Loads the config at `offset`, changes it with `m`, and writes it back. -/
def perform_at (offset : Nat) (m : Borrow FreezeConfig FreezeError Unit) :
    Borrow AccountWithMetadata FreezeError Unit := do
  let state ← .attempt (from_account_at (← get) offset)
  let state ← .attempt (m.on state)
  state.write_to_at offset

def perform_nominate_at (admin_config : Option (Crates.AdminConfig)) (offset : Nat)
    (current : AccountWithMetadata) (next : AccountId) : Borrow AccountWithMetadata FreezeError Unit :=
  perform_at offset (nominate admin_config current next)

def perform_accept_at (offset : Nat) (nominee : AccountWithMetadata) :
    Borrow AccountWithMetadata FreezeError Unit :=
  perform_at offset (accept nominee)

def perform_transfer (candidate : FreezeCandidate) (new_account : AccountWithMetadata) :
    Borrow AccountWithMetadata FreezeError Unit :=
  perform_at 0 (transfer candidate new_account)

def perform_transfer_at (offset : Nat) (candidate : FreezeCandidate) (new_account : AccountWithMetadata) :
    Borrow AccountWithMetadata FreezeError Unit :=
  perform_at offset (transfer candidate new_account)

def perform_renounce (admin_config : Option (Crates.AdminConfig)) (current : AccountWithMetadata) :
    Borrow AccountWithMetadata FreezeError Unit :=
  perform_at 0 (renounce admin_config current)

def perform_renounce_at (admin_config : Option (Crates.AdminConfig)) (offset : Nat)
    (current : AccountWithMetadata) : Borrow AccountWithMetadata FreezeError Unit :=
  perform_at offset (renounce admin_config current)

def perform_freeze (current : AccountWithMetadata) : Borrow AccountWithMetadata FreezeError Unit :=
  perform_at 0 (set_is_frozen current true)

def perform_freeze_at (offset : Nat) (current : AccountWithMetadata) :
    Borrow AccountWithMetadata FreezeError Unit :=
  perform_at offset (set_is_frozen current true)

def perform_release (current : AccountWithMetadata) : Borrow AccountWithMetadata FreezeError Unit :=
  perform_at 0 (set_is_frozen current false)

def perform_release_at (offset : Nat) (current : AccountWithMetadata) :
    Borrow AccountWithMetadata FreezeError Unit :=
  perform_at offset (set_is_frozen current false)

/-! What the framework asks of a type that a consumer embeds. -/

/-- `FixedBorshSize`. -/
def SIZE : Nat := 65

/-- `SlotLayoutProbe`, where an error stands for the panic of `expect`. -/
def probe : Except FreezeError FreezeConfig := do
  let cfg ← initialize_config ⟨.fill 32 0xA5⟩
  return { slot := Crates.slot_nominate cfg.slot ⟨.fill 32 0x5A⟩, is_frozen := true }

end FreezeConfig

end FreezeAuthority
