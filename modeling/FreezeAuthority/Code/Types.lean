import FreezeAuthority.Lib.Borrow
import Mathlib.Algebra.Group.Nat.Defs

/-!
# The data types

The accounts LEZ hands to a program, the authority slot of `spel-authority`, the output of
an instruction, and the two states this library stores.
-/

namespace FreezeAuthority

/-- A Rust array `[α; n]`. -/
@[ext]
structure FixedArray (α : Type) (n : Nat) where
  toList : List α
  length_toList : toList.length = n
deriving DecidableEq

def FixedArray.fill {α : Type} (n : Nat) (a : α) : FixedArray α n :=
  ⟨List.replicate n a, List.length_replicate⟩

abbrev Bytes32 := FixedArray UInt8 32

abbrev ProgramId := FixedArray UInt32 8

def ProgramId.default : ProgramId := .fill 8 0

structure AccountId where
  value : Bytes32
deriving DecidableEq

/-- The all-zero id: a vacant slot, no nominee, the argument that cancels a nomination. -/
def AccountId.default : AccountId := ⟨.fill 32 0⟩

structure PdaSeed where
  bytes : Bytes32
deriving DecidableEq

/-! ## Accounts -/

/-- The LEZ build a program runs on. -/
class Lez where
  -- The longest account data that LEZ stores. It fits in memory.
  dataMaxLength : Nat
  usizeBits : Nat
  addressable : dataMaxLength < 2 ^ usizeBits

/-- A sum of two `usize` values. It wraps. -/
def usizeAdd [Lez] (a b : Nat) : Nat := (a + b) % 2 ^ Lez.usizeBits

/-- A Rust `&[u8]`. It fits in memory. -/
structure Slice [Lez] where
  bytes : List UInt8
  addressable : bytes.length < 2 ^ Lez.usizeBits

@[ext]
structure Data [Lez] where
  bytes : List UInt8
  fits : bytes.length ≤ Lez.dataMaxLength
deriving DecidableEq

/-- `Vec<u8>::try_into`. -/
def Data.try_from [Lez] (bytes : List UInt8) : Option Data :=
  if h : bytes.length ≤ Lez.dataMaxLength then some ⟨bytes, h⟩ else none

def Data.empty [Lez] : Data := ⟨[], Nat.zero_le _⟩

@[ext]
structure Account [Lez] where
  program_owner : ProgramId
  balance : BitVec 128
  data : Data
  nonce : BitVec 128
deriving DecidableEq

def Account.default [Lez] : Account := ⟨.default, 0, .empty, 0⟩

/-- An account as an instruction sees it. `is_authorized` says whether it signed. -/
@[ext]
structure AccountWithMetadata [Lez] where
  account : Account
  is_authorized : Bool
  account_id : AccountId
deriving DecidableEq

def AccountWithMetadata.withData [Lez] (a : AccountWithMetadata) (data : Data) : AccountWithMetadata :=
  { a with account := { a.account with data := data } }

/-! ## The authority slot -/

@[ext]
structure AuthoritySlot where
  holder : AccountId
  nominee : AccountId
deriving DecidableEq

namespace AuthoritySlot

def ENCODED_LEN : Nat := 64

def vacant : AuthoritySlot := ⟨.default, .default⟩

def bytes (s : AuthoritySlot) : List UInt8 := s.holder.value.toList ++ s.nominee.value.toList

end AuthoritySlot

/-- `authority::AuthorityCandidate`: what the caller claims about the new holder. -/
inductive AuthorityCandidate
  | Signer
  | Pda (program_id : ProgramId) (seed : Bytes32)
deriving DecidableEq

inductive AuthorityError
  | InvalidCandidate
  | UndeployedPda
  | CandidateMismatch
  | NotHolder
  | Renounced
  | MissingSignature
  | SlotOutOfBounds
  | UnownedSigner
  | NoNomination
  | NotNominee
deriving DecidableEq

inductive AdminError
  | NotInitialized
  | Renounced
  | NotAdmin
  | MissingSignature
  | InvalidCandidate
  | UndeployedPda
  | CandidateMismatch
  | EncodingFailed
  | DecodingFailed
  | AccountDataTooLarge
  | SlotOutOfBounds
  | UnownedSigner
  | NoNomination
  | NotNominee
  | NotGenesisAdmin
  | ConfigNotOwned
deriving DecidableEq

/-! ## What an instruction returns -/

inductive SpelError
  | Custom (code : Nat) (message : String)
  | SerializationError (message : String)
  | Unauthorized (message : String)
deriving DecidableEq

inductive Claim
  | Pda (seed : PdaSeed)
deriving DecidableEq

inductive AutoClaim
  | None
  | Claimed (claim : Claim)
deriving DecidableEq

def AutoClaim.required_claim : AutoClaim → Option Claim
  | .None => none
  | .Claimed claim => some claim

structure AccountPostState [Lez] where
  account : Account
  required_claim : Option Claim
deriving DecidableEq

def AccountPostState.of_pair [Lez] (account : Account) (claim : AutoClaim) : AccountPostState :=
  ⟨account, claim.required_claim⟩

def AccountPostState.of_account [Lez] (account : Account) : AccountPostState := ⟨account, none⟩

structure SpelOutput [Lez] where
  post_states : List AccountPostState
deriving DecidableEq

abbrev SpelResult [Lez] := Except SpelError SpelOutput

/-! ## The stored states -/

@[ext]
structure FreezeConfig where
  slot : AuthoritySlot
  is_frozen : Bool
deriving DecidableEq

def FreezeConfig.default : FreezeConfig := ⟨.vacant, false⟩

@[ext]
structure FrozenAccountState where
  is_frozen : Bool
deriving DecidableEq

def FrozenAccountState.default : FrozenAccountState := ⟨false⟩

abbrev FreezeCandidate := AuthorityCandidate

end FreezeAuthority
