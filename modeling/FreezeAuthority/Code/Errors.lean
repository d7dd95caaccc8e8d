import FreezeAuthority.Code.Types

/-! # `errors.rs` -/

namespace FreezeAuthority

inductive FreezeError
  | NotInitialized
  | AlreadyInitialized
  | InvalidCandidate
  | UndeployedPda
  | CandidateMismatch
  | NotFreezeAuthority
  | NotAdmin
  | NotAdminOrFreezeAuthority
  | MissingSignature
  | Renounced
  | AlreadyFrozen
  | NotFrozen
  | AccountAlreadyFrozen
  | AccountNotFrozen
  | EncodingFailed
  | DecodingFailed
  | Frozen
  | AccountFrozen
  | AccountDataTooLarge
  | SlotOutOfBounds
  | UnownedSigner
  | NoNomination
  | NotNominee
  | ConfigNotOwned
deriving DecidableEq

namespace FreezeError

def code : FreezeError → Nat
  | NotInitialized => 201
  | AlreadyInitialized => 202
  | InvalidCandidate => 203
  | UndeployedPda => 204
  | CandidateMismatch => 205
  | NotFreezeAuthority => 206
  | NotAdmin => 207
  | NotAdminOrFreezeAuthority => 208
  | MissingSignature => 209
  | Renounced => 210
  | AlreadyFrozen => 211
  | NotFrozen => 212
  | AccountAlreadyFrozen => 213
  | AccountNotFrozen => 214
  | EncodingFailed => 215
  | DecodingFailed => 216
  | Frozen => 217
  | AccountFrozen => 218
  | AccountDataTooLarge => 219
  | SlotOutOfBounds => 220
  | UnownedSigner => 221
  | NoNomination => 222
  | NotNominee => 223
  | ConfigNotOwned => 224

/-- The `Display` text. -/
def to_string : FreezeError → String
  | NotInitialized => "freeze authority not initialized"
  | AlreadyInitialized => "freeze authority already initialized"
  | InvalidCandidate => "invalid freeze candidate"
  | UndeployedPda => "candidate PDA is not deployed"
  | CandidateMismatch => "candidate address mismatch"
  | NotFreezeAuthority => "signer is not the current freeze authority"
  | NotAdmin => "signer is not the current admin"
  | NotAdminOrFreezeAuthority => "signer is not the current admin or freeze authority"
  | MissingSignature => "freeze signature missing"
  | Renounced => "freeze authority renounced"
  | AlreadyFrozen => "program is already frozen"
  | NotFrozen => "program is not frozen"
  | AccountAlreadyFrozen => "account is already frozen"
  | AccountNotFrozen => "account is not frozen"
  | EncodingFailed => "failed to encode freeze account state"
  | DecodingFailed => "failed to decode freeze account state"
  | Frozen => "program is frozen"
  | AccountFrozen => "account is frozen"
  | AccountDataTooLarge => "FreezeConfig too large for account data"
  | SlotOutOfBounds => "embedded slot window out of bounds"
  | UnownedSigner => "freeze authority key is owned by no program"
  | NoNomination => "no freeze authority nominee to accept"
  | NotNominee => "signer is not the freeze authority nominee"
  | ConfigNotOwned => "freeze config is not owned by this program"

/-- `From<FreezeError> for SpelError`. -/
def toSpelError (e : FreezeError) : SpelError := .Custom e.code e.to_string

/-- `From<AuthorityError> for FreezeError`. -/
def ofAuthorityError : AuthorityError → FreezeError
  | .InvalidCandidate => InvalidCandidate
  | .UndeployedPda => UndeployedPda
  | .CandidateMismatch => CandidateMismatch
  | .NotHolder => NotFreezeAuthority
  | .Renounced => Renounced
  | .MissingSignature => MissingSignature
  | .SlotOutOfBounds => SlotOutOfBounds
  | .UnownedSigner => UnownedSigner
  | .NoNomination => NoNomination
  | .NotNominee => NotNominee

/-- The codes run from 201 on, in the order of the declaration. -/
theorem code_eq (e : FreezeError) : e.code = 201 + e.ctorIdx := by
  cases e <;> rfl

theorem code_injective : Function.Injective code := by
  intro a b h
  have hidx : a.ctorIdx = b.ctorIdx := by
    rw [code_eq, code_eq] at h
    omega
  rw [← ofNat_ctorIdx a, ← ofNat_ctorIdx b, hidx]

theorem toSpelError_injective : Function.Injective toSpelError := by
  intro a b h
  simp only [toSpelError, SpelError.Custom.injEq] at h
  exact code_injective h.1

end FreezeError

end FreezeAuthority
