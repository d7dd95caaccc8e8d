import FreezeAuthority.Spec.Reference

/-!
# The store never bricks itself

After `freeze_initialize` every account of the library stays canonical, so a call fails only for
what it asks.
-/

namespace FreezeAuthority

/-! ## The errors of a call -/

/-- What a call, or the gate, may answer once the config exists. -/
def FreezeError.live : List FreezeError :=
  [.InvalidCandidate, .UndeployedPda, .CandidateMismatch, .NotFreezeAuthority, .NotAdminOrFreezeAuthority,
    .MissingSignature, .Renounced, .AccountNotFrozen, .Frozen, .AccountFrozen, .UnownedSigner, .NoNomination,
    .NotNominee]

def FreezeError.dead : List FreezeError :=
  [.NotInitialized, .AlreadyInitialized, .NotAdmin, .AlreadyFrozen, .NotFrozen, .AccountAlreadyFrozen,
    .EncodingFailed, .DecodingFailed, .AccountDataTooLarge, .SlotOutOfBounds, .ConfigNotOwned]

example : FreezeError.dead.map FreezeError.code = [201, 202, 207, 211, 212, 213, 215, 216, 219, 220, 224] := rfl

theorem FreezeError.live_code {e : FreezeError} (h : e ∈ live) : e.code ∉ dead.map code := by
  cases e <;> first | (simp [live] at h; done) | decide

theorem FreezeError.live_of_authority {a : AuthorityError} (h : a ≠ .SlotOutOfBounds) :
    ofAuthorityError a ∈ live := by
  cases a <;> first | decide | exact absurd rfl h

/-- Of the errors of the slot, the one about its window is dead. -/
theorem fromAuthority_live {α : Type} {r : Except AuthorityError α} {e : FreezeError} {l : List AuthorityError}
    (hl : .SlotOutOfBounds ∉ l) (hr : ∀ a, r = .error a → a ∈ l) (h : fromAuthority r = .error e) :
    e ∈ FreezeError.live := by
  obtain ⟨a, ha, rfl⟩ := Result.mapError_eq_error.mp h
  apply FreezeError.live_of_authority
  rintro rfl
  exact hl (hr _ ha)

variable [Lez] [Crates]

theorem adminOrHolder_error {c : FreezeConfig} {admin : Option Crates.AdminConfig}
    {caller : AccountWithMetadata} {e : FreezeError} (h : c.adminOrHolder admin caller = .error e) :
    e ∈ FreezeError.live := by
  rw [FreezeConfig.adminOrHolder_eq_error h]
  decide

/-- An error of the admin check, or a live one of this library. -/
def Expected (e : SpelError) : Prop :=
  (∃ a, e = Crates.admin_error_to_spel a) ∨ ∃ f ∈ FreezeError.live, e = f.toSpelError

theorem fromFreeze_expected {α : Type} {r : Except FreezeError α} {e : SpelError}
    (hr : ∀ f, r = .error f → f ∈ FreezeError.live) (h : fromFreeze r = .error e) : Expected e := by
  obtain ⟨f, hf, rfl⟩ := Result.mapError_eq_error.mp h
  exact Or.inr ⟨f, hr f hf, rfl⟩

theorem admin_expected {α : Type} {r : Except AdminError α} {e : SpelError}
    (h : r.mapError Crates.admin_error_to_spel = .error e) : Expected e := by
  obtain ⟨a, -, rfl⟩ := Result.mapError_eq_error.mp h
  exact Or.inl ⟨a, rfl⟩

theorem check_expected {i : Instruction} {e : SpelError} (h : i.check = .error e) : Expected e := by
  unfold Instruction.check at h
  split at h
  · rcases Result.bind_eq_error.mp h with h | ⟨_, -, h⟩
    · exact admin_expected h
    · exact admin_expected h
  · cases h

theorem admits_expected {D : Deployment} {S : Store} {s : FreezeState} (h : D.Represents S s) {A : AccountId}
    (hmarker : s.marker A.value ≠ none) {e : SpelError} (hgate : D.admits S A = .error e) : Expected e := by
  rw [Deployment.admits_eq h] at hgate
  split at hgate
  · cases hgate
    exact Or.inr ⟨.Frozen, by decide, rfl⟩
  · split at hgate
    · cases hgate
    · cases hgate
      exact Or.inr ⟨.AccountFrozen, by decide, rfl⟩
    · exact absurd ‹_› hmarker

theorem guard_expected {D : Deployment} {S : Store} {s : FreezeState} (h : D.Represents S s)
    (hmarker : ∀ t, s.marker t ≠ none) {tx : Tx} {e : SpelError} (hguard : D.guard S tx = .error e) :
    Expected e := by
  unfold Deployment.guard at hguard
  split at hguard
  · split at hguard
    · exact admits_expected h (hmarker _) hguard
    · cases hguard
  · cases hguard

variable [LawfulCrates]

theorem assert_error {c : FreezeConfig} {caller : AccountWithMetadata} {e : FreezeError}
    (h : c.assert caller = .error e) : e ∈ FreezeError.live :=
  fromAuthority_live (by decide) (LawfulCrates.slot_assert_error c.slot caller) h

theorem method_error {i : Instruction} {m : Borrow FreezeConfig FreezeError Unit} (hm : i.method = some m)
    {c : FreezeConfig} {e : FreezeError} (h : m.on c = .error e) : e ∈ FreezeError.live := by
  cases i <;> cases hm
  case freeze_authority_transfer =>
    rw [FreezeConfig.transfer_on] at h
    rcases Result.bind_eq_error.mp h with hval | ⟨next, -, hset⟩
    · exact fromAuthority_live (by decide) (LawfulCrates.validate_error _ _) hval
    · split at hset
      · cases hset
        decide
      · cases hset
  case freeze_authority_renounce =>
    rw [FreezeConfig.renounce_on, Result.bind_return_eq_error] at h
    exact adminOrHolder_error h
  case freeze_authority_nominate =>
    rw [FreezeConfig.nominate_on, Result.bind_return_eq_error] at h
    exact adminOrHolder_error h
  case freeze_authority_accept =>
    unfold FreezeConfig.accept at h
    rw [FreezeConfig.onSlot_on, Result.bind_return_eq_error] at h
    exact fromAuthority_live (by decide) (LawfulCrates.slot_accept_error _ _) h
  all_goals
    rw [FreezeConfig.set_is_frozen_on, Result.bind_return_eq_error] at h
    exact assert_error h

theorem Expected.code {code : Nat} {message : String} (h : Expected (.Custom code message)) :
    code ∉ FreezeError.dead.map FreezeError.code := by
  rcases h with ⟨a, ha⟩ | ⟨f, hf, he⟩
  · obtain ⟨code', message', hcode, hlt⟩ := LawfulCrates.admin_error_code a
    rw [hcode] at ha
    obtain ⟨rfl, -⟩ := SpelError.Custom.inj ha
    intro hmem
    simp [FreezeError.dead, FreezeError.code] at hmem
    omega
  · obtain ⟨rfl, -⟩ := SpelError.Custom.inj he
    exact FreezeError.live_code hf

/-- Where every account can be read, a call fails only for what it asks. -/
theorem step_expected {D : Deployment} {S : Store} {s : FreezeState} (h : D.Represents S s)
    (hmarker : ∀ t, s.marker t ≠ none) {tx : Tx} (hcall : tx.call ≠ Call.freeze_initialize) {e : SpelError}
    (hstep : D.step S tx = .error e) : Expected e := by
  have hconfig : fromFreeze (D.config S) = .ok ⟨s.slot, s.is_frozen⟩ := by
    rw [h.config]
    rfl
  have hread (t : Bytes32) : ∃ m, fromFreeze (FrozenAccountState.from_account (S.marker t)) = .ok m := by
    have hsome := hmarker t
    rw [← h.marked] at hsome
    obtain ⟨b, hb⟩ := Option.ne_none_iff_exists'.mp hsome
    exact ⟨⟨b⟩, Result.mapError_eq_ok.mpr ((S.marked_eq_some_iff t b).mp hb)⟩
  obtain ⟨a, caller, call⟩ := tx
  cases hm : (D.instruction S ⟨a, caller, call⟩).method with
  | some m =>
    rw [D.step_config S _ m hm] at hstep
    simp only [hconfig, Result.ok_bind] at hstep
    rcases Result.bind_eq_error.mp hstep with hguard | ⟨_, -, hstep⟩
    · exact guard_expected h hmarker hguard
    rcases Result.bind_eq_error.mp hstep with hcheck | ⟨_, -, hstep⟩
    · exact check_expected hcheck
    rw [Result.bind_return_eq_error] at hstep
    exact fromFreeze_expected (fun f hf => method_error hm hf) hstep
  | none =>
    cases call
    case freeze_initialize => exact absurd rfl hcall
    case freeze_account t =>
      obtain ⟨m, hread⟩ := hread t
      rw [D.step_freeze_account] at hstep
      simp only [hconfig, hread, Result.ok_bind, Result.bind_return_eq_error] at hstep
      exact fromFreeze_expected (fun f hf => assert_error hf) hstep
    case freeze_account_release t =>
      obtain ⟨m, hread⟩ := hread t
      rw [D.step_freeze_account_release] at hstep
      simp only [hconfig, hread, Result.ok_bind] at hstep
      rcases Result.bind_eq_error.mp hstep with hassert | ⟨_, -, hstep⟩
      · exact fromFreeze_expected (fun f hf => assert_error hf) hassert
      · obtain ⟨b⟩ := m
        cases b
        · cases hstep
          exact Or.inr ⟨.AccountNotFrozen, by decide, rfl⟩
        · cases hstep
    all_goals cases hm

/-! ## The accounts -/

/-- The accounts of the library in dedicated mode: one whole encoding, and markers that can be read. -/
structure Canonical (D : Deployment) (S : Store) (s : FreezeState) : Prop where
  offset : D.offset = 0
  represents : D.Represents S s
  length : S.freeze_config.account.data.bytes.length = FreezeConfig.SIZE
  readable : ∀ t, s.marker t ≠ none

theorem canonical_of_initialized {D : Deployment} {S : Store} (h : D.Initialized S) : ∃ s, Canonical D S s := by
  obtain ⟨s, hs⟩ := Deployment.fresh_of_start (Or.inl h)
  obtain ⟨hoffset, S₀, a, caller, -, hstep⟩ := h
  obtain ⟨-, -, -, -, d, hd, rfl⟩ := (Deployment.step_initialize_eq_ok_iff _ _ _ _ _).mp hstep
  refine ⟨s, hoffset, hs.represents, ?_, ?_⟩
  · show d.bytes.length = _
    rw [hd, FreezeConfig.length_bytes]
  · intro t
    simp [hs.marker t]

theorem canonical_step {D : Deployment} {S S' : Store} {tx : Tx} (h : ∃ s, Canonical D S s)
    (hstep : D.step S tx = .ok S') : ∃ s, Canonical D S' s := by
  obtain ⟨s, hs⟩ := h
  obtain ⟨-, hrep⟩ := (Deployment.step_refines hs.represents tx).2 S' hstep
  refine ⟨_, hs.offset, hrep, ?_, fun t => s.next_readable tx.call t (hs.readable t)⟩
  cases Deployment.effect_of_step hstep with
  | created d _ _ hd =>
    show d.bytes.length = _
    rw [hd, FreezeConfig.length_bytes]
  | config c c' =>
    have hfits := ((FreezeConfig.decode_at_eq_ok_iff _ _ _).mp hs.represents.config).1
    show (S.freeze_config.withConfig D.offset c').account.data.bytes.length = _
    rw [AccountWithMetadata.withConfig_bytes _ _ _ hfits,
      Window.length_write _ _ _ (by rw [FreezeConfig.length_bytes]; exact hfits), hs.length]
  | frozen => exact hs.length
  | released => exact hs.length

theorem canonical_of_reachable {D : Deployment} {S : Store} (h : D.Reachable S) : ∃ s, Canonical D S s := by
  obtain ⟨S₀, txs, hstart, rfl⟩ := h
  exact D.machine.run_inv (fun S => ∃ s, Canonical D S s) (fun _ _ _ => canonical_step) txs S₀
    (canonical_of_initialized hstart)

theorem Canonical.bytes {D : Deployment} {S : Store} {s : FreezeState} (h : Canonical D S s) :
    S.freeze_config.account.data.bytes = FreezeConfig.bytes ⟨s.slot, s.is_frozen⟩ := by
  have hread := ((FreezeConfig.decode_at_eq_ok_iff _ _ _).mp h.represents.config).2
  rw [h.offset, ← h.length, Window.read_all] at hread
  exact hread

theorem Canonical.marker {D : Deployment} {S : Store} {s : FreezeState} (h : Canonical D S s) (t : Bytes32) :
    (S.marker t).account.data.bytes = [] ∧ s.marker t = some false ∨
      ∃ b, (S.marker t).account.data.bytes = FrozenAccountState.bytes ⟨b⟩ ∧ s.marker t = some b := by
  obtain ⟨b, hb⟩ := Option.ne_none_iff_exists'.mp (h.readable t)
  have hread := hb
  rw [← h.represents.marked, S.marked_eq_some_iff] at hread
  rcases (FrozenAccountState.from_data_or_default_eq_ok_iff _ _).mp hread with hbytes | ⟨hempty, hdefault⟩
  · exact Or.inr ⟨b, hbytes, hb⟩
  · cases hdefault
    exact Or.inl ⟨hempty, hb⟩

theorem Canonical.flag {D : Deployment} {S : Store} {s : FreezeState} (h : Canonical D S s) :
    S.freeze_config.account.data.bytes[AuthoritySlot.ENCODED_LEN]? = some 0 ∨
      S.freeze_config.account.data.bytes[AuthoritySlot.ENCODED_LEN]? = some 1 := by
  have hlen := AuthoritySlot.length_bytes s.slot
  rw [h.bytes]
  unfold FreezeConfig.bytes
  rw [List.getElem?_append_right (Nat.le_of_eq hlen), hlen]
  cases s.is_frozen <;> simp [Bool.toUInt8]

theorem Canonical.marker_mem {D : Deployment} {S : Store} {s : FreezeState} (h : Canonical D S s) (t : Bytes32) :
    (S.marker t).account.data.bytes ∈ [[], [0], [1]] := by
  rcases h.marker t with ⟨hempty, -⟩ | ⟨b, hb, -⟩
  · rw [hempty]
    simp
  · rw [hb]
    cases b <;> decide

/-- The gate reads what the decoders read. -/
theorem Canonical.admits {D : Deployment} {S : Store} {s : FreezeState} (h : Canonical D S s) (A : AccountId) :
    D.admits S A =
      if s.is_frozen then .error (FreezeError.toSpelError .Frozen)
      else if (S.marker A.value).account.data.bytes = [1] then .error (FreezeError.toSpelError .AccountFrozen)
      else .ok () := by
  rw [Deployment.admits_eq h.represents]
  rcases h.marker A.value with ⟨hempty, hread⟩ | ⟨b, hb, hread⟩
  · rw [hempty, hread]
    rfl
  · rw [hb, hread]
    cases b <;> rfl

/-- The store never bricks itself. After `freeze_initialize` and any calls, the config is one whole
encoding, which the strict decoder, the windowed one and the gate read alike, every marker is canonical,
and neither a further call nor the gate fails for what the store holds. -/
theorem store_never_bricks {D : Deployment} {S : Store} (h : D.Reachable S) :
    S.freeze_config.account.data.bytes.length = FreezeConfig.SIZE ∧
    (S.freeze_config.account.data.bytes[AuthoritySlot.ENCODED_LEN]? = some 0 ∨
      S.freeze_config.account.data.bytes[AuthoritySlot.ENCODED_LEN]? = some 1) ∧
    (∀ t, (S.marker t).account.data.bytes ∈ [[], [0], [1]]) ∧
    (∃ c, FreezeConfig.decode S.freeze_config.account.data.bytes = .ok c ∧
      FreezeConfig.decode_at S.freeze_config.account.data.bytes 0 = .ok c ∧
      ∀ A, D.admits S A =
        if c.is_frozen then .error (FreezeError.toSpelError .Frozen)
        else if (S.marker A.value).account.data.bytes = [1] then .error (FreezeError.toSpelError .AccountFrozen)
        else .ok ()) ∧
    (∀ tx code message, tx.call ≠ Call.freeze_initialize → D.step S tx = .error (.Custom code message) →
      code ∉ FreezeError.dead.map FreezeError.code) ∧
    (∀ A code message, D.admits S A = .error (.Custom code message) →
      code ∉ FreezeError.dead.map FreezeError.code) := by
  obtain ⟨s, hs⟩ := canonical_of_reachable h
  have hstrict : FreezeConfig.decode S.freeze_config.account.data.bytes = .ok ⟨s.slot, s.is_frozen⟩ :=
    (FreezeConfig.decode_eq_ok_iff _ _).mpr hs.bytes
  have hwindow : FreezeConfig.decode_at S.freeze_config.account.data.bytes 0 = .ok ⟨s.slot, s.is_frozen⟩ := by
    have hconfig := hs.represents.config
    unfold Deployment.config FreezeConfig.from_account_at at hconfig
    rw [hs.offset] at hconfig
    exact hconfig
  refine ⟨hs.length, hs.flag, hs.marker_mem, ⟨_, hstrict, hwindow, hs.admits⟩, ?_, ?_⟩
  · intro tx code message hcall hstep
    exact (step_expected hs.represents hs.readable hcall hstep).code
  · intro A code message hgate
    exact (admits_expected hs.represents (hs.readable _) hgate).code

end FreezeAuthority

namespace FreezeAuthority.Reference

set_option maxRecDepth 8000 in
theorem store_never_bricks_on_release :
    (program.machine.run initialized [call 1 .freeze_program]).freeze_config.account.data.bytes.length =
        FreezeConfig.SIZE ∧
      214 ∉ FreezeError.dead.map FreezeError.code := by
  obtain ⟨hlen, -, -, -, hstep, -⟩ := store_never_bricks (initialized_reachable [call 1 .freeze_program])
  have hcall : (call 1 (.freeze_account_release (key 5).value)).call ≠ Call.freeze_initialize := by rintro ⟨⟩
  exact ⟨hlen, hstep _ 214 "account is not frozen" hcall rfl⟩

end FreezeAuthority.Reference
