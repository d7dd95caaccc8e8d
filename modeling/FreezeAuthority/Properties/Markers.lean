import FreezeAuthority.Spec.Reference

/-!
# A marker is claimed once

`freeze_account` infers the first touch of a marker from its data, and LEZ judges a claim by the
owner. The two never part.
-/

namespace FreezeAuthority

/-- A marker, and whether it was ever written: data and owner tell the same. -/
structure Touched [Lez] (p : ProgramId) (m : AccountWithMetadata) (touched : Bool) : Prop where
  data : m.account.data.bytes = [] ↔ touched = false
  owner : m.account.program_owner = p ↔ touched = true

variable [Lez]

theorem Touched.write {p : ProgramId} {m : AccountWithMetadata} {touched : Bool} (h : Touched p m touched)
    (s : FrozenAccountState) (hone : 1 ≤ Lez.dataMaxLength) : Touched p (m.writeMarker p s) true := by
  have hbytes := m.writeMarker_bytes p s hone
  refine ⟨?_, ?_⟩
  · rw [hbytes]
    simp [FrozenAccountState.bytes]
  · refine iff_of_true ?_ rfl
    unfold AccountWithMetadata.writeMarker
    split
    · rfl
    · next hdata =>
      refine h.owner.mpr ?_
      rw [List.isEmpty_iff, h.data] at hdata
      simpa using hdata

def Call.touches (t : Bytes32) : Call → Option Bool
  | .freeze_account target => if target = t then some true else none
  | _ => none

theorem touches_eq_some_iff (t : Bytes32) (call : Call) (b : Bool) :
    call.touches t = some b ↔ call = .freeze_account t ∧ b = true := by
  cases call <;> simp [Call.touches, eq_comm]

theorem touches_eq_none_iff (t : Bytes32) (call : Call) :
    call.touches t = none ↔ call ≠ .freeze_account t := by
  cases call <;> simp [Call.touches]

variable [Crates]

/-- The call has `claim` on the marker of `t` in its post-states. -/
def Deployment.Emits (D : Deployment) (S : Store) (tx : Tx) (t : Bytes32) (claim : Claim) : Prop :=
  ∃ landed post, D.outcome S tx = .ok landed ∧ (.marker t, post) ∈ landed ∧ post.required_claim = some claim

def Deployment.FirstFreeze (D : Deployment) (S : Store) (txs : List Tx) (t : Bytes32) (n : Nat)
    (tx : Tx) : Prop :=
  D.machine.AcceptedAt S txs n tx ∧ tx.call = .freeze_account t ∧
    ∀ k tx', k < n → D.machine.AcceptedAt S txs k tx' → tx'.call ≠ .freeze_account t

theorem outcome_of_accepts {D : Deployment} {S : Store} {tx : Tx} (h : D.machine.accepts S tx = true) :
    ∃ landed, D.outcome S tx = .ok landed := by
  obtain ⟨S', hstep⟩ := (D.machine.accepts_iff S tx).mp h
  obtain ⟨landed, hlanded, -⟩ := Result.bind_eq_ok.mp hstep
  exact ⟨landed, hlanded⟩

theorem accepts_of_outcome {D : Deployment} {S : Store} {tx : Tx} {landed : List (Role × AccountPostState)}
    (h : D.outcome S tx = .ok landed) : D.machine.accepts S tx = true := by
  refine (D.machine.accepts_iff S tx).mpr ⟨landed.foldl D.put S, ?_⟩
  show D.step S tx = _
  unfold Deployment.step
  rw [h]
  rfl

variable [LawfulCrates]

theorem touched_step {D : Deployment} {S S' : Store} {tx : Tx} {t : Bytes32} {touched : Bool}
    (h : Touched D.program_id (S.marker t) touched) (hstep : D.step S tx = .ok S') :
    Touched D.program_id (S'.marker t) ((tx.call.touches t).getD touched) := by
  cases Deployment.effect_of_step hstep with
  | created d hcall =>
    rw [hcall]
    exact h
  | config c c' hc hcall =>
    obtain ⟨a, caller, call⟩ := tx
    cases call
    case freeze_account => exact absurd rfl hcall
    all_goals exact h
  | frozen c t' hc hcall =>
    have hone := Instruction.one_le_of_config hc
    by_cases ht : t = t'
    · subst ht
      have htouches := (touches_eq_some_iff t tx.call true).mpr ⟨hcall, rfl⟩
      rw [Deployment.withMarker_self, htouches]
      exact h.write _ hone
    · have htouches := (touches_eq_none_iff t tx.call).mpr (by rw [hcall]; simpa [eq_comm] using ht)
      rw [Deployment.withMarker_of_ne D S _ ht, htouches]
      exact h
  | released c t' hc hcall hfrozen =>
    have hone := Instruction.one_le_of_config hc
    rw [hcall]
    show Touched D.program_id _ touched
    by_cases ht : t = t'
    · subst ht
      -- A marker that is released had data, so it was touched before.
      have hdata := Deployment.isEmpty_of_frozen hfrozen rfl
      obtain rfl : touched = true := by
        by_contra hfalse
        have hempty := h.data.mpr (by simpa using hfalse)
        simp [hempty] at hdata
      rw [Deployment.withMarker_self]
      exact h.write _ hone
    · rw [Deployment.withMarker_of_ne D S _ ht]
      exact h

/-- Along a run, a marker is touched exactly from the first accepted freeze of it on. -/
theorem touched_run {D : Deployment} {S : Store} {t : Bytes32} (h : Touched D.program_id (S.marker t) false)
    (txs : List Tx) : ∃ touched, Touched D.program_id ((D.machine.run S txs).marker t) touched ∧
      (touched = false ↔ ∀ k tx, D.machine.AcceptedAt S txs k tx → tx.call ≠ .freeze_account t) := by
  have hrun := D.machine.register_run (fun S touched => Touched D.program_id (S.marker t) touched)
    (fun tx => tx.call.touches t) (fun _ _ _ _ => touched_step) txs S false h
  have hnone := D.machine.lastWrite_eq_none_iff (fun tx => tx.call.touches t) txs S
  simp only [touches_eq_none_iff] at hnone
  refine ⟨_, hrun, ?_⟩
  rw [← hnone]
  cases hlast : D.machine.lastWrite (fun tx => tx.call.touches t) S txs with
  | none => simp
  | some b =>
    obtain ⟨_, _, _, hw, _⟩ := (D.machine.lastWrite_eq_some_iff _ b txs S).mp hlast
    obtain ⟨-, rfl⟩ := (touches_eq_some_iff _ _ _).mp hw
    simp

/-- A claim comes from a freeze of an empty marker, with the seeds that `freeze_account` declares. -/
theorem emits_iff (D : Deployment) (S : Store) (tx : Tx) (t : Bytes32) (claim : Claim) :
    D.Emits S tx t claim ↔ D.machine.accepts S tx = true ∧ tx.call = .freeze_account t ∧
      (S.marker t).account.data.bytes = [] ∧
      (Crates.pda_from_seeds (frozen_pda_seeds t)).required_claim = some claim := by
  constructor
  · rintro ⟨landed, post, hlanded, hmem, hclaim⟩
    rcases (Deployment.landed_of_outcome hlanded).marker hmem with rfl | ⟨hcall, rfl⟩ | ⟨-, -, rfl⟩
    · cases hclaim
    · have hclaim : (S.marker t).markerClaim t = some claim := hclaim
      unfold AccountWithMetadata.markerClaim at hclaim
      split at hclaim
      · exact ⟨accepts_of_outcome hlanded, hcall, List.isEmpty_iff.mp ‹_›, hclaim⟩
      · cases hclaim
    · cases hclaim
  · obtain ⟨a, caller, call⟩ := tx
    rintro ⟨hacc, rfl, hempty, hclaim⟩
    obtain ⟨landed, hlanded⟩ := outcome_of_accepts hacc
    have hmarker : (S.marker t).markerClaim t = some claim := by
      unfold AccountWithMetadata.markerClaim
      rw [hempty]
      exact hclaim
    refine ⟨landed, ⟨((S.marker t).withMarker ⟨true⟩).account, (S.marker t).markerClaim t⟩, hlanded, ?_,
      hmarker⟩
    cases Deployment.landed_of_outcome hlanded with
    | created _ hcall => cases hcall
    | config _ _ _ hcall => exact absurd rfl hcall
    | frozen _ _ _ hcall =>
      cases hcall
      simp [Deployment.markerPosts]
    | released _ _ _ hcall => cases hcall

theorem write_claims {D : Deployment} {S : Store} {tx : Tx} {t : Bytes32}
    {landed : List (Role × AccountPostState)} {post : AccountPostState} (hlanded : D.outcome S tx = .ok landed)
    (hmem : (.marker t, post) ∈ landed) (hempty : (S.marker t).account.data.bytes = [])
    (hwrite : post.account ≠ (S.marker t).account) : post.required_claim.isSome = true := by
  rcases (Deployment.landed_of_outcome hlanded).marker hmem with rfl | ⟨hcall, rfl⟩ | ⟨-, hfrozen, -⟩
  · exact absurd rfl hwrite
  · obtain ⟨claim, hclaim⟩ := LawfulCrates.pda_from_seeds_claims (frozen_pda_seeds t)
    unfold AccountWithMetadata.markerClaim
    rw [hempty, hclaim]
    rfl
  · have hdata := Deployment.isEmpty_of_frozen hfrozen rfl
    simp [hempty] at hdata

/-- A marker that nobody wrote is claimed by the first accepted freeze of its target, and by nothing else,
ever. Its data is non-empty exactly while the program owns it, so no write goes unclaimed and no claim
comes twice. -/
theorem marker_claimed_once {D : Deployment} {S : Store} {t : Bytes32}
    (hdata : (S.marker t).account.data.bytes = []) (howner : (S.marker t).account.program_owner = .default)
    (txs : List Tx) :
    let m := (D.machine.run S txs).marker t
    (m.account.data.bytes ≠ [] ↔ m.account.program_owner = D.program_id) ∧
    (∀ n tx, txs[n]? = some tx →
      ((∃ claim, D.Emits (D.machine.run S (txs.take n)) tx t claim) ↔ D.FirstFreeze S txs t n tx)) ∧
    (∀ tx claim, D.Emits (D.machine.run S txs) tx t claim →
      (Crates.pda_from_seeds (frozen_pda_seeds t)).required_claim = some claim) ∧
    (∀ tx landed post, D.outcome (D.machine.run S txs) tx = .ok landed → (.marker t, post) ∈ landed →
      (m.account.program_owner ≠ D.program_id → post.account ≠ m.account →
        post.required_claim.isSome = true) ∧
      (m.account.program_owner = D.program_id → post.required_claim = none)) := by
  have hstart : Touched D.program_id (S.marker t) false := by
    refine ⟨iff_of_true hdata rfl, iff_of_false ?_ (by simp)⟩
    rw [howner]
    exact Ne.symm D.deployed
  intro m
  obtain ⟨touched, htouched, -⟩ := touched_run hstart txs
  have howned : m.account.data.bytes ≠ [] ↔ m.account.program_owner = D.program_id := by
    rw [ne_eq, htouched.data, htouched.owner, Bool.not_eq_false]
  refine ⟨howned, ?_, ?_, ?_⟩
  · intro n tx hn
    obtain ⟨before, hbefore, hnone⟩ := touched_run hstart (txs.take n)
    simp only [Machine.acceptedAt_take] at hnone
    simp only [emits_iff, hbefore.data, hnone]
    constructor
    · rintro ⟨claim, hacc, hcall, hfirst, -⟩
      exact ⟨⟨hn, hacc⟩, hcall, fun k tx' hk hacc' => hfirst k tx' ⟨hk, hacc'⟩⟩
    · rintro ⟨⟨-, hacc⟩, hcall, hfirst⟩
      obtain ⟨claim, hclaim⟩ := LawfulCrates.pda_from_seeds_claims (frozen_pda_seeds t)
      exact ⟨claim, hacc, hcall, fun k tx' hk => hfirst k tx' hk.1 hk.2, by rw [hclaim]; rfl⟩
  · intro tx claim hemits
    obtain ⟨-, -, -, hseeds⟩ := (emits_iff D _ tx t claim).mp hemits
    exact hseeds
  · intro tx landed post hlanded hmem
    constructor
    · intro hunowned hwrite
      have hempty : m.account.data.bytes = [] := by
        by_contra hdata
        exact hunowned (howned.mp hdata)
      exact write_claims hlanded hmem hempty hwrite
    · intro hown
      by_contra hclaim
      obtain ⟨claim, hclaim⟩ := Option.ne_none_iff_exists'.mp hclaim
      obtain ⟨-, -, hempty, -⟩ := (emits_iff D _ tx t claim).mp ⟨landed, post, hlanded, hmem, hclaim⟩
      exact howned.mpr hown hempty

end FreezeAuthority

namespace FreezeAuthority.Reference

theorem marker_claimed_at_first_freeze :
    ∃ claim, program.Emits initialized (call 1 (.freeze_account (key 5).value)) (key 5).value claim := by
  have hdiscipline := marker_claimed_once (D := program) (S := initialized) (t := (key 5).value) rfl rfl
    [call 1 (.freeze_account (key 5).value)]
  exact (hdiscipline.2.1 0 _ rfl).mpr ⟨⟨rfl, rfl⟩, rfl, by omega⟩

end FreezeAuthority.Reference
