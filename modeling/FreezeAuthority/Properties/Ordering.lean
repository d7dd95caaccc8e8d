import FreezeAuthority.Lib.Footprint
import FreezeAuthority.Properties.Windows

/-!
# Calls that may be exchanged

Each call reads and writes some parts of the accounts. Calls on different parts may come in any order.
-/

namespace FreezeAuthority

/-- The parts of the accounts. `account` is the config account but for its window, and whether the window
holds a config. -/
inductive Part
  | account
  | holder
  | nominee
  | program
  | marker (target : Bytes32)

variable [Lez]

def Part.Value : Part → Type
  | account => Bool × AccountWithMetadata
  | holder => AccountId
  | nominee => AccountId
  | program => Bool
  | marker _ => AccountWithMetadata

/-- Every call but the first needs a config. What else it looks at is its check and, for
`freeze_program`, the gate. -/
def Deployment.reads (D : Deployment) (tx : Tx) : Set Part :=
  match tx.call with
  | Call.freeze_initialize => {.account}
  | .freeze_authority_transfer _ _ => {.account}
  | .freeze_authority_renounce => {.account, .holder}
  | .freeze_authority_nominate _ => {.account, .holder}
  | .freeze_authority_accept => {.account, .nominee}
  | .freeze_program =>
    match D.mode with
    | .auto => {.account, .holder, .program, .marker tx.caller.account_id.value}
    | .manual => {.account, .holder}
  | .freeze_program_release => {.account, .holder}
  | .freeze_account t => {.account, .holder, .marker t}
  | .freeze_account_release t => {.account, .holder, .marker t}

def Call.writes : Call → Set Part
  | Call.freeze_initialize => {.account, .holder, .nominee, .program}
  | .freeze_authority_transfer _ _ => {.holder, .nominee}
  | .freeze_authority_renounce => {.holder, .nominee}
  | .freeze_authority_nominate _ => {.nominee}
  | .freeze_authority_accept => {.holder, .nominee}
  | .freeze_program => {.program}
  | .freeze_program_release => {.program}
  | .freeze_account t => {.marker t}
  | .freeze_account_release t => {.marker t}

theorem account_mem_reads (D : Deployment) (tx : Tx) : Part.account ∈ D.reads tx := by
  obtain ⟨a, caller, call⟩ := tx
  unfold Deployment.reads
  cases call
  case freeze_program => cases D.mode <;> simp
  all_goals simp

variable [Crates]

namespace Deployment

/-- The config account with its window cleared, where the window holds a config. -/
def rest (D : Deployment) (S : Store) : Bool × AccountWithMetadata :=
  match D.config S with
  | .ok _ => (true, S.freeze_config.withConfig D.offset ⟨.vacant, false⟩)
  | .error _ => (false, S.freeze_config)

def view (D : Deployment) : (p : Part) → Store → p.Value
  | .account, S => D.rest S
  | .holder, S => (D.slot S).holder
  | .nominee, S => (D.slot S).nominee
  | .program, S => D.is_frozen S
  | .marker t, S => S.marker t

/-- What an accepted call leaves, from a store that stands for `s`. -/
def left (D : Deployment) (S : Store) (s : FreezeState) : Call → Store
  | .freeze_account t => D.withMarker S t ⟨true⟩
  | .freeze_account_release t => D.withMarker S t ⟨false⟩
  | call => S.withConfig D.offset ⟨(s.next call).slot, (s.next call).is_frozen⟩

theorem rest_of_ok {D : Deployment} {S : Store} {c : FreezeConfig} (h : D.config S = .ok c) :
    D.rest S = (true, S.freeze_config.withConfig D.offset ⟨.vacant, false⟩) := by
  unfold rest
  rw [h]

theorem rest_of_error {D : Deployment} {S : Store} {e : FreezeError} (h : D.config S = .error e) :
    D.rest S = (false, S.freeze_config) := by
  unfold rest
  rw [h]

theorem config_of_rest {D : Deployment} {S T : Store} {c : FreezeConfig} (h : D.rest S = D.rest T)
    (hc : D.config S = .ok c) : ∃ c', D.config T = .ok c' := by
  cases hT : D.config T with
  | ok c' => exact ⟨c', rfl⟩
  | error e =>
    rw [rest_of_ok hc, rest_of_error hT] at h
    cases h

theorem view_congr {D : Deployment} {S T : Store} (h : S.freeze_config = T.freeze_config) {p : Part}
    (hp : ∀ t, p ≠ .marker t) : D.view p S = D.view p T := by
  obtain ⟨config, marker⟩ := S
  obtain ⟨config', marker'⟩ := T
  obtain rfl : config = config' := h
  cases p
  case marker t => exact absurd rfl (hp t)
  all_goals rfl

/-! ## What is read decides -/

section Reads

variable {D : Deployment} {S T : Store} {s t : FreezeState}

theorem heldBy_of_view (hs : D.Represents S s) (ht : D.Represents T t) {caller : AccountWithMetadata}
    (h : D.view .holder S = D.view .holder T) (hheld : s.slot.HeldBy caller) : t.slot.HeldBy caller := by
  have hholder : s.slot.holder = t.slot.holder := by
    rw [← slot_of_represents hs, ← slot_of_represents ht]
    exact h
  unfold AuthoritySlot.HeldBy at hheld ⊢
  rwa [← hholder]

theorem nominee_of_view (hs : D.Represents S s) (ht : D.Represents T t)
    (h : D.view .nominee S = D.view .nominee T) : s.slot.nominee = t.slot.nominee := by
  rw [← slot_of_represents hs, ← slot_of_represents ht]
  exact h

theorem is_frozen_of_view (hs : D.Represents S s) (ht : D.Represents T t)
    (h : D.view .program S = D.view .program T) : s.is_frozen = t.is_frozen := by
  rw [← is_frozen_of_represents hs, ← is_frozen_of_represents ht]
  exact h

theorem marker_of_view (hs : D.Represents S s) (ht : D.Represents T t) {target : Bytes32}
    (h : D.view (.marker target) S = D.view (.marker target) T) : s.marker target = t.marker target := by
  have hmarker : S.marker target = T.marker target := h
  rw [← hs.marked, ← ht.marked]
  unfold Store.marked
  rw [hmarker]

theorem permits_of_view (hs : D.Represents S s) (ht : D.Represents T t) (tx : Tx)
    (h : ∀ p ∈ D.reads tx, D.view p S = D.view p T) (hp : s.Permits D tx) : t.Permits D tx := by
  obtain ⟨a, caller, call⟩ := tx
  unfold reads at h
  cases call
  case freeze_initialize => exact hp
  case freeze_authority_transfer => exact hp
  case freeze_authority_renounce =>
    exact hp.imp_right (heldBy_of_view hs ht (h .holder (by simp)))
  case freeze_authority_nominate =>
    exact hp.imp_right (heldBy_of_view hs ht (h .holder (by simp)))
  case freeze_authority_accept =>
    have hnominee := nominee_of_view hs ht (h .nominee (by simp))
    unfold FreezeState.Permits AuthoritySlot.AcceptableBy at hp ⊢
    rwa [← hnominee]
  case freeze_program =>
    cases hmode : D.mode with
    | manual =>
      rw [hmode] at h
      refine ⟨heldBy_of_view hs ht (h .holder (by simp)) hp.1, ?_⟩
      intro hauto
      cases hmode.symm.trans hauto
    | auto =>
      rw [hmode] at h
      have hfrozen := is_frozen_of_view hs ht (h .program (by simp))
      have hmarker := marker_of_view hs ht (h (.marker caller.account_id.value) (by simp))
      refine ⟨heldBy_of_view hs ht (h .holder (by simp)) hp.1, ?_⟩
      intro hauto
      rw [← hfrozen, ← hmarker]
      exact hp.2 hauto
  case freeze_program_release => exact heldBy_of_view hs ht (h .holder (by simp)) hp
  case freeze_account target =>
    have hmarker := marker_of_view hs ht (h (.marker target) (by simp))
    refine ⟨heldBy_of_view hs ht (h .holder (by simp)) hp.1, ?_⟩
    rw [← hmarker]
    exact hp.2
  case freeze_account_release target =>
    have hmarker := marker_of_view hs ht (h (.marker target) (by simp))
    refine ⟨heldBy_of_view hs ht (h .holder (by simp)) hp.1, ?_⟩
    rw [← hmarker]
    exact hp.2

end Reads

/-! ## What is written -/

variable [LawfulCrates]

section Writes

variable {D : Deployment} {S T : Store} {s t : FreezeState}

omit [LawfulCrates] in
theorem left_of_method {tx : Tx} (h : (D.instruction S tx).method ≠ none) :
    D.left S s tx.call = S.withConfig D.offset ⟨(s.next tx.call).slot, (s.next tx.call).is_frozen⟩ := by
  obtain ⟨a, caller, call⟩ := tx
  cases call <;> first | rfl | exact absurd rfl h

theorem step_eq_ok_iff_left (h : D.Represents S s) (tx : Tx) (S' : Store) :
    D.step S tx = .ok S' ↔ s.Permits D tx ∧ S' = D.left S s tx.call := by
  have hleft (S' : Store) (hstep : D.step S tx = .ok S') : s.Permits D tx ∧ S' = D.left S s tx.call := by
    obtain ⟨hpermits, hrep⟩ := (step_refines h tx).2 S' hstep
    refine ⟨hpermits, ?_⟩
    cases effect_of_step hstep with
    | created _ hcall =>
      unfold FreezeState.Permits at hpermits
      rw [hcall] at hpermits
      exact hpermits.elim
    | config c c' hc hcall =>
      have hnext := hrep.unique (represents_withConfig h c')
      rw [left_of_method hcall, hnext]
    | frozen c target hc hcall => rw [hcall, left]
    | released c target hc hcall => rw [hcall, left]
  constructor
  · exact hleft S'
  · rintro ⟨hpermits, rfl⟩
    obtain ⟨S'', hstep⟩ := (step_refines h tx).1 hpermits
    rw [hstep, (hleft S'' hstep).2]

theorem rest_withConfig (h : D.Represents S s) (c : FreezeConfig) :
    D.rest (S.withConfig D.offset c) = D.rest S := by
  have hfits := ((FreezeConfig.decode_at_eq_ok_iff _ _ _).mp h.config).1
  rw [rest_of_ok h.config, rest_of_ok (represents_withConfig h c).config]
  unfold Store.withConfig
  rw [AccountWithMetadata.withConfig_withConfig _ _ _ _ hfits]

omit [LawfulCrates] in
theorem view_withMarker (target : Bytes32) (b : FrozenAccountState) {p : Part} (hp : p ≠ .marker target) :
    D.view p (D.withMarker S target b) = D.view p S := by
  cases p
  case marker target' =>
    refine withMarker_of_ne D S b ?_
    rintro rfl
    exact hp rfl
  all_goals rfl

omit [Crates] [LawfulCrates] in
theorem withMarker_congr {target : Bytes32} (b : FrozenAccountState) (h : S.marker target = T.marker target) :
    (D.withMarker S target b).marker target = (D.withMarker T target b).marker target := by
  rw [withMarker_self, withMarker_self, h]

/-- A change of the config keeps the parts of the slot and the flag that it does not write. -/
theorem view_withConfig (h : D.Represents S s) {call : Call} {p : Part} (hp : p ∉ call.writes) :
    D.view p (S.withConfig D.offset ⟨(s.next call).slot, (s.next call).is_frozen⟩) = D.view p S := by
  have hrep := represents_withConfig h ⟨(s.next call).slot, (s.next call).is_frozen⟩
  cases p
  case account => exact rest_withConfig h _
  case marker => rfl
  case holder =>
    show (D.slot _).holder = (D.slot S).holder
    rw [slot_of_represents hrep, slot_of_represents h]
    cases call <;> first | rfl | simp [Call.writes] at hp
  case nominee =>
    show (D.slot _).nominee = (D.slot S).nominee
    rw [slot_of_represents hrep, slot_of_represents h]
    cases call <;> first | rfl | simp [Call.writes] at hp
  case program =>
    show D.is_frozen _ = D.is_frozen S
    rw [is_frozen_of_represents hrep, is_frozen_of_represents h]
    cases call <;> first | rfl | simp [Call.writes] at hp

theorem view_left (h : D.Represents S s) {call : Call} {p : Part} (hp : p ∉ call.writes) :
    D.view p (D.left S s call) = D.view p S := by
  cases call
  case freeze_account target => exact view_withMarker target ⟨true⟩ (by simpa [Call.writes] using hp)
  case freeze_account_release target => exact view_withMarker target ⟨false⟩ (by simpa [Call.writes] using hp)
  all_goals exact view_withConfig h hp

theorem keeps_of_step {tx : Tx} {S' : Store} {p : Part} (hstep : D.step S tx = .ok S')
    (hp : p ∉ tx.call.writes) : D.view p S' = D.view p S := by
  obtain ⟨a, caller, call⟩ := tx
  rcases step_cases hstep with hcall | ⟨s, hs, -, -⟩
  · obtain rfl : call = Call.freeze_initialize := hcall
    obtain ⟨-, -, -, -, d, -, rfl⟩ := (step_initialize_eq_ok_iff _ _ _ _ _).mp hstep
    cases p
    case marker => rfl
    all_goals simp [Call.writes] at hp
  · obtain ⟨-, rfl⟩ := (step_eq_ok_iff_left hs _ _).mp hstep
    exact view_left hs hp

/-- What an accepted call writes is decided by what it reads. -/
theorem written_of_view (hs : D.Represents S s) (ht : D.Represents T t) {tx : Tx} {S' T' : Store}
    (h : ∀ p ∈ D.reads tx, D.view p S = D.view p T) (hS : D.step S tx = .ok S') (hT : D.step T tx = .ok T')
    {p : Part} (hp : p ∈ tx.call.writes) : D.view p S' = D.view p T' := by
  obtain ⟨hpermits, hrepS⟩ := (step_refines hs tx).2 S' hS
  obtain ⟨-, hrepT⟩ := (step_refines ht tx).2 T' hT
  obtain ⟨-, hleftS⟩ := (step_eq_ok_iff_left hs tx S').mp hS
  obtain ⟨-, hleftT⟩ := (step_eq_ok_iff_left ht tx T').mp hT
  cases p
  case account =>
    obtain ⟨a, caller, call⟩ := tx
    cases call <;> first | exact hpermits.elim | simp [Call.writes] at hp
  case holder =>
    show (D.slot S').holder = (D.slot T').holder
    rw [slot_of_represents hrepS, slot_of_represents hrepT]
    obtain ⟨a, caller, call⟩ := tx
    cases call
    case freeze_authority_accept => exact nominee_of_view hs ht (h .nominee (by simp [reads]))
    all_goals first | rfl | exact hpermits.elim | simp [Call.writes] at hp
  case nominee =>
    show (D.slot S').nominee = (D.slot T').nominee
    rw [slot_of_represents hrepS, slot_of_represents hrepT]
    obtain ⟨a, caller, call⟩ := tx
    cases call <;> first | rfl | exact hpermits.elim | simp [Call.writes] at hp
  case program =>
    show D.is_frozen S' = D.is_frozen T'
    rw [is_frozen_of_represents hrepS, is_frozen_of_represents hrepT]
    obtain ⟨a, caller, call⟩ := tx
    cases call <;> first | rfl | exact hpermits.elim | simp [Call.writes] at hp
  case marker target =>
    obtain ⟨a, caller, call⟩ := tx
    subst hleftS hleftT
    cases call
    case freeze_account target' =>
      obtain rfl : target = target' := by simpa [Call.writes] using hp
      exact withMarker_congr ⟨true⟩ (h (.marker target) (by simp [reads]))
    case freeze_account_release target' =>
      obtain rfl : target = target' := by simpa [Call.writes] using hp
      exact withMarker_congr ⟨false⟩ (h (.marker target) (by simp [reads]))
    all_goals first | exact hpermits.elim | simp [Call.writes] at hp

end Writes

/-! ## The footprint -/

omit [LawfulCrates] in
theorem config_of_default {D : Deployment} {S : Store} (h : S.freeze_config.account = .default) :
    ∃ e, D.config S = .error e := by
  unfold config FreezeConfig.from_account_at
  rw [h]
  exact ⟨_, rfl⟩

omit [LawfulCrates] in
theorem freeze_config_of_rest {D : Deployment} {S T : Store} {e : FreezeError} (h : D.rest S = D.rest T)
    (hS : D.config S = .error e) : S.freeze_config = T.freeze_config := by
  cases hT : D.config T with
  | ok c =>
    obtain ⟨c', hc'⟩ := config_of_rest h.symm hT
    cases hS.symm.trans hc'
  | error e' =>
    rw [rest_of_error hS, rest_of_error hT] at h
    exact (Prod.mk.inj h).2

omit [LawfulCrates] in
theorem config_of_view {D : Deployment} {S T : Store} {c : FreezeConfig} (h : ∀ p, D.view p S = D.view p T)
    (hS : D.config S = .ok c) : D.config T = .ok c := by
  obtain ⟨c', hT⟩ := config_of_rest (h .account) hS
  have hs := represents_of_config hS
  have ht := represents_of_config hT
  have hholder : (D.slot S).holder = (D.slot T).holder := h .holder
  rw [slot_of_represents hs, slot_of_represents ht] at hholder
  have hslot : c.slot = c'.slot := AuthoritySlot.ext hholder (nominee_of_view hs ht (h .nominee))
  have hfrozen : c.is_frozen = c'.is_frozen := is_frozen_of_view hs ht (h .program)
  rw [hT, FreezeConfig.ext hslot hfrozen]

/-- The parts are all there is to a store. -/
theorem separates {D : Deployment} {S T : Store} (h : ∀ p, D.view p S = D.view p T) : S = T := by
  have hrest : D.rest S = D.rest T := h .account
  have hmarker : S.marker = T.marker := funext fun t => h (.marker t)
  suffices hconfig : S.freeze_config = T.freeze_config by
    obtain ⟨config, marker⟩ := S
    obtain ⟨config', marker'⟩ := T
    obtain rfl : config = config' := hconfig
    obtain rfl : marker = marker' := hmarker
    rfl
  cases hS : D.config S with
  | error e => exact freeze_config_of_rest hrest hS
  | ok c =>
    have hT := config_of_view h hS
    have hfits := ((FreezeConfig.decode_at_eq_ok_iff _ _ _).mp hS).1
    have hfits' := ((FreezeConfig.decode_at_eq_ok_iff _ _ _).mp hT).1
    rw [rest_of_ok hS, rest_of_ok hT] at hrest
    have hcleared := (Prod.mk.inj hrest).2
    calc S.freeze_config
        = S.freeze_config.withConfig D.offset c := (AccountWithMetadata.withConfig_of_decode hS).symm
      _ = (S.freeze_config.withConfig D.offset ⟨.vacant, false⟩).withConfig D.offset c :=
          (AccountWithMetadata.withConfig_withConfig _ _ _ _ hfits).symm
      _ = (T.freeze_config.withConfig D.offset ⟨.vacant, false⟩).withConfig D.offset c := by rw [hcleared]
      _ = T.freeze_config.withConfig D.offset c := AccountWithMetadata.withConfig_withConfig _ _ _ _ hfits'
      _ = T.freeze_config := AccountWithMetadata.withConfig_of_decode hT

theorem decides_of_step {D : Deployment} {S T : Store} {tx : Tx} {S' : Store}
    (h : ∀ p ∈ D.reads tx, D.view p S = D.view p T) (hstep : D.step S tx = .ok S') :
    ∃ T', D.step T tx = .ok T' ∧ ∀ p ∈ tx.call.writes, D.view p S' = D.view p T' := by
  have hrest : D.rest S = D.rest T := h .account (account_mem_reads D tx)
  rcases step_cases hstep with hcall | ⟨s, hs, hpermits, -⟩
  · obtain ⟨a, caller, call⟩ := tx
    obtain rfl : call = Call.freeze_initialize := hcall
    obtain ⟨hdefault, hadmin, hev, hne, d, hd, rfl⟩ := (step_initialize_eq_ok_iff _ _ _ _ _).mp hstep
    obtain ⟨e, hS⟩ := config_of_default (D := D) hdefault
    have hsame := freeze_config_of_rest hrest hS
    rw [hsame] at hdefault ⊢
    refine ⟨_, (step_initialize_eq_ok_iff _ _ _ _ _).mpr ⟨hdefault, hadmin, hev, hne, d, hd, rfl⟩, ?_⟩
    intro p hp
    refine view_congr ?_ ?_
    · rfl
    rintro t rfl
    simp [Call.writes] at hp
  · obtain ⟨c, hT⟩ := config_of_rest hrest hs.config
    have ht := represents_of_config hT
    obtain ⟨T', hstepT⟩ := (step_refines ht tx).1 (permits_of_view hs ht tx h hpermits)
    exact ⟨T', hstepT, fun p hp => written_of_view hs ht h hstep hstepT hp⟩

def footprint (D : Deployment) : D.machine.Footprint D.view where
  reads := D.reads
  writes tx := tx.call.writes
  separates _ _ := separates
  keeps _ _ _ _ := keeps_of_step
  decides _ _ _ _ := decides_of_step

end Deployment

variable [LawfulCrates]

/-- Calls on different parts may come in any order. Lists of calls that differ by exchanges of such
neighbours leave the same accounts, to the byte, and have the same calls accepted. Two lists of calls on
different parts may be interleaved in any way: each has the calls accepted that it would have alone. -/
theorem order_of_independent_calls (D : Deployment) (S : Store) :
    (∀ txs txs', Exchange D.footprint.Independent txs txs' →
      D.machine.run S txs = D.machine.run S txs' ∧
      Exchange D.footprint.Independent (D.machine.accepted S txs) (D.machine.accepted S txs')) ∧
    ∀ txs txs' all, Interleave txs txs' all → (∀ tx ∈ txs, ∀ tx' ∈ txs', D.footprint.Independent tx tx') →
      D.machine.run S all = D.machine.run (D.machine.run S txs) txs' ∧
      Interleave (D.machine.accepted S txs) (D.machine.accepted S txs') (D.machine.accepted S all) :=
  ⟨fun _ _ h => D.footprint.run_exchange h S, fun _ _ _ h hI => D.footprint.run_interleave h hI S⟩

end FreezeAuthority

namespace FreezeAuthority.Reference

theorem freeze_and_nomination_in_either_order :
    program.machine.run initialized [call 1 (.freeze_account (key 5).value),
      call 1 (.freeze_authority_nominate (key 3).value), call 1 .freeze_program] =
    program.machine.run initialized [call 1 (.freeze_authority_nominate (key 3).value),
      call 1 (.freeze_account (key 5).value), call 1 .freeze_program] := by
  have hindependent : program.footprint.Independent (call 1 (.freeze_account (key 5).value))
      (call 1 (.freeze_authority_nominate (key 3).value)) := by
    constructor <;> rintro p ⟨⟩ <;> simp [Deployment.footprint, Deployment.reads, Call.writes, call]
  exact ((order_of_independent_calls program initialized).1 _ _ (.swap _ hindependent)).1

end FreezeAuthority.Reference
