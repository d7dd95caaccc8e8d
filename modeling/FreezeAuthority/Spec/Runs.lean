import FreezeAuthority.Spec.Model

/-! # Runs, and where they start -/

namespace FreezeAuthority

variable [Lez] [Crates]

namespace Deployment

def NoMarkers (S : Store) : Prop := ∀ t, (S.marker t).account.data.bytes = []

/-- Dedicated mode, right after `freeze_initialize`. -/
def Initialized (D : Deployment) (S : Store) : Prop :=
  D.offset = 0 ∧ ∃ S₀ admin_config caller, NoMarkers S₀ ∧
    D.step S₀ ⟨admin_config, caller, Call.freeze_initialize⟩ = .ok S

/-- Embedded mode, with a window that was born all zero. -/
def BornVacant (D : Deployment) (S : Store) : Prop :=
  NoMarkers S ∧ D.offset + FreezeConfig.SIZE ≤ S.freeze_config.account.data.bytes.length ∧
    Window.read S.freeze_config.account.data.bytes D.offset FreezeConfig.SIZE =
      List.replicate FreezeConfig.SIZE 0

def Reachable (D : Deployment) (S : Store) : Prop := ∃ S₀ txs, D.Initialized S₀ ∧ S = D.machine.run S₀ txs

/-- A slot without a nominee, and nothing frozen. -/
structure Fresh (D : Deployment) (S : Store) (s : FreezeState) : Prop where
  represents : D.Represents S s
  nominee : s.slot.nominee = .default
  not_frozen : s.is_frozen = false
  marker : ∀ t, s.marker t = some false

/-! ## One state per store -/

/-- The slot of the config, vacant while there is no config. -/
def slot (D : Deployment) (S : Store) : AuthoritySlot :=
  match D.config S with
  | .ok c => c.slot
  | .error _ => .vacant

def is_frozen (D : Deployment) (S : Store) : Bool :=
  match D.config S with
  | .ok c => c.is_frozen
  | .error _ => false

theorem slot_of_represents {D : Deployment} {S : Store} {s : FreezeState} (h : D.Represents S s) :
    D.slot S = s.slot := by
  unfold slot
  rw [h.config]

theorem is_frozen_of_represents {D : Deployment} {S : Store} {s : FreezeState} (h : D.Represents S s) :
    D.is_frozen S = s.is_frozen := by
  unfold is_frozen
  rw [h.config]

theorem represents_of_config {D : Deployment} {S : Store} {c : FreezeConfig} (h : D.config S = .ok c) :
    D.Represents S ⟨c.slot, c.is_frozen, S.marked⟩ := ⟨h, rfl⟩

theorem Represents.unique {D : Deployment} {S : Store} {s s' : FreezeState} (h : D.Represents S s)
    (h' : D.Represents S s') : s = s' := by
  obtain ⟨slot, is_frozen, marker⟩ := s
  obtain ⟨slot', is_frozen', marker'⟩ := s'
  have hconfig := h.config.symm.trans h'.config
  have hmarked := h.marked.symm.trans h'.marked
  simp_all

/-- One call by one caller, under one admin. -/
structure Same (D D' : Deployment) (tx tx' : Tx) : Prop where
  call : tx.call = tx'.call
  caller : tx.caller = tx'.caller
  admin : Crates.admin_from_account_at tx.admin_config D.admin_offset =
    Crates.admin_from_account_at tx'.admin_config D'.admin_offset

/-! ## Starting -/

theorem marked_of_empty {S : Store} {t : Bytes32} (h : (S.marker t).account.data.bytes = []) :
    S.marked t = some false := by
  rw [S.marked_eq_some_iff]
  unfold FrozenAccountState.from_account
  rw [h]
  rfl

variable [LawfulCrates]

theorem represents_of_initialize {D : Deployment} {S S' : Store} {a caller : AccountWithMetadata}
    (hoffset : D.offset = 0) (h : D.step S ⟨a, caller, Call.freeze_initialize⟩ = .ok S') :
    D.Represents S' ⟨⟨caller.account_id, .default⟩, false, S.marked⟩ := by
  obtain ⟨-, -, -, -, d, hd, rfl⟩ := (step_initialize_eq_ok_iff _ _ _ _ _).mp h
  have hlen : d.bytes.length = FreezeConfig.SIZE := by rw [hd, FreezeConfig.length_bytes]
  refine ⟨?_, rfl⟩
  unfold config FreezeConfig.from_account_at
  rw [hoffset]
  show FreezeConfig.decode_at d.bytes 0 = _
  rw [FreezeConfig.decode_at_eq_ok_iff]
  unfold FreezeConfig.At
  rw [← hlen, Window.read_all, Nat.zero_add]
  exact ⟨Nat.le_refl _, hd⟩

theorem fresh_of_start {D : Deployment} {S : Store} (h : D.Initialized S ∨ D.BornVacant S) :
    ∃ s, D.Fresh S s := by
  rcases h with ⟨hoffset, S₀, a, caller, hmarkers, hstep⟩ | ⟨hmarkers, hfits, hzero⟩
  · exact ⟨_, represents_of_initialize hoffset hstep, rfl, rfl, fun t => marked_of_empty (hmarkers t)⟩
  · rw [← FreezeConfig.vacant_bytes] at hzero
    have hconfig : D.config S = .ok ⟨.vacant, false⟩ :=
      (FreezeConfig.decode_at_eq_ok_iff _ _ _).mpr ⟨hfits, hzero⟩
    exact ⟨_, represents_of_config hconfig, rfl, rfl, fun t => marked_of_empty (hmarkers t)⟩

/-! ## Any accepted step -/

theorem accepts_iff_permits {D : Deployment} {S : Store} {s : FreezeState} (h : D.Represents S s) (tx : Tx) :
    D.machine.accepts S tx = true ↔ s.Permits D tx := by
  rw [D.machine.accepts_iff]
  refine ⟨fun ⟨S', hstep⟩ => ((step_refines h tx).2 S' hstep).1, (step_refines h tx).1⟩

/-- An accepted step creates the config, or follows the machine from a config that exists. -/
theorem step_cases {D : Deployment} {S S' : Store} {tx : Tx} (h : D.step S tx = .ok S') :
    tx.call = Call.freeze_initialize ∨
      ∃ s, D.Represents S s ∧ s.Permits D tx ∧ D.Represents S' (s.next tx.call) := by
  by_cases hcall : tx.call = Call.freeze_initialize
  · exact Or.inl hcall
  · obtain ⟨c, hc⟩ := config_of_step h hcall
    have hrep := represents_of_config hc
    exact Or.inr ⟨_, hrep, (step_refines hrep tx).2 S' h⟩

end Deployment

end FreezeAuthority
