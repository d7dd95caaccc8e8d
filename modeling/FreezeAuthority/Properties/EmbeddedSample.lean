import FreezeAuthority.Properties.Hosts
import FreezeAuthority.Spec.Samples

/-!
# The embedded sample

One account, with three writers: the sample writes the struct whole, `admin-authority` writes the admin
slot, and this library writes the freeze slot. No writer loses what another wrote.
-/

namespace FreezeAuthority.Embedded

variable [Lez] [Crates] [AdminCrate]

/-! ## What an input writes -/

def Action.value : Action → Option UInt64
  | .update_value new_value => some new_value
  | .withdraw => some 0
  | _ => none

def Action.new_admin : Action → Option Crates.AdminConfig
  | .admin next => some next
  | _ => none

def Action.call : Action → Option Call
  | .management call => some call
  | _ => none

/-- Right after `initialize`, with no marker written. -/
def Start (deployer : AccountWithMetadata) (S : Store) : Prop :=
  Deployment.NoMarkers S ∧ ∃ config post, initialize_config deployer config = .ok ⟨[post]⟩ ∧
    S.freeze_config.account.data = post.account.data

variable [LawfulAdminCrate] [LawfulCrates] {program_id : ProgramId} {deployed : program_id ≠ .default}
  {S S' : Store} {p p' : ProgramConfig} {i : Input}

theorem Holds.unique (h : Holds S p) (h' : Holds S p') : p = p' :=
  Except.ok.inj (h.from_account.symm.trans h'.from_account)

/-- A write of the account that leaves the freeze field alone does not move the freeze state. -/
theorem Holds.represents (h : Holds S p) (h' : Holds S' p') (hfreeze : p'.freeze = p.freeze)
    (hmarker : S'.marker = S.marker) {s : FreezeState}
    (hrep : (deployment program_id deployed).Represents S s) :
    (deployment program_id deployed).Represents S' s := by
  have hconfig : (deployment program_id deployed).config S' = (deployment program_id deployed).config S := by
    have hS : (deployment program_id deployed).config S = .ok p.freeze := h.config
    have hS' : (deployment program_id deployed).config S' = .ok p'.freeze := h'.config
    rw [hS, hS', hfreeze]
  have hmarked : S'.marked = S.marked := by
    funext t
    unfold Store.marked
    rw [hmarker]
  exact ⟨hconfig.trans hrep.config, hmarked.trans hrep.marked⟩

/-! ## The steps -/

theorem step_management (h : Holds S p) {caller : AccountWithMetadata} {call : Call}
    (hstep : step (deployment program_id deployed) S ⟨caller, .management call⟩ = .ok S') :
    ∃ c, Holds S' { p with freeze := c } ∧ ∀ s, (deployment program_id deployed).Represents S s →
      (deployment program_id deployed).Represents S' (s.next call) := by
  have hstep : (deployment program_id deployed).step S ⟨S.freeze_config, caller, call⟩ = .ok S' := hstep
  have hnext (s : FreezeState) (hrep : (deployment program_id deployed).Represents S s) :=
    ((Deployment.step_refines hrep _).2 S' hstep).2
  cases Deployment.effect_of_step hstep with
  | created d _ hnew _ =>
    have hlen : S.freeze_config.account.data.bytes.length = 161 := (congrArg List.length h).trans p.length_bytes
    rw [hnew] at hlen
    cases hlen
  | config c c' => exact ⟨c', h.withConfig c', hnext⟩
  | frozen => exact ⟨p.freeze, h, hnext⟩
  | released => exact ⟨p.freeze, h, hnext⟩

theorem step_update_value_eq_ok_iff (h : Holds S p) (caller : AccountWithMetadata) (new_value : UInt64) :
    ∃ d, Holds { S with freeze_config := S.freeze_config.withData d } { p with value := new_value } ∧
      ∀ S', step (deployment program_id deployed) S ⟨caller, .update_value new_value⟩ = .ok S' ↔
        AdminSigned S.freeze_config ADMIN_SLOT_OFFSET caller ∧
        (deployment program_id deployed).admits S caller.account_id = .ok () ∧
        S' = { S with freeze_config := S.freeze_config.withData d } := by
  obtain ⟨d, hd, hupdate⟩ := h.update_value new_value
  refine ⟨d, hd, fun S' => ?_⟩
  have hgate : gate S.freeze_config (S.marker caller.account_id.value) FREEZE_SLOT_OFFSET =
      (deployment program_id deployed).admits S caller.account_id := rfl
  unfold step require_not_frozen
  simp only [Result.bind_eq_ok, Result.pure_eq, Except.ok.injEq, hgate, hupdate]
  constructor
  · rintro ⟨_, hadmin, _, ⟨_, hadmits, rfl⟩, rfl⟩
    exact ⟨(LawfulAdminCrate.require_admin_at_ok_iff _ _ _).mp hadmin, hadmits, rfl⟩
  · rintro ⟨hadmin, hadmits, rfl⟩
    exact ⟨(), (LawfulAdminCrate.require_admin_at_ok_iff _ _ _).mpr hadmin, _, ⟨(), hadmits, rfl⟩, rfl⟩

theorem step_withdraw_eq_ok_iff (h : Holds S p) (caller : AccountWithMetadata) :
    ∃ d, Holds { S with freeze_config := S.freeze_config.withData d } { p with value := 0 } ∧
      ∀ S', step (deployment program_id deployed) S ⟨caller, .withdraw⟩ = .ok S' ↔
        AdminSigned S.freeze_config ADMIN_SLOT_OFFSET caller ∧
        S' = { S with freeze_config := S.freeze_config.withData d } := by
  obtain ⟨d, hd, hupdate⟩ := h.update_value 0
  refine ⟨d, hd, fun S' => ?_⟩
  unfold step
  simp only [Result.bind_eq_ok, Result.pure_eq, Except.ok.injEq, withdraw_eq, hupdate]
  constructor
  · rintro ⟨_, hadmin, _, rfl, rfl⟩
    exact ⟨(LawfulAdminCrate.require_admin_at_ok_iff _ _ _).mp hadmin, rfl⟩
  · rintro ⟨hadmin, rfl⟩
    exact ⟨(), (LawfulAdminCrate.require_admin_at_ok_iff _ _ _).mpr hadmin, _, rfl, rfl⟩

theorem step_read_value (h : Holds S p) (caller : AccountWithMetadata) :
    step (deployment program_id deployed) S ⟨caller, .read_value⟩ = .ok S := by
  unfold step
  rw [h.read_value]
  rfl

/-- What an accepted input does to the struct, and to the freeze state it holds. -/
theorem step_holds (h : Holds S p) (hstep : step (deployment program_id deployed) S i = .ok S') :
    ∃ p', Holds S' p' ∧ p'.value = i.action.value.getD p.value ∧ p'.padding = p.padding ∧
      p'.admin = i.action.new_admin.getD p.admin ∧
      ∀ s, (deployment program_id deployed).Represents S s →
        (deployment program_id deployed).Represents S' (i.action.call.elim s s.next) := by
  obtain ⟨caller, action⟩ := i
  cases action with
  | management call =>
    obtain ⟨c, hholds, hrep⟩ := step_management h hstep
    exact ⟨_, hholds, rfl, rfl, rfl, hrep⟩
  | update_value new_value =>
    obtain ⟨d, hd, hiff⟩ := step_update_value_eq_ok_iff h caller new_value
    obtain ⟨-, -, rfl⟩ := (hiff S').mp hstep
    exact ⟨_, hd, rfl, rfl, rfl, fun s => h.represents hd rfl rfl⟩
  | read_value =>
    rw [step_read_value h] at hstep
    cases hstep
    exact ⟨p, h, rfl, rfl, rfl, fun s hrep => hrep⟩
  | withdraw =>
    obtain ⟨d, hd, hiff⟩ := step_withdraw_eq_ok_iff h caller
    obtain ⟨-, rfl⟩ := (hiff S').mp hstep
    exact ⟨_, hd, rfl, rfl, rfl, fun s => h.represents hd rfl rfl⟩
  | admin next =>
    cases hstep
    have hadmin := h.writeAdmin next
    exact ⟨_, hadmin, rfl, rfl, rfl, fun s => h.represents hadmin rfl rfl⟩

/-! ## The runs -/

variable (program_id) (deployed)

theorem Start.holds {deployer : AccountWithMetadata} (h : Start deployer S) : ∃ genesis,
    Holds S ⟨0, .fill 24 0, genesis, .default⟩ ∧ Crates.admin genesis = deployer.account_id ∧
      deployer.account_id ≠ .default := by
  obtain ⟨-, config, post, hinit, hdata⟩ := h
  obtain ⟨genesis, d, hadmin, hne, hd, hout⟩ := initialize_config_eq_ok hinit
  cases hout
  refine ⟨genesis, ?_, hadmin, hne⟩
  unfold Holds
  rw [hdata]
  exact hd

theorem Holds.fresh {value : UInt64} {padding : FixedArray UInt8 24} {a : Crates.AdminConfig}
    (h : Holds S ⟨value, padding, a, .default⟩) (hmarkers : Deployment.NoMarkers S) :
    (deployment program_id deployed).Fresh S ⟨.vacant, false, fun _ => some false⟩ := by
  refine ⟨⟨h.config, funext fun t => Deployment.marked_of_empty (hmarkers t)⟩, rfl, rfl, fun _ => rfl⟩

theorem value_run (h : Holds S p) (is : List Input) : ∃ p',
    Holds ((machine (deployment program_id deployed)).run S is) p' ∧
      p'.value = ((machine (deployment program_id deployed)).lastWrite (fun i => i.action.value) S is).getD
        p.value := by
  refine Machine.register_run _ (fun S v => ∃ p, Holds S p ∧ p.value = v) (fun i => i.action.value) ?_ is S
    p.value ⟨p, h, rfl⟩
  rintro S i S' v ⟨p, h, rfl⟩ hstep
  obtain ⟨p', hholds, hvalue, -⟩ := step_holds h hstep
  exact ⟨p', hholds, hvalue⟩

end FreezeAuthority.Embedded

namespace FreezeAuthority.Reference

def appoint : Embedded.Input := ⟨signer 1, .management (.freeze_authority_transfer (signer 2) .Signer)⟩

end FreezeAuthority.Reference

namespace FreezeAuthority.Embedded

variable [Lez] [Crates] [AdminCrate] [LawfulAdminCrate] [LawfulCrates] (program_id : ProgramId)
  (deployed : program_id ≠ .default) {S : Store} {p : ProgramConfig}

end FreezeAuthority.Embedded

namespace FreezeAuthority.Reference

end FreezeAuthority.Reference
