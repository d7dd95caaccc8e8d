import FreezeAuthority.Spec.Macros
import FreezeAuthority.Spec.Reference

/-!
# The attribute binds the gate to the accounts it names

The loop over the arguments assigns three variables. A name in the wrong one would compile, and the gate
would read the wrong account.
-/

namespace FreezeAuthority.Macros

theorem GateArgs.named_filter_caller (attr : List MetaNameValue) :
    named (attr.filter fun pair => !pair.path.is_ident "caller") = named attr := by
  have hcaller (pair : MetaNameValue) (h : (!pair.path.is_ident "caller") = false) :
      pair.path.is_ident "caller" = true := by
    simpa using h
  unfold named
  rw [Loop.last_filter, Loop.last_filter, Loop.last_filter]
  · intro pair _ h
    exact MetaNameValue.offset_for_of_not (Path.is_ident_of_ne (hcaller pair h) (by decide))
  · intro pair _ h
    exact MetaNameValue.ident_for_of_not (Path.is_ident_of_ne (hcaller pair h) (by decide))
  · intro pair _ h
    exact MetaNameValue.ident_for_of_not (Path.is_ident_of_ne (hcaller pair h) (by decide))

theorem MetaNameValue.path_of_ident_for {key : Ident} {pair : MetaNameValue} (h : pair.ident_for key ≠ none) :
    pair.path = .of_ident key := by
  rw [← Path.is_ident_eq]
  by_contra hkey
  exact h (ident_for_of_not (by simpa using hkey))

theorem MetaNameValue.path_of_offset_for {pair : MetaNameValue} (h : pair.offset_for ≠ none) :
    pair.path = .of_ident "offset" := by
  rw [← Path.is_ident_eq]
  by_contra hkey
  exact h (offset_for_of_not (by simpa using hkey))

theorem GateArgs.named_perm {attr attr' : List MetaNameValue} (hkeys : (attr.map (·.path)).Nodup)
    (hperm : attr'.Perm attr) : named attr' = named attr := by
  unfold named
  rw [Loop.last_perm (fun _ _ => MetaNameValue.path_of_ident_for) hkeys hperm,
    Loop.last_perm (fun _ _ => MetaNameValue.path_of_ident_for) hkeys hperm,
    Loop.last_perm (fun _ _ => MetaNameValue.path_of_offset_for) hkeys hperm]

variable [Host] [Lez] {σ ε α : Type}

theorem require_not_frozen_perm {attr attr' : List MetaNameValue} (hkeys : (attr.map (·.path)).Nodup)
    (hperm : attr'.Perm attr) (func gated : ItemFn σ ε α) :
    require_not_frozen attr' func = .ok gated ↔ require_not_frozen attr func = .ok gated := by
  rw [require_not_frozen_eq_ok_iff, require_not_frozen_eq_ok_iff, GateArgs.named_perm hkeys hperm]
  have hmem (pair : MetaNameValue) : pair ∈ attr' ↔ pair ∈ attr := hperm.mem_iff
  simp only [hmem]

variable [Crates] [FromFreezeError ε]

/-- The attribute takes exactly the lists of arguments that are accepted one by one. It puts the prologue,
on the last names and the last offset, in front of the function. The entries for `caller` bind nothing, and
distinct keys may come in any order. A call that the prologue refuses has done nothing. -/
theorem attribute_binds_the_gate (attr : List MetaNameValue) (func : ItemFn σ ε α) :
    ((∃ gated, require_not_frozen attr func = .ok gated) ↔ ∀ pair ∈ attr, pair.Accepted) ∧
    (∀ gated, require_not_frozen attr func = .ok gated →
      gated.stmts = .prologue (.named attr) :: func.stmts ∧
      ∀ frame, match ((GateArgs.named attr).check frame.locals : Except ε Unit) with
        | .ok () => gated.call frame = func.call frame
        | .error e => gated.call frame = (some (.error e), frame)) ∧
    (∀ attr' gated gated',
      attr'.filter (fun pair => !pair.path.is_ident "caller") =
        attr.filter (fun pair => !pair.path.is_ident "caller") →
      require_not_frozen attr func = .ok gated → require_not_frozen attr' func = .ok gated' →
      gated' = gated) ∧
    ∀ attr', (attr.map (·.path)).Nodup → attr'.Perm attr →
      ∀ gated, require_not_frozen attr' func = .ok gated ↔ require_not_frozen attr func = .ok gated := by
  refine ⟨?_, ?_, ?_, ?_⟩
  · simp only [require_not_frozen_eq_ok_iff, exists_eq_right]
  · intro gated hgated
    obtain ⟨-, rfl⟩ := (require_not_frozen_eq_ok_iff attr func gated).mp hgated
    refine ⟨func.gated_stmts _, ?_⟩
    intro frame
    rw [func.call_gated]
    cases ((GateArgs.named attr).check frame.locals : Except ε Unit) <;> rfl
  · intro attr' gated gated' hsame hgated hgated'
    obtain ⟨-, rfl⟩ := (require_not_frozen_eq_ok_iff attr func gated).mp hgated
    obtain ⟨-, rfl⟩ := (require_not_frozen_eq_ok_iff attr' func gated').mp hgated'
    rw [← GateArgs.named_filter_caller attr', hsame, GateArgs.named_filter_caller]
  · intro attr' hkeys hperm gated
    exact require_not_frozen_perm hkeys hperm func gated

end FreezeAuthority.Macros

namespace FreezeAuthority.Reference

open Macros

def empty_body : ItemFn Unit SpelError Unit := ⟨[]⟩

def old_key : MetaNameValue := .kwarg "config" "cfg"

def no_literal : MetaNameValue := .kwarg "offset" "at"

/-- A key that does not exist and an offset that is no literal. The first of the two is reported. -/
theorem permuted_arguments_change_the_error :
    [no_literal, old_key].Perm [old_key, no_literal] ∧ ([old_key, no_literal].map (·.path)).Nodup ∧
    Macros.require_not_frozen [old_key, no_literal] empty_body =
      .error ⟨.path (.of_ident "config"),
        "unknown key; expected `freeze_config` or `freeze_account` or `caller` or `offset`"⟩ ∧
    Macros.require_not_frozen [no_literal, old_key] empty_body =
      .error ⟨.expr (.Path (.of_ident "at")), "offset must be an integer literal"⟩ ∧
    Macros.require_not_frozen [no_literal, old_key] empty_body ≠
      Macros.require_not_frozen [old_key, no_literal] empty_body := by
  have hkey : Macros.require_not_frozen [old_key, no_literal] empty_body =
      .error ⟨.path (.of_ident "config"),
        "unknown key; expected `freeze_config` or `freeze_account` or `caller` or `offset`"⟩ := rfl
  have hoffset : Macros.require_not_frozen [no_literal, old_key] empty_body =
      .error ⟨.expr (.Path (.of_ident "at")), "offset must be an integer literal"⟩ := rfl
  refine ⟨List.Perm.swap _ _ _, by decide, hkey, hoffset, ?_⟩
  rw [hkey, hoffset]
  intro h
  cases h

/-- What the framework writes, with an offset. -/
def every_key : List MetaNameValue :=
  [.kwarg "freeze_config" "a", .kwarg "freeze_account" "b", .kwarg "caller" "c",
    ⟨.of_ident "offset", .Lit (.Int ⟨false, 64⟩)⟩]

theorem attribute_with_every_key :
    ∃ gated, Macros.require_not_frozen every_key empty_body = .ok gated ∧
      gated.stmts = [.prologue ⟨"a", "b", 64⟩] := by
  have hbinds := attribute_binds_the_gate every_key empty_body
  refine ⟨_, rfl, ?_⟩
  exact (hbinds.2.1 _ rfl).1

end FreezeAuthority.Reference
