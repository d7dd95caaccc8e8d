import FreezeAuthority.Properties.Gate

/-!
# The order of the attributes

Attributes expand from top to bottom. A marker has to stand below `#[lez_program]`, and of several gates
on a function the lowest answers first.
-/

namespace FreezeAuthority.Macros

/-! ## The marker on a module -/

section Marker

variable {resolve : Path → AttrMacro} {ident : Ident} {content : String} {attrs below : List Attribute}

/-- Somewhere a marker is above a `#[lez_program]` that is written by its bare name. -/
def MarkerAbove (resolve : Path → AttrMacro) (attrs : List Attribute) : Prop :=
  ∃ marker below, marker :: below <:+ attrs ∧ resolve marker.path = .freeze_authority ∧
    ∃ program ∈ below, program.path.is_ident "lez_program" = true

theorem freeze_authority_module (ident : Ident) (content : String) (below : List Attribute) :
    freeze_authority (.Mod ⟨below, ident, content⟩) =
      if ∃ program ∈ below, program.path.is_ident "lez_program" = true then .error (misplaced ident)
      else .ok (.Mod ⟨below, ident, content⟩) := by
  unfold freeze_authority misplaced_above_lez_program
  by_cases h : below.any (·.path.is_ident "lez_program")
  · simp only [h, if_true, if_pos (List.any_eq_true.mp h)]
  · have h' := fun hex => h (List.any_eq_true.mpr hex)
    simp only [h, if_neg h']
    rfl

theorem markerAbove_cons (attr : Attribute) (below : List Attribute) :
    MarkerAbove resolve (attr :: below) ↔
      (resolve attr.path = .freeze_authority ∧ ∃ program ∈ below, program.path.is_ident "lez_program" = true) ∨
        MarkerAbove resolve below := by
  unfold MarkerAbove
  simp only [List.suffix_cons_iff]
  constructor
  · rintro ⟨marker, rest, heq | hsuffix, hmarker, hprogram⟩
    · cases heq
      exact Or.inl ⟨hmarker, hprogram⟩
    · exact Or.inr ⟨marker, rest, hsuffix, hmarker, hprogram⟩
  · rintro (⟨hmarker, hprogram⟩ | ⟨marker, rest, hsuffix, hmarker, hprogram⟩)
    · exact ⟨attr, below, Or.inl rfl, hmarker, hprogram⟩
    · exact ⟨marker, rest, Or.inr hsuffix, hmarker, hprogram⟩

/-- An expansion fails exactly on such a marker. -/
theorem expand_eq_error_iff (attrs : List Attribute) (e : CompileError) :
    expand resolve ident content attrs = .error e ↔ MarkerAbove resolve attrs ∧ e = misplaced ident := by
  induction attrs with
  | nil =>
    unfold expand MarkerAbove
    simp
  | cons attr below ih =>
    rw [markerAbove_cons]
    unfold expand
    cases hattr : resolve attr.path with
    | lez_program =>
      simp only [reduceCtorEq, false_and, false_or]
      rw [Result.bind_eq_error, ← ih]
      simp
    | freeze_authority =>
      simp only [true_and]
      rw [freeze_authority_module]
      by_cases h : ∃ program ∈ below, program.path.is_ident "lez_program" = true
      · rw [if_pos h, Result.error_bind]
        simp only [h, true_or, true_and, Except.error.injEq]
        exact eq_comm
      · rw [if_neg h, Result.ok_bind, ih]
        simp only [h, false_or]
    | other =>
      simp only [reduceCtorEq, false_and, false_or]
      exact ih

/-- Each `#[lez_program]` finds what is below it. -/
theorem mem_expand {seen : List (List Attribute)} (h : expand resolve ident content attrs = .ok seen)
    (below : List Attribute) :
    below ∈ seen ↔ ∃ program, program :: below <:+ attrs ∧ resolve program.path = .lez_program := by
  induction attrs generalizing seen with
  | nil =>
    cases h
    simp
  | cons attr rest ih =>
    unfold expand at h
    simp only [List.suffix_cons_iff]
    cases hattr : resolve attr.path with
    | lez_program =>
      simp only [hattr] at h
      obtain ⟨later, hlater, h⟩ := Result.bind_eq_ok.mp h
      cases h
      rw [List.mem_cons, ih hlater]
      constructor
      · rintro (rfl | ⟨program, hsuffix, hprogram⟩)
        · exact ⟨attr, Or.inl rfl, hattr⟩
        · exact ⟨program, Or.inr hsuffix, hprogram⟩
      · rintro ⟨program, heq | hsuffix, hprogram⟩
        · cases heq
          exact Or.inl rfl
        · exact Or.inr ⟨program, hsuffix, hprogram⟩
    | freeze_authority =>
      simp only [hattr] at h
      obtain ⟨_, -, h⟩ := Result.bind_eq_ok.mp h
      rw [ih h]
      constructor
      · rintro ⟨program, hsuffix, hprogram⟩
        exact ⟨program, Or.inr hsuffix, hprogram⟩
      · rintro ⟨program, heq | hsuffix, hprogram⟩
        · cases heq
          rw [hattr] at hprogram
          cases hprogram
        · exact ⟨program, hsuffix, hprogram⟩
    | other =>
      simp only [hattr] at h
      rw [ih h]
      constructor
      · rintro ⟨program, hsuffix, hprogram⟩
        exact ⟨program, Or.inr hsuffix, hprogram⟩
      · rintro ⟨program, heq | hsuffix, hprogram⟩
        · cases heq
          rw [hattr] at hprogram
          cases hprogram
        · exact ⟨program, hsuffix, hprogram⟩

/-- Above attributes that are not written by the bare name, a marker does nothing. -/
theorem expand_marker {marker : Attribute} (hmarker : resolve marker.path = .freeze_authority)
    (hbelow : ∀ attr ∈ below, attr.path ≠ .of_ident "lez_program") :
    expand resolve ident content (marker :: below) = expand resolve ident content below := by
  have hnone : ¬∃ program ∈ below, program.path.is_ident "lez_program" = true := by
    rintro ⟨program, hmem, hprogram⟩
    exact hbelow program hmem ((Path.is_ident_eq _ _).mp hprogram)
  rw [expand, hmarker]
  dsimp only
  rw [freeze_authority_module, if_neg hnone, Result.ok_bind]

/-- A marker is seen by the framework, or refused, or above a `#[lez_program]` of another name. The expansion
of a module fails exactly when a marker is above a `#[lez_program]` of that bare name, always with the error
on the module's name. When it does not fail, each `#[lez_program]` finds the attributes below it, and one with
a marker above is written otherwise: by a longer path, or by the name of a renamed import. There the marker is
lost without an error, and the module expands as if it were not there. -/
theorem marker_is_seen_or_refused (resolve : Path → AttrMacro) (ident : Ident) (content : String)
    (attrs : List Attribute) :
    (∀ e, expand resolve ident content attrs = .error e ↔ MarkerAbove resolve attrs ∧ e = misplaced ident) ∧
    (∀ seen, expand resolve ident content attrs = .ok seen →
      (∀ below, below ∈ seen ↔ ∃ program, program :: below <:+ attrs ∧ resolve program.path = .lez_program) ∧
      ∀ above program below, attrs = above ++ program :: below → ∀ marker ∈ above,
        resolve marker.path = .freeze_authority → program.path ≠ .of_ident "lez_program") ∧
    ∀ marker, resolve marker.path = .freeze_authority → (∀ attr ∈ attrs, attr.path ≠ .of_ident "lez_program") →
      expand resolve ident content (marker :: attrs) = expand resolve ident content attrs := by
  refine ⟨expand_eq_error_iff attrs, ?_, fun _ => expand_marker⟩
  intro seen h
  refine ⟨mem_expand h, ?_⟩
  rintro above program below rfl marker hmem hmarker hbare
  obtain ⟨first, rest, rfl⟩ := List.append_of_mem hmem
  have habove : MarkerAbove resolve (first ++ marker :: rest ++ program :: below) :=
    ⟨marker, rest ++ program :: below, ⟨first, by simp⟩, hmarker, program, by simp,
      (Path.is_ident_eq _ _).mpr hbare⟩
  rw [(expand_eq_error_iff _ _).mpr ⟨habove, rfl⟩] at h
  cases h

end Marker

/-! ## Gates on a function -/

section Gates

variable [Lez] {σ ε α : Type}

/-- The answer of the lowest gate that refuses. -/
def refusal (attrs : List (List MetaNameValue)) (frame : Frame σ) : Option FreezeError :=
  attrs.reverse.findSome? fun attr => (GateArgs.named attr).verdict frame

theorem refusal_cons (attr : List MetaNameValue) (attrs : List (List MetaNameValue)) (frame : Frame σ) :
    refusal (attr :: attrs) frame = (refusal attrs frame).or ((GateArgs.named attr).verdict frame) := by
  unfold refusal
  rw [List.reverse_cons, List.findSome?_append]
  congr 1
  rw [List.findSome?_cons]
  cases (GateArgs.named attr).verdict frame <;> rfl

theorem refusal_eq_none_iff (attrs : List (List MetaNameValue)) (frame : Frame σ) :
    refusal attrs frame = none ↔ ∀ attr ∈ attrs, (GateArgs.named attr).verdict frame = none := by
  unfold refusal
  simp only [List.findSome?_eq_none_iff, List.mem_reverse]

/-- The function behind all its gates. -/
def ItemFn.gatedAll (func : ItemFn σ ε α) (attrs : List (List MetaNameValue)) : ItemFn σ ε α :=
  attrs.foldl (fun func attr => func.gated (.named attr)) func

theorem require_not_frozen_all_eq_ok_iff [Host] (attrs : List (List MetaNameValue)) (func gated : ItemFn σ ε α) :
    require_not_frozen_all attrs func = .ok gated ↔
      (∀ attr ∈ attrs, ∀ pair ∈ attr, pair.Accepted) ∧ gated = func.gatedAll attrs :=
  Loop.foldlM_eq_ok_iff (fun func attr gated => require_not_frozen_eq_ok_iff attr func gated) attrs func gated

variable [Crates] [FromFreezeError ε] [LawfulCrates]

/-- One more gate on top of a stack is the last one to be asked. -/
theorem ItemFn.call_gatedAll (func : ItemFn σ ε α) (attrs : List (List MetaNameValue)) (frame : Frame σ) :
    (func.gatedAll attrs).call frame =
      match refusal attrs frame with
      | none => func.call frame
      | some e => (some (.error (FromFreezeError.into e)), frame) := by
  induction attrs generalizing func with
  | nil => rfl
  | cons attr attrs ih =>
    have houter := func.call_gated (.named attr) frame
    rw [GateArgs.check_eq_verdict] at houter
    unfold gatedAll at ih ⊢
    rw [List.foldl_cons, ih, refusal_cons, houter]
    cases refusal attrs frame with
    | some e => rfl
    | none => cases (GateArgs.named attr).verdict frame <;> rfl

/-- Gates on one function stack. They expand exactly when each has arguments that the macro takes. The
body runs where every gate lets the call in, whatever their order. Otherwise the lowest gate that refuses
answers, and nothing of the body has run. -/
theorem gates_stack [Host] (attrs : List (List MetaNameValue)) (func : ItemFn σ ε α) :
    ((∃ gated, require_not_frozen_all attrs func = .ok gated) ↔ ∀ attr ∈ attrs, ∀ pair ∈ attr, pair.Accepted) ∧
    ∀ gated, require_not_frozen_all attrs func = .ok gated → ∀ frame : Frame σ,
      ((∀ attr ∈ attrs, (GateArgs.named attr).verdict frame = none) → gated.call frame = func.call frame) ∧
      ∀ above attr below e, attrs = above ++ attr :: below →
        (∀ lower ∈ below, (GateArgs.named lower).verdict frame = none) →
        (GateArgs.named attr).verdict frame = some e →
        gated.call frame = (some (.error (FromFreezeError.into e)), frame) := by
  simp only [require_not_frozen_all_eq_ok_iff]
  refine ⟨⟨fun ⟨_, h, _⟩ => h, fun h => ⟨_, h, rfl⟩⟩, ?_⟩
  rintro gated ⟨-, rfl⟩ frame
  have hcall := func.call_gatedAll attrs frame
  constructor
  · intro hopen
    rw [(refusal_eq_none_iff attrs frame).mpr hopen] at hcall
    exact hcall
  · rintro above attr below e rfl hlower he
    have hrefusal : refusal (above ++ attr :: below) frame = some e := by
      have hbelow := (refusal_eq_none_iff below frame).mpr hlower
      unfold refusal at hbelow ⊢
      rw [List.reverse_append, List.reverse_cons, List.findSome?_append, List.findSome?_append, hbelow]
      simp [he]
    rw [hrefusal] at hcall
    exact hcall

end Gates

end FreezeAuthority.Macros

namespace FreezeAuthority.Reference

open Macros

def bare (ident : Ident) : Macros.Attribute := ⟨.of_ident ident⟩

/-- `lp` is imported as another name of `lez_program`. -/
def resolve (path : Path) : AttrMacro :=
  if path.is_ident "lez_program" || path.is_ident "lp" then .lez_program
  else if path.is_ident "freeze_authority" then .freeze_authority
  else .other

theorem marker_above_is_refused_or_lost :
    expand resolve "program" "" [bare "freeze_authority", bare "doc", bare "lez_program"] =
      .error (misplaced "program") ∧
    expand resolve "program" "" [bare "freeze_authority", bare "lp"] = .ok [[]] := by
  have hrefused := marker_is_seen_or_refused resolve "program" "" [bare "freeze_authority", bare "doc",
    bare "lez_program"]
  have hlost := marker_is_seen_or_refused resolve "program" "" [bare "lp"]
  constructor
  · exact (hrefused.1 _).mpr ⟨⟨bare "freeze_authority", [bare "doc", bare "lez_program"], ⟨[], rfl⟩, by decide,
      bare "lez_program", by decide, by decide⟩, rfl⟩
  · exact (hlost.2.2 (bare "freeze_authority") (by decide) (by decide)).trans rfl

/-- The gate that the framework stamps, above one of the function's own. -/
theorem stamped_gate_and_own_gate : ∃ gated,
    require_not_frozen_all [[], []] (⟨[]⟩ : ItemFn Unit SpelError Unit) = .ok gated ∧
      gated.call on_frozen_account =
        (some (.error (FreezeError.toSpelError .AccountFrozen)), on_frozen_account) := by
  obtain ⟨hexpands, hcalls⟩ := gates_stack [[], []] (⟨[]⟩ : ItemFn Unit SpelError Unit)
  obtain ⟨gated, hgated⟩ := hexpands.mpr (by simp)
  exact ⟨gated, hgated, (hcalls gated hgated on_frozen_account).2 [[]] [] [] _ rfl (by simp) rfl⟩

end FreezeAuthority.Reference
