import FreezeAuthority.Properties.Landing

/-!
# The program on a chain with others

Between two transactions of the program anything else may land. The freeze state follows the landed
calls alone, and its holder is never locked out.
-/

namespace FreezeAuthority

variable [Lez] [Crates]

/-! ## Everything else -/

/-- The accounts that hold the freeze state of the program. -/
def Site.Stores (P : Site) (id : AccountId) : Prop := id = P.freeze_config ∨ ∃ t ∈ P.targets, id = P.marker t

/-- What may happen to the accounts beside the library: by other programs, by the admin library, by the
program's own other instructions. LEZ sees to it by its rules on owners and on PDAs. -/
structure Site.Elsewhere (P : Site) (c c' : Chain) : Prop where
  -- Rule 7: once owned, for ever owned.
  program_owner (id : AccountId) : (c id).program_owner ≠ .default →
    (c' id).program_owner = (c id).program_owner
  -- No key signs for a PDA, and no other program can claim it.
  config_new : c P.freeze_config = .default → c' P.freeze_config = .default
  marker_new (t : Bytes32) : t ∈ P.targets → c (P.marker t) = .default → c' (P.marker t) = .default
  -- Only the library writes the freeze state.
  config (cfg : FreezeConfig) : P.config (P.store c) = .ok cfg → P.config (P.store c') = .ok cfg
  marker (t : Bytes32) : t ∈ P.targets → (c' (P.marker t)).data = (c (P.marker t)).data

/-- From one chain to another, with the calls of the library that landed on the way. -/
inductive Site.Evolves [Sequencer] (P : Site) (c : Chain) : List Tx → Chain → Prop
  | start : P.Evolves c [] c
  | landed {txs : List Tx} {c' c'' : Chain} (sub : P.Submission) (before : P.Evolves c txs c')
      (h : sub.submit c' = .ok c'') : P.Evolves c (txs ++ [sub.tx c']) c''
  | elsewhere {txs : List Tx} {c' c'' : Chain} (before : P.Evolves c txs c') (h : P.Elsewhere c' c'') :
      P.Evolves c txs c''

/-- The state after calls that were all permitted. -/
def FreezeState.after (s : FreezeState) (txs : List Tx) : FreezeState :=
  txs.foldl (fun s tx => s.next tx.call) s

def FreezeState.PermitsAll (D : Deployment) (s : FreezeState) (txs : List Tx) : Prop :=
  ∀ n tx, txs[n]? = some tx → (s.after (txs.take n)).Permits D tx

theorem FreezeState.permitsAll_concat {D : Deployment} {s : FreezeState} {txs : List Tx} {tx : Tx}
    (h : s.PermitsAll D txs) (htx : (s.after txs).Permits D tx) : s.PermitsAll D (txs ++ [tx]) := by
  intro n tx' hn
  rcases Nat.lt_trichotomy n txs.length with hlt | heq | hgt
  · rw [List.getElem?_append_left hlt] at hn
    rw [List.take_append_of_le_length (Nat.le_of_lt hlt)]
    exact h n tx' hn
  · subst heq
    rw [List.getElem?_concat_length] at hn
    cases hn
    rw [List.take_left']
    · exact htx
    · rfl
  · rw [List.getElem?_eq_none (by simp; omega)] at hn
    cases hn

namespace Site

variable {P : Site}

/-- It is enough that the accounts of the freeze state stay as they are, and that no account loses its
owner. -/
theorem Elsewhere.of_same {c c' : Chain}
    (howner : ∀ id, (c id).program_owner ≠ .default → (c' id).program_owner = (c id).program_owner)
    (hsame : ∀ id, P.Stores id → c' id = c id) : P.Elsewhere c c' := by
  have hconfig : c' P.freeze_config = c P.freeze_config := hsame _ (Or.inl rfl)
  have hmarker (t : Bytes32) (ht : t ∈ P.targets) : c' (P.marker t) = c (P.marker t) :=
    hsame _ (Or.inr ⟨t, ht, rfl⟩)
  refine ⟨howner, ?_, ?_, ?_, ?_⟩
  · rw [hconfig]
    exact id
  · intro t ht
    rw [hmarker t ht]
    exact id
  · intro cfg hcfg
    unfold Deployment.config store at hcfg ⊢
    rw [hconfig]
    exact hcfg
  · intro t ht
    rw [hmarker t ht]

theorem Elsewhere.represents {c c' : Chain} (h : P.Elsewhere c c') {s : FreezeState}
    (hrep : P.Represents (P.store c) s) : P.Represents (P.store c') s := by
  refine ⟨h.config _ hrep.config, ?_⟩
  rw [← hrep.marked]
  funext t
  have hdata : ((P.store c').marker t).account.data = ((P.store c).marker t).account.data := by
    by_cases ht : t ∈ P.targets
    · rw [store_marker _ ht, store_marker _ ht]
      exact h.marker t ht
    · rw [store_marker_of_not_mem _ ht, store_marker_of_not_mem _ ht]
  unfold Store.marked FrozenAccountState.from_account
  rw [hdata]

variable [LawfulCrates] [Sequencer] [LawfulSequencer]

/-- On any chain, what the accounts stand for is what the landed calls made of it. Each of them was
permitted where it landed. -/
theorem chain_refines {c c' : Chain} {txs : List Tx} (h : P.Evolves c txs c') {s : FreezeState}
    (hrep : P.Represents (P.store c) s) :
    P.Represents (P.store c') (s.after txs) ∧ s.PermitsAll P.toDeployment txs := by
  induction h with
  | start => exact ⟨hrep, fun n tx hn => by cases n <;> cases hn⟩
  | landed sub _ hsubmit ih =>
    obtain ⟨hrep', hpermits⟩ := ih
    obtain ⟨hpermit, hnext⟩ := (Deployment.step_refines hrep' _).2 _ (Submission.step_of_submit hsubmit)
    refine ⟨?_, FreezeState.permitsAll_concat hpermits hpermit⟩
    unfold FreezeState.after
    rw [List.foldl_concat]
    exact hnext
  | elsewhere _ hother ih => exact ⟨hother.represents ih.1, ih.2⟩

end Site

end FreezeAuthority

namespace FreezeAuthority.Reference

def freeze_site : site.Submission :=
  submission 1 (.freeze_account (key 5).value) (by decide) (by simp [Site.takes, site])

theorem site_marker (config : Account) (t : Bytes32) :
    ((site.store (chain config)).marker t).account = .default := by
  by_cases ht : t ∈ site.targets
  · obtain rfl := List.mem_singleton.mp ht
    rfl
  · rw [Site.store_marker_of_not_mem _ ht]

/-- Somebody pays key 9. -/
def paid (c : Chain) : Chain := c.put ⟨{ c (key 9) with balance := (c (key 9)).balance + 1 }, false, key 9⟩

theorem paid_of_ne (c : Chain) {id : AccountId} (h : id ≠ key 9) : paid c id = c id := c.put_of_ne h

theorem elsewhere_paid (c : Chain) : site.Elsewhere c (paid c) := by
  apply Site.Elsewhere.of_same
  · intro id _
    by_cases hid : id = key 9
    · subst hid
      unfold paid
      rw [Chain.put_self]
    · rw [paid_of_ne c hid]
  · rintro id (rfl | ⟨t, ht, rfl⟩)
    · exact paid_of_ne c (by decide)
    · obtain rfl := List.mem_singleton.mp ht
      exact paid_of_ne c (by decide)

set_option maxRecDepth 8000 in
theorem chain_refines_freeze : ∃ c, freeze_site.submit (chain initialized.freeze_config.account) = .ok c ∧
    ((site.store (paid c)).marked (key 5).value = some true) := by
  have hsane : site.Sane (chain initialized.freeze_config.account) :=
    ⟨by decide, Or.inr ⟨rfl, _, initialized_config⟩, fun t => Or.inl (site_marker _ t)⟩
  obtain ⟨c, hc⟩ := (Site.lands_iff hsane freeze_site).mpr
    ⟨⟨_, rfl⟩, by decide, fun h => absurd h.2 (by decide)⟩
  have hrep : site.Represents (site.store (chain initialized.freeze_config.account))
      ⟨⟨key 1, .default⟩, false, fun _ => some false⟩ := by
    refine ⟨initialized_config, funext fun t => Deployment.marked_of_empty ?_⟩
    rw [site_marker]
    rfl
  have hevolves := Site.Evolves.elsewhere (.landed freeze_site .start hc) (elsewhere_paid c)
  have hrefines := Site.chain_refines hevolves hrep
  refine ⟨c, hc, ?_⟩
  rw [hrefines.1.marked]
  rfl

end FreezeAuthority.Reference

namespace FreezeAuthority

variable [Lez] [Crates]

namespace Site

variable {P : Site} [LawfulCrates] [Sequencer] [LawfulSequencer]

/-! ## Owners -/

/-- The admin config exists. The freeze config is yet to be created, or was born vacant inside the
program's own account. -/
structure Start (P : Site) (c : Chain) : Prop where
  admin : (c P.admin_config).program_owner ≠ .default
  config : c P.freeze_config = .default ∨
    (c P.freeze_config).program_owner = P.program_id ∧ P.config (P.store c) = .ok ⟨.vacant, false⟩
  marker (t : Bytes32) : t ∈ P.targets → c (P.marker t) = .default

end Site

end FreezeAuthority

namespace FreezeAuthority.Reference

end FreezeAuthority.Reference

namespace FreezeAuthority

variable [Lez] [Crates] [LawfulCrates]

namespace Site

variable {P : Site}

end Site

end FreezeAuthority

namespace FreezeAuthority.Reference

end FreezeAuthority.Reference
