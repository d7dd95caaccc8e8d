import FreezeAuthority.Properties.Recovery
import Mathlib.Data.Set.Finite.Basic
import Mathlib.Logic.Relation

/-!
# What a set of keys can bring about

Some keys send any calls they like, in any order and number. The accounts a transaction lists for them are
their own, signing or not, and the deployed accounts of programs. What the freeze accounts can come to stand
for is decided by who is among these: the admin, the holder, the nominee or none of them.
-/

namespace FreezeAuthority

variable [Lez]

/-- The markers of `s'` can be read, and all but finitely many are those of `s`. -/
structure FreezeState.Near (s s' : FreezeState) : Prop where
  readable : ∀ t, s'.marker t ≠ none
  finite : {t | s'.marker t ≠ s.marker t}.Finite

omit [Lez] in
theorem FreezeState.Near.refl {s : FreezeState} (h : ∀ t, s.marker t ≠ none) : s.Near s := by
  refine ⟨h, Set.finite_empty.subset ?_⟩
  intro t ht
  exact absurd rfl ht

theorem FreezeState.Near.next {s s' : FreezeState} (h : s.Near s') (call : Call) : s.Near (s'.next call) := by
  refine ⟨fun t => s'.next_readable call t (h.readable t), ?_⟩
  have htoggled (target : Bytes32) (b : Bool) :
      {t | Function.update s'.marker target (some b) t ≠ s.marker t}.Finite := by
    apply (h.finite.insert target).subset
    intro t ht
    by_cases heq : t = target
    · exact Or.inl heq
    · rw [Set.mem_ofPred_eq, Function.update_of_ne heq] at ht
      exact Or.inr ht
  cases call
  case freeze_account target => exact htoggled target true
  case freeze_account_release target => exact htoggled target false
  all_goals exact h.finite

/-- Beside the caller and the accounts of the library only a transfer takes one, that of the new holder. -/
def Call.Within (accounts : Set AccountWithMetadata) : Call → Prop
  | .freeze_authority_transfer new_account _ => new_account ∈ accounts
  | _ => True

variable [Crates]

/-- One permitted call next to `admin_config`, on accounts of the set. -/
def FreezeState.Moves (D : Deployment) (admin_config : AccountWithMetadata) (accounts : Set AccountWithMetadata)
    (s s' : FreezeState) : Prop :=
  ∃ caller ∈ accounts, ∃ call : Call, call.Within accounts ∧
    s.Permits D ⟨admin_config, caller, call⟩ ∧ s' = s.next call

def FreezeState.Reaches (D : Deployment) (admin_config : AccountWithMetadata)
    (accounts : Set AccountWithMetadata) : FreezeState → FreezeState → Prop :=
  Relation.ReflTransGen (FreezeState.Moves D admin_config accounts)

structure Tx.Within (admin_config : AccountWithMetadata) (accounts : Set AccountWithMetadata) (tx : Tx) :
    Prop where
  config : tx.admin_config = admin_config
  caller : tx.caller ∈ accounts
  call : tx.call.Within accounts

/-- Some transactions on accounts of the set are all accepted, and leave a store that stands for `s'`. -/
def Deployment.Attains (D : Deployment) (S : Store) (admin_config : AccountWithMetadata)
    (accounts : Set AccountWithMetadata) (s' : FreezeState) : Prop :=
  ∃ txs : List Tx, (∀ tx ∈ txs, tx.Within admin_config accounts) ∧
    D.machine.AcceptsAll S txs ∧ D.Represents (D.machine.run S txs) s'

/-! ## What the accounts give to work with -/

def AuthoritySlot.HeldAmong (s : AuthoritySlot) (accounts : Set AccountWithMetadata) : Prop :=
  ∃ k ∈ accounts, s.HeldBy k

/-- One of them can accept the slot in the name `id`. -/
def CanAccept (accounts : Set AccountWithMetadata) (id : AccountId) : Prop :=
  ∃ caller ∈ accounts, (⟨.default, id⟩ : AuthoritySlot).AcceptableBy caller

/-- A transfer can name `id`: its account signs, or is deployed at an address some seed derives. -/
def CanAppoint (accounts : Set AccountWithMetadata) (id : AccountId) : Prop :=
  id ≠ .default ∧ ∃ n ∈ accounts, ∃ candidate : FreezeCandidate, candidate.Evidence n id

/-- What the admin can make of the holder: an account it can appoint, or nobody. -/
def CanInstall (accounts : Set AccountWithMetadata) (id : AccountId) : Prop :=
  id = .default ∨ CanAppoint accounts id

def FreezeState.SameFlags (s s' : FreezeState) : Prop :=
  s'.is_frozen = s.is_frozen ∧ s'.marker = s.marker

theorem CanAccept.appoint {accounts : Set AccountWithMetadata} {id : AccountId} (h : CanAccept accounts id) :
    CanAppoint accounts id := by
  obtain ⟨caller, hlisted, hne, hid, hauth, howned⟩ := h
  exact ⟨hne, caller, hlisted, .Signer, hid, howned, hauth⟩

/-! ## Calls on accounts and moves of the machine -/

section Runs

variable [LawfulCrates] {D : Deployment} {admin_config : AccountWithMetadata}
  {accounts : Set AccountWithMetadata}

theorem attains_of_reaches {s s' : FreezeState} (h : s.Reaches D admin_config accounts s') (S : Store)
    (hrep : D.Represents S s) : D.Attains S admin_config accounts s' := by
  induction h using Relation.ReflTransGen.head_induction_on generalizing S with
  | refl => exact ⟨[], by simp, trivial, hrep⟩
  | head hmove _ ih =>
    obtain ⟨caller, hlisted, call, hcall, hpermits, rfl⟩ := hmove
    let tx : Tx := ⟨admin_config, caller, call⟩
    obtain ⟨haccepted, hrep'⟩ := accepted_of_permits hrep tx hpermits
    obtain ⟨txs, hwithin, hall, hend⟩ := ih _ hrep'
    have htx : tx.Within admin_config accounts := ⟨rfl, hlisted, hcall⟩
    exact ⟨tx :: txs, List.forall_mem_cons.mpr ⟨htx, hwithin⟩, ⟨haccepted, hall⟩, hend⟩

theorem reaches_of_acceptsAll {s s' : FreezeState} (txs : List Tx) (S : Store) (hrep : D.Represents S s)
    (hwithin : ∀ tx ∈ txs, tx.Within admin_config accounts)
    (hall : D.machine.AcceptsAll S txs) (hend : D.Represents (D.machine.run S txs) s') :
    s.Reaches D admin_config accounts s' := by
  induction txs generalizing S s with
  | nil =>
    obtain rfl := hrep.unique hend
    exact .refl
  | cons tx txs ih =>
    obtain ⟨a, caller, call⟩ := tx
    obtain ⟨⟨rfl, hlisted, hcall⟩, hwithin⟩ := List.forall_mem_cons.mp hwithin
    obtain ⟨haccepted, hall⟩ := hall
    have hpermits := (Deployment.accepts_iff_permits hrep ⟨a, caller, call⟩).mp haccepted
    have hrep' := (accepted_of_permits hrep ⟨a, caller, call⟩ hpermits).2
    exact .head ⟨caller, hlisted, call, hcall, hpermits, rfl⟩ (ih _ hrep' hwithin hall hend)

theorem attains_iff_reaches {S : Store} {s : FreezeState} (hrep : D.Represents S s) (s' : FreezeState) :
    D.Attains S admin_config accounts s' ↔ s.Reaches D admin_config accounts s' := by
  constructor
  · rintro ⟨txs, hwithin, hall, hend⟩
    exact reaches_of_acceptsAll txs S hrep hwithin hall hend
  · intro h
    exact attains_of_reaches h S hrep

end Runs

/-! ## What the accounts cannot do -/

section Bounds

variable {D : Deployment} {admin_config : AccountWithMetadata} {accounts : Set AccountWithMetadata}
  {s s' : FreezeState}

theorem reaches_inv (P : FreezeState → Prop)
    (hP : ∀ s, ∀ caller ∈ accounts, ∀ call : Call, call.Within accounts → P s →
      s.Permits D ⟨admin_config, caller, call⟩ → P (s.next call))
    (h : s.Reaches D admin_config accounts s') (hs : P s) : P s' := by
  induction h with
  | refl => exact hs
  | tail _ hmove ih =>
    obtain ⟨caller, hlisted, call, hcall, hpermits, rfl⟩ := hmove
    exact hP _ caller hlisted call hcall ih hpermits

theorem near_of_reaches (hread : ∀ t, s.marker t ≠ none) (h : s.Reaches D admin_config accounts s') :
    s.Near s' :=
  reaches_inv s.Near (fun _ _ _ call _ hs _ => hs.next call) h (.refl hread)

/-- A permitted call keeps the holder, unless it puts somebody there that the accounts can vouch for. -/
theorem holder_of_permits {caller : AccountWithMetadata} (hlisted : caller ∈ accounts) {call : Call}
    (hcall : call.Within accounts) (h : s.Permits D ⟨admin_config, caller, call⟩) :
    (s.next call).slot.holder = s.slot.holder ∨ CanInstall accounts (s.next call).slot.holder := by
  cases call
  case freeze_authority_transfer n candidate =>
    obtain ⟨-, hevidence, hne⟩ := h
    exact Or.inr (Or.inr ⟨hne, n, hcall, candidate, hevidence⟩)
  case freeze_authority_renounce => exact Or.inr (Or.inl rfl)
  case freeze_authority_accept =>
    have haccept : CanAccept accounts s.slot.nominee := ⟨caller, hlisted, h⟩
    exact Or.inr (Or.inr haccept.appoint)
  all_goals exact Or.inl rfl

/-- Only the holder changes a flag, and a call that does so leaves the slot alone. -/
theorem flags_of_permits {caller : AccountWithMetadata} {call : Call}
    (h : s.Permits D ⟨admin_config, caller, call⟩) :
    s.SameFlags (s.next call) ∨ s.slot.HeldBy caller ∧ (s.next call).slot = s.slot := by
  cases call
  case freeze_program => exact Or.inr ⟨h.1, rfl⟩
  case freeze_program_release => exact Or.inr ⟨h, rfl⟩
  case freeze_account => exact Or.inr ⟨h.1, rfl⟩
  case freeze_account_release => exact Or.inr ⟨h.1, rfl⟩
  all_goals exact Or.inl ⟨rfl, rfl⟩

theorem holder_of_reaches (h : s.Reaches D admin_config accounts s') :
    s'.slot.holder = s.slot.holder ∨ CanInstall accounts s'.slot.holder := by
  refine reaches_inv
    (fun s' => s'.slot.holder = s.slot.holder ∨ CanInstall accounts s'.slot.holder) ?_ h (Or.inl rfl)
  intro s' caller hlisted call hcall hs hpermits
  rcases holder_of_permits hlisted hcall hpermits with hsame | hinstall
  · rw [hsame]
    exact hs
  · exact Or.inr hinstall

/-- The flags change under a holder that signs: the one they find, or one of their own that they appoint
first. In the second case the slot ends with somebody they install. -/
theorem flags_of_reaches (h : s.Reaches D admin_config accounts s') :
    s.SameFlags s' ∨ s.slot.HeldAmong accounts ∨ CanInstall accounts s'.slot.holder ∧
      ∃ id, CanAppoint accounts id ∧ (⟨id, .default⟩ : AuthoritySlot).HeldAmong accounts := by
  induction h with
  | refl => exact Or.inl ⟨rfl, rfl⟩
  | @tail s₁ s₂ hreach hmove ih =>
    obtain ⟨caller, hlisted, call, hcall, hpermits, rfl⟩ := hmove
    have hholder := holder_of_permits hlisted hcall hpermits
    rcases ih with hsame | hheld | ⟨hinstall, hown⟩
    · rcases flags_of_permits hpermits with hflags | ⟨hheld, hslot⟩
      · exact Or.inl ⟨hflags.1.trans hsame.1, hflags.2.trans hsame.2⟩
      -- The first change of a flag: whoever holds the slot now was found there, or installed since.
      · refine Or.inr ?_
        rcases holder_of_reaches hreach with hfound | hinstall
        · have hheld' : s.slot.HeldBy caller := by
            unfold AuthoritySlot.HeldBy
            rw [← hfound]
            exact hheld
          exact Or.inl ⟨caller, hlisted, hheld'⟩
        · have happoint := hinstall.resolve_left hheld.1
          rw [hslot]
          exact Or.inr ⟨hinstall, s₁.slot.holder, happoint, caller, hlisted, hheld⟩
    · exact Or.inr (Or.inl hheld)
    · refine Or.inr (Or.inr ⟨?_, hown⟩)
      rcases hholder with hsame | hinstall'
      · rw [hsame]
        exact hinstall
      · exact hinstall'

/-- Without the admin's signature the slot is only handed to a key that accepts it, or vacated. -/
theorem slot_of_reaches (id : AccountId) (hadmin : ∀ k ∈ accounts, ¬AdminSigned admin_config D.admin_offset k)
    (h : s.Reaches D admin_config accounts s')
    (hs : s.slot.holder = id ∨ s.slot = .vacant ∨ CanAccept accounts s.slot.holder) :
    s'.slot.holder = id ∨ s'.slot = .vacant ∨ CanAccept accounts s'.slot.holder := by
  refine reaches_inv (fun s => s.slot.holder = id ∨ s.slot = .vacant ∨ CanAccept accounts s.slot.holder) ?_ h hs
  intro s caller hlisted call _ hs hpermits
  cases call
  case freeze_authority_transfer => exact absurd hpermits.1 (hadmin caller hlisted)
  case freeze_authority_renounce => exact Or.inr (Or.inl rfl)
  case freeze_authority_nominate next =>
    have hheld : s.slot.HeldBy caller := hpermits.resolve_left (hadmin caller hlisted)
    rcases hs with hid | hvacant | haccept
    · exact Or.inl hid
    · rw [hvacant] at hheld
      exact absurd rfl hheld.1
    · exact Or.inr (Or.inr haccept)
  case freeze_authority_accept => exact Or.inr (Or.inr ⟨caller, hlisted, hpermits⟩)
  all_goals exact hs

/-- Nobody but the admin and the holder gets any other call accepted than an acceptance. -/
theorem accept_of_permits {caller : AccountWithMetadata}
    (hadmin : ¬AdminSigned admin_config D.admin_offset caller) (hheld : ¬s.slot.HeldBy caller) {call : Call}
    (h : s.Permits D ⟨admin_config, caller, call⟩) : call = .freeze_authority_accept := by
  cases call
  case freeze_initialize => exact h.elim
  case freeze_authority_accept => rfl
  case freeze_authority_transfer => exact absurd h.1 hadmin
  case freeze_authority_renounce => exact absurd h (not_or.mpr ⟨hadmin, hheld⟩)
  case freeze_authority_nominate => exact absurd h (not_or.mpr ⟨hadmin, hheld⟩)
  case freeze_program_release => exact absurd h hheld
  all_goals exact absurd h.1 hheld

theorem slot_of_reaches_without_holder (hadmin : ∀ k ∈ accounts, ¬AdminSigned admin_config D.admin_offset k)
    (hheld : ¬s.slot.HeldAmong accounts) (h : s.Reaches D admin_config accounts s') :
    s' = s ∨ CanAccept accounts s.slot.nominee ∧ (s'.slot = .vacant ∨ CanAccept accounts s'.slot.holder) := by
  rcases h.cases_head with rfl | ⟨s₁, ⟨caller, hlisted, call, -, hpermits, rfl⟩, hrest⟩
  · exact Or.inl rfl
  · have hheld' : ¬s.slot.HeldBy caller := fun h => hheld ⟨caller, hlisted, h⟩
    obtain rfl := accept_of_permits (hadmin caller hlisted) hheld' hpermits
    have haccept : CanAccept accounts s.slot.nominee := ⟨caller, hlisted, hpermits⟩
    refine Or.inr ⟨haccept, ?_⟩
    rcases slot_of_reaches s.slot.nominee hadmin hrest (Or.inl rfl) with hid | hslot
    · exact Or.inr (by rw [hid]; exact haccept)
    · exact hslot

end Bounds

/-! ## What the accounts can do -/

section Calls

variable {D : Deployment} {admin_config caller : AccountWithMetadata} {accounts : Set AccountWithMetadata}
  (s : FreezeState) {s' : FreezeState}

theorem reaches_call (hlisted : caller ∈ accounts) (call : Call) (hcall : call.Within accounts)
    (h : s.Permits D ⟨admin_config, caller, call⟩) : s.Reaches D admin_config accounts (s.next call) :=
  .single ⟨caller, hlisted, call, hcall, h, rfl⟩

theorem reaches_marker (hlisted : caller ∈ accounts) (hheld : s.slot.HeldBy caller) (t : Bytes32) (b : Bool)
    (hread : s.marker t ≠ none) :
    s.Reaches D admin_config accounts { s with marker := Function.update s.marker t (some b) } := by
  cases b with
  | true => exact reaches_call s hlisted (.freeze_account t) trivial ⟨hheld, hread⟩
  | false =>
    obtain ⟨b, hb⟩ := Option.ne_none_iff_exists'.mp hread
    cases b with
    | true => exact reaches_call s hlisted (.freeze_account_release t) trivial ⟨hheld, hb⟩
    | false =>
      rw [← hb, Function.update_eq_self]
      exact .refl

theorem reaches_markers (hlisted : caller ∈ accounts) (hheld : s.slot.HeldBy caller)
    (hread : ∀ t, s.marker t ≠ none) {marker : Bytes32 → Option Bool} (hmarker : ∀ t, marker t ≠ none)
    (T : Finset Bytes32) (hT : ∀ t, marker t ≠ s.marker t → t ∈ T) :
    s.Reaches D admin_config accounts { s with marker := marker } := by
  induction T using Finset.induction_on generalizing s with
  | empty =>
    have hsame : marker = s.marker := by
      funext t
      by_contra hne
      exact absurd (hT t hne) (Finset.notMem_empty t)
    rw [hsame]
    exact .refl
  | insert t T _ ih =>
    obtain ⟨b, hb⟩ := Option.ne_none_iff_exists'.mp (hmarker t)
    have hread' (t' : Bytes32) : Function.update s.marker t (some b) t' ≠ none := by
      by_cases heq : t' = t
      · simp [heq]
      · rw [Function.update_of_ne heq]
        exact hread t'
    have hT' (t' : Bytes32) (hne : marker t' ≠ Function.update s.marker t (some b) t') : t' ∈ T := by
      by_cases heq : t' = t
      · rw [heq, hb, Function.update_self] at hne
        exact absurd rfl hne
      · rw [Function.update_of_ne heq] at hne
        exact Finset.mem_of_mem_insert_of_ne (hT t' hne) heq
    have hrest : FreezeState.Reaches D admin_config accounts
        { s with marker := Function.update s.marker t (some b) } { s with marker := marker } :=
      ih { s with marker := Function.update s.marker t (some b) } hheld hread' hT'
    exact (reaches_marker s hlisted hheld t b (hread t)).trans hrest

/-- The holder sets the flag of the program whatever is frozen. In auto mode it first lets itself
through the gate. -/
theorem reaches_program (hlisted : caller ∈ accounts) (hheld : s.slot.HeldBy caller)
    (hread : ∀ t, s.marker t ≠ none) (b : Bool) :
    s.Reaches D admin_config accounts { s with is_frozen := b } := by
  cases b with
  | false => exact reaches_call s hlisted .freeze_program_release trivial hheld
  | true =>
    let own := caller.account_id.value
    obtain ⟨b, hb⟩ := Option.ne_none_iff_exists'.mp (hread own)
    let released : FreezeState := { s with is_frozen := false }
    let opened : FreezeState := { released with marker := Function.update s.marker own (some false) }
    let frozen : FreezeState := { opened with is_frozen := true }
    have hreleased : s.Reaches D admin_config accounts released :=
      reaches_call s hlisted .freeze_program_release trivial hheld
    have hopened : released.Reaches D admin_config accounts opened :=
      reaches_marker released hlisted hheld own false (hread own)
    have hself : opened.marker own = some false := Function.update_self _ _ _
    have hfrozen : opened.Reaches D admin_config accounts frozen :=
      reaches_call opened hlisted .freeze_program trivial ⟨hheld, fun _ => ⟨rfl, hself⟩⟩
    have hrestored : frozen.Reaches D admin_config accounts
        { frozen with marker := Function.update frozen.marker own (some b) } :=
      reaches_marker frozen hlisted hheld own b (by simp [frozen, hself])
    have hmarker : Function.update frozen.marker own (some b) = s.marker := by
      rw [Function.update_idem, ← hb, Function.update_eq_self]
    rw [hmarker] at hrestored
    exact ((hreleased.trans hopened).trans hfrozen).trans hrestored

theorem reaches_flags (hlisted : caller ∈ accounts) (hheld : s.slot.HeldBy caller)
    (hread : ∀ t, s.marker t ≠ none) (hnear : s.Near s') :
    s.Reaches D admin_config accounts { s' with slot := s.slot } := by
  have hmarkers : FreezeState.Reaches D admin_config accounts { s with is_frozen := s'.is_frozen }
      { s with is_frozen := s'.is_frozen, marker := s'.marker } :=
    reaches_markers { s with is_frozen := s'.is_frozen } hlisted hheld hread hnear.readable
      hnear.finite.toFinset (by simp)
  exact (reaches_program s hlisted hheld hread s'.is_frozen).trans hmarkers

/-- Who may nominate sets the nominee. -/
theorem reaches_nominee (hlisted : caller ∈ accounts)
    (h : AdminSigned admin_config D.admin_offset caller ∨ s.slot.HeldBy caller) (id : AccountId) :
    s.Reaches D admin_config accounts { s with slot := ⟨s.slot.holder, id⟩ } :=
  reaches_call s hlisted (.freeze_authority_nominate id.value) trivial h

theorem reaches_accepted (h : CanAccept accounts s.slot.nominee) :
    s.Reaches D admin_config accounts { s with slot := ⟨s.slot.nominee, .default⟩ } := by
  obtain ⟨caller, hlisted, haccept⟩ := h
  exact reaches_call s hlisted .freeze_authority_accept trivial haccept

omit [Crates] in
theorem CanAccept.holds {id nominee : AccountId} (h : CanAccept accounts id) :
    (⟨id, nominee⟩ : AuthoritySlot).HeldAmong accounts := by
  obtain ⟨caller, hlisted, hne, hid, hauth, -⟩ := h
  exact ⟨caller, hlisted, hne, hid, hauth⟩

/-- Who may nominate hands the slot to a key that can accept it. -/
theorem reaches_handover (hlisted : caller ∈ accounts)
    (h : AdminSigned admin_config D.admin_offset caller ∨ s.slot.HeldBy caller) {id : AccountId}
    (haccept : CanAccept accounts id) :
    s.Reaches D admin_config accounts { s with slot := ⟨id, .default⟩ } :=
  (reaches_nominee s hlisted h id).trans (reaches_accepted { s with slot := ⟨s.slot.holder, id⟩ } haccept)

theorem reaches_as_holder (hlisted : caller ∈ accounts) (hheld : s.slot.HeldBy caller)
    (hread : ∀ t, s.marker t ≠ none) (hnear : s.Near s')
    (hslot : s'.slot.holder = s.slot.holder ∨ s'.slot = .vacant ∨ CanAccept accounts s'.slot.holder) :
    s.Reaches D admin_config accounts s' := by
  refine (reaches_flags s hlisted hheld hread hnear).trans ?_
  obtain ⟨⟨holder, nominee⟩, is_frozen, marker⟩ := s'
  rcases hslot with rfl | hvacant | haccept
  · exact reaches_nominee ⟨s.slot, is_frozen, marker⟩ hlisted (Or.inr hheld) nominee
  · obtain ⟨rfl, rfl⟩ := AuthoritySlot.mk.inj hvacant
    exact reaches_call ⟨s.slot, is_frozen, marker⟩ hlisted .freeze_authority_renounce trivial (Or.inr hheld)
  · obtain ⟨caller', hlisted', hheld'⟩ := haccept.holds
    exact (reaches_handover ⟨s.slot, is_frozen, marker⟩ hlisted (Or.inr hheld) haccept).trans
      (reaches_nominee ⟨⟨holder, .default⟩, is_frozen, marker⟩ hlisted' (Or.inr hheld') nominee)

theorem reaches_as_nominee (haccept : CanAccept accounts s.slot.nominee) (hread : ∀ t, s.marker t ≠ none)
    (hnear : s.Near s') (hslot : s'.slot = .vacant ∨ CanAccept accounts s'.slot.holder) :
    s.Reaches D admin_config accounts s' := by
  let accepted : FreezeState := { s with slot := ⟨s.slot.nominee, .default⟩ }
  obtain ⟨caller, hlisted, hheld⟩ := haccept.holds
  have hnear' : accepted.Near s' := ⟨hnear.readable, hnear.finite⟩
  exact (reaches_accepted s haccept).trans
    (reaches_as_holder accepted hlisted hheld hread hnear' (Or.inr hslot))

/-- The admin vacates the slot, or hands it to an account of the set with what vouches for it. -/
theorem reaches_slot (hlisted : caller ∈ accounts) (hadmin : AdminSigned admin_config D.admin_offset caller)
    {slot : AuthoritySlot} (hinstall : CanInstall accounts slot.holder) :
    s.Reaches D admin_config accounts { s with slot := slot } := by
  suffices hholder : s.Reaches D admin_config accounts { s with slot := ⟨slot.holder, .default⟩ } from
    hholder.trans
      (reaches_nominee { s with slot := ⟨slot.holder, .default⟩ } hlisted (Or.inl hadmin) slot.nominee)
  rcases hinstall with hvacant | ⟨hne, n, hn, candidate, hevidence⟩
  · rw [hvacant]
    exact reaches_call s hlisted .freeze_authority_renounce trivial (Or.inl hadmin)
  · obtain ⟨holder, nominee⟩ := slot
    obtain rfl : n.account_id = holder := hevidence.1
    exact reaches_call s hlisted (.freeze_authority_transfer n candidate) hn ⟨hadmin, hevidence, hne⟩

theorem reaches_as_admin (hlisted : caller ∈ accounts) (hadmin : AdminSigned admin_config D.admin_offset caller)
    (hread : ∀ t, s.marker t ≠ none) (hnear : s.Near s')
    (hslot : s'.slot.holder = s.slot.holder ∨ CanInstall accounts s'.slot.holder)
    (hflags : s.SameFlags s' ∨ s.slot.HeldAmong accounts ∨ CanInstall accounts s'.slot.holder ∧
      ∃ id, CanAppoint accounts id ∧ (⟨id, .default⟩ : AuthoritySlot).HeldAmong accounts) :
    s.Reaches D admin_config accounts s' := by
  -- The flags first, under the holder they find, or under one they appoint for that.
  have hslot_last : FreezeState.Reaches D admin_config accounts { s' with slot := s.slot } s' := by
    rcases hslot with hsame | hinstall
    · have hnominee := reaches_nominee { s' with slot := s.slot } hlisted (Or.inl hadmin) s'.slot.nominee
      rw [← hsame] at hnominee
      exact hnominee
    · exact reaches_slot { s' with slot := s.slot } hlisted hadmin hinstall
  rcases hflags with hsame | ⟨k, hk, hheld⟩ | ⟨hinstall, id, happoint, k, hk, hheld⟩
  · have hstart : ({ s' with slot := s.slot } : FreezeState) = s := FreezeState.ext rfl hsame.1 hsame.2
    rw [hstart] at hslot_last
    exact hslot_last
  · exact (reaches_flags s hk hheld hread hnear).trans hslot_last
  · let own : FreezeState := { s with slot := ⟨id, .default⟩ }
    have happointed : s.Reaches D admin_config accounts own := reaches_slot s hlisted hadmin (Or.inr happoint)
    have hflags : own.Reaches D admin_config accounts { s' with slot := own.slot } :=
      reaches_flags own hk hheld hread ⟨hnear.readable, hnear.finite⟩
    exact (happointed.trans hflags).trans (reaches_slot { s' with slot := own.slot } hlisted hadmin hinstall)

end Calls

variable [LawfulCrates]

/-- What some keys can bring about, given the accounts that can stand in their transactions: their own, signing
or not, and deployed ones. The markers they can leave are those that differ from the ones they find in
finitely many places. With the admin among them, the holder is the one they find, or nobody, or an account of
the set that signs or is deployed. The flags are theirs to set where one of them holds the slot, or can be
put there first and the holder in the end is one they install. With the holder but not the admin, they attain
the states where the holder has stayed, has renounced, or is one of them that can accept. With only the
nominee, the last two and what they find. Without all three, only what they find. -/
theorem power_of_keys {D : Deployment} {S : Store} {s : FreezeState} (hrep : D.Represents S s)
    (hread : ∀ t, s.marker t ≠ none) (admin_config : AccountWithMetadata) (accounts : Set AccountWithMetadata)
    (s' : FreezeState) :
    ((∃ k ∈ accounts, AdminSigned admin_config D.admin_offset k) →
      (D.Attains S admin_config accounts s' ↔ s.Near s' ∧
        (s'.slot.holder = s.slot.holder ∨ CanInstall accounts s'.slot.holder) ∧
        (s.SameFlags s' ∨ s.slot.HeldAmong accounts ∨ CanInstall accounts s'.slot.holder ∧
          ∃ id, CanAppoint accounts id ∧ (⟨id, .default⟩ : AuthoritySlot).HeldAmong accounts))) ∧
    ((∀ k ∈ accounts, ¬AdminSigned admin_config D.admin_offset k) →
      (s.slot.HeldAmong accounts →
        (D.Attains S admin_config accounts s' ↔ s.Near s' ∧
          (s'.slot.holder = s.slot.holder ∨ s'.slot = .vacant ∨ CanAccept accounts s'.slot.holder))) ∧
      (¬s.slot.HeldAmong accounts → CanAccept accounts s.slot.nominee →
        (D.Attains S admin_config accounts s' ↔
          s' = s ∨ s.Near s' ∧ (s'.slot = .vacant ∨ CanAccept accounts s'.slot.holder))) ∧
      (¬s.slot.HeldAmong accounts → ¬CanAccept accounts s.slot.nominee →
        (D.Attains S admin_config accounts s' ↔ s' = s))) := by
  rw [attains_iff_reaches hrep]
  constructor
  · rintro ⟨k, hlisted, hadmin⟩
    constructor
    · intro h
      exact ⟨near_of_reaches hread h, holder_of_reaches h, flags_of_reaches h⟩
    · rintro ⟨hnear, hslot, hflags⟩
      exact reaches_as_admin s hlisted hadmin hread hnear hslot hflags
  intro hadmin
  refine ⟨?_, ?_, ?_⟩
  · rintro ⟨k, hlisted, hheld⟩
    constructor
    · intro h
      exact ⟨near_of_reaches hread h, slot_of_reaches s.slot.holder hadmin h (Or.inl rfl)⟩
    · rintro ⟨hnear, hslot⟩
      exact reaches_as_holder s hlisted hheld hread hnear hslot
  · intro hheld haccept
    constructor
    · intro h
      have hslot := slot_of_reaches_without_holder hadmin hheld h
      exact hslot.imp_right fun hslot => ⟨near_of_reaches hread h, hslot.2⟩
    · rintro (rfl | ⟨hnear, hslot⟩)
      · exact .refl
      · exact reaches_as_nominee s haccept hread hnear hslot
  · intro hheld haccept
    constructor
    · intro h
      have hslot := slot_of_reaches_without_holder hadmin hheld h
      exact hslot.resolve_right fun hslot => haccept hslot.1
    · rintro rfl
      exact .refl

end FreezeAuthority

namespace FreezeAuthority.Reference

def held_by_two : Store := store (FreezeConfig.bytes ⟨⟨key 2, .default⟩, false⟩)

/-- Key 4 stands by, owned by a program. The holder, key 1, freezes itself and hands over to it. The admin,
again key 1, takes the slot from key 2, sets the flag of the program by it and leaves key 4 there. It cannot
leave key 9, which does not sign. -/
theorem holder_hands_over_and_admin_appoints :
    program.Attains initialized (account 100 []) {signer 1, signer 4}
      ⟨⟨key 4, .default⟩, true, Function.update (fun _ => some false) (key 1).value (some true)⟩ ∧
    program.Attains held_by_two admin_config {signer 1, signer 4}
      ⟨⟨key 4, .default⟩, true, fun _ => some false⟩ ∧
    ¬program.Attains held_by_two admin_config {signer 1, signer 4}
      ⟨⟨key 9, .default⟩, false, fun _ => some false⟩ := by
  have hunfrozen (holder : AccountId) (t : Bytes32) :
      (⟨⟨holder, .default⟩, false, fun _ => some false⟩ : FreezeState).marker t ≠ none := by simp
  have hnear (holder : AccountId) := FreezeState.Near.refl (hunfrozen holder)
  have haccept : CanAccept {signer 1, signer 4} (key 4) :=
    ⟨signer 4, Or.inr rfl, by decide, rfl, rfl, by decide⟩
  have hrep : program.Represents held_by_two ⟨⟨key 2, .default⟩, false, fun _ => some false⟩ := ⟨rfl, rfl⟩
  have hadmin : AdminSigned admin_config program.admin_offset (signer 1) :=
    ⟨⟨key 1, .default⟩, rfl, by decide, rfl, rfl⟩
  have hpower := (power_of_keys hrep (hunfrozen _) admin_config {signer 1, signer 4} ·)
  refine ⟨?_, ?_, ?_⟩
  · have hrep' : program.Represents initialized ⟨⟨key 1, .default⟩, false, fun _ => some false⟩ := ⟨rfl, rfl⟩
    have hstranger : ∀ k ∈ ({signer 1, signer 4} : Set AccountWithMetadata),
        ¬AdminSigned (account 100 []) program.admin_offset k := by
      rintro k - ⟨a, ha, -⟩
      cases ha
    have hheld : (⟨key 1, .default⟩ : AuthoritySlot).HeldBy (signer 1) := ⟨by decide, rfl, rfl⟩
    have hfrozen := (hnear (key 1)).next (.freeze_account (key 1).value)
    exact (((power_of_keys hrep' (hunfrozen _) _ _ _).2 hstranger).1 ⟨signer 1, Or.inl rfl, hheld⟩).mpr
      ⟨⟨hfrozen.readable, hfrozen.finite⟩, Or.inr (Or.inr haccept)⟩
  · have hinstall : CanInstall {signer 1, signer 4} (key 4) := Or.inr haccept.appoint
    exact ((hpower _).1 ⟨signer 1, Or.inl rfl, hadmin⟩).mpr
      ⟨⟨(hnear (key 2)).readable, (hnear (key 2)).finite⟩, Or.inr hinstall,
        Or.inr (Or.inr ⟨hinstall, key 4, haccept.appoint, haccept.holds⟩)⟩
  · intro h
    have hholder := (((hpower _).1 ⟨signer 1, Or.inl rfl, hadmin⟩).mp h).2.1
    rcases hholder with hfound | hvacant | ⟨-, n, hn, candidate, hid, -⟩
    · exact absurd hfound (by decide)
    · exact absurd hvacant (by decide)
    · rcases hn with rfl | rfl <;> exact absurd hid (by decide)

end FreezeAuthority.Reference
