import FreezeAuthority.Spec.Reference

/-!
# One shared account simulates two dedicated ones

In embedded mode the consumer's account holds the admin window and the freeze window, and goes
to an instruction in both roles. Nothing tells this mode from the dedicated one.
-/

namespace FreezeAuthority

variable [Lez] [Crates]

namespace Deployment

/-- Two programs that read the same of the freeze state. -/
structure SameView (D D' : Deployment) (S T : Store) : Prop where
  mode : D.mode = D'.mode
  program_id : D.program_id = D'.program_id
  config : D.config S = D'.config T
  marker : S.marker = T.marker

inductive SameWrite (D D' : Deployment) (S T : Store) : Store → Store → Prop
  | config (c c' : FreezeConfig) (hc : D.config S = .ok c) :
      SameWrite D D' S T (S.withConfig D.offset c') (T.withConfig D'.offset c')
  | marker (t : Bytes32) (s : FrozenAccountState) :
      SameWrite D D' S T (D.withMarker S t s) (D'.withMarker T t s)

theorem admits_congr {D D' : Deployment} {S T : Store} (h : D.SameView D' S T) (A : AccountId) :
    D.admits S A = D'.admits T A := by
  have hconfig : FreezeConfig.from_account_at S.freeze_config D.offset =
      FreezeConfig.from_account_at T.freeze_config D'.offset := h.config
  unfold admits gate
  rw [hconfig, h.marker]

theorem guard_congr {D D' : Deployment} {S T : Store} (h : D.SameView D' S T)
    (a a' caller : AccountWithMetadata) (call : Call) :
    D.guard S ⟨a, caller, call⟩ = D'.guard T ⟨a', caller, call⟩ := by
  unfold guard
  rw [h.mode]
  cases call
  case freeze_program =>
    cases D'.mode with
    | auto => exact admits_congr h caller.account_id
    | manual => rfl
  all_goals rfl

theorem instruction_congr {D D' : Deployment} (S T : Store) {tx tx' : Tx} (h : Same D D' tx tx') :
    (D.instruction S tx).method = (D'.instruction T tx').method ∧
      (D.instruction S tx).check = (D'.instruction T tx').check := by
  obtain ⟨a, caller, call⟩ := tx
  obtain ⟨a', caller', call'⟩ := tx'
  obtain ⟨hcall, hcaller, hadmin⟩ := h
  subst hcall hcaller
  cases call <;> simp_all [instruction, Instruction.method, Instruction.check]

variable [LawfulCrates]

theorem step_congr {D D' : Deployment} {S T : Store} {tx tx' : Tx} (h : D.SameView D' S T)
    (hsame : Same D D' tx tx') (hcall : tx.call ≠ Call.freeze_initialize) :
    Machine.Agree (D.SameWrite D' S T) (D.step S tx) (D'.step T tx') := by
  obtain ⟨hmethod, hcheck⟩ := instruction_congr S T hsame
  obtain ⟨a, caller, call⟩ := tx
  obtain ⟨a', caller', call'⟩ := tx'
  obtain ⟨hc, hr, -⟩ := hsame
  subst hc hr
  have hguard := guard_congr h a a' caller call
  cases hm : (D.instruction S ⟨a, caller, call⟩).method with
  | some m =>
    rw [D.step_config S _ m hm, D'.step_config T _ m (hmethod ▸ hm), ← hguard, ← hcheck, ← h.config]
    apply Machine.Agree.bind; intro _ _
    apply Machine.Agree.bind; intro _ _
    apply Machine.Agree.bind; intro c hc
    apply Machine.Agree.bind; intro c' _
    exact .ok (.config c c' (Result.mapError_eq_ok.mp hc))
  | none =>
    cases call
    case freeze_initialize => exact absurd rfl hcall
    case freeze_account t =>
      rw [D.step_freeze_account, D'.step_freeze_account, ← h.config, ← h.marker]
      apply Machine.Agree.bind; intro c _
      apply Machine.Agree.bind; intro _ _
      apply Machine.Agree.bind; intro _ _
      exact .ok (.marker t ⟨true⟩)
    case freeze_account_release t =>
      rw [D.step_freeze_account_release, D'.step_freeze_account_release, ← h.config, ← h.marker]
      apply Machine.Agree.bind; intro c _
      apply Machine.Agree.bind; intro _ _
      apply Machine.Agree.bind; rintro ⟨b⟩ _
      cases b with
      | false => exact .error _
      | true => exact .ok (.marker t ⟨false⟩)
    all_goals cases hm

end Deployment

/-! ## The two layouts -/

structure Pair where
  admin_config : AccountWithMetadata
  store : Store

namespace Deployment

/-- The shared account is passed as a copy in both roles. -/
def sharedMachine (D : Deployment) : Machine Store Tx SpelError where
  step S tx := D.step S { tx with admin_config := S.freeze_config }

def putAdmin (D : Deployment) (a : AccountWithMetadata) : Role × AccountPostState → AccountWithMetadata
  | (.admin_config, post) => a.land D.program_id post
  | _ => a

/-- Every post-state lands, the one of the admin config too. -/
def pairMachine (D : Deployment) : Machine Pair Tx SpelError where
  step P tx := do
    let landed ← D.outcome P.store { tx with admin_config := P.admin_config }
    return ⟨landed.foldl D.putAdmin P.admin_config, landed.foldl D.put P.store⟩

def dedicated (D : Deployment) : Deployment := { D with offset := 0, admin_offset := 0 }

structure Layout (D : Deployment) (d : List UInt8) : Prop where
  admin_fits : D.admin_offset + AuthoritySlot.ENCODED_LEN ≤ d.length
  freeze_fits : D.offset + FreezeConfig.SIZE ≤ d.length
  disjoint : D.admin_offset + AuthoritySlot.ENCODED_LEN ≤ D.offset ∨
    D.offset + FreezeConfig.SIZE ≤ D.admin_offset

/-- The shared account holds the two dedicated ones, and the rest of `d`. -/
structure Embeds (D : Deployment) (d : List UInt8) (admin_config : AccountWithMetadata) (S : Store)
    (P : Pair) : Prop where
  length : S.freeze_config.account.data.bytes.length = d.length
  outside : ∀ i, i < D.offset ∨ D.offset + FreezeConfig.SIZE ≤ i →
    S.freeze_config.account.data.bytes[i]? = d[i]?
  freeze_window : Window.read S.freeze_config.account.data.bytes D.offset FreezeConfig.SIZE =
    P.store.freeze_config.account.data.bytes
  admin_window : Window.read S.freeze_config.account.data.bytes D.admin_offset AuthoritySlot.ENCODED_LEN =
    P.admin_config.account.data.bytes
  admin : P.admin_config = admin_config
  marker : S.marker = P.store.marker

omit [Crates] in
theorem Embeds.pair_length {D : Deployment} {d : List UInt8} {a : AccountWithMetadata} {S : Store} {P : Pair}
    (hl : D.Layout d) (h : D.Embeds d a S P) :
    P.store.freeze_config.account.data.bytes.length = FreezeConfig.SIZE ∧
      P.admin_config.account.data.bytes.length = AuthoritySlot.ENCODED_LEN := by
  rw [← h.freeze_window, ← h.admin_window]
  exact ⟨Window.length_read _ _ _ (h.length ▸ hl.freeze_fits),
    Window.length_read _ _ _ (h.length ▸ hl.admin_fits)⟩

theorem Embeds.write {D : Deployment} {d : List UInt8} {a : AccountWithMetadata} {S S' : Store} {P : Pair}
    {T' : Store} (hl : D.Layout d) (h : D.Embeds d a S P) (hw : D.SameWrite D.dedicated S P.store S' T') :
    D.Embeds d a S' ⟨P.admin_config, T'⟩ := by
  cases hw with
  | marker t s =>
    refine ⟨h.length, h.outside, h.freeze_window, h.admin_window, h.admin, ?_⟩
    show Function.update S.marker t _ = Function.update P.store.marker t _
    rw [h.marker]
    rfl
  | config c c' =>
    have hfits : D.offset + FreezeConfig.SIZE ≤ S.freeze_config.account.data.bytes.length :=
      h.length ▸ hl.freeze_fits
    have hlen := (h.pair_length hl).1
    have hbytes : D.offset + c'.bytes.length ≤ S.freeze_config.account.data.bytes.length := by
      rw [FreezeConfig.length_bytes]; exact hfits
    have hshared := S.freeze_config.withConfig_bytes D.offset c' hfits
    have hpair := P.store.freeze_config.withConfig_bytes 0 c' (by rw [hlen]; simp)
    rw [Window.write_all _ _ (by rw [hlen, FreezeConfig.length_bytes])] at hpair
    refine ⟨?_, ?_, ?_, ?_, h.admin, h.marker⟩
    · show (S.freeze_config.withConfig D.offset c').account.data.bytes.length = _
      rw [hshared, Window.length_write _ _ _ hbytes, h.length]
    · intro i hi
      show (S.freeze_config.withConfig D.offset c').account.data.bytes[i]? = _
      rw [hshared, Window.getElem?_write_outside _ _ _ _ hbytes (by rw [FreezeConfig.length_bytes]; exact hi)]
      exact h.outside i hi
    · show Window.read (S.freeze_config.withConfig D.offset c').account.data.bytes _ _ =
        (P.store.freeze_config.withConfig 0 c').account.data.bytes
      have hread := Window.read_write _ _ _ hbytes
      rw [FreezeConfig.length_bytes] at hread
      rw [hshared, hpair, hread]
    · show Window.read (S.freeze_config.withConfig D.offset c').account.data.bytes _ _ = _
      rw [hshared, Window.read_write_disjoint _ _ _ _ _ hbytes
        (by rw [FreezeConfig.length_bytes]; exact hl.disjoint)]
      exact h.admin_window

variable [LawfulCrates]

/-- The two dedicated accounts do not interfere: the admin config is left as it is. -/
theorem pairMachine_step (D : Deployment) (P : Pair) (tx : Tx) :
    D.pairMachine.step P tx = do
      let store ← D.step P.store { tx with admin_config := P.admin_config }
      return ⟨P.admin_config, store⟩ := by
  show (do
    let landed ← D.outcome P.store { tx with admin_config := P.admin_config }
    return (⟨landed.foldl D.putAdmin P.admin_config, landed.foldl D.put P.store⟩ : Pair)) = _
  unfold step
  cases hlanded : D.outcome P.store { tx with admin_config := P.admin_config } with
  | error e => rfl
  | ok landed =>
    have hadmin : landed.foldl D.putAdmin P.admin_config = P.admin_config := by
      refine List.foldlRecOn (motive := (· = P.admin_config)) landed D.putAdmin rfl ?_
      rintro a rfl ⟨role, post⟩ hmem
      cases role
      case admin_config =>
        obtain rfl := (landed_of_outcome hlanded).admin hmem
        rfl
      all_goals rfl
    show Except.ok _ = Except.ok _
    rw [hadmin]

theorem Embeds.sameView {D : Deployment} {d : List UInt8} {a : AccountWithMetadata} {S : Store} {P : Pair}
    (hl : D.Layout d) (h : D.Embeds d a S P) : D.SameView D.dedicated S P.store := by
  have hlen := (h.pair_length hl).1
  refine ⟨rfl, rfl, ?_, h.marker⟩
  have hwhole := Window.read_all P.store.freeze_config.account.data.bytes
  rw [hlen] at hwhole
  exact FreezeConfig.decode_at_congr (h.length ▸ hl.freeze_fits) (by rw [hlen]; simp [dedicated])
    (by rw [h.freeze_window]; exact hwhole.symm)

theorem Embeds.same {D : Deployment} {d : List UInt8} {a : AccountWithMetadata} {S : Store} {P : Pair}
    (hl : D.Layout d) (h : D.Embeds d a S P) (tx : Tx) :
    Same D D.dedicated { tx with admin_config := S.freeze_config }
      { tx with admin_config := P.admin_config } := by
  have hlen := (h.pair_length hl).2
  refine ⟨rfl, rfl, ?_⟩
  have hwhole := Window.read_all P.admin_config.account.data.bytes
  rw [hlen] at hwhole
  exact LawfulCrates.admin_from_account_at_window _ _ _ _ (h.length ▸ hl.admin_fits)
    (by rw [hlen]; simp [dedicated]) (by rw [h.admin_window]; exact hwhole.symm)

theorem Embeds.step {D : Deployment} {d : List UInt8} {a : AccountWithMetadata} {S : Store} {P : Pair}
    (hl : D.Layout d) (h : D.Embeds d a S P) {tx : Tx} (hcall : tx.call ≠ Call.freeze_initialize) :
    Machine.Agree (D.Embeds d a) (D.sharedMachine.step S tx) (D.dedicated.pairMachine.step P tx) := by
  have hagree := step_congr (h.sameView hl) (h.same hl tx) hcall
  rw [pairMachine_step]
  show Machine.Agree _ (D.step S { tx with admin_config := S.freeze_config }) _
  generalize D.step S { tx with admin_config := S.freeze_config } = x at hagree
  generalize D.dedicated.step P.store { tx with admin_config := P.admin_config } = y at hagree
  cases hagree with
  | error e => exact .error e
  | ok hw => exact .ok (h.write hl hw)

/-- A shared account behaves like the two dedicated accounts it holds: in any run, each call is
accepted by both or refused by both with one error, the windows stay equal to the accounts, every
other byte stays as it was, and the gates agree. -/
theorem shared_simulates_dedicated {D : Deployment} {d : List UInt8} {S : Store} {P : Pair}
    (hl : D.Layout d) (hdata : S.freeze_config.account.data.bytes = d)
    (hfreeze : P.store.freeze_config.account.data.bytes = Window.read d D.offset FreezeConfig.SIZE)
    (hadmin : P.admin_config.account.data.bytes = Window.read d D.admin_offset AuthoritySlot.ENCODED_LEN)
    (hmarker : S.marker = P.store.marker) (txs : List Tx)
    (hcalls : ∀ tx ∈ txs, tx.call ≠ Call.freeze_initialize) (n : Nat) :
    let Sₙ := D.sharedMachine.run S (txs.take n)
    let Pₙ := D.dedicated.pairMachine.run P (txs.take n)
    D.Embeds d P.admin_config Sₙ Pₙ ∧ (∀ A, D.admits Sₙ A = D.dedicated.admits Pₙ.store A) ∧
    ∀ tx, txs[n]? = some tx → Machine.Agree (D.Embeds d P.admin_config) (D.sharedMachine.step Sₙ tx)
      (D.dedicated.pairMachine.step Pₙ tx) := by
  have hstart : D.Embeds d P.admin_config S P := by
    subst hdata
    exact ⟨rfl, fun _ _ => rfl, hfreeze.symm, hadmin.symm, rfl, hmarker⟩
  have hsame : List.Forall₂ (fun tx tx' => tx = tx' ∧ tx.call ≠ Call.freeze_initialize) (txs.take n)
      (txs.take n) :=
    List.forall₂_same.mpr fun tx htx => ⟨rfl, hcalls tx (List.mem_of_mem_take htx)⟩
  have hrun : D.Embeds d P.admin_config (D.sharedMachine.run S (txs.take n))
      (D.dedicated.pairMachine.run P (txs.take n)) := by
    refine D.sharedMachine.run_rel D.dedicated.pairMachine _ _ ?_ hsame S P hstart
    rintro S P tx _ h ⟨rfl, hcall⟩
    exact (h.step hl hcall).next h
  exact ⟨hrun, fun A => admits_congr (hrun.sameView hl) A,
    fun tx htx => hrun.step hl (hcalls tx (List.mem_of_getElem? htx))⟩

end Deployment

end FreezeAuthority

namespace FreezeAuthority.Reference

def embedded : Deployment := { program with offset := AuthoritySlot.ENCODED_LEN }

def shared_data : List UInt8 :=
  AuthoritySlot.bytes ⟨key 1, .default⟩ ++ FreezeConfig.bytes ⟨⟨key 2, .default⟩, false⟩

set_option maxRecDepth 8000 in
theorem shared_simulates_dedicated_freeze :
    embedded.Embeds shared_data admin_config
      (embedded.sharedMachine.run (store shared_data) [call 2 .freeze_program])
      (embedded.dedicated.pairMachine.run ⟨admin_config, store (FreezeConfig.bytes ⟨⟨key 2, .default⟩, false⟩)⟩
        [call 2 .freeze_program]) := by
  have hlayout : embedded.Layout shared_data := ⟨by decide, by decide, Or.inl (by decide)⟩
  have hcalls : ∀ tx ∈ [call 2 .freeze_program], tx.call ≠ Call.freeze_initialize := by
    intro tx htx
    obtain rfl := List.mem_singleton.mp htx
    rintro ⟨⟩
  have hruns := Deployment.shared_simulates_dedicated (S := store shared_data)
    (P := ⟨admin_config, store (FreezeConfig.bytes ⟨⟨key 2, .default⟩, false⟩)⟩)
    hlayout rfl rfl rfl rfl _ hcalls 1
  exact hruns.1

end FreezeAuthority.Reference
