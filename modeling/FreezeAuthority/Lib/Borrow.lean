import Mathlib.Tactic.Common

/-!
# Results, and calls through a mutable reference

A Rust method on `&mut self` returns a `Result` and leaves a value behind the reference, on
success and on failure alike. A `Borrow` keeps both.
-/

/-! ## `?` -/

namespace Result

variable {ε ε' α β : Type}

@[simp]
theorem ok_bind (a : α) (k : α → Except ε β) : (Except.ok a >>= k) = k a := rfl

@[simp]
theorem error_bind (e : ε) (k : α → Except ε β) : (Except.error e >>= k) = .error e := rfl

@[simp]
theorem pure_eq (a : α) : (pure a : Except ε α) = .ok a := rfl

@[simp]
theorem throw_eq (e : ε) : (throw e : Except ε α) = .error e := rfl

@[simp]
theorem mapError_ok (f : ε → ε') (a : α) : (Except.ok a).mapError f = .ok a := rfl

@[simp]
theorem mapError_error (f : ε → ε') (e : ε) :
    (Except.error e : Except ε α).mapError f = .error (f e) := rfl

theorem mapError_bind (x : Except ε α) (k : α → Except ε β) (f : ε → ε') :
    (x >>= k).mapError f = x.mapError f >>= fun a => (k a).mapError f := by
  cases x <;> rfl

theorem bind_eq_ok {x : Except ε α} {k : α → Except ε β} {b : β} :
    x >>= k = .ok b ↔ ∃ a, x = .ok a ∧ k a = .ok b := by
  cases x <;> simp

theorem bind_eq_error {x : Except ε α} {k : α → Except ε β} {e : ε} :
    x >>= k = .error e ↔ x = .error e ∨ ∃ a, x = .ok a ∧ k a = .error e := by
  cases x <;> simp

theorem check_eq_ok {r : Except ε Unit} {b b' : β} :
    (do r; return b) = .ok b' ↔ r = .ok () ∧ b' = b := by
  cases r <;> simp [eq_comm]

/-- A value made from the result adds no error. -/
theorem bind_return_eq_error {x : Except ε α} {f : α → β} {e : ε} :
    (do let a ← x; return f a) = .error e ↔ x = .error e := by
  cases x <;> simp

theorem mapError_eq_ok {x : Except ε α} {f : ε → ε'} {a : α} : x.mapError f = .ok a ↔ x = .ok a := by
  cases x <;> simp

theorem mapError_eq_error {x : Except ε α} {f : ε → ε'} {e' : ε'} :
    x.mapError f = .error e' ↔ ∃ e, x = .error e ∧ f e = e' := by
  cases x <;> simp

end Result

/-! ## `&mut` -/

/-- A fallible call through a `&mut σ`. -/
abbrev Borrow (σ ε α : Type) := ExceptT ε (StateM σ) α

namespace Borrow

variable {σ ε ε' α β : Type}

/-- What the call returns, and what it leaves behind the reference. -/
def call (m : Borrow σ ε α) (s : σ) : Except ε α × σ := m.run.run s

/-- The call on a local value, with `?` after it: the value it leaves, or its error. -/
def on (m : Borrow σ ε Unit) (s : σ) : Except ε σ :=
  match m.call s with
  | (.ok (), s') => .ok s'
  | (.error e, _) => .error e

/-- `?` on a `Result` inside the call. -/
def attempt (r : Except ε α) : Borrow σ ε α := liftM r

@[simp]
theorem call_get (s : σ) : (get : Borrow σ ε σ).call s = (.ok s, s) := rfl

@[simp]
theorem call_set (s s' : σ) : (set s' : Borrow σ ε PUnit).call s = (.ok (), s') := rfl

@[simp]
theorem call_attempt (r : Except ε α) (s : σ) : (attempt r : Borrow σ ε α).call s = (r, s) := by
  cases r <;> rfl

/-- A call that fails stops the ones after it, and keeps what it left behind. -/
theorem call_bind (m : Borrow σ ε α) (k : α → Borrow σ ε β) (s : σ) :
    (m >>= k).call s = match m.call s with
      | (.ok a, s') => (k a).call s'
      | (.error e, s') => (.error e, s') := by
  simp only [call, ExceptT.run_bind, StateT.run_bind]
  cases h : m.run.run s with
  | mk r s' => cases r <;> rfl

theorem on_ok {m : Borrow σ ε Unit} {s s' : σ} (h : m.call s = (.ok (), s')) : m.on s = .ok s' := by
  rw [on, h]

/-! What a call leaves, through its first statement. -/

@[simp]
theorem on_get_bind (k : σ → Borrow σ ε Unit) (s : σ) : (get >>= k).on s = (k s).on s := rfl

@[simp]
theorem on_attempt_bind (r : Except ε α) (k : α → Borrow σ ε Unit) (s : σ) :
    (attempt r >>= k).on s = r >>= fun a => (k a).on s := by
  cases r <;> rfl

@[simp]
theorem on_set (s s' : σ) : (set s' : Borrow σ ε PUnit).on s = .ok s' := rfl

@[simp]
theorem on_modify (f : σ → σ) (s : σ) : (modify f : Borrow σ ε PUnit).on s = .ok (f s) := rfl

/-! ## Failing without a trace -/

/-- The call leaves what it found, whatever it returns. -/
def ReadOnly (m : Borrow σ ε α) : Prop := ∀ s, (m.call s).2 = s

/-- A call that fails leaves what it found. -/
def Atomic (m : Borrow σ ε α) : Prop := ∀ s e, (m.call s).1 = .error e → (m.call s).2 = s

theorem readOnly_get : ReadOnly (get : Borrow σ ε σ) := fun _ => rfl

theorem readOnly_attempt (r : Except ε α) : ReadOnly (attempt r : Borrow σ ε α) := by
  intro s
  rw [call_attempt]

theorem atomic_throw (e : ε) : Atomic (throw e : Borrow σ ε α) := fun _ _ _ => rfl

theorem atomic_set (s : σ) : Atomic (set s : Borrow σ ε PUnit) := by
  intro _ _ h
  cases h

theorem atomic_modify (f : σ → σ) : Atomic (modify f : Borrow σ ε PUnit) := by
  intro _ _ h
  cases h

/-- Reads and checks in front of an atomic call. -/
theorem ReadOnly.bind {m : Borrow σ ε α} {k : α → Borrow σ ε β} (hm : ReadOnly m) (hk : ∀ a, Atomic (k a)) :
    Atomic (m >>= k) := by
  intro s e h
  rw [call_bind] at h ⊢
  have hs := hm s
  rcases hcall : m.call s with ⟨r, s'⟩
  rw [hcall] at h hs
  subst hs
  cases r with
  | ok a => exact hk a s' e h
  | error e' => rfl

/-- A check, then one assignment. -/
theorem atomic_check_set (check : σ → Except ε Unit) (f : σ → σ) :
    Atomic (do let s ← get; attempt (check s); set (f s) : Borrow σ ε PUnit) := by
  apply readOnly_get.bind
  intro s
  apply (readOnly_attempt _).bind
  intro _
  exact atomic_set _

end Borrow
