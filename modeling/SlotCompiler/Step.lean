namespace SlotCompiler

abbrev Step (ε σ : Type) := ExceptT ε (StateM σ)

namespace Step

variable {ε σ α β : Type}

def runFrom (x : Step ε σ α) (s : σ) : Except ε α × σ := x.run.run s

def ofExcept : Except ε α → Step ε σ α
  | .ok a => pure a
  | .error e => throw e

@[simp] theorem runFrom_pure (a : α) (s : σ) :
    runFrom (pure a : Step ε σ α) s = (.ok a, s) := rfl

@[simp] theorem runFrom_throw (e : ε) (s : σ) :
    runFrom (throw e : Step ε σ α) s = (.error e, s) := rfl

@[simp] theorem runFrom_get (s : σ) :
    runFrom (get : Step ε σ σ) s = (.ok s, s) := rfl

@[simp] theorem runFrom_modify (f : σ → σ) (s : σ) :
    runFrom (modify f : Step ε σ PUnit) s = (.ok ⟨⟩, f s) := rfl

@[simp] theorem runFrom_ofExcept (x : Except ε α) (s : σ) :
    runFrom (ofExcept x : Step ε σ α) s = (x, s) := by
  cases x <;> rfl

-- The second step runs from the state the first one leaves, unless the first one fails.
theorem runFrom_bind (x : Step ε σ α) (f : α → Step ε σ β) (s : σ) :
    runFrom (x >>= f) s =
      match runFrom x s with
      | (.ok a, t) => runFrom (f a) t
      | (.error e, t) => (.error e, t) := by
  show (match x.run.run s with | (a, t) => ExceptT.bindCont f a t) = _
  rw [runFrom]
  obtain ⟨a | a, t⟩ := x.run.run s <;> rfl

theorem runFrom_bind_ok {x : Step ε σ α} {a : α} {s t : σ} (f : α → Step ε σ β)
    (h : runFrom x s = (.ok a, t)) : runFrom (x >>= f) s = runFrom (f a) t := by
  rw [runFrom_bind, h]

theorem runFrom_bind_error {x : Step ε σ α} {e : ε} {s t : σ} (f : α → Step ε σ β)
    (h : runFrom x s = (.error e, t)) : runFrom (x >>= f) s = (.error e, t) := by
  rw [runFrom_bind, h]

theorem runFrom_bind_eq_ok {x : Step ε σ α} {f : α → Step ε σ β} {b : β} {s u : σ} :
    runFrom (x >>= f) s = (.ok b, u) ↔
      ∃ a t, runFrom x s = (.ok a, t) ∧ runFrom (f a) t = (.ok b, u) := by
  rw [runFrom_bind]
  cases hx : runFrom x s with
  | mk result t =>
      cases result with
      | error e => simp
      | ok a =>
          constructor
          · intro h
            exact ⟨a, t, rfl, h⟩
          · rintro ⟨a, t, h, hf⟩
            cases h
            exact hf

theorem runFrom_bind_eq_error {x : Step ε σ α} {f : α → Step ε σ β} {e : ε} {s u : σ} :
    runFrom (x >>= f) s = (.error e, u) ↔
      runFrom x s = (.error e, u) ∨
        ∃ a t, runFrom x s = (.ok a, t) ∧ runFrom (f a) t = (.error e, u) := by
  rw [runFrom_bind]
  cases hx : runFrom x s with
  | mk result t =>
      cases result with
      | error e' => simp
      | ok a =>
          constructor
          · intro h
            exact .inr ⟨a, t, rfl, h⟩
          · rintro (h | ⟨a, t, h, hf⟩)
            · cases h
            · cases h
              exact hf

end Step

end SlotCompiler
