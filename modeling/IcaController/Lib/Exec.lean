/-
Fallible computations over a store.

A computation reads and writes a store and may stop early with an error.  What it
wrote before stopping stays written: the monad does not roll anything back.  A
host that does roll back is `settle`, which keeps the old store unless the
computation returned.

`Returns x s a s'` is the judgement everything is stated in: run on `s`, the
computation `x` returns `a` and leaves `s'`.  The rules take a computation apart
along its binds, so that a function written in `do` notation is characterised by
one rewrite with them and no unfolding of the monad.
-/
import Mathlib.Logic.Basic

/-- A sequence of fallible functions succeeds when both do. -/
theorem Except.bind_eq_ok {ε α β : Type} {x : Except ε α} {f : α → Except ε β} {b : β} :
    (x >>= f) = .ok b ↔ ∃ a, x = .ok a ∧ f a = .ok b := by
  cases x with
  | ok a => simp [bind, Except.bind]
  | error e => simp [bind, Except.bind]

/-- A check that fails early, in front of the rest of a function. -/
theorem Except.guard_eq_ok {ε α β : Type} {c : Prop} [Decidable c] {e : ε}
    {f : α → Except ε β} {x : Except ε β} {b : β} :
    (if c then (throw e : Except ε α) >>= f else x) = .ok b ↔ ¬ c ∧ x = .ok b := by
  by_cases h : c
  · simp [h, bind_eq_ok, throw, throwThe, MonadExceptOf.throw]
  · simp [h]

/-- A computation over a store `σ` that may stop with an `ε`, keeping what it wrote. -/
abbrev Exec (σ ε : Type) := ExceptT ε (StateM σ)

namespace Exec

variable {σ ε α β : Type}

/-- Run a computation: its outcome, and the store as it left it. -/
def exec (x : Exec σ ε α) (s : σ) : Except ε α × σ := (ExceptT.run x).run s

/-- Run on `s`, the computation returns `a` and leaves the store at `s'`. -/
def Returns (x : Exec σ ε α) (s : σ) (a : α) (s' : σ) : Prop := exec x s = (.ok a, s')

/-! ### Taking a computation apart

One rule a construct, each an equivalence: rewriting with them turns a `do` block into the
facts it needs to return, from the top down.
-/

theorem exec_pure (a : α) (s : σ) : exec (pure a : Exec σ ε α) s = (.ok a, s) := rfl

theorem exec_throw (e : ε) (s : σ) : exec (throw e : Exec σ ε α) s = (.error e, s) := rfl

theorem exec_get (s : σ) : exec (get : Exec σ ε σ) s = (.ok s, s) := rfl

theorem exec_modify (f : σ → σ) (s : σ) :
    exec (modify f : Exec σ ε PUnit) s = (.ok ⟨⟩, f s) := rfl

theorem exec_bind (x : Exec σ ε α) (f : α → Exec σ ε β) (s : σ) :
    exec (x >>= f) s =
      match exec x s with
      | (.ok a, s') => exec (f a) s'
      | (.error e, s') => (.error e, s') := by
  show (ExceptT.run (x >>= f)).run s = _
  rw [ExceptT.run_bind, StateT.run_bind]
  unfold exec
  rcases (ExceptT.run x).run s with ⟨r, s'⟩
  cases r <;> rfl

@[simp] theorem returns_pure {a b : α} {s s' : σ} :
    Returns (pure a : Exec σ ε α) s b s' ↔ a = b ∧ s = s' := by
  simp [Returns, exec_pure]

@[simp] theorem not_returns_throw {e : ε} {a : α} {s s' : σ} :
    ¬ Returns (throw e : Exec σ ε α) s a s' := by
  simp [Returns, exec_throw]

@[simp] theorem returns_get {s t s' : σ} :
    Returns (get : Exec σ ε σ) s t s' ↔ s = t ∧ s = s' := by
  simp [Returns, exec_get]

@[simp] theorem returns_modify {f : σ → σ} {u : PUnit} {s s' : σ} :
    Returns (modify f : Exec σ ε PUnit) s u s' ↔ f s = s' := by
  simp [Returns, exec_modify]

/-- **The bind rule.**  A sequence returns when both halves do, through some store. -/
@[simp] theorem returns_bind {x : Exec σ ε α} {f : α → Exec σ ε β} {s s'' : σ} {b : β} :
    Returns (x >>= f) s b s'' ↔ ∃ a s', Returns x s a s' ∧ Returns (f a) s' b s'' := by
  simp only [Returns, exec_bind]
  rcases exec x s with ⟨r, s'⟩
  cases r with
  | ok a =>
      constructor
      · intro h
        exact ⟨a, s', rfl, h⟩
      · intro h
        obtain ⟨_, _, h, hf⟩ := h
        cases h
        exact hf
  | error e => simp

/-- The bind rule after a step that returns no value. -/
@[simp high] theorem returns_bind_unit {x : Exec σ ε Unit} {f : Unit → Exec σ ε β} {s s'' : σ}
    {b : β} :
    Returns (x >>= f) s b s'' ↔ ∃ s', Returns x s () s' ∧ Returns (f ()) s' b s'' := by
  rw [returns_bind]
  exact ⟨fun ⟨(), h⟩ => h, fun h => ⟨(), h⟩⟩

@[simp] theorem returns_map {x : Exec σ ε α} {f : α → β} {s s' : σ} {b : β} :
    Returns (f <$> x) s b s' ↔ ∃ a, Returns x s a s' ∧ f a = b := by
  rw [map_eq_pure_bind, returns_bind]
  simp only [returns_pure]
  constructor
  · intro h
    obtain ⟨a, _, hx, hf, rfl⟩ := h
    exact ⟨a, hx, hf⟩
  · intro h
    obtain ⟨a, hx, hf⟩ := h
    exact ⟨a, s', hx, hf, rfl⟩

/-- Mapping over a step that returns no value. -/
@[simp high] theorem returns_map_unit {x : Exec σ ε Unit} {f : Unit → β} {s s' : σ} {b : β} :
    Returns (f <$> x) s b s' ↔ Returns x s () s' ∧ f () = b := by
  rw [returns_map]
  exact ⟨fun ⟨(), h⟩ => h, fun h => ⟨(), h⟩⟩

@[simp] theorem returns_liftExcept {r : Except ε α} {a : α} {s s' : σ} :
    Returns (liftExcept r : Exec σ ε α) s a s' ↔ r = .ok a ∧ s = s' := by
  cases r with
  | ok b => simp [liftExcept]
  | error e => simp [liftExcept]

@[simp] theorem returns_ite {c : Prop} [Decidable c] {x y : Exec σ ε α} {s s' : σ} {a : α} :
    Returns (if c then x else y) s a s' ↔ c ∧ Returns x s a s' ∨ ¬ c ∧ Returns y s a s' := by
  by_cases h : c
  · simp [h]
  · simp [h]

/-! ### A host that rolls back

`exec` keeps what was written before a failure.  `settle` is the host that does not: a
call that failed has changed nothing.
-/

/-- Keep what a computation wrote only when it returned. -/
def settle (x : Exec σ ε α) (s : σ) : Except ε α × σ :=
  match exec x s with
  | (.ok a, s') => (.ok a, s')
  | (.error e, _) => (.error e, s)

theorem settle_ok_iff {x : Exec σ ε α} {s s' : σ} {a : α} :
    settle x s = (.ok a, s') ↔ Returns x s a s' := by
  unfold settle Returns
  rcases exec x s with ⟨r, t⟩
  cases r <;> simp

/-- Either the computation returned, or the host's store is as it was. -/
theorem settle_cases (x : Exec σ ε α) (s : σ) :
    (∃ a s', settle x s = (.ok a, s') ∧ Returns x s a s') ∨ ∃ e, settle x s = (.error e, s) := by
  unfold settle Returns
  rcases exec x s with ⟨r, t⟩
  cases r with
  | ok a => exact Or.inl ⟨a, t, rfl, rfl⟩
  | error e => exact Or.inr ⟨e, rfl⟩

end Exec

/-! ### Typed cells of a store

A store may keep the value of a cell as it is or in a coded form, so reading a cell can
fail.  What is written over cells is written for every such store at once.
-/

/-- Errors that can say a cell was read while empty, by the name of its type. -/
class NotFound (ε : Type) where
  notFound : String → ε

/-- One typed cell of a store. -/
structure Item (σ ε α : Type) where
  typeName : String
  read : σ → Except ε (Option α)
  write : α → σ → σ

namespace Item

open Exec

variable {σ ε α : Type} [NotFound ε]

/-- The value a store holds in the cell; an empty cell is an error. -/
def find (i : Item σ ε α) (s : σ) : Except ε α :=
  match i.read s with
  | .ok (some a) => .ok a
  | .ok none => .error (NotFound.notFound i.typeName)
  | .error e => .error e

/-- The cell's value, if it holds one. -/
def mayLoad (i : Item σ ε α) : Exec σ ε (Option α) := do liftExcept (i.read (← get))

def load (i : Item σ ε α) : Exec σ ε α := do liftExcept (i.find (← get))

def save (i : Item σ ε α) (a : α) : Exec σ ε PUnit := modify (i.write a)

/-- Load the cell, transform its value, and save what comes out. -/
def update (i : Item σ ε α) (f : α → Except ε α) : Exec σ ε α := do
  let a ← i.load
  let a' ← liftExcept (f a)
  i.save a'
  return a'

theorem find_eq_ok {i : Item σ ε α} {a : α} {s : σ} :
    i.find s = .ok a ↔ i.read s = .ok (some a) := by
  unfold find
  split <;> simp_all

omit [NotFound ε] in
@[simp] theorem returns_mayLoad {i : Item σ ε α} {o : Option α} {s s' : σ} :
    Returns i.mayLoad s o s' ↔ i.read s = .ok o ∧ s = s' := by
  simp [mayLoad, and_assoc]

@[simp] theorem returns_load {i : Item σ ε α} {a : α} {s s' : σ} :
    Returns i.load s a s' ↔ i.read s = .ok (some a) ∧ s = s' := by
  simp [load, find_eq_ok, and_assoc]

omit [NotFound ε] in
@[simp] theorem returns_save {i : Item σ ε α} {a : α} {u : PUnit} {s s' : σ} :
    Returns (i.save a) s u s' ↔ i.write a s = s' := by
  simp [save]

@[simp] theorem returns_update {i : Item σ ε α} {f : α → Except ε α} {a' : α} {s s' : σ} :
    Returns (i.update f) s a' s' ↔
      ∃ a, i.read s = .ok (some a) ∧ f a = .ok a' ∧ i.write a' s = s' := by
  simp only [update, returns_bind, returns_load, returns_liftExcept, returns_save, returns_pure]
  constructor
  · intro h
    obtain ⟨a, _, ⟨hr, rfl⟩, b, _, ⟨hf, rfl⟩, _, _, hw, rfl, rfl⟩ := h
    exact ⟨a, hr, hf, hw⟩
  · intro h
    obtain ⟨a, hr, hf, hw⟩ := h
    exact ⟨a, s, ⟨hr, rfl⟩, a', s, ⟨hf, rfl⟩, ⟨⟩, s', hw, rfl, rfl⟩

end Item
