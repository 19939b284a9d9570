/-
Two computations side by side.

One computation runs over one store and one over another, on stores that are
related.  They relate when they end alike: both return, related values, or both
fail, with the same error; and the stores are related again, whatever was written
before the end.  The rules go along the binds, as the other judgements' rules do.

There are two uses.  The two computations may be one, on stores that differ where
it does not look.  Or they may do the same on two representations of a store, one
of which is a picture of the other; then a machine served by the one is the picture
of a machine served by the other, turn by turn.
-/
import Mathlib.Data.List.Forall2
import IcaController.Lib.Machine

/-- Both outcomes return, related values, or both fail with the same error. -/
inductive Except.Both {ε α β : Type} (Q : α → β → Prop) : Except ε α → Except ε β → Prop
  | ok {a : α} {b : β} (h : Q a b) : Both Q (.ok a) (.ok b)
  | error (e : ε) : Both Q (.error e) (.error e)

theorem Except.both_eq {ε α : Type} {r r' : Except ε α} : Both Eq r r' ↔ r = r' := by
  constructor
  · intro h
    cases h with
    | ok h => rw [h]
    | error e => rfl
  · rintro rfl
    cases r with
    | ok a => exact .ok rfl
    | error e => exact .error e

theorem Except.both_map {ε α β : Type} {f : α → β} {r : Except ε α} {r' : Except ε β} :
    Both (fun a b => b = f a) r r' ↔ r' = r.map f := by
  constructor
  · intro h
    cases h with
    | ok h => rw [h]; rfl
    | error e => rfl
  · rintro rfl
    cases r with
    | ok a => exact .ok rfl
    | error e => exact .error e

theorem Option.rel_of_eq {α : Type} {o o' : Option α} (h : o = o') : Option.Rel Eq o o' := by
  subst h
  cases o with
  | none => exact .none
  | some a => exact .some rfl

/-- Cells that look alike through `f` hold values that do. -/
theorem Option.rel_of_map_eq {α β : Type} {f : α → β} {o o' : Option α} (h : o.map f = o'.map f) :
    Option.Rel (fun a b => f a = f b) o o' := by
  cases o with
  | none =>
      cases o' with
      | none => exact .none
      | some b => cases h
  | some a =>
      cases o' with
      | none => cases h
      | some b => exact .some (Option.some.inj h)

namespace Exec

variable {σ τ ε α β α' β' : Type} {R : σ → τ → Prop} {Q : α → β → Prop} {Q' : α' → β' → Prop}
  {x : Exec σ ε α} {y : Exec τ ε β} {f : α → Exec σ ε α'} {g : β → Exec τ ε β'}

/-- Run on related stores, the computations end alike and leave related stores. -/
def Relates (R : σ → τ → Prop) (Q : α → β → Prop) (x : Exec σ ε α) (y : Exec τ ε β) : Prop :=
  ∀ s t, R s t → Except.Both Q (exec x s).1 (exec y t).1 ∧ R (exec x s).2 (exec y t).2

theorem Relates.pure {a : α} {b : β} (h : Q a b) :
    Relates R Q (pure a : Exec σ ε α) (pure b : Exec τ ε β) :=
  fun _ _ hR => ⟨.ok h, hR⟩

theorem Relates.throw {e : ε} : Relates R Q (throw e : Exec σ ε α) (throw e : Exec τ ε β) :=
  fun _ _ hR => ⟨.error e, hR⟩

theorem Relates.get : Relates R R (get : Exec σ ε σ) (get : Exec τ ε τ) :=
  fun _ _ hR => ⟨.ok hR, hR⟩

theorem Relates.modify {w : σ → σ} {w' : τ → τ} (h : ∀ s t, R s t → R (w s) (w' t)) :
    Relates R Eq (modify w : Exec σ ε PUnit) (modify w' : Exec τ ε PUnit) :=
  fun s t hR => ⟨.ok rfl, h s t hR⟩

/-- **The bind rule**: related steps, and related continuations of related values. -/
theorem Relates.bind (hx : Relates R Q x y) (hf : ∀ a b, Q a b → Relates R Q' (f a) (g b)) :
    Relates R Q' (x >>= f) (y >>= g) := by
  intro s t hR
  obtain ⟨hboth, hR'⟩ := hx s t hR
  rw [exec_bind, exec_bind]
  rcases hexec : exec x s with ⟨r, s'⟩
  rcases hexec' : exec y t with ⟨r', t'⟩
  rw [hexec, hexec'] at hboth hR'
  cases hboth with
  | ok h => exact hf _ _ h s' t' hR'
  | error e => exact ⟨.error e, hR'⟩

/-- The bind rule where the two steps return the same. -/
theorem Relates.bindEq {y : Exec τ ε α} {g : α → Exec τ ε β'} (hx : Relates R Eq x y)
    (hf : ∀ a, Relates R Q' (f a) (g a)) : Relates R Q' (x >>= f) (y >>= g) := by
  refine hx.bind ?_
  rintro a _ rfl
  exact hf a

theorem Relates.map {h : α → α'} {k : β → β'} (hx : Relates R Q x y)
    (hQ : ∀ a b, Q a b → Q' (h a) (k b)) : Relates R Q' (h <$> x) (k <$> y) := by
  rw [map_eq_pure_bind, map_eq_pure_bind]
  exact hx.bind fun a b hab => .pure (hQ a b hab)

/-- The same map of two steps that return the same. -/
theorem Relates.mapEq {y : Exec τ ε α} {h : α → α'} (hx : Relates R Eq x y) :
    Relates R Eq (h <$> x) (h <$> y) :=
  hx.map fun _ _ hab => congrArg h hab

/-- A map of the second only. -/
theorem Relates.mapRight {Q' : α → β' → Prop} {k : β → β'} (hx : Relates R Q x y)
    (hQ : ∀ a b, Q a b → Q' a (k b)) : Relates R Q' x (k <$> y) := by
  rw [← id_map x]
  exact hx.map hQ

theorem Relates.lift {r : Except ε α} {r' : Except ε β} (h : Except.Both Q r r') :
    Relates R Q (liftExcept r : Exec σ ε α) (liftExcept r' : Exec τ ε β) := by
  cases h with
  | ok h => exact .pure h
  | error e => exact .throw

theorem Relates.liftSame {r : Except ε α} :
    Relates R Eq (liftExcept r : Exec σ ε α) (liftExcept r : Exec τ ε α) :=
  .lift (Except.both_eq.mpr rfl)

theorem Relates.ite {c : Prop} [Decidable c] {x' : Exec σ ε α} {y' : Exec τ ε β}
    (hx : Relates R Q x y) (hx' : Relates R Q x' y') :
    Relates R Q (if c then x else x') (if c then y else y') := by
  by_cases h : c
  · rw [if_pos h, if_pos h]
    exact hx
  · rw [if_neg h, if_neg h]
    exact hx'

/-- The same guard in front of both. -/
theorem Relates.guard {c : Prop} [Decidable c] {γ : Type} {e : ε} {h : γ → Exec σ ε α}
    {k : γ → Exec τ ε β} (hx : Relates R Q x y) :
    Relates R Q (if c then (MonadExcept.throw e : Exec σ ε γ) >>= h else x)
      (if c then (MonadExcept.throw e : Exec τ ε γ) >>= k else y) := by
  refine .ite ?_ hx
  intro s t hR
  rw [exec_bind, exec_bind]
  exact ⟨.error e, hR⟩

/-- Related computations relate on a host that rolls back. -/
theorem Relates.settle (hx : Relates R Q x y) {s : σ} {t : τ} (hR : R s t) :
    Except.Both Q (settle x s).1 (settle y t).1 ∧ R (settle x s).2 (settle y t).2 := by
  obtain ⟨hboth, hR'⟩ := hx s t hR
  unfold Exec.settle
  rcases hexec : exec x s with ⟨r, s'⟩
  rcases hexec' : exec y t with ⟨r', t'⟩
  rw [hexec, hexec'] at hboth hR'
  cases hboth with
  | ok h => exact ⟨.ok h, hR'⟩
  | error e => exact ⟨.error e, hR⟩

end Exec

namespace Item

open Exec

variable {σ τ ε α β : Type} [NotFound ε] {i : Item σ ε α} {j : Item τ ε β} {R : σ → τ → Prop}
  {Q : α → β → Prop} {f : α → Except ε α} {g : β → Except ε β}

/-- Cells of one type name are loaded alike where they hold related values. -/
theorem relates_load (hname : i.typeName = j.typeName)
    (h : ∀ s t, R s t → Except.Both (Option.Rel Q) (i.read s) (j.read t)) :
    Relates R Q i.load j.load := by
  refine Relates.get.bind fun s t hR => .lift ?_
  have hboth := h s t hR
  unfold find
  generalize i.read s = r, j.read t = r' at hboth
  cases hboth with
  | error e => exact .error e
  | ok hrel =>
      cases hrel with
      | none =>
          rw [hname]
          exact .error _
      | some hQ => exact .ok hQ

omit [NotFound ε] in
theorem relates_mayLoad {j : Item τ ε α} (h : ∀ s t, R s t → i.read s = j.read t) :
    Relates R Eq i.mayLoad j.mayLoad :=
  Relates.get.bind fun s t hR => .lift (Except.both_eq.mpr (h s t hR))

omit [NotFound ε] in
theorem relates_save {a : α} {b : β} (h : ∀ s t, R s t → R (i.write a s) (j.write b t)) :
    Relates R Eq (i.save a) (j.save b) :=
  .modify h

/-- What is loaded and saved alike is updated alike. -/
theorem relates_update_eq {j : Item τ ε α} (hload : Relates R Eq i.load j.load)
    (hsave : ∀ a, Relates R Eq (i.save a) (j.save a)) (f : α → Except ε α) :
    Relates R Eq (i.update f) (j.update f) :=
  hload.bindEq fun _ => Relates.liftSame.bindEq fun a => (hsave a).bindEq fun _ => .pure rfl

/-- Cells are updated alike where they hold related values and the updates keep them so. -/
theorem relates_update (hname : i.typeName = j.typeName)
    (hread : ∀ s t, R s t → Except.Both (Option.Rel Q) (i.read s) (j.read t))
    (hf : ∀ a b, Q a b → Except.Both Q (f a) (g b))
    (hwrite : ∀ a b, Q a b → ∀ s t, R s t → R (i.write a s) (j.write b t)) :
    Relates R Q (i.update f) (j.update g) := by
  refine (relates_load hname hread).bind fun a b hab => ?_
  refine (Relates.lift (hf a b hab)).bind fun a' b' hab' => ?_
  exact (relates_save (hwrite a' b' hab')).bindEq fun _ => .pure hab'

end Item

/-! ### Machines in pictures

If one step commutes with a picture of the states and of the answers, whole runs do.  The
same goes for calls that have another spelling: a machine that reads them as the calls
they spell takes the turns of the machine that is given the calls.
-/

/-- The turn as a picture of it shows it. -/
def Turn.picture {σ τ ι ρ ρ' : Type} (f : σ → τ) (g : ρ → ρ') (t : Turn σ ι ρ) : Turn τ ι ρ' :=
  ⟨f t.before, t.call, g t.answer, f t.after⟩

/-- The turn with its call spelled otherwise. -/
def Turn.spelled {σ ι κ ρ : Type} (spell : ι → κ) (t : Turn σ ι ρ) : Turn σ κ ρ :=
  ⟨t.before, spell t.call, t.answer, t.after⟩

namespace Machine

open Exec

variable {σ τ ι ρ ρ' ε : Type} {f : σ → τ}

/-- **A machine that is the picture of another in every turn is its picture in every run.** -/
theorem trace_picture {m : Machine σ ι ρ} {n : Machine τ ι ρ'} {g : ρ → ρ'}
    (h : ∀ s c, n.turn (f s) c = (m.turn s c).picture f g) (calls : List ι) (s : σ) :
    n.trace (f s) calls = (m.trace s calls).map (Turn.picture f g) ∧
      n.final (f s) calls = f (m.final s calls) := by
  induction calls generalizing s with
  | nil => exact ⟨rfl, rfl⟩
  | cons c rest ih =>
      obtain ⟨htrace, hfinal⟩ := ih (m.turn s c).after
      rw [trace, final, trace, final, List.map_cons, h s c]
      exact ⟨congrArg _ htrace, hfinal⟩

/-- Related services make such machines, the store being pictured by a function. -/
theorem turn_picture {serve : ι → Exec σ ε ρ} {serve' : ι → Exec τ ε ρ'} {g : ρ → ρ'}
    (h : ∀ c, Relates (fun s t => t = f s) (fun a b => b = g a) (serve c) (serve' c))
    (s : σ) (c : ι) :
    (ofExec serve').turn (f s) c = ((ofExec serve).turn s c).picture f (Except.map g) := by
  obtain ⟨hanswer, hafter⟩ := (h c).settle (rfl : f s = f s)
  rw [Except.both_map] at hanswer
  simp only [turn, ofExec, Turn.picture, hanswer, hafter]

/-- **A machine whose calls are spelled otherwise runs as the other does.** -/
theorem trace_spelled {κ : Type} {m : Machine σ ι ρ} {n : Machine σ κ ρ} {spell : ι → κ}
    (h : ∀ s c, n.step s (spell c) = m.step s c) (calls : List ι) (s : σ) :
    n.trace s (calls.map spell) = (m.trace s calls).map (Turn.spelled spell) ∧
      n.final s (calls.map spell) = m.final s calls := by
  induction calls generalizing s with
  | nil => exact ⟨rfl, rfl⟩
  | cons c rest ih =>
      have hturn : n.turn s (spell c) = (m.turn s c).spelled spell := by
        simp only [turn, Turn.spelled, h]
      obtain ⟨htrace, hfinal⟩ := ih (m.turn s c).after
      rw [List.map_cons, trace, final, trace, final, List.map_cons, hturn]
      exact ⟨congrArg _ htrace, hfinal⟩

/--
Calls that are alike, and that a machine takes from each state to the same state, make
runs whose turns are alike in what one call of each shows.
-/
theorem trace_alike {m : Machine σ ι ρ} {Alike : ι → ι → Prop}
    {Shows : Turn σ ι ρ → Turn σ ι ρ → Prop}
    (h : ∀ s c d, Alike c d →
      Shows (m.turn s c) (m.turn s d) ∧ (m.turn s c).after = (m.turn s d).after)
    {calls calls' : List ι} (hcalls : List.Forall₂ Alike calls calls') (s : σ) :
    List.Forall₂ Shows (m.trace s calls) (m.trace s calls') ∧
      m.final s calls = m.final s calls' := by
  induction hcalls generalizing s with
  | nil => exact ⟨.nil, rfl⟩
  | @cons c d _ _ hcall _ ih =>
      obtain ⟨hturn, hafter⟩ := h s c d hcall
      obtain ⟨htrace, hfinal⟩ := ih (m.turn s c).after
      rw [trace, trace, final, final, ← hafter]
      exact ⟨.cons hturn htrace, hfinal⟩

end Machine
