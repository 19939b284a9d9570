/-
Calls in any order.

A machine that may turn calls down need not answer a list of calls alike in every
order: one call may need what another one changes.  Two calls commute when, accepted
one after the other, they could have come the other way round, with the same answers
and to the same state.  If any two of some calls commute, any number of them can be
put in any order.
-/
import Mathlib.Data.List.Perm.Basic
import IcaController.Lib.Machine

namespace Machine

variable {σ ι ρ ε : Type} {m : Machine σ ι (Except ε ρ)}

/-- The machine accepts the calls one after the other, with these answers. -/
inductive Serves (m : Machine σ ι (Except ε ρ)) : σ → List (ι × ρ) → σ → Prop
  | nil (s : σ) : Serves m s [] s
  | cons {s s' s'' : σ} {c : ι} {a : ρ} {log : List (ι × ρ)}
      (h : m.turn s c = ⟨s, c, .ok a, s'⟩) (hrest : Serves m s' log s'') :
      Serves m s ((c, a) :: log) s''

/-- Of two accepted calls the second could have come first. -/
def Commute (m : Machine σ ι (Except ε ρ)) (c d : ι) : Prop :=
  ∀ s a b s₁ s₂, m.turn s c = ⟨s, c, .ok a, s₁⟩ → m.turn s₁ d = ⟨s₁, d, .ok b, s₂⟩ →
    ∃ t, m.turn s d = ⟨s, d, .ok b, t⟩ ∧ m.turn t c = ⟨t, c, .ok a, s₂⟩

/-- Calls of a machine that rolls back commute if their computations do. -/
theorem commute_of_returns {serve : ι → Exec σ ε ρ} {c d : ι}
    (h : ∀ s a b s₁ s₂, Exec.Returns (serve c) s a s₁ → Exec.Returns (serve d) s₁ b s₂ →
      ∃ t, Exec.Returns (serve d) s b t ∧ Exec.Returns (serve c) t a s₂) :
    (ofExec serve).Commute c d := by
  intro s a b s₁ s₂ hc hd
  have hfirst : Exec.Returns (serve c) s a s₁ := by
    have hret := returns_of_turn (congrArg Turn.answer hc)
    rw [hc] at hret
    exact hret
  have hsecond : Exec.Returns (serve d) s₁ b s₂ := by
    have hret := returns_of_turn (congrArg Turn.answer hd)
    rw [hd] at hret
    exact hret
  obtain ⟨t, ht, ht'⟩ := h s a b s₁ s₂ hfirst hsecond
  exact ⟨t, turn_of_returns ht, turn_of_returns ht'⟩

/--
**Calls that commute can be put in any order**: they are accepted with the same
answers, and lead to the same state.
-/
theorem Serves.perm {P : ι → Prop} (hcomm : ∀ c d, P c → P d → m.Commute c d) {s s' : σ}
    {log log' : List (ι × ρ)} (hperm : log.Perm log') (hP : ∀ x ∈ log, P x.1)
    (h : m.Serves s log s') : m.Serves s log' s' := by
  induction hperm generalizing s with
  | nil => exact h
  | cons x _ ih =>
      cases h with
      | cons hturn hrest =>
          exact .cons hturn (ih (fun y hy => hP y (List.mem_cons_of_mem _ hy)) hrest)
  | swap x y log =>
      cases h with
      | cons hfirst hrest =>
          cases hrest with
          | cons hsecond hrest =>
              have hx := hP _ (List.mem_cons_of_mem _ List.mem_cons_self)
              have hy := hP _ List.mem_cons_self
              obtain ⟨t, ht, ht'⟩ := hcomm _ _ hy hx _ _ _ _ _ hfirst hsecond
              exact .cons ht (.cons ht' hrest)
  | trans hleft _ ih ih' =>
      exact ih' (fun x hx => hP x (hleft.mem_iff.mpr hx)) (ih hP h)

end Machine
