/-
What part of the calls can learn of the others.

An observer sees some of the calls to a machine, with their answers, and is shown a
view of the state.  It is one when the calls it does not see leave its view alone,
and the calls it sees are answered from the view and change it by the view.  Both
are about one call.  What follows is about runs: of two runs with the same calls
that it sees, the observer cannot tell which one it is in, whatever the others did
in between and in whatever order.
-/
import IcaController.Lib.Relational

namespace Machine

open Exec

variable {σ ι ρ ν ε : Type} {m : Machine σ ι ρ}

/-- A part of the calls, and what the state shows of itself to them. -/
structure Observer (m : Machine σ ι ρ) (ν : Type) where
  sees : ι → Bool
  view : σ → ν
  /-- A call that is not seen leaves the view alone. -/
  silent : ∀ s c, sees c = false → view (m.turn s c).after = view s
  /-- A call that is seen is answered from the view, and changes it by the view. -/
  determined : ∀ s t c, sees c = true → view s = view t →
    (m.turn s c).answer = (m.turn t c).answer ∧
      view (m.turn s c).after = view (m.turn t c).after

namespace Observer

/-- What the observer sees of some turns: its calls, and how they were answered. -/
def log (o : Observer m ν) (turns : List (Turn σ ι ρ)) : List (ι × ρ) :=
  (turns.filter (o.sees ·.call)).map fun t => (t.call, t.answer)

theorem log_cons_of_sees (o : Observer m ν) {t : Turn σ ι ρ} (h : o.sees t.call = true)
    (turns : List (Turn σ ι ρ)) : o.log (t :: turns) = (t.call, t.answer) :: o.log turns := by
  simp [log, h]

theorem log_cons_of_not_sees (o : Observer m ν) {t : Turn σ ι ρ} (h : o.sees t.call = false)
    (turns : List (Turn σ ι ρ)) : o.log (t :: turns) = o.log turns := by
  simp [log, h]

/-- The calls that are not seen can be left out. -/
theorem purge (o : Observer m ν) (calls : List ι) {s t : σ} (h : o.view s = o.view t) :
    o.log (m.trace s calls) = o.log (m.trace t (calls.filter o.sees)) ∧
      o.view (m.final s calls) = o.view (m.final t (calls.filter o.sees)) := by
  induction calls generalizing s t with
  | nil => exact ⟨rfl, h⟩
  | cons c rest ih =>
      cases hc : o.sees c with
      | true =>
          obtain ⟨hanswer, hafter⟩ := o.determined s t c hc h
          obtain ⟨hlog, hview⟩ := ih hafter
          rw [List.filter_cons_of_pos hc, trace, trace, final, final,
            o.log_cons_of_sees (t := m.turn s c) hc, o.log_cons_of_sees (t := m.turn t c) hc,
            hanswer, hlog]
          exact ⟨rfl, hview⟩
      | false =>
          obtain ⟨hlog, hview⟩ := ih ((o.silent s c hc).trans h)
          rw [List.filter_cons_of_neg (by simp [hc]), trace, final,
            o.log_cons_of_not_sees (t := m.turn s c) hc]
          exact ⟨hlog, hview⟩

/--
**Noninterference.**  Two lists of calls that the observer cannot tell apart answer
it alike and leave it the same view.
-/
theorem noninterference (o : Observer m ν) {calls calls' : List ι} {s t : σ}
    (hview : o.view s = o.view t) (hcalls : calls.filter o.sees = calls'.filter o.sees) :
    o.log (m.trace s calls) = o.log (m.trace t calls') ∧
      o.view (m.final s calls) = o.view (m.final t calls') := by
  obtain ⟨hlog, hfinal⟩ := o.purge calls hview
  obtain ⟨hlog', hfinal'⟩ := o.purge calls' (rfl : o.view t = o.view t)
  rw [hlog, hfinal, hlog', hfinal', hcalls]
  exact ⟨rfl, rfl⟩

/-- An observer of a machine that rolls back, from its computations. -/
def ofExec {serve : ι → Exec σ ε ρ} (sees : ι → Bool) (view : σ → ν)
    (hsilent : ∀ s c a s', sees c = false → Returns (serve c) s a s' → view s' = view s)
    (hdetermined : ∀ c, sees c = true →
      Relates (fun s t => view s = view t) Eq (serve c) (serve c)) :
    Observer (Machine.ofExec serve) ν where
  sees := sees
  view := view
  silent s c hc := by
    rcases turn_cases serve s c with ⟨a, s', hret, ht⟩ | ⟨e, ht⟩
    · rw [ht]
      exact hsilent s c a s' hc hret
    · rw [ht]
  determined s t c hc h := by
    obtain ⟨hanswer, hview⟩ := (hdetermined c hc).settle h
    exact ⟨Except.both_eq.mp hanswer, hview⟩

end Observer

end Machine
