/-
Machines that answer one call at a time, and the runs an environment may drive
them through.

A run is kept as the list of its turns, newest first.  The environment is a rule
saying which calls may come after which past, so that an assumption about the
caller ("a reply only to something sent earlier") is a predicate on the past and
not a field of the state.

Three things are proved of runs once, for every machine: an invariant of the
turns is an invariant of the runs; a transactional machine need only be
looked at where a call is accepted; and calls that leave the state alone can be
purged from a run without any other call noticing.
-/
import IcaController.Lib.Exec

/-- A machine answers one call at a time. -/
structure Machine (σ ι ρ : Type) where
  step : σ → ι → ρ × σ

/-- One call of a run, with the states around it and its answer. -/
structure Turn (σ ι ρ : Type) where
  before : σ
  call : ι
  answer : ρ
  after : σ

namespace Machine

variable {σ ι ρ ε : Type}

/-- The turn a call takes from a state. -/
def turn (m : Machine σ ι ρ) (s : σ) (c : ι) : Turn σ ι ρ :=
  ⟨s, c, (m.step s c).1, (m.step s c).2⟩

/--
The runs from `s₀` in an environment that may make the call `c` after the turns
`past` when `allowed past c`.  The past is newest first.
-/
inductive Runs (m : Machine σ ι ρ) (allowed : List (Turn σ ι ρ) → ι → Prop) (s₀ : σ) :
    List (Turn σ ι ρ) → σ → Prop
  | start : Runs m allowed s₀ [] s₀
  | call {past : List (Turn σ ι ρ)} {s : σ} (h : Runs m allowed s₀ past s) (c : ι)
      (hc : allowed past c) : Runs m allowed s₀ (m.turn s c :: past) (m.turn s c).after

/-- The environment that may call anything at any time. -/
def Anything (_ : List (Turn σ ι ρ)) (_ : ι) : Prop := True

variable {m : Machine σ ι ρ} {allowed allowed' : List (Turn σ ι ρ) → ι → Prop} {s₀ : σ}
  {past : List (Turn σ ι ρ)} {s : σ}

/-- A run in a stricter environment is a run in a laxer one. -/
theorem Runs.mono (h : m.Runs allowed s₀ past s)
    (hle : ∀ past c, allowed past c → allowed' past c) : m.Runs allowed' s₀ past s := by
  induction h with
  | start => exact .start
  | call _ c hc ih => exact .call ih c (hle _ c hc)

/-- Every turn of a run was taken at the end of an earlier run. -/
theorem Runs.of_suffix {t : Turn σ ι ρ} {older : List (Turn σ ι ρ)}
    (h : m.Runs allowed s₀ past s) (ht : (t :: older) <:+ past) :
    m.Runs allowed s₀ older t.before ∧ allowed older t.call ∧ t = m.turn t.before t.call := by
  induction h with
  | start => simp at ht
  | call h c hc ih =>
      rcases List.suffix_cons_iff.mp ht with heq | ht
      · obtain ⟨rfl, rfl⟩ := List.cons.inj heq
        exact ⟨h, hc, rfl⟩
      · exact ih ht

/-! ### Transactional machines

The host of such a machine keeps what a call wrote only when the call returned.
-/

/-- The machine whose calls are served by computations, rolled back when they fail. -/
def ofExec (serve : ι → Exec σ ε ρ) : Machine σ ι (Except ε ρ) where
  step s c := Exec.settle (serve c) s

section Transactional

variable {serve : ι → Exec σ ε ρ} {allowed : List (Turn σ ι (Except ε ρ)) → ι → Prop}
  {past : List (Turn σ ι (Except ε ρ))}

theorem turn_of_returns {c : ι} {a : ρ} {s' : σ} (h : Exec.Returns (serve c) s a s') :
    (ofExec serve).turn s c = ⟨s, c, .ok a, s'⟩ := by
  simp only [turn, ofExec, Exec.settle_ok_iff.mpr h]

/-- A turn either was accepted or left the state as it was. -/
theorem turn_cases (serve : ι → Exec σ ε ρ) (s : σ) (c : ι) :
    (∃ a s', Exec.Returns (serve c) s a s' ∧ (ofExec serve).turn s c = ⟨s, c, .ok a, s'⟩) ∨
      ∃ e, (ofExec serve).turn s c = ⟨s, c, .error e, s⟩ := by
  rcases Exec.settle_cases (serve c) s with ⟨a, s', _, hret⟩ | ⟨e, he⟩
  · exact Or.inl ⟨a, s', hret, turn_of_returns hret⟩
  · exact Or.inr ⟨e, by simp only [turn, ofExec, he]⟩

/-- The accepted turns are the computations that return. -/
theorem returns_of_turn {c : ι} {a : ρ} (h : ((ofExec serve).turn s c).answer = .ok a) :
    Exec.Returns (serve c) s a ((ofExec serve).turn s c).after := by
  rcases turn_cases serve s c with ⟨b, s', hret, ht⟩ | ⟨e, ht⟩
  · rw [ht] at h ⊢
    cases h
    exact hret
  · rw [ht] at h
    cases h

/-- Extend a run by a call that returns. -/
theorem Runs.accept (h : (ofExec serve).Runs allowed s₀ past s) {c : ι} (hc : allowed past c)
    {a : ρ} {s' : σ} (hret : Exec.Returns (serve c) s a s') :
    (ofExec serve).Runs allowed s₀ (⟨s, c, .ok a, s'⟩ :: past) s' := by
  have hrun := h.call c hc
  rw [turn_of_returns hret] at hrun
  exact hrun

/--
**Induction over runs, one accepted call at a time.**  A rejected call adds its
turn to the past and changes nothing else.
-/
theorem Runs.induction_accepted (Inv : List (Turn σ ι (Except ε ρ)) → σ → Prop)
    (hstart : Inv [] s₀)
    (hok : ∀ past s c a s', (ofExec serve).Runs allowed s₀ past s → allowed past c → Inv past s →
      Exec.Returns (serve c) s a s' → Inv (⟨s, c, .ok a, s'⟩ :: past) s')
    (herr : ∀ past s c e, (ofExec serve).Runs allowed s₀ past s → allowed past c → Inv past s →
      Inv (⟨s, c, .error e, s⟩ :: past) s)
    (h : (ofExec serve).Runs allowed s₀ past s) : Inv past s := by
  induction h with
  | start => exact hstart
  | @call past s h c hc ih =>
      rcases turn_cases serve s c with ⟨a, s', hret, ht⟩ | ⟨e, ht⟩
      · rw [ht]
        exact hok past s c a s' h hc ih hret
      · rw [ht]
        exact herr past s c e h hc ih

/-- What every accepted call keeps holds at the end of every run. -/
theorem Runs.invariant (Inv : σ → Prop) (hstart : Inv s₀)
    (hok : ∀ s c a s', Inv s → Exec.Returns (serve c) s a s' → Inv s')
    (h : (ofExec serve).Runs allowed s₀ past s) : Inv s :=
  h.induction_accepted (fun _ s => Inv s) hstart
    (fun _ s c a s' _ _ hinv hret => hok s c a s' hinv hret) (fun _ _ _ _ _ _ hinv => hinv)

end Transactional

/-! ### Running a list of calls

Where the calls are given beforehand and nothing is assumed of them, a run is a function
of where it starts.  Two lists of calls can then be compared, turn by turn.
-/

/-- The turns a list of calls takes, oldest first. -/
def trace (m : Machine σ ι ρ) : σ → List ι → List (Turn σ ι ρ)
  | _, [] => []
  | s, c :: rest => m.turn s c :: trace m (m.turn s c).after rest

/-- The state a list of calls ends in. -/
def final (m : Machine σ ι ρ) : σ → List ι → σ
  | s, [] => s
  | s, c :: rest => final m (m.turn s c).after rest

/-- Running a list of calls is a run of the machine. -/
theorem runs_trace (h : m.Runs Anything s₀ past s) (calls : List ι) :
    m.Runs Anything s₀ ((m.trace s calls).reverse ++ past) (m.final s calls) := by
  induction calls generalizing past s with
  | nil => exact h
  | cons c rest ih =>
      have hrest := ih (h.call c trivial)
      simpa [trace, final] using hrest

/--
**Purging.**  Calls that leave the state alone can be dropped from a run: the
turns of the other calls, their answers and the states around them included, are
the ones the run takes without them.
-/
theorem trace_purge (m : Machine σ ι ρ) (Inv : σ → Prop) (visible : ι → Bool)
    (hinv : ∀ s c, Inv s → Inv (m.turn s c).after)
    (hsilent : ∀ s c, Inv s → visible c = false → (m.turn s c).after = s) :
    ∀ (calls : List ι) (s : σ), Inv s →
      (m.trace s calls).filter (fun t => visible t.call) = m.trace s (calls.filter visible) ∧
        m.final s calls = m.final s (calls.filter visible) := by
  intro calls
  induction calls with
  | nil => intro s _; exact ⟨rfl, rfl⟩
  | cons c rest ih =>
      intro s hs
      obtain ⟨htrace, hfinal⟩ := ih _ (hinv s c hs)
      by_cases hc : visible c = true
      · have hcall : visible (m.turn s c).call = true := hc
        simp only [trace, final, List.filter_cons, hc, hcall, if_true]
        exact ⟨congrArg _ htrace, hfinal⟩
      · have hfalse : visible c = false := by simpa using hc
        have hcall : visible (m.turn s c).call = false := hfalse
        have hsame : (m.turn s c).after = s := hsilent s c hs hfalse
        simp only [trace, final, List.filter_cons, hfalse, hcall]
        rw [hsame] at htrace hfinal ⊢
        exact ⟨htrace, hfinal⟩

end Machine
