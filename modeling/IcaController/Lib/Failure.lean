/-
Computations that fail before they write.

A failing computation keeps what it wrote, so a host that does not roll back may be
left with half of an operation.  `Clean x s` says that this does not happen to `x`
on `s`.  The discipline that gives it is to check first and to commit afterwards:
the checks only read, and of the writes only the first may still fail, before
writing.  The rules follow that order along the binds.
-/
import IcaController.Lib.Machine

namespace Exec

variable {σ ε α β : Type} {x : Exec σ ε α} {f : α → Exec σ ε β} {s s' s'' : σ} {a : α} {e e' : ε}

/-- Run on `s`, the computation fails with `e` and leaves the store at `s'`. -/
def Fails (x : Exec σ ε α) (s : σ) (e : ε) (s' : σ) : Prop := exec x s = (.error e, s')

theorem Returns.not_fails (h : Returns x s a s') : ¬ Fails x s e s'' := by
  intro hfails
  have heq : (Except.ok a, s') = (Except.error e, s'') := h.symm.trans hfails
  cases heq

@[simp] theorem not_fails_pure : ¬ Fails (pure a : Exec σ ε α) s e s' := by
  simp [Fails, exec_pure]

@[simp] theorem fails_throw :
    Fails (throw e : Exec σ ε α) s e' s' ↔ e = e' ∧ s = s' := by
  simp [Fails, exec_throw]

@[simp] theorem not_fails_get : ¬ Fails (get : Exec σ ε σ) s e s' := by
  simp [Fails, exec_get]

@[simp] theorem not_fails_modify {g : σ → σ} :
    ¬ Fails (modify g : Exec σ ε PUnit) s e s' := by
  simp [Fails, exec_modify]

/-- **The bind rule for failure.**  The first half fails, or it returns and the second does. -/
@[simp] theorem fails_bind :
    Fails (x >>= f) s e s'' ↔
      Fails x s e s'' ∨ ∃ a s', Returns x s a s' ∧ Fails (f a) s' e s'' := by
  simp only [Fails, Returns, exec_bind]
  rcases exec x s with ⟨r, s'⟩
  cases r with
  | ok a =>
      constructor
      · intro h
        exact Or.inr ⟨a, s', rfl, h⟩
      · intro h
        rcases h with h | ⟨b, t, h, hf⟩
        · cases h
        · cases h
          exact hf
  | error e' => simp

@[simp] theorem fails_map {g : α → β} : Fails (g <$> x) s e s' ↔ Fails x s e s' := by
  rw [map_eq_pure_bind, fails_bind]
  simp

@[simp] theorem fails_liftExcept {r : Except ε α} :
    Fails (liftExcept r : Exec σ ε α) s e s' ↔ r = .error e ∧ s = s' := by
  cases r with
  | ok b => simp [liftExcept]
  | error e' => simp [liftExcept]

@[simp] theorem fails_ite {c : Prop} [Decidable c] {y : Exec σ ε α} :
    Fails (if c then x else y) s e s' ↔ c ∧ Fails x s e s' ∨ ¬ c ∧ Fails y s e s' := by
  by_cases h : c
  · simp [h]
  · simp [h]

/-! ### Computations that only read -/

/-- The computation changes no store, whether it returns or fails. -/
def ReadsOnly (x : Exec σ ε α) : Prop := ∀ s, (exec x s).2 = s

theorem ReadsOnly.eq_of_returns (hx : ReadsOnly x) (h : Returns x s a s') : s' = s := by
  have hs := hx s
  rw [show exec x s = (.ok a, s') from h] at hs
  exact hs

theorem ReadsOnly.eq_of_fails (hx : ReadsOnly x) (h : Fails x s e s') : s' = s := by
  have hs := hx s
  rw [show exec x s = (.error e, s') from h] at hs
  exact hs

theorem readsOnly_pure : ReadsOnly (pure a : Exec σ ε α) := fun _ => rfl

theorem readsOnly_throw : ReadsOnly (throw e : Exec σ ε α) := fun _ => rfl

theorem readsOnly_get : ReadsOnly (get : Exec σ ε σ) := fun _ => rfl

theorem readsOnly_liftExcept {r : Except ε α} :
    ReadsOnly (liftExcept r : Exec σ ε α) := by
  cases r with
  | ok a => exact readsOnly_pure
  | error e => exact readsOnly_throw

theorem readsOnly_bind (hx : ReadsOnly x) (hf : ∀ a, ReadsOnly (f a)) :
    ReadsOnly (x >>= f) := by
  intro s
  have hs := hx s
  rw [exec_bind]
  rcases hexec : exec x s with ⟨r, s'⟩
  rw [hexec] at hs
  subst hs
  cases r with
  | ok a => exact hf a s'
  | error e => rfl

theorem readsOnly_map {g : α → β} (hx : ReadsOnly x) : ReadsOnly (g <$> x) := by
  rw [map_eq_pure_bind]
  exact readsOnly_bind hx fun _ => readsOnly_pure

theorem readsOnly_ite {c : Prop} [Decidable c] {y : Exec σ ε α} (hx : ReadsOnly x)
    (hy : ReadsOnly y) : ReadsOnly (if c then x else y) := by
  by_cases h : c
  · rw [if_pos h]
    exact hx
  · rw [if_neg h]
    exact hy

/-! ### Check, then commit -/

/-- If the computation fails on `s`, it has not changed it. -/
def Clean (x : Exec σ ε α) (s : σ) : Prop := ∀ e s', Fails x s e s' → s' = s

/-- The computation does not fail on `s`. -/
def Sure (x : Exec σ ε α) (s : σ) : Prop := ∀ e s', ¬ Fails x s e s'

theorem ReadsOnly.clean (hx : ReadsOnly x) (s : σ) : Clean x s :=
  fun _ _ h => hx.eq_of_fails h

theorem clean_throw (e : ε) (s : σ) : Clean (throw e : Exec σ ε α) s :=
  readsOnly_throw.clean s

/-- A check in front: it leaves the store for what follows to fail on. -/
theorem Clean.check (hx : ReadsOnly x) (hf : ∀ a, Returns x s a s → Clean (f a) s) :
    Clean (x >>= f) s := by
  intro e s'' h
  rcases fails_bind.mp h with hfails | ⟨a, s', hret, hfails⟩
  · exact hx.eq_of_fails hfails
  · obtain rfl := hx.eq_of_returns hret
    exact hf a hret e s'' hfails

/-- A guard in front of a computation that only reads. -/
theorem ReadsOnly.guard {c : Prop} [Decidable c] {g : β → Exec σ ε α} (hx : ReadsOnly x) :
    ReadsOnly (if c then (throw e : Exec σ ε β) >>= g else x) := by
  refine readsOnly_ite ?_ hx
  intro s
  rw [exec_bind, exec_throw]

/-- A guard in front. -/
theorem Clean.guard {c : Prop} [Decidable c] {g : β → Exec σ ε α} (hx : ¬ c → Clean x s) :
    Clean (if c then (throw e : Exec σ ε β) >>= g else x) s := by
  by_cases h : c
  · rw [if_pos h]
    exact .check readsOnly_throw fun _ hret => absurd hret not_returns_throw
  · rw [if_neg h]
    exact hx h

/-- A commit behind: once the first write went through, nothing fails any more. -/
theorem Clean.commit (hx : Clean x s) (hf : ∀ a s', Returns x s a s' → Sure (f a) s') :
    Clean (x >>= f) s := by
  intro e s'' h
  rcases fails_bind.mp h with hfails | ⟨a, s', hret, hfails⟩
  · exact hx e s'' hfails
  · exact absurd hfails (hf a s' hret e s'')

theorem Clean.map {g : α → β} (hx : Clean x s) : Clean (g <$> x) s :=
  fun e s' h => hx e s' (fails_map.mp h)

end Exec

namespace Item

open Exec

variable {σ ε α : Type} [NotFound ε] {i : Item σ ε α} {a : α} {s s' : σ} {e : ε}
  {f : α → Except ε α}

omit [NotFound ε] in
theorem readsOnly_mayLoad : ReadsOnly i.mayLoad :=
  readsOnly_bind readsOnly_get fun _ => readsOnly_liftExcept

theorem readsOnly_load : ReadsOnly i.load :=
  readsOnly_bind readsOnly_get fun _ => readsOnly_liftExcept

theorem find_eq_error : i.find s = .error e ↔
    i.read s = .error e ∨ i.read s = .ok none ∧ NotFound.notFound i.typeName = e := by
  unfold find
  split <;> simp_all

omit [NotFound ε] in
@[simp] theorem fails_mayLoad : Fails i.mayLoad s e s' ↔ i.read s = .error e ∧ s = s' := by
  simp [mayLoad, and_assoc]

omit [NotFound ε] in
@[simp] theorem not_fails_save : ¬ Fails (i.save a) s e s' := not_fails_modify

@[simp] theorem fails_load : Fails i.load s e s' ↔
    (i.read s = .error e ∨ i.read s = .ok none ∧ NotFound.notFound i.typeName = e) ∧ s = s' := by
  simp [load, find_eq_error, and_assoc]

/-- An update fails before it writes: the cell is not read, or its value is not accepted. -/
@[simp] theorem fails_update : Fails (i.update f) s e s' ↔
    (i.read s = .error e ∨ i.read s = .ok none ∧ NotFound.notFound i.typeName = e ∨
      ∃ a, i.read s = .ok (some a) ∧ f a = .error e) ∧ s = s' := by
  simp only [update, fails_bind, fails_load, returns_load, returns_liftExcept, fails_liftExcept,
    not_fails_save, not_fails_pure]
  constructor
  · intro h
    rcases h with ⟨hr | ⟨hr, he⟩, hs⟩ | ⟨a, t, ⟨hr, rfl⟩, h⟩
    · exact ⟨Or.inl hr, hs⟩
    · exact ⟨Or.inr (Or.inl ⟨hr, he⟩), hs⟩
    · obtain ⟨hf, hs⟩ : f a = .error e ∧ s = s' := by simpa using h
      exact ⟨Or.inr (Or.inr ⟨a, hr, hf⟩), hs⟩
  · intro h
    obtain ⟨hr | ⟨hr, he⟩ | ⟨a, hr, hf⟩, hs⟩ := h
    · exact Or.inl ⟨Or.inl hr, hs⟩
    · exact Or.inl ⟨Or.inr ⟨hr, he⟩, hs⟩
    · exact Or.inr ⟨a, s, ⟨hr, rfl⟩, Or.inl ⟨hf, hs⟩⟩

theorem clean_update : Clean (i.update f) s :=
  fun _ _ h => (fails_update.mp h).2.symm

end Item

/-! ### Hosts that do not roll back

Clean calls make the host's care superfluous: with them a run that keeps what a failed
call wrote is a run that drops it.
-/

namespace Machine

open Exec

variable {σ ι ρ ε : Type} {serve : ι → Exec σ ε ρ} {s s₀ : σ} {c : ι} {e : ε}
  {allowed : List (Turn σ ι (Except ε ρ)) → ι → Prop} {past : List (Turn σ ι (Except ε ρ))}

/-- The machine whose calls keep what they wrote, also when they fail. -/
def unsettled (serve : ι → Exec σ ε ρ) : Machine σ ι (Except ε ρ) where
  step s c := exec (serve c) s

/-- A call that fails cleanly leaves nothing to roll back. -/
theorem turn_unsettled (h : Clean (serve c) s) :
    (unsettled serve).turn s c = (ofExec serve).turn s c := by
  have hstep : exec (serve c) s = settle (serve c) s := by
    unfold settle
    rcases hexec : exec (serve c) s with ⟨r, s'⟩
    cases r with
    | ok a => rfl
    | error e => rw [h e s' hexec]
  simp only [turn, unsettled, ofExec, hstep]

/--
**Where every call fails cleanly, rolling back cannot be observed**: the runs with
it are the runs without it, turn by turn.
-/
theorem runs_unsettled_iff (hclean : ∀ past s c, (ofExec serve).Runs allowed s₀ past s →
    allowed past c → Clean (serve c) s) :
    (unsettled serve).Runs allowed s₀ past s ↔ (ofExec serve).Runs allowed s₀ past s := by
  constructor
  · intro h
    induction h with
    | start => exact .start
    | call _ c hc ih =>
        rw [turn_unsettled (hclean _ _ c ih hc)]
        exact .call ih c hc
  · intro h
    induction h with
    | start => exact .start
    | call h c hc ih =>
        rw [← turn_unsettled (hclean _ _ c h hc)]
        exact .call ih c hc

/-- A computation that fails answers with its error and is rolled back. -/
theorem turn_of_fails {s' : σ} (h : Fails (serve c) s e s') :
    (ofExec serve).turn s c = ⟨s, c, .error e, s⟩ := by
  have hsettle : settle (serve c) s = (.error e, s) := by
    rw [settle, show exec (serve c) s = (.error e, s') from h]
  simp only [turn, ofExec, hsettle]

/-- A turn that answers with an error is a computation that failed, and is rolled back. -/
theorem fails_of_turn (h : ((ofExec serve).turn s c).answer = .error e) :
    (∃ s', Fails (serve c) s e s') ∧ ((ofExec serve).turn s c).after = s := by
  simp only [turn, ofExec, settle] at h ⊢
  rcases hexec : exec (serve c) s with ⟨r, s'⟩
  rw [hexec] at h
  cases r with
  | ok a => cases h
  | error e' =>
      cases h
      exact ⟨⟨s', hexec⟩, rfl⟩

end Machine
