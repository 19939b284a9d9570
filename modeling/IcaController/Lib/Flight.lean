/-
Messages that leave a machine and come back to it.

Some turns of a machine send messages out, and some are about a message that is back.
If nothing comes back that is not out, then at every moment a message that was sent
is either out or back, and not twice: the two together are what was sent.  Equal
messages may be out at once, so all of this is counted in multisets.
-/
import Mathlib.Data.Multiset.AddSub
import IcaController.Lib.Machine

namespace Machine

variable {σ ι ρ μ : Type}

/-- What leaves a machine in a turn, and what is back with it. -/
structure Flight (σ ι ρ μ : Type) where
  leaves : Turn σ ι ρ → List μ
  lands : Turn σ ι ρ → Option μ

namespace Flight

/-- All that left in a past. -/
def sent (f : Flight σ ι ρ μ) (past : List (Turn σ ι ρ)) : Multiset μ := past.flatMap f.leaves

/-- All that came back in a past. -/
def landed (f : Flight σ ι ρ μ) (past : List (Turn σ ι ρ)) : Multiset μ :=
  past.filterMap f.lands

variable {f : Flight σ ι ρ μ} {t : Turn σ ι ρ} {past : List (Turn σ ι ρ)} {x : μ}

theorem sent_cons : f.sent (t :: past) = (f.leaves t : Multiset μ) + f.sent past := by
  rw [sent, List.flatMap_cons, ← Multiset.coe_add]
  rfl

theorem landed_cons : f.landed (t :: past) = ((f.lands t).toList : Multiset μ) + f.landed past := by
  unfold landed
  rw [List.filterMap_cons]
  cases f.lands t <;> rfl

theorem mem_sent : x ∈ f.sent past ↔ ∃ t ∈ past, x ∈ f.leaves t := by
  rw [sent, Multiset.mem_coe, List.mem_flatMap]

variable [DecidableEq μ]

/-- What left and is not back. -/
def aloft (f : Flight σ ι ρ μ) (past : List (Turn σ ι ρ)) : Multiset μ :=
  f.sent past - f.landed past

theorem mem_sent_of_mem_aloft (h : x ∈ f.aloft past) : x ∈ f.sent past :=
  Multiset.mem_of_le (Multiset.sub_le_self _ _) h

variable {m : Machine σ ι ρ} {allowed : List (Turn σ ι ρ) → ι → Prop} {s₀ s : σ}

/-- In every run, no more came back than left. -/
theorem landed_le_sent (h : m.Runs allowed s₀ past s)
    (hrule : ∀ past s c, allowed past c → ∀ x, f.lands (m.turn s c) = some x → x ∈ f.aloft past) :
    f.landed past ≤ f.sent past := by
  induction h with
  | start => exact le_rfl
  | @call past s h c hc ih =>
      rw [landed_cons, sent_cons]
      refine le_trans ?_ (Multiset.le_add_left _ _)
      cases hlands : f.lands (m.turn s c) with
      | none => simpa using ih
      | some x =>
          have hx : {x} ≤ f.aloft past := Multiset.singleton_le.mpr (hrule past s c hc x hlands)
          calc {x} + f.landed past ≤ f.aloft past + f.landed past :=
                Multiset.add_le_add_iff_right.mpr hx
            _ = f.sent past := Multiset.sub_add_cancel ih

/-- **Every message that was sent is out or back**, once for each time it was sent. -/
theorem aloft_add_landed (h : m.Runs allowed s₀ past s)
    (hrule : ∀ past s c, allowed past c → ∀ x, f.lands (m.turn s c) = some x → x ∈ f.aloft past) :
    f.aloft past + f.landed past = f.sent past :=
  Multiset.sub_add_cancel (landed_le_sent h hrule)

/-- A turn that lands one message and sends none takes that one from those aloft. -/
theorem aloft_cons_of_lands (hlands : f.lands t = some x) (hleaves : f.leaves t = [])
    (hx : x ∈ f.aloft past) : x ::ₘ f.aloft (t :: past) = f.aloft past := by
  rw [aloft, sent_cons, landed_cons, hlands, hleaves]
  show x ::ₘ (0 + f.sent past - ({x} + f.landed past)) = f.aloft past
  rw [Multiset.zero_add, Multiset.add_comm, Multiset.sub_add_eq_sub_sub, Multiset.sub_singleton]
  exact Multiset.cons_erase hx

end Flight

end Machine
