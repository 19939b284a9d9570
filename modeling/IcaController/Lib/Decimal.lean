/-
Decimal texts of natural numbers.

`Nat.repr` prints the shortest one.  The reader takes any nonempty run of digits,
leading zeros included, so it is a left inverse of printing and not an inverse.
-/
import IcaController.Lib.Codec

namespace Decimal

/-- The number a run of digits spells; the empty text spells none. -/
def read (digits : List Char) : Option Nat :=
  if digits = [] || !digits.all Char.isDigit then none
  else some (Nat.ofDigitChars 10 digits 0)

theorem read_eq_some {digits : List Char} {n : Nat} :
    read digits = some n ↔
      digits ≠ [] ∧ (∀ c ∈ digits, c.isDigit = true) ∧ Nat.ofDigitChars 10 digits 0 = n := by
  unfold read
  by_cases hempty : digits = []
  · simp [hempty]
  · by_cases hall : digits.all Char.isDigit = true
    · simp only [hempty, hall, decide_false, Bool.not_true, Bool.or_false, Bool.false_eq_true,
        if_false, Option.some.injEq, ne_eq, not_false_eq_true, true_and]
      exact ⟨fun h => ⟨List.all_eq_true.mp hall, h⟩, fun h => h.2⟩
    · simp only [hall, Bool.not_false, Bool.or_true, if_true, reduceCtorEq, false_iff]
      intro h
      exact hall (List.all_eq_true.mpr h.2.1)

/-- **A printed number reads as itself.** -/
theorem read_repr (n : Nat) : read n.repr.toList = some n := by
  rw [Nat.toList_repr, read_eq_some]
  refine ⟨Nat.toDigits_ne_nil, ?_, Nat.ofDigitChars_ten_toDigits⟩
  intro c hc
  exact Nat.isDigit_of_mem_toDigits (by omega) (by omega) hc

/-- Different numbers print differently. -/
theorem repr_injective : Function.Injective Nat.repr := by
  have hreads : Reads (fun text : String => read text.toList) Nat.repr := read_repr
  exact hreads.injective

end Decimal
