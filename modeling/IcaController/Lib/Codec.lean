/-
Printers, and the readers that undo them.

What was printed reads as what it was printed from.  That passes to lists, item by
item, and through layers, the outer one read first; and it makes printing injective.
Nothing is said of texts no printer makes: a reader may accept more.
-/
import Mathlib.Data.List.Basic

variable {α β γ : Type}

/-- Whatever was printed reads as itself. -/
def Reads (read : β → Option α) (print : α → β) : Prop := ∀ a, read (print a) = some a

namespace Reads

variable {read : β → Option α} {print : α → β}

/-- Different values print differently. -/
theorem injective (h : Reads read print) : Function.Injective print := by
  intro a b heq
  have hread := h a
  rw [heq, h b, Option.some.injEq] at hread
  exact hread.symm

/-- A list of printed values reads as the list of values. -/
theorem mapM (h : Reads read print) (l : List α) : (l.map print).mapM read = some l := by
  induction l with
  | nil => rfl
  | cons a l ih => simp [h a, ih]

/-- A printed value inside another format. -/
theorem layer {unwrap : γ → Option β} {wrap : β → γ} (h : Reads read print)
    (hlayer : Reads unwrap wrap) :
    Reads (fun c => (unwrap c).bind read) (fun a => wrap (print a)) := by
  intro a
  show (unwrap (wrap (print a))).bind read = some a
  rw [hlayer (print a), Option.bind_some, h a]

end Reads
