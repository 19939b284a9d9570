/-
JSON arrays joined by hand.

Text assembled from printed items need not be compact: a comma or a colon may be
followed by a space.  Every printed item ends where it ends, whatever is glued to
it, so joining printed items with commas and putting brackets around them gives the
array of the items.  The induction is on the items, over the round trip of one.
-/
import IcaController.Lib.JsonRoundTrip

namespace Json

/-- The items of an array after its first, a space behind every comma, and the closing bracket. -/
def printSpaced : List Json → List Char
  | [] => [ ']']
  | x :: xs => ',' :: ' ' :: (print x ++ printSpaced xs)

theorem parseValue_space (fuel : Nat) (cs : List Char) :
    parseValue fuel (' ' :: cs) = parseValue fuel cs := by
  have hskip : skipSpace (' ' :: cs) = skipSpace cs := rfl
  cases fuel with
  | zero => rfl
  | succ fuel => rw [parseValue, parseValue, hskip]

theorem parseItems_space (fuel : Nat) (cs : List Char) :
    parseItems fuel (' ' :: cs) = parseItems fuel cs := by
  cases fuel with
  | zero => rfl
  | succ fuel => rw [parseItems, parseItems, parseValue_space]

theorem noDigit_printSpaced (xs : List Json) (rest : List Char) :
    NoDigit (printSpaced xs ++ rest) := by
  cases xs <;> exact noDigit_cons (by decide)

theorem parseItems_spaced (x : Json) (xs : List Json) (fuel : Nat) (rest : List Char)
    (hfuel : 2 * (print x ++ printSpaced xs).length ≤ fuel) :
    parseItems fuel (print x ++ (printSpaced xs ++ rest)) = some (x :: xs, rest) := by
  induction xs generalizing x fuel with
  | nil =>
      exact parseItems_print x [] fuel rest hfuel
  | cons y ys ih =>
      simp only [List.length_append, printSpaced, List.length_cons] at hfuel
      obtain ⟨fuel, rfl⟩ : ∃ n, fuel = n + 1 := ⟨fuel - 1, by omega⟩
      have hx := parseValue_print x fuel (printSpaced (y :: ys) ++ rest) (by omega)
        (noDigit_printSpaced (y :: ys) rest)
      have hys := ih y fuel (by simp only [List.length_append]; omega)
      rw [parseItems, hx]
      simp [printSpaced, parseItems_space, hys]

/-- The text of an array whose items are joined by a comma and a space, without its brackets. -/
theorem toList_intercalate (x : Json) (xs : List Json) :
    (", ".intercalate ((x :: xs).map fun v => String.ofList (print v))).toList ++ [ ']'] =
      print x ++ printSpaced xs := by
  induction xs generalizing x with
  | nil => simp [printSpaced]
  | cons y ys ih =>
      have hrest := ih y
      simp only [List.map_cons, String.intercalate_cons_cons, String.toList_append,
        String.toList_ofList, List.append_assoc, printSpaced] at hrest ⊢
      rw [hrest]
      rfl

/-- The text of items joined by a comma and a space. -/
def joined (items : List Json) : List Char :=
  (", ".intercalate (items.map fun v => String.ofList (print v))).toList

theorem parseValue_joined (items : List Json) (fuel : Nat) (rest : List Char)
    (hfuel : 2 * (joined items).length + 2 ≤ fuel) :
    parseValue (fuel + 1) ('[' :: (joined items ++ ']' :: rest)) = some (.arr items, rest) := by
  cases items with
  | nil =>
      simp [joined, parseValue]
  | cons x xs =>
      have htext : joined (x :: xs) ++ ']' :: rest = print x ++ (printSpaced xs ++ rest) := by
        rw [← List.append_assoc, ← toList_intercalate x xs, List.append_assoc]
        rfl
      have hlen : (print x ++ printSpaced xs).length = (joined (x :: xs)).length + 1 := by
        rw [← toList_intercalate x xs, List.length_append]
        rfl
      have hitems := parseItems_spaced x xs fuel rest (by omega)
      obtain ⟨c, cs, hprint, hstart⟩ := print_head x
      rw [hprint, List.cons_append] at hitems
      rw [htext]
      simp [parseValue, hprint, hstart.not_space, hstart.ne_close.1, hitems]

/-- **An object around joined items** parses to the object with that one member. -/
theorem parse_joined (k : String) (items : List Json) :
    parse ('{' :: (quote k.toList ++ ':' :: ' ' :: '[' :: (joined items ++ [ ']', '}']))) =
      some (.obj [(k, .arr items)]) := by
  have hvalue : ∀ fuel, 2 * (joined items).length + 2 ≤ fuel →
      parseValue (fuel + 1) (' ' :: '[' :: (joined items ++ [ ']', '}'])) =
        some (.arr items, [ '}']) := by
    intro fuel hfuel
    rw [parseValue_space]
    exact parseValue_joined items fuel [ '}'] hfuel
  have hmembers : ∀ fuel, 2 * (joined items).length + 2 ≤ fuel →
      parseMembers (fuel + 2)
        (quote k.toList ++ ':' :: ' ' :: '[' :: (joined items ++ [ ']', '}'])) =
        some ([(k, .arr items)], []) := by
    intro fuel hfuel
    simp [parseMembers, quote_append, parseString_quote, hvalue fuel hfuel]
  obtain ⟨fuel, hfuel, hbound⟩ : ∃ fuel, 2 * ('{' :: (quote k.toList ++
      ':' :: ' ' :: '[' :: (joined items ++ [ ']', '}']))).length = fuel + 3 ∧
        2 * (joined items).length + 2 ≤ fuel := by
    simp only [List.length_cons, List.length_append, List.length_nil]
    exact ⟨2 * (quote k.toList).length + 2 * (joined items).length + 9, by omega, by omega⟩
  have hobject := hmembers fuel hbound
  have hend : skipSpace [] = [] := rfl
  rw [quote_append] at hobject hfuel ⊢
  have hall : parseValue (fuel + 3) ('{' :: '"' :: (k.toList.flatMap escapeChar ++
      '"' :: ':' :: ' ' :: '[' :: (joined items ++ [ ']', '}']))) =
        some (.obj [(k, .arr items)], []) := by
    simp [parseValue, hobject]
  rw [parse, hfuel, hall]
  simp only [hend, if_true]

end Json
