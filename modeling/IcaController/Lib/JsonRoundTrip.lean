/-
Parsing what was printed gives the value back.

The statement carried through the recursion is about a text that starts with a
printed value and goes on: the parser returns the value and the rest.  The rest
must not begin with a digit, or a number would run into it.  Nothing else about
it matters, because every other value ends in a character of its own.
-/
import IcaController.Lib.Json

namespace Json

/-! ### Strings

A printed string ends at its own closing quote: a quote inside is escaped, so the parser
cannot stop early, whatever text follows.
-/

theorem hexValue_hexDigit : ∀ d, d < 16 → hexValue (hexDigit d) = some d := by decide

theorem unicodeEscape_control {c : Char} (h : c.toNat < 32) :
    unicodeEscape '0' '0' (hexDigit (c.toNat / 16)) (hexDigit (c.toNat % 16)) = some c := by
  have hzero : hexValue '0' = some 0 := by decide
  have hvalid : (c.toNat).isValidChar := Or.inl (by omega)
  have hsum : 16 * (c.toNat / 16) + c.toNat % 16 = c.toNat := by omega
  simp [unicodeEscape, hzero, hexValue_hexDigit (c.toNat / 16) (by omega),
    hexValue_hexDigit (c.toNat % 16) (by omega), hsum, hvalid, Char.ofNat_toNat]

theorem shortEscape_of_shortForm {c e : Char} (h : shortForm c = some e) :
    shortEscape e = some c ∧ e ≠ 'u' := by
  unfold shortForm at h
  split at h <;> cases h <;> decide

theorem ne_of_shortForm_none {c : Char} (h : shortForm c = none) : c ≠ '"' ∧ c ≠ '\\' := by
  constructor
  · rintro rfl
    cases h
  · rintro rfl
    cases h

theorem parseString_short {c e : Char} (h : shortEscape e = some c) (hu : e ≠ 'u')
    (rest : List Char) :
    parseString ('\\' :: e :: rest) = (parseString rest).map fun p => (c :: p.1, p.2) := by
  rw [parseString.eq_def]
  cases hrest : parseString rest <;> simp [h, hu, hrest]

theorem parseString_plain {c : Char} (hquote : c ≠ '"') (hslash : c ≠ '\\')
    (hcontrol : ¬ c.toNat < 32) (rest : List Char) :
    parseString (c :: rest) = (parseString rest).map fun p => (c :: p.1, p.2) := by
  rw [parseString.eq_def]
  cases hrest : parseString rest <;> simp [hslash, hcontrol, hrest]

/-- One escaped character is read back as itself. -/
theorem parseString_escapeChar (c : Char) (rest : List Char) :
    parseString (escapeChar c ++ rest) = (parseString rest).map fun p => (c :: p.1, p.2) := by
  unfold escapeChar
  cases hform : shortForm c with
  | some e =>
      obtain ⟨hesc, hu⟩ := shortEscape_of_shortForm hform
      exact parseString_short hesc hu rest
  | none =>
      obtain ⟨hquote, hslash⟩ := ne_of_shortForm_none hform
      by_cases hcontrol : c.toNat < 32
      · simp only [if_pos hcontrol]
        cases hrest : parseString rest <;>
          simp [parseString, unicodeEscape_control hcontrol, hrest]
      · simp only [if_neg hcontrol]
        exact parseString_plain hquote hslash hcontrol rest

theorem quote_append (s rest : List Char) :
    quote s ++ rest = '"' :: (s.flatMap escapeChar ++ '"' :: rest) := by
  simp [quote]

/-- A quoted string is read back as itself, whatever follows it. -/
theorem parseString_quote (s rest : List Char) :
    parseString (s.flatMap escapeChar ++ '"' :: rest) = some (s, rest) := by
  induction s with
  | nil => simp [parseString]
  | cons c s ih =>
      rw [List.flatMap_cons, List.append_assoc, parseString_escapeChar, ih]
      rfl

/-! ### Numbers

A number has no closing mark.  It ends where the digits do, so what follows it must not
go on with one.
-/

/-- A text that does not go on with a digit. -/
def NoDigit (rest : List Char) : Prop := ∀ c ∈ rest.head?, c.isDigit = false

theorem noDigit_cons {c : Char} {rest : List Char} (h : c.isDigit = false) :
    NoDigit (c :: rest) := by
  intro d hd
  cases hd
  exact h

theorem isDigit_of_mem {n : Nat} {c : Char} (h : c ∈ Nat.toDigits 10 n) : c.isDigit = true :=
  Nat.isDigit_of_mem_toDigits (by omega) (by omega) h

/-- A printed number has no leading zero unless it is zero. -/
theorem toDigits_head (n : Nat) (h : (Nat.toDigits 10 n).head? = some '0') :
    Nat.toDigits 10 n = [ '0'] := by
  induction n using Nat.strongRecOn with
  | _ n ih =>
      by_cases hsmall : n < 10
      · rw [Nat.toDigits_of_lt_base hsmall] at h ⊢
        simpa using h
      · rw [Nat.toDigits_of_base_le (by omega) (by omega)] at h
        rw [List.head?_append_of_ne_nil _ Nat.toDigits_ne_nil] at h
        -- the leading part would be the number zero, so the whole would be below ten
        have hlead := ih (n / 10) (by omega) h
        have hval := Nat.ofDigitChars_ten_toDigits (n := n / 10)
        rw [hlead] at hval
        have : n / 10 = 0 := by rw [← hval]; decide
        omega

theorem span_digits {ds rest : List Char} (hds : ∀ c ∈ ds, c.isDigit = true)
    (hrest : NoDigit rest) :
    (ds ++ rest).takeWhile Char.isDigit = ds ∧ (ds ++ rest).dropWhile Char.isDigit = rest := by
  induction ds with
  | nil =>
      cases rest with
      | nil => exact ⟨rfl, rfl⟩
      | cons c rest =>
          have hc : c.isDigit = false := hrest c rfl
          simp [hc]
  | cons d ds ih =>
      have hd : d.isDigit = true := hds d (by simp)
      obtain ⟨htake, hdrop⟩ := ih fun c hc => hds c (by simp [hc])
      simp [hd, htake, hdrop]

theorem parseNumber_toDigits (n : Nat) {rest : List Char} (hrest : NoDigit rest) :
    parseNumber (Nat.toDigits 10 n ++ rest) = some (n, rest) := by
  obtain ⟨htake, hdrop⟩ := span_digits (fun _ => isDigit_of_mem (n := n)) hrest
  have hzero : ¬ ((Nat.toDigits 10 n).head? = some '0' ∧ Nat.toDigits 10 n ≠ [ '0']) :=
    fun h => h.2 (toDigits_head n h.1)
  have hne : Nat.toDigits 10 n ≠ [] := Nat.toDigits_ne_nil
  simp only [parseNumber, htake, hdrop, Nat.ofDigitChars_ten_toDigits]
  refine if_neg ?_
  simp only [Bool.or_eq_true, Bool.and_eq_true, decide_eq_true_eq]
  rintro (h | h)
  · exact hne h
  · exact hzero h

/-! ### Values -/

@[simp] theorem skipSpace_cons {c : Char} (h : isSpace c = false) (rest : List Char) :
    skipSpace (c :: rest) = c :: rest := by
  simp [skipSpace, h]

/-- No character that opens, joins or closes a value is space. -/
@[simp] theorem isSpace_syntax :
    isSpace 'n' = false ∧ isSpace 't' = false ∧ isSpace 'f' = false ∧ isSpace '"' = false ∧
      isSpace '[' = false ∧ isSpace ']' = false ∧ isSpace '{' = false ∧ isSpace '}' = false ∧
      isSpace ',' = false ∧ isSpace ':' = false := by
  decide

/-- The characters a printed value can start with. -/
def StartsValue (c : Char) : Prop :=
  c = 'n' ∨ c = 't' ∨ c = 'f' ∨ c = '"' ∨ c = '[' ∨ c = '{' ∨ c.isDigit = true

theorem print_head (v : Json) : ∃ c rest, print v = c :: rest ∧ StartsValue c := by
  unfold StartsValue
  match v with
  | .null => exact ⟨_, _, rfl, by simp⟩
  | .bool true => exact ⟨_, _, rfl, by simp⟩
  | .bool false => exact ⟨_, _, rfl, by simp⟩
  | .num n =>
      obtain ⟨c, rest, h⟩ := List.exists_cons_of_ne_nil (Nat.toDigits_ne_nil (n := n) (b := 10))
      exact ⟨c, rest, h, by simp [isDigit_of_mem (n := n) (c := c) (by simp [h])]⟩
  | .str s => exact ⟨_, _, rfl, by simp⟩
  | .arr [] => exact ⟨_, _, rfl, by simp⟩
  | .arr (x :: xs) => exact ⟨_, _, by rw [print], by simp⟩
  | .obj [] => exact ⟨_, _, rfl, by simp⟩
  | .obj ((k, v) :: ms) => exact ⟨_, _, by rw [print], by simp⟩

theorem StartsValue.not_space {c : Char} (h : StartsValue c) : isSpace c = false := by
  rcases h with rfl | rfl | rfl | rfl | rfl | rfl | h
  all_goals try decide
  have : ∀ d : Char, isSpace d = true → d.isDigit = false := by
    intro d hd
    simp only [isSpace, Bool.or_eq_true, decide_eq_true_eq] at hd
    rcases hd with ((rfl | rfl) | rfl) | rfl <;> decide
  cases hs : isSpace c with
  | false => rfl
  | true => rw [this c hs] at h; cases h

theorem StartsValue.ne_close {c : Char} (h : StartsValue c) : c ≠ ']' ∧ c ≠ '}' := by
  constructor
  · rintro rfl
    simp [StartsValue] at h
  · rintro rfl
    simp [StartsValue] at h

theorem print_length_pos (v : Json) : 0 < (print v).length := by
  obtain ⟨c, cs, hprint, -⟩ := print_head v
  simp [hprint]

theorem parseValue_num (n fuel : Nat) {rest : List Char} (hrest : NoDigit rest) :
    parseValue (fuel + 1) (Nat.toDigits 10 n ++ rest) = some (.num n, rest) := by
  obtain ⟨c, ds, h⟩ := List.exists_cons_of_ne_nil (Nat.toDigits_ne_nil (n := n) (b := 10))
  have hc : c.isDigit = true := isDigit_of_mem (n := n) (by simp [h])
  have hspace : isSpace c = false := StartsValue.not_space (by simp [StartsValue, hc])
  have hne : ∀ d : Char, d.isDigit = false → c ≠ d := by
    rintro d hd rfl
    rw [hc] at hd
    cases hd
  have hnum : parseNumber (c :: (ds ++ rest)) = some (n, rest) := by
    rw [← List.cons_append, ← h]
    exact parseNumber_toDigits n hrest
  rw [h, List.cons_append, parseValue]
  simp only [skipSpace_cons hspace]
  rw [if_neg (hne _ (by decide)), if_neg (hne _ (by decide)), if_neg (hne _ (by decide)),
    if_neg (hne _ (by decide)), if_neg (hne _ (by decide)), if_neg (hne _ (by decide)), hnum]
  rfl

theorem noDigit_printItems (xs : List Json) (rest : List Char) :
    NoDigit (printItems xs ++ rest) := by
  cases xs <;> exact noDigit_cons (by decide)

theorem noDigit_printMembers (ms : List (String × Json)) (rest : List Char) :
    NoDigit (printMembers ms ++ rest) := by
  rcases ms with _ | ⟨⟨k, v⟩, ms⟩ <;> exact noDigit_cons (by decide)

mutual

/-- **A printed value parses to itself**, and what follows it is left alone. -/
theorem parseValue_print : ∀ (v : Json) (fuel : Nat) (rest : List Char),
    2 * (print v).length ≤ fuel → NoDigit rest →
      parseValue fuel (print v ++ rest) = some (v, rest)
  | v, 0, rest, hfuel, _ => by
      have := print_length_pos v
      omega
  | .null, fuel + 1, rest, _, _ => by
      simp [print, parseValue, List.dropPrefix?]
  | .bool true, fuel + 1, rest, _, _ => by
      simp [print, parseValue, List.dropPrefix?]
  | .bool false, fuel + 1, rest, _, _ => by
      simp [print, parseValue, List.dropPrefix?]
  | .num n, fuel + 1, rest, _, hrest => by
      rw [print]
      exact parseValue_num n fuel hrest
  | .str s, fuel + 1, rest, _, _ => by
      simp [print, quote_append, parseValue, parseString_quote]
  | .arr [], fuel + 1, rest, _, _ => by
      simp [print, parseValue]
  | .arr (x :: xs), fuel + 1, rest, hfuel, _ => by
      have hitems := parseItems_print x xs fuel rest (by
        simp only [print, List.length_cons, List.length_append] at hfuel ⊢
        omega)
      obtain ⟨c, cs, hprint, hstart⟩ := print_head x
      rw [hprint, List.cons_append] at hitems
      simp [print, parseValue, hprint, hstart.not_space, hstart.ne_close.1, hitems]
  | .obj [], fuel + 1, rest, _, _ => by
      simp [print, parseValue]
  | .obj ((k, v) :: ms), fuel + 1, rest, hfuel, _ => by
      have hmembers := parseMembers_print k v ms fuel rest (by
        simp only [print, List.length_cons, List.length_append] at hfuel ⊢
        omega)
      rw [quote_append] at hmembers
      simp [print, quote_append, parseValue, hmembers]

theorem parseItems_print : ∀ (x : Json) (xs : List Json) (fuel : Nat) (rest : List Char),
    2 * (print x ++ printItems xs).length ≤ fuel →
      parseItems fuel (print x ++ (printItems xs ++ rest)) = some (x :: xs, rest)
  | x, xs, 0, rest, hfuel => by
      have := print_length_pos x
      simp only [List.length_append] at hfuel
      omega
  | x, [], fuel + 1, rest, hfuel => by
      have hx := parseValue_print x fuel (printItems [] ++ rest)
        (by simp only [List.length_append, printItems, List.length_cons] at hfuel; omega)
        (noDigit_printItems [] rest)
      rw [parseItems, hx]
      simp [printItems]
  | x, y :: ys, fuel + 1, rest, hfuel => by
      simp only [List.length_append, printItems, List.length_cons] at hfuel
      have hx := parseValue_print x fuel (printItems (y :: ys) ++ rest) (by omega)
        (noDigit_printItems (y :: ys) rest)
      have hys := parseItems_print y ys fuel rest (by simp only [List.length_append]; omega)
      rw [parseItems, hx]
      simp [printItems, hys]

theorem parseMembers_print : ∀ (k : String) (v : Json) (ms : List (String × Json)) (fuel : Nat)
    (rest : List Char), 2 * (quote k.toList ++ ':' :: (print v ++ printMembers ms)).length ≤ fuel →
      parseMembers fuel (quote k.toList ++ ':' :: (print v ++ (printMembers ms ++ rest)))
        = some ((k, v) :: ms, rest)
  | k, v, ms, 0, rest, hfuel => by
      simp only [List.length_append, List.length_cons] at hfuel
      omega
  | k, v, [], fuel + 1, rest, hfuel => by
      simp only [List.length_append, List.length_cons, printMembers] at hfuel
      have hv := parseValue_print v fuel (printMembers [] ++ rest) (by omega)
        (noDigit_printMembers [] rest)
      simp only [printMembers, List.cons_append, List.nil_append] at hv
      simp [parseMembers, quote_append, parseString_quote, printMembers, hv]
  | k, v, (k', v') :: ms, fuel + 1, rest, hfuel => by
      simp only [List.length_append, List.length_cons, printMembers] at hfuel
      have hv := parseValue_print v fuel (printMembers ((k', v') :: ms) ++ rest) (by omega)
        (noDigit_printMembers _ rest)
      have hms := parseMembers_print k' v' ms fuel rest
        (by simp only [List.length_append, List.length_cons]; omega)
      simp only [printMembers, List.cons_append, List.append_assoc, quote_append] at hv hms
      simp [parseMembers, quote_append, parseString_quote, printMembers, hv, hms]

end

/-- **Round trip.** -/
theorem parse_print (v : Json) : parse (print v) = some v := by
  have h := parseValue_print v (2 * (print v).length) [] (Nat.le_refl _) (by intro c hc; cases hc)
  rw [List.append_nil] at h
  simp [parse, h, skipSpace]

end Json
