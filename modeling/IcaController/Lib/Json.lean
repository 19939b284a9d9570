/-
JSON texts: a value type, a printer and a parser.

The printer writes the compact form: no spaces, members in the order given, and
in strings only the escapes the grammar requires (the six short ones, and a
`\u00XX` with upper-case digits for the remaining control characters).  The
parser reads the grammar proper, with white space between any two tokens.

Numbers are the natural numbers, which is all an unsigned format prints.  Texts
are lists of characters: a parser consumes a list from the front, and what is
left is a list again.
-/
import Mathlib.Data.List.Basic

/-- A JSON value whose numbers are natural. -/
inductive Json where
  | null
  | bool (b : Bool)
  | num (n : Nat)
  | str (s : String)
  | arr (items : List Json)
  | obj (members : List (String × Json))

namespace Json

/-! ### Printing

One text a value.  Whoever prints the same members in another order prints another text,
so the order of the members is part of what a printer says.
-/

/-- The upper-case hexadecimal digit of a number below sixteen. -/
def hexDigit (n : Nat) : Char :=
  if n < 10 then Char.ofNat (48 + n) else Char.ofNat (55 + n)

/-- The letter of a character's short escape, if the grammar gives it one to print. -/
def shortForm : Char → Option Char
  | '"' => some '"'
  | '\\' => some '\\'
  | '\x08' => some 'b'
  | '\t' => some 't'
  | '\n' => some 'n'
  | '\x0c' => some 'f'
  | '\r' => some 'r'
  | _ => none

/-- One character of a string, escaped where the grammar requires it. -/
def escapeChar (c : Char) : List Char :=
  match shortForm c with
  | some e => [ '\\', e]
  | none =>
      if c.toNat < 32 then
        [ '\\', 'u', '0', '0', hexDigit (c.toNat / 16), hexDigit (c.toNat % 16)]
      else [c]

/-- A string between its quotes. -/
def quote (s : List Char) : List Char :=
  '"' :: (s.flatMap escapeChar ++ [ '"'])

mutual

/-- The compact text of a value. -/
def print : Json → List Char
  | .null => [ 'n', 'u', 'l', 'l']
  | .bool true => [ 't', 'r', 'u', 'e']
  | .bool false => [ 'f', 'a', 'l', 's', 'e']
  | .num n => Nat.toDigits 10 n
  | .str s => quote s.toList
  | .arr [] => [ '[', ']']
  | .arr (x :: xs) => '[' :: (print x ++ printItems xs)
  | .obj [] => [ '{', '}']
  | .obj ((k, v) :: ms) => '{' :: (quote k.toList ++ ':' :: (print v ++ printMembers ms))

/-- The items of an array after its first, and the closing bracket. -/
def printItems : List Json → List Char
  | [] => [ ']']
  | x :: xs => ',' :: (print x ++ printItems xs)

/-- The members of an object after its first, and the closing brace. -/
def printMembers : List (String × Json) → List Char
  | [] => [ '}']
  | (k, v) :: ms => ',' :: (quote k.toList ++ ':' :: (print v ++ printMembers ms))

end

/-! ### Parsing

Many texts a value: white space, and escapes the printer has no use for, are read too.
Fuel is spent on every nesting and on every further item; each costs the text a
character, so twice its length is enough.
-/

def isSpace (c : Char) : Bool := c = ' ' || c = '\t' || c = '\n' || c = '\r'

/-- Drop the white space in front of the next token. -/
def skipSpace (cs : List Char) : List Char := cs.dropWhile isSpace

/-- The value of a hexadecimal digit, of either case. -/
def hexValue (c : Char) : Option Nat :=
  if c.isDigit then some (c.toNat - 48)
  else if 'A' ≤ c ∧ c ≤ 'F' then some (c.toNat - 55)
  else if 'a' ≤ c ∧ c ≤ 'f' then some (c.toNat - 87)
  else none

/-- The character of a `\u` escape; a surrogate half is not one. -/
def unicodeEscape (a b c d : Char) : Option Char := do
  let n := 4096 * (← hexValue a) + 256 * (← hexValue b) + 16 * (← hexValue c) + (← hexValue d)
  if n.isValidChar then some (Char.ofNat n) else none

/-- The character a short escape stands for. -/
def shortEscape : Char → Option Char
  | '"' => some '"'
  | '\\' => some '\\'
  | '/' => some '/'
  | 'b' => some '\x08'
  | 't' => some '\t'
  | 'n' => some '\n'
  | 'f' => some '\x0c'
  | 'r' => some '\r'
  | _ => none

/-- The rest of a string after its opening quote, and what follows the closing one. -/
def parseString : List Char → Option (List Char × List Char)
  | [] => none
  | '"' :: rest => some ([], rest)
  | '\\' :: 'u' :: a :: b :: c :: d :: rest => do
      let x ← unicodeEscape a b c d
      let (s, rest) ← parseString rest
      return (x :: s, rest)
  | '\\' :: e :: rest => do
      let x ← shortEscape e
      let (s, rest) ← parseString rest
      return (x :: s, rest)
  | c :: rest =>
      if c.toNat < 32 || c = '\\' then none
      else do
        let (s, rest) ← parseString rest
        return (c :: s, rest)

/-- A decimal number without superfluous leading zeros, and what follows it. -/
def parseNumber (cs : List Char) : Option (Nat × List Char) :=
  let digits := cs.takeWhile Char.isDigit
  if digits = [] || (digits.head? = some '0' && digits ≠ [ '0']) then none
  else some (Nat.ofDigitChars 10 digits 0, cs.dropWhile Char.isDigit)

mutual

/-- A value, after any white space, and what follows it. -/
def parseValue : Nat → List Char → Option (Json × List Char)
  | 0, _ => none
  | fuel + 1, cs =>
      match skipSpace cs with
      | [] => none
      | c :: rest =>
          if c = '"' then do
            let (s, rest) ← parseString rest
            return (.str (String.ofList s), rest)
          else if c = '[' then
            match skipSpace rest with
            | ']' :: rest => some (.arr [], rest)
            | rest => do
                let (xs, rest) ← parseItems fuel rest
                return (.arr xs, rest)
          else if c = '{' then
            match skipSpace rest with
            | '}' :: rest => some (.obj [], rest)
            | rest => do
                let (ms, rest) ← parseMembers fuel rest
                return (.obj ms, rest)
          else if c = 'n' then (rest.dropPrefix? [ 'u', 'l', 'l']).map (Json.null, ·)
          else if c = 't' then (rest.dropPrefix? [ 'r', 'u', 'e']).map (Json.bool true, ·)
          else if c = 'f' then (rest.dropPrefix? [ 'a', 'l', 's', 'e']).map (Json.bool false, ·)
          else do
            let (n, rest) ← parseNumber (c :: rest)
            return (.num n, rest)

/-- One or more array items, up to and including the closing bracket. -/
def parseItems : Nat → List Char → Option (List Json × List Char)
  | 0, _ => none
  | fuel + 1, cs => do
      let (x, rest) ← parseValue fuel cs
      match skipSpace rest with
      | ']' :: rest => return ([x], rest)
      | ',' :: rest =>
          let (xs, rest) ← parseItems fuel rest
          return (x :: xs, rest)
      | _ => none

/-- One or more object members, up to and including the closing brace. -/
def parseMembers : Nat → List Char → Option (List (String × Json) × List Char)
  | 0, _ => none
  | fuel + 1, cs =>
      match skipSpace cs with
      | '"' :: rest => do
          let (k, rest) ← parseString rest
          match skipSpace rest with
          | ':' :: rest =>
              let (v, rest) ← parseValue fuel rest
              match skipSpace rest with
              | '}' :: rest => return ([(String.ofList k, v)], rest)
              | ',' :: rest =>
                  let (ms, rest) ← parseMembers fuel rest
                  return ((String.ofList k, v) :: ms, rest)
              | _ => none
          | _ => none
      | _ => none

end

/-- The value a whole text spells, with white space allowed around it. -/
def parse (cs : List Char) : Option Json :=
  match parseValue (2 * cs.length) cs with
  | some (v, rest) => if skipSpace rest = [] then some v else none
  | none => none

/-- The first member of an object with the given name. -/
def member? (name : String) : List (String × Json) → Option Json
  | [] => none
  | (k, v) :: ms => if k = name then some v else member? name ms

@[simp] theorem member?_nil (name : String) : member? name [] = none := rfl

@[simp] theorem member?_self (name : String) (v : Json) (ms : List (String × Json)) :
    member? name ((name, v) :: ms) = some v :=
  if_pos rfl

@[simp] theorem member?_of_ne {k name : String} (h : k ≠ name) (v : Json)
    (ms : List (String × Json)) :
    member? name ((k, v) :: ms) = member? name ms :=
  if_neg h

end Json
