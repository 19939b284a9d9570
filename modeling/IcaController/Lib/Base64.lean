/-
Base64 with the standard alphabet and padding.

Decoding inverts encoding: a digit is read back by its value, a group of digits by
the arithmetic of its bits, and a whole text group after group.
-/
import IcaController.Lib.Codec
import IcaController.Lib.Protobuf

namespace Base64

/-- The digit of a number below sixty-four. -/
def digit (n : Nat) : Char :=
  if n < 26 then Char.ofNat (65 + n)
  else if n < 52 then Char.ofNat (71 + n)
  else if n < 62 then Char.ofNat (n - 4)
  else if n = 62 then '+'
  else '/'

/-- The text of a byte sequence: four digits for three bytes, the last group padded. -/
def encode : Bytes → List Char
  | [] => []
  | [a] => [digit (a.toNat / 4), digit (a.toNat % 4 * 16), '=', '=']
  | [a, b] =>
      [digit (a.toNat / 4), digit (a.toNat % 4 * 16 + b.toNat / 16),
        digit (b.toNat % 16 * 4), '=']
  | a :: b :: c :: rest =>
      digit (a.toNat / 4) :: digit (a.toNat % 4 * 16 + b.toNat / 16) ::
        digit (b.toNat % 16 * 4 + c.toNat / 64) :: digit (c.toNat % 64) :: encode rest

/-- The number a digit stands for. -/
def value (c : Char) : Option Nat :=
  if c.isUpper then some (c.toNat - 65)
  else if c.isLower then some (c.toNat - 71)
  else if c.isDigit then some (c.toNat + 4)
  else if c = '+' then some 62
  else if c = '/' then some 63
  else none

/-- The bytes a text stands for.  The unused low bits of a padded group must be zero. -/
def decode : List Char → Option Bytes
  | [] => some []
  | [a, b, '=', '='] => do
      let x ← value a
      let y ← value b
      if y % 16 = 0 then some [UInt8.ofNat (x * 4 + y / 16)] else none
  | [a, b, c, '='] => do
      let x ← value a
      let y ← value b
      let z ← value c
      if z % 4 = 0 then
        some [UInt8.ofNat (x * 4 + y / 16), UInt8.ofNat (y % 16 * 16 + z / 4)]
      else none
  | a :: b :: c :: d :: rest => do
      let x ← value a
      let y ← value b
      let z ← value c
      let w ← value d
      let bytes ← decode rest
      return UInt8.ofNat (x * 4 + y / 16) :: UInt8.ofNat (y % 16 * 16 + z / 4) ::
        UInt8.ofNat (z % 4 * 64 + w) :: bytes
  | _ => none

/-! ### Reading back -/

theorem value_digit : ∀ n, n < 64 → value (digit n) = some n := by decide

theorem digit_ne_pad : ∀ n, n < 64 → digit n ≠ '=' := by decide

/-- A group of four digits, none of them padding, is followed by the rest of the text. -/
theorem decode_group {a b c d : Char} (hd : d ≠ '=') (rest : List Char) :
    decode (a :: b :: c :: d :: rest) = do
      let x ← value a
      let y ← value b
      let z ← value c
      let w ← value d
      let bytes ← decode rest
      return UInt8.ofNat (x * 4 + y / 16) :: UInt8.ofNat (y % 16 * 16 + z / 4) ::
        UInt8.ofNat (z % 4 * 64 + w) :: bytes := by
  rw [decode]
  · intro _ h
    exact absurd h hd
  · intro h
    exact absurd h hd

/-- **Decoding inverts encoding.** -/
theorem decode_encode (bytes : Bytes) : decode (encode bytes) = some bytes := by
  induction bytes using encode.induct with
  | case1 => rfl
  | case2 a =>
      have ha := a.toNat_lt
      have hlow : a.toNat % 4 * 16 % 16 = 0 := by omega
      have hbyte : a.toNat / 4 * 4 + a.toNat % 4 * 16 / 16 = a.toNat := by omega
      rw [encode, decode, value_digit _ (by omega), value_digit _ (by omega)]
      simp only [Option.bind_eq_bind, Option.bind_some, hlow, hbyte, if_true, UInt8.ofNat_toNat]
  | case3 a b =>
      have ha := a.toNat_lt
      have hb := b.toNat_lt
      have hlow : b.toNat % 16 * 4 % 4 = 0 := by omega
      have hfirst : a.toNat / 4 * 4 + (a.toNat % 4 * 16 + b.toNat / 16) / 16 = a.toNat := by omega
      have hsecond : (a.toNat % 4 * 16 + b.toNat / 16) % 16 * 16 + b.toNat % 16 * 4 / 4 =
          b.toNat := by omega
      rw [encode, decode, value_digit _ (by omega), value_digit _ (by omega),
        value_digit _ (by omega)]
      · simp only [Option.bind_eq_bind, Option.bind_some, hlow, hfirst, hsecond, if_true,
          UInt8.ofNat_toNat]
      · exact digit_ne_pad _ (by omega)
  | case4 a b c rest ih =>
      have ha := a.toNat_lt
      have hb := b.toNat_lt
      have hc := c.toNat_lt
      have hfirst : a.toNat / 4 * 4 + (a.toNat % 4 * 16 + b.toNat / 16) / 16 = a.toNat := by omega
      have hsecond : (a.toNat % 4 * 16 + b.toNat / 16) % 16 * 16 +
          (b.toNat % 16 * 4 + c.toNat / 64) / 4 = b.toNat := by omega
      have hthird : (b.toNat % 16 * 4 + c.toNat / 64) % 4 * 64 + c.toNat % 64 = c.toNat := by
        omega
      rw [encode, decode_group (digit_ne_pad _ (by omega)), ih, value_digit _ (by omega),
        value_digit _ (by omega), value_digit _ (by omega), value_digit _ (by omega)]
      simp only [Option.bind_eq_bind, Option.bind_some, Option.pure_def, hfirst, hsecond, hthird,
        UInt8.ofNat_toNat]

/-- Different bytes have different texts. -/
theorem encode_injective : Function.Injective encode := by
  have hreads : Reads decode encode := decode_encode
  exact hreads.injective

example :
    encode [104, 105] = [ 'a', 'G', 'k', '='] ∧ decode (encode [104, 105]) = some [104, 105] := by
  decide

end Base64
