/-!
Hexadecimal digits: writing a number with a fixed number of them, and the value
of one. Both cases are read.
-/

namespace AuthRedirect.Text

/-- The digit of a number below 16, with small letters. -/
def hexDigit (n : Nat) : Char :=
  Char.ofNat (if n < 10 then 0x30 + n else 0x57 + n)

/-- The digit of a number below 16, with capital letters. -/
def hexDigitCapital (n : Nat) : Char :=
  Char.ofNat (if n < 10 then 0x30 + n else 0x37 + n)

/-- The last `width` hexadecimal digits of a number, small letters. -/
def hexDigits : Nat → Nat → List Char
  | 0, _ => []
  | width + 1, n => hexDigits width (n / 16) ++ [hexDigit (n % 16)]

/-- The value of a hexadecimal digit of either case. -/
def hexValue? (c : Char) : Option Nat :=
  let code := c.toNat
  if 0x30 ≤ code && code ≤ 0x39 then some (code - 0x30)
  else if 0x41 ≤ code && code ≤ 0x46 then some (code - 0x37)
  else if 0x61 ≤ code && code ≤ 0x66 then some (code - 0x57)
  else none

def isHexDigit (c : Char) : Bool :=
  (hexValue? c).isSome

theorem hexValue?_hexDigit {n : Nat} (small : n < 16) : hexValue? (hexDigit n) = some n :=
  (by decide : ∀ n < 16, hexValue? (hexDigit n) = some n) n small

theorem hexValue?_hexDigitCapital {n : Nat} (small : n < 16) :
    hexValue? (hexDigitCapital n) = some n :=
  (by decide : ∀ n < 16, hexValue? (hexDigitCapital n) = some n) n small

end AuthRedirect.Text
