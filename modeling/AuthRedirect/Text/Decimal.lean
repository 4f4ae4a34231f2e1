/-!
Numbers in decimal: the digits of a number, and the number that digits stand for.
-/

namespace AuthRedirect.Text

/-- The number that a list of digits stands for, given what stands before it. -/
def decimalAfter (front : Nat) : List Char → Nat
  | [] => front
  | c :: rest => decimalAfter (front * 10 + (c.toNat - '0'.toNat)) rest

/-- The number that a list of digits stands for. -/
def decimalValue (s : List Char) : Nat :=
  decimalAfter 0 s

/-- Whether a text consists of one or more ASCII digits. -/
def isDecimal (s : List Char) : Bool :=
  !s.isEmpty && s.all Char.isDigit

/-- The digits of a number, without leading zeros. -/
def decimalDigits (n : Nat) : List Char :=
  Nat.toDigits 10 n

/-- The digits of a whole number, after a minus sign when it is negative. -/
def decimalInt : Int → List Char
  | .ofNat n => decimalDigits n
  | .negSucc n => '-' :: decimalDigits (n + 1)

/-- Whether a number has no more digits than a limit allows. Without a limit every
number does. -/
def fitsDigits (limit : Option Nat) (n : Nat) : Bool :=
  limit.all fun most => (decimalDigits n).length ≤ most

end AuthRedirect.Text
