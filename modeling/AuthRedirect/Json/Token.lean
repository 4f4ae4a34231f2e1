import AuthRedirect.Json.Basic
import AuthRedirect.Text.Hex
import AuthRedirect.Text.Utf8

/-!
The tokens of a JSON text. The text is read one symbol at a time by a machine
whose `Mode` says what has been read of the token at hand. A token ends where it
cannot go on, so tokens need no blanks between them. What is no token becomes
the token `invalid`, and a reader stops there; which tokens come after it means
nothing. A number stays as it is written: which numbers are too large is for the
reader to say.
-/

namespace AuthRedirect.Json

open AuthRedirect.Text

/-! ## Numbers -/

/-- Where in a number the machine stands. -/
inductive Place where
  | sign
  | zero
  | whole
  | point
  | fraction
  | mark
  | markSign
  | exponent
deriving DecidableEq, Repr

/-- What has been read of a number: its digits, how many of them follow the
point, and the exponent. -/
structure Numeral where
  place : Place
  negative : Bool
  digits : Nat
  fractionDigits : Nat
  exponentNegative : Bool
  exponent : Nat
deriving DecidableEq, Repr

namespace Numeral

/-- A number of which nothing but a minus sign has been read. -/
def minus : Numeral := ⟨.sign, true, 0, 0, false, 0⟩

/-- A number of which one digit has been read. -/
def ofDigit (digit : Nat) : Numeral :=
  ⟨if digit = 0 then .zero else .whole, false, digit, 0, false, 0⟩

/-- Whether a number may end here. -/
def mayEnd (n : Numeral) : Bool :=
  match n.place with
  | .zero | .whole | .fraction | .exponent => true
  | .sign | .point | .mark | .markSign => false

/-- The exponent from which on digits are no longer read. -/
def exponentBound : Nat := 10000

/-- An exponent with one more digit. Digits after the first that bring it to the
bound change nothing. -/
def extend (exponent digit : Nat) : Nat :=
  if exponent < exponentBound then exponent * 10 + digit else exponent

/-- The number with one more digit. A whole part has no leading zero. -/
def addDigit? (n : Numeral) (digit : Nat) : Option Numeral :=
  match n.place with
  | .sign => some { n with place := if digit = 0 then .zero else .whole, digits := digit }
  | .zero => none
  | .whole => some { n with digits := n.digits * 10 + digit }
  | .point | .fraction =>
      some { n with
        place := .fraction
        digits := n.digits * 10 + digit
        fractionDigits := n.fractionDigits + 1 }
  | .mark | .markSign | .exponent =>
      some { n with place := .exponent, exponent := extend n.exponent digit }

/-- The number with one more character, if the character can be part of it. -/
def add? (n : Numeral) (c : Char) : Option Numeral :=
  if c.isDigit then n.addDigit? (c.toNat - '0'.toNat)
  else match n.place with
    | .zero | .whole =>
        if c = '.' then some { n with place := .point }
        else if c = 'e' ∨ c = 'E' then some { n with place := .mark }
        else none
    | .fraction => if c = 'e' ∨ c = 'E' then some { n with place := .mark } else none
    | .mark =>
        if c = '+' then some { n with place := .markSign }
        else if c = '-' then some { n with place := .markSign, exponentNegative := true }
        else none
    | _ => none

/-- Whether a number is written as a whole number. -/
def isWhole (n : Numeral) : Bool :=
  match n.place with
  | .zero | .whole => true
  | _ => false

/-- The digits with their sign. -/
def mantissa (n : Numeral) : Int :=
  if n.negative then -(n.digits : Int) else n.digits

/-- The power of ten that the digits are multiplied by. -/
def scale (n : Numeral) : Int :=
  (if n.exponentNegative then -(n.exponent : Int) else n.exponent) - n.fractionDigits

/-- The least size that is out of range: it is halfway between the largest
number of double precision and the next power of two. -/
def limit : Nat := (Nat.pow 2 54 - 1) * Nat.pow 2 970

/-- Whether the number is out of the range of double precision. The limit has 309
digits before the point, so only a number with as many is compared with it. -/
def isOutOfRange (n : Numeral) : Bool :=
  let length : Int := (decimalDigits n.digits).length + n.scale
  if n.digits = 0 ∨ length < 309 then false
  else if 309 < length then true
  else limit * Nat.pow 10 (-n.scale).toNat ≤ n.digits * Nat.pow 10 n.scale.toNat

/-- The most characters of a whole number, its sign among them, that are read as
a value. -/
def maxWholeLength : Nat := 4300

/-- Whether a whole number has too many characters. -/
def isLong (n : Numeral) : Bool :=
  maxWholeLength < (decimalDigits n.digits).length + (if n.negative then 1 else 0)

/-- The value of a number, if it has one: whole numbers may have any size up to
a great length, and others are confined to the range of double precision. -/
def value? (n : Numeral) : Option Json :=
  if n.isWhole then if n.isLong then none else some (.int n.mantissa)
  else if n.isOutOfRange then none
  else some (.decimal n.mantissa n.scale)

/-- Whether the number is whole and fits a machine word, signed or not. -/
def fitsWord (n : Numeral) : Bool :=
  n.isWhole && -0x8000000000000000 ≤ n.mantissa && n.mantissa < 0x10000000000000000

/-- The kind of a number where none is wanted: a whole number that fits no
machine word counts as a decimal. A number out of range has no kind. -/
def kind? (n : Numeral) : Option Kind :=
  if n.fitsWord then some .int
  else if n.isOutOfRange then none
  else some .decimal

end Numeral

/-! ## Tokens -/

/-- A token. The text of a string may have gaps. -/
inductive Token where
  | openArray
  | closeArray
  | openObject
  | closeObject
  | comma
  | colon
  | atom (value : Json)
  | number (n : Numeral)
  | text (read : RawText)
  | invalid

/-- The token of a number that has ended. -/
def Numeral.token (n : Numeral) : Token :=
  if n.mayEnd then .number n else .invalid

/-! ## Strings -/

/-- Where in an escape of a string the machine stands. `digits` counts the
digits that are still to come; a surrogate that opens a pair is kept until the
other one is read. -/
inductive Escape where
  | none
  | started
  | digits (left value : Nat) (high : Option Nat)
  | awaitingLow (high : Nat)
  | awaitingLowMark (high : Nat)
deriving DecidableEq, Repr

/-- What one symbol does to a string: it goes on, it ends, or it is spoilt. -/
inductive StringStep where
  | more (read : RawText) (escape : Escape)
  | ended (read : RawText)
  | spoilt

/-- The character that an escape of one letter stands for. -/
def unescape? (c : Char) : Option Char :=
  if c = '"' ∨ c = '\\' ∨ c = '/' then some c
  else if c = 'b' then some '\x08'
  else if c = 'f' then some '\x0c'
  else if c = 'n' then some '\n'
  else if c = 'r' then some '\r'
  else if c = 't' then some '\t'
  else none

/-- A code unit that an escape of four digits stands for. Surrogates are read in
pairs, the high one first. -/
def addUnit (read : RawText) (unit : Nat) (high : Option Nat) : StringStep :=
  match high with
  | none =>
      if unit < 0xD800 ∨ 0xDFFF < unit then .more (some (Char.ofNat unit) :: read) .none
      else if unit < 0xDC00 then .more read (.awaitingLow unit)
      else .spoilt
  | some high =>
      if 0xDC00 ≤ unit ∧ unit ≤ 0xDFFF then
        let code := 0x10000 + (high - 0xD800) * 0x400 + (unit - 0xDC00)
        .more (some (Char.ofNat code) :: read) .none
      else .spoilt

/-- One symbol of a string, of which `read` has been read, the last symbol first. -/
def stringStep (read : RawText) : Escape → Option Char → StringStep
  | .none, none => .more (none :: read) .none
  | .none, some c =>
      if c = '"' then .ended read.reverse
      else if c = '\\' then .more read .started
      else if c.toNat < 0x20 then .spoilt
      else .more (some c :: read) .none
  | _, none => .spoilt
  | .started, some c =>
      if c = 'u' then .more read (.digits 3 0 none)
      else match unescape? c with
        | some meant => .more (some meant :: read) .none
        | none => .spoilt
  | .digits left value high, some c =>
      match hexValue? c, left with
      | none, _ => .spoilt
      | some digit, 0 => addUnit read (value * 16 + digit) high
      | some digit, left + 1 => .more read (.digits left (value * 16 + digit) high)
  | .awaitingLow high, some c => if c = '\\' then .more read (.awaitingLowMark high) else .spoilt
  | .awaitingLowMark high, some c =>
      if c = 'u' then .more read (.digits 3 0 (some high)) else .spoilt

/-! ## The machine -/

/-- What has been read of the token at hand: nothing, a word with letters still
to come, a number, or a string. -/
inductive Mode where
  | between
  | word (next : Char) (later : List Char) (value : Json)
  | number (n : Numeral)
  | string (read : RawText) (escape : Escape)

/-- The first symbol of a token, or a blank. -/
def begin : Option Char → List Token × Mode
  | none => ([.invalid], .between)
  | some c =>
      if c = ' ' ∨ c = '\t' ∨ c = '\n' ∨ c = '\r' then ([], .between)
      else if c = '[' then ([.openArray], .between)
      else if c = ']' then ([.closeArray], .between)
      else if c = '\x7b' then ([.openObject], .between)
      else if c = '\x7d' then ([.closeObject], .between)
      else if c = ',' then ([.comma], .between)
      else if c = ':' then ([.colon], .between)
      else if c = '"' then ([], .string [] .none)
      else if c = '-' then ([], .number .minus)
      else if c.isDigit then ([], .number (.ofDigit (c.toNat - '0'.toNat)))
      else if c = 'n' then ([], .word 'u' ['l', 'l'] .null)
      else if c = 't' then ([], .word 'r' ['u', 'e'] (.bool true))
      else if c = 'f' then ([], .word 'a' ['l', 's', 'e'] (.bool false))
      else ([.invalid], .between)

/-- One symbol. A number ends before a symbol that cannot be part of it, unless
a digit follows a leading zero. -/
def step : Mode → Option Char → List Token × Mode
  | .between, symbol => begin symbol
  | .word next later value, symbol =>
      if symbol = some next then
        match later with
        | [] => ([.atom value], .between)
        | next :: later => ([], .word next later value)
      else ([.invalid], .between)
  | .number n, symbol =>
      match symbol.bind n.add? with
      | some longer => ([], .number longer)
      | none =>
          if symbol.any Char.isDigit then ([.invalid], .between)
          else (n.token :: (begin symbol).1, (begin symbol).2)
  | .string read escape, symbol =>
      match stringStep read escape symbol with
      | .more read escape => ([], .string read escape)
      | .ended read => ([.text read], .between)
      | .spoilt => ([.invalid], .between)

/-- What the end of the text adds. -/
def finish : Mode → List Token
  | .between => []
  | .word _ _ _ => [.invalid]
  | .number n => [n.token]
  | .string _ _ => [.invalid]

/-- The tokens of a text that follows what the mode says. -/
def tokensAfter (mode : Mode) : RawText → List Token
  | [] => finish mode
  | symbol :: rest => (step mode symbol).1 ++ tokensAfter (step mode symbol).2 rest

/-- The tokens of a text. -/
def tokens (s : RawText) : List Token :=
  tokensAfter .between s

/-- What no symbol of a text breaks holds of all its tokens. -/
theorem forall_mem_tokensAfter {Holds : Token → Prop} {Keeps : Mode → Prop} {s : RawText}
    (steps : ∀ symbol ∈ s, ∀ mode, Keeps mode →
      (∀ token ∈ (step mode symbol).1, Holds token) ∧ Keeps (step mode symbol).2)
    (ends : ∀ mode, Keeps mode → ∀ token ∈ finish mode, Holds token)
    {mode : Mode} (kept : Keeps mode) : ∀ token ∈ tokensAfter mode s, Holds token := by
  induction s generalizing mode with
  | nil => exact ends mode kept
  | cons symbol rest ih =>
      obtain ⟨tokens, left⟩ := steps symbol List.mem_cons_self mode kept
      intro token among
      rcases List.mem_append.mp among with here | later
      · exact tokens token here
      · exact ih (fun symbol inside => steps symbol (List.mem_cons_of_mem _ inside)) left
          token later

end AuthRedirect.Json
