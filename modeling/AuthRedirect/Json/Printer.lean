import AuthRedirect.Json.Basic
import AuthRedirect.Text.Hex

/-!
Writing JSON without blanks. Documents show every character that the format
allows as itself; log records are confined to printable ASCII. The two differ in the
escape of one character only.
-/

namespace AuthRedirect.Json

open AuthRedirect.Text

/-! ## One character -/

/-- The escapes of one letter. -/
def shortEscape? (c : Char) : Option Char :=
  if c = '"' then some '"'
  else if c = '\\' then some '\\'
  else if c = '\x08' then some 'b'
  else if c = '\x0c' then some 'f'
  else if c = '\n' then some 'n'
  else if c = '\r' then some 'r'
  else if c = '\t' then some 't'
  else none

/-- A code unit as an escape of four digits. -/
def unitEscape (unit : Nat) : List Char :=
  '\\' :: 'u' :: hexDigits 4 unit

/-- A character as escapes: a pair of surrogates beyond U+FFFF. -/
def wideEscape (c : Char) : List Char :=
  if c.toNat < 0x10000 then unitEscape c.toNat
  else
    unitEscape (0xD800 + (c.toNat - 0x10000) / 0x400) ++
      unitEscape (0xDC00 + (c.toNat - 0x10000) % 0x400)

/-- A character of a document: controls are escaped. -/
def escape (c : Char) : List Char :=
  match shortEscape? c with
  | some letter => ['\\', letter]
  | none => if c.toNat < 0x20 then unitEscape c.toNat else [c]

/-- A character of a log record: all but the printable characters of ASCII are
escaped. -/
def asciiEscape (c : Char) : List Char :=
  match shortEscape? c with
  | some letter => ['\\', letter]
  | none => if c.toNat < 0x20 || 0x7F ≤ c.toNat then wideEscape c else [c]

/-! ## Values -/

/-- A string between quotation marks. -/
def quote (escape : Char → List Char) (s : String) : List Char :=
  '"' :: s.toList.flatMap escape ++ ['"']

mutual

/-- The text of a value. -/
def render (escape : Char → List Char) : Json → List Char
  | .null => "null".toList
  | .bool true => "true".toList
  | .bool false => "false".toList
  | .int value => decimalInt value
  | .decimal mantissa exponent => decimalInt mantissa ++ 'e' :: decimalInt exponent
  | .str text => quote escape text
  | .arr [] => ['[', ']']
  | .arr (item :: items) => '[' :: render escape item ++ renderItems escape items
  | .obj [] => ['\x7b', '\x7d']
  | .obj ((name, value) :: members) =>
      '\x7b' :: quote escape name ++ ':' :: render escape value ++ renderMembers escape members

/-- The items after the first, and the end of the array. -/
def renderItems (escape : Char → List Char) : List Json → List Char
  | [] => [']']
  | item :: items => ',' :: render escape item ++ renderItems escape items

/-- The members after the first, and the end of the object. -/
def renderMembers (escape : Char → List Char) : Members → List Char
  | [] => ['\x7d']
  | (name, value) :: members =>
      ',' :: quote escape name ++ ':' :: render escape value ++ renderMembers escape members

end

/-- The value as a document. -/
def documentText (value : Json) : String :=
  String.ofList (value.render escape)

/-- The value as a log record. -/
def asciiText (value : Json) : String :=
  String.ofList (value.render asciiEscape)

end AuthRedirect.Json
