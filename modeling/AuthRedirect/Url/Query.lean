import AuthRedirect.Text.Hex
import AuthRedirect.Text.Search
import AuthRedirect.Text.Utf8

/-!
The parameters in the query of a URL. Names and values are written in percent
encoding, byte by byte in UTF-8. Reading is lenient: a percent sign that no two
digits follow stands for itself, a plus sign for a space, and bytes that make no
character for U+FFFD.
-/

namespace AuthRedirect.Url

open AuthRedirect.Text

/-- A name and its value. -/
abbrev Parameter := List Char × List Char

/-! ## Writing -/

/-- The characters that are written as themselves. -/
def isUnreserved (c : Char) : Bool :=
  c.isAlphanum || c == '_' || c == '.' || c == '-' || c == '~'

/-- A byte as a percent sign and two digits. -/
def percentByte (byte : UInt8) : List Char :=
  ['%', hexDigitCapital (byte.toNat / 16), hexDigitCapital (byte.toNat % 16)]

/-- One character in percent encoding. -/
def percentChar (c : Char) : List Char :=
  if isUnreserved c then [c] else (String.utf8EncodeChar c).flatMap percentByte

/-- A name or a value in percent encoding. -/
def percentEncode (s : List Char) : List Char :=
  s.flatMap percentChar

/-- One parameter of a query. -/
def parameterText (parameter : Parameter) : List Char :=
  percentEncode parameter.1 ++ '=' :: percentEncode parameter.2

/-- The query that holds the parameters. -/
def queryText (parameters : List Parameter) : List Char :=
  ['&'].intercalate (parameters.map parameterText)

/-! ## Reading -/

/-- What a name or a value is made of: a byte, written in ASCII or in percent
encoding, or a character beyond ASCII. -/
inductive Piece where
  | byte (value : UInt8)
  | char (value : Char)
deriving DecidableEq, Repr

/-- A character that stands for itself. -/
def literal (c : Char) : Piece :=
  if c.toNat < 0x80 then .byte (UInt8.ofNat c.toNat) else .char c

/-- The byte that two digits after a percent sign stand for. -/
def byteOf? (high low : Char) : Option UInt8 :=
  match hexValue? high, hexValue? low with
  | some high, some low => some (UInt8.ofNat (high * 16 + low))
  | _, _ => none

/-- The pieces of a name or a value. -/
def pieces : List Char → List Piece
  | '%' :: high :: low :: rest =>
      match byteOf? high low with
      | some byte => .byte byte :: pieces rest
      | none => literal '%' :: pieces (high :: low :: rest)
  | c :: rest => literal c :: pieces rest
  | [] => []

/-- The text of pieces that follow pending bytes. A character beyond ASCII ends
what was pending. -/
def readPieces (pending : Option Utf8.Pending) : List Piece → RawText
  | [] => Utf8.finish pending
  | .byte value :: rest =>
      (Utf8.step pending value.toNat).1 ++ readPieces (Utf8.step pending value.toNat).2 rest
  | .char value :: rest => Utf8.finish pending ++ some value :: readPieces none rest

/-- The text that percent encoding stands for. -/
def percentDecode (s : List Char) : List Char :=
  RawText.lossy (readPieces none (pieces s))

/-- A name or a value as it stands in a query. -/
def readComponent (s : List Char) : List Char :=
  percentDecode (s.map fun c => if c = '+' then ' ' else c)

/-- One parameter: what stands before the first `=`, and what stands after it. -/
def readParameter (s : List Char) : Parameter :=
  let (name, value) := cutFirst '=' s
  (readComponent name, readComponent (value.getD []))

/-- The parameters of a query, in order. Empty pieces are no parameters. -/
def parameters (query : List Char) : List Parameter :=
  ((query.splitOn '&').filter fun piece => !piece.isEmpty).map readParameter

end AuthRedirect.Url
