import AuthRedirect.Text.Decimal
import AuthRedirect.Text.Hex
import AuthRedirect.Text.Search

/-!
The written form of an IPv6 address: eight groups of one to four hexadecimal
digits, of which one run may be left out as `::`. The last two groups may be
written as a dotted IPv4 address, and a zone may follow a percent sign.
-/

namespace AuthRedirect.Url.Ip6

open AuthRedirect.Text

/-- One group of an address. -/
def isGroup (s : List Char) : Bool :=
  !s.isEmpty && s.length ≤ 4 && s.all isHexDigit

/-- One part of a dotted address: a number up to 255 without leading zeros. -/
def isOctet (s : List Char) : Bool :=
  isDecimal s && s.length ≤ 3 && (s == ['0'] || s.head? != some '0') && decimalValue s ≤ 255

/-- A dotted address of four numbers. -/
def isDottedQuad (s : List Char) : Bool :=
  (s.splitOn '.').length == 4 && (s.splitOn '.').all isOctet

/-- The parts between colons. A dotted tail stands for two groups, and makes the
address invalid when it is no dotted address. -/
def parts? (s : List Char) : Option (List (List Char)) :=
  let parts := s.splitOn ':'
  let tail := parts.getLastD []
  if !tail.contains '.' then some parts
  else if isDottedQuad tail then some (parts.dropLast ++ [['0'], ['0']])
  else none

/-- All eight groups are written. -/
def isComplete (parts : List (List Char)) : Bool :=
  parts.length == 8 && parts.all isGroup

/-- One side of `::`: groups, or nothing, which leaves one empty part. -/
def isSide (parts : List (List Char)) : Bool :=
  parts == [[]] || (!parts.isEmpty && parts.all isGroup)

/-- The number of groups among the parts of one side. -/
def groupCount (parts : List (List Char)) : Nat :=
  parts.countP fun part => !part.isEmpty

/-- At least one group is left out: after the first part comes an empty one, and
both sides of it are groups or nothing. -/
def isShortened : List (List Char) → Bool
  | [] => false
  | first :: rest =>
      let left := first :: rest.takeWhile fun part => !part.isEmpty
      let right := (rest.dropWhile fun part => !part.isEmpty).drop 1
      isSide left && isSide right && groupCount left + groupCount right ≤ 7

/-- A zone is not empty and holds no percent sign. -/
def isZone (s : List Char) : Bool :=
  !s.isEmpty && !s.contains '%'

/-- Whether a text is a written IPv6 address. -/
def isAddress (s : List Char) : Bool :=
  let (address, zone) := cutFirst '%' s
  zone.all isZone &&
    match parts? address with
    | some parts => isComplete parts || isShortened parts
    | none => false

end AuthRedirect.Url.Ip6
