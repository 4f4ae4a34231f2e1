import AuthRedirect.Text.Lowercase
import AuthRedirect.Url.Ip6

/-!
The authority of a URL, `user@host:port`: which authorities are refused, and how
the host and the port are read from one that is not.
-/

namespace AuthRedirect.Url

open AuthRedirect.Text

/-! ## Refused authorities -/

/-- Characters that look like a delimiter of a URL, and become one when
compatibility characters are replaced by what they stand for. -/
def lookalikes : List Char := [
  '\u2047', '\u2048', '\u2049', '\u2100', '\u2101', '\u2105', '\u2106', '\u2a74', '\ufe13',
  '\ufe16', '\ufe55', '\ufe56', '\ufe5f', '\ufe6b', '\uff03', '\uff0f', '\uff1a', '\uff1f',
  '\uff20']

/-- A host of a future kind after its `v`: a hexadecimal version, a point, and
at least one character. -/
def isFutureHost (version : List Char) : Bool :=
  !(version.takeWhile isHexDigit).isEmpty &&
    match version.dropWhile isHexDigit with
    | '.' :: _ :: _ => true
    | _ => false

/-- What may stand in brackets: an IPv6 address, or a host of a future kind. -/
def isBracketedHost : List Char → Bool
  | 'v' :: version => isFutureHost version
  | host => Ip6.isAddress host

/-- The host and the port of an authority as written; a port left out is empty.
After the last `@` a host in brackets ends at the closing one, any other at the
first colon. -/
def hostAndPort (authority : List Char) : List Char × List Char :=
  let place := afterLast '@' authority
  match cutFirst '[' place with
  | (_, some bracketed) =>
      let (host, tail) := cutFirst ']' bracketed
      (host, (cutFirst ':' (tail.getD [])).2.getD [])
  | (_, none) =>
      let (host, port) := cutFirst ':' place
      (host, port.getD [])

/-- Brackets come in pairs. With brackets, what stands where the host is must be
fit for them, nothing stands before the opening one, and after the closing one
nothing or a colon. -/
def hasSoundBrackets (authority : List Char) : Bool :=
  if authority.contains '[' != authority.contains ']' then false
  else if !authority.contains '[' then true
  else
    let place := afterLast '@' authority
    let bracketsFit := match cutFirst '[' place with
      | (before, some bracketed) =>
          before.isEmpty &&
            match (cutFirst ']' bracketed).2 with
            | some (c :: _) => c == ':'
            | _ => true
      | (_, none) => true
    bracketsFit && isBracketedHost (hostAndPort authority).1

/-- Whether a URL may have the authority. -/
def isAuthority (authority : List Char) : Bool :=
  hasSoundBrackets authority && !authority.any lookalikes.contains

/-! ## Host and port -/

/-- The host in lower case, its zone as written. An authority without a host
has none. -/
def host? (authority : List Char) : Option (List Char) :=
  let written := (hostAndPort authority).1
  if written.isEmpty then none
  else match cutFirst '%' written with
    | (name, none) => some (lowercase name)
    | (name, some zone) => some (lowercase name ++ '%' :: zone)

/-- What an authority says about the port. -/
inductive Port where
  | unspecified
  | number (value : Nat)
  | malformed
deriving DecidableEq, Repr

/-- The most digits that a port is read from, leading zeros among them. -/
def maxPortDigits : Nat := 4300

/-- A port is a number up to 65535 in ASCII digits. Any number of zeros may lead
it, as long as the digits are not too many. -/
def port (authority : List Char) : Port :=
  let written := (hostAndPort authority).2
  if written.isEmpty then .unspecified
  else if isDecimal written && written.length ≤ maxPortDigits && decimalValue written ≤ 65535 then
    .number (decimalValue written)
  else .malformed

/-- An authority without brackets and without look-alikes is not refused. -/
theorem isAuthority_of_plain {authority : List Char} (plain : ∀ c ∈ authority, c ∉ lookalikes)
    (noOpen : '[' ∉ authority) (noClose : ']' ∉ authority) : isAuthority authority = true := by
  simp [isAuthority, hasSoundBrackets, noOpen, noClose]
  exact plain

theorem not_mem_lookalikes_of_ascii {c : Char} (ascii : c.toNat < 0x80) : c ∉ lookalikes := by
  intro among
  have wide : lookalikes.all (fun c => !decide (c.toNat < 0x80)) = true := by decide
  exact absurd ascii (by simpa using List.all_eq_true.mp wide c among)

/-- No look-alike is in ASCII, so an authority in ASCII without brackets is not refused. -/
theorem isAuthority_of_ascii {authority : List Char} (ascii : ∀ c ∈ authority, c.toNat < 0x80)
    (noOpen : '[' ∉ authority) (noClose : ']' ∉ authority) : isAuthority authority = true :=
  isAuthority_of_plain (fun c among => not_mem_lookalikes_of_ascii (ascii c among)) noOpen noClose

end AuthRedirect.Url
