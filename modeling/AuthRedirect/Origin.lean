import AuthRedirect.Log.Notice
import AuthRedirect.Text.Blank
import AuthRedirect.Url.Basic

/-!
Origins: the scheme, host and port that a URL or a bare domain stands for. An
origin that cannot be read is used as it stands, so that a broken stored value
still compares equal to itself; what is used instead is reported.
-/

namespace AuthRedirect

open AuthRedirect.Text

/-- A scheme, a host in lower case, and a port that is not the usual one of the
scheme. -/
structure Origin where
  scheme : List Char
  host : List Char
  port : Option Nat
deriving DecidableEq, Repr

namespace Origin

/-! ## Reading -/

/-- What a text says about an origin. -/
inductive Reading where
  /-- Nothing: there are only blanks. -/
  | blank
  /-- It is no URL, or its port is none. -/
  | unparseable
  /-- It is a URL without a host. -/
  | hostless
  | origin (value : Origin)
deriving DecidableEq, Repr

/-- The port that a scheme stands for when none is written. -/
def usualPort? (scheme : List Char) : Option Nat :=
  if scheme = "http".toList then some 80
  else if scheme = "https".toList then some 443
  else none

/-- The port of an origin with a written port. -/
def shownPort (scheme : List Char) : Url.Port → Option Nat
  | .number value => if usualPort? scheme = some value then none else some value
  | _ => none

/-- Reads an origin. A text without a scheme of the web is read with the given
scheme before it. -/
def read (defaultScheme raw : List Char) : Reading :=
  let candidate := trim raw
  if candidate.isEmpty then .blank
  else match Url.parse? (Url.complete defaultScheme candidate) with
    | none => .unparseable
    | some url =>
        match Url.port url.authority with
        | .malformed => .unparseable
        | port =>
            match Url.host? url.authority with
            | none => .hostless
            | some host => .origin ⟨url.scheme, host, shownPort url.scheme port⟩

/-! ## Writing -/

/-- A host with colons stands in brackets. -/
def shownHost (host : List Char) : List Char :=
  if host.contains ':' then '[' :: host ++ [']'] else host

/-- The text of an origin. -/
def text (origin : Origin) : List Char :=
  origin.scheme ++ "://".toList ++ shownHost origin.host ++
    match origin.port with
    | some port => ':' :: decimalDigits port
    | none => []

/-- The origin of a text, or the text itself where none can be read. -/
def normalForm (defaultScheme raw : List Char) : List Char :=
  match read defaultScheme raw with
  | .origin value => value.text
  | _ => raw

/-- The origin of a URL or a bare domain, or the text itself where none can be
read. -/
def normalize (defaultScheme raw : String) : String :=
  String.ofList (normalForm defaultScheme.toList raw.toList)

/-- What is reported about reading an origin. -/
def notices (defaultScheme raw : String) : List Log.Notice :=
  match read defaultScheme.toList raw.toList with
  | .unparseable => [.unparseableOrigin raw]
  | .hostless => [.hostlessOrigin raw]
  | _ => []

/-! ## The host alone -/

/-- The host of a text, whatever its port. -/
def hostIn? (raw : List Char) : Option (List Char) :=
  let candidate := trim raw
  if candidate.isEmpty then none
  else do
    let url ← Url.parse? (Url.complete "https".toList candidate)
    Url.host? url.authority

/-- The host of a URL or a bare domain in lower case. -/
def hostOf? (raw : String) : Option String :=
  (hostIn? raw.toList).map String.ofList

/-- Whether a text starts with `http://` or `https://`, in any letter case. -/
def hasWebScheme (raw : String) : Bool :=
  Url.hasWebScheme raw.toList

/-- The origin of a text, where it has a host and a scheme of the web. This asks
less than reading it does: a broken port is let through. -/
def usable? (defaultScheme raw : String) : Option String :=
  let origin := normalize defaultScheme raw
  if (hostOf? origin).isSome && hasWebScheme origin then some origin else none

/-! ## Comparing -/

/-- The form of a text that is compared with others. -/
def comparable (raw : String) : List Char :=
  lowercase (normalForm "https".toList raw.toList)

/-- Whether two texts stand for one origin. An empty text matches nothing. -/
def same (left right : String) : Bool :=
  !left.isEmpty && !right.isEmpty && comparable left == comparable right

/-- Whether the origin of one text stands in that of the other. An empty text
matches nothing. -/
def overlap (left right : String) : Bool :=
  !left.isEmpty && !right.isEmpty && overlapping (comparable left) (comparable right)

/-- What is reported about comparing two texts. -/
def comparisonNotices (left right : String) : List Log.Notice :=
  if left.isEmpty || right.isEmpty then []
  else notices "https" left ++ notices "https" right

end Origin

end AuthRedirect
