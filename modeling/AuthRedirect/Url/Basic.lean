import AuthRedirect.Url.Authority

/-!
A URL in its five parts, how a text is taken apart into them, and how they are
put together again. Taking apart fails only for a refused authority.
-/

namespace AuthRedirect

open AuthRedirect.Text

/-- The five parts of a URL, without the characters between them. A part that is
left out is empty. -/
structure Url where
  scheme : List Char
  authority : List Char
  path : List Char
  query : List Char
  fragment : List Char
deriving DecidableEq, Repr

namespace Url

/-! ## Taking a text apart -/

/-- Controls and spaces at the front, and tabs and line breaks anywhere, are no
part of a URL. -/
def clean (s : List Char) : List Char :=
  (s.dropWhile fun c => c.toNat ≤ 0x20).filter fun c => c != '\t' && c != '\n' && c != '\r'

/-- The characters of a scheme. -/
def isSchemeChar (c : Char) : Bool :=
  c.isAlphanum || c == '+' || c == '-' || c == '.'

/-- Whether a text can be a scheme: it starts with a letter. -/
def isScheme : List Char → Bool
  | [] => false
  | c :: rest => c.isAlpha && (c :: rest).all isSchemeChar

/-- The scheme in lower case and what follows its colon, or no scheme and all of
the text. -/
def splitScheme (s : List Char) : List Char × List Char :=
  match cutFirst ':' s with
  | (name, some rest) => if isScheme name then (name.map Char.toLower, rest) else ([], s)
  | (_, none) => ([], s)

/-- Whether a character belongs to the authority that it stands in. -/
def staysInAuthority (c : Char) : Bool :=
  c != '/' && c != '?' && c != '#'

/-- The authority after two slashes and what follows it, or no authority and all
of the text. -/
def splitAuthority : List Char → List Char × List Char
  | '/' :: '/' :: rest => (rest.takeWhile staysInAuthority, rest.dropWhile staysInAuthority)
  | s => ([], s)

/-- The parts of a URL, unless its authority is refused. -/
def parse? (s : List Char) : Option Url :=
  let (scheme, afterScheme) := splitScheme (clean s)
  let (authority, afterAuthority) := splitAuthority afterScheme
  let (place, fragment) := cutFirst '#' afterAuthority
  let (path, query) := cutFirst '?' place
  if isAuthority authority then
    some ⟨scheme, authority, path, query.getD [], fragment.getD []⟩
  else none

/-! ## Putting the parts together -/

/-- The schemes whose URLs show the two slashes of an authority even when it is
empty. -/
def isWebScheme (scheme : List Char) : Bool :=
  scheme == "http".toList || scheme == "https".toList

/-- A part after the character that introduces it, or nothing when it is empty. -/
def introduced (mark : Char) (part : List Char) : List Char :=
  if part.isEmpty then [] else mark :: part

/-- The path with a slash at its front, unless it is empty. -/
def rooted : List Char → List Char
  | [] => []
  | '/' :: rest => '/' :: rest
  | path => '/' :: path

/-- The authority after its slashes, and the path. -/
def place (url : Url) : List Char :=
  if !url.authority.isEmpty || (isWebScheme url.scheme && !"//".toList.isPrefixOf url.path) then
    '/' :: '/' :: url.authority ++ rooted url.path
  else url.path

/-- The text of a URL. -/
def text (url : Url) : List Char :=
  (if url.scheme.isEmpty then [] else url.scheme ++ [':']) ++ url.place ++
    introduced '?' url.query ++ introduced '#' url.fragment

/-! ## Schemes of the web -/

/-- Whether a text starts with `http://` or `https://`, in any letter case. -/
def hasWebScheme (s : List Char) : Bool :=
  "http://".toList.isPrefixOf (s.map Char.toLower) ||
    "https://".toList.isPrefixOf (s.map Char.toLower)

/-- A text without a scheme of the web is read with the given scheme before it. -/
def complete (scheme s : List Char) : List Char :=
  if hasWebScheme s then s else scheme ++ "://".toList ++ s

end Url

end AuthRedirect
