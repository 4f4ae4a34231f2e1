import AuthRedirect.Resolution
import AuthRedirect.Url.Query

/-!
Handing a session token over to the page that a user is sent to: the token and
the time at which it expires become parameters of the URL, in place of those
that may be there.
-/

namespace AuthRedirect.Handoff

open AuthRedirect.Text

/-- The name of the parameter with the token. -/
def tokenName : List Char := "token".toList

/-- The name of the parameter with the time of expiry. -/
def expiryName : List Char := "exp".toList

/-- The parameters that hand over a token. A time of zero counts as none. Any other time is
taken to be writable: that a runtime may refuse to write one of more than 4300 digits, as it
refuses to read a longer port (`Url.maxPortDigits`), is left out. -/
def tokenParameters (token : List Char) (expiresAt : Option Int) : List Url.Parameter :=
  (tokenName, token) ::
    match expiresAt with
    | none => []
    | some time => if time = 0 then [] else [(expiryName, decimalInt time)]

/-- Whether a parameter hands over a token. -/
def isHandoff (parameter : Url.Parameter) : Bool :=
  parameter.1 == tokenName || parameter.1 == expiryName

/-- A URL as it is taken apart: one without a scheme of the web is read as one
with `https`, unless it is relative. -/
def completed (url : List Char) : List Char :=
  if url.head? = some '/' then url else Url.complete "https".toList url

/-- The parts of a URL with the token among its parameters. -/
def withParameters (handed : List Url.Parameter) (url : Url) : Url :=
  { url with
    query :=
      Url.queryText
        (((Url.parameters url.query).filter fun parameter => !isHandoff parameter) ++ handed) }

/-- The text of a URL with a query put at its end. -/
def appended (query url : List Char) : List Char :=
  url ++ (if url.contains '?' then '&' else '?') :: query

/-- The URL with parameters that hand over a token. Where it cannot be taken
apart they are put at its end. -/
def attach (handed : List Url.Parameter) (url : List Char) : List Char :=
  match Url.parse? (completed url) with
  | none => appended (Url.queryText handed) url
  | some parts => (withParameters handed parts).text

/-- The URL with the token. Nothing is done without a URL or without a token. -/
def appendToken (url token : String) (expiresAt : Option Int) : String :=
  if url.isEmpty || token.isEmpty then url
  else String.ofList (attach (tokenParameters token.toList expiresAt) url.toList)

/-- Where a login is sent, without and with the token. -/
structure Redirect where
  resolution : Resolution
  tokenUrl : String
deriving DecidableEq, Repr

/-- Resolves a login and hands the token over. -/
def redirect (settings : Settings) (roles : Option (List String)) (rules : List Rule)
    (login : Login) (token : String) (expiresAt : Option Int) : Redirect :=
  let resolution := resolve settings roles rules login
  ⟨resolution, appendToken resolution.url token expiresAt⟩

end AuthRedirect.Handoff
