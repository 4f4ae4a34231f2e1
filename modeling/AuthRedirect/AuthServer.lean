import AuthRedirect.Origin
import AuthRedirect.Settings
import AuthRedirect.Text.Search

/-!
The auth server URL that follows from the website of an organization. It
replaces a stored URL only when that one was derived too, from the website
before; a URL that was entered by hand stays.
-/

namespace AuthRedirect.AuthServer

open AuthRedirect.Text

/-- The front of an auth server host. -/
def hostLabel (settings : Settings) : List Char :=
  settings.authSubdomain.toList ++ ['.']

/-- The URL of an origin with the label before its host, unless the host starts
with it already. -/
def withLabel (label host origin : List Char) : List Char :=
  if label.isPrefixOf host then origin
  else replaceFirst ('/' :: '/' :: host) ('/' :: '/' :: label ++ host) origin

/-- The auth server URL of a website that has a usable origin. -/
def ofWebsite? (settings : Settings) (website : String) : Option String := do
  let origin ← Origin.usable? settings.defaultScheme website
  let host ← Origin.hostOf? origin
  return String.ofList (withLabel (hostLabel settings) host.toList origin.toList)

/-- The text without the given front. -/
def withoutFront (front s : List Char) : List Char :=
  if front.isPrefixOf s then s.drop front.length else s

/-- Whether a URL is on the host of a website, with or without the label. -/
def isOnSiteOf (settings : Settings) (website : String) (url : String) : Bool :=
  match Origin.hostOf? website with
  | none => false
  | some host =>
      let label := hostLabel settings
      let base := withoutFront label host.toList
      let found := (Origin.hostOf? url).map String.toList
      found == some base || found == some (label ++ base)

/-- Whether a derived URL may take the place of the stored one: when none is
stored, when the two differ in letter case at most, or when the stored one is on
the host of the website before. -/
def mayReplace (settings : Settings) (current previousWebsite : Option String)
    (derived : String) : Bool :=
  match current with
  | none => true
  | some current =>
      blank current || lower current == lower derived ||
        previousWebsite.any fun website => isOnSiteOf settings website current

/-- The auth server URL to store for a website, given the stored one and the
website before. A website without a usable origin changes nothing. -/
def derive (settings : Settings) (website current previousWebsite : Option String) :
    Option String :=
  match website.bind (ofWebsite? settings) with
  | none => current
  | some derived =>
      if mayReplace settings current previousWebsite derived then some derived else current

/-- What is reported about deriving from a website. -/
def notices (settings : Settings) (website : Option String) : List Log.Notice :=
  match website with
  | none => []
  | some website => Origin.notices settings.defaultScheme website

end AuthRedirect.AuthServer
