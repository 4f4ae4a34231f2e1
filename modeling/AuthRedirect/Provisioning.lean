import AuthRedirect.Origin
import AuthRedirect.Rule
import AuthRedirect.Settings
import AuthRedirect.Text.Search

/-!
The rules that an organization needs for its auth server: one for local
development and one for production. A rule is added when no stored rule takes
its place; stored rules are never changed, removed or moved.
-/

namespace AuthRedirect.Provisioning

open AuthRedirect.Text

/-! ## The rules -/

/-- A rule that sends everyone who logs in on an origin to its fallback. -/
def standardRule (settings : Settings) (environment origin description : String) : Rule where
  environment := environment
  authPageUrl := origin
  targets := [⟨settings.fallbackFor origin, true⟩]
  description := some description

/-- The rule for local development. -/
def developmentRule (settings : Settings) : Rule :=
  standardRule settings "development" settings.localDevOrigin
    "Local development - redirects to profile page after login"

/-- The rule for an auth server. -/
def productionRule (settings : Settings) (origin : String) : Rule :=
  standardRule settings "production" origin "Production - redirects to profile page after login"

/-! ## What is there already -/

/-- The origin of local development without its scheme, in lower case. -/
def localMarker (settings : Settings) : List Char :=
  let origin := settings.localDevOrigin.toList
  lowercase ((after? "://".toList origin).getD origin)

/-- Whether a rule is for local development. -/
def coversLocal (settings : Settings) (rule : Rule) : Bool :=
  occursIn (localMarker settings) (lowercase rule.authPageUrl.toList)

/-- Whether a rule is for an auth server: its auth page and the origin stand one
in the other, whatever the letter case. -/
def coversOrigin (origin : String) (rule : Rule) : Bool :=
  !rule.authPageUrl.isEmpty &&
    overlapping (lowercase origin.toList) (lowercase rule.authPageUrl.toList)

/-! ## What is added -/

/-- The rule for local development, if it is missing. -/
def missingLocal (settings : Settings) (rules : List Rule) : List Rule :=
  if rules.any (coversLocal settings) then [] else [developmentRule settings]

/-- The rule for an auth server, if it is missing. -/
def missingProduction (settings : Settings) (rules : List Rule) (origin : String) : List Rule :=
  if rules.any (coversOrigin origin) then [] else [productionRule settings origin]

/-- The rules that are missing for an origin. The rule for local development
counts when the other one is looked for. -/
def missingFor (settings : Settings) (rules : List Rule) (origin : String) : List Rule :=
  let development := missingLocal settings rules
  development ++ missingProduction settings (rules ++ development) origin

/-- The origin of an auth server URL that rules can be added for. -/
def origin? (settings : Settings) (authServerUrl : Option String) : Option String :=
  authServerUrl.bind (Origin.usable? settings.defaultScheme)

/-- The rules that are added for an auth server URL. -/
def added (settings : Settings) (rules : List Rule) (authServerUrl : Option String) : List Rule :=
  match origin? settings authServerUrl with
  | none => []
  | some origin => missingFor settings rules origin

/-- The rules with those that are missing for an auth server URL at the end. -/
def provision (settings : Settings) (rules : List Rule) (authServerUrl : Option String) :
    List Rule :=
  rules ++ added settings rules authServerUrl

/-! ## What is reported -/

/-- The notice of an added rule. -/
def addedNotice (rule : Rule) : Log.Notice :=
  .ruleProvisioned rule.environment rule.authPageUrl

/-- What is reported about provisioning. A blank URL is passed over in silence. -/
def notices (settings : Settings) (rules : List Rule) (authServerUrl : Option String) :
    List Log.Notice :=
  match authServerUrl with
  | none => []
  | some url =>
      if blank url then []
      else Origin.notices settings.defaultScheme url ++
        match origin? settings authServerUrl with
        | none => [.provisionSkipped url]
        | some _ => (added settings rules authServerUrl).map addedNotice

end AuthRedirect.Provisioning
