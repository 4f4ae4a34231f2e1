import AuthRedirect.Text.Blank

/-!
Settings of the engine, with what holds when nothing is set.
-/

namespace AuthRedirect

open AuthRedirect.Text

/-- The settings of provisioning and resolution. -/
structure Settings where
  /-- Where a user goes on the auth origin when no rule matches. -/
  fallbackPath : String := "/profile"
  /-- The scheme of origins that are stored without one. -/
  defaultScheme : String := "https"
  /-- The first label of a derived auth server host. -/
  authSubdomain : String := "auth"
  /-- The origin of the rule for local development. -/
  localDevOrigin : String := "http://localhost:4001"
  /-- Whether origins have to be equal to match. -/
  strictOriginMatching : Bool := false
  /-- Whether the environment of a rule has to match that of a login. -/
  matchEnvironment : Bool := false
deriving DecidableEq, Repr

/-! ## Single settings -/

/-- The settings that are texts. -/
inductive TextSetting where
  | fallbackPath
  | defaultScheme
  | authSubdomain
  | localDevOrigin
deriving DecidableEq, Repr

/-- The settings that are switched on and off. -/
inductive Switch where
  | strictOriginMatching
  | matchEnvironment
deriving DecidableEq, Repr

def TextSetting.all : List TextSetting :=
  [.fallbackPath, .defaultScheme, .authSubdomain, .localDevOrigin]

def Switch.all : List Switch :=
  [.strictOriginMatching, .matchEnvironment]

/-- The name of a setting. -/
def TextSetting.key : TextSetting → String
  | .fallbackPath => "fallback_path"
  | .defaultScheme => "default_scheme"
  | .authSubdomain => "auth_subdomain"
  | .localDevOrigin => "local_dev_origin"

/-- The name of a switch. -/
def Switch.key : Switch → String
  | .strictOriginMatching => "strict_origin_matching"
  | .matchEnvironment => "match_environment"

namespace Settings

/-- The settings with another text. -/
def setText (settings : Settings) (setting : TextSetting) (value : String) : Settings :=
  match setting with
  | .fallbackPath => { settings with fallbackPath := value }
  | .defaultScheme => { settings with defaultScheme := value }
  | .authSubdomain => { settings with authSubdomain := value }
  | .localDevOrigin => { settings with localDevOrigin := value }

/-- The settings with a switch on or off. -/
def setSwitch (settings : Settings) (switch : Switch) (value : Bool) : Settings :=
  match switch with
  | .strictOriginMatching => { settings with strictOriginMatching := value }
  | .matchEnvironment => { settings with matchEnvironment := value }

/-- The URL on an origin that is used where no rule says better. -/
def fallbackFor (settings : Settings) (origin : String) : String :=
  if origin.isEmpty then settings.fallbackPath
  else String.ofList (dropTrailing (· == '/') origin.toList) ++ settings.fallbackPath

/-- An origin without text has no slash to drop, so the fallback is the same
rule for every origin. -/
theorem fallbackFor_eq (settings : Settings) (origin : String) :
    settings.fallbackFor origin =
      String.ofList (dropTrailing (· == '/') origin.toList) ++ settings.fallbackPath := by
  unfold fallbackFor
  split
  · next empty =>
      rw [String.isEmpty_iff.mp empty]
      simp
  · rfl

end Settings

end AuthRedirect
