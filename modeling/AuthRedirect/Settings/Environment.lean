import AuthRedirect.Settings
import AuthRedirect.Text.Lowercase
import AuthRedirect.Text.Quoted

/-!
Settings from environment variables. Each setting has a variable; one that is
not set keeps its default.
-/

namespace AuthRedirect

open AuthRedirect.Text

/-- The environment variable of the setting with the given name. -/
def environmentVariable (key : String) : String :=
  "WAYPOINT_" ++ String.ofList (key.toList.map Char.toUpper)

namespace Settings

/-- The variables of an environment. -/
abbrev Environment := List (String × String)

/-- A switch whose variable says neither on nor off. -/
structure NotBoolean where
  switch : Switch
  value : String
deriving DecidableEq, Repr

/-- The message of a failure. -/
def NotBoolean.message (failure : NotBoolean) : String :=
  environmentVariable failure.switch.key ++ " must be a boolean, got " ++ quoted failure.value

/-- The truth value of a word, blanks around it and letter case aside. An empty
word says no. -/
def truthOf? (s : String) : Option Bool :=
  let word := String.ofList (lowercase (trim s.toList))
  if ["1", "true", "yes", "on"].contains word then some true
  else if ["0", "false", "no", "off", ""].contains word then some false
  else none

/-- The settings with the text of a variable, if it is set. -/
def readText (environment : Environment) (settings : Settings) (setting : TextSetting) : Settings :=
  match environment.lookup (environmentVariable setting.key) with
  | none => settings
  | some value => settings.setText setting value

/-- The settings with a switch as its variable says, if it is set. -/
def readSwitch (environment : Environment) (settings : Settings) (switch : Switch) :
    Except NotBoolean Settings :=
  match environment.lookup (environmentVariable switch.key) with
  | none => .ok settings
  | some value =>
      match truthOf? value with
      | some truth => .ok (settings.setSwitch switch truth)
      | none => .error ⟨switch, value⟩

/-- The settings of an environment. -/
def ofEnvironment (environment : Environment) : Except NotBoolean Settings :=
  Switch.all.foldlM (readSwitch environment) (TextSetting.all.foldl (readText environment) {})

end Settings

end AuthRedirect
