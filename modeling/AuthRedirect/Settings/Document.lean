import AuthRedirect.Json.Reader
import AuthRedirect.Json.Shape
import AuthRedirect.Settings

/-!
Settings from a JSON object. The object is checked while it is read, so that of
two faults the one that comes first is reported, be it in the form of the text
or in the kind of a value. Members that are no settings are passed over: their
form has to be right, but their strings may have gaps and their numbers any size.
-/

namespace AuthRedirect.Settings

open AuthRedirect.Json AuthRedirect.Text

/-! ## Single tokens -/

/-- What is wrong with a token that starts another value than the expected one,
if it starts a value at all. A number is read before its kind is looked at. -/
def faultOf? (expected : Expected) : Token → Option Json.Fault
  | .openArray => some (.kind expected .arr)
  | .openObject => some (.kind expected .obj)
  | .atom value => some (.kind expected value.kind)
  | .number n =>
      match n.kind? with
      | some kind => some (.kind expected kind)
      | none => some .outOfRange
  | .text _ => some (.kind expected .str)
  | _ => none

/-- A token whose form alone counts: gaps are filled, and any number will do. -/
def formOnly : Token → Token
  | .text read => .text (read.lossy.map some)
  | .number _ => .atom (.int 0)
  | token => token

/-- A setting of either kind. -/
inductive Setting where
  | text (setting : TextSetting)
  | switch (setting : Switch)
deriving DecidableEq, Repr

/-- The setting that a member names, if it names one. -/
def settingNamed? (name : RawText) : Option Setting :=
  name.whole?.bind fun characters =>
    let key := String.ofList characters
    ((TextSetting.all.find? fun setting => setting.key == key).map Setting.text) <|>
      ((Switch.all.find? fun setting => setting.key == key).map Setting.switch)

/-! ## Reading -/

/-- Why settings are not read. -/
inductive Fault where
  | malformed
  | undecodable
  | unfit (mismatch : Mismatch)
deriving DecidableEq, Repr

/-- What may come next, and the settings so far. -/
inductive Progress where
  | awaitObject
  | awaitFirstName (settings : Settings)
  | awaitName (settings : Settings)
  | awaitColon (settings : Settings) (setting : Option Setting)
  | awaitValue (settings : Settings) (setting : Setting)
  /-- Inside a value that is passed over. -/
  | passing (settings : Settings) (state : State)
  | afterMember (settings : Settings)
  | complete (settings : Settings)

/-- A token that does not start the value that is expected. -/
def refuse (expected : Expected) (path : List Step) (token : Token) : Except Fault α :=
  match faultOf? expected token with
  | some fault => .error (.unfit ⟨fault, path⟩)
  | none => .error .malformed

/-- The value of a setting. -/
def readSetting (settings : Settings) : Setting → Token → Except Fault Progress
  | .text setting, .text read =>
      match read.whole? with
      | some characters => .ok (.afterMember (settings.setText setting (String.ofList characters)))
      | none => .error .undecodable
  | .text setting, token => refuse .str [.member setting.key] token
  | .switch setting, .atom (.bool value) => .ok (.afterMember (settings.setSwitch setting value))
  | .switch setting, token => refuse .bool [.member setting.key] token

/-- A token of a value that is passed over. -/
def pass (settings : Settings) (state : State) (token : Token) : Except Fault Progress :=
  match state.read (formOnly token) with
  | .error _ => .error .malformed
  | .ok (.complete _) => .ok (.afterMember settings)
  | .ok state => .ok (.passing settings state)

/-- One token. -/
def Progress.read : Progress → Token → Except Fault Progress
  | .awaitObject, .openObject => .ok (.awaitFirstName {})
  | .awaitObject, token => refuse .obj [] token
  | .awaitFirstName settings, .closeObject => .ok (.complete settings)
  | .awaitFirstName settings, .text name => .ok (.awaitColon settings (settingNamed? name))
  | .awaitName settings, .text name => .ok (.awaitColon settings (settingNamed? name))
  | .awaitColon settings (some setting), .colon => .ok (.awaitValue settings setting)
  | .awaitColon settings none, .colon => .ok (.passing settings (.awaitValue []))
  | .awaitValue settings setting, token => readSetting settings setting token
  | .passing settings state, token => pass settings state token
  | .afterMember settings, .comma => .ok (.awaitName settings)
  | .afterMember settings, .closeObject => .ok (.complete settings)
  | _, _ => .error .malformed

/-- The settings of a text that has ended. -/
def Progress.settings? : Progress → Except Fault Settings
  | .complete settings => .ok settings
  | _ => .error .malformed

/-- The settings of a JSON text. -/
def ofDocument (s : RawText) : Except Fault Settings := do
  let last ← (tokens s).foldlM Progress.read .awaitObject
  last.settings?

end AuthRedirect.Settings
