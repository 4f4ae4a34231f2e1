import AuthRedirect.AuthServer
import AuthRedirect.CommandLine.Request
import AuthRedirect.Document.Rules
import AuthRedirect.Files
import AuthRedirect.Provisioning
import AuthRedirect.Resolution
import AuthRedirect.Settings.Document
import AuthRedirect.Settings.Environment
import AuthRedirect.Validation

/-!
Running a command: what it prints, what it writes, what it reports and how it
exits, as a function of its arguments, the environment and the files. A command
writes at most one file, as the last thing it does.
-/

namespace AuthRedirect.CommandLine

open AuthRedirect.Text

/-! ## Failures -/

/-- What a command does with a text that an option has to give. -/
inductive TextUse where
  /-- The name of a level is put into capitals. -/
  | capitals
  /-- Blanks around an origin are taken away. -/
  | trimming
deriving DecidableEq, Repr

/-- The word for a use of a text in messages. -/
def TextUse.name : TextUse → String
  | .capitals => "upper"
  | .trimming => "strip"

/-- Why a command breaks off. -/
inductive Break where
  /-- A text is not UTF-8. -/
  | undecodable
  /-- An option was given without a text where one is used. -/
  | withoutText (wanted : TextUse)
  /-- A known role was given without a text. -/
  | roleWithoutText
  /-- A path can be the path of no file. -/
  | unnameable
deriving DecidableEq, Repr

/-- What is said about a command that breaks off. -/
def Break.message : Break → String
  | .undecodable => "Text is not UTF-8"
  | .withoutText wanted => "'list' object has no attribute " ++ quoted wanted.name
  | .roleWithoutText => "unhashable type: 'list'"
  | .unnameable => FileError.unnameable.message

/-- Why a command fails. -/
inductive Failure where
  | file (error : FileError)
  | rules (error : Document.DecodeError)
  | switch (error : Settings.NotBoolean)
  | unreadableSettings (path : Path) (error : FileError)
  | settings (path : Path) (fault : Settings.Fault)
  | options (why : Break)
deriving DecidableEq, Repr

/-- Why a command breaks off at a failure, if it does. At other failures it ends
in good order, with a message. -/
def Failure.break? : Failure → Option Break
  | .rules .undecodable | .settings _ .undecodable => some .undecodable
  | .file .unnameable | .unreadableSettings _ .unnameable => some .unnameable
  | .options why => some why
  | _ => none

/-- The message of a failure. -/
def Failure.message : Failure → String
  | .file error => error.message
  | .rules error => error.message
  | .switch error => error.message
  | .unreadableSettings path error =>
      "Cannot read configuration file " ++ path.text ++ ": " ++ error.message
  | .settings path .malformed => "Invalid configuration in " ++ path.text
  | .settings _ .undecodable => Break.undecodable.message
  | .settings path (.unfit mismatch) =>
      "Invalid configuration in " ++ path.text ++ ": " ++ mismatch.message
  | .options why => why.message

/-! ## What commands read -/

/-- The settings in a file. -/
def loadSettings (files : Files) (path : Path) : Except Failure Settings := do
  let bytes ← (files.read path).mapError (Failure.unreadableSettings path)
  (Settings.ofDocument (Utf8.decode bytes)).mapError (Failure.settings path)

/-- The settings of a command: those in the file that is named, or those of the
environment. An empty name names no file. -/
def settingsFor (environment : Settings.Environment) (files : Files) (config : Option String) :
    Except Failure Settings :=
  match config with
  | none => (Settings.ofEnvironment environment).mapError Failure.switch
  | some name =>
      if name.isEmpty then (Settings.ofEnvironment environment).mapError Failure.switch
      else loadSettings files (Path.ofString name)

/-- The rules in a file. -/
def loadRules (files : Files) (path : Path) : Except Failure (List Rule) := do
  let bytes ← (files.read path).mapError Failure.file
  (Document.decodeRules (Utf8.decode bytes)).mapError Failure.rules

/-- The rules in a file, or none when there is no file. -/
def loadRulesIfPresent (files : Files) (path : Path) : Except Failure (List Rule) := do
  let isPresent ← (files.isPresent path).mapError Failure.file
  if isPresent then loadRules files path else return []

/-! ## What commands do -/

/-- How a command that does not fail ends. -/
structure Done where
  exit : Nat := 0
  stdout : String := ""
  stderr : String := ""
  written : Option (Path × Bytes) := none
deriving DecidableEq, Repr

/-- What a command reports, and how it ends. -/
structure Performance where
  notices : List Log.Notice
  result : Except Failure Done

/-- A text with the end of its line. -/
def line (s : String) : String :=
  s ++ "\n"

/-- A resolution in JSON. -/
def resolutionJson (resolution : Resolution) : Json :=
  .obj [("url", .str resolution.url), ("match_type", .str resolution.matchType),
    ("rule_index", match resolution.ruleIndex? with
      | some index => .int index
      | none => .null)]

/-- A login with what was given for it. Its origin has to be a text; a role
without a text is that of no specific rule. -/
def loginOf (origin role : Given) (environment : Option String) : Except Failure Login :=
  match origin with
  | some origin => .ok ⟨origin, role.getD anyRole, environment⟩
  | none => .error (.options (.withoutText .trimming))

/-- What is reported about a login for which a role was given. -/
def noticesFor (role : Given) (notices : List Log.Notice) : List Log.Notice :=
  if role.isSome then notices else notices.map Log.Notice.withoutRole

/-- Prints where a login is sent. -/
def performResolve (settings : Settings) (rules : List Rule) (login : Login) (details : Bool) :
    Performance where
  notices := Resolution.notices settings none rules login
  result :=
    let resolution := AuthRedirect.resolve settings none rules login
    let shown :=
      if details then (resolutionJson resolution).documentText else resolution.url
    .ok { stdout := line shown }

/-- The roles that were given, if each of them is a text. -/
def knownRoles (roles : Option (List Given)) : Except Failure (Option (List String)) :=
  match roles with
  | none => .ok none
  | some given =>
      match given.mapM id with
      | some known => .ok (some known)
      | none => .error (.options .roleWithoutText)

/-- The line that shows a problem. -/
def issueLine (issue : Validation.Issue) : String :=
  line (issue.severity ++ ": " ++ issue.path ++ ": " ++ issue.message)

/-- Prints the problems of rules. -/
def performValidate (rules : List Rule) (isNewOrganization : Bool) (roles : Option (List String)) :
    Performance where
  notices := []
  result :=
    let report := Validation.validateRuleSet roles isNewOrganization rules
    let problems := String.join (report.issues.map issueLine)
    if report.ok then
      .ok { stdout := problems ++ line (toString rules.length ++ " rule(s) valid") }
    else .ok { exit := 1, stdout := problems }

/-- The file of rules: their document and the end of its line. -/
def rulesFile (rules : List Rule) : Bytes :=
  Utf8.encode (line (Document.encodeRules rules)).toList

/-- Prints or writes rules with those that are missing for an auth server. -/
def performProvision (settings : Settings) (files : Files) (path : Path) (rules : List Rule)
    (authServerUrl : Option String) (write : Bool) : Performance where
  notices := Provisioning.notices settings rules authServerUrl
  result :=
    let provisioned := Provisioning.provision settings rules authServerUrl
    if write then do
      (files.writable path).mapError Failure.file
      return {
        stdout := line ("wrote " ++ toString (provisioned.length - rules.length) ++
          " new rule(s) to " ++ path.text)
        written := some (path, rulesFile provisioned) }
    else .ok { stdout := line (Document.encodeRules provisioned) }

/-- The auth server URL of a website that is not empty, or the website itself
when it has none. -/
def sourceUrl (settings : Settings) : Source → Except String (Option String)
  | .authServerUrl url => .ok url
  | .website none => .ok none
  | .website (some website) =>
      if website.isEmpty then .ok none
      else match AuthServer.derive settings (some website) none none with
        | some url => .ok (some url)
        | none => .error website

/-- What is reported about finding the auth server URL. -/
def sourceNotices (settings : Settings) : Source → List Log.Notice
  | .authServerUrl _ => []
  | .website none => []
  | .website (some website) =>
      if website.isEmpty then []
      else AuthServer.notices settings (some website) ++
        match AuthServer.derive settings (some website) none none with
        | some url => [.authServerDerived url]
        | none => []

/-- Provisions rules for an auth server or for that of a website. -/
def performProvisionFrom (settings : Settings) (files : Files) (path : Path) (rules : List Rule)
    (source : Source) (write : Bool) : Performance :=
  match sourceUrl settings source with
  | .ok url =>
      let performance := performProvision settings files path rules url write
      { performance with notices := sourceNotices settings source ++ performance.notices }
  | .error website =>
      { notices := sourceNotices settings source
        result := .ok {
          exit := 1
          stderr := line ("Cannot derive an auth server URL from " ++ quoted website) } }

/-- Prints the origin of a URL or a domain. -/
def performNormalize (value : String) : Performance where
  notices := Origin.notices "https" value
  result := .ok { stdout := line (Origin.normalize "https" value) }

/-- A command that has read what it needs, or failed to. -/
def afterReading (read : Except Failure α) (perform : α → Performance) : Performance :=
  match read with
  | .ok value => perform value
  | .error failure => ⟨[], .error failure⟩

/-- What a command reports and how it ends. -/
def perform (environment : Settings.Environment) (files : Files) (invocation : Invocation) :
    Performance :=
  match invocation.command with
  | .resolve rules origin role wanted details =>
      afterReading (settingsFor environment files invocation.config) fun settings =>
        afterReading (loadRules files (Path.ofString rules)) fun rules =>
          afterReading (loginOf origin role wanted) fun login =>
            let performance := performResolve settings rules login details
            { performance with notices := noticesFor role performance.notices }
  | .validate rules isNewOrganization roles =>
      afterReading (loadRules files (Path.ofString rules)) fun rules =>
        afterReading (knownRoles roles) fun known =>
          performValidate rules isNewOrganization known
  | .provision rules source write =>
      let path := Path.ofString rules
      afterReading (settingsFor environment files invocation.config) fun settings =>
        afterReading (loadRulesIfPresent files path) fun rules =>
          performProvisionFrom settings files path rules source write
  | .normalize value => performNormalize value

/-! ## A whole command line -/

/-- The lines of a log. -/
def logText (level : Log.Level) (notices : List Log.Notice) : String :=
  String.join ((Log.atLeast level notices).map fun notice =>
    line (notice.level.name ++ " " ++ notice.channel ++ " " ++ notice.message))

/-- How a command line ends: it exits, or it breaks off. -/
inductive Outcome where
  | exited (done : Done)
  | brokenOff (why : Break)
deriving DecidableEq, Repr

/-- How a performance ends, with its log before everything else on the error
stream. -/
def Performance.outcome (level : Log.Level) (performance : Performance) : Outcome :=
  let log := logText level performance.notices
  match performance.result with
  | .ok done => .exited { done with stderr := log ++ done.stderr }
  | .error failure =>
      match failure.break? with
      | some why => .brokenOff why
      | none => .exited { exit := 2, stderr := log ++ line ("error: " ++ failure.message) }

/-- The folder after a command line has ended. -/
def Outcome.folder (before : Folder) : Outcome → Folder
  | .exited done =>
      match done.written with
      | some (path, bytes) => before.write path bytes
      | none => before
  | .brokenOff _ => before

/-- The name and the version of the program. -/
def versionText : String := "waypoint 0.4.0"

/-- How a command line ends. -/
def run (environment : Settings.Environment) (files : Files) (arguments : List String) : Outcome :=
  match Request.read arguments with
  | none => .exited { exit := 2, stderr := "usage" }
  | some .help => .exited { stdout := line "usage" }
  | some .version => .exited { stdout := line versionText }
  | some (.run invocation) =>
      match invocation.level with
      | some level => (perform environment files invocation).outcome level
      | none => .brokenOff (.withoutText .capitals)

/-- The paths of the files that a command looks at. -/
def Command.path? : Command → Option Path
  | .resolve rules .. => some (Path.ofString rules)
  | .validate rules .. => some (Path.ofString rules)
  | .provision rules .. => some (Path.ofString rules)
  | .normalize _ => none

/-- The paths of the files that a command line looks at. -/
def pathsOf (arguments : List String) : List Path :=
  match Request.read arguments with
  | some (.run invocation) =>
      (invocation.config.map Path.ofString).toList ++ invocation.command.path?.toList
  | _ => []

end AuthRedirect.CommandLine
