import AuthRedirect.CommandLine.Arguments
import AuthRedirect.Log.Notice
import AuthRedirect.Rule

/-!
What a command line asks for. Options for all commands come before the command,
and each command has options of its own and one operand.
-/

namespace AuthRedirect.CommandLine

/-! ## The options -/

/-- The meanings of options. -/
inductive OptionName where
  | help
  | version
  | config
  | logLevel
  | origin
  | role
  | environment
  | details
  | newOrganization
  | authServerUrl
  | website
  | write
deriving DecidableEq, Repr

def helpOptions : List (Opt OptionName) :=
  [⟨"-h", .help, .final⟩, ⟨"--help", .help, .final⟩]

/-- The options before the command. -/
def generalOptions : List (Opt OptionName) :=
  helpOptions ++ [
    ⟨"--version", .version, .final⟩,
    ⟨"--config", .config, .value []⟩,
    ⟨"--log-level", .logLevel, .value ["debug", "info", "warning", "error"]⟩]

def resolveOptions : List (Opt OptionName) :=
  helpOptions ++ [
    ⟨"--origin", .origin, .value []⟩,
    ⟨"--role", .role, .value []⟩,
    ⟨"--environment", .environment, .value []⟩,
    ⟨"--details", .details, .switch⟩]

def validateOptions : List (Opt OptionName) :=
  helpOptions ++ [
    ⟨"--new-organization", .newOrganization, .switch⟩,
    ⟨"--role", .role, .value []⟩]

def provisionOptions : List (Opt OptionName) :=
  helpOptions ++ [
    ⟨"--auth-server-url", .authServerUrl, .value []⟩,
    ⟨"--website", .website, .value []⟩,
    ⟨"--write", .write, .switch⟩]

/-! ## Commands -/

/-- What rules are provisioned for: an auth server, or the one of a website. -/
inductive Source where
  | authServerUrl (url : Given)
  | website (website : Given)
deriving DecidableEq, Repr

/-- A command. Rules are named by the path of their file. -/
inductive Command where
  | resolve (rules : String) (origin role : Given) (environment : Option String) (details : Bool)
  | validate (rules : String) (isNewOrganization : Bool) (roles : Option (List Given))
  | provision (rules : String) (source : Source) (write : Bool)
  | normalize (value : String)
deriving DecidableEq, Repr

/-- A command with the options that stand before it. There is no level when no
text was given for it. -/
structure Invocation where
  config : Option String
  level : Option Log.Level
  command : Command
deriving DecidableEq, Repr

/-- What a command line asks for. -/
inductive Request where
  | help
  | version
  | run (invocation : Invocation)
deriving DecidableEq, Repr

/-! ## Reading a command -/

/-- How reading ends: with what is asked for, or with a misuse. -/
inductive Reading (α : Type) where
  | asked (value : α)
  | final (name : OptionName)
  | misuse
deriving DecidableEq, Repr

/-- The command that all arguments make up, if the operand is there and nothing
is left over. -/
def operandOf (all : Gathered OptionName) : Option String :=
  if all.leftover then none else all.operand

/-- Reads the arguments of a command. -/
def readCommand (options : List (Opt OptionName)) (arguments : List String)
    (build : Gathered OptionName → String → Option Command) : Reading Command :=
  match read options arguments with
  | none => .misuse
  | some events =>
      match gather {} events with
      | .wrong => .misuse
      | .final name => .final name
      | .gathered all =>
          match (operandOf all).bind (build all) with
          | some command => .asked command
          | none => .misuse

/-- The origin is required. -/
def buildResolve (all : Gathered OptionName) (rules : String) : Option Command :=
  if all.has .origin then
    some (.resolve rules (all.valueD .origin "") (all.valueD .role anyRole)
      (all.text? .environment) (all.has .details))
  else none

/-- Roles that are not given are not checked. -/
def buildValidate (all : Gathered OptionName) (rules : String) : Option Command :=
  some (.validate rules (all.has .newOrganization)
    (if all.has .role then some (all.values .role) else none))

/-- One source is required, and only one. -/
def buildProvision (all : Gathered OptionName) (rules : String) : Option Command :=
  match all.has .authServerUrl, all.has .website with
  | true, false =>
      some (.provision rules (.authServerUrl (all.text? .authServerUrl)) (all.has .write))
  | false, true => some (.provision rules (.website (all.text? .website)) (all.has .write))
  | _, _ => none

/-- Reads a command from its name and its arguments. -/
def Command.read (name : String) (arguments : List String) : Reading Command :=
  match name with
  | "resolve" => readCommand resolveOptions arguments buildResolve
  | "validate" => readCommand validateOptions arguments buildValidate
  | "provision" => readCommand provisionOptions arguments buildProvision
  | "normalize" =>
      readCommand helpOptions arguments fun _ value => some (.normalize value)
  | _ => .misuse

/-! ## Reading a command line -/

/-- The level that a word names. -/
def levelNamed : String → Log.Level
  | "debug" => .debug
  | "info" => .info
  | "error" => .error
  | _ => .warning

/-- The options before the command. -/
structure General where
  config : Option String := none
  level : Option Log.Level := some .warning
  leftover : Bool := false
deriving DecidableEq, Repr

/-- Reads what stands before the command, and then the command. -/
def readInvocation (general : General) : List (Event OptionName) → Reading Invocation
  | [] => .misuse
  | ⟨_, .word name⟩ :: rest =>
      match Command.read name (rest.flatMap (·.raw)) with
      | .asked command =>
          if general.leftover then .misuse else .asked ⟨general.config, general.level, command⟩
      | .final name => .final name
      | .misuse => .misuse
  | ⟨_, .final name⟩ :: _ => .final name
  | ⟨_, .unknown⟩ :: rest => readInvocation { general with leftover := true } rest
  | ⟨_, .option .config value⟩ :: rest => readInvocation { general with config := value } rest
  | ⟨_, .option .logLevel value⟩ :: rest =>
      readInvocation { general with level := value.map levelNamed } rest
  | _ => .misuse

/-- What a command line asks for, or nothing when it is misused. -/
def Request.read (arguments : List String) : Option Request :=
  match CommandLine.read generalOptions arguments with
  | none => none
  | some events =>
      match readInvocation {} events with
      | .asked invocation => some (.run invocation)
      | .final .version => some .version
      | .final _ => some .help
      | .misuse => none

end AuthRedirect.CommandLine
