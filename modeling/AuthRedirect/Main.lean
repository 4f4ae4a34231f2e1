import AuthRedirect.CommandLine.Run

/-!
The program: it gathers what a command line looks at, runs it, and carries out
how it ends.
-/

namespace AuthRedirect.Main

open AuthRedirect.CommandLine

/-- The number of the failure to read a folder as a file. -/
def isFolderCode : UInt32 := 21

/-- The number of the failure to pass through a file. -/
def notFolderCode : UInt32 := 20

/-- The number of the failure to use a path that is too long. -/
def tooLongCode : UInt32 := 36

/-- The number of a failure, which some layers below give with a minus sign. -/
def unsignedCode (code : UInt32) : UInt32 :=
  if code.toNat < 0x80000000 then code else 0 - code

/-- The number of a failure that is about the kind of what stands at a path. -/
def kindCode? : IO.Error → Option UInt32
  | .inappropriateType _ code _ | .invalidArgument _ code _ => some (unsignedCode code)
  | _ => none

/-- The path of the folder that a path leads into. -/
def parent (path : Path) : Path :=
  { path with steps := path.steps.dropLast }

/-- Whether a folder stands at a path. -/
def isFolder (path : Path) : IO Bool := do
  try
    let _ ← IO.FS.readBinFile path.text
    return false
  catch failure => return kindCode? failure == some isFolderCode

/-- What stands at a path. -/
def entryAt (path : Path) : IO Entry := do
  try
    let bytes ← IO.FS.readBinFile path.text
    return .file bytes.toList
  catch failure =>
    let code := kindCode? failure
    if code == some isFolderCode then return .folder
    else if code == some notFolderCode then return .belowFile
    else if code == some tooLongCode then return .tooLong
    else if ← isFolder (parent path) then return .vacant
    else return .unreachable

/-- The files at the paths that a command line looks at. -/
def gatherFiles (paths : List Path) : IO Files := do
  let entries ← paths.mapM fun path => return (path, ← entryAt path)
  return fun path => (entries.lookup path).getD .unreachable

/-- The variables that settings are read from. -/
def gatherEnvironment : IO Settings.Environment := do
  let keys := TextSetting.all.map TextSetting.key ++ Switch.all.map Switch.key
  let found ← (keys.map environmentVariable).mapM fun name => return (name, ← IO.getEnv name)
  return found.filterMap fun (name, value) => value.map fun value => (name, value)

/-- Writes, prints and exits as a command line ends. -/
def conclude : Outcome → IO UInt32
  | .brokenOff why => do
      IO.eprint (line why.message)
      return 1
  | .exited done => do
      match done.written with
      | some (path, bytes) => IO.FS.writeBinFile path.text ⟨bytes.toArray⟩
      | none => pure ()
      IO.print done.stdout
      IO.eprint done.stderr
      return done.exit.toUInt32

end AuthRedirect.Main

def main (arguments : List String) : IO UInt32 := do
  let files ← AuthRedirect.Main.gatherFiles (AuthRedirect.CommandLine.pathsOf arguments)
  let environment ← AuthRedirect.Main.gatherEnvironment
  AuthRedirect.Main.conclude (AuthRedirect.CommandLine.run environment files arguments)
