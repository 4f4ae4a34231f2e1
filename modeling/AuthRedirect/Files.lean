import AuthRedirect.Text.Quoted
import AuthRedirect.Text.Search
import AuthRedirect.Text.Utf8

/-!
The files that a command works on. A path is relative to the folder in which the
command runs, unless it starts with a slash. What stands at a path is an entry;
reading and writing succeed or fail by what the entry is. A path is walked step
by step, so that a step up leads out of a folder and not out of a file.
-/

namespace AuthRedirect

open AuthRedirect.Text

/-! ## Paths -/

/-- A path: the slashes at its front, and the names of its steps. -/
structure Path where
  root : List Char
  steps : List (List Char)
deriving DecidableEq, Repr

namespace Path

/-- The slashes at the front of a path. Two of them are kept, more are one. -/
def rootOf : List Char → List Char
  | '/' :: '/' :: '/' :: _ => ['/']
  | '/' :: '/' :: _ => ['/', '/']
  | '/' :: _ => ['/']
  | _ => []

/-- The path of a text. Empty steps and steps to the folder itself are left out. -/
def ofString (s : String) : Path where
  root := rootOf s.toList
  steps := (s.toList.splitOn '/').filter fun step => !step.isEmpty && step != ['.']

/-- The text of a path. The folder itself is a point. -/
def text (path : Path) : String :=
  if path.root.isEmpty && path.steps.isEmpty then "."
  else String.ofList (path.root ++ ['/'].intercalate path.steps)

/-- The step to the folder above. -/
def up : List Char := ['.', '.']

/-- Whether no file can have the path, because a NUL ends every name. -/
def isUnnameable (path : Path) : Bool :=
  path.steps.any fun step => step.contains '\x00'

/-- Whether a step has more bytes than a name may have. -/
def isLongStep (step : List Char) : Bool :=
  255 < (Utf8.encode step).length

/-- Whether a path has more bytes than a path may have. -/
def isLong (path : Path) : Bool :=
  4095 < (Utf8.encode path.text.toList).length

/-- Where a walk of a path starts: at the root, or in the folder. -/
def start (path : Path) : Path where
  root := path.root.take 1
  steps := []

/-- The folder above a folder. Above the root is the root, and above the folders
in which a relative path starts there are always others. -/
def above (place : Path) : Path :=
  match place.steps.getLast? with
  | some step =>
      { place with
        steps := if step = up then place.steps ++ [up] else place.steps.dropLast }
  | none => if place.root.isEmpty then { place with steps := [up] } else place

/-- Where one step leads from a folder. -/
def enter (place : Path) (step : List Char) : Path :=
  if step = up then place.above else { place with steps := place.steps ++ [step] }

/-- Whether a place is in or below the folder in which relative paths start. -/
def isInside (place : Path) : Bool :=
  place.root.isEmpty && place.steps.head? != some up

end Path

/-! ## Entries -/

/-- The bytes of a file. -/
abbrev Bytes := List UInt8

/-- What stands at a path. -/
inductive Entry where
  | file (bytes : Bytes)
  | folder
  /-- Nothing, in a folder that is there. -/
  | vacant
  /-- Nothing, and no folder to put it into. -/
  | unreachable
  /-- Nothing, because a step on the way is a file. -/
  | belowFile
  /-- Nothing, because the path or one of its steps is too long. -/
  | tooLong
  /-- Nothing, because the path is the path of no file. -/
  | unnameable
deriving DecidableEq, Repr

/-- Why a file is not read or written. -/
inductive FileError where
  | missing (path : Path)
  | notFolder (path : Path)
  | isFolder (path : Path)
  | tooLong (path : Path)
  | unnameable
deriving DecidableEq, Repr

/-- The message of a failure. -/
def FileError.message : FileError → String
  | .missing path => "[Errno 2] No such file or directory: " ++ quoted path.text
  | .notFolder path => "[Errno 20] Not a directory: " ++ quoted path.text
  | .isFolder path => "[Errno 21] Is a directory: " ++ quoted path.text
  | .tooLong path => "[Errno 36] File name too long: " ++ quoted path.text
  | .unnameable => "embedded null byte"

/-- What a command sees of the files around it. -/
abbrev Files := Path → Entry

namespace Files

/-- The bytes of the file at a path. -/
def read (files : Files) (path : Path) : Except FileError Bytes :=
  match files path with
  | .file bytes => .ok bytes
  | .folder => .error (.isFolder path)
  | .vacant | .unreachable => .error (.missing path)
  | .belowFile => .error (.notFolder path)
  | .tooLong => .error (.tooLong path)
  | .unnameable => .error .unnameable

/-- Whether something stands at a path. Of a path that is too long this cannot be
told. -/
def isPresent (files : Files) (path : Path) : Except FileError Bool :=
  match files path with
  | .file _ | .folder => .ok true
  | .tooLong => .error (.tooLong path)
  | .vacant | .unreachable | .belowFile | .unnameable => .ok false

/-- Whether a file can be written at a path: it is there already, or there is a
folder to put it into. -/
def writable (files : Files) (path : Path) : Except FileError Unit :=
  match files path with
  | .file _ | .vacant => .ok ()
  | .folder => .error (.isFolder path)
  | .unreachable => .error (.missing path)
  | .belowFile => .error (.notFolder path)
  | .tooLong => .error (.tooLong path)
  | .unnameable => .error .unnameable

end Files

/-! ## A folder -/

/-- The files in and below a folder, and those that are known around it. Each is
listed at the place to which a walk of its path leads. -/
abbrev Folder := List (Path × Bytes)

namespace Folder

/-- Whether a place is a folder: one in which a walk may start or that is above
it, or one on the way to a file. -/
def isFolder (folder : Folder) (place : Path) : Bool :=
  place.steps.all (· == Path.up) ||
    folder.any fun file =>
      file.1.root == place.root && place.steps.isPrefixOf file.1.steps &&
        place.steps != file.1.steps

/-- What stands where steps lead from a folder, and where that is. -/
def walk (folder : Folder) (place : Path) : List (List Char) → Entry × Path
  | [] => (.folder, place)
  | step :: rest =>
      let next := place.enter step
      if Path.isLongStep step then (.tooLong, next)
      else match folder.lookup next with
        | some bytes => (if rest.isEmpty then .file bytes else .belowFile, next)
        | none =>
            if folder.isFolder next then walk folder next rest
            else (if rest.isEmpty then .vacant else .unreachable, next)

/-- What stands at a path, seen from the folder. -/
def files (folder : Folder) : Files := fun path =>
  if path.isUnnameable then .unnameable
  else if path.isLong then .tooLong
  else (folder.walk path.start path.steps).1

/-- Where a path leads, seen from the folder. -/
def place (folder : Folder) (path : Path) : Path :=
  (folder.walk path.start path.steps).2

/-- The folder with a file at a place. -/
def put (folder : Folder) (place : Path) (bytes : Bytes) : Folder :=
  match folder with
  | [] => [(place, bytes)]
  | (other, old) :: rest =>
      if other = place then (place, bytes) :: rest else (other, old) :: put rest place bytes

/-- The folder after a file has been written to a path. -/
def write (folder : Folder) (path : Path) (bytes : Bytes) : Folder :=
  folder.put (folder.place path) bytes

/-- The files in and below a folder that are new or have other bytes than before. -/
def changesSince (before after : Folder) : Folder :=
  after.filter fun (place, bytes) => place.isInside && before.lookup place != some bytes

theorem lookup_put (folder : Folder) (place other : Path) (bytes : Bytes) :
    (folder.put place bytes).lookup other =
      if other = place then some bytes else folder.lookup other := by
  induction folder with
  | nil => grind [put]
  | cons file rest ih => grind [put]

end Folder

end AuthRedirect
