import AuthRedirect.Text.DigitTable
import AuthRedirect.Text.Search

/-!
Arguments of a command line. An argument is a word, an option, or the mark `--`
after which every argument is a word. A long option may be cut short as long as
one option is meant, and its value may follow an equals sign. What looks like an
option and is none is kept apart, because it is refused only at the end.
-/

namespace AuthRedirect.CommandLine

open AuthRedirect.Text

/-! ## Options -/

/-- What an option does with a value. -/
inductive Arity where
  /-- It has no value. -/
  | switch
  /-- It has a value, which has to be one of the choices if there are any. -/
  | value (choices : List String)
  /-- It has no value, and no argument after it is looked at. -/
  | final
deriving DecidableEq, Repr

/-- An option: how it is written, what it means, and its value. -/
structure Opt (α : Type) where
  name : String
  meaning : α
  arity : Arity
deriving DecidableEq, Repr

/-! ## One argument -/

/-- What an argument is. -/
inductive ItemKind (α : Type) where
  | word
  | mark
  | option (option : Opt α) (value : Option String)
  | unknown
deriving DecidableEq, Repr

/-- An argument as it is written, and what it is. -/
structure Item (α : Type) where
  raw : String
  kind : ItemKind α
deriving DecidableEq, Repr

/-- Whether a text is a number without a sign: digits of any script, and perhaps
a point with digits after it. -/
def isNumber (s : List Char) : Bool :=
  match cutFirst '.' s with
  | (whole, none) => !whole.isEmpty && whole.all isScriptDigit
  | (whole, some fraction) =>
      whole.all isScriptDigit && !fraction.isEmpty && fraction.all isScriptDigit

/-- Whether an argument is a negative number. One line break may follow it. -/
def isNegativeNumber : List Char → Bool
  | '-' :: number => isNumber (if number.getLast? = some '\n' then number.dropLast else number)
  | _ => false

/-- The options that an argument may mean when it is none of them as it stands,
with the value that it gives. A long option may be cut short; a short one may
have its value attached. -/
def candidates (options : List (Opt α)) (s : List Char) : List (Opt α × Option String) :=
  match s with
  | '-' :: '-' :: _ =>
      let (front, value) := cutFirst '=' s
      (options.filter fun option => front.isPrefixOf option.name.toList).map fun option =>
        (option, value.map String.ofList)
  | '-' :: letter :: attached =>
      (options.filter fun option => option.name.toList == ['-', letter]).map fun option =>
        (option, some (String.ofList attached))
  | _ => []

/-- What an argument is, or nothing when it may mean several options. -/
def classify (options : List (Opt α)) (argument : String) : Option (ItemKind α) :=
  let s := argument.toList
  if s.head? != some '-' then some .word
  else match options.find? fun option => option.name == argument with
    | some option => some (.option option none)
    | none =>
        if s.length = 1 then some .word
        else
          let (front, value) := cutFirst '=' s
          match options.find? fun option => value.isSome && option.name.toList == front with
          | some option => some (.option option (value.map String.ofList))
          | none =>
              match candidates options s with
              | [(option, value)] => some (.option option value)
              | [] => if isNegativeNumber s || s.contains ' ' then some .word else some .unknown
              | _ => none

/-- What the arguments are, or nothing when one of them may mean several options. -/
def items (options : List (Opt α)) : List String → Option (List (Item α))
  | [] => some []
  | argument :: rest =>
      if argument = "--" then
        some (⟨argument, .mark⟩ :: rest.map fun word => ⟨word, .word⟩)
      else do
        let kind ← classify options argument
        let others ← items options rest
        return ⟨argument, kind⟩ :: others

/-! ## Options with their values -/

/-- What an option is given: a text, or no text at all. A switch is given none,
and so is an option with an attached `--`, which is not the same as to leave the
option out. -/
abbrev Given := Option String

/-- What one or two arguments stand for. -/
inductive EventKind (α : Type) where
  | word (word : String)
  | mark
  | option (meaning : α) (value : Given)
  | final (meaning : α)
  | unknown
  | wrong
deriving DecidableEq, Repr

/-- What the arguments `raw` stand for. -/
structure Event (α : Type) where
  raw : List String
  kind : EventKind α
deriving DecidableEq, Repr

/-- An option with a value. An attached `--` gives no text. -/
def valued (meaning : α) (choices : List String) (value : String) : EventKind α :=
  if value = "--" then .option meaning none
  else if choices.isEmpty || choices.contains value then .option meaning (some value)
  else .wrong

/-- What an argument stands for when no value is taken from the next one. -/
def Item.alone (item : Item α) : EventKind α :=
  match item.kind with
  | .word => .word item.raw
  | .mark => .mark
  | .unknown => .unknown
  | .option option value =>
      match option.arity, value with
      | .switch, none => .option option.meaning none
      | .final, none => .final option.meaning
      | .value choices, some value => valued option.meaning choices value
      | _, _ => .wrong

/-- The choices of an option that takes its value from the next argument. -/
def Item.awaited? (item : Item α) : Option (α × List String) :=
  match item.kind with
  | .option option none =>
      match option.arity with
      | .value choices => some (option.meaning, choices)
      | _ => none
  | _ => none

/-- Whether an argument is a word. -/
def Item.isWord (item : Item α) : Bool :=
  match item.kind with
  | .word => true
  | _ => false

/-- What the arguments stand for, each option together with its value. -/
def events : List (Item α) → List (Event α)
  | [] => []
  | [item] => [⟨[item.raw], item.alone⟩]
  | item :: next :: rest =>
      match item.awaited? with
      | some (meaning, choices) =>
          if next.isWord then
            ⟨[item.raw, next.raw], valued meaning choices next.raw⟩ :: events rest
          else ⟨[item.raw], .wrong⟩ :: events (next :: rest)
      | none => ⟨[item.raw], item.alone⟩ :: events (next :: rest)

/-- What the arguments stand for, or nothing when one may mean several options. -/
def read (options : List (Opt α)) (arguments : List String) : Option (List (Event α)) :=
  (items options arguments).map events

/-! ## A command with one operand -/

/-- The options that were given, and the operand. -/
structure Gathered (α : Type) where
  options : List (α × Given) := []
  operand : Option String := none
  leftover : Bool := false
deriving DecidableEq, Repr

/-- How the arguments of a command end. -/
inductive Gathering (α : Type) where
  | gathered (all : Gathered α)
  | final (meaning : α)
  | wrong
deriving DecidableEq, Repr

/-- Gathers options and the operand. The mark may stand on either side of the
operand and nowhere else. -/
def gather (so : Gathered α) : List (Event α) → Gathering α
  | [] => .gathered so
  | ⟨_, .wrong⟩ :: _ => .wrong
  | ⟨_, .final meaning⟩ :: _ => .final meaning
  | ⟨_, .unknown⟩ :: rest => gather { so with leftover := true } rest
  | ⟨_, .option meaning value⟩ :: rest =>
      gather { so with options := so.options ++ [(meaning, value)] } rest
  | ⟨_, .mark⟩ :: ⟨_, .word word⟩ :: rest =>
      if so.operand.isNone then gather { so with operand := some word } rest
      else gather { so with leftover := true } rest
  | ⟨_, .mark⟩ :: rest => gather { so with leftover := true } rest
  | ⟨_, .word word⟩ :: ⟨_, .mark⟩ :: rest =>
      if so.operand.isNone then gather { so with operand := some word } rest
      else gather { so with leftover := true } rest
  | ⟨_, .word word⟩ :: rest =>
      if so.operand.isNone then gather { so with operand := some word } rest
      else gather { so with leftover := true } rest

namespace Gathered

/-- Whether an option was given. -/
def has [DecidableEq α] (all : Gathered α) (meaning : α) : Bool :=
  all.options.any fun option => option.1 = meaning

/-- What was given for an option, each time that it was. -/
def values [DecidableEq α] (all : Gathered α) (meaning : α) : List Given :=
  (all.options.filter fun option => option.1 = meaning).map (·.2)

/-- What was given for an option last, or the standard text where it was left out. -/
def valueD [DecidableEq α] (all : Gathered α) (meaning : α) (standard : String) : Given :=
  (all.values meaning).getLast?.getD (some standard)

/-- The text that was given for an option last, if it was a text. -/
def text? [DecidableEq α] (all : Gathered α) (meaning : α) : Option String :=
  (all.values meaning).getLast?.join

end Gathered

end AuthRedirect.CommandLine
