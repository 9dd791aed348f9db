import BlockMarkup.Text.Basic

/-!
# Arguments

Options and other arguments on a command line. A long option may have its value behind an equals sign,
a short one right behind its letter, and flags of one letter may stand together; otherwise the next
argument is the value, whatever it looks like. Two dashes end the options.
-/

namespace BlockMarkup.Command

open Text

inductive UsageError
  | unknownOption (name : Text)
  | needsValue (name : Text)
  | takesNoValue (name : Text)
  | badValue (name value : Text)
  | missingArgument (name : Text)
  | extraArgument (argument : Text)
  | missingCommand
  | unknownCommand (name : Text)
deriving DecidableEq

def UsageError.message : UsageError → Text
  | .unknownOption name => "No such option: " ++ name
  | .needsValue name => "Option '" ++ name ++ "' requires an argument."
  | .takesNoValue name => "Option '" ++ name ++ "' does not take a value."
  | .badValue name value => "Invalid value for '" ++ name ++ "': '" ++ value ++ "'."
  | .missingArgument name => "Missing argument '" ++ name ++ "'."
  | .extraArgument argument => "Got unexpected extra argument (" ++ argument ++ ")"
  | .missingCommand => "Missing command."
  | .unknownCommand name => "No such command '" ++ name ++ "'."

/-- A way to write an option: the name on the command line, the key it gives, and whether a value
goes with it. -/
structure Spelling where
  name : Text
  key : Text
  takesValue : Bool

/-- Options with their values; flags have none. -/
abbrev Given := List (Text × Option Text)

/-- What one argument gives, and the option that is still without its value. -/
structure Reading where
  given : Given
  open? : Option Spelling

def spelling? (specs : List Spelling) (name : Text) : Option Spelling :=
  specs.find? (·.name = name)

/-- A long option, with the value behind its equals sign. -/
def readLong (s : Spelling) (value : Option Text) : Except UsageError Reading :=
  match s.takesValue, value with
  | true, some v => .ok ⟨[(s.key, some v)], none⟩
  | true, none => .ok ⟨[], some s⟩
  | false, some _ => .error (.takesNoValue s.name)
  | false, none => .ok ⟨[(s.key, none)], none⟩

/-- Options of one letter that stand together. -/
def readShort (specs : List Spelling) : Text → Except UsageError Reading
  | [] => .ok ⟨[], none⟩
  | c :: cs =>
    match spelling? specs ['-', c] with
    | none => .error (.unknownOption ['-', c])
    | some s =>
      if s.takesValue then
        .ok (if cs.isEmpty then ⟨[], some s⟩ else ⟨[(s.key, some cs)], none⟩)
      else (readShort specs cs).map fun r => { r with given := (s.key, none) :: r.given }

/-- An argument that begins with a dash. -/
def readOption (specs : List Spelling) (a : Text) : Except UsageError Reading :=
  let name := a.takeWhile (· != '=')
  let value := match a.dropWhile (· != '=') with
    | _ :: v => some v
    | [] => none
  match after? "--" name, spelling? specs name with
  | some _, some s => readLong s value
  | some _, none => .error (.unknownOption name)
  | none, _ => readShort specs a.tail

def isOption (a : Text) : Bool := a.head? == some '-' && a.length > 1

/-- The options of a command line and its other arguments; unless options may stand among these,
everything from the first of them on is left as it is. -/
def readArguments (specs : List Spelling) (mixed : Bool) :
    List Text → Except UsageError (Given × List Text)
  | [] => .ok ([], [])
  | a :: rest =>
    if a = "--" then .ok ([], rest)
    else if isOption a then
      match readOption specs a, rest with
      | .error e, _ => .error e
      | .ok ⟨given, none⟩, rest => do
        let (more, others) ← readArguments specs mixed rest
        return (given ++ more, others)
      | .ok ⟨_, some s⟩, [] => .error (.needsValue s.name)
      | .ok ⟨given, some s⟩, v :: rest => do
        let (more, others) ← readArguments specs mixed rest
        return (given ++ (s.key, some v) :: more, others)
    else if mixed then do
      let (more, others) ← readArguments specs mixed rest
      return (more, a :: others)
    else .ok ([], a :: rest)

namespace Given

/-- The last value of an option. -/
def value? (g : Given) (key : String) : Option Text :=
  (g.reverse.find? fun e => e.1 = key.toList).bind Prod.snd

def contains (g : Given) (key : String) : Bool := g.any fun e => e.1 = key.toList

/-- Of two flags that undo each other, whether the first came last. -/
def isOn (g : Given) (on off : String) (fallback : Bool) : Bool :=
  match g.reverse.find? fun e => e.1 = on.toList || e.1 = off.toList with
  | some e => e.1 = on.toList
  | none => fallback

end Given

end BlockMarkup.Command
