import BlockMarkup.Config.Basic
import BlockMarkup.Config.Template
import BlockMarkup.Files.Tree

/-!
# Finding the configuration

A configuration file may be named on the command line, or by a variable of the environment, and then
it has to exist. After these come a file where the program runs and one in the home directory. The
first file that says anything decides alone; with none of them the defaults hold. How a file is read as a
value, and what is objected to the value, is left to a reader of files.
-/

namespace BlockMarkup.Config

open Text

/-- The variable that names a configuration file. -/
def variableName : Text := "DSFRMARK_CONFIG"

/-- The configuration file where the program runs. -/
def localName : Text := "dsfrmark.yaml"

/-- Who named a configuration file. -/
inductive Origin
  | argument
  | environment
deriving DecidableEq

/-! ## Readers -/

/-- The kind of a mapping. -/
def mappingKind : Text := (Value.map []).kind

/-- What the text of a file is read as. -/
inductive Document
  /-- It is not well written. -/
  | malformed (why : Text)
  /-- A scalar in it stands for nothing, as a day does that no month has. -/
  | senseless (why : Text)
  /-- A scalar in it is not what its tag says, and reading breaks down with a fault of some name. -/
  | broken (fault why : Text)
  | tooDeep
  | value (v : Value)
  /-- A list or a mapping of the kind that is named, somewhere within itself. -/
  | endless (kind : Text)

/-- What reads the texts of files, checks the entries of a mapping with texts for keys, and puts its objections
into words. -/
structure Reader (φ : Type) where
  read : Text → Document
  check : List (Text × Value) → Except φ Config
  describe : φ → Text

/-! ## Errors -/

/-- Why there is no configuration. -/
inductive LoadError (φ : Type)
  | homeless
  | unreachable (e : FileError)
  | missing (origin : Origin) (given : Text)
  | unreadable (path : Path) (why : Text)
  | senseless (why : Text)
  | broken (fault why : Text)
  | tooDeep
  | notMapping (path : Path) (kind : Text)
  /-- A key is no text. -/
  | strangeKey
  | invalid (path : Path) (objection : φ)
deriving DecidableEq

variable {φ : Type}

/-- The message, but for what the reader says. -/
def LoadError.heading : LoadError φ → Text
  | .homeless => "Could not determine home directory."
  | .unreachable e => e.message
  | .missing .argument given => "Config file not found: " ++ given
  | .missing .environment given => '$' :: variableName ++ " file not found: " ++ given
  | .unreadable path _ => "Invalid YAML in " ++ path.toText
  | .senseless why => why
  | .broken _ why => why
  | .tooDeep => "maximum recursion depth exceeded"
  | .notMapping path kind =>
    "Invalid config in " ++ path.toText ++ ": expected a mapping, got " ++ kind
  | .strangeKey => "keywords must be strings"
  | .invalid path _ => "Invalid config in " ++ path.toText

def LoadError.message (describe : φ → Text) (e : LoadError φ) : Text :=
  match e with
  | .unreadable _ why => e.heading ++ ": " ++ why
  | .invalid _ objection => e.heading ++ ": " ++ describe objection
  | _ => e.heading

/-! ## Candidates -/

/-- The file that was named, which has to exist; an empty name names none. -/
def named (d : Disk) (origin : Origin) : Option Text → Except (LoadError φ) (List Path)
  | none => .ok []
  | some [] => .ok []
  | some given => do
    let some path := (Path.ofText given).expandHome? d.homes | .error .homeless
    if ← (d.contains path).mapError .unreachable then return [path]
    else .error (.missing origin given)

/-- The files that nobody has to name. -/
def usual? (homes : Homes) : Option (List Path) := do
  let home ← homes.find? []
  return [Path.ofText localName, home.further [".dsfrmark".toList, "config.yaml".toList]]

/-- The files in which a configuration is looked for, named or not. -/
def possible (homes : Homes) (env : Environment) (argument : Option Text) : List Path :=
  (argument.toList ++ (env variableName).toList).filterMap
      (fun t => (Path.ofText t).expandHome? homes) ++
    (usual? homes).getD []

/-- The candidates in order. -/
def candidates (d : Disk) (env : Environment) (argument : Option Text) :
    Except (LoadError φ) (List Path) := do
  let first ← named d .argument argument
  let second ← named d .environment (env variableName)
  let some others := usual? d.homes | .error .homeless
  return first ++ second ++ others

/-- The entries of a mapping, if all its keys are texts. -/
def keyed? (es : List (Key × Value)) : Option (List (Text × Value)) :=
  es.mapM fun
    | (.text key, v) => some (key, v)
    | (.other _, _) => none

/-- What a mapping says once its references are filled in. -/
def ofEntries (r : Reader φ) (env : Environment) (path : Path) (es : List (Key × Value)) :
    Except (LoadError φ) Config :=
  match keyed? (Value.mapTextEntries (fill env) es) with
  | some es => (r.check es).mapError (.invalid path)
  | none => .error .strangeKey

/-- What a candidate says, if it says anything. Filling in a mapping that is within itself has no end. -/
def ofDocument? (r : Reader φ) (env : Environment) (path : Path) :
    Document → Except (LoadError φ) (Option Config)
  | .malformed why => .error (.unreadable path why)
  | .senseless why => .error (.senseless why)
  | .broken fault why => .error (.broken fault why)
  | .tooDeep => .error .tooDeep
  | .endless kind => .error (if kind = mappingKind then .tooDeep else .notMapping path kind)
  | .value .null => .ok none
  | .value (.map es) => (ofEntries r env path es).map some
  | .value v => .error (.notMapping path v.kind)

/-- What the first candidate says that says anything. -/
def firstOf (r : Reader φ) (d : Disk) (env : Environment) :
    List Path → Except (LoadError φ) (Option Config)
  | [] => .ok none
  | path :: paths => do
    let found ← (d.readFile? path).mapError .unreachable
    let config ← found.elim (.ok none) fun t => ofDocument? r env path (r.read t)
    if config.isSome then return config else firstOf r d env paths

/-- The configuration that holds. -/
def load (r : Reader φ) (d : Disk) (env : Environment) (argument : Option Text) :
    Except (LoadError φ) Config := do
  let paths ← candidates d env argument
  return (← firstOf r d env paths).getD default

end BlockMarkup.Config
