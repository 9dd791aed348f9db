import BlockMarkup.Command.Arguments
import BlockMarkup.Command.Seconds
import BlockMarkup.Config.Lookup
import BlockMarkup.Publication

/-!
# Requests

What a command line asks for. Options of the whole program stand before the command, and those of the
command behind it.
-/

namespace BlockMarkup.Command

open Text

/-- A request; a source is a path, or a dash for the standard input. -/
inductive Request
  | render (source : Text) (output : Option Text) (form : Form) (strategy : Option Text)
  | check (source : Text) (form : Form) (format : Option Text) (strategy : Option Text)
  | watch (source output : Text) (form : Form) (delay : Nat)
  | showConfig
  | initConfig (force : Bool)
deriving DecidableEq

/-- The sign for the standard input. -/
def standardInput : Text := ['-']

namespace Request

def readsInput : Request → Bool
  | .render source .. | .check source .. => source = standardInput
  | _ => false

/-- The paths that a request is about. -/
def paths : Request → List Path
  | .render source output _ _ => Path.ofText source :: (output.map Path.ofText).toList
  | .check source .. => [Path.ofText source]
  | .watch source output _ _ => [Path.ofText source, Path.ofText output]
  | .showConfig => []
  | .initConfig _ => [Path.ofText Config.localName]

end Request

/-- Why there is no request: help was asked for, or the command line is wrong. -/
inductive Stop
  | help
  | usage (e : UsageError)
deriving DecidableEq

/-! ## Spellings -/

def flag (name : String) : Spelling := ⟨name.toList, name.toList, false⟩

def valued (name : String) : Spelling := ⟨name.toList, name.toList, true⟩

/-- A short name for an option. -/
def short (name : String) (of : Spelling) : Spelling := { of with name := name.toList }

def help : Spelling := flag "--help"

def config : Spelling := valued "--config"

def output : Spelling := valued "--output"

def format : Spelling := valued "--format"

def strategy : Spelling := valued "--strategy"

def programOptions : List Spelling := [config, short "-c" config, help]

def renderOptions : List Spelling :=
  [output, short "-o" output, flag "--slides", flag "--standalone", flag "--no-markdown", strategy,
    help]

def checkOptions : List Spelling :=
  [flag "--slides", format, short "-f" format, strategy, help]

def watchOptions : List Spelling :=
  [output, short "-o" output, flag "--slides", flag "--standalone", flag "--fragment",
    valued "--debounce", help]

/-! ## Reading command lines -/

/-- Reads options, and stops where they ask for help. -/
def readGiven (specs : List Spelling) (mixed : Bool) (args : List Text) :
    Except Stop (Given × List Text) :=
  match readArguments specs mixed args with
  | .error e => .error (.usage e)
  | .ok (given, others) => if given.contains "--help" then .error .help else .ok (given, others)

/-- The one argument of a command. -/
def theSource : List Text → Except Stop Text
  | [] => .error (.usage (.missingArgument "SOURCE"))
  | [source] => .ok source
  | _ :: a :: _ => .error (.usage (.extraArgument a))

def noArguments : List Text → Except Stop Unit
  | [] => .ok ()
  | a :: _ => .error (.usage (.extraArgument a))

inductive CommandName
  | render
  | check
  | watch
  | config
deriving DecidableEq

def CommandName.ofText? (t : Text) : Option CommandName :=
  if t = "render" then some .render
  else if t = "check" then some .check
  else if t = "watch" then some .watch
  else if t = "config" then some .config
  else none

/-- A command line cut at the command, with the configuration file that it names. -/
structure Invocation where
  config : Option Text
  command : CommandName
  arguments : List Text
deriving DecidableEq

def readInvocation (args : List Text) : Except Stop Invocation := do
  let (given, others) ← readGiven programOptions false args
  match others with
  | [] => .error (.usage .missingCommand)
  | name :: arguments =>
    match CommandName.ofText? name with
    | none => .error (.usage (.unknownCommand name))
    | some command => .ok ⟨given.value? "--config", command, arguments⟩

def readRender (args : List Text) : Except Stop Request := do
  let (g, others) ← readGiven renderOptions true args
  let source ← theSource others
  let markdown := if g.contains "--no-markdown" then some false else none
  return .render source (g.value? "--output")
    ⟨g.contains "--slides", markdown, g.contains "--standalone"⟩ (g.value? "--strategy")

def readCheck (args : List Text) : Except Stop Request := do
  let (g, others) ← readGiven checkOptions true args
  let source ← theSource others
  return .check source ⟨g.contains "--slides", some false, false⟩ (g.value? "--format")
    (g.value? "--strategy")

/-- How long a source has to be quiet unless told otherwise. -/
def usualDelay : Nat := 500

def readDelay (g : Given) : Except Stop Nat :=
  match g.value? "--debounce" with
  | none => .ok usualDelay
  | some t =>
    match milliseconds? t with
    | some ms => .ok ms
    | none => .error (.usage (.badValue "--debounce" t))

def readWatch (args : List Text) : Except Stop Request := do
  let (g, others) ← readGiven watchOptions true args
  let source ← theSource others
  let delay ← readDelay g
  return .watch source ((g.value? "--output").getD [])
    ⟨g.contains "--slides", none, g.isOn "--standalone" "--fragment" true⟩ delay

def readConfig (args : List Text) : Except Stop Request := do
  let (_, others) ← readGiven [help] false args
  match others with
  | [] => .error (.usage .missingCommand)
  | name :: rest =>
    if name = "show" then do
      let (_, others) ← readGiven [help] true rest
      noArguments others
      return .showConfig
    else if name = "init" then do
      let (g, others) ← readGiven [flag "--force", help] true rest
      noArguments others
      return .initConfig (g.contains "--force")
    else .error (.usage (.unknownCommand name))

/-- The request of a command with its arguments. -/
def readRequest (i : Invocation) : Except Stop Request :=
  match i.command with
  | .render => readRender i.arguments
  | .check => readCheck i.arguments
  | .watch => readWatch i.arguments
  | .config => readConfig i.arguments

end BlockMarkup.Command
