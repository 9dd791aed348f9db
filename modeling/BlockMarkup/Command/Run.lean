import BlockMarkup.Command.Outcome
import BlockMarkup.Command.Request
import BlockMarkup.Config.Sample
import BlockMarkup.Config.Standard
import BlockMarkup.Watcher.Clock
import BlockMarkup.Yaml.Writing

/-!
# Running requests

The configuration is found before the arguments of a command are read, so that a bad configuration
stops every command. Reports go to the error output, before anything is written.
-/

namespace BlockMarkup.Command

open Text

/-- What a run can see: the files, the environment, the standard input and the width of the terminal; and who
reads configuration files for it and renders what surrounds the components. -/
structure Surroundings where
  disk : Disk
  env : Environment
  input : Text
  columns : Nat
  reader : Config.Reader (List Config.Fault)
  renderer : Markdown.Renderer

namespace Surroundings

/-- An outcome that prints a text and changes nothing. -/
def printing (s : Surroundings) (exitCode : Nat) (t : Text) : Outcome :=
  ⟨exitCode, [.text (t ++ "\n")], [], s.disk, none⟩

def breaking (s : Surroundings) (b : Breakdown) : Outcome := ⟨failure, [], [], s.disk, some b⟩

/-- An outcome that says a message and changes nothing. -/
def saying (s : Surroundings) (exitCode : Nat) (message : Text) : Outcome :=
  match Console.messageLines s.columns message with
  | .ok ls => s.printing exitCode (unlines ls)
  | .error e => s.breaking (.markup e)

def refusing (s : Surroundings) (why : Text) : Outcome :=
  s.saying failure ("[red]Error:[/red] " ++ why)

/-- The text of a source. -/
def sourceText (s : Surroundings) (source : Text) : Except Outcome Text :=
  if source = standardInput then .ok (normalizeNewlines s.input)
  else
    match s.disk.readFile? (Path.ofText source) with
    | .ok (some t) => .ok t
    | .ok none => .error (s.refusing ("File not found: " ++ source))
    | .error e => .error (s.breaking (.file e))

end Surroundings

/-! ## Logs -/

/-- The lines of the records that a configuration asks for. -/
def logLines (c : Config) (rs : List Log.Record) : List Text :=
  (Log.atLeast c.logLevel rs).map fun r => r.write c.logFormat

/-! ## Rendering and checking -/

/-- A configuration with another strategy. -/
def withStrategy (s : Surroundings) (c : Config) : Option Text → Except Outcome Config
  | none => .ok c
  | some name =>
    match Strategy.ofName? name with
    | some strategy => .ok { c with transpiler := { c.transpiler with strategy } }
    | none => .error (s.refusing
        ("Unknown strategy " ++ quoted name ++ " (expected nested or passes)"))

/-- Says that a file was written, after something else was told. -/
def reportWritten (s : Surroundings) (file : Path) (told : List Text) : Outcome :=
  match Console.messageLines s.columns ("[green]Wrote[/green] " ++ file.toText) with
  | .ok ls => ⟨success, [], told ++ ls, s.disk, none⟩
  | .error e => { s.breaking (.markup e) with errors := told }

/-- Renders a source to a file or to the standard output. -/
def render (s : Surroundings) (c : Config) (source : Text) (output : Option Text) (form : Form) :
    Except Outcome Outcome := do
  let t ← s.sourceText source
  let begun := logLines c (c.journal s.renderer form t)
  let p ← (c.publish s.renderer form t).mapError fun why =>
    { s.breaking (.rendering why) with errors := begun }
  let told := begun ++ p.reports.flatMap (warning s.columns)
  match output.getD [] with
  | [] => return { s.printing success (Console.withoutSequences p.html) with errors := told }
  | name =>
    let file := Path.ofText name
    match s.disk.write file p.html with
    | .error (e, disk) => return { s.breaking (.file e) with errors := told, disk }
    | .ok disk => return reportWritten { s with disk } file (told ++ logLines c [p.writtenRecord file])

/-- What is printed of reports: a list of them, good news, or a table. -/
def reportOutcome (s : Surroundings) (slides : Bool) (format : Option Text) (ds : List Diagnostic) :
    Outcome :=
  if format = some "json" then
    s.printing success (Json.onManyLines (.list (ds.map reportValue)))
  else if ds.isEmpty then s.saying success "[green]No problems found.[/green]"
  else ⟨success, [.table (reportTable s.columns slides ds)], [], s.disk, none⟩

/-- Shows the reports on a source; to a strict configuration they are a failure. -/
def check (s : Surroundings) (c : Config) (source : Text) (form : Form) (format : Option Text) :
    Except Outcome Outcome := do
  let t ← s.sourceText source
  let begun := logLines c (c.journal s.renderer form t)
  let p ← (c.publish s.renderer form t).mapError fun why =>
    { s.breaking (.rendering why) with errors := begun }
  return { reportOutcome s form.slides format p.reports with
    exitCode := if c.strictness = .strict && !p.reports.isEmpty then failure else success
    errors := begun }

/-! ## Watching -/

/-- The lines that a watcher's doings put out. -/
def watchLines (columns : Nat) (c : Config) (hs : List Happening) : List Text :=
  hs.flatMap fun
    | .logged r => logLines c [r]
    | .published p => p.reports.flatMap (warning columns)
    | _ => []

/-- The plan of a watcher, with a delay in milliseconds. -/
def planWatch (s : Surroundings) (c : Config) (source output : Text) (form : Form) (delay : Nat) :
    Except Outcome WatchPlan :=
  if output.isEmpty then .error (s.printing failure "Error: --output is required for watch mode")
  else do
    let file := Path.ofText source
    match s.disk.hasFile file, s.disk.resolve? file with
    | .error e, _ => .error (s.breaking (.file e))
    | .ok false, _ => .error (s.refusing ("File not found: " ++ source))
    | .ok true, none => .error (s.breaking (.circular file))
    | .ok true, some place =>
      return ⟨c, s.renderer, form, place, Path.ofText output, delay / 1000, fun _ => none⟩

/-- A watcher that has rendered its source once. -/
def beginWatch (s : Surroundings) (plan : WatchPlan) : Except Outcome Watcher :=
  match (Watcher.idle plan s.disk).build with
  | (w, none) => .ok w
  | (w, some e) =>
    .error ⟨failure, [], watchLines s.columns plan.config w.history, w.disk, some (.ofRender e)⟩

/-- What is said when watching begins. -/
def watchNotice (source output : Text) : Text :=
  "[bold]Watching[/bold] " ++ source ++ " -> " ++ output ++ " (Ctrl+C to stop)"

/-- Renders a source once, and watches it until an interrupt that comes at once. -/
def watch (s : Surroundings) (c : Config) (source output : Text) (form : Form) (delay : Nat) :
    Except Outcome Outcome := do
  let plan ← planWatch s c source output form delay
  let begun ← beginWatch s plan
  let notice := { s with disk := begun.disk }.saying success (watchNotice source output)
  let w := if notice.breakdown.isNone then begun.startAndStop else begun
  return { notice with errors := watchLines s.columns c w.history, disk := w.disk }

/-! ## Configurations -/

/-- A configuration on lines that are cut where the terminal ends. -/
def showConfig (s : Surroundings) (c : Config) : Outcome :=
  s.printing success
    (unlines ((lines (Yaml.write (some 80) c.toValue)).map (Console.crop s.columns)))

/-- Writes a first configuration file, but over another only if told so. -/
def initConfig (s : Surroundings) (force : Bool) : Outcome :=
  let file := Path.ofText Config.localName
  match s.disk.contains file with
  | .error e => s.breaking (.file e)
  | .ok present =>
    if present && !force then
      s.saying failure
        ("[yellow]" ++ Config.localName ++ " already exists.[/yellow] Use --force to overwrite.")
    else
      match s.disk.writeLast file Config.sample with
      | .error e => s.breaking (.file e)
      | .ok disk => { s with disk }.saying success ("[green]Created[/green] " ++ file.toText)

/-! ## Running -/

/-- The outcome, whether or not it came early. -/
def settle : Except Outcome Outcome → Outcome
  | .ok o => o
  | .error o => o

def perform (s : Surroundings) (c : Config) : Request → Except Outcome Outcome
  | .render source output form strategy => do
    let c ← withStrategy s c strategy
    render s c source output form
  | .check source form format strategy => do
    let c ← withStrategy s c strategy
    check s c source form format
  | .watch source output form delay => watch s c source output form delay
  | .showConfig => return showConfig s c
  | .initConfig force => return initConfig s force

/-- The usage, or what is wrong with the command line. -/
def Stop.outcome (s : Surroundings) : Stop → Outcome
  | .help =>
    s.printing success "Usage: dsfrmark [--config FILE] render|check|watch|config [OPTIONS] ARGS"
  | .usage e => ⟨misuse, [], ["Error: " ++ e.message], s.disk, none⟩

/-- What a run comes to that has no configuration. -/
def loadOutcome (s : Surroundings) : Config.LoadError (List Config.Fault) → Outcome
  | .homeless => s.breaking .homeless
  | .unreachable ⟨.undecodable why, _⟩ => s.refusing why
  | .unreachable e => s.breaking (.file e)
  | .tooDeep => s.breaking .tooDeep
  | .strangeKey => s.breaking .strangeKey
  | .broken fault why => s.breaking (.reading fault why)
  | e => s.refusing (e.message s.reader.describe)

/-- The configuration and the request of a command line, or what the run comes to without them. -/
def prepare (s : Surroundings) (args : List Text) : Except Outcome (Config × Request) := do
  let i ← (readInvocation args).mapError (Stop.outcome s)
  let c ← (Config.load s.reader s.disk s.env i.config).mapError (loadOutcome s)
  let r ← (readRequest i).mapError (Stop.outcome s)
  return (c, r)

/-- What a command line comes to. -/
def run (s : Surroundings) (args : List Text) : Outcome :=
  settle do
    let (c, r) ← prepare s args
    perform s c r

end BlockMarkup.Command
