import BlockMarkup.Command.Run
import BlockMarkup.Markdown.Paragraphs

/-!
# The program

The program looks at the files that a command line is about, asks what the command line comes to, prints
that and writes the files that differ. A request to watch then goes on until an interrupt: the source is
looked at again and again, and every change is delivered to the watcher.
-/

namespace BlockMarkup.Program

open Text Command

/-! ## Looking at files -/

/-- What is at a place of the file system, a link where it really is at another one. -/
def lookAt (place : Place) : IO (Option FileTree) := do
  let found ← try some <$> IO.FS.realPath (String.ofList place.toText) catch _ => pure none
  match found with
  | none => return none
  | some path =>
    let really := Path.ofText path.toString.toList
    if really.steps ≠ place then return some (.link really)
    else if ← path.isDir then return some (.directory [])
    else
      try return some (.file (← IO.FS.readFile path).toList)
      catch e => return some (.binary e.toString.toList)

/-- A disk that also knows what is at a place. -/
def learn (d : Disk) (place : Place) : IO Disk := do
  match d.files.find place, ← lookAt place with
  | .error _, some found => return { d with files := d.files.put found place }
  | _, _ => return d

/-- A disk that also knows what is at the places on the way to a place. -/
def learnPlace (d : Disk) (place : Place) : IO Disk :=
  (List.range (place.length + 1)).foldlM (fun d n => learn d (place.take n)) d

/-- A disk that also knows what is on the way of a path, and where the links on it lead. -/
def learnPath (d : Disk) (p : Path) : IO Disk :=
  (List.range (p.steps.length + 1)).foldlM (fun d n => do
    let begun : Path := { p with steps := p.steps.take n }
    let some place := (d.entryPlace begun).toOption | return d
    let d ← learn d place
    match d.files.find place with
    | .ok (.link target) => learnPlace d target.steps
    | _ => return d) d

def learnPaths (d : Disk) (ps : List Path) : IO Disk := ps.foldlM learnPath d

/-! ## Looking at the environment -/

/-- The variables among some names that are set. -/
def setVariables (names : List Text) : IO (List (Text × Text)) :=
  names.filterMapM fun name => do
    return (← IO.getEnv (String.ofList name)).map fun value => (name, value.toList)

/-- The home directories of the users of the machine. -/
def readHomes : IO Homes := do
  let own := (← IO.getEnv "HOME").getD "/"
  let users ← try IO.FS.readFile "/etc/passwd" catch _ => pure ""
  let others := (lines users.toList).filterMap fun l =>
    let fields := splitWhen (· == ':') l
    match fields[0]?, fields[5]? with
    | some user, some home => some (user, home)
    | _, _ => none
  return ⟨own.toList, others⟩

/-- The width of a terminal that does not tell its width. -/
def usualColumns : Nat := 80

def readColumns : IO Nat := do
  return ((← IO.getEnv "COLUMNS").bind String.toNat?).getD usualColumns

/-- What the configuration of a command line can depend on. -/
def lookAround (args : List Text) : IO Surroundings := do
  let here := Path.ofText (← IO.currentDir).toString.toList
  let homes ← readHomes
  let given ← setVariables [Config.variableName]
  let env : Environment := fun name => given.lookup name
  let files := Config.possible homes env ((readInvocation args).toOption.bind (·.config))
  let disk ← learnPaths ⟨.directory [], here.steps, homes⟩ (here :: files)
  let texts := files.filterMap disk.content?
  let named ← setVariables (texts.flatMap fun t => (Config.references t).map (·.name))
  return {
    disk
    env := fun name => (given ++ named).lookup name
    input := []
    columns := ← readColumns
    reader := Config.usualReader
    renderer := Markdown.plain }

/-- What a request can depend on besides. -/
def lookFurther (s : Surroundings) (r : Request) : IO Surroundings := do
  let disk ← learnPaths s.disk r.paths
  let input ← if r.readsInput then (← IO.getStdin).readToEnd else pure ""
  return { s with disk, input := input.toList }

/-! ## Carrying out -/

def report (ls : List Text) : IO Unit := ls.forM fun l => IO.eprintln (String.ofList l)

/-- Writes the files that differ. -/
def save (before after : Disk) (ps : List Path) : IO Unit :=
  ps.forM fun p => do
    match after.content? p with
    | none => return
    | some content =>
      if before.content? p = some content then return
      IO.FS.createDirAll (String.ofList p.parent.toText)
      IO.FS.writeFile (String.ofList p.toText) (String.ofList content)

def carryOut (before : Disk) (ps : List Path) (o : Outcome) : IO UInt32 := do
  report o.errors
  save before o.disk ps
  o.output.forM fun item => IO.print (String.ofList item.toText)
  report (o.breakdown.toList.map Breakdown.message)
  return o.exitCode.toUInt32

/-! ## Watching -/

/-- How often the source is looked at, in milliseconds. -/
def pollInterval : UInt32 := 100

/-- A watcher that has been told whether its source has changed. -/
def observe (w : Watcher) : IO Watcher := do
  let source := w.plan.source
  let files := match ← lookAt source with
    | some found => w.disk.files.put found source
    | none => w.disk.files.erase source
  let changed := { w with disk := { w.disk with files } }
  if changed.disk.content? w.sourcePath = w.disk.content? w.sourcePath then return w
  return changed.deliver ⟨.modified, source.toText, [], false⟩

/-- Reports what a watcher has done since, and saves its output. -/
def publishSince (columns : Nat) (before after : Watcher) : IO Unit := do
  report (watchLines columns after.plan.config (after.history.drop before.history.length))
  save before.disk after.disk [after.plan.output]

/-- Watches until the program is interrupted. -/
partial def keepWatching (columns : Nat) (w : Watcher) (since : Nat) : IO UInt32 := do
  IO.sleep pollInterval
  let now ← IO.monoMsNow
  let observed ← observe w
  let next := observed.advance ((now - since : Nat) / 1000)
  publishSince columns observed next
  keepWatching columns { next with history := [] } now

def startWatching (s : Surroundings) (plan : WatchPlan) (notice : Text) : IO UInt32 := do
  match beginWatch s plan with
  | .error o => carryOut s.disk [plan.output] o
  | .ok w =>
    publishSince s.columns (Watcher.idle plan s.disk) w
    let o := s.saying success notice
    let exitCode ← carryOut s.disk [] o
    if o.breakdown.isSome then return exitCode
    let started := w.start
    publishSince s.columns w started
    keepWatching s.columns started (← IO.monoMsNow)

/-! ## Running -/

def runProgram (args : List Text) : IO UInt32 := do
  let s ← lookAround args
  match prepare s args with
  | .error o => carryOut s.disk [] o
  | .ok (c, r) =>
    let s ← lookFurther s r
    match r with
    | .watch source output form delay =>
      match planWatch s c source output form delay with
      | .error o => carryOut s.disk [] o
      | .ok plan => startWatching s plan (watchNotice source output)
    | _ => carryOut s.disk r.paths (settle (perform s c r))

end BlockMarkup.Program

def main (args : List String) : IO UInt32 :=
  BlockMarkup.Program.runProgram (args.map String.toList)
