import BlockMarkup.Files.Tree
import BlockMarkup.Publication
import BlockMarkup.Watcher.Debouncer

/-!
# Watching a source

A watcher renders a source again whenever it has changed. Its debouncer is told of the events on the source,
and its calls are renders: each one takes the lock, reads the source, writes the output, and lets the lock
go. What a watcher does is kept in its history.
-/

namespace BlockMarkup

open Text

/-- What the watcher tells the part of the system that observes directories. -/
inductive ObserverCall
  | schedule (directory : Place)
  | start
  | stop
  | join
deriving DecidableEq

/-- What a watcher has done. -/
inductive Happening
  | delivered (event : FileEvent)
  | read (content : Except FileError Text)
  | published (p : Publication)
  | logged (r : Log.Record)
  | called (c : ObserverCall)

/-- Why a render does not come to its end. -/
inductive RenderFault
  | file (e : FileError)
  | markdown (why : Text)
  /-- The output is written, but who listens does not get over it. -/
  | listener (why : Text)
deriving DecidableEq

/-- What is rendered where and how, and how long the source has to be quiet before that, in seconds. Who
listens is told of every publication that was written, and may fail then. -/
structure WatchPlan where
  config : Config
  render : Markdown.Renderer
  form : Form
  source : Place
  output : Path
  delay : Rat
  listener : Publication → Option Text

/-- What comes of a text. -/
def WatchPlan.publish (plan : WatchPlan) (t : Text) : Except Text Publication :=
  plan.config.publish plan.render plan.form t

/-- A watcher at work; a render that holds the lock is about what it has read. -/
structure Watcher where
  plan : WatchPlan
  disk : Disk
  handler : Debouncer (Except FileError Text)
  observing : Bool
  history : List Happening

namespace Watcher

/-- A watcher before it has done anything. -/
def idle (plan : WatchPlan) (disk : Disk) : Watcher where
  plan := plan
  disk := disk
  handler := .idle plan.source plan.delay 0
  observing := false
  history := []

def add (w : Watcher) (hs : List Happening) : Watcher := { w with history := w.history ++ hs }

def tell (w : Watcher) (level : Log.Level) (message : Text) : Watcher :=
  w.add [.logged ⟨level, .watcher, message⟩]

def sourcePath (w : Watcher) : Path := ⟨true, w.plan.source⟩

/-! ## Rendering -/

/-- Publishes a text that was read and writes the output. -/
def write (w : Watcher) (t : Text) : Watcher × Option RenderFault :=
  let w := w.add ((w.plan.config.journal w.plan.render w.plan.form t).map .logged)
  match w.plan.publish t with
  | .error why => (w, some (.markdown why))
  | .ok p =>
    match w.disk.write w.plan.output p.html with
    | .error (e, disk) => ({ w with disk }, some (.file e))
    | .ok disk =>
      ({ w with disk }.add [.logged (p.writtenRecord w.plan.output), .published p],
        (w.plan.listener p).map .listener)

/-- What reading the source gives now. -/
def readSource (w : Watcher) : Except FileError Text := w.disk.read w.sourcePath

/-- Renders once, whoever holds the lock. -/
def build (w : Watcher) : Watcher × Option RenderFault :=
  match w.readSource with
  | .error e => (w, some (.file e))
  | .ok t => w.write t

/-! ## The steps of a render -/

/-- Time passes. -/
def pass (w : Watcher) (moment : Rat) : Watcher := { w with handler := w.handler.pass moment }

def concerns (w : Watcher) (e : FileEvent) : Bool := e.concerns w.disk.resolve? w.plan.source

/-- An event is delivered; one that concerns the source sets the timer. -/
def deliver (w : Watcher) (e : FileEvent) : Watcher :=
  if w.concerns e then
    { w with handler := w.handler.deliver w.disk.resolve? e }.add [.delivered e]
  else w

/-- The timer expires, and its render waits for the lock. -/
def expire (w : Watcher) : Watcher := { w with handler := w.handler.expire }

/-- A waiting render takes the lock and reads the source. -/
def take (w : Watcher) : Watcher :=
  { w with handler := w.handler.call w.readSource }.add [.read w.readSource]

/-- A render fails, which is said and no more. -/
def failed (w : Watcher) : Watcher :=
  { w with handler := w.handler.fail }.tell .error ("Render failed for " ++ w.plan.source.toText)

/-- The render that holds the lock writes the output, if it can. -/
def finish (w : Watcher) : Watcher :=
  match w.handler.running with
  | none => w
  | some (_, .error _) => w.failed
  | some (_, .ok t) =>
    match w.write t with
    | (w, none) => w
    | (w, some _) => w.failed

def release (w : Watcher) : Watcher := { w with handler := w.handler.release }

/-- A render from the timer to the release of the lock, with nothing in between. -/
def fire (w : Watcher) : Watcher := w.expire.take.finish.release

end Watcher

end BlockMarkup
