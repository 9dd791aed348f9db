import BlockMarkup.Watcher.Basic
import Mathlib.Control.Monad.Basic

/-!
# Renders in threads

Every time the timer expires, a thread of its own renders. It waits for the lock, reads the source,
writes the output and lets the lock go. Meanwhile the source is edited, events are delivered, and the
timer, armed again, expires again. A run is any sequence of these actions in which each one happens
when it can; timers may be late and renders slow in it, unless it is on time.
-/

namespace BlockMarkup

open Text

namespace Watcher

/-- What the output file holds now. -/
def output? (w : Watcher) : Option Text := w.disk.content? w.plan.output

/-- What the render that holds the lock is going to write, if it can. -/
def publication? (w : Watcher) : Option Publication :=
  match w.handler.running with
  | some (_, .ok t) =>
    (w.plan.publish t).toOption.filter fun p => (w.disk.write w.plan.output p.html).isOk
  | _ => none

end Watcher

/-- How far a render has come since its timer expired. -/
inductive Stage
  | waiting
  /-- It has taken the lock and read the source. -/
  | rendering (content : Except FileError Text)
  /-- It has written the output, or failed, and still holds the lock. -/
  | rendered
  | released
deriving DecidableEq

namespace Stage

def isRendering : Stage → Bool
  | rendering _ => true
  | _ => false

/-- Whether the render is between taking the lock and letting it go. -/
def holdsLock : Stage → Bool
  | rendering _ | rendered => true
  | _ => false

end Stage

/-- A watcher and its renders in the order in which their timers expired. Reads and writes are noted
with the render they belong to, and so is whether the source has been edited since the last event
on it was delivered. -/
structure Threads where
  watcher : Watcher
  renders : List Stage
  reads : List (Nat × Except FileError Text)
  writes : List (Nat × Publication)
  edited : Bool

inductive Action
  | pass (moment : Rat)
  /-- Files change, as long as that is no change of the output alone. -/
  | edit (files : FileTree)
  | deliver (event : FileEvent)
  | expire
  | take (render : Nat)
  | finish (render : Nat)
  | release (render : Nat)

namespace Threads

def start (plan : WatchPlan) (disk : Disk) : Threads where
  watcher := .idle plan disk
  renders := []
  reads := []
  writes := []
  edited := false

/-- The watcher after its files may have changed. -/
def moveTo (s : Threads) (w : Watcher) : Threads :=
  { s with watcher := w, edited := s.edited || w.readSource != s.watcher.readSource }

def act (s : Threads) : Action → Threads
  | .pass moment => { s with watcher := s.watcher.pass moment }
  | .edit files => s.moveTo { s.watcher with disk := { s.watcher.disk with files } }
  | .deliver e => { s with watcher := s.watcher.deliver e, edited := false }
  | .expire => { s with watcher := s.watcher.expire, renders := s.renders ++ [.waiting] }
  | .take i =>
    { s with
      watcher := s.watcher.take
      renders := s.renders.set i (.rendering s.watcher.readSource)
      reads := s.reads ++ [(i, s.watcher.readSource)] }
  | .finish i =>
    { s.moveTo s.watcher.finish with
      renders := s.renders.set i .rendered
      writes := s.writes ++ (s.watcher.publication?.map (i, ·)).toList }
  | .release i => { s with watcher := s.watcher.release, renders := s.renders.set i .released }

/-- Whether an action can happen now. -/
def allows (s : Threads) : Action → Bool
  | .pass moment => s.watcher.handler.clock ≤ moment
  | .edit files =>
    (s.act (.edit files)).watcher.output? == s.watcher.output? ||
      (s.act (.edit files)).watcher.readSource != s.watcher.readSource
  | .deliver e => s.watcher.concerns e
  | .expire => s.watcher.handler.due.isSome
  | .take i => s.renders[i]? == some .waiting && s.watcher.handler.running.isNone
  | .finish i => s.renders[i]?.any Stage.isRendering
  | .release i => s.renders[i]? == some .rendered

/-- Whether an action is on time: timers expire when they are due, and a render waits for nothing but the
lock. -/
def isOnTime (s : Threads) : Action → Bool
  | .pass moment => s.watcher.handler.mayPass moment
  | .expire => s.watcher.handler.isDue
  | _ => true

/-- After some actions. -/
def after (s : Threads) (as : List Action) : Threads := as.foldl act s

/-- Whether some actions can happen one after the other. -/
def admits (s : Threads) : List Action → Bool
  | [] => true
  | a :: as => s.allows a && (s.act a).admits as

end Threads

end BlockMarkup
