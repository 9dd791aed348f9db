import BlockMarkup.Watcher.Clock
import BlockMarkup.Watcher.Threads

/-!
# From start to stop

A session is a watcher at work that is told to stop at some moment. It first waits for the observer, which
delivers no more events from then on, and then for the timer that was armed last and its render. Neither wait
is longer than five seconds. Meanwhile renders go on.
-/

namespace BlockMarkup

/-- How far stopping has come, and since when. -/
inductive Phase
  | watching
  | joining (since : Rat)
  | waiting (since : Rat)
  | stopped
deriving DecidableEq

structure Session where
  threads : Threads
  phase : Phase

inductive Move
  | act (a : Action)
  | stop
  /-- The observer is over, or the wait for it. -/
  | joined
  /-- Stopping is over. -/
  | leave

namespace Threads

/-- The timer that was armed last is over, and so is its render, if there was one. -/
def isIdle (s : Threads) : Bool :=
  s.watcher.handler.due.isNone && s.renders.getLast?.all (· == .released)

def clock (s : Threads) : Rat := s.watcher.handler.clock

end Threads

namespace Phase

/-- Whether events are delivered. -/
def observes : Phase → Bool
  | watching | joining _ => true
  | _ => false

end Phase

namespace Session

/-- A watcher that was started. -/
def start (plan : WatchPlan) (disk : Disk) : Session where
  threads := { Threads.start plan disk with watcher := (Watcher.idle plan disk).start }
  phase := .watching

def clock (s : Session) : Rat := s.threads.clock

/-- Something else is done with the watcher. -/
def onWatcher (s : Session) (f : Watcher → Watcher) (phase : Phase) : Session where
  threads := { s.threads with watcher := f s.threads.watcher }
  phase := phase

def act (s : Session) : Move → Session
  | .act a => { s with threads := s.threads.act a }
  | .stop => s.onWatcher Watcher.askToStop (.joining s.clock)
  | .joined => s.onWatcher Watcher.withdraw (.waiting s.clock)
  | .leave => s.onWatcher Watcher.leave .stopped

/-- Whether the wait lasts until a moment. -/
def waitsUntil (s : Session) (moment : Rat) : Bool :=
  match s.phase with
  | .watching => true
  | .joining since => moment ≤ since + Watcher.patience
  | .waiting since => moment ≤ since + Watcher.patience && (!s.threads.isIdle || moment == s.clock)
  | .stopped => false

/-- Whether a move can happen now; all are on time. -/
def allows (s : Session) : Move → Bool
  | .act a =>
    s.threads.allows a && s.threads.isOnTime a &&
      match a with
      | .pass moment => s.waitsUntil moment
      | .deliver _ => s.phase.observes
      | _ => true
  | .stop => s.phase == .watching
  | .joined => (s.phase matches .joining _)
  | .leave =>
    match s.phase with
    | .waiting since => s.threads.isIdle || s.clock == since + Watcher.patience
    | _ => false

/-- After some moves. -/
def after (s : Session) (ms : List Move) : Session := ms.foldl act s

/-- Whether some moves can happen one after the other. -/
def admits (s : Session) : List Move → Bool
  | [] => true
  | m :: ms => s.allows m && (s.act m).admits ms

/-- Whether no render holds the lock longer than some time in the course of some moves. -/
def rendersWithin (longest : Rat) (s : Session) : List Move → Bool
  | [] => true
  | m :: ms =>
    (match m with
      | .act (.pass moment) => s.threads.watcher.handler.lastsWithin longest moment
      | _ => true) && (s.act m).rendersWithin longest ms

end Session

end BlockMarkup
