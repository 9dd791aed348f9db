import BlockMarkup.Watcher.Basic

/-!
# A watcher by the clock

The course of a watcher whose renders take no time: time passes, the timer expires when it is due, and watching
starts and stops. To stop is to wait for a render that is due within five seconds.
-/

namespace BlockMarkup.Watcher

open Text

/-- Lets time pass until a moment, and the timer expire when it is due. -/
def advanceTo (w : Watcher) (moment : Rat) : Watcher :=
  let w := match w.handler.due with
    | some t => if t ≤ moment then (w.pass t).fire else w
    | none => w
  w.pass moment

def advance (w : Watcher) (seconds : Rat) : Watcher := w.advanceTo (w.handler.clock + seconds)

/-- Waits for an armed timer, but no longer than a time limit. -/
def join (w : Watcher) (limit : Option Rat) : Watcher :=
  match w.handler.due with
  | none => w
  | some t =>
    match limit with
    | none => w.advanceTo t
    | some seconds =>
      if t ≤ w.handler.clock + seconds then w.advanceTo t else w.advance seconds

/-- How long stopping waits for the observer, and then for a render, in seconds. -/
def patience : Rat := 5

def start (w : Watcher) : Watcher :=
  if w.observing then w
  else
    { w with observing := true }.add [.called (.schedule w.plan.source.dropLast), .called .start]
      |>.tell .info ("Watching " ++ w.plan.source.toText ++ " for changes")

/-- Tells the observer to stop, and waits for it. -/
def askToStop (w : Watcher) : Watcher := w.add [.called .stop, .called .join]

/-- Forgets the observer. -/
def withdraw (w : Watcher) : Watcher := { w with observing := false }

/-- Takes leave. -/
def leave (w : Watcher) : Watcher := w.tell .info ("Stopped watching " ++ w.plan.source.toText)

def stop (w : Watcher) : Watcher :=
  if w.observing then (w.askToStop.withdraw.join (some patience)).leave else w

/-- Watches until an interrupt that comes at once. -/
def startAndStop (w : Watcher) : Watcher := w.start.stop

end BlockMarkup.Watcher
