import BlockMarkup.Watcher.Event

/-!
# Debouncers

A debouncer is told of events and makes calls. An event on its target arms a timer, or sets an armed one
back; when the timer expires, a call is asked for. Calls are made one at a time, by who holds a lock: whoever
comes while it is taken waits for it. A call takes its time and may fail, which is noted and no more. What a
call is about is left open.

On time means that nobody is late: time runs to the moment at which a timer is due and not past it, and not
while somebody waits for a lock that is free.
-/

namespace BlockMarkup

/-- What a debouncer has done. -/
inductive Mark
  | expired
  | called
  | failed
  | released
deriving DecidableEq

/-- A debouncer at work: the time, when the armed timer expires, how many calls wait for the lock, since when the
call that holds it runs and what it is about, and what has been done when. -/
structure Debouncer (α : Type) where
  target : Place
  delay : Rat
  clock : Rat
  due : Option Rat
  waiting : Nat
  running : Option (Rat × α)
  history : List (Rat × Mark)

namespace Debouncer

variable {α : Type}

/-- A debouncer before it has done anything. -/
def idle (target : Place) (delay clock : Rat) : Debouncer α where
  target := target
  delay := delay
  clock := clock
  due := none
  waiting := 0
  running := none
  history := []

section Steps

variable (s : Debouncer α)

def note (m : Mark) : Debouncer α := { s with history := s.history ++ [(s.clock, m)] }

/-- Time passes. -/
def pass (moment : Rat) : Debouncer α := { s with clock := moment }

/-- An event is delivered; one that concerns the target sets the timer. -/
def deliver (resolve : Path → Option Place) (e : FileEvent) : Debouncer α :=
  if e.concerns resolve s.target then { s with due := some (s.clock + s.delay) } else s

/-- The timer expires, and its call waits for the lock. -/
def expire : Debouncer α := { s with due := none, waiting := s.waiting + 1 }.note .expired

/-- A waiting call takes the lock and begins. -/
def call (about : α) : Debouncer α :=
  { s with waiting := s.waiting - 1, running := some (s.clock, about) }.note .called

/-- The call that holds the lock fails, which is noted. -/
def fail : Debouncer α := s.note .failed

/-- The call that holds the lock is over and lets it go. -/
def release : Debouncer α := { s with running := none }.note .released

/-- The times of what was done. -/
def times (m : Mark) : List Rat := (s.history.filter (·.2 = m)).map Prod.fst

/-! ## On time -/

/-- Nothing can happen before time passes to a moment. -/
def mayPass (moment : Rat) : Bool :=
  s.clock ≤ moment && s.due.all (moment ≤ ·) &&
    (s.waiting == 0 || s.running.isSome || moment == s.clock)

/-- The timer is due now. -/
def isDue : Bool := s.due == some s.clock

/-- No call lasts longer than some time when time passes to a moment. -/
def lastsWithin (longest moment : Rat) : Bool := s.running.all fun c => moment ≤ c.1 + longest

end Steps

end Debouncer

end BlockMarkup
