import BlockMarkup.Watcher.Debouncer
import Mathlib.Algebra.Order.Ring.Rat
import Mathlib.Data.List.FinRange

/-!
# Schedules

What happens and when, in seconds. Of what is heeded, the last before a delay without any more ends a burst.
A run of a debouncer is a sequence of steps in which each one happens when it can and is on time; the events
delivered in it make its schedule.
-/

namespace BlockMarkup

/-- Occurrences, each with its time. -/
abbrev Schedule (β : Type) := List (ℚ × β)

namespace Schedule

variable {β : Type} (heeds : β → Bool) (delay : ℚ) (s : Schedule β)

def InOrder : Prop := s.Pairwise (·.1 ≤ ·.1)

instance : Decidable s.InOrder := inferInstanceAs (Decidable (s.Pairwise (·.1 ≤ ·.1)))

/-- The occurrence is heeded, and no later one that is heeded comes within the delay. -/
def EndsBurst (k : Fin s.length) : Prop :=
  heeds s[k].2 ∧ ∀ j : Fin s.length, k < j → heeds s[j].2 → ¬ s[j].1 < s[k].1 + delay

instance : DecidablePred (EndsBurst heeds delay s) := fun k =>
  inferInstanceAs (Decidable (heeds s[k].2 ∧
    ∀ j : Fin s.length, k < j → heeds s[j].2 → ¬ s[j].1 < s[k].1 + delay))

/-- The times at which the delay after a burst is over. -/
def burstTimes : List ℚ :=
  ((List.finRange s.length).filter (EndsBurst heeds delay s)).map fun k => s[k].1 + delay

end Schedule

namespace Debouncer

variable {α : Type}

/-- An event and where paths lead when it is delivered. -/
structure Delivery where
  resolve : Path → Option Place
  event : FileEvent

/-- Whether an event sets the timer. -/
def heeds (target : Place) (o : Delivery) : Bool := o.event.concerns o.resolve target

inductive Step (α : Type)
  | pass (moment : ℚ)
  | deliver (o : Delivery)
  | expire
  | call (about : α)
  | fail
  | release

def act (s : Debouncer α) : Step α → Debouncer α
  | .pass moment => s.pass moment
  | .deliver o => s.deliver o.resolve o.event
  | .expire => s.expire
  | .call about => s.call about
  | .fail => s.fail
  | .release => s.release

/-- Whether a step can happen now and is on time; no event that is heeded comes just when the timer is due. -/
def allows (s : Debouncer α) : Step α → Bool
  | .pass moment => s.mayPass moment
  | .deliver o => !heeds s.target o || !s.isDue
  | .expire => s.isDue
  | .call _ => 0 < s.waiting && s.running.isNone
  | .fail => s.running.isSome
  | .release => s.running.isSome

/-- After some steps. -/
def after (s : Debouncer α) (as : List (Step α)) : Debouncer α := as.foldl act s

/-- Whether some steps can happen one after the other. -/
def admits (s : Debouncer α) : List (Step α) → Bool
  | [] => true
  | a :: as => s.allows a && (s.act a).admits as

/-- The events that are delivered in some steps, with their times. -/
def deliveries (s : Debouncer α) : List (Step α) → Schedule Delivery
  | [] => []
  | .deliver o :: as => (s.clock, o) :: (s.act (.deliver o)).deliveries as
  | a :: as => (s.act a).deliveries as

end Debouncer

end BlockMarkup
