import BlockMarkup.Text.Quoted

/-!
# Paths

A path is a way through directories, from the root or from where one stands. Two dots lead back;
single dots and doubled strokes mean nothing. A place is where a way ends: the names that lead to it
from the root.
-/

namespace BlockMarkup

open Text

/-- The names that lead to a file or directory from the root. -/
abbrev Place := List Text

def Place.toText (p : Place) : Text := '/' :: join "/" p

structure Path where
  rooted : Bool
  steps : List Text
deriving DecidableEq

namespace Path

def ofText (t : Text) : Path where
  rooted := t.head? == some '/'
  steps := (splitWhen (· == '/') t).filter fun s => !s.isEmpty && s != ['.']

def toText (p : Path) : Text :=
  if p.rooted then Place.toText p.steps
  else if p.steps.isEmpty then ['.']
  else join "/" p.steps

/-- The step that leads back. -/
def back : Text := ['.', '.']

/-- Where the last step sets out from. -/
def parent (p : Path) : Path := { p with steps := p.steps.dropLast }

/-- Where a way starts, seen from a place. -/
def start (p : Path) (here : Place) : Place := if p.rooted then [] else here

/-- The place one step further. -/
def step (here : Place) (s : Text) : Place := if s = back then here.dropLast else here ++ [s]

/-- A path with more steps. -/
def further (p : Path) (steps : List Text) : Path := { p with steps := p.steps ++ steps }

/-- Longer names and paths are refused, counted in bytes. -/
def maximalName : Nat := 255

def maximalPath : Nat := 4095

def isTooLong (p : Path) : Bool := maximalPath < utf8Size p.toText

end Path

/-! ## Home directories -/

/-- The home directory of the user of the program, and those of users by name. -/
structure Homes where
  own : Text
  others : List (Text × Text)

namespace Homes

/-- A directory without the strokes at its end; it may not begin with the sign for a home directory. -/
def pathOf? (directory : Text) : Option Path :=
  match dropEndWhile (· == '/') directory with
  | [] => some ⟨true, []⟩
  | '~' :: _ => none
  | t => some (Path.ofText t)

/-- The home directory of a user, that of the program's own user for the empty name. -/
def find? (h : Homes) (user : Text) : Option Path :=
  (if user.isEmpty then some h.own else h.others.lookup user).bind pathOf?

end Homes

/-- A path with a home directory in place of the sign for it; none where nobody knows that directory. -/
def Path.expandHome? (p : Path) (homes : Homes) : Option Path :=
  match p.rooted, p.steps with
  | false, ('~' :: user) :: steps => (homes.find? user).map (·.further steps)
  | _, _ => some p

end BlockMarkup
