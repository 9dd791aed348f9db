import BlockMarkup.Text.Quoted

/-!
# Diagnostics

Nothing an author writes makes the transpiler fail. What it cannot render stays as written, and
each problem is reported with the line it quotes.
-/

namespace BlockMarkup

open Text

/-- What can be wrong with the text of an author. -/
inductive Problem
  | unterminatedBlock
  | strayCloser
  | unknownComponent (keyword : Text)
  | malformedOption
  | unknownOption (key : Text)
  | duplicateOption (key : Text)
  | unexpectedValue (key : Text) (allowed : List Text)
deriving DecidableEq

def Problem.message : Problem → Text
  | .unterminatedBlock => "unterminated block"
  | .strayCloser => "closing marker without an open block"
  | .unknownComponent keyword => "unknown component '" ++ keyword ++ "'"
  | .malformedOption => "malformed option line"
  | .unknownOption key => "unknown option '" ++ key ++ "'"
  | .duplicateOption key => "duplicate option '" ++ key ++ "', last value wins"
  | .unexpectedValue key allowed =>
    "unexpected value for '" ++ key ++ "' (expected one of: " ++ join ", " allowed ++ ")"

/-- A problem and its place: the line in the transpiled text, counted from one, and in a deck the
slide. -/
structure Diagnostic where
  line : Text
  problem : Problem
  lineno : Option Int
  component : Option Text
  slide : Option Int
deriving DecidableEq

namespace Diagnostic

/-- A report in words: place, component, reason and the quoted line. -/
def sentence (slide lineno : Option Int) (component : Option Text) (reason line : Text) : Text :=
  let onSlide := match slide with
    | some s => "slide " ++ ofInt s ++ ", "
    | none => []
  let onLine := match lineno with
    | some n => "line " ++ ofInt n ++ ": "
    | none => []
  let who := match component with
    | some (c :: cs) => '[' :: c :: cs ++ "] "
    | _ => []
  onSlide ++ onLine ++ who ++ reason ++ ": " ++ quoted line

def toText (d : Diagnostic) : Text :=
  sentence d.slide d.lineno d.component d.problem.message d.line

/-- By line number; a report without one comes first. -/
def precedes (d e : Diagnostic) : Bool := d.lineno.getD 0 ≤ e.lineno.getD 0

/-- Reports by line number, those of one line in the order in which they were made. -/
def sort (ds : List Diagnostic) : List Diagnostic := ds.mergeSort precedes

def onSlide (n : Nat) (d : Diagnostic) : Diagnostic := { d with slide := some n }

end Diagnostic

end BlockMarkup
