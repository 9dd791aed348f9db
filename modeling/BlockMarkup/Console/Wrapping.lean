import BlockMarkup.Console.Width
import BlockMarkup.Text.Blank

/-!
# Wrapping

Text is cut into lines that fit a terminal. A line is filled with words as long as they fit; the blanks
behind a word stay with it, and hang over the end of the line without being counted. A word that is
wider than a whole line is folded, or stands on a line of its own and is cut short.
-/

namespace BlockMarkup.Console

open Text

/-- What becomes of a word that is wider than a line. -/
inductive Overflow
  | fold
  | ellipsis
deriving DecidableEq

/-! ## Words -/

/-- Tabs as spaces up to the next of the stops, which are eight cells apart. -/
def expandTabs (column : Nat) : Text → Text
  | [] => []
  | '\t' :: t =>
    let n := 8 - column % 8
    List.replicate n ' ' ++ expandTabs (column + n) t
  | c :: t => c :: expandTabs (column + cellWidth c) t

/-- Each word with the blanks behind it. -/
def withBlanks : List Text → List Text
  | word :: blanks :: rest => (word ++ blanks) :: withBlanks rest
  | [word] => [word]
  | [] => []

/-- A line cut into words; blanks at its start belong to the first of them. -/
def cutWords (line : Text) : List Text :=
  match line.splitBy fun a b => isBlank a == isBlank b with
  | start :: word :: rest =>
    if start.all isBlank then
      match withBlanks (word :: rest) with
      | first :: more => (start ++ first) :: more
      | [] => [start]
    else withBlanks (start :: word :: rest)
  | ws => ws

/-- A word cut where the next character would not fit. -/
def chop (width used : Nat) : Text → List Text
  | [] => [[]]
  | c :: t =>
    let fits := used + cellWidth c ≤ width
    match chop width (if fits then used + cellWidth c else cellWidth c) t with
    | [] => [[c]]
    | p :: ps => if fits then (c :: p) :: ps else [] :: (c :: p) :: ps

/-! ## Lines -/

/-- Lines that are being filled: those that are full, the last one first, and the one at hand. -/
structure Filling where
  full : List Text
  line : Text

namespace Filling

/-- The next words go onto a new line, unless there are none yet. -/
def newLine (f : Filling) : Filling :=
  if f.full.isEmpty && f.line.isEmpty then f else ⟨f.line :: f.full, []⟩

def add (f : Filling) (word : Text) : Filling := { f with line := f.line ++ word }

/-- A word on the line at hand, or on the next. -/
def place (overflow : Overflow) (width : Nat) (f : Filling) (word : Text) : Filling :=
  let needed := cells (trimEnd word)
  if cells f.line + needed ≤ width then f.add word
  else if overflow = .fold ∧ width < needed then
    (chop width 0 word).foldl (fun f piece => f.newLine.add piece) f
  else f.newLine.add word

def lines (f : Filling) : List Text := (f.line :: f.full).reverse

end Filling

/-- A line divided into lines that are filled with its words. -/
def divide (overflow : Overflow) (width : Nat) (line : Text) : List Text :=
  ((cutWords line).foldl (Filling.place overflow width) ⟨[], []⟩).lines

/-! ## Cutting short -/

/-- A line without as many of the blanks at its end as it has characters too many. -/
def dropHanging (width : Nat) (line : Text) : Text :=
  let blanks := line.length - (trimEnd line).length
  line.take (line.length - min blanks (line.length - width))

/-- The beginning of a line that takes up a width, found by halving; a space fills the last cell where a
wide character does not fit. The number bounds how often the line is halved. -/
def cropBetween (line : Text) (width : Nat) : Nat → Nat → Nat → Text
  | 0, _, stop => line.take stop
  | n + 1, start, stop =>
    let middle := (start + stop) / 2
    let t := line.take (middle + 1)
    if cells t = width then t
    else if cells t = width + 1 ∧ (t.getLast?.map cellWidth) = some 2 then t.dropLast ++ [' ']
    else if width < cells t then cropBetween line width n start middle
    else cropBetween line width n middle stop

def crop (width : Nat) (line : Text) : Text :=
  if cells line ≤ width then line
  else if width = 0 then []
  else cropBetween line width line.length 0 line.length

/-- A line that fits: one that is too wide is cut, and may end in an ellipsis then. -/
def cutShort (overflow : Overflow) (width : Nat) (line : Text) : Text :=
  if cells line ≤ width then line
  else
    match overflow with
    | .fold => crop width line
    | .ellipsis => crop (width - 1) line ++ ['…']

/-- The lines of a text on a terminal of a width. -/
def wrap (overflow : Overflow) (width : Nat) (t : Text) : List Text :=
  (lines t).flatMap fun l =>
    (divide overflow width (expandTabs 0 l)).map fun l => cutShort overflow width (dropHanging width l)

end BlockMarkup.Console
