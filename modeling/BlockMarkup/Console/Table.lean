import BlockMarkup.Console.Wrapping

/-!
# Tables

A table with a title, ruled lines and a heading over each column. A column is as wide as its widest cell;
when the columns do not fit side by side, the widest are narrowed until they do, and the texts in them
wrapped.
-/

namespace BlockMarkup.Console

open Text

structure Column where
  heading : Text
  toRight : Bool
deriving DecidableEq

/-- The room is the width of the terminal. -/
structure Table where
  title : Text
  columns : List Column
  rows : List (List Text)
  room : Nat
deriving DecidableEq

/-! ## Widths -/

def total (widths : List Nat) : Nat := widths.foldr (· + ·) 0

def widest (widths : List Nat) : Nat := widths.foldr max 0

/-- Characters at which a text is broken into lines when its width is asked for. -/
def endsLine (c : Char) : Bool :=
  ('\n' ≤ c && c ≤ '\r') || ('\x1c' ≤ c && c ≤ '\x1e') || c == '\u0085' || c == '\u2028' ||
    c == '\u2029'

/-- The width of the longest line of a text. -/
def naturalWidth (t : Text) : Nat := widest ((splitWhen endsLine t).map cells)

/-- A quotient to the nearest whole number, to the even one of two that are equally near. -/
def nearest (n d : Nat) : Nat :=
  let q := n / d
  if 2 * (n % d) < d || (2 * (n % d) = d && q % 2 = 0) then q else q + 1

/-- Takes an excess off the columns of the greatest width, of which so many are left, in equal shares
but no more than a limit from each. -/
def reduce (greatest limit : Nat) : Nat → Nat → List Nat → List Nat
  | _, _, [] => []
  | excess, left, w :: ws =>
    if w = greatest ∧ 0 < left then
      let share := min limit (nearest excess left)
      (w - share) :: reduce greatest limit (excess - share) (left - 1) ws
    else w :: reduce greatest limit excess left ws

/-- Widths that fit: the greatest come down to the next greatest as long as there is an excess. The
number bounds how often. -/
def narrow (room : Nat) : Nat → List Nat → List Nat
  | 0, ws => ws
  | n + 1, ws =>
    let excess := total ws - room
    let greatest := widest ws
    let next := widest (ws.filter (· ≠ greatest))
    if excess = 0 then ws
    else narrow room n (reduce greatest (min excess (greatest - next)) excess (ws.count greatest) ws)

namespace Table

/-- The rules between and beside columns, one cell each. -/
def ruleCount (t : Table) : Nat := t.columns.length + 1

/-- The room for cells, each with a space on either side. -/
def cellRoom (t : Table) : Nat := t.room - t.ruleCount

def cellsOf (t : Table) (i : Nat) : List Text := t.rows.filterMap fun row => row[i]?

/-- The widths of the columns with the spaces at both sides. -/
def widths (t : Table) : List Nat :=
  let natural := t.columns.mapIdx fun i column =>
    min (widest ((column.heading :: t.cellsOf i).map naturalWidth) + 2) t.cellRoom
  narrow t.cellRoom (total natural) natural

/-! ## Rows -/

def padTo (toRight : Bool) (width : Nat) (t : Text) : Text :=
  let gap := List.replicate (width - cells t) ' '
  if toRight then gap ++ t else t ++ gap

/-- The lines of a cell. -/
def cellLines (column : Column) (width : Nat) (t : Text) : List Text :=
  (wrap .ellipsis (width - 2) t).map fun l =>
    padTo column.toRight (width - 2) (if column.toRight then trimEnd l else l)

/-- Cells side by side: the lines of a row, empty where a cell has ended. -/
def rowLines (t : Table) (widths : List Nat) (row : List Text) : List (List Text) :=
  let columns := List.zipWith (fun (c, w) cell => (w, cellLines c w cell))
    (t.columns.zip widths) row
  let height := widest (columns.map (·.2.length))
  (List.range height).map fun i =>
    columns.map fun (w, ls) => ls.getD i (List.replicate (w - 2) ' ')

/-- The lines of the heading. -/
def head (t : Table) : List (List Text) := t.rowLines t.widths (t.columns.map (·.heading))

def body (t : Table) : List (List Text) :=
  let widths := t.widths
  t.rows.flatMap (t.rowLines widths)

/-- A ruled line: its ends, what crosses it, and what it is drawn with. -/
def rule (t : Table) (start line cross stop : Char) : Text :=
  start :: join [cross] (t.widths.map (List.replicate · line)) ++ [stop]

def ruled (bar : Char) (row : List Text) : Text :=
  bar :: ' ' :: join [' ', bar, ' '] row ++ [' ', bar]

def titleLine (t : Table) : Text :=
  List.replicate ((total t.widths + t.ruleCount - cells t.title) / 2) ' ' ++ t.title

def toText (t : Table) : Text :=
  unlines ([t.titleLine, t.rule '┏' '━' '┳' '┓'] ++ t.head.map (ruled '┃') ++
    [t.rule '┡' '━' '╇' '┩'] ++ t.body.map (ruled '│') ++ [t.rule '└' '─' '┴' '┘']) ++ ['\n']

end Table

end BlockMarkup.Console
