import BlockMarkup.Text.Blank
import BlockMarkup.Text.Punctuation

/-!
# Typography

What is typed on a keyboard, as it is printed: signs for their abbreviations, dots and dashes of the
right length, and quotation marks that open and close.
-/

namespace BlockMarkup.Markdown

open Text

/-! ## Signs -/

/-- Puts a character in front, where a parenthesis may complete the abbreviation of a sign. -/
def consSign (c : Char) (t : Text) : Text :=
  match c, t with
  | '(', a :: ')' :: u =>
    if a.toLower = 'c' then '©' :: u else if a.toLower = 'r' then '®' :: u else c :: t
  | '(', a :: b :: ')' :: u => if a.toLower = 't' ∧ b.toLower = 'm' then '™' :: u else c :: t
  | _, _ => c :: t

/-- The signs for copyright and trade marks. -/
def signs (t : Text) : Text := t.foldr consSign []

/-! ## Runs -/

/-- Replaces each longest run of characters in a class; the rule sees what stands on either side. -/
def mapRuns (p : Char → Bool) (rule : Option Char → Text → Option Char → Text)
    (t : Text) : Text :=
  go none (t.splitBy fun a b => p a == p b)
where
  go (left : Option Char) : List Text → Text
    | [] => []
    | run :: rest =>
      let right := (rest.head?).bind List.head?
      (if run.any p then rule left run right else run) ++ go run.getLast? rest

/-- A sign for plus or minus. -/
def plusMinus : Text → Text
  | '+' :: '-' :: t => '±' :: plusMinus t
  | c :: t => c :: plusMinus t
  | [] => []

/-- Two dots and more become an ellipsis. -/
def ellipses : Text → Text :=
  mapRuns (· == '.') fun _ run _ => if run.length < 2 then run else ['…']

def isExclaimed (c : Char) : Bool := c == '?' || c == '!'

/-- An ellipsis behind a question or exclamation mark has two dots left of its three. -/
def shortenEllipses : Text → Text
  | a :: '…' :: t =>
    if isExclaimed a then a :: '.' :: '.' :: shortenEllipses t
    else a :: shortenEllipses ('…' :: t)
  | c :: t => c :: shortenEllipses t
  | [] => []

/-- Four and more question and exclamation marks come down to three, all like the last one. -/
def shouts : Text → Text :=
  mapRuns isExclaimed fun _ run _ =>
    if run.length < 4 then run else List.replicate 3 (run.getLastD '!')

/-- Commas do not come in pairs. -/
def commas : Text → Text :=
  mapRuns (· == ',') fun _ run _ => if run.length < 2 then run else [',']

def isEdge (neighbour : Option Char) : Bool := neighbour == none || neighbour == some '\n'

def isSpaced (neighbour : Option Char) : Bool := isEdge neighbour || neighbour.any isBlank

def isTight (neighbour : Option Char) : Bool := isEdge neighbour || neighbour.any (!isBlank ·)

/-- Three dashes make a long one, and two a short one that has blanks on both sides or on neither. -/
def dash (left : Option Char) (run : Text) (right : Option Char) : Text :=
  match run.length with
  | 3 => ['—']
  | 2 => if (isSpaced left && isSpaced right) || (isTight left && isTight right) then ['–'] else run
  | _ => run

def dashes : Text → Text := mapRuns (· == '-') dash

/-- What gives a text away as typed on a keyboard. -/
def typedMarks : List Text :=
  ["+-".toList, "..".toList, "????".toList, "!!!!".toList, ",,".toList, "--".toList]

/-- Whether one of these marks stands somewhere in a text; without any, nothing is replaced. -/
def isTyped : Text → Bool
  | [] => false
  | c :: t => typedMarks.any (·.isPrefixOf (c :: t)) || isTyped t

/-- Signs, dots, commas and dashes as they are printed. -/
def replacements (t : Text) : Text :=
  let t := signs t
  if isTyped t then dashes (commas (shouts (shortenEllipses (ellipses (plusMinus t))))) else t

/-! ## Quotation marks -/

/-- The space that separates words in print; it is narrower than blank space, of which the separators
of files, records and lines are part as well. -/
def isSpace (c : Char) : Bool :=
  let n := c.toNat
  (9 ≤ n && n ≤ 13) || n == 32 || n == 0xA0 || n == 0x1680 || (0x2000 ≤ n && n ≤ 0x200A) ||
    n == 0x202F || n == 0x205F || n == 0x3000

/-- Whether a quotation mark between two characters may open, and whether it may close. A mark after
a digit and before another mark stands for inches. -/
def sides (last mark next : Char) : Bool × Bool :=
  let opens := !isSpace next && (!isPunctuation next || isSpace last || isPunctuation last)
  let closes := !isSpace last && (!isPunctuation last || isSpace next || isPunctuation next)
  if mark = '"' && next = '"' && last.isDigit then (false, false)
  else if opens && closes then (isPunctuation last, isPunctuation next)
  else (opens, closes)

def openMark (mark : Char) : Char := if mark = '"' then '“' else '‘'

def closeMark (mark : Char) : Char := if mark = '"' then '”' else '’'

/-- The quotation marks read so far: those still open, innermost first, and what is printed at which
place. -/
structure Quotes where
  opened : List (Nat × Char)
  printed : List (Nat × Char)

namespace Quotes

def apostrophe (q : Quotes) (place : Nat) : Quotes :=
  { q with printed := (place, '’') :: q.printed }

/-- Reads the mark at a place, after one character and before another. -/
def read (q : Quotes) (place : Nat) (last mark next : Char) : Quotes :=
  let single := mark = '\''
  match sides last mark next with
  | (false, false) => if single then q.apostrophe place else q
  | (opens, closes) =>
    match closes, q.opened.dropWhile (·.2 ≠ mark) with
    | true, (start, _) :: outer =>
      ⟨outer, (place, closeMark mark) :: (start, openMark mark) :: q.printed⟩
    | _, _ =>
      if opens then { q with opened := (place, mark) :: q.opened }
      else if single then q.apostrophe place
      else q

/-- Reads the marks of a text that goes on at a place. -/
def readAll (q : Quotes) (place : Nat) (last : Char) : Text → Quotes
  | [] => q
  | c :: t =>
    let q := if c = '"' || c = '\'' then q.read place last c (t.headD ' ') else q
    q.readAll (place + 1) c t

end Quotes

/-- Pairs of quotation marks, and apostrophes. -/
def quotationMarks (t : Text) : Text :=
  let printed := (Quotes.readAll ⟨[], []⟩ 0 ' ' t).printed
  t.mapIdx fun i c => if c = '"' || c = '\'' then (printed.lookup i).getD c else c

/-- A text as it is printed. -/
def typeset (t : Text) : Text := quotationMarks (replacements t)

end BlockMarkup.Markdown
