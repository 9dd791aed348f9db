import BlockMarkup.Yaml.Flow

/-!
# Writing configuration files

One entry a line, nested values indented by two spaces, keys in order. A text stands plain where it
reads as itself, and is quoted elsewhere. A file to be looked at is folded: a text goes on in the next
line where a word ends beyond the width of the file. A file that is only read again keeps every text on
its line.
-/

namespace BlockMarkup.Yaml

open Text

/-! ## Styles -/

/-- Whether a plain scalar would read as this text. -/
def readsAsItself (t : Text) : Bool :=
  match plain? t with
  | some (.text u) => u == t && trim t == t
  | _ => false

/-- Whether a text starts like a mark between documents. -/
def startsLikeMark (t : Text) : Bool := (after? "---" t).isSome || (after? "..." t).isSome

def isPlainAscii (c : Char) : Bool := ' ' ≤ c && c ≤ '~'

inductive Style
  | plain
  | single
  | double
deriving DecidableEq

/-- Whether a space stands beside a line feed. -/
def hasRaggedLines : Text → Bool
  | a :: b :: t => (a == ' ' && b == '\n') || (a == '\n' && b == ' ') || hasRaggedLines (b :: t)
  | _ => false

/-- The simplest style for a text. Text with line feeds between apostrophes takes up several lines. -/
def Style.of (folded : Bool) (t : Text) : Style :=
  if t.all isPlainAscii then
    if readsAsItself t && !startsLikeMark t then .plain else .single
  else if folded && t.all (fun c => isPlainAscii c || c == '\n') && !hasRaggedLines t then .single
  else .double

/-! ## Texts on one line -/

def upperHex (width n : Nat) : Text := (hex width n).map Char.toUpper

def escapeChar (c : Char) : Text :=
  match shortEscapes.find? fun e => e.2 == c && e.1 != '/' && e.1 != ' ' with
  | some (letter, _) => ['\\', letter]
  | none =>
    let n := c.toNat
    if isPlainAscii c then [c]
    else if n < 0x100 then "\\x" ++ upperHex 2 n
    else if n < 0x10000 then "\\u" ++ upperHex 4 n
    else "\\U" ++ upperHex 8 n

def doubleApostrophe (c : Char) : Text := if c = '\'' then ['\'', '\''] else [c]

def writeText (t : Text) : Text :=
  match Style.of false t with
  | .plain => t
  | .single => '\'' :: t.flatMap doubleApostrophe ++ ['\'']
  | .double => '"' :: t.flatMap escapeChar ++ ['"']

/-! ## Folded texts -/

/-- Where a text is folded: the width of the file, and the indentation of the lines that go on. -/
structure Fold where
  width : Nat
  indent : Nat

namespace Fold

def newLine (f : Fold) : Text := '\n' :: List.replicate f.indent ' '

/-- The characters of a text, gathered into spaces, line feeds and what lies between. -/
def pieces (t : Text) : List Text :=
  t.splitBy fun a b => (a == ' ') == (b == ' ') && (a == '\n') == (b == '\n')

/-- Pieces written from a column on. A single space between two words beyond the width becomes a new
line, and line feeds become one more new lines than they are. -/
def write (f : Fold) (mark : Char → Text) (column : Nat) (inside : Bool) : List Text → Text
  | [] => []
  | p :: ps =>
    if p = [' '] && inside && !ps.isEmpty && f.width < column then
      f.newLine ++ f.write mark f.indent true ps
    else if p.head? = some '\n' then p ++ f.newLine ++ f.write mark f.indent true ps
    else
      let written := p.flatMap mark
      written ++ f.write mark (column + written.length) true ps

/-- Text between double quotes, from a column on. It may be folded before a space and around an escape,
but not at its ends; a stroke ends a line, and keeps a space at the start of the next. -/
def writeEscaped (f : Fold) (column : Nat) (inside fresh : Bool) : Text → Text
  | [] => []
  | c :: t =>
    let folds (n : Nat) : Bool := inside && !t.isEmpty && f.width < n
    let e := escapeChar c
    if e ≠ [c] then
      if folds (column + e.length - 1) then
        let start := if t.head? = some ' ' then ['\\'] else []
        e ++ '\\' :: f.newLine ++ start ++ f.writeEscaped (f.indent + start.length) true true t
      else e ++ f.writeEscaped (column + e.length) true true t
    else if (c = ' ' || fresh) && folds column then
      let start := if c = ' ' then ['\\'] else []
      '\\' :: f.newLine ++ start ++ c :: f.writeEscaped (f.indent + start.length + 1) true false t
    else c :: f.writeEscaped (column + 1) true false t

/-- A text from a column on. -/
def writeText (f : Fold) (column : Nat) (t : Text) : Text :=
  match Style.of true t with
  | .plain => f.write (fun c => [c]) column false (pieces t)
  | .single => '\'' :: f.write doubleApostrophe (column + 1) false (pieces t) ++ ['\'']
  | .double => '"' :: f.writeEscaped (column + 1) false false t ++ ['"']

end Fold

/-! ## Values -/

/-- How wide a file is, if its texts are folded at all. -/
abbrev Width := Option Nat

/-- A value that fits behind a key or dash, from a column on. -/
def inline (w : Width) (indent column : Nat) : Value → Option Text
  | .null => some "null"
  | .bool true => some "true"
  | .bool false => some "false"
  | .int i => some (ofInt i)
  | .decimal m p => some (Value.decimalText m p)
  | .text t => some (match w with
    | none => writeText t
    | some width => Fold.writeText ⟨width, indent + 2⟩ column t)
  | .other _ shown => some shown
  | .list [] => some "[]"
  | .map [] => some "\x7b\x7d"
  | _ => none

/-- The lines of an entry or item: its beginning, and its value behind it or below. -/
def placed (w : Width) (indent : Nat) (beginning : Text) (v : Value) (below : Text) : Text :=
  let start := List.replicate indent ' ' ++ beginning
  match inline w indent (start.length + 1) v with
  | some t => start ++ ' ' :: t ++ ['\n']
  | none => start ++ '\n' :: below

mutual

/-- The lines of a value that does not fit behind a key. -/
def below (w : Width) (indent : Nat) : Value → Text
  | .list items => itemLines w indent items
  | .map entries =>
    ((entryLines w indent entries).mergeSort fun a b => decide (a.1 ≤ b.1)).flatMap Prod.snd
  | _ => []

def itemLines (w : Width) (indent : Nat) : List Value → Text
  | [] => []
  | v :: vs => placed w indent ['-'] v (below w (indent + 2) v) ++ itemLines w indent vs

/-- The lines of each entry, with its key. -/
def entryLines (w : Width) (indent : Nat) : List (Key × Value) → List (Text × Text)
  | [] => []
  | (.text key, v) :: es =>
    (key, placed w indent (writeText key ++ [':']) v (below w (indent + 2) v)) ::
      entryLines w indent es
  | (.other key, v) :: es =>
    (key, placed w indent (key ++ [':']) v (below w (indent + 2) v)) :: entryLines w indent es

end

/-- A value as the text of a configuration file. -/
def write (w : Width) (v : Value) : Text :=
  match inline w 0 0 v with
  | some t => t ++ ['\n']
  | none => below w 0 v

end BlockMarkup.Yaml
