import BlockMarkup.Console.Emoji
import BlockMarkup.Console.Literal
import BlockMarkup.Console.Style
import BlockMarkup.Text.Quoted

/-!
# Markup

In a message words between brackets are tags: they open a style, or close it behind a stroke. A stroke
backwards before the bracket takes a tag for what it is, and two of them make one. Tags do not show. A
tag may close only what is open.
-/

namespace BlockMarkup.Console

open Text

/-! ## Pieces -/

/-- A part of a message: what shows, or a tag with what follows its equals sign. -/
inductive Piece
  | plain (t : Text)
  | tag (name : Text) (parameters : Option Text)
deriving DecidableEq

def startsTag (c : Char) : Bool := c.isLower || c == '#' || c == '/' || c == '@'

/-- What a tag holds, and what comes after it, in a text behind an opening bracket. -/
def cutTag? (t : Text) : Option (Text × Text) :=
  match t.head?.any startsTag, t.dropWhile (· != ']') with
  | true, _ :: rest => some (t.takeWhile (· != ']'), rest)
  | _, _ => none

/-- A text without the backward strokes at its end, and their number. -/
def cutStrokes (t : Text) : Text × Nat :=
  let start := dropEndWhile (· == '\\') t
  (start, t.length - start.length)

def strokes (n : Nat) : Text := List.replicate n '\\'

def plainPiece (t : Text) : List Piece := if t.isEmpty then [] else [.plain t]

def tagPiece (held : Text) : Piece :=
  .tag (held.takeWhile (· != '=')) (held.dropWhile (· != '=')).tail?

/-- The pieces of a text, which goes on behind each of some opening brackets. -/
def piecesOf (before : Text) : List Text → List Piece
  | [] => plainPiece before
  | t :: ts =>
    match cutTag? t with
    | none => piecesOf (before ++ '[' :: t) ts
    | some (held, rest) =>
      let (start, n) := cutStrokes before
      let tag := if n % 2 = 1 then .plain ('[' :: held ++ [']']) else tagPiece held
      plainPiece start ++ plainPiece (strokes (n / 2)) ++ tag :: piecesOf rest ts

/-- The pieces of a message. -/
def pieces (t : Text) : List Piece :=
  match splitWhen (· == '[') t with
  | [] => []
  | t :: ts => piecesOf t ts

/-! ## What shows -/

/-- A bracket behind a backward stroke shows alone. -/
def dropStrokes : Text → Text
  | '\\' :: '[' :: t => '[' :: dropStrokes t
  | c :: t => c :: dropStrokes t
  | [] => []

/-- Controls that would move the cursor or sound the bell. -/
def isControl (c : Char) : Bool :=
  c == '\x07' || c == '\x08' || c == '\x0b' || c == '\x0c' || c == '\r'

/-- How a plain piece shows. -/
def shown (t : Text) : Text := (replaceCodes (dropStrokes t)).filter (!isControl ·)

/-! ## Tags -/

inductive MarkupError
  | neverOpened (name : Text)
  | nothingOpen
  | badParameters (parameters : Text)
  | badStyle (e : StyleError)
deriving DecidableEq

def MarkupError.message : MarkupError → Text
  | .neverOpened name => "closing tag " ++ quoted name ++ " doesn't match any open tag"
  | .nothingOpen => "closing tag has nothing to close"
  | .badParameters parameters => "error parsing " ++ quoted parameters
  | .badStyle (.unknown word) => "unknown style " ++ quoted word
  | .badStyle (.emptyPart color) => "a share is left out of " ++ quoted color

/-- A style that is open. -/
structure OpenTag where
  name : Text
  parameters : Option Text

/-- The parameters of a handler are read when its tag is closed. -/
def OpenTag.close (o : OpenTag) : Except MarkupError Unit :=
  match o.name, o.parameters with
  | '@' :: _, some (c :: t) =>
    if isHandler (trim (c :: t)) then .ok () else .error (.badParameters (c :: t))
  | _, _ => .ok ()

def normalName (name : Text) : Except MarkupError Text :=
  (Style.normalize name).mapError .badStyle

/-- What pieces show, among tags that are open, the innermost first. -/
def showPieces (opened : List OpenTag) : List Piece → Except MarkupError Text
  | [] => .ok []
  | .plain t :: ps => do
    let rest ← showPieces opened ps
    return shown t ++ rest
  | .tag ('/' :: name) _ :: ps =>
    if (trim name).isEmpty then
      match opened with
      | [] => .error .nothingOpen
      | o :: outer => do
        o.close
        showPieces outer ps
    else do
      let name ← normalName (trim name)
      match opened.find? (·.name = name) with
      | none => .error (.neverOpened name)
      | some o => do
        o.close
        showPieces (opened.eraseP (·.name = name)) ps
  | .tag name parameters :: ps => do
    let name ← normalName name
    showPieces (⟨name, parameters⟩ :: opened) ps

/-- What a message shows. -/
def render (t : Text) : Except MarkupError Text := showPieces [] (pieces t)

/-! ## Escapes -/

def escapePieces (before : Text) : List Text → Text
  | [] => before
  | t :: ts =>
    match cutTag? t with
    | none => escapePieces (before ++ '[' :: t) ts
    | some (held, rest) =>
      before ++ strokes ((cutStrokes before).2 + 1) ++ '[' :: held ++ ']' :: escapePieces rest ts

/-- A text as a part of a message that has no tags in it. A single backward stroke at its end is doubled,
so that it does not change what may follow. -/
def escape (t : Text) : Text :=
  let e := match splitWhen (· == '[') t with
    | [] => []
    | t :: ts => escapePieces t ts
  if (cutStrokes e).2 = 1 then e ++ ['\\'] else e

end BlockMarkup.Console
