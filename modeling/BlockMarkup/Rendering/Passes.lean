import BlockMarkup.OptionSection
import BlockMarkup.Rendering.Context

/-!
# Rendering in passes

One pass per component, the inner components first. A pass does not see nesting: it closes each
block at the nearest closing marker, and puts its HTML in the place of the block before the next
pass reads the text. A pass stops at an opener with no closing marker below it, and reports it.
-/

namespace BlockMarkup

open Text Marker

/-- What a pass makes of a text: lines it leaves alone, blocks, and the opener it stops at. -/
inductive Piece
  | line (t : Text)
  | block (b : Block)
  | openEnd (lineno : Nat) (line : Text)
deriving DecidableEq

namespace Piece

/-- The option section of `size` lines below an opener, without its marker. -/
def optionLines (size : Nat) (rest : List Text) : List Text := (rest.take size).dropLast

/-- The block under an opener: its section of `size` lines, its body of `length` lines and its
closing marker. -/
def blockAt (c : Component) (header : Text) (lineno : Nat) (opener : Text) (rest : List Text)
    (size length : Nat) : Block where
  component := c
  title := header
  optionLines := optionLines size rest
  body := unlines ((rest.drop size).take length)
  raw := unlines (opener :: rest.take (size + length + 1))
  lineno := lineno
  endLineno := lineno + size + length + 1
  optionsLineno := if size = 0 then 0 else lineno + 1

/-- Reads lines from a number on, after passing over those of a block already found. The last
closing marker is `limit` lines below the first one here. -/
def scan (c : Component) (limit lineno skip : Nat) : List Text → List Piece
  | [] => []
  | l :: rest =>
    match skip with
    | skip + 1 => scan c (limit - 1) (lineno + 1) skip rest
    | 0 =>
      match (opener? l).filter (·.keyword == c.keyword) with
      | none => .line l :: scan c (limit - 1) (lineno + 1) 0 rest
      | some m =>
        let size := OptionSection.length c (limit - 1) rest
        let body := (rest.drop size).takeWhile (!isCloser ·)
        if size + body.length < rest.length then
          .block (blockAt c m.header lineno l rest size body.length) ::
            scan c (limit - 1) (lineno + 1) (size + body.length + 1) rest
        else .openEnd lineno l :: rest.map .line

def ofText (c : Component) (t : Text) : List Piece :=
  let ls := lines t
  scan c ((lastCloser? ls).getD 0) 1 0 ls

def block? : Piece → Option Block
  | .block b => some b
  | _ => none

/-- The report of a pass on the opener it stops at. -/
def report? (c : Component) : Piece → Option Diagnostic
  | .openEnd n l => some ⟨trim l, .unterminatedBlock, some n, some c.keyword, none⟩
  | _ => none

end Piece

namespace Rendering

/-- The blocks of a component that the pass finds, and its reports. -/
def findBlocks (c : Component) (t : Text) : List Block × List Diagnostic :=
  let pieces := Piece.ofText c t
  (pieces.filterMap Piece.block?, pieces.filterMap (Piece.report? c))

/-- Puts the given text in the place of each piece that is a block. -/
def substitutePiece (render : Block → Text) : Piece → Text
  | .line t => t
  | .block b => render b
  | .openEnd _ l => l

/-- The text with each block of a component replaced by what `render` makes of it, and the reports
of the pass. -/
def substitute (c : Component) (render : Block → Text) (t : Text) : Text × List Diagnostic :=
  let pieces := Piece.ofText c t
  (unlines (pieces.map (substitutePiece render)), pieces.filterMap (Piece.report? c))

/-- Renders the pieces of a pass in order. -/
def pieces : List Piece → Context → List Text × Context
  | [], ctx => ([], ctx)
  | .line t :: ps, ctx =>
    let (ts, ctx) := pieces ps ctx
    (t :: ts, ctx)
  | .openEnd _ l :: ps, ctx =>
    let (ts, ctx) := pieces ps ctx
    (l :: ts, ctx)
  | .block b :: ps, ctx =>
    let (html, ctx) := ctx.hand b none
    let (ts, ctx) := pieces ps ctx
    (html :: ts, ctx)

/-- The pass for one component. -/
def pass (s : Text × Context) (c : Component) : Text × Context :=
  let found := Piece.ofText c s.1
  let (ts, ctx) := pieces found (s.2.report (found.filterMap (Piece.report? c)))
  (unlines ts, ctx)

/-- Renders a text in one pass per component. -/
def passes (t : Text) (ctx : Context) : Text × Context := Component.all.foldl pass (t, ctx)

theorem pieces_forget (ps : List Piece) (ctx : Context) :
    pieces ps ctx.forget = ((pieces ps ctx).1, (pieces ps ctx).2.forget) := by
  induction ps generalizing ctx with
  | nil => rfl
  | cons p ps ih => cases p <;> simp [pieces, Context.hand_forget, ih]

theorem pass_forget (t : Text) (ctx : Context) (c : Component) :
    pass (t, ctx.forget) c = ((pass (t, ctx) c).1, (pass (t, ctx) c).2.forget) := by
  simp [pass, Context.report_forget, pieces_forget]

theorem passes_forget (t : Text) (ctx : Context) :
    passes t ctx.forget = ((passes t ctx).1, (passes t ctx).2.forget) := by
  unfold passes
  generalize Component.all = cs
  induction cs generalizing t ctx with
  | nil => rfl
  | cons c cs ih => rw [List.foldl_cons, pass_forget, ih, List.foldl_cons]

end Rendering

end BlockMarkup
