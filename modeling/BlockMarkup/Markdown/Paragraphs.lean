import BlockMarkup.Markdown.Basic
import BlockMarkup.Markdown.Typography

/-!
# Paragraphs

A plain renderer. The text around the components is cut into paragraphs at blank lines. The plainest preset
interprets nothing: every paragraph is text, and markup characters in it are escaped. The others let HTML
through, which the rendered components are, and leave a paragraph that begins with it as it is.
-/

namespace BlockMarkup.Markdown

open Text

/-- Whether HTML is let through. -/
def Preset.letsHtmlThrough (p : Preset) : Bool := p != .zero

def escapeChar (c : Char) : Text :=
  match c with
  | '&' => "&amp;"
  | '<' => "&lt;"
  | '>' => "&gt;"
  | '"' => "&quot;"
  | c => [c]

def escape (t : Text) : Text := t.flatMap escapeChar

/-- A line between paragraphs: spaces and tabs alone. -/
def isBreak (l : Text) : Bool := l.all fun c => c == ' ' || c == '\t'

/-- What a paragraph neither begins nor ends with: space, and the separators of lines and paragraphs.
The mark of the byte order is text like any other. -/
def isMargin (c : Char) : Bool := isSpace c || c == '\u2028' || c == '\u2029'

/-- The paragraphs of a text without their margins. -/
def paragraphs (t : Text) : List Text :=
  ((splitWhen isBreak (lines t)).filter (!·.isEmpty)).map fun ls =>
    dropEndWhile isMargin ((unlines ls).dropWhile isMargin)

/-- Line breaks as line feeds, and a replacement character for each NUL. -/
def normalize (t : Text) : Text :=
  (normalizeNewlines t).map fun c => if c = '\x00' then '\ufffd' else c

/-- The text of a paragraph. -/
def content (m : Markdown) (p : Text) : Text :=
  let t := if m.typographer then typeset p else p
  if m.preset.letsHtmlThrough then t else escape t

def paragraph (m : Markdown) (p : Text) : Text :=
  if m.preset.letsHtmlThrough && p.head? == some '<' then p ++ "\n"
  else "<p>" ++ m.content p ++ "</p>\n"

/-- The renderer that knows paragraphs and no other markup; it never fails. -/
def plain : Renderer := fun m t => .ok ((paragraphs (normalize t)).flatMap m.paragraph)

end BlockMarkup.Markdown
