import BlockMarkup.Config.Basic
import BlockMarkup.Files.Path
import BlockMarkup.Html

/-!
# Publications

From the text of an author to HTML: the text is transpiled, what surrounds the components is
rendered, and the result may go into a page. In a deck every slide is rendered by itself, and the
first is the current one. There is no publication where the renderer fails.
-/

namespace BlockMarkup

open Text

/-- How to publish a text; whether to render what surrounds the components may be left to the
configuration. -/
structure Form where
  slides : Bool
  markdown : Option Bool
  standalone : Bool
deriving DecidableEq

/-- The HTML of a text, the reports on it, and how many slides it has as a deck. -/
structure Publication where
  html : Text
  reports : List Diagnostic
  slides : Nat
deriving DecidableEq

/-- The record of a publication that was written to a file. -/
def Publication.writtenRecord (p : Publication) (file : Path) : Log.Record :=
  ⟨.info, .output, "Wrote " ++ file.toText ++ " (" ++ ofNat (utf8Size p.html) ++ " bytes)"⟩

namespace Config

variable (c : Config) (render : Markdown.Renderer) (f : Form) (t : Text)

/-- A transpiled text with what surrounds the components rendered, or left as it is. -/
def body : Except Text Text :=
  if f.markdown.getD c.markdown.enabled then render c.markdown t else .ok t

def slideHtml (i : Nat) (body : Text) : Text :=
  Html.element "div" [("class".toList, if i = 0 then "slide current" else "slide")]
    (Html.onOwnLines body)

def publishText : Except Text Publication := do
  let r := c.transpiler.transpile t
  return ⟨← c.body render f r.text, r.reports, 0⟩

/-- A deck; each report carries the number of its slide. -/
def publishDeck : Except Text Publication := do
  let rs := c.transpiler.transpileSlides t
  let bodies ← rs.mapM fun r => c.body render f r.text
  return {
    html := unlines (bodies.mapIdx slideHtml)
    reports := (rs.mapIdx fun i r => r.reports.map (Diagnostic.onSlide (i + 1))).flatten
    slides := rs.length }

def publish : Except Text Publication := do
  let p ← if f.slides then c.publishDeck render f t else c.publishText render f t
  return { p with
    html := if f.standalone then c.page.wrap p.html else p.html
    reports := if c.strictness = .off then [] else p.reports }

/-- The records of publishing a text; that a deck was rendered is said at the end. -/
def journal : List Log.Record :=
  if f.slides then
    let slides := Slides.split c.transpiler.separator t
    slides.flatMap c.transpiler.journal ++
      match c.publishDeck render f t with
      | .ok p => [⟨.debug, .document, "rendered " ++ ofNat p.slides ++ " slide(s)"⟩]
      | .error _ => []
  else c.transpiler.journal t

end Config

end BlockMarkup
