import BlockMarkup.Log
import BlockMarkup.Rendering.Nested
import BlockMarkup.Rendering.Passes
import BlockMarkup.Slides

/-!
# The transpiler

A text goes in, and comes out with its component blocks as HTML and with reports on what is wrong
with it. The nested strategy renders by block structure, the passes strategy one component after
the other. Every text, and every slide of a deck, is rendered by itself.
-/

namespace BlockMarkup

open Text

inductive Strategy
  | nested
  | passes
deriving DecidableEq

namespace Strategy

def name : Strategy → Text
  | .nested => "nested"
  | .passes => "passes"

def ofName? (t : Text) : Option Strategy :=
  if t = "nested" then some .nested else if t = "passes" then some .passes else none

/-- What is said of a strategy that does not exist. -/
def unknownMessage (t : Text) : Text := "Unknown transpile strategy: " ++ quoted t

end Strategy

structure Transpiler where
  strategy : Strategy
  pictograms : Text
  separator : Text
deriving DecidableEq

/-- A transpiled text and the reports on it, by line number. -/
structure Transpiled where
  text : Text
  reports : List Diagnostic
deriving DecidableEq

namespace Transpiler

/-- The rendered text and the context at the end of rendering. -/
def render (p : Transpiler) (t : Text) (ctx : Context) : Text × Context :=
  match p.strategy with
  | .nested => Rendering.nested t ctx
  | .passes => Rendering.passes t ctx

theorem render_forget (p : Transpiler) (t : Text) (ctx : Context) :
    p.render t ctx.forget = ((p.render t ctx).1, (p.render t ctx).2.forget) := by
  unfold render
  split
  · exact Rendering.nested_forget t ctx
  · exact Rendering.passes_forget t ctx

def transpile (p : Transpiler) (t : Text) : Transpiled :=
  let (text, ctx) := p.render t (.start p.pictograms)
  ⟨text, Diagnostic.sort ctx.reports⟩

/-- A rendering that keeps the blocks has the same text and reports. -/
theorem transpile_eq_keeping (p : Transpiler) (t : Text) :
    p.transpile t = ⟨(p.render t (.keeping p.pictograms)).1,
      Diagnostic.sort (p.render t (.keeping p.pictograms)).2.reports⟩ := by
  have h : Context.start p.pictograms = (Context.keeping p.pictograms).forget := rfl
  rw [transpile, h, render_forget]
  rfl

/-- The blocks that are handed to their components, in order. -/
def handovers (p : Transpiler) (t : Text) : List Handover :=
  (p.render t (.keeping p.pictograms)).2.handovers.getD []

def transpileSlides (p : Transpiler) (t : Text) : List Transpiled :=
  (Slides.split p.separator t).map p.transpile

/-! ## What is logged -/

/-- The record of a text read by its structure. -/
def structureRecord (t : Text) : Log.Record :=
  let f := Forest.ofText t
  ⟨.debug, .grammar, "parsed " ++ ofNat f.blocks.length ++ " block(s), " ++
    ofNat f.unclosed.length ++ " unterminated"⟩

def resultRecord (p : Transpiler) (t : Text) : Log.Record :=
  ⟨.debug, .pipeline, "transpiled " ++ ofNat t.length ++ " chars (" ++ p.strategy.name ++ "), " ++
    ofNat (p.transpile t).reports.length ++ " diagnostic(s)"⟩

/-- The records of transpiling one text. -/
def journal (p : Transpiler) (t : Text) : List Log.Record :=
  match p.strategy with
  | .nested => [structureRecord t, p.resultRecord t]
  | .passes => [p.resultRecord t]

end Transpiler

end BlockMarkup
