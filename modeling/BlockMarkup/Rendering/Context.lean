import BlockMarkup.Block

/-!
# The course of one rendering

What the components share while one text is rendered: the directory of the pictograms, how many
accordions have a number and the reports made so far. A new text starts with a new context, so
accordions are numbered from one. A context may also keep the blocks that are handed over; to forget
them changes nothing else (`hand_forget`).
-/

namespace BlockMarkup

open Text

/-- A block with the accordion number it was handed over with, if it came with one. -/
structure Handover where
  block : Block
  number : Option Nat
deriving DecidableEq

structure Context where
  pictograms : Text
  accordions : Nat
  reports : List Diagnostic
  handovers : Option (List Handover)
deriving DecidableEq

namespace Context

/-- Where the pictograms are unless a place is given. -/
def defaultPictograms : Text := "/artwork/pictograms"

def start (pictograms : Text) : Context := ⟨pictograms, 0, [], none⟩

/-- A context to start with that keeps the blocks. -/
def keeping (pictograms : Text) : Context := ⟨pictograms, 0, [], some []⟩

def forget (ctx : Context) : Context := { ctx with handovers := none }

def report (ctx : Context) (ds : List Diagnostic) : Context :=
  { ctx with reports := ctx.reports ++ ds }

/-- The next accordion number. -/
def draw (ctx : Context) : Nat × Context :=
  (ctx.accordions + 1, { ctx with accordions := ctx.accordions + 1 })

/-- The number of a block: the one it comes with, else one that an accordion draws. -/
def numberFor (ctx : Context) (b : Block) : Option Nat → Nat × Context
  | some n => (n, ctx)
  | none => if b.component = .accordion then ctx.draw else (0, ctx)

/-- Renders a block. -/
def hand (ctx : Context) (b : Block) (number : Option Nat) : Text × Context :=
  let (n, ctx) := ctx.numberFor b number
  (b.html ctx.pictograms n,
    { ctx.report b.reports with handovers := ctx.handovers.map (· ++ [⟨b, number⟩]) })

theorem report_forget (ctx : Context) (ds : List Diagnostic) :
    ctx.forget.report ds = (ctx.report ds).forget := rfl

theorem numberFor_forget (ctx : Context) (b : Block) (number : Option Nat) :
    ctx.forget.numberFor b number =
      ((ctx.numberFor b number).1, (ctx.numberFor b number).2.forget) := by
  unfold numberFor
  split
  · rfl
  · split <;> rfl

theorem hand_forget (ctx : Context) (b : Block) (number : Option Nat) :
    ctx.forget.hand b number = ((ctx.hand b number).1, (ctx.hand b number).2.forget) := by
  unfold hand
  rw [numberFor_forget]
  rfl

end Context

end BlockMarkup
