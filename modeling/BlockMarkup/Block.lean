import BlockMarkup.Component.Link
import BlockMarkup.Component.Layout
import BlockMarkup.Options.Reading

/-!
# Blocks

A block as it is handed to its component: where it stands, what was written and the content between
its markers. Rendering a block yields HTML (`Block.html`) and reports on its options
(`Block.reports`); an accordion also needs its number.
-/

namespace BlockMarkup

open Text

structure Block where
  component : Component
  title : Text
  optionLines : List Text
  body : Text
  raw : Text
  lineno : Nat
  endLineno : Nat
  optionsLineno : Nat
deriving DecidableEq

namespace Block

/-- Whether a row has an option in its header instead of classes. -/
def hasHeaderOption (b : Block) : Bool := b.component == .row && b.title.contains ':'

/-- The lines that set the options of a block, and the number of the first one; zero stands for an
unknown place. Option lines of a badge stand at the head of its body. -/
def settingLines (b : Block) : List Text × Nat :=
  if b.hasHeaderOption then (b.title :: b.optionLines, b.lineno)
  else match b.component with
    | .badge =>
      let blankLines := (b.body.takeWhile (· == '\n')).length
      ((splitBadgeBody b.body).1, if b.lineno = 0 then 0 else b.lineno + 1 + blankLines)
    | .col => ([], 0)
    | _ => (b.optionLines, b.optionsLineno)

def knownLine (n : Nat) : Option Int := if n = 0 then none else some n

def reader (b : Block) : OptionReader :=
  ⟨some b.component.keys, some b.component.keyword, knownLine b.settingLines.2⟩

def options (b : Block) : Options := (b.reader.read (unlines b.settingLines.1)).1

/-- How a value is shown in a report on a choice. -/
def shownValue : OptionValue → Text
  | .text t => t
  | .switch true => "True"
  | .switch false => "False"

/-- The report on a value that is not among those its key accepts. -/
def choiceReport? (b : Block) (o : Options) (choice : Text × List Text) : Option Diagnostic :=
  match o.get? choice.1 with
  | none => none
  | some v =>
    if choice.2.any (fun t => v = .text t) then none
    else some ⟨choice.1 ++ ": " ++ shownValue v, .unexpectedValue choice.1 choice.2,
      knownLine b.settingLines.2, some b.component.keyword, none⟩

/-- The reports on the options of a block, those on lines before those on choices. -/
def reports (b : Block) : List Diagnostic :=
  let (o, ds) := b.reader.read (unlines b.settingLines.1)
  ds ++ b.component.choices.filterMap (b.choiceReport? o)

/-- The HTML of a block with the options given. The number counts for accordions alone, the
pictogram directory for tiles. -/
def htmlWith (pictograms : Text) (number : Nat) (b : Block) (o : Options) : Text :=
  match b.component with
  | .card => cardHtml b.title o b.body
  | .tile => tileHtml pictograms b.title o b.body
  | .col => colHtml b.title b.body
  | .row => rowHtml (if b.hasHeaderOption then [] else b.title) o b.body
  | .alert => alertHtml b.title o b.body
  | .callout => calloutHtml b.title o b.body
  | .accordion => accordionHtml b.title o b.body number
  | .badge => badgeHtml (splitBadgeBody b.body).2 o

def html (pictograms : Text) (number : Nat) (b : Block) : Text :=
  b.htmlWith pictograms number b.options

end Block

end BlockMarkup
