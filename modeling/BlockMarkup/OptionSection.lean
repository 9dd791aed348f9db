import BlockMarkup.Component.Basic
import BlockMarkup.Marker

/-!
# Option sections

After an opener, a run of option lines that holds a key of the component, ended by a closing
marker, is the option section of the block. The last closing marker of a text never ends a section:
it is left to close a block.
-/

namespace BlockMarkup.OptionSection

open Text Marker

/-- The run of option lines goes on past the last line, although a closing marker was said to stand
below it. -/
inductive Fault
  | pastEnd
deriving DecidableEq

/-- How many option lines the section at the head of `rest` has, if there is one. Only the marker
of a run shorter than `limit` may end a section. -/
def size? (c : Component) (limit : Nat) (rest : List Text) : Except Fault (Option Nat) :=
  let run := rest.takeWhile Setting.isLine
  if c.hasOptionSection && !run.isEmpty && run.length < limit && run.any c.knowsLine then
    match rest[run.length]? with
    | some l => .ok (if isCloser l then some run.length else none)
    | none => .error .pastEnd
  else .ok none

/-- How many of the lines below an opener are its option section, the marker included. -/
def length (c : Component) (limit : Nat) (rest : List Text) : Nat :=
  match size? c limit rest with
  | .ok (some n) => n + 1
  | _ => 0

/-- Where the marker that ends the section starting at `start` stands, given where the last closing
marker does. -/
def end? (lines : List Text) (start : Nat) (c : Component) (lastCloser : Option Nat) :
    Except Fault (Option Nat) :=
  (size? c (lastCloser.getD 0 - start) (lines.drop start)).map (·.map (start + ·))

end BlockMarkup.OptionSection
