import BlockMarkup.Text.Basic

/-!
# Rendering the text around the components

How the text around the components is rendered can be set. What renders it is no part of the library: any
renderer will do, which may also fail.
-/

namespace BlockMarkup

open Text

namespace Markdown

/-- How much markup is interpreted. -/
inductive Preset
  | commonmark
  | full
  | zero
deriving DecidableEq

namespace Preset

def name : Preset → Text
  | .commonmark => "commonmark"
  | .full => "default"
  | .zero => "zero"

def all : List Preset := [.commonmark, .full, .zero]

end Preset

end Markdown

/-- How text is rendered. -/
structure Markdown where
  enabled : Bool
  preset : Markdown.Preset
  typographer : Bool
deriving DecidableEq

/-- What renders a text under some settings, or says why it cannot. -/
abbrev Markdown.Renderer := Markdown → Text → Except Text Text

end BlockMarkup
