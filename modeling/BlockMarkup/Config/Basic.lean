import BlockMarkup.Markdown.Basic
import BlockMarkup.Page
import BlockMarkup.Transpiler
import BlockMarkup.Value

/-!
# Configurations

What can be configured, and the names under which a configuration file knows it.
-/

namespace BlockMarkup

open Text

/-- What becomes of reports: they are shown, and may make a check fail, or are left out. -/
inductive Strictness
  | strict
  | warn
  | off
deriving DecidableEq

structure Config where
  transpiler : Transpiler
  strictness : Strictness
  markdown : Markdown
  page : Page
  logLevel : Log.Level
  logFormat : Log.Format
deriving DecidableEq

namespace Config

def default : Config where
  transpiler := ⟨.nested, Context.defaultPictograms, Slides.defaultSeparator⟩
  strictness := .warn
  markdown := ⟨true, .commonmark, false⟩
  page := .default
  logLevel := .info
  logFormat := .text

/-! ## Choices -/

/-- The names of the values that a setting chooses from. -/
abbrev Choice (α : Type) := List (Text × α)

def strategies : Choice Strategy :=
  [Strategy.nested, Strategy.passes].map fun s => (s.name, s)

def strictnesses : Choice Strictness :=
  [("strict".toList, .strict), ("warn".toList, .warn), ("off".toList, .off)]

def presets : Choice Markdown.Preset := Markdown.Preset.all.map fun p => (p.name, p)

def logLevels : Choice Log.Level :=
  [("debug".toList, .debug), ("info".toList, .info), ("warn".toList, .warning),
    ("error".toList, .error)]

def logFormats : Choice Log.Format := [("text".toList, .text), ("json".toList, .json)]

/-- The name of a chosen value. -/
def Choice.nameOf {α : Type} [DecidableEq α] (c : Choice α) (a : α) : Text :=
  ((c.find? (·.2 = a)).map Prod.fst).getD []

/-! ## As a value -/

def entry (key : String) (v : Value) : Key × Value := (.text key, v)

/-- A configuration with all its settings. -/
def toValue (c : Config) : Value :=
  .map [
    entry "transpiler" (.map [
      entry "strategy" (.text (strategies.nameOf c.transpiler.strategy)),
      entry "slide_separator" (.text c.transpiler.separator),
      entry "pictogram_path" (.text c.transpiler.pictograms),
      entry "diagnostics" (.text (strictnesses.nameOf c.strictness))]),
    entry "markdown" (.map [
      entry "enabled" (.bool c.markdown.enabled),
      entry "preset" (.text (presets.nameOf c.markdown.preset)),
      entry "typographer" (.bool c.markdown.typographer)]),
    entry "export" (.map [
      entry "title" (.text c.page.title),
      entry "lang" (.text c.page.lang),
      entry "stylesheet_url" (.text c.page.stylesheet),
      entry "script_url" (.text c.page.script)]),
    entry "log_level" (.text (logLevels.nameOf c.logLevel)),
    entry "log_format" (.text (logFormats.nameOf c.logFormat))]

end Config

end BlockMarkup
