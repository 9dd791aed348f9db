import BlockMarkup.Config.Basic

/-!
# Checking configurations

A value is a configuration if each of its settings is as expected. Settings that are absent have
their defaults, and keys that mean nothing are ignored. All faults are found, in the order of the
settings, each with its place.
-/

namespace BlockMarkup.Config

open Text

/-! ## Faults -/

/-- What a setting should have been. -/
inductive Expected
  | text
  | oneOf (names : List Text)
  | switch
  | switchWord
  | mapping (of : Text)
deriving DecidableEq

namespace Expected

/-- The short name of the fault. -/
def code : Expected → Text
  | .text => "string_type"
  | .oneOf _ => "literal_error"
  | .switch => "bool_type"
  | .switchWord => "bool_parsing"
  | .mapping _ => "model_type"

/-- Names between apostrophes, the last behind an "or". -/
def alternatives : List Text → Text
  | [] => []
  | [a] => singly a
  | [a, b] => singly a ++ " or " ++ singly b
  | a :: as => singly a ++ ", " ++ alternatives as
where
  singly (t : Text) : Text := '\'' :: t ++ ['\'']

def message : Expected → Text
  | .text => "Input should be a valid string"
  | .oneOf names => "Input should be " ++ alternatives names
  | .switch => "Input should be a valid boolean"
  | .switchWord => "Input should be a valid boolean, unable to interpret input"
  | .mapping of => "Input should be a valid dictionary or instance of " ++ of

end Expected

/-- What is wrong, the keys that lead to it, and how a message mentions what was found there. -/
structure Fault where
  place : List Text
  expected : Expected
  found : Text
deriving DecidableEq

def Fault.message (f : Fault) : Text :=
  join "." f.place ++ ": " ++ f.expected.message ++ " [found " ++ f.found ++ "]"

/-- A value with the faults found on the way to it. -/
structure Checked (α : Type) where
  value : α
  faults : List Fault

instance : Applicative Checked where
  pure a := ⟨a, []⟩
  seq f a := ⟨f.value (a ()).value, f.faults ++ (a ()).faults⟩

/-! ## Settings -/

def textOf : Value → Except Expected Text
  | .text t => .ok t
  | _ => .error .text

def choiceOf {α : Type} (c : Choice α) (v : Value) : Except Expected α :=
  let fault : Expected := .oneOf (c.map Prod.fst)
  match v with
  | .text t => (c.lookup t).elim (.error fault) .ok
  | _ => .error fault

def offWords : List Text :=
  ["0".toList, "off".toList, "f".toList, "false".toList, "n".toList, "no".toList]

def onWords : List Text :=
  ["1".toList, "on".toList, "t".toList, "true".toList, "y".toList, "yes".toList]

/-- The greatest whole number of a machine word. -/
def maximalWord : Int := 9223372036854775807

/-- A whole number that a machine word holds; of the numbers with a point, the smallest word is none. -/
def word? : Value → Option Int
  | .int i => if -maximalWord - 1 ≤ i ∧ i ≤ maximalWord then some i else none
  | v => v.whole?.filter fun i => -maximalWord ≤ i && i ≤ maximalWord

/-- A switch may also be the number zero or one, or a word for it in any case. -/
def switchOf : Value → Except Expected Bool
  | .bool b => .ok b
  | .text t =>
    let word := t.map Char.toLower
    if offWords.contains word then .ok false
    else if onWords.contains word then .ok true
    else .error .switchWord
  | v =>
    match word? v with
    | some 0 => .ok false
    | some 1 => .ok true
    | some _ => .error .switchWord
    | none => .error .switch

/-- The setting of a key. -/
def setting {α : Type} (entries : List (Key × Value)) (key : String) (fallback : α)
    (read : Value → Except Expected α) : Checked α :=
  match Value.find? key entries with
  | none => pure fallback
  | some v =>
    match read v with
    | .ok a => pure a
    | .error e => ⟨fallback, [⟨[key.toList], e, v.mention⟩]⟩

/-- The settings below a key. -/
def group {α : Type} (entries : List (Key × Value)) (key name : String) (fallback : α)
    (read : List (Key × Value) → Checked α) : Checked α :=
  match Value.find? key entries with
  | none => pure fallback
  | some (.map es) =>
    let r := read es
    ⟨r.value, r.faults.map fun f => { f with place := key.toList :: f.place }⟩
  | some v => ⟨fallback, [⟨[key.toList], .mapping name, v.mention⟩]⟩

/-! ## Configurations -/

def checkTranspiler (es : List (Key × Value)) : Checked (Transpiler × Strictness) :=
  let d := default.transpiler
  (fun strategy separator pictograms strictness => (⟨strategy, pictograms, separator⟩, strictness))
    <$> setting es "strategy" d.strategy (choiceOf strategies)
    <*> setting es "slide_separator" d.separator textOf
    <*> setting es "pictogram_path" d.pictograms textOf
    <*> setting es "diagnostics" default.strictness (choiceOf strictnesses)

def checkMarkdown (es : List (Key × Value)) : Checked Markdown :=
  let d := default.markdown
  Markdown.mk
    <$> setting es "enabled" d.enabled switchOf
    <*> setting es "preset" d.preset (choiceOf presets)
    <*> setting es "typographer" d.typographer switchOf

def checkPage (es : List (Key × Value)) : Checked Page :=
  let d := default.page
  Page.mk
    <$> setting es "title" d.title textOf
    <*> setting es "lang" d.lang textOf
    <*> setting es "stylesheet_url" d.stylesheet textOf
    <*> setting es "script_url" d.script textOf

def check (es : List (Key × Value)) : Checked Config :=
  (fun t m p level format => ⟨t.1, t.2, m, p, level, format⟩)
    <$> group es "transpiler" "TranspilerConfig" (default.transpiler, default.strictness)
      checkTranspiler
    <*> group es "markdown" "MarkdownConfig" default.markdown checkMarkdown
    <*> group es "export" "ExportConfig" default.page checkPage
    <*> setting es "log_level" default.logLevel (choiceOf logLevels)
    <*> setting es "log_format" default.logFormat (choiceOf logFormats)

/-- A value as what a check makes of its entries, if it is a mapping and has no faults. -/
def ofChecked {α : Type} (name : String) (read : List (Key × Value) → Checked α) :
    Value → Except (List Fault) α
  | .map es =>
    match read es with
    | ⟨a, []⟩ => .ok a
    | ⟨_, faults⟩ => .error faults
  | v => .error [⟨[], .mapping name, v.mention⟩]

def ofValue : Value → Except (List Fault) Config := ofChecked "DsfrmarkConfig" check

end BlockMarkup.Config
