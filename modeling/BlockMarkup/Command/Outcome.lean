import BlockMarkup.Console.Message
import BlockMarkup.Console.Table
import BlockMarkup.Diagnostic
import BlockMarkup.Value
import BlockMarkup.Watcher.Basic

/-!
# Outcomes

What a run of the program comes to: what it prints, how it leaves the files, and its exit code.
-/

namespace BlockMarkup.Command

open Text

/-! ## Exit codes -/

def success : Nat := 0

def failure : Nat := 1

/-- The command line is wrong. -/
def misuse : Nat := 2

/-! ## Outcomes -/

/-- What is printed: a text as it is, or a table. -/
inductive Item
  | text (t : Text)
  | table (t : Console.Table)
deriving DecidableEq

def Item.toText : Item → Text
  | .text t => t
  | .table t => t.toText

/-- What a run does not get over: it ends there, with what it has done so far. -/
inductive Breakdown
  | file (e : FileError)
  | markup (e : Console.MarkupError)
  | homeless
  /-- The renderer of the text around the components fails, or who listens to renders. -/
  | rendering (why : Text)
  /-- The path of a source leads through a link that leads back to itself. -/
  | circular (path : Path)
  | tooDeep
  | strangeKey
  /-- What reads configuration files breaks down, with a fault of some name. -/
  | reading (fault why : Text)
deriving DecidableEq

def Breakdown.message : Breakdown → Text
  | .file e => e.message
  | .markup e => e.message
  | .homeless => "Could not determine home directory."
  | .rendering why => why
  | .circular path => "Symlink loop from " ++ quoted path.toText
  | .tooDeep => "maximum recursion depth exceeded"
  | .strangeKey => "keywords must be strings"
  | .reading _ why => why

/-- What a run does not get over when a render fails. -/
def Breakdown.ofRender : RenderFault → Breakdown
  | .file e => .file e
  | .markdown why => .rendering why
  | .listener why => .rendering why

/-- What a run has printed and what it leaves behind. -/
structure Outcome where
  exitCode : Nat
  output : List Item
  errors : List Text
  disk : Disk
  breakdown : Option Breakdown

/-! ## Reports -/

/-- The lines of a warning. -/
def warning (columns : Nat) (d : Diagnostic) : List Text :=
  Console.wrap .fold columns ("warn: " ++ Console.verbatim d.toText)

/-- A number, or a dash where there is none. -/
def numberCell (n : Option Int) : Text := n.elim ['-'] ofInt

def componentCell : Option Text → Text
  | some (c :: cs) => c :: cs
  | _ => ['-']

def reportRow (slides : Bool) (d : Diagnostic) : List Text :=
  let row := [numberCell d.lineno, componentCell d.component, Console.verbatim d.problem.message,
    Console.verbatim d.line]
  if slides then numberCell d.slide :: row else row

def reportTable (columns : Nat) (slides : Bool) (ds : List Diagnostic) : Console.Table where
  title := "Diagnostics (" ++ ofNat ds.length ++ ")"
  columns :=
    let common : List Console.Column :=
      [⟨"Line", true⟩, ⟨"Component", false⟩, ⟨"Problem", false⟩, ⟨"Text", false⟩]
    if slides then ⟨"Slide", true⟩ :: common else common
  rows := ds.map (reportRow slides)
  room := columns

def reportValue (d : Diagnostic) : Value :=
  let number (n : Option Int) : Value := n.elim .null .int
  .map [(.text "line", .text d.line), (.text "reason", .text d.problem.message),
    (.text "lineno", number d.lineno), (.text "component", d.component.elim .null .text),
    (.text "slide", number d.slide)]

end BlockMarkup.Command
