import BlockMarkup.Options.Setting
import BlockMarkup.Diagnostic

/-!
# Reading options

Option lines are read top down into options. A line that is not one is left out and reported; a key
that the reader does not know, and a key given again, are kept and reported. Blank lines are passed
over, but count as lines.
-/

namespace BlockMarkup

open Text

/-- What the lines are read for: the keys that count as known, the component in whose name problems
are reported, and the number of the first line. -/
structure OptionReader where
  known : Option (List Text)
  component : Option Text
  firstLine : Option Int

namespace OptionReader

/-- A report on the line at an offset. -/
def report (r : OptionReader) (offset : Nat) (line : Text) (p : Problem) : Diagnostic :=
  ⟨trim line, p, r.firstLine.map (· + offset), r.component, none⟩

/-- The reports on one option line, after the options read above it. -/
def settingReports (r : OptionReader) (offset : Nat) (above : Options) (line key : Text) :
    List Diagnostic :=
  (if (r.known.map (·.contains key)).getD true then []
    else [r.report offset line (.unknownOption key)]) ++
  (if above.contains key then [r.report offset line (.duplicateOption key)] else [])

/-- Reads lines from an offset on, with the options above them. -/
def readLines (r : OptionReader) (offset : Nat) (above : Options) :
    List Text → Options × List Diagnostic
  | [] => (above, [])
  | l :: ls =>
    if l.all isBlank then r.readLines (offset + 1) above ls
    else match Setting.ofLine? l with
      | none =>
        let (o, ds) := r.readLines (offset + 1) above ls
        (o, r.report offset l .malformedOption :: ds)
      | some (key, v) =>
        let (o, ds) := r.readLines (offset + 1) (above.set key v) ls
        (o, r.settingReports offset above l key ++ ds)

def read (r : OptionReader) (t : Text) : Options × List Diagnostic :=
  r.readLines 0 .empty (lines t)

end OptionReader

end BlockMarkup
