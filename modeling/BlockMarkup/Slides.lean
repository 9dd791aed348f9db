import BlockMarkup.Text.Blank

/-!
# Slides

A deck is cut into slides at the lines that hold the separator and nothing else but blank space.
Slides are trimmed, and empty ones are left out.
-/

namespace BlockMarkup.Slides

open Text

def isSeparator (separator line : Text) : Bool := trim line == separator

def split (separator t : Text) : List Text :=
  ((splitWhen (isSeparator separator) (lines t)).map fun g => trim (unlines g)).filter (!·.isEmpty)

/-- Where slides are cut unless told otherwise. -/
def defaultSeparator : Text := "---"

end BlockMarkup.Slides
