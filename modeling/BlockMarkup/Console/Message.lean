import BlockMarkup.Console.Markup
import BlockMarkup.Console.Wrapping

/-!
# Messages

A message is written in markup and put out on lines that fit the terminal. Text that is put out as it
is loses only the sequences that would steer a terminal.
-/

namespace BlockMarkup.Console

open Text

/-! ## Markup -/

/-- The lines of a message. -/
def messageLines (columns : Nat) (t : Text) : Except MarkupError (List Text) :=
  (render t).map (wrap .fold columns)

/-- How a text shows as a part of a message that has no tags in it. -/
def verbatim (t : Text) : Text :=
  (pieces (escape t)).flatMap fun
    | .plain p => shown p
    | .tag _ _ => []

/-! ## Sequences -/

def isParameter (c : Char) : Bool := c.isDigit || c == ';' || c == '?'

/-- A text without sequences: an escape, an opening bracket, parameters and a letter. -/
def withoutSequences : Text → Text
  | '\x1b' :: '[' :: t =>
    let rest := t.dropWhile isParameter
    if rest.head?.any Char.isAlpha then withoutSequences rest.tail
    else '\x1b' :: withoutSequences ('[' :: t)
  | c :: t => c :: withoutSequences t
  | [] => []
termination_by t => t.length
decreasing_by
  · have := (List.dropWhile_sublist isParameter (l := t)).length_le
    simp only [List.length_tail, List.length_cons]
    omega
  · simp
  · simp

end BlockMarkup.Console
