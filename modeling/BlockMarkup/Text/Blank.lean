import BlockMarkup.Text.Basic

/-!
# Blanks

The characters that count as blank space: the ASCII controls from tab to carriage return and from
file separator to unit separator, the next-line control, and every space and separator of Unicode.
A zero-width space is not one of them.
-/

namespace BlockMarkup.Text

def isBlank (c : Char) : Bool :=
  let n := c.toNat
  (9 ≤ n && n ≤ 13) || (28 ≤ n && n ≤ 32) || n == 0x85 || n == 0xA0 || n == 0x1680 ||
    (0x2000 ≤ n && n ≤ 0x200A) || n == 0x2028 || n == 0x2029 || n == 0x202F || n == 0x205F ||
    n == 0x3000

/-- A text without the blanks at its end. -/
def trimEnd (t : Text) : Text := dropEndWhile isBlank t

/-- A text without the blanks at either end. -/
def trim (t : Text) : Text := trimEnd (t.dropWhile isBlank)

/-- The words of a text: its longest runs of characters that are not blank. -/
def words (t : Text) : List Text := (splitWhen isBlank t).filter (!·.isEmpty)

/-- The trimmed items of a comma-separated list, empty ones left out. -/
def commaItems (t : Text) : List Text :=
  ((splitWhen (· == ',') t).map trim).filter (!·.isEmpty)

end BlockMarkup.Text
