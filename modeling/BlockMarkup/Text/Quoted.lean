import BlockMarkup.Text.Printable

/-!
# Quoted text

How a text is shown in a message: between quotes, on one line, with everything that cannot be
printed written as an escape.
-/

namespace BlockMarkup.Text

/-- A code point as an escape of two, four or eight hexadecimal digits. -/
def escapeCode (n : Nat) : Text :=
  if n < 0x100 then "\\x" ++ hex 2 n
  else if n < 0x10000 then "\\u" ++ hex 4 n
  else "\\U" ++ hex 8 n

def quoteChar (mark c : Char) : Text :=
  if c = mark || c = '\\' then ['\\', c]
  else if c = '\n' then "\\n"
  else if c = '\r' then "\\r"
  else if c = '\t' then "\\t"
  else if isPrintable c then [c]
  else escapeCode c.toNat

/-- Apostrophes are the marks, unless the text has one and no double quote. -/
def quoteMark (t : Text) : Char := if t.contains '\'' && !t.contains '"' then '"' else '\''

def quoted (t : Text) : Text :=
  let mark := quoteMark t
  mark :: t.flatMap (quoteChar mark) ++ [mark]

end BlockMarkup.Text
