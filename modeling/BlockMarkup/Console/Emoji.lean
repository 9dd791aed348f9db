import BlockMarkup.Console.EmojiTable
import BlockMarkup.Text.Blank
import BlockMarkup.Text.Lower

/-!
# Emoji codes

In a message the name of an emoji between two colons stands for the emoji. A hyphen and the word
`emoji` or `text` behind the name choose between the coloured and the plain form. What is no code stays
as it is.
-/

namespace BlockMarkup.Console

open Text

/-- Items taken in twos. -/
def pairs : List Text → List (Text × Text)
  | a :: b :: rest => (a, b) :: pairs rest
  | _ => []

def namedEmoji : List (Text × Text) := pairs (words emojiTable.toList)

/-- The forms of an emoji: how each is called, and the character that chooses it. -/
def variants : List (Text × Char) := [("-emoji".toList, '\ufe0f'), ("-text".toList, '\ufe0e')]

/-- A name without the word for a form at its end, and the character that chooses the form. -/
def cutVariant (name : Text) : Text × Text :=
  match variants.find? fun v => v.1.isSuffixOf name with
  | some (word, mark) => (name.take (name.length - word.length), [mark])
  | none => (name, [])

/-- The emoji of a name, in any case, with its form. -/
def emoji? (name : Text) : Option Text :=
  let (name, mark) := cutVariant name
  (namedEmoji.lookup (lower name)).map (· ++ mark)

/-- A code, or what looks like one. -/
def code (name : Text) : Text := (emoji? name).getD (':' :: name ++ [':'])

/-- The pieces between colons joined again. A piece without blanks between two colons is a code, and
both colons are part of it. -/
def joinCodes : List Text → Text
  | p :: name :: q :: rest =>
    if name.any isBlank then p ++ ':' :: joinCodes (name :: q :: rest)
    else p ++ code name ++ joinCodes (q :: rest)
  | [p, q] => p ++ ':' :: q
  | [p] => p
  | [] => []

/-- A text with its codes replaced. -/
def replaceCodes (t : Text) : Text := joinCodes (splitWhen (· == ':') t)

end BlockMarkup.Console
