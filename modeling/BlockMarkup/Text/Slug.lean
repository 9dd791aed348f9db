import BlockMarkup.Text.Lower
import BlockMarkup.Text.Word

/-!
# Slugs

The identifier of a titled element, made from its title: the title in lower case, the accents of
French taken off, and the runs of ASCII letters and digits that remain joined by hyphens.
-/

namespace BlockMarkup.Text

/-- Base letters and their accented forms. -/
def accents : List (Char × Text) :=
  [('a', "àâä"), ('e', "éèêë"), ('i', "îï"), ('o', "ôö"), ('u', "ùûü"), ('c', "ç")]

/-- A character without its accent. -/
def unaccent (c : Char) : Char :=
  match accents.find? (·.2.contains c) with
  | some (base, _) => base
  | none => c

/-- The text a slug is cut from. -/
def plainLetters (t : Text) : Text := (lower t).map unaccent

def slug (t : Text) : Text :=
  join ['-'] ((splitWhen (!isSlugChar ·) (plainLetters t)).filter (!·.isEmpty))

end BlockMarkup.Text
