import BlockMarkup.Text.Blank
import BlockMarkup.Text.Word

/-!
# Marker lines

Blocks are written between marker lines. An opener is `/// keyword`, with an optional header behind
a bar; a closer is `///` alone. Markers may be indented by spaces and tabs, and a carriage return
may end them. No line is both (`isCloser_eq_false_of_opener`).
-/

namespace BlockMarkup

open Text

/-- The keyword of an opener and its trimmed header. -/
structure Opener where
  keyword : Text
  header : Text
deriving DecidableEq

namespace Marker

def isIndent (c : Char) : Bool := c == ' ' || c == '\t'

/-- What may follow a marker on its line. -/
def isTrail (c : Char) : Bool := isIndent c || c == '\r'

def isKeywordChar (c : Char) : Bool := isWordChar c || c == '-'

/-- What follows the three slashes, one final line feed set aside. -/
def afterSlashes? (l : Text) : Option Text :=
  after? "///" ((dropFinalNewline l).dropWhile isIndent)

/-- The header in what follows the keyword. -/
def header? (t : Text) : Option Text :=
  match t.dropWhile isTrail with
  | [] => some []
  | '|' :: h => if h.contains '\n' then none else some (trim h)
  | _ => none

def opener? (l : Text) : Option Opener :=
  match (afterSlashes? l).map (·.dropWhile isIndent) with
  | some (c :: t) =>
    if c.isAlpha then
      (header? (t.dropWhile isKeywordChar)).map fun h => ⟨c :: t.takeWhile isKeywordChar, h⟩
    else none
  | _ => none

def isOpener (l : Text) : Bool := (opener? l).isSome

def isCloser (l : Text) : Bool :=
  match afterSlashes? l with
  | some t => t.all isTrail
  | none => false

theorem isTrail_of_isAlpha {c : Char} (h : c.isAlpha) : isTrail c = false := by
  simp only [isTrail, isIndent, Bool.or_eq_false_iff, beq_eq_false_iff_ne]
  refine ⟨⟨?_, ?_⟩, ?_⟩ <;> rintro rfl <;> simp at h

theorem isCloser_eq_false_of_opener {l : Text} {o : Opener} (h : opener? l = some o) :
    isCloser l = false := by
  unfold opener? at h
  unfold isCloser
  cases ht : afterSlashes? l with
  | none => rfl
  | some t =>
    simp only [ht, Option.map_some] at h
    cases hd : t.dropWhile isIndent with
    | nil => simp [hd] at h
    | cons c cs =>
      simp only [hd] at h
      by_cases hc : c.isAlpha
      · have hmem : c ∈ t := List.dropWhile_sublist isIndent |>.subset (by simp [hd])
        simp only [List.all_eq_false]
        exact ⟨c, hmem, by simp [isTrail_of_isAlpha hc]⟩
      · simp [hc] at h

/-- Where the last closer stands, counting lines from zero. -/
def lastCloser? : List Text → Option Nat
  | [] => none
  | l :: ls =>
    match lastCloser? ls with
    | some i => some (i + 1)
    | none => if isCloser l then some 0 else none

end Marker

end BlockMarkup
