/-!
# Text

A text is the list of its characters, so that every rule on it is a recursion on a list. Lines are
cut at line feeds alone, and cutting loses nothing (`unlines_lines`).
-/

namespace BlockMarkup

/-- A text, character by character. -/
abbrev Text := List Char

instance : Coe String Text := ⟨String.toList⟩

namespace Text

/-! ## Cutting and joining -/

section Split

variable {α : Type}

/-- Puts an item in front of the pieces cut so far, or opens a piece where it separates. -/
def consPiece (sep : α → Bool) (a : α) : List (List α) → List (List α)
  | [] => if sep a then [[], []] else [[a]]
  | p :: ps => if sep a then [] :: p :: ps else (a :: p) :: ps

/-- The pieces between separators, empty ones included: one more than there are separators. -/
def splitWhen (sep : α → Bool) (l : List α) : List (List α) := l.foldr (consPiece sep) [[]]

@[simp] theorem splitWhen_nil (sep : α → Bool) : splitWhen sep [] = [[]] := rfl

theorem splitWhen_cons (sep : α → Bool) (a : α) (l : List α) :
    splitWhen sep (a :: l) = consPiece sep a (splitWhen sep l) := rfl

theorem splitWhen_ne_nil (sep : α → Bool) (l : List α) : splitWhen sep l ≠ [] := by
  cases l with
  | nil => simp
  | cons a l => rw [splitWhen_cons]; unfold consPiece; split <;> split <;> simp

end Split

/-- The lines of a text: the pieces between line feeds. -/
def lines (t : Text) : List Text := splitWhen (· == '\n') t

/-- Lines joined by line feeds. -/
def unlines : List Text → Text
  | [l] => l
  | ls => List.intercalate ['\n'] ls

theorem lines_ne_nil (t : Text) : lines t ≠ [] := splitWhen_ne_nil _ _

@[simp] theorem unlines_nil : unlines [] = [] := rfl

@[simp] theorem unlines_singleton (l : Text) : unlines [l] = l := rfl

theorem unlines_cons_cons (l m : Text) (ls : List Text) :
    unlines (l :: m :: ls) = l ++ '\n' :: unlines (m :: ls) := by
  cases ls <;> simp [unlines, List.intercalate]

theorem unlines_lines (t : Text) : unlines (lines t) = t := by
  induction t with
  | nil => rfl
  | cons c t ih =>
    unfold lines at ih ⊢
    rw [splitWhen_cons]
    cases h : splitWhen (· == '\n') t with
    | nil => exact absurd h (splitWhen_ne_nil _ _)
    | cons l ls =>
      rw [h] at ih
      by_cases hc : c = '\n'
      · simp [consPiece, hc, unlines_cons_cons, ih]
      · cases ls with
        | nil => simpa [consPiece, hc] using ih
        | cons m ms =>
          rw [unlines_cons_cons] at ih
          simp [consPiece, hc, unlines_cons_cons, ih]

/-- Items joined by a separator. -/
def join (sep : Text) (items : List Text) : Text := List.intercalate sep items

/-! ## Ends -/

/-- A text without its longest ending in the class. -/
def dropEndWhile (p : Char → Bool) (t : Text) : Text :=
  if t.getLast?.any p then (t.reverse.dropWhile p).reverse else t

theorem dropEndWhile_eq (p : Char → Bool) (t : Text) :
    dropEndWhile p t = (t.reverse.dropWhile p).reverse := by
  unfold dropEndWhile
  rw [← List.head?_reverse]
  cases h : t.reverse with
  | nil => simpa using h
  | cons c u =>
    have ht : t = u.reverse ++ [c] := by simpa using congrArg List.reverse h
    by_cases hc : p c <;> simp [hc, ht]

/-- A text with one final line feed set aside, if there is one. -/
def dropFinalNewline : Text → Text
  | [] => []
  | ['\n'] => []
  | c :: t => c :: dropFinalNewline t

/-- What follows a known beginning. -/
def after? (start : Text) (t : Text) : Option Text := start.isPrefixOf? t

/-- Each line break `\r\n` or `\r` written as a line feed. -/
def normalizeNewlines : Text → Text
  | [] => []
  | '\r' :: '\n' :: t => '\n' :: normalizeNewlines t
  | '\r' :: t => '\n' :: normalizeNewlines t
  | c :: t => c :: normalizeNewlines t

/-! ## Numbers and sizes -/

/-- A number in decimal digits. -/
def ofNat (n : Nat) : Text := Nat.toDigits 10 n

/-- A number in decimal digits, behind a minus sign when it is negative. -/
def ofInt (i : Int) : Text := if i < 0 then '-' :: ofNat i.natAbs else ofNat i.natAbs

/-- The number that decimal digits stand for. -/
def natOfDigits (t : Text) : Nat := t.foldl (fun n c => 10 * n + (c.toNat - '0'.toNat)) 0

/-- How many bytes the text takes in UTF-8. -/
def utf8Size (t : Text) : Nat := t.foldr (fun c n => c.utf8Size + n) 0

/-- The number in lower-case hexadecimal, in at least `width` digits. -/
def hex (width n : Nat) : Text := (Nat.toDigits 16 n).leftpad width '0'

end Text

end BlockMarkup
