import BlockMarkup.Text.Blank

/-!
# Durations

A duration is written in seconds, as a decimal number with an optional sign and exponent, and kept in
whole milliseconds. Underscores may stand between any two of its characters, but not side by side.
-/

namespace BlockMarkup.Command

open Text

/-- A text cut at the first character of a class, which is dropped. -/
def cutAt (p : Char → Bool) (t : Text) : Text × Option Text :=
  (t.takeWhile (!p ·), match t.dropWhile (!p ·) with
    | [] => none
    | _ :: rest => some rest)

/-- A sign and what follows it; no sign is a plus. -/
def cutSign : Text → Bool × Text
  | '-' :: t => (true, t)
  | '+' :: t => (false, t)
  | t => (false, t)

/-- An exponent; beyond a hundred it makes no difference to a clock. -/
def exponent? : Option Text → Option Int
  | none => some 0
  | some t =>
    let (negative, ds) := cutSign t
    if ds.isEmpty || !ds.all Char.isDigit then none
    else
      let n := min (natOfDigits ds) 100
      some (if negative then -n else n)

/-- A decimal number in thousandths. -/
def thousandths? (t : Text) : Option Nat := do
  let (mantissa, e) := cutAt (fun c => c == 'e' || c == 'E') t
  let exponent ← exponent? e
  let (whole, part) := cutAt (· == '.') mantissa
  let ds := whole ++ part.getD []
  if ds.isEmpty || !ds.all Char.isDigit then none
  else
    let scale := exponent + 3 - (part.getD []).length
    let n := natOfDigits ds
    some (if 0 ≤ scale then n * Nat.pow 10 scale.toNat else n / Nat.pow 10 (-scale).toNat)

/-- The words for what is no number or has no end. -/
def endless : List Text := ["nan".toList, "inf".toList, "infinity".toList]

/-- A number of seconds in milliseconds; a negative one, like one that is no number, is over at
once. -/
def number? (t : Text) : Option Nat :=
  let (negative, body) := cutSign t
  if endless.contains (body.map Char.toLower) then some 0
  else (thousandths? body).map fun n => if negative then 0 else n

/-- Underscores side by side. -/
def hasGap : Text → Bool
  | '_' :: '_' :: _ => true
  | _ :: t => hasGap t
  | [] => false

/-- A text without the underscores inside it, if it has any and all are inside. -/
def ungrouped? (t : Text) : Option Text :=
  if !t.contains '_' || t.head? == some '_' || t.getLast? == some '_' || hasGap t then none
  else some (t.filter (· != '_'))

/-- A space on either side of a number; the separators of files and records are none. -/
def isPadding (c : Char) : Bool := isBlank c && !('\x1c' ≤ c && c ≤ '\x1f')

/-- A duration in milliseconds. Space around it is passed over, unless it has underscores. -/
def milliseconds? (t : Text) : Option Nat :=
  match number? (dropEndWhile isPadding (t.dropWhile isPadding)) with
  | some ms => some ms
  | none => (ungrouped? t).bind number?

end BlockMarkup.Command
