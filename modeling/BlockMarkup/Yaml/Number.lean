import BlockMarkup.Value
import BlockMarkup.Text.Blank

/-!
# Numbers and dates

The forms in which a plain scalar is a number or a point in time. Digits may be grouped by underscores;
an octal number starts with a zero, and a colon separates hours, minutes and seconds.
-/

namespace BlockMarkup.Yaml

open Text

/-! ## Digits -/

def hexDigit? (c : Char) : Option Nat :=
  if c.isDigit then some (c.toNat - '0'.toNat)
  else if 'a' ≤ c ∧ c ≤ 'f' then some (c.toNat - 'a'.toNat + 10)
  else if 'A' ≤ c ∧ c ≤ 'F' then some (c.toNat - 'A'.toNat + 10)
  else none

/-- The number that digits in a base stand for, underscores aside. -/
def natural? (base : Nat) (t : Text) : Option Nat := do
  let ds ← (t.filter (· != '_')).mapM fun c => (hexDigit? c).filter (· < base)
  return ds.foldl (fun n d => base * n + d) 0

/-- Digits and underscores behind a digit. -/
def isGrouped : Text → Bool
  | [] => false
  | c :: t => c.isDigit && t.all fun c => c.isDigit || c == '_'

/-- A number of minutes or seconds. -/
def sixtieth? : Text → Option Nat
  | [a] => if a.isDigit then some (natOfDigits [a]) else none
  | [a, b] => if '0' ≤ a ∧ a ≤ '5' ∧ b.isDigit then some (natOfDigits [a, b]) else none
  | _ => none

/-- Whole hours, minutes and seconds, and whatever number stands in front of them. -/
def clock? (t : Text) : Option Nat :=
  match splitWhen (· == ':') t with
  | first :: part :: parts => do
    let n ← if isGrouped first then natural? 10 first else none
    (part :: parts).foldlM (fun n p => (sixtieth? p).map (60 * n + ·)) n
  | _ => none

/-- A sign and what follows it. -/
def cutSign : Text → Int × Text
  | '-' :: t => (-1, t)
  | '+' :: t => (1, t)
  | t => (1, t)

/-! ## Whole numbers -/

def unsigned? : Text → Option Nat
  | '0' :: 'b' :: c :: t => natural? 2 (c :: t)
  | '0' :: 'x' :: c :: t => natural? 16 (c :: t)
  | '0' :: t => natural? 8 t
  | t => if isGrouped t then natural? 10 t else clock? t

def integer? (t : Text) : Option Int :=
  let (sign, u) := cutSign t
  (unsigned? u).map (sign * ·)

/-! ## Fractions -/

/-- An exponent, which has a sign, or nothing. Beyond some hundreds it makes no difference. -/
def exponent? : Text → Option Int
  | [] => some 0
  | e :: s :: d :: ds =>
    if (e = 'e' ∨ e = 'E') ∧ (s = '+' ∨ s = '-') ∧ (d :: ds).all Char.isDigit then
      let n := min (natOfDigits (d :: ds)) 400
      some (if s = '-' then -n else n)
    else none
  | _ => none

/-- A decimal number `m / 10 ^ p`, of which the places may be negative. -/
def scaled (m : Int) (p : Int) : Value :=
  if 0 ≤ p then .decimal m p.toNat else .decimal (m * Nat.pow 10 (-p).toNat) 0

/-- Digits around a point, and an exponent; without digits before the point there is no sign. -/
def fraction? (t : Text) : Option Value := do
  let (sign, u) := cutSign t
  let whole := u.takeWhile (· != '.')
  let rest ← (u.dropWhile (· != '.')).tail?
  let part := rest.takeWhile fun c => c.isDigit || c == '_'
  let e ← exponent? (rest.drop part.length)
  if isGrouped whole || (t.head? == some '.' && isGrouped part) then
    let m ← natural? 10 (whole ++ part)
    some (scaled (sign * m) ((part.filter (· != '_')).length - e))
  else none

/-- Hours, minutes and seconds with a fraction of a second. -/
def isClockFraction (t : Text) : Bool :=
  let u := (cutSign t).2
  (clock? (u.takeWhile (· != '.'))).isSome &&
    (u.dropWhile (· != '.')).tail?.any (·.all fun c => c.isDigit || c == '_')

def isEndless (t : Text) : Bool :=
  [".inf".toList, ".Inf".toList, ".INF".toList].contains (cutSign t).2 ||
    [".nan".toList, ".NaN".toList, ".NAN".toList].contains t

/-! ## Dates -/

/-- What follows digits, of which there are at least so many and at most so many. -/
def afterDigits? (least most : Nat) (t : Text) : Option Text :=
  let ds := (t.take most).takeWhile Char.isDigit
  if ds.length < least then none else some (t.drop ds.length)

def afterChar? (c : Char) : Text → Option Text
  | d :: t => if c = d then some t else none
  | [] => none

/-- What follows a year, a month and a day; the latter two have at least so many digits. -/
def afterDay? (least : Nat) (t : Text) : Option Text := do
  let t ← afterDigits? 4 4 t
  let t ← afterChar? '-' t
  let t ← afterDigits? least 2 t
  let t ← afterChar? '-' t
  afterDigits? least 2 t

/-- What follows hours, minutes and seconds. -/
def afterTime? (t : Text) : Option Text := do
  let t ← afterDigits? 1 2 t
  let t ← afterChar? ':' t
  let t ← afterDigits? 2 2 t
  let t ← afterChar? ':' t
  let t ← afterDigits? 2 2 t
  return match t with
    | '.' :: u => u.dropWhile Char.isDigit
    | t => t

def isWide (c : Char) : Bool := c == ' ' || c == '\t'

/-- What follows the sign between a date and a time. -/
def afterJoint? : Text → Option Text
  | 'T' :: t => some t
  | 't' :: t => some t
  | c :: t => if isWide c then some (t.dropWhile isWide) else none
  | [] => none

/-- A distance from Greenwich, or none. -/
def isZone (t : Text) : Bool :=
  match t.dropWhile isWide with
  | [] => t.isEmpty
  | ['Z'] => true
  | c :: u =>
    (c == '+' || c == '-') &&
      match afterDigits? 1 2 u with
      | none => false
      | some [] => true
      | some v => ((afterChar? ':' v).bind (afterDigits? 2 2)) == some []

/-- A date, or a date and a time. -/
def isMoment (t : Text) : Bool :=
  afterDay? 2 t == some [] ||
    (((afterDay? 1 t).bind afterJoint?).bind afterTime?).any isZone

end BlockMarkup.Yaml
