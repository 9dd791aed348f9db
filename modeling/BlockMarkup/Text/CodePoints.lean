/-!
# Sets of code points

A property of characters is kept as the ascending list of its *turns*: the code points at which
membership changes, the first one entering.
-/

namespace BlockMarkup.Text

/-- Membership after passing every turn up to the code point, starting from `inside`. -/
def insideTurns (inside : Bool) : List Nat → Nat → Bool
  | [], _ => inside
  | turn :: turns, n => if n < turn then inside else insideTurns (!inside) turns n

/-- Whether a character belongs to the set with these turns. -/
def memTurns (turns : List Nat) (c : Char) : Bool := insideTurns false turns c.toNat

end BlockMarkup.Text
