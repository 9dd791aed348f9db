import BlockMarkup.Value

/-!
# JSON

Values as JSON, on one line or with an entry or item a line. Only printable ASCII is written; other
characters are escaped by their UTF-16 units.
-/

namespace BlockMarkup.Json

open Text

/-! ## Texts -/

/-- The UTF-16 units of a character. -/
def units (c : Char) : List Nat :=
  let n := c.toNat
  if n < 0x10000 then [n]
  else [0xD800 + (n - 0x10000) / 0x400, 0xDC00 + (n - 0x10000) % 0x400]

def escapeUnit (n : Nat) : Text := '\\' :: 'u' :: hex 4 n

def escapeChar (c : Char) : Text :=
  match c with
  | '"' => "\\\""
  | '\\' => "\\\\"
  | '\n' => "\\n"
  | '\r' => "\\r"
  | '\t' => "\\t"
  | '\x08' => "\\b"
  | '\x0c' => "\\f"
  | c => if ' ' ≤ c ∧ c ≤ '~' then [c] else (units c).flatMap escapeUnit

def ofText (t : Text) : Text := '"' :: t.flatMap escapeChar ++ ['"']

/-! ## Values -/

/-- What stands between brackets and items, at each depth, and between items. -/
structure Layout where
  edge : Nat → Text
  gap : Nat → Text

/-- All on one line. -/
def Layout.flat : Layout := ⟨fun _ => [], fun _ => [' ']⟩

/-- Items on lines of their own, indented by two spaces at each depth. -/
def Layout.tall : Layout :=
  let newLine (n : Nat) : Text := '\n' :: List.replicate (2 * n) ' '
  ⟨newLine, newLine⟩

/-- Items between brackets. -/
def Layout.between (l : Layout) (n : Nat) (left right : Char) (items : List Text) : Text :=
  if items.isEmpty then [left, right]
  else left :: l.edge (n + 1) ++ join (',' :: l.gap (n + 1)) items ++ l.edge n ++ [right]

mutual

/-- A value at a depth. -/
def write (l : Layout) (n : Nat) : Value → Text
  | .null => "null"
  | .bool true => "true"
  | .bool false => "false"
  | .int i => ofInt i
  | .decimal m p => Value.decimalText m p
  | .text t => ofText t
  | .list vs => l.between n '[' ']' (writeItems l (n + 1) vs)
  | .map es => l.between n '{' '}' (writeEntries l (n + 1) es)
  | .other _ shown => ofText shown

def writeItems (l : Layout) (n : Nat) : List Value → List Text
  | [] => []
  | v :: vs => write l n v :: writeItems l n vs

def writeEntries (l : Layout) (n : Nat) : List (Key × Value) → List Text
  | [] => []
  | (.text key, v) :: es | (.other key, v) :: es => (ofText key ++ ':' :: ' ' :: write l n v) :: writeEntries l n es

end

def onOneLine (v : Value) : Text := write .flat 0 v

def onManyLines (v : Value) : Text := write .tall 0 v

end BlockMarkup.Json
