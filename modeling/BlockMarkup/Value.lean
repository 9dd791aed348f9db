import BlockMarkup.Text.Quoted

/-!
# Values

What a file of settings says before anyone asks whether it makes sense, and what a report is made of:
scalars, lists, and mappings from keys to values. Of what is neither, such as a date, and of a key that is
no text, it is only known how it is shown. Changing the texts of a value changes nothing else about it.
-/

namespace BlockMarkup

open Text

/-- A key of a mapping: a text, or anything else as it is shown. -/
inductive Key
  | text (t : Text)
  | other (shown : Text)
deriving DecidableEq

/-- A value; `decimal m p` is the number `m / 10 ^ p`, written with a point or an exponent. Anything that is
not of one of the kinds below is `other`, with the name of its kind. -/
inductive Value
  | null
  | bool (b : Bool)
  | int (i : Int)
  | decimal (mantissa : Int) (places : Nat)
  | text (t : Text)
  | list (items : List Value)
  | map (entries : List (Key × Value))
  | other (kind shown : Text)

instance : Inhabited Value := ⟨.null⟩

namespace Value

/-- The name of the kind of value. -/
def kind : Value → Text
  | .null => "NoneType"
  | .bool _ => "bool"
  | .int _ => "int"
  | .decimal _ _ => "float"
  | .text _ => "str"
  | .list _ => "list"
  | .map _ => "dict"
  | .other kind _ => kind

/-- The value of a key; of a key given twice the last value counts. -/
def find? (key : Text) (entries : List (Key × Value)) : Option Value :=
  entries.reverse.lookup (.text key)

/-- The whole number that an integer or a decimal stands for. -/
def whole? : Value → Option Int
  | .int i => some i
  | .decimal m p => if m % Nat.pow 10 p = 0 then some (m / Nat.pow 10 p) else none
  | _ => none

/-- A decimal with at least one digit after the point. -/
def decimalText (mantissa : Int) (places : Nat) : Text :=
  let n := mantissa.natAbs
  let part := if places = 0 then ['0'] else (ofNat (n % Nat.pow 10 places)).leftpad places '0'
  (if mantissa < 0 then ['-'] else []) ++ ofNat (n / Nat.pow 10 places) ++ '.' :: part

/-! ## Values in messages -/

/-- A key as it stands in a message. -/
def quoteKey : Key → Text
  | .text t => quoted t
  | .other shown => shown

mutual

/-- A value as it stands in a message. -/
def quote : Value → Text
  | .null => "None"
  | .bool true => "True"
  | .bool false => "False"
  | .int i => ofInt i
  | .decimal m p => decimalText m p
  | .text t => quoted t
  | .list items => '[' :: join ", " (quoteItems items) ++ [']']
  | .map entries => '\x7b' :: join ", " (quoteEntries entries) ++ ['\x7d']
  | .other _ shown => shown

def quoteItems : List Value → List Text
  | [] => []
  | v :: vs => quote v :: quoteItems vs

def quoteEntries : List (Key × Value) → List Text
  | [] => []
  | (key, v) :: es => (quoteKey key ++ ": " ++ quote v) :: quoteEntries es

end

/-- A value as a key. -/
def toKey : Value → Key
  | .text t => .text t
  | v => .other v.quote

/-- As much of the start of a text as some bytes hold. -/
def takeBytes : Nat → Text → Text
  | _, [] => []
  | n, c :: t => if c.utf8Size ≤ n then c :: takeBytes (n - c.utf8Size) t else []

/-- A value in a message, its middle left out where it takes more than fifty bytes. -/
def mention (v : Value) : Text :=
  let t := v.quote
  if utf8Size t ≤ 50 then t
  else takeBytes 25 t ++ "..." ++ (takeBytes 24 t.reverse).reverse

/-! ## Changing the texts -/

mutual

/-- A value with each of its texts changed, at any depth; keys stay. -/
def mapText (f : Text → Text) : Value → Value
  | .text t => .text (f t)
  | .list items => .list (mapTextItems f items)
  | .map entries => .map (mapTextEntries f entries)
  | .null => .null
  | .bool b => .bool b
  | .int i => .int i
  | .decimal m p => .decimal m p
  | .other kind shown => .other kind shown

def mapTextItems (f : Text → Text) : List Value → List Value
  | [] => []
  | v :: vs => mapText f v :: mapTextItems f vs

def mapTextEntries (f : Text → Text) : List (Key × Value) → List (Key × Value)
  | [] => []
  | (key, v) :: es => (key, mapText f v) :: mapTextEntries f es

end

theorem mapTextItems_eq_map (f : Text → Text) (vs : List Value) :
    mapTextItems f vs = vs.map (mapText f) := by
  induction vs with
  | nil => rfl
  | cons v vs ih => simp [mapTextItems, ih]

theorem mapTextEntries_eq_map (f : Text → Text) (es : List (Key × Value)) :
    mapTextEntries f es = es.map fun e => (e.1, mapText f e.2) := by
  induction es with
  | nil => rfl
  | cons e es ih => simp [mapTextEntries, ih]

theorem keys_mapTextEntries (f : Text → Text) (es : List (Key × Value)) :
    (mapTextEntries f es).map Prod.fst = es.map Prod.fst := by
  simp [mapTextEntries_eq_map, Function.comp_def]

end Value

end BlockMarkup
