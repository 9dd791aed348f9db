import BlockMarkup.Yaml.Scalar

/-!
# Values on one line

A value on one line is a scalar, or a list or mapping between brackets. A comment may follow it.
-/

namespace BlockMarkup.Yaml

open Text

def isGap (c : Char) : Bool := c == ' ' || c == '\t' || c == '\r'

def skipGap (t : Text) : Text := t.dropWhile isGap

/-- Whether a colon before this text ends a key. -/
def endsKey : Text → Bool
  | [] => true
  | c :: _ => isGap c

/-! ## Between brackets -/

def isBracket (c : Char) : Bool := c == '[' || c == ']' || c == '{' || c == '}' || c == ','

/-- A plain scalar between brackets, and what comes after it. -/
def flowPlain : Text → Text × Text
  | [] => ([], [])
  | c :: t =>
    if isBracket c then ([], c :: t)
    else if c = ':' && (endsKey t || (t.head?.map isBracket).getD false) then ([], c :: t)
    else let (p, rest) := flowPlain t; (c :: p, rest)

/-- A scalar between brackets, and what comes after it. -/
def flowScalar? : Text → Option (Value × Text)
  | '"' :: t => (readDouble? t).map fun (s, rest) => (.text s, rest)
  | '\'' :: t => (readSingle? t).map fun (s, rest) => (.text s, rest)
  | t =>
    let (p, rest) := flowPlain t
    if (trim p).isEmpty then none else (plainValue? (trim p)).map (·, rest)

mutual

/-- The value at the start of a text, and what comes after it; the number bounds its depth. -/
def flow? : Nat → Text → Option (Value × Text)
  | 0, _ => none
  | n + 1, '[' :: t => (flowItems? n (skipGap t)).map fun (vs, rest) => (.list vs, rest)
  | n + 1, '{' :: t => (flowEntries? n (skipGap t)).map fun (es, rest) => (.map es, rest)
  | _ + 1, t => flowScalar? t

def flowItems? : Nat → Text → Option (List Value × Text)
  | 0, _ => none
  | _ + 1, ']' :: t => some ([], t)
  | n + 1, t => do
    let (v, rest) ← flow? n t
    match skipGap rest with
    | ',' :: u =>
      let (vs, rest) ← flowItems? n (skipGap u)
      some (v :: vs, rest)
    | ']' :: u => some ([v], u)
    | _ => none

def flowEntries? : Nat → Text → Option (List (Key × Value) × Text)
  | 0, _ => none
  | _ + 1, '}' :: t => some ([], t)
  | n + 1, t => do
    let (k, rest) ← flowScalar? t
    match skipGap rest with
    | ':' :: u =>
      let (v, rest) ← flow? n (skipGap u)
      match skipGap rest with
      | ',' :: u =>
        let (es, rest) ← flowEntries? n (skipGap u)
        some ((k.toKey, v) :: es, rest)
      | '}' :: u => some ([(k.toKey, v)], u)
      | _ => none
    | _ => none

end

/-! ## A whole line -/

/-- Whether nothing but a comment follows. -/
def isRemark (t : Text) : Bool :=
  match skipGap t with
  | [] => true
  | '#' :: _ => skipGap t != t
  | _ => false

/-- A plain scalar without the comment behind it. -/
def dropRemark : Text → Text
  | [] => []
  | ' ' :: '#' :: _ => []
  | c :: t => c :: dropRemark t

/-- Characters that start something else than a plain scalar. -/
def isIndicator (c : Char) : Bool := ",[]\x7b\x7d&*!|>'\"%@\x60#".toList.contains c

/-- A text that a colon cuts into a key and a value, or a dash or question mark makes an entry. -/
def isEntry : Text → Bool
  | [] => false
  | ':' :: t => endsKey t || isEntry t
  | _ :: t => isEntry t

def startsEntry : Text → Bool
  | '-' :: t => endsKey t
  | '?' :: t => endsKey t
  | _ => false

def plain? (t : Text) : Option Value :=
  let p := trimEnd (dropRemark t)
  if (p.head?.map isIndicator).getD false || startsEntry p || isEntry p then none
  else plainValue? p

/-- The value that takes up the rest of a line. -/
def inline? (t : Text) : Option Value :=
  let whole (p : Value × Text) : Option Value := if isRemark p.2 then some p.1 else none
  match t with
  | '"' :: _ => (flowScalar? t).bind whole
  | '\'' :: _ => (flowScalar? t).bind whole
  | '[' :: _ => (flow? (2 * t.length + 2) t).bind whole
  | '{' :: _ => (flow? (2 * t.length + 2) t).bind whole
  | t => plain? t

end BlockMarkup.Yaml
