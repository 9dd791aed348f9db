import BlockMarkup.Text.Blank
import BlockMarkup.Text.Word

/-!
# Literals

The parameters of a handler in a tag: a name, with arguments between parentheses if it has any, or
arguments alone. Arguments are numbers, quoted texts and a few constants, between commas, and may be
gathered in parentheses and braces.
-/

namespace BlockMarkup.Console

open Text

/-! ## Tokens -/

inductive Token
  | number
  | text
  | constant
  | sign
  | mark (c : Char)
deriving DecidableEq

/-- What follows a quoted text, behind its opening mark. -/
def afterQuoted? (mark : Char) : Text → Option Text
  | [] => none
  | '\n' :: _ => none
  | '\\' :: _ :: t => afterQuoted? mark t
  | c :: t => if c = mark then some t else afterQuoted? mark t

def isNumeral (c : Char) : Bool := c.isDigit || c == '.'

/-- A whole number does not start with a zero, and a fraction has one point. -/
def isNumber (t : Text) : Bool :=
  t.any Char.isDigit && t.count '.' ≤ 1 &&
    (t.contains '.' || t.head? != some '0' || t.all (· == '0'))

def constants : List Text := ["True".toList, "False".toList, "None".toList]

/-- The token at the start of a text, and what follows it. -/
def cutToken? : Text → Option (Token × Text)
  | [] => none
  | c :: t =>
    if c = '"' || c = '\'' then (afterQuoted? c t).map (.text, ·)
    else if isNumeral c then
      let n := c :: t.takeWhile isNumeral
      if isNumber n then some (.number, t.dropWhile isNumeral) else none
    else if c.isAlpha then
      if constants.contains (c :: t.takeWhile isWordChar) then some (.constant, t.dropWhile isWordChar)
      else none
    else if c = '+' || c = '-' then some (.sign, t)
    else if "(){},:".toList.contains c then some (.mark c, t)
    else none

/-- The tokens of a text; the number bounds how many there are. -/
def tokens? : Nat → Text → Option (List Token)
  | 0, _ => none
  | n + 1, t =>
    match t.dropWhile (· == ' ') with
    | [] => some []
    | c :: u => do
      let (token, rest) ← cutToken? (c :: u)
      let more ← tokens? n rest
      return token :: more

/-! ## Arguments -/

mutual

/-- What follows an argument; the number bounds its depth. -/
def afterArgument? : Nat → List Token → Option (List Token)
  | 0, _ => none
  | _ + 1, .number :: ts => some ts
  | _ + 1, .constant :: ts => some ts
  | _ + 1, .sign :: .number :: ts => some ts
  | _ + 1, .text :: ts => some (ts.dropWhile (· = .text))
  | n + 1, .mark '(' :: ts => afterItems? n ')' false ts
  | n + 1, .mark '{' :: ts => afterItems? n '}' true ts
  | _ + 1, _ => none

/-- What follows arguments between commas and the mark that closes them; between braces they may be
entries. -/
def afterItems? : Nat → Char → Bool → List Token → Option (List Token)
  | 0, _, _, _ => none
  | n + 1, close, entries, ts =>
    if ts.head? = some (.mark close) then some ts.tail
    else do
      let rest ← afterArgument? n ts
      let rest ← match rest with
        | .mark ':' :: rest => if entries then afterArgument? n rest else none
        | rest => some rest
      match rest with
      | .mark ',' :: rest => afterItems? n close entries rest
      | .mark c :: rest => if c = close then some rest else none
      | _ => none

end

/-- Arguments between commas. -/
def isArguments (t : Text) : Bool :=
  let bound := 2 * t.length + 4
  match tokens? bound (t ++ [')']) with
  | none => false
  | some [.mark ')'] => false
  | some ts => afterItems? bound ')' false ts == some []

/-- A name with its arguments, or arguments alone. -/
def isHandler (t : Text) : Bool :=
  match t.dropWhile fun c => isWordChar c || c == '.' with
  | [] => true
  | '(' :: rest =>
    if rest.getLast? = some ')' && !rest.contains '\n' then isArguments ('(' :: rest)
    else isArguments t
  | _ => isArguments t

end BlockMarkup.Console
