import BlockMarkup.Yaml.Number

/-!
# Scalars

How a scalar is read. A plain scalar is a null, a switch or a number if it looks like one, and a text
otherwise. A text that would be taken for something else stands between apostrophes, an apostrophe
doubled, or between double quotes, with escapes.
-/

namespace BlockMarkup.Yaml

open Text

/-! ## Plain scalars -/

def nullWords : List Text := ["".toList, "~".toList, "null".toList, "Null".toList, "NULL".toList]

def trueWords : List Text :=
  ["true".toList, "True".toList, "TRUE".toList, "yes".toList, "Yes".toList, "YES".toList,
    "on".toList, "On".toList, "ON".toList]

def falseWords : List Text :=
  ["false".toList, "False".toList, "FALSE".toList, "no".toList, "No".toList, "NO".toList,
    "off".toList, "Off".toList, "OFF".toList]

/-- Whether a plain scalar means something for which a configuration has no use: a number without
end, a point in time, or one of the signs that stand for a default and for a merged mapping. -/
def isForeign (t : Text) : Bool :=
  t = "=" || t = "<<" || isEndless t || isClockFraction t || isMoment t

/-- What a plain scalar means. -/
def plainValue? (t : Text) : Option Value :=
  if nullWords.contains t then some .null
  else if trueWords.contains t then some (.bool true)
  else if falseWords.contains t then some (.bool false)
  else
    match integer? t, fraction? t with
    | some i, _ => some (.int i)
    | none, some v => some v
    | none, none => if isForeign t then none else some (.text t)

/-! ## Quoted scalars -/

/-- The text up to the closing apostrophe, and what comes after it. -/
def readSingle? : Text → Option (Text × Text)
  | '\'' :: '\'' :: t => (readSingle? t).map fun p => ('\'' :: p.1, p.2)
  | '\'' :: t => some ([], t)
  | c :: t => (readSingle? t).map fun p => (c :: p.1, p.2)
  | [] => none

/-- The character with a code given in hexadecimal. -/
def charOfHex? (digits : Text) : Option Char := do
  let ds ← digits.mapM hexDigit?
  let n := ds.foldl (fun n d => 16 * n + d) 0
  if n.isValidChar then some (Char.ofNat n) else none

/-- The escapes of one letter. -/
def shortEscapes : List (Char × Char) :=
  [('"', '"'), ('\\', '\\'), ('/', '/'), ('n', '\n'), ('r', '\r'), ('t', '\t'), ('b', '\x08'),
    ('f', '\x0c'), ('0', '\x00'), ('a', '\x07'), ('e', '\x1b'), ('v', '\x0b'), (' ', ' '),
    ('N', '\u0085'), ('_', '\u00a0'), ('L', '\u2028'), ('P', '\u2029')]

/-- The text up to the closing double quote, and what comes after it. -/
def readDouble? : Text → Option (Text × Text)
  | '"' :: t => some ([], t)
  | '\\' :: 'x' :: a :: b :: t => push (charOfHex? [a, b]) (readDouble? t)
  | '\\' :: 'u' :: a :: b :: c :: d :: t => push (charOfHex? [a, b, c, d]) (readDouble? t)
  | '\\' :: 'U' :: a :: b :: c :: d :: e :: f :: g :: h :: t =>
    push (charOfHex? [a, b, c, d, e, f, g, h]) (readDouble? t)
  | '\\' :: c :: t => push (shortEscapes.lookup c) (readDouble? t)
  | c :: t => push (some c) (readDouble? t)
  | [] => none
where
  push (c : Option Char) (p : Option (Text × Text)) : Option (Text × Text) :=
    match c, p with
    | some c, some (t, rest) => some (c :: t, rest)
    | _, _ => none

end BlockMarkup.Yaml
