import BlockMarkup.Value

/-!
# Message templates

A template is a message with marks in it, a percent sign and a letter each, which are replaced by
arguments, one after the other. There has to be one argument for each mark. Without arguments a
template is the message itself, and its percent signs are no marks.
-/

namespace BlockMarkup.Log

open Text

/-! ## Misfits -/

/-- Why a template and its arguments do not fit. -/
inductive Misfit
  | tooFew
  | tooMany
  | notNumber (kind : Text)
  | incomplete
  | unknownMark (letter : Char) (place : Nat)
deriving DecidableEq

/-- A character in a message, if it can be printed there. -/
def plainly (c : Char) : Char := if '\x1f' ≤ c && c < '\x7f' then c else '?'

def Misfit.message : Misfit → Text
  | .tooFew => "not enough arguments for format string"
  | .tooMany => "not all arguments converted during string formatting"
  | .notNumber kind => "%d format: a real number is required, not " ++ kind
  | .incomplete => "incomplete format"
  | .unknownMark letter place =>
    "unsupported format character '" ++ plainly letter :: "' (0x" ++
      Nat.toDigits 16 letter.toNat ++ ") at index " ++ ofNat place

/-! ## Filling -/

/-- What stands for an argument at a mark for texts. -/
def textOf : Value → Text
  | .text t => t
  | v => v.quote

/-- The whole number at a mark for numbers; what is behind the point is left out. -/
def numberOf? : Value → Option Int
  | .bool b => some (if b then 1 else 0)
  | .int i => some i
  | .decimal m p => some (m.tdiv (Nat.pow 10 p))
  | _ => none

/-- What stands for an argument at a mark. -/
def replacement (letter : Char) (place : Nat) (v : Value) : Except Misfit Text :=
  if letter = 's' then .ok (textOf v)
  else if letter = 'd' then (numberOf? v).elim (.error (.notNumber v.kind)) fun i => .ok (ofInt i)
  else .error (.unknownMark letter place)

/-- A template from some place on, filled with the arguments that are left. -/
def fill (place : Nat) : Text → List Value → Except Misfit Text
  | ['%'], _ => .error .incomplete
  | '%' :: '%' :: t, vs => do
    let rest ← fill (place + 2) t vs
    return '%' :: rest
  | '%' :: _ :: _, [] => .error .tooFew
  | '%' :: c :: t, v :: vs => do
    let first ← replacement c (place + 1) v
    let rest ← fill (place + 2) t vs
    return first ++ rest
  | c :: t, vs => do
    let rest ← fill (place + 1) t vs
    return c :: rest
  | [], [] => .ok []
  | [], _ :: _ => .error .tooMany

/-- The message of a template. -/
def message (template : Text) (args : List Value) : Except Misfit Text :=
  if args.isEmpty then .ok template else fill 0 template args

end BlockMarkup.Log
