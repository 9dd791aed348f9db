import BlockMarkup.Value
import BlockMarkup.Text.Word

/-!
# References to the environment

A text may name variables of the environment, as `${NAME}` or, with a text to fall back on, as
`${NAME:-fallback}`. Filling in is one pass from left to right: what a variable or a fallback puts
in is not looked at again, and everything that is no reference stays.
-/

namespace BlockMarkup

open Text

/-- What each variable holds, if it is set. -/
abbrev Environment := Text → Option Text

namespace Config

/-- A variable and what stands for it while it is not set. -/
structure Reference where
  name : Text
  fallback : Text
deriving DecidableEq

namespace Reference

/-- The fallback in what follows the name, and what comes after the closing brace. -/
def fallback? : Text → Option (Text × Text)
  | '}' :: rest => some ([], rest)
  | ':' :: '-' :: t =>
    match t.dropWhile (· != '}') with
    | _ :: rest => some (t.takeWhile (· != '}'), rest)
    | [] => none
  | _ => none

/-- The reference in what follows the opening brace, and what comes after it. -/
def ofText? (t : Text) : Option (Reference × Text) :=
  if (t.takeWhile isWordChar).isEmpty then none
  else (fallback? (t.dropWhile isWordChar)).map fun (f, rest) => (⟨t.takeWhile isWordChar, f⟩, rest)

theorem length_lt_of_fallback? {t f rest : Text} (h : fallback? t = some (f, rest)) :
    rest.length < t.length := by
  unfold fallback? at h
  split at h
  · simp_all
  · rename_i u
    have hle := (List.dropWhile_sublist (· != '}') (l := u)).length_le
    split at h
    · rename_i hv
      simp_all
      omega
    · simp at h
  · simp at h

theorem length_lt_of_ofText? {t rest : Text} {r : Reference} (h : ofText? t = some (r, rest)) :
    rest.length < t.length := by
  unfold ofText? at h
  split at h
  · simp at h
  · obtain ⟨⟨f, u⟩, hf, he⟩ := Option.map_eq_some_iff.1 h
    obtain ⟨-, rfl⟩ := Prod.mk.inj he
    exact Nat.lt_of_lt_of_le (length_lt_of_fallback? hf)
      (List.dropWhile_sublist isWordChar).length_le

/-- A variable that is set to the empty text is set. -/
def value (env : Environment) (r : Reference) : Text := (env r.name).getD r.fallback

end Reference

/-- A text with references is a sequence of characters and references. -/
inductive Piece
  | char (c : Char)
  | reference (r : Reference)
deriving DecidableEq

def Piece.value (env : Environment) : Piece → Text
  | .char c => [c]
  | .reference r => r.value env

/-- The characters and references of a text. -/
def pieces : Text → List Piece
  | [] => []
  | '$' :: '{' :: t =>
    match h : Reference.ofText? t with
    | some (r, rest) =>
      have := Reference.length_lt_of_ofText? h
      .reference r :: pieces rest
    | none => .char '$' :: pieces ('{' :: t)
  | c :: t => .char c :: pieces t
termination_by t => t.length

def references (t : Text) : List Reference :=
  (pieces t).filterMap fun
    | .char _ => none
    | .reference r => some r

/-- A text with its references replaced. -/
def fill (env : Environment) (t : Text) : Text := (pieces t).flatMap (Piece.value env)

/-- A value with the references in its texts replaced, at any depth. -/
def fillValue (env : Environment) (v : Value) : Value := v.mapText (fill env)

end Config

end BlockMarkup
