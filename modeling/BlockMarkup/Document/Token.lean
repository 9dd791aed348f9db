import BlockMarkup.OptionSection

/-!
# Tokens

A text is read as a list of tokens: openers, each with the option section that follows it, closers,
and the lines between. No line is lost (`flatMap_lines_ofText`).
-/

namespace BlockMarkup

open Text

/-- An opener where it stands, with its option section. -/
structure Opening where
  keyword : Text
  title : Text
  lineno : Nat
  /-- The opener as written. -/
  line : Text
  optionLines : List Text
  /-- The marker that ends the option section. -/
  separator : Option Text
deriving DecidableEq

namespace Opening

/-- All lines before the body. -/
def head (o : Opening) : List Text := o.line :: (o.optionLines ++ o.separator.toList)

def component? (o : Opening) : Option Component := Component.ofKeyword? o.keyword

/-- The number of the first option line, zero without a section. -/
def optionsLineno (o : Opening) : Nat := if o.separator.isSome then o.lineno + 1 else 0

end Opening

/-- A closing marker where it stands. -/
structure Closing where
  lineno : Nat
  line : Text
deriving DecidableEq

inductive Token
  | opening (o : Opening)
  | closing (c : Closing)
  | line (lineno : Nat) (t : Text)
deriving DecidableEq

namespace Token

def lines : Token → List Text
  | .opening o => o.head
  | .closing c => [c.line]
  | .line _ t => [t]

/-- How many lines below an opener are its option section. An unknown component has none. -/
def sectionLength (keyword : Text) (limit : Nat) (rest : List Text) : Nat :=
  match Component.ofKeyword? keyword with
  | some c => OptionSection.length c limit rest
  | none => 0

/-- An opening with the lines of its option section, if there are any. -/
def openingOf (m : Opener) (lineno : Nat) (line : Text) (below : List Text) : Opening :=
  ⟨m.keyword, m.header, lineno, line, below.dropLast, below.getLast?⟩

/-- Reads lines from a number on, after passing over those of a section already taken. The last
closing marker is `limit` lines below the first one here. -/
def scan (limit lineno skip : Nat) : List Text → List Token
  | [] => []
  | l :: rest =>
    match skip with
    | skip + 1 => scan (limit - 1) (lineno + 1) skip rest
    | 0 =>
      match Marker.opener? l with
      | some m =>
        let size := sectionLength m.keyword (limit - 1) rest
        .opening (openingOf m lineno l (rest.take size)) :: scan (limit - 1) (lineno + 1) size rest
      | none =>
        (if Marker.isCloser l then .closing ⟨lineno, l⟩ else .line lineno l) ::
          scan (limit - 1) (lineno + 1) 0 rest

def ofLines (ls : List Text) : List Token := scan ((Marker.lastCloser? ls).getD 0) 1 0 ls

def ofText (t : Text) : List Token := ofLines (Text.lines t)

/-! ## No line is lost -/

theorem head_openingOf (m : Opener) (lineno : Nat) (l : Text) (below : List Text) :
    (openingOf m lineno l below).head = l :: below := by
  unfold openingOf Opening.head
  cases h : below.getLast? with
  | none => simp [List.getLast?_eq_none_iff.mp h]
  | some x =>
    obtain ⟨ys, rfl⟩ := List.getLast?_eq_some_iff.mp h
    simp

theorem flatMap_lines_scan (ls : List Text) : ∀ limit lineno skip,
    (scan limit lineno skip ls).flatMap lines = ls.drop skip := by
  induction ls with
  | nil => intros; simp [scan]
  | cons l rest ih =>
    intro limit lineno skip
    unfold scan
    cases skip with
    | succ n => simp [ih]
    | zero =>
      simp only
      split
      · simp [lines, ih, head_openingOf]
      · split <;> simp [lines, ih]

theorem flatMap_lines_ofText (t : Text) : (ofText t).flatMap lines = Text.lines t := by
  simp [ofText, ofLines, flatMap_lines_scan]

end Token

end BlockMarkup
