import BlockMarkup.Yaml.Flow

/-!
# Reading configuration files

Mappings and lists are told apart from their parts by indentation. Of the whole of YAML this is what
configuration files need: nested mappings and lists, values on one line, and comments.
-/

namespace BlockMarkup.Yaml

open Text

/-- A line that says something: its indentation and what follows it. -/
structure Line where
  indent : Nat
  content : Text

/-- Blank lines and comments say nothing. -/
def Line.ofText? (t : Text) : Option Line :=
  let content := trimEnd (t.dropWhile (· == ' '))
  match content with
  | [] => none
  | '#' :: _ => none
  | _ => some ⟨(t.takeWhile (· == ' ')).length, content⟩

/-- What follows the dash of a list item. -/
def item? : Text → Option Text
  | '-' :: t => if endsKey t then some (skipGap t) else none
  | _ => none

/-- Splits a line at the colon that ends a plain key. -/
def splitKey : Text → Option (Text × Text)
  | [] => none
  | c :: t =>
    if c = ':' ∧ endsKey t then some ([], t) else (splitKey t).map fun p => (c :: p.1, p.2)

/-- A plain key; what a configuration has no use for is shown as it is written. -/
def plainKey (t : Text) : Key := ((plainValue? t).map Value.toKey).getD (.other t)

/-- The key of an entry and what follows its colon. -/
def keyed? (t : Text) : Option (Key × Text) :=
  let behind (p : Text × Text) : Option (Key × Text) :=
    match skipGap p.2 with
    | ':' :: u => if endsKey u then some (.text p.1, skipGap u) else none
    | _ => none
  match t with
  | '"' :: u => (readDouble? u).bind behind
  | '\'' :: u => (readSingle? u).bind behind
  | c :: _ =>
    if isIndicator c then none
    else (splitKey t).map fun p => (plainKey (trimEnd p.1), skipGap p.2)
  | [] => none

namespace Line

def isItem (l : Line) : Bool := (item? l.content).isSome

/-- A bound on the work that lines make. -/
def weight (ls : List Line) : Nat := ls.foldr (fun l n => l.content.length + 1 + n) 0

/-- Whether a line is part of the value of a key at an indentation. -/
def isUnder (n : Nat) (l : Line) : Bool := n < l.indent || (l.indent == n && l.isItem)

theorem weight_cons (l : Line) (ls : List Line) :
    weight (l :: ls) = l.content.length + 1 + weight ls := rfl

theorem weight_takeWhile_le (p : Line → Bool) (ls : List Line) :
    weight (ls.takeWhile p) ≤ weight ls := by
  induction ls with
  | nil => simp
  | cons l ls ih =>
    by_cases h : p l
    · simpa [h, weight_cons] using ih
    · simp [h, weight]

theorem weight_dropWhile_le (p : Line → Bool) (ls : List Line) :
    weight (ls.dropWhile p) ≤ weight ls := by
  induction ls with
  | nil => simp
  | cons l ls ih =>
    by_cases h : p l
    · simpa [h, weight_cons] using Nat.le_add_left_of_le ih
    · simp [h]

end Line

theorem length_lt_of_item? {t u : Text} (h : item? t = some u) : u.length < t.length := by
  unfold item? at h
  split at h
  · split at h
    · obtain rfl := Option.some.inj h
      exact Nat.lt_succ_of_le (List.dropWhile_sublist isGap).length_le
    · simp at h
  · simp at h

mutual

/-- The value that lines make. -/
def block? (ls : List Line) : Option Value :=
  match ls with
  | [] => some .null
  | l :: rest =>
    if l.isItem then (items? l.indent (l :: rest)).map .list
    else if (keyed? l.content).isSome then (entries? l.indent (l :: rest)).map .map
    else if rest.isEmpty then inline? l.content
    else none
termination_by (Line.weight ls, 1)

/-- The items of a list at an indentation. -/
def items? (n : Nat) (ls : List Line) : Option (List Value) :=
  match ls with
  | [] => some []
  | l :: rest =>
    if l.indent ≠ n then none else
    match _h : item? l.content with
    | none => none
    | some t =>
      let inner := rest.takeWhile (n < ·.indent)
      let first := if isRemark (' ' :: t) then []
        else [Line.mk (n + (l.content.length - t.length)) t]
      match block? (first ++ inner), items? n (rest.dropWhile (n < ·.indent)) with
      | some v, some vs => some (v :: vs)
      | _, _ => none
termination_by (Line.weight ls, 0)
decreasing_by
  · have hin := Line.weight_takeWhile_le (n < ·.indent) rest
    have hlt := length_lt_of_item? _h
    simp only [Prod.lex_def, Line.weight_cons]
    split <;> simp [Line.weight_cons] <;> omega
  · have hout := Line.weight_dropWhile_le (n < ·.indent) rest
    simp only [Prod.lex_def, Line.weight_cons]
    omega

/-- The entries of a mapping at an indentation. -/
def entries? (n : Nat) (ls : List Line) : Option (List (Key × Value)) :=
  match ls with
  | [] => some []
  | l :: rest =>
    if l.indent ≠ n then none else
    match keyed? l.content with
    | none => none
    | some (key, t) =>
      let inner := rest.takeWhile (Line.isUnder n)
      let value? := if isRemark (' ' :: t) then block? inner
        else if inner.isEmpty then inline? t else none
      match value?, entries? n (rest.dropWhile (Line.isUnder n)) with
      | some v, some es => some ((key, v) :: es)
      | _, _ => none
termination_by (Line.weight ls, 0)
decreasing_by
  · have hin := Line.weight_takeWhile_le (Line.isUnder n) rest
    simp only [Prod.lex_def, Line.weight_cons]
    omega
  · have hout := Line.weight_dropWhile_le (Line.isUnder n) rest
    simp only [Prod.lex_def, Line.weight_cons]
    omega

end

/-- The value of a configuration file, if the file can be read. -/
def read? (t : Text) : Option Value :=
  let ls := (lines (normalizeNewlines t)).filterMap Line.ofText?
  block? <| match ls with
    | ⟨0, ['-', '-', '-']⟩ :: rest => rest
    | _ => ls

end BlockMarkup.Yaml
