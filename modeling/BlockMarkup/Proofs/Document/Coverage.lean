import BlockMarkup.Proofs.Document.Layout
import BlockMarkup.Proofs.Text.Lines

/-!
# Every line once

A forest loses no line of its text and invents none. Its pieces, lines as they are and blocks as
their source, join to the text again, and each line of the text has exactly one place in the forest:
in the head of a block, in a body, as a closing marker or beside the outermost blocks
(`every_line_once_ofText`).
-/

namespace BlockMarkup

open Text Layout

/-- What a line is to the blocks of its text. -/
inductive LineRole
  | head
  | body
  | closer
  | topLevel
deriving DecidableEq

/-- A line with its number and its place. -/
structure LineEntry where
  role : LineRole
  lineno : Nat
  text : Text
deriving DecidableEq

namespace Forest

/-- The texts that stand side by side in a forest, each block by its source. -/
def pieces : Forest → List Text
  | nil => []
  | line _ t f => t :: f.pieces
  | block o i c f => Node.source ⟨o, i, c⟩ :: f.pieces

/-- Every line that a forest holds, top down; `role` is that of the lines beside its blocks. -/
def entries (role : LineRole) : Forest → List LineEntry
  | nil => []
  | line n t f => ⟨role, n, t⟩ :: f.entries role
  | block o i c f =>
    (o.head.zipIdx o.lineno).map (fun l => ⟨.head, l.2, l.1⟩) ++ i.entries .body ++
      (c.map fun c => ⟨.closer, c.lineno, c.line⟩).toList ++ f.entries role

/-! ## Joining -/

theorem lines_node_source (n : Node) :
    lines n.source =
      (n.opening.head ++ n.inner.source ++ (n.closing.map (·.line)).toList).flatMap lines :=
  lines_unlines (by simp [Opening.head])

theorem flatMap_lines_pieces (f : Forest) : f.pieces.flatMap lines = f.source.flatMap lines := by
  induction f with
  | nil => rfl
  | line n t f ih => simp [pieces, source, ih]
  | block o i c f _ ih => simp [pieces, source, ih, lines_node_source]

theorem unlines_pieces (f : Forest) : unlines f.pieces = unlines f.source :=
  unlines_congr (flatMap_lines_pieces f)

theorem source_ofText (t : Text) : (ofText t).source = lines t := by
  rw [ofText, source_ofTokens, Token.flatMap_lines_ofText]

theorem ofText_ne_nil (t : Text) : ofText t ≠ nil := by
  intro h
  have hsource := source_ofText t
  rw [h] at hsource
  exact lines_ne_nil t hsource.symm

/-! ## Numbering -/

variable {ls : List Text} {s : Surrounding} {a b : Nat} {f : Forest}

theorem zipIdx_drop_opening {o : Opening} (ho : o.LiesAt ls a) :
    (ls.drop a).zipIdx (a + 1) =
      o.head.zipIdx (a + 1) ++ (ls.drop (bodyStart ls a)).zipIdx (bodyStart ls a + 1) := by
  rw [ho.drop_eq, List.zipIdx_append, Nat.add_right_comm, ho.length_head]

/-- The entries of a forest continue those of the lines below it. -/
theorem Lies.map_entries (h : Lies ls s a f b) (role : LineRole) :
    ((f.entries role).map fun e => (e.text, e.lineno)) ++ (ls.drop b).zipIdx (b + 1) =
      (ls.drop a).zipIdx (a + 1) := by
  induction h generalizing role with
  | nil => rfl
  | line ht _ _ _ ih =>
    rw [Token.drop_eq_cons ht, List.zipIdx_cons, ← ih role]
    rfl
  | @closed s a b c o i f cl ho _ hc _ ihi ihf =>
    have hcloser : (ls.drop c).zipIdx (c + 1) =
        (cl.line, cl.lineno) :: (ls.drop (c + 1)).zipIdx (c + 1 + 1) := by
      rw [Token.drop_eq_cons hc.line, List.zipIdx_cons, hc.lineno]
    rw [zipIdx_drop_opening ho, ← ihi .body, hcloser, ← ihf role]
    simp [entries, ho.lineno, Function.comp_def]
  | @unclosed s a o i _ ho _ ihi =>
    rw [zipIdx_drop_opening ho, ← ihi .body]
    simp [entries, ho.lineno, Function.comp_def]

/-- The pieces of the forest of a text join to the text, and its entries are the lines of the text
with their numbers. -/
theorem every_line_once_ofText (t : Text) :
    unlines (ofText t).pieces = t ∧
      ((ofText t).entries .topLevel).map (fun e => (e.text, e.lineno)) = (lines t).zipIdx 1 := by
  constructor
  · rw [unlines_pieces, source_ofText, unlines_lines]
  · have h := (lies_ofText t).map_entries .topLevel
    rwa [List.drop_length, List.zipIdx_nil, List.append_nil] at h

end Forest

end BlockMarkup
