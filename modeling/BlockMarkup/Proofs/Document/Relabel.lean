import BlockMarkup.Document.Forest

/-!
# Tokens written otherwise

How tokens are read to a forest depends on their kinds alone. So when lines are numbered or written in
another way, the forest is the same with its lines numbered and written in that way (`ofTokens_map`).
-/

namespace BlockMarkup

open Text

/-- A change of openings, and of the numbers and texts of all other lines. -/
structure Relabeling where
  opening : Opening → Opening
  lineno : Nat → Nat
  line : Text → Text

namespace Relabeling

variable (r : Relabeling)

def closing (c : Closing) : Closing := ⟨r.lineno c.lineno, r.line c.line⟩

def token : Token → Token
  | .opening o => .opening (r.opening o)
  | .closing c => .closing (r.closing c)
  | .line n t => .line (r.lineno n) (r.line t)

def forest : Forest → Forest
  | .nil => .nil
  | .line n t f => .line (r.lineno n) (r.line t) (forest f)
  | .block o i c f => .block (r.opening o) (forest i) (c.map r.closing) (forest f)

theorem forest_append (f g : Forest) : r.forest (f.append g) = (r.forest f).append (r.forest g) := by
  induction f with
  | nil => rfl
  | line n t f ih => simp only [Forest.append, forest, ih]
  | block o i c f _ ih => simp only [Forest.append, forest, ih]

open Forest

def pending (p : Pending) : Pending :=
  ⟨r.forest p.content, p.waiting.map fun w => (r.closing w.1, r.forest w.2)⟩

theorem read_pending (t : Token) (p : Pending) :
    (r.pending p).read (r.token t) = r.pending (p.read t) := by
  obtain ⟨content, w⟩ := p
  cases t with
  | line n l => cases w <;> rfl
  | closing c => cases w <;> rfl
  | opening o => cases w <;> rfl

theorem foldr_read (ts : List Token) :
    (ts.map r.token).foldr Pending.read ⟨nil, []⟩ = r.pending (ts.foldr Pending.read ⟨nil, []⟩) := by
  induction ts with
  | nil => rfl
  | cons t ts ih => rw [List.map_cons, List.foldr_cons, ih, read_pending, List.foldr_cons]

theorem finish (content : Forest) (w : List (Closing × Forest)) :
    Pending.finish (r.forest content) (w.map fun w => (r.closing w.1, r.forest w.2)) =
      r.forest (Pending.finish content w) := by
  induction w generalizing content with
  | nil => rfl
  | cons e w ih =>
    rw [List.map_cons, Pending.finish, ih, Pending.finish, forest_append]
    rfl

theorem ofTokens_map (ts : List Token) : ofTokens (ts.map r.token) = r.forest (ofTokens ts) := by
  unfold ofTokens
  rw [foldr_read]
  exact r.finish _ _

end Relabeling

end BlockMarkup
