import BlockMarkup.Document.Token
import BlockMarkup.Diagnostic

/-!
# The block structure of a text

A text is a forest: lines and blocks one after the other, where a block holds a forest of its own.
Each closing marker closes the nearest opener above it that is still open. Tokens are read from the
right, so that a marker is met before its opener: what lies between the two becomes the content of
the block. Markers that find no opener stay lines of the text, and a block without a marker reaches
to the end of its surroundings. The forest still holds every line as written (`source_ofTokens`).
-/

namespace BlockMarkup

open Text

/-- Lines and blocks, in order. A block without a closing marker is unterminated. -/
inductive Forest
  | nil
  | line (lineno : Nat) (text : Text) (rest : Forest)
  | block (opening : Opening) (inner : Forest) (closing : Option Closing) (rest : Forest)
deriving DecidableEq

/-- One block by itself. -/
structure Node where
  opening : Opening
  inner : Forest
  closing : Option Closing
deriving DecidableEq

namespace Forest

def append : Forest → Forest → Forest
  | nil, g => g
  | line n t f, g => line n t (f.append g)
  | block o i c f, g => block o i c (f.append g)

/-- The lines of a forest as written. -/
def source : Forest → List Text
  | nil => []
  | line _ t f => t :: f.source
  | block o i c f => o.head ++ i.source ++ (c.map (·.line)).toList ++ f.source

theorem source_append (f g : Forest) : (f.append g).source = f.source ++ g.source := by
  induction f with
  | nil => rfl
  | line n t f ih => simp [append, source, ih]
  | block o i c f _ ih => simp [append, source, ih]

/-! ## Reading tokens -/

/-- What the tokens on the right amount to: the content up to the next closing marker, and for each
marker that waits for its opener the content behind it. -/
structure Pending where
  content : Forest
  waiting : List (Closing × Forest)

namespace Pending

/-- Puts a token in front. -/
def read (t : Token) (p : Pending) : Pending :=
  match t, p.waiting with
  | .line n l, _ => { p with content := line n l p.content }
  | .closing c, w => ⟨nil, (c, p.content) :: w⟩
  | .opening o, (c, behind) :: w => ⟨block o p.content (some c) behind, w⟩
  | .opening o, [] => ⟨block o p.content none nil, []⟩

/-- The forest when no opener is left: markers that still wait are lines of the text. -/
def finish (content : Forest) : List (Closing × Forest) → Forest
  | [] => content
  | (c, behind) :: w => content.append (line c.lineno c.line (finish behind w))

end Pending

def ofTokens (ts : List Token) : Forest :=
  let p := ts.foldr Pending.read ⟨nil, []⟩
  Pending.finish p.content p.waiting

def ofText (t : Text) : Forest := ofTokens (Token.ofText t)

/-- The lines on the right, with those of the markers that wait. -/
def Pending.source (p : Pending) : List Text :=
  p.content.source ++ p.waiting.flatMap fun w => w.1.line :: w.2.source

theorem source_finish (content : Forest) (w : List (Closing × Forest)) :
    (Pending.finish content w).source = Pending.source ⟨content, w⟩ := by
  induction w generalizing content with
  | nil => simp [Pending.finish, Pending.source]
  | cons e w ih => simp [Pending.finish, Pending.source, source_append, source, ih]

theorem source_read (t : Token) (p : Pending) : (p.read t).source = t.lines ++ p.source := by
  obtain ⟨f, w⟩ := p
  cases t with
  | line n l => simp [Pending.read, Pending.source, source, Token.lines]
  | closing c => simp [Pending.read, Pending.source, source, Token.lines]
  | opening o =>
    cases w with
    | nil => simp [Pending.read, Pending.source, source, Token.lines]
    | cons e w => simp [Pending.read, Pending.source, source, Token.lines]

theorem source_ofTokens (ts : List Token) : (ofTokens ts).source = ts.flatMap Token.lines := by
  have h : (ts.foldr Pending.read ⟨nil, []⟩).source = ts.flatMap Token.lines := by
    induction ts with
    | nil => rfl
    | cons t ts ih => simp [source_read, ih]
  simpa [ofTokens, source_finish] using h

/-! ## Blocks -/

/-- The blocks that lie side by side, not those inside them. -/
def nodes : Forest → List Node
  | nil => []
  | line _ _ f => f.nodes
  | block o i c f => ⟨o, i, c⟩ :: f.nodes

/-- How many blocks there are at any depth. -/
def size : Forest → Nat
  | nil => 0
  | line _ _ f => f.size
  | block _ i _ f => i.size + 1 + f.size

/-- Every block: one in front of those inside it, those in front of the ones that follow. -/
def preorder : Forest → List Node
  | nil => []
  | line _ _ f => f.preorder
  | block o i c f => ⟨o, i, c⟩ :: (i.preorder ++ f.preorder)

/-- Markers left as lines beside the outermost blocks. -/
def strays : Forest → List Closing
  | nil => []
  | line n t f => if Marker.isCloser t then ⟨n, t⟩ :: f.strays else f.strays
  | block _ _ _ f => f.strays

/-- Blocks without a closing marker, outer ones first. -/
def unclosed : Forest → List Opening
  | nil => []
  | line _ _ f => f.unclosed
  | block o i none f => o :: (i.unclosed ++ f.unclosed)
  | block _ i (some _) f => i.unclosed ++ f.unclosed

/-- The reports on the structure: stray markers, then blocks left open. -/
def reports (f : Forest) : List Diagnostic :=
  f.strays.map (fun c => ⟨trim c.line, .strayCloser, some c.lineno, none, none⟩) ++
    f.unclosed.map fun o => ⟨trim o.line, .unterminatedBlock, some o.lineno, some o.keyword, none⟩

end Forest

namespace Node

def source (n : Node) : Text :=
  unlines (n.opening.head ++ n.inner.source ++ (n.closing.map (·.line)).toList)

def isClosed (n : Node) : Bool := n.closing.isSome

end Node

/-! ## Walking a forest -/

namespace Forest

/-- How many blocks there are in all, those inside the given ones included. -/
def total (ns : List Node) : Nat := ns.foldr (fun n k => n.inner.size + 1 + k) 0

theorem total_cons (n : Node) (ns : List Node) : total (n :: ns) = n.inner.size + 1 + total ns := rfl

theorem total_append (ms ns : List Node) : total (ms ++ ns) = total ms + total ns := by
  induction ms with
  | nil => simp [total]
  | cons m ms ih => rw [List.cons_append, total_cons, total_cons, ih]; omega

theorem total_nodes (f : Forest) : total f.nodes = f.size := by
  induction f with
  | nil => rfl
  | line _ _ f ih => exact ih
  | block o i c f _ ih => rw [nodes, total_cons, ih, size]

/-- Visits the blocks to do, each in front of the blocks it holds. What is left to do is kept in a
list, so that the depth of the nesting does not matter. -/
def visit : List Node → List Node
  | [] => []
  | n :: todo => n :: visit (n.inner.nodes ++ todo)
termination_by todo => total todo
decreasing_by
  rw [total_append, total_nodes, total_cons]
  omega

end Forest

/-- A block and all blocks inside it, in the order in which the openers are written. -/
def Node.blocks (n : Node) : List Node := Forest.visit [n]

/-- Every block in the order in which the openers are written. -/
def Forest.blocks (f : Forest) : List Node := f.nodes.flatMap Node.blocks

end BlockMarkup
