import BlockMarkup.Rendering.Nested
import BlockMarkup.Proofs.Document.Coverage

/-!
# Rendering by recursion on the forest

The stack of frames renders as the recursion on the forest does: announce a block, render what it
holds, close it (`forest_eq_recursive`). What a frame collects as written is the source of its block
(`Frame.source_done`).
-/

namespace BlockMarkup

open Text

/-! ## One block -/

namespace Node

/-- What comes before the content: a closed block of an unknown component is reported, a closed
accordion draws its number. -/
def announce (n : Node) (ctx : Context) : Option Nat × Context :=
  match n.closing, n.opening.component? with
  | some _, none =>
    (none, ctx.report
      [⟨trim n.opening.line, .unknownComponent n.opening.keyword, some n.opening.lineno, none, none⟩])
  | some _, some .accordion => (some ctx.draw.1, ctx.draw.2)
  | _, _ => (none, ctx)

def closer (n : Node) : List Text := (n.closing.map (·.line)).toList

/-- The block that is handed to its component, around its rendered content. -/
def block (n : Node) (c : Component) (closing : Closing) (inside : List Text) : Block where
  component := c
  title := n.opening.title
  optionLines := n.opening.optionLines
  body := unlines inside
  raw := n.source
  lineno := n.opening.lineno
  endLineno := closing.lineno
  optionsLineno := n.opening.optionsLineno

/-- The block as written, around its rendered content. -/
def around (n : Node) (inside : List Text) : Text :=
  unlines (n.opening.head ++ inside ++ n.closer)

theorem lines_around (n : Node) (inside : List Text) :
    lines (n.around inside) = (n.opening.head ++ inside ++ n.closer).flatMap lines :=
  lines_unlines (by simp [Opening.head])

/-- What comes after the content: the HTML of a closed block of a known component. -/
def close (n : Node) (number : Option Nat) (inside : List Text) (ctx : Context) : Text × Context :=
  match n.closing, n.opening.component? with
  | some closing, some c => ctx.hand (n.block c closing inside) number
  | _, _ => (n.around inside, ctx)

end Node

/-! ## One frame -/

namespace Frame

/-- A frame whose content is done. -/
def done (n : Node) (number : Option Nat) (inside : List Text) : Frame :=
  ⟨n.opening, n.closing, number, .nil, inside.reverse, n.inner.pieces.reverse⟩

/-- A frame with its pending content rendered. -/
def advance (top : Frame) (pieces : List Text) : Frame :=
  { top with
    pending := .nil
    rendered := pieces.reverse ++ top.rendered
    written := top.pending.pieces.reverse ++ top.written }

theorem enter_eq_announce (o : Opening) (i : Forest) (c : Option Closing) (ctx : Context) :
    enter o i c ctx =
      (⟨o, c, (Node.announce ⟨o, i, c⟩ ctx).1, i, [], []⟩, (Node.announce ⟨o, i, c⟩ ctx).2) := by
  unfold enter Node.announce
  rcases c with _ | cl <;> rcases h : o.component? with _ | c
  · rfl
  · rfl
  · rfl
  · cases c <;> rfl

/-- What a frame has collected as written is the source of its block. -/
theorem source_done (n : Node) (number : Option Nat) (inside : List Text) :
    (done n number inside).source = n.source := by
  refine unlines_congr ?_
  simp [done, Frame.closer, Forest.flatMap_lines_pieces]

theorem leave_done (n : Node) (number : Option Nat) (inside : List Text) (ctx : Context) :
    (done n number inside).leave ctx = n.close number inside ctx := by
  have hsource := source_done n number inside
  obtain ⟨o, i, c⟩ := n
  unfold leave Node.close
  simp only [done] at hsource ⊢
  rcases c with _ | cl <;> rcases ho : o.component? with _ | c
  · simp [Node.around, Node.closer, Frame.closer]
  · simp [Node.around, Node.closer, Frame.closer]
  · simp [Node.around, Node.closer, Frame.closer]
  · simp [Node.block, Frame.block, hsource]

end Frame

namespace Rendering

/-- Renders a forest by recursion, the context passed along. -/
def recursive : Forest → Context → List Text × Context
  | .nil, ctx => ([], ctx)
  | .line _ t rest, ctx =>
    let (pieces, ctx) := recursive rest ctx
    (t :: pieces, ctx)
  | .block o i c rest, ctx =>
    let (number, ctx) := Node.announce ⟨o, i, c⟩ ctx
    let (inside, ctx) := recursive i ctx
    let (html, ctx) := Node.close ⟨o, i, c⟩ number inside ctx
    let (pieces, ctx) := recursive rest ctx
    (html :: pieces, ctx)

/-- Renders one block by recursion: what comes before its content, the content, what comes after. -/
def block (n : Node) (ctx : Context) : Text × Context :=
  let (number, ctx) := n.announce ctx
  let (inside, ctx) := recursive n.inner ctx
  n.close number inside ctx

theorem recursive_block (o : Opening) (i : Forest) (c : Option Closing) (rest : Forest)
    (ctx : Context) :
    recursive (.block o i c rest) ctx =
      ((block ⟨o, i, c⟩ ctx).1 :: (recursive rest (block ⟨o, i, c⟩ ctx).2).1,
        (recursive rest (block ⟨o, i, c⟩ ctx).2).2) := rfl

/-! ## The stack of frames -/

/-- Running a stack first renders what is pending on its top, as the recursion does. -/
theorem run_eq_advance (f : Forest) : ∀ (top : Frame) (below : List Frame) (ctx : Context),
    top.pending = f →
    run top below ctx =
      run (top.advance (recursive f ctx).1) below (recursive f ctx).2 := by
  induction f with
  | nil =>
    intro top below ctx h
    obtain ⟨o, c, number, pending, rendered, written⟩ := top
    subst h
    rfl
  | line n t rest ih =>
    intro top below ctx h
    rw [run_line h, ih _ _ _ rfl]
    congr 1
    simp [Frame.advance, Frame.push, recursive, h, Forest.pieces]
  | block o i c rest ihi ihrest =>
    intro top below ctx h
    have hinner : ∀ number ctx', Frame.advance ⟨o, c, number, i, [], []⟩ (recursive i ctx').1 =
        Frame.done ⟨o, i, c⟩ number (recursive i ctx').1 := fun _ _ => by
      simp [Frame.advance, Frame.done]
    rw [run_block h, Frame.enter_eq_announce, ihi _ _ _ rfl, hinner, run_inner rfl, Frame.leave_done,
      Frame.source_done, ihrest _ _ _ rfl]
    congr 1
    simp [Frame.advance, Frame.push, recursive, h, Forest.pieces]

theorem run_enter (o : Opening) (i : Forest) (c : Option Closing) (ctx : Context) :
    run (Frame.enter o i c ctx).1 [] (Frame.enter o i c ctx).2 = block ⟨o, i, c⟩ ctx := by
  have hblock : block ⟨o, i, c⟩ ctx = Node.close ⟨o, i, c⟩ (Node.announce ⟨o, i, c⟩ ctx).1
      (recursive i (Node.announce ⟨o, i, c⟩ ctx).2).1
      (recursive i (Node.announce ⟨o, i, c⟩ ctx).2).2 := rfl
  rw [hblock, Frame.enter_eq_announce, run_eq_advance i _ _ _ rfl, run_last rfl, ← Frame.leave_done]
  simp [Frame.advance, Frame.done]

theorem forest_eq_recursive (f : Forest) (ctx : Context) : forest f ctx = recursive f ctx := by
  induction f generalizing ctx with
  | nil => rfl
  | line n t f ih => simp [forest, recursive, ih]
  | block o i c f _ ih => simp [forest, recursive_block, run_enter, ih]

end Rendering

end BlockMarkup
