import BlockMarkup.Document.Forest
import BlockMarkup.Rendering.Context

/-!
# Rendering a forest

Every closed block of a known component gives way to its HTML, once the blocks inside it are
rendered. All else stays as written, around what is rendered inside. Accordions take their numbers
in the order of their openers, before what they hold is rendered.

The blocks that are being rendered are kept on a stack of frames, so that the depth of the nesting
does not matter.
-/

namespace BlockMarkup

open Text

/-- A block being rendered: its content still to do, and its content so far, last piece first, as
rendered and as written. -/
structure Frame where
  opening : Opening
  closing : Option Closing
  number : Option Nat
  pending : Forest
  rendered : List Text
  written : List Text
deriving DecidableEq

namespace Frame

/-- Starts a block: a closed one of an unknown component is reported, a closed accordion draws its
number. -/
def enter (o : Opening) (inner : Forest) (closing : Option Closing) (ctx : Context) :
    Frame × Context :=
  match closing, o.component? with
  | some _, none =>
    (⟨o, closing, none, inner, [], []⟩,
      ctx.report [⟨trim o.line, .unknownComponent o.keyword, some o.lineno, none, none⟩])
  | some _, some .accordion =>
    let (n, ctx) := ctx.draw
    (⟨o, closing, some n, inner, [], []⟩, ctx)
  | _, _ => (⟨o, closing, none, inner, [], []⟩, ctx)

def closer (f : Frame) : List Text := (f.closing.map (·.line)).toList

/-- The block as written. -/
def source (f : Frame) : Text := unlines (f.opening.head ++ f.written.reverse ++ f.closer)

/-- The block that is handed to its component. -/
def block (f : Frame) (c : Component) (closing : Closing) : Block where
  component := c
  title := f.opening.title
  optionLines := f.opening.optionLines
  body := unlines f.rendered.reverse
  raw := f.source
  lineno := f.opening.lineno
  endLineno := closing.lineno
  optionsLineno := f.opening.optionsLineno

/-- Ends a block: its HTML, or the block as written around its rendered content. -/
def leave (f : Frame) (ctx : Context) : Text × Context :=
  match f.closing, f.opening.component? with
  | some closing, some c => ctx.hand (f.block c closing) f.number
  | _, _ => (unlines (f.opening.head ++ f.rendered.reverse ++ f.closer), ctx)

/-- Adds a piece of content. -/
def push (f : Frame) (rendered written : Text) : Frame :=
  { f with rendered := rendered :: f.rendered, written := written :: f.written }

end Frame

namespace Forest

/-- How many steps rendering takes. -/
def steps : Forest → Nat
  | nil => 0
  | line _ _ f => f.steps + 1
  | block _ i _ f => i.steps + f.steps + 2

end Forest

namespace Rendering

theorem steps_pending_enter (o : Opening) (i : Forest) (c : Option Closing) (ctx : Context) :
    (Frame.enter o i c ctx).1.pending = i := by
  unfold Frame.enter; split <;> rfl

/-- How many steps a stack of frames takes. -/
def stackSteps (fs : List Frame) : Nat := fs.foldr (fun f n => f.pending.steps + 1 + n) 0

theorem stackSteps_cons (f : Frame) (fs : List Frame) :
    stackSteps (f :: fs) = f.pending.steps + 1 + stackSteps fs := rfl

/-- Renders the block on top of the stack and then those below it, up to the outermost one. -/
def run (top : Frame) (below : List Frame) (ctx : Context) : Text × Context :=
  match _h : top.pending with
  | .nil =>
    let (html, ctx') := top.leave ctx
    match below with
    | [] => (html, ctx')
    | f :: fs => run (f.push html top.source) fs ctx'
  | .line _ t rest => run ({ top with pending := rest }.push t t) below ctx
  | .block o i c rest =>
    run (Frame.enter o i c ctx).1 ({ top with pending := rest } :: below)
      (Frame.enter o i c ctx).2
termination_by stackSteps (top :: below)
decreasing_by
  · simp [stackSteps_cons, _h, Frame.push, Forest.steps]
  · simp [stackSteps_cons, _h, Frame.push, Forest.steps]
  · simp [stackSteps_cons, _h, steps_pending_enter, Forest.steps]; omega

theorem run_last {top : Frame} (h : top.pending = .nil) (ctx : Context) :
    run top [] ctx = top.leave ctx := by
  rw [run]; split <;> simp_all

theorem run_inner {top : Frame} (h : top.pending = .nil) (f : Frame) (fs : List Frame)
    (ctx : Context) :
    run top (f :: fs) ctx = run (f.push (top.leave ctx).1 top.source) fs (top.leave ctx).2 := by
  rw [run]; split <;> simp_all

theorem run_line {top : Frame} {n : Nat} {t : Text} {rest : Forest}
    (h : top.pending = .line n t rest) (below : List Frame) (ctx : Context) :
    run top below ctx = run ({ top with pending := rest }.push t t) below ctx := by
  rw [run]; split <;> simp_all

theorem run_block {top : Frame} {o : Opening} {i rest : Forest} {c : Option Closing}
    (h : top.pending = .block o i c rest) (below : List Frame) (ctx : Context) :
    run top below ctx = run (Frame.enter o i c ctx).1 ({ top with pending := rest } :: below)
      (Frame.enter o i c ctx).2 := by
  rw [run]; split <;> simp_all

theorem enter_forget (o : Opening) (i : Forest) (c : Option Closing) (ctx : Context) :
    Frame.enter o i c ctx.forget =
      ((Frame.enter o i c ctx).1, (Frame.enter o i c ctx).2.forget) := by
  unfold Frame.enter; split <;> rfl

theorem leave_forget (f : Frame) (ctx : Context) :
    f.leave ctx.forget = ((f.leave ctx).1, (f.leave ctx).2.forget) := by
  unfold Frame.leave
  split
  · exact Context.hand_forget _ _ _
  · rfl

theorem run_forget (top : Frame) (below : List Frame) (ctx : Context) :
    run top below ctx.forget = ((run top below ctx).1, (run top below ctx).2.forget) := by
  fun_induction run top below ctx with
  | case1 top ctx h html ctx' hl => rw [run_last h, leave_forget, hl]
  | case2 top ctx h html ctx' hl f fs ih => rw [run_inner h, leave_forget, hl, ih]
  | case3 top below ctx n t rest h ih => rw [run_line h, ih]
  | case4 top below ctx o i c rest h ih => rw [run_block h, enter_forget, ih]

/-- Renders the lines and blocks of a forest one after the other. -/
def forest : Forest → Context → List Text × Context
  | .nil, ctx => ([], ctx)
  | .line _ t rest, ctx =>
    let (pieces, ctx) := forest rest ctx
    (t :: pieces, ctx)
  | .block o i c rest, ctx =>
    let (f, ctx) := Frame.enter o i c ctx
    let (html, ctx) := run f [] ctx
    let (pieces, ctx) := forest rest ctx
    (html :: pieces, ctx)

/-- Renders a text by its block structure. -/
def nested (t : Text) (ctx : Context) : Text × Context :=
  let f := Forest.ofText t
  let (pieces, ctx) := forest f (ctx.report f.reports)
  (unlines pieces, ctx)

theorem forest_forget (f : Forest) (ctx : Context) :
    forest f ctx.forget = ((forest f ctx).1, (forest f ctx).2.forget) := by
  induction f generalizing ctx with
  | nil => rfl
  | line n t f ih => simp [forest, ih]
  | block o i c f _ ih => simp [forest, enter_forget, run_forget, ih]

theorem nested_forget (t : Text) (ctx : Context) :
    nested t ctx.forget = ((nested t ctx).1, (nested t ctx).2.forget) := by
  simp [nested, Context.report_forget, forest_forget]

end Rendering

end BlockMarkup
