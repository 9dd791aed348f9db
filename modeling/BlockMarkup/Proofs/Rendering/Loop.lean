import BlockMarkup.Proofs.Document.Append
import BlockMarkup.Proofs.Document.Matching
import BlockMarkup.Proofs.Rendering.Recursion
import Mathlib.Logic.Function.Iterate

/-!
# The rendering loop, turn by turn

A turn of the loop takes one thing off the frame on top: a line, a block to enter, or the end of the
content, with which the frame goes. The loop ends, and yields what the recursion on the forest does
(`Rendering.loop_eq_recursion`).

1. Each turn takes one step off the stack of frames and leaves the outcome alone, so the loop ends
   with its outcome after as many turns as there are steps (`iterate_turn_turns`).
2. Each frame belongs to a block: what it has collected as written is the content already read. The
   frames below belong to the blocks around it (`Inside.turn`, `Inside.iterate_turn`).
3. So a frame whose content is read has the source of its block (`Frame.Belongs.source_eq`).
-/

namespace BlockMarkup

open Text

namespace Rendering

/-! ## Turns -/

/-- The loop between two turns, or what it has yielded. -/
inductive Loop
  | running (top : Frame) (below : List Frame) (ctx : Context)
  | ended (html : Text) (ctx : Context)

namespace Loop

/-- The loop at a block that is about to be rendered. -/
def start (n : Node) (ctx : Context) : Loop :=
  running (Frame.enter n.opening n.inner n.closing ctx).1 []
    (Frame.enter n.opening n.inner n.closing ctx).2

/-- One turn; a loop that has ended stays as it is. -/
def turn : Loop → Loop
  | ended html ctx => ended html ctx
  | running top below ctx =>
    match top.pending with
    | .nil =>
      match below with
      | [] => ended (top.leave ctx).1 (top.leave ctx).2
      | f :: fs => running (f.push (top.leave ctx).1 top.source) fs (top.leave ctx).2
    | .line _ t rest => running ({ top with pending := rest }.push t t) below ctx
    | .block o i c rest =>
      running (Frame.enter o i c ctx).1 ({ top with pending := rest } :: below)
        (Frame.enter o i c ctx).2

/-- How many turns are still to come. -/
def turns : Loop → Nat
  | running top below _ => stackSteps (top :: below)
  | ended _ _ => 0

/-- What the loop yields in the end. -/
def outcome : Loop → Text × Context
  | running top below ctx => run top below ctx
  | ended html ctx => (html, ctx)

theorem outcome_turn (l : Loop) : l.turn.outcome = l.outcome := by
  cases l with
  | ended html ctx => rfl
  | running top below ctx =>
    cases h : top.pending with
    | nil =>
      cases below with
      | nil =>
        have hrun := run_last h ctx
        simp only [turn, h, outcome, hrun]
      | cons f fs =>
        have hrun := run_inner h f fs ctx
        simp only [turn, h, outcome, hrun]
    | line n t rest =>
      have hrun := run_line h below ctx
      simp only [turn, h, outcome, hrun]
    | block o i c rest =>
      have hrun := run_block h below ctx
      simp only [turn, h, outcome, hrun]

theorem turns_turn (l : Loop) : l.turn.turns = l.turns - 1 := by
  cases l with
  | ended html ctx => rfl
  | running top below ctx =>
    cases h : top.pending with
    | nil =>
      cases below with
      | nil => simp [turn, h, turns, stackSteps, Forest.steps]
      | cons f fs =>
        simp only [turn, h, turns, stackSteps_cons, Frame.push, Forest.steps]
        omega
    | line n t rest =>
      simp only [turn, h, turns, stackSteps_cons, Frame.push, Forest.steps]
      omega
    | block o i c rest =>
      simp only [turn, h, turns, stackSteps_cons, steps_pending_enter, Forest.steps]
      omega

/-- After all its turns the loop has ended with its outcome. -/
theorem iterate_turn_turns (l : Loop) : turn^[l.turns] l = ended l.outcome.1 l.outcome.2 := by
  generalize hk : l.turns = k
  induction k generalizing l with
  | zero =>
    cases l with
    | ended html ctx => rfl
    | running top below ctx =>
      simp only [turns, stackSteps_cons] at hk
      omega
  | succ k ih =>
    have hturns : l.turn.turns = k := by
      rw [turns_turn, hk]
      rfl
    rw [Function.iterate_succ_apply, ih l.turn hturns, outcome_turn]

theorem turns_start (n : Node) (ctx : Context) : (start n ctx).turns = n.inner.steps + 1 := by
  simp only [start, turns, stackSteps_cons, steps_pending_enter]
  rfl

end Loop

end Rendering

/-! ## The block of a frame -/

/-- A frame of a block whose content is `read`, which the frame has collected as written, and then
`rest`. -/
structure Frame.Belongs (f : Frame) (n : Node) (read rest : Forest) : Prop where
  opening : f.opening = n.opening
  closing : f.closing = n.closing
  inner : n.inner = read.append rest
  written : f.written = read.pieces.reverse

namespace Frame.Belongs

variable {f : Frame} {n : Node} {read rest : Forest}

/-- A frame whose content is read has the source of its block. -/
theorem source_eq (h : f.Belongs n read .nil) : f.source = n.source := by
  have hinner : n.inner = read := by rw [h.inner, Forest.append_nil]
  unfold Frame.source Node.source Frame.closer
  rw [h.opening, h.closing, h.written, List.reverse_reverse, hinner]
  refine unlines_congr ?_
  simp only [List.flatMap_append, Forest.flatMap_lines_pieces]

theorem enter (n : Node) (ctx : Context) :
    (Frame.enter n.opening n.inner n.closing ctx).1.Belongs n .nil n.inner := by
  rw [Frame.enter_eq_announce]
  exact ⟨rfl, rfl, rfl, rfl⟩

/-- One more thing of the content, a line or a block, is read. -/
theorem push {m pending : Forest} {written : Text} (h : f.Belongs n read pending)
    (hpending : pending = m.append rest) (hwritten : m.pieces = [written]) (rendered : Text) :
    (Frame.push { f with pending := rest } rendered written).Belongs n (read.append m) rest := by
  refine ⟨h.opening, h.closing, ?_, ?_⟩
  · rw [h.inner, hpending, Forest.append_assoc]
  · rw [Forest.pieces_append, hwritten, List.reverse_append, ← h.written]
    rfl

end Frame.Belongs

namespace Rendering

/-! ## The frames of a loop -/

/-- The frames belong to the blocks around `n`, from the nearest one out to `root`. Each waits for
the block above it, and has the rest of its content pending. -/
inductive Around (root : Node) : Node → List Frame → Prop
  | root : Around root root []
  | frame {n m : Node} {f : Frame} {fs : List Frame} {read : Forest}
      (hf : f.Belongs m read (.block n.opening n.inner n.closing f.pending))
      (hfs : Around root m fs) : Around root n (f :: fs)

/-- While a loop runs, the frame on top belongs to a block inside `root`. -/
def Inside (root : Node) : Loop → Prop
  | .running top below _ => ∃ n read, top.Belongs n read top.pending ∧ Around root n below
  | .ended _ _ => True

theorem Around.mem {root n : Node} {fs : List Frame} (h : Around root n fs) :
    n ∈ root :: root.inner.preorder := by
  induction h with
  | root => exact List.mem_cons_self
  | @frame n m f fs read hf hfs ih =>
    have hn : n ∈ m.inner.preorder := by
      rw [hf.inner, Forest.preorder_append]
      exact List.mem_append_right _ List.mem_cons_self
    refine List.mem_cons_of_mem _ ?_
    rcases List.mem_cons.mp ih with rfl | hm
    · exact hn
    · exact Forest.mem_preorder_of_mem_inner hm hn

theorem Inside.start (n : Node) (ctx : Context) : Inside n (.start n ctx) := by
  refine ⟨n, .nil, ?_, .root⟩
  rw [steps_pending_enter]
  exact Frame.Belongs.enter n ctx

/-- A turn keeps every frame with its block. -/
theorem Inside.turn {root : Node} {l : Loop} (h : Inside root l) : Inside root l.turn := by
  cases l with
  | ended html ctx => trivial
  | running top below ctx =>
    obtain ⟨n, read, htop, hbelow⟩ := h
    cases hp : top.pending with
    | nil =>
      rw [hp] at htop
      cases hbelow with
      | root =>
        simp only [Loop.turn, hp]
        trivial
      | @frame _ m f fs before hf hfs =>
        simp only [Loop.turn, hp]
        -- The frame below has read the block above it, which it waited for.
        have hwritten : (Forest.block n.opening n.inner n.closing .nil).pieces = [top.source] := by
          rw [htop.source_eq]
          rfl
        have hblock : Forest.block n.opening n.inner n.closing f.pending =
            (Forest.block n.opening n.inner n.closing .nil).append f.pending := rfl
        exact ⟨m, _, hf.push hblock hwritten _, hfs⟩
    | line k t rest =>
      rw [hp] at htop
      simp only [Loop.turn, hp]
      have hline : Forest.line k t rest = (Forest.line k t .nil).append rest := rfl
      exact ⟨n, _, htop.push hline rfl t, hbelow⟩
    | block o i c rest =>
      rw [hp] at htop
      simp only [Loop.turn, hp]
      have hwaits : Frame.Belongs { top with pending := rest } n read (.block o i c rest) :=
        ⟨htop.opening, htop.closing, htop.inner, htop.written⟩
      refine ⟨⟨o, i, c⟩, .nil, ?_, .frame hwaits hbelow⟩
      rw [steps_pending_enter]
      exact Frame.Belongs.enter ⟨o, i, c⟩ ctx

theorem Inside.iterate_turn {root : Node} {l : Loop} (h : Inside root l) (k : Nat) :
    Inside root (Loop.turn^[k] l) := by
  induction k generalizing l with
  | zero => exact h
  | succ k ih =>
    rw [Function.iterate_succ_apply]
    exact ih h.turn

/-! ## The loop and the recursion -/

theorem Loop.outcome_start (n : Node) (ctx : Context) : (Loop.start n ctx).outcome = block n ctx :=
  run_enter n.opening n.inner n.closing ctx

/-- The rendering loop is the recursion. Started at a block in any context it ends, with the text and
the context of the recursion, and whenever a frame is closed on the way, it has the source of the
block it belongs to. So all blocks of a forest, one after the other, come out as the recursion on the
forest renders them. -/
theorem loop_eq_recursion :
    (∀ (n : Node) (ctx : Context),
      let loop := Loop.start n ctx
      loop.outcome = block n ctx ∧
        Loop.turn^[n.inner.steps + 1] loop = .ended (block n ctx).1 (block n ctx).2 ∧
        ∀ k top below ctx', Loop.turn^[k] loop = .running top below ctx' → top.pending = .nil →
          ∃ m ∈ n :: n.inner.preorder,
            top.opening = m.opening ∧ top.closing = m.closing ∧ top.source = m.source) ∧
      ∀ (f : Forest) (ctx : Context), forest f ctx = recursive f ctx := by
  refine ⟨fun n ctx => ⟨Loop.outcome_start n ctx, ?_, ?_⟩, forest_eq_recursive⟩
  · have hend := Loop.iterate_turn_turns (Loop.start n ctx)
    rwa [Loop.turns_start, Loop.outcome_start] at hend
  · intro k top below ctx' hk hp
    have hinside := (Inside.start n ctx).iterate_turn k
    rw [hk] at hinside
    obtain ⟨m, read, htop, hbelow⟩ := hinside
    rw [hp] at htop
    exact ⟨m, hbelow.mem, htop.opening, htop.closing, htop.source_eq⟩

end Rendering

end BlockMarkup
