import BlockMarkup.Proofs.Document.Matching
import Mathlib.Logic.Function.Iterate

/-!
# Walking over the blocks

A walk over a block and those inside it keeps a stack of blocks to do: each turn takes the block on top
off, visits it, and puts the blocks it holds on the stack in reverse, so that the first one is on top.
However deep the blocks lie, the walk ends after as many turns as there are blocks, and has visited
each of them once, in the order in which the openers are written (`Forest.blocks_ofText`).

1. The recursion on the forest has the blocks at any depth and no others (`Forest.mem_preorder_iff`).
2. Taken in the order of the recursion, the blocks still ahead lose the first one with each turn
   (`Walk.turn_spec`). So the blocks visited are always a beginning of those ahead at the start, and the
   walk has ended when all are visited (`Walk.iterate_turn`, `Walk.ended_iff`).
3. The openers of a text are in its blocks in the order of their lines (`Lies.lineno_preorder`).
-/

namespace BlockMarkup

open Text Layout

/-- A block, and then the blocks inside it. -/
def Node.preorder (n : Node) : List Node := n :: n.inner.preorder

variable {f g : Forest} {n : Node}

namespace Forest

/-! ## The recursion -/

theorem preorder_eq_flatMap (f : Forest) : f.preorder = f.nodes.flatMap Node.preorder := by
  induction f with
  | nil => rfl
  | line _ _ f ih => exact ih
  | block o i c f _ ih =>
    rw [preorder, ih, nodes, List.flatMap_cons]
    rfl

theorem length_preorder (f : Forest) : f.preorder.length = f.size := by
  induction f with
  | nil => rfl
  | line _ _ f ih => exact ih
  | block o i c f ihi ihf =>
    rw [preorder, List.length_cons, List.length_append, ihi, ihf, size]
    omega

theorem visit_eq (todo : List Node) : visit todo = todo.flatMap Node.preorder := by
  induction todo using visit.induct with
  | case1 => rw [visit, List.flatMap_nil]
  | case2 n todo ih =>
    rw [visit, ih, List.flatMap_append, ← preorder_eq_flatMap, List.flatMap_cons, Node.preorder,
      List.cons_append]

end Forest

theorem Node.blocks_eq_preorder (n : Node) : n.blocks = n.preorder := by
  rw [blocks, Forest.visit_eq, List.flatMap_singleton]

namespace Forest

theorem blocks_eq_preorder (f : Forest) : f.blocks = f.preorder := by
  rw [blocks, preorder_eq_flatMap, funext Node.blocks_eq_preorder]

/-- The blocks of a forest: those side by side in it, and those side by side in one of its blocks. -/
inductive HasBlock (f : Forest) : Node → Prop
  | outer {n : Node} (h : n ∈ f.nodes) : HasBlock f n
  | inner {p n : Node} (hp : HasBlock f p) (h : n ∈ p.inner.nodes) : HasBlock f n

theorem HasBlock.lift (h : f.HasBlock n) (hfg : ∀ m ∈ f.nodes, g.HasBlock m) : g.HasBlock n := by
  induction h with
  | outer h => exact hfg _ h
  | inner _ h ih => exact .inner ih h

theorem mem_preorder_iff : n ∈ f.preorder ↔ f.HasBlock n := by
  constructor
  · intro h
    induction f with
    | nil => cases h
    | line _ _ f ih => exact (ih h).lift fun m hm => .outer hm
    | block o i c f ihi ihf =>
      have hself : (block o i c f).HasBlock ⟨o, i, c⟩ := .outer List.mem_cons_self
      rcases List.mem_cons.mp h with rfl | h
      · exact hself
      · rcases List.mem_append.mp h with h | h
        · exact (ihi h).lift fun m hm => .inner hself hm
        · exact (ihf h).lift fun m hm => .outer (List.mem_cons_of_mem _ hm)
  · intro h
    induction h with
    | outer h => exact mem_preorder_of_mem_nodes h
    | inner _ h ih => exact mem_preorder_of_mem_inner ih (mem_preorder_of_mem_nodes h)

end Forest

/-! ## The walk, turn by turn -/

/-- A walk between two turns: the blocks visited so far, and the stack of those to do, its top at the
end. -/
@[ext]
structure Walk where
  visited : List Node
  stack : List Node

namespace Walk

variable {w : Walk}

def start (n : Node) : Walk := ⟨[], [n]⟩

/-- One turn; a walk with nothing to do stays as it is. -/
def turn (w : Walk) : Walk :=
  match w.stack.getLast? with
  | none => w
  | some n => ⟨w.visited ++ [n], w.stack.dropLast ++ n.inner.nodes.reverse⟩

/-- The blocks still to be visited, in order. -/
def ahead (w : Walk) : List Node := w.stack.reverse.flatMap Node.preorder

theorem ahead_start (n : Node) : (start n).ahead = n.preorder := List.flatMap_singleton ..

theorem ahead_eq_nil_iff : w.ahead = [] ↔ w.stack = [] := by
  simp only [ahead, List.flatMap_eq_nil_iff, Node.preorder, List.mem_reverse, List.cons_ne_nil,
    imp_false]
  exact List.eq_nil_iff_forall_not_mem.symm

/-- A turn visits the first of the blocks ahead. -/
theorem turn_spec (w : Walk) :
    w.turn.visited = w.visited ++ w.ahead.take 1 ∧ w.turn.ahead = w.ahead.drop 1 := by
  rcases List.eq_nil_or_concat w.stack with hnil | ⟨below, n, h⟩
  · have hturn : w.turn = w := by simp [turn, hnil]
    rw [hturn, ahead_eq_nil_iff.mpr hnil]
    exact ⟨(List.append_nil _).symm, rfl⟩
  · rw [List.concat_eq_append] at h
    have hturn : w.turn = ⟨w.visited ++ [n], below ++ n.inner.nodes.reverse⟩ := by simp [turn, h]
    have hahead : w.ahead = n :: (n.inner.preorder ++ below.reverse.flatMap Node.preorder) := by
      rw [ahead, h, List.reverse_concat, List.flatMap_cons, Node.preorder, List.cons_append]
    have hnext : w.turn.ahead = n.inner.preorder ++ below.reverse.flatMap Node.preorder := by
      rw [hturn, ahead, List.reverse_append, List.reverse_reverse, List.flatMap_append,
        ← Forest.preorder_eq_flatMap]
    rw [hnext, hahead, hturn]
    exact ⟨rfl, rfl⟩

/-- Every turn so far has visited one of the blocks ahead at the start, as long as there were any. -/
theorem iterate_turn (w : Walk) (k : Nat) :
    (turn^[k] w).visited = w.visited ++ w.ahead.take k ∧ (turn^[k] w).ahead = w.ahead.drop k := by
  induction k with
  | zero => simp
  | succ k ih =>
    obtain ⟨hvisited, hahead⟩ := turn_spec (turn^[k] w)
    rw [Function.iterate_succ_apply', hvisited, hahead, ih.1, ih.2, List.drop_drop, List.append_assoc,
      ← List.take_add]
    exact ⟨rfl, rfl⟩

theorem ended_iff (n : Node) (k : Nat) :
    (turn^[k] (start n)).stack = [] ↔ n.inner.size + 1 ≤ k := by
  rw [← ahead_eq_nil_iff, (iterate_turn (start n) k).2, ahead_start, List.drop_eq_nil_iff,
    Node.preorder, List.length_cons, Forest.length_preorder]

theorem iterate_turn_size (n : Node) : turn^[n.inner.size + 1] (start n) = ⟨n.blocks, []⟩ := by
  have hlength : n.preorder.length = n.inner.size + 1 := by
    rw [Node.preorder, List.length_cons, Forest.length_preorder]
  refine Walk.ext ?_ ((ended_iff n _).mpr le_rfl)
  rw [(iterate_turn (start n) _).1, ahead_start, List.take_of_length_le hlength.le,
    Node.blocks_eq_preorder]
  rfl

end Walk

/-! ## The whole text -/

/-- The walk over a block ends after as many turns as it has blocks, itself included, and not before;
it visits the block and then, as the walk over the forest does, the blocks that it holds from first to
last. Over a text, the walk visits every block once, and the numbers of their lines ascend and are those
of the openers. -/
theorem Forest.blocks_ofText (t : Text) :
    (∀ n : Node, n.blocks = n :: n.inner.blocks ∧
        Walk.turn^[n.inner.size + 1] (.start n) = ⟨n.blocks, []⟩ ∧
        ∀ k, (Walk.turn^[k] (.start n)).stack = [] ↔ n.inner.size + 1 ≤ k) ∧
      (ofText t).blocks = (ofText t).preorder ∧
      (∀ n, n ∈ (ofText t).blocks ↔ (ofText t).HasBlock n) ∧ (ofText t).blocks.Nodup ∧
      ((ofText t).blocks.map (·.opening.lineno)).Pairwise (· < ·) ∧
      (ofText t).blocks.map (·.opening.lineno) =
        ((List.range (lines t).length).filter (isOpenerAt (lines t))).map (· + 1) := by
  have h := lies_ofText t
  rw [blocks_eq_preorder]
  refine ⟨fun n => ⟨?_, Walk.iterate_turn_size n, Walk.ended_iff n⟩, rfl, fun n => mem_preorder_iff,
    h.nodup_preorder, h.pairwise_lineno_preorder, ?_⟩
  · rw [Node.blocks_eq_preorder, blocks_eq_preorder, Node.preorder]
  · rw [h.lineno_preorder, Nat.sub_zero, ← List.range_eq_range']

end BlockMarkup
