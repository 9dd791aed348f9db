import BlockMarkup.Document.Forest
import Mathlib.Logic.Function.Iterate

/-!
# Writing a block as it was

The lines of a block are gathered with a stack of lines and blocks to do: each turn takes what is on top off, and
either keeps a line or puts the head of a block, what it holds and its closing marker on the stack in reverse. The
lines kept, followed by those of what is still to do, are the same after every turn (`Gathering.turn_lines`). There
is nothing to do after as many turns as there are lines and blocks, and then the lines of the block are kept
(`Node.source_eq_gathered`).
-/

namespace BlockMarkup

open Text

/-! ## Lines and blocks -/

/-- What stands side by side in a block. -/
inductive Item
  | line (text : Text)
  | block (n : Node)

def Forest.items : Forest → List Item
  | nil => []
  | line _ t f => .line t :: f.items
  | block o i c f => .block ⟨o, i, c⟩ :: f.items

namespace Node

/-- The lines of a block as written. -/
def sourceLines (n : Node) : List Text :=
  n.opening.head ++ n.inner.source ++ (n.closing.map (·.line)).toList

/-- Its head, what it holds, and its closing marker if there is one. -/
def items (n : Node) : List Item :=
  n.opening.head.map .line ++ n.inner.items ++ (n.closing.map (Item.line ·.line)).toList

end Node

namespace Item

def sourceLines : Item → List Text
  | line t => [t]
  | block n => n.sourceLines

theorem flatMap_sourceLines_map_line (ts : List Text) : (ts.map line).flatMap sourceLines = ts := by
  rw [List.flatMap_map]
  exact List.flatMap_singleton' ts

end Item

theorem Forest.flatMap_sourceLines_items (f : Forest) : f.items.flatMap Item.sourceLines = f.source := by
  induction f with
  | nil => rfl
  | line _ t f ih => exact congrArg (t :: ·) ih
  | block o i c f _ ih =>
    rw [items, List.flatMap_cons, ih]
    rfl

theorem Node.flatMap_sourceLines_items (n : Node) : n.items.flatMap Item.sourceLines = n.sourceLines := by
  have hclosing : (n.closing.map (Item.line ·.line)).toList.flatMap Item.sourceLines =
      (n.closing.map (·.line)).toList := by
    cases n.closing <;> rfl
  rw [items, List.flatMap_append, List.flatMap_append, Item.flatMap_sourceLines_map_line,
    Forest.flatMap_sourceLines_items, hclosing, sourceLines]

/-! ## Turn by turn -/

/-- The lines kept so far, and the stack of what is to do, its top at the end. -/
@[ext]
structure Gathering where
  kept : List Text
  stack : List Item

/-- How many turns a forest takes: one for every line, and one for every block besides. -/
def Forest.turns : Forest → Nat
  | nil => 0
  | line _ _ f => 1 + f.turns
  | block o i c f => 1 + (o.head.length + i.turns + c.toList.length) + f.turns

def Node.turns (n : Node) : Nat := 1 + (n.opening.head.length + n.inner.turns + n.closing.toList.length)

namespace Item

def turns : Item → Nat
  | line _ => 1
  | block n => n.turns

/-- How many turns all items take. -/
def total : List Item → Nat
  | [] => 0
  | item :: is => item.turns + total is

theorem total_append (is js : List Item) : total (is ++ js) = total is + total js := by
  induction is with
  | nil => exact (Nat.zero_add _).symm
  | cons item is ih => rw [List.cons_append, total, total, ih, Nat.add_assoc]

theorem total_reverse (is : List Item) : total is.reverse = total is := by
  induction is with
  | nil => rfl
  | cons item is ih =>
    rw [List.reverse_cons, total_append, ih, total, Nat.add_comm]
    rfl

theorem total_map_line (ts : List Text) : total (ts.map line) = ts.length := by
  induction ts with
  | nil => rfl
  | cons t ts ih => rw [List.map_cons, List.length_cons, ← ih, Nat.add_comm]; rfl

theorem total_eq_zero_iff {is : List Item} : total is = 0 ↔ is = [] := by
  constructor
  · intro h
    cases is with
    | nil => rfl
    | cons item is =>
      have hpos : 0 < item.turns := by
        cases item with
        | line t => exact Nat.one_pos
        | block n => exact Nat.add_pos_left Nat.one_pos _
      have hsum : item.turns + total is = 0 := h
      omega
  · rintro rfl
    rfl

end Item

theorem Forest.total_items (f : Forest) : Item.total f.items = f.turns := by
  induction f with
  | nil => rfl
  | line _ t f ih => exact congrArg (1 + ·) ih
  | block o i c f _ ih => exact congrArg (1 + (o.head.length + i.turns + c.toList.length) + ·) ih

theorem Node.total_items (n : Node) : Item.total n.items + 1 = n.turns := by
  have hclosing : Item.total (n.closing.map (Item.line ·.line)).toList = n.closing.toList.length := by
    cases n.closing <;> rfl
  rw [items, Item.total_append, Item.total_append, Item.total_map_line, Forest.total_items, hclosing, turns,
    Nat.add_comm]

namespace Gathering

variable {w : Gathering}

def start (n : Node) : Gathering := ⟨[], [.block n]⟩

/-- One turn; nothing changes when there is nothing to do. -/
def turn (w : Gathering) : Gathering :=
  match w.stack.getLast? with
  | none => w
  | some (.line t) => ⟨w.kept ++ [t], w.stack.dropLast⟩
  | some (.block n) => ⟨w.kept, w.stack.dropLast ++ n.items.reverse⟩

/-- The lines kept, and those of what is to do. -/
def lines (w : Gathering) : List Text := w.kept ++ w.stack.reverse.flatMap Item.sourceLines

theorem turn_lines (w : Gathering) : w.turn.lines = w.lines := by
  rcases List.eq_nil_or_concat w.stack with hnil | ⟨below, item, h⟩
  · simp [turn, hnil]
  · rw [List.concat_eq_append] at h
    cases item with
    | line t => simp [turn, lines, h, Item.sourceLines]
    | block n =>
      have hturn : w.turn = ⟨w.kept, below ++ n.items.reverse⟩ := by simp [turn, h]
      rw [hturn, lines, lines, h, List.reverse_append, List.reverse_reverse, List.flatMap_append,
        Node.flatMap_sourceLines_items, List.reverse_concat, List.flatMap_cons]
      rfl

theorem total_turn (w : Gathering) : Item.total w.turn.stack = Item.total w.stack - 1 := by
  rcases List.eq_nil_or_concat w.stack with hnil | ⟨below, item, h⟩
  · have hturn : w.turn = w := by simp [turn, hnil]
    rw [hturn, hnil]
    rfl
  · rw [List.concat_eq_append] at h
    rw [h, Item.total_append]
    cases item with
    | line t =>
      have hturn : w.turn.stack = below := by simp [turn, h]
      rw [hturn]
      rfl
    | block n =>
      have hturn : w.turn.stack = below ++ n.items.reverse := by simp [turn, h]
      have hitems : Item.total [Item.block n] = Item.total n.items + 1 := n.total_items.symm
      rw [hturn, Item.total_append, Item.total_reverse, hitems]
      rfl

theorem iterate_turn (w : Gathering) (k : Nat) :
    (turn^[k] w).lines = w.lines ∧ Item.total (turn^[k] w).stack = Item.total w.stack - k := by
  induction k with
  | zero => exact ⟨rfl, rfl⟩
  | succ k ih =>
    rw [Function.iterate_succ_apply', turn_lines, total_turn, ih.1, ih.2, Nat.sub_sub]
    exact ⟨rfl, rfl⟩

theorem ended_iff (n : Node) (k : Nat) : (turn^[k] (start n)).stack = [] ↔ n.turns ≤ k := by
  have hstart : Item.total (start n).stack = n.turns := rfl
  rw [← Item.total_eq_zero_iff, (iterate_turn (start n) k).2, hstart]
  exact Nat.sub_eq_zero_iff_le

theorem iterate_turn_turns (n : Node) : turn^[n.turns] (start n) = ⟨n.sourceLines, []⟩ := by
  have hended : (turn^[n.turns] (start n)).stack = [] := (ended_iff n _).mpr (Nat.le_refl _)
  have hlines := (iterate_turn (start n) n.turns).1
  rw [lines, hended] at hlines
  refine Gathering.ext ?_ hended
  simpa [lines, start, Item.sourceLines] using hlines

end Gathering

/-- Gathering the lines of a block ends after one turn for each of its lines and blocks, and not before; the source
of the block is what has been kept by then. -/
theorem Node.source_eq_gathered (n : Node) :
    n.source = unlines (Gathering.turn^[n.turns] (.start n)).kept ∧
      ∀ k, (Gathering.turn^[k] (.start n)).stack = [] ↔ n.turns ≤ k := by
  rw [Gathering.iterate_turn_turns]
  exact ⟨rfl, Gathering.ended_iff n⟩

end BlockMarkup
