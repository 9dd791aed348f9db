import BlockMarkup.Proofs.Checked.Access
import BlockMarkup.Proofs.Document.Append
import BlockMarkup.Proofs.Document.Layout

/-!
# Reading a document with a stack

A document can also be read top down, the open blocks on a stack, where a closing marker takes one off
and a stray one finds none. No access to the stack fails, and the forest and its reports are those of
reading from the right (`Checked.document_eq`).

1. What the parser has read so far makes a forest together with any tokens to come
   (`Parser.complete`), and reading one more token changes nothing about it (`Parser.complete_read`).
2. On the way only open blocks lack a closing marker, and the stray markers met so far are those of
   the document (`Parser.Sound`).
-/

namespace BlockMarkup.Checked

open Text Marker Forest

/-! ## The parser -/

/-- An open block with what it holds so far. -/
structure OpenBlock where
  opening : Opening
  inside : Forest

/-- What is read: the content beside all open blocks, the reports on stray markers, and the open
blocks, the innermost one on top. -/
structure Parser where
  content : Forest
  strays : List Diagnostic
  stack : List OpenBlock

namespace Parser

/-- The innermost open block, if a block is open. -/
def target (s : Parser) : Except Fault (Option OpenBlock) :=
  if s.stack.isEmpty then .ok none
  else do
    let (b, _) ← pop s.stack
    return some b

/-- Puts something at the end of the innermost open block. -/
def put (s : Parser) (f : Forest) : Except Fault Parser :=
  if s.stack.isEmpty then .ok { s with content := s.content.append f }
  else do
    let (b, below) ← pop s.stack
    return { s with stack := { b with inside := b.inside.append f } :: below }

def enter (s : Parser) (o : Opening) : Parser := { s with stack := ⟨o, .nil⟩ :: s.stack }

def strayReport (c : Closing) : Diagnostic := ⟨trim c.line, .strayCloser, some c.lineno, none, none⟩

/-- Closes the innermost open block, which joins what is around it; without one the marker is a stray
line. -/
def close (s : Parser) (c : Closing) : Except Fault Parser :=
  if s.stack.isEmpty then do
    let s ← s.put (.line c.lineno c.line .nil)
    return { s with strays := s.strays ++ [strayReport c] }
  else do
    let (b, below) ← pop s.stack
    put { s with stack := below } (.block b.opening b.inside (some c) .nil)

def read (s : Parser) : Token → Except Fault Parser
  | .opening o => .ok (s.enter o)
  | .closing c => s.close c
  | .line n t => s.put (.line n t .nil)

/-- The blocks still open, each one at the end of the one around it. -/
def tail : List OpenBlock → Forest → Forest
  | [], inside => inside
  | b :: below, inside => tail below (.block b.opening (b.inside.append inside) none .nil)

def forest (s : Parser) : Forest := s.content.append (tail s.stack .nil)

end Parser

/-- An opener has an option section only if its component is known. -/
def sectionUnder (keyword : Text) (limit : Nat) (rest : List Text) : Except Fault Nat :=
  match Component.ofKeyword? keyword with
  | some c => sectionLength c limit rest
  | none => .ok 0

/-- Reads lines from a number on, after passing over those of a section already taken. The last
closing marker is `limit` lines below the first one here. -/
def parse (limit lineno skip : Nat) (s : Parser) : List Text → Except Fault Parser
  | [] => .ok s
  | l :: rest =>
    match skip with
    | skip + 1 => parse (limit - 1) (lineno + 1) skip s rest
    | 0 => do
      let _ ← s.target
      match opener? l with
      | some m =>
        let size ← sectionUnder m.keyword (limit - 1) rest
        let s ← s.read (.opening (Token.openingOf m lineno l (rest.take size)))
        parse (limit - 1) (lineno + 1) size s rest
      | none =>
        let s ← s.read (if isCloser l then .closing ⟨lineno, l⟩ else .line lineno l)
        parse (limit - 1) (lineno + 1) 0 s rest

theorem total_of_pop {todo rest : List Node} {n : Node} (h : pop todo = .ok (n, rest)) :
    total todo = n.inner.size + 1 + total rest := by
  cases todo with
  | nil => cases h
  | cons m ms =>
    obtain ⟨rfl, rfl⟩ := Prod.mk.inj (Except.ok.inj h)
    rfl

/-- The report on a block that is still open quotes its first line. -/
def unterminatedReport (b : OpenBlock) : Except Fault Diagnostic := do
  let l ← first b.opening.head
  return ⟨trim l, .unterminatedBlock, some b.opening.lineno, some b.opening.keyword, none⟩

/-- Visits the blocks to do, each in front of the blocks it holds. -/
def visit (todo : List Node) : Except Fault (List Node) :=
  if todo.isEmpty then .ok []
  else
    match _h : pop todo with
    | .error e => .error e
    | .ok (n, rest) => do
      let visited ← visit (n.inner.nodes ++ rest)
      return n :: visited
termination_by total todo
decreasing_by
  rw [total_append, total_nodes, total_of_pop _h]
  omega

/-- The forest of a text and the reports on its structure. -/
def document (t : Text) : Except Fault (Forest × List Diagnostic) := do
  let ls := lines t
  let s ← parse ((lastCloser? ls).getD 0) 1 0 ⟨.nil, [], []⟩ ls
  let unterminated ← s.stack.reverse.mapM unterminatedReport
  -- The blocks are counted for the log.
  let _ ← visit s.forest.nodes
  return (s.forest, s.strays ++ unterminated)

/-! ## One token -/

namespace Parser

/-- The open blocks in front of what is to come: each one takes the content up to the next marker
that waits. -/
def fill : List OpenBlock → Forest → List (Closing × Forest) → Forest
  | [], inside, waiting => Pending.finish inside waiting
  | b :: below, inside, (c, behind) :: waiting =>
    fill below (.block b.opening (b.inside.append inside) (some c) behind) waiting
  | b :: below, inside, [] =>
    fill below (.block b.opening (b.inside.append inside) none .nil) []

/-- The forest of what is read and what is to come. -/
def complete (s : Parser) (p : Pending) : Forest :=
  s.content.append (fill s.stack p.content p.waiting)

theorem fill_nil_waiting (stack : List OpenBlock) (inside : Forest) :
    fill stack inside [] = tail stack inside := by
  induction stack generalizing inside with
  | nil => rfl
  | cons b below ih => exact ih _

theorem complete_nil (s : Parser) : s.complete ⟨.nil, []⟩ = s.forest := by
  rw [complete, fill_nil_waiting, forest]

/-- The forest that a parser is about, as far as faults, strays and open blocks go. -/
structure Sound (s : Parser) : Prop where
  content : s.content.unclosed = []
  inside : ∀ b ∈ s.stack, b.inside.unclosed = []
  strays : s.strays = s.content.strays.map strayReport

theorem target_ok (s : Parser) : ∃ b, s.target = .ok b := by
  unfold target
  cases s.stack with
  | nil => exact ⟨none, rfl⟩
  | cons b below => exact ⟨some b, rfl⟩

theorem finish_append (f content : Forest) (w : List (Closing × Forest)) :
    Pending.finish (f.append content) w = f.append (Pending.finish content w) := by
  cases w with
  | nil => rfl
  | cons e w => rw [Pending.finish, Pending.finish, append_assoc]

/-- What is put stands in front of what is to come. -/
theorem put_spec {s : Parser} (hs : s.Sound) {f : Forest} (hf : f.unclosed = [])
    (hstrays : f.strays = []) :
    ∃ s', s.put f = .ok s' ∧ s'.Sound ∧
      ∀ p : Pending, s'.complete p = s.complete { p with content := f.append p.content } := by
  obtain ⟨content, strays, stack⟩ := s
  cases stack with
  | nil =>
    refine ⟨_, rfl, ⟨?_, hs.inside, ?_⟩, fun p => ?_⟩
    · show (content.append f).unclosed = []
      rw [unclosed_append, show content.unclosed = [] from hs.content, hf, List.append_nil]
    · show strays = (content.append f).strays.map strayReport
      rw [strays_append, hstrays, List.append_nil]
      exact hs.strays
    · simp only [complete, fill, finish_append, append_assoc]
  | cons b below =>
    refine ⟨_, rfl, ⟨hs.content, ?_, hs.strays⟩, fun p => ?_⟩
    · obtain ⟨hb, hbelow⟩ := List.forall_mem_cons.mp hs.inside
      refine List.forall_mem_cons.mpr ⟨?_, hbelow⟩
      show (b.inside.append f).unclosed = []
      rw [unclosed_append, hb, hf, List.append_nil]
    · obtain ⟨inside, waiting⟩ := p
      cases waiting with
      | nil => simp only [complete, fill, append_assoc]
      | cons e w => simp only [complete, fill, append_assoc]

/-- A token whose kind says whether its line is a closing marker. -/
def Apt : Token → Prop
  | .opening _ => True
  | .closing c => isCloser c.line
  | .line _ l => isCloser l = false

/-- A stray marker is a line of the content. -/
theorem close_stray {s : Parser} (hs : s.Sound) (hstack : s.stack = []) {c : Closing}
    (hc : isCloser c.line) :
    ∃ s', s.close c = .ok s' ∧ s'.Sound ∧
      ∀ p : Pending, s'.complete p = s.complete (p.read (.closing c)) := by
  obtain ⟨content, strays, stack⟩ := s
  obtain rfl : stack = [] := hstack
  refine ⟨_, rfl, ⟨?_, hs.inside, ?_⟩, fun p => ?_⟩
  · show (content.append (.line c.lineno c.line .nil)).unclosed = []
    rw [unclosed_append, show content.unclosed = [] from hs.content]
    rfl
  · show strays ++ [strayReport c] =
      (content.append (.line c.lineno c.line .nil)).strays.map strayReport
    rw [strays_append, List.map_append, show strays = content.strays.map strayReport from hs.strays]
    simp [Forest.strays, hc]
  · show (content.append (.line c.lineno c.line .nil)).append (Pending.finish p.content p.waiting) =
      content.append (Pending.finish .nil ((c, p.content) :: p.waiting))
    rw [append_assoc]
    rfl

/-- Reading a token changes nothing about the forest of what is read and what is to come. -/
theorem read_spec {s : Parser} (hs : s.Sound) {t : Token} (ht : Apt t) :
    ∃ s', s.read t = .ok s' ∧ s'.Sound ∧ ∀ p : Pending, s'.complete p = s.complete (p.read t) := by
  cases t with
  | opening o =>
    refine ⟨_, rfl, ⟨hs.content, ?_, hs.strays⟩, fun p => ?_⟩
    · exact List.forall_mem_cons.mpr ⟨rfl, hs.inside⟩
    · obtain ⟨inside, waiting⟩ := p
      cases waiting with
      | nil => rfl
      | cons e w => rfl
  | closing c =>
    by_cases hstack : s.stack = []
    · exact close_stray hs hstack ht
    · obtain ⟨content, strays, stack⟩ := s
      obtain ⟨b, below, rfl⟩ := List.exists_cons_of_ne_nil hstack
      obtain ⟨hb, hbelow⟩ := List.forall_mem_cons.mp hs.inside
      have hrest : Sound ⟨content, strays, below⟩ := ⟨hs.content, hbelow, hs.strays⟩
      have hunclosed : (Forest.block b.opening b.inside (some c) .nil).unclosed = [] := by
        rw [Forest.unclosed, hb]
        rfl
      obtain ⟨s', hput, hsound, hcomplete⟩ := put_spec hrest hunclosed rfl
      refine ⟨s', hput, hsound, fun p => ?_⟩
      rw [hcomplete]
      show content.append (fill below (.block b.opening b.inside (some c) p.content) p.waiting) =
        content.append
          (fill below (.block b.opening (b.inside.append .nil) (some c) p.content) p.waiting)
      rw [append_nil]
  | line n l =>
    have hstrays : (Forest.line n l .nil).strays = [] := if_neg (by rw [ht]; exact Bool.false_ne_true)
    exact put_spec hs rfl hstrays

end Parser

/-! ## All lines -/

theorem sectionUnder_eq (keyword : Text) (rest : List Text) :
    sectionUnder keyword (reach rest) rest = .ok (Token.sectionLength keyword (reach rest) rest) := by
  unfold sectionUnder Token.sectionLength
  cases Component.ofKeyword? keyword with
  | some c => exact sectionLength_eq c rest
  | none => rfl

theorem parse_spec (ls : List Text) : ∀ (lineno skip : Nat) {s : Parser}, s.Sound →
    ∃ s', parse (reach ls) lineno skip s ls = .ok s' ∧ s'.Sound ∧
      s'.forest = s.complete ((Token.scan (reach ls) lineno skip ls).foldr Pending.read ⟨.nil, []⟩) := by
  induction ls with
  | nil =>
    intro lineno skip s hs
    exact ⟨s, rfl, hs, s.complete_nil.symm⟩
  | cons l rest ih =>
    intro lineno skip s hs
    cases skip with
    | succ skip =>
      rw [parse, Token.scan, reach_cons_sub_one]
      exact ih _ _ hs
    | zero =>
      rw [parse, Token.scan, reach_cons_sub_one]
      obtain ⟨b, hb⟩ := s.target_ok
      simp only [hb, ok_bind]
      cases hopener : opener? l with
      | some m =>
        simp only [sectionUnder_eq, ok_bind, List.foldr_cons]
        obtain ⟨s', hread, hs', hcomplete⟩ := Parser.read_spec hs (t := .opening (Token.openingOf m
          lineno l (rest.take (Token.sectionLength m.keyword (reach rest) rest)))) trivial
        obtain ⟨s'', hparse, hs'', hforest⟩ := ih (lineno + 1)
          (Token.sectionLength m.keyword (reach rest) rest) hs'
        rw [hread, ok_bind, hparse]
        exact ⟨s'', rfl, hs'', by rw [hforest, hcomplete]⟩
      | none =>
        have hapt : Parser.Apt (if isCloser l then .closing ⟨lineno, l⟩ else .line lineno l) := by
          split
          · assumption
          · next hnot => exact Bool.eq_false_iff.mpr hnot
        obtain ⟨s', hread, hs', hcomplete⟩ := Parser.read_spec hs hapt
        obtain ⟨s'', hparse, hs'', hforest⟩ := ih (lineno + 1) 0 hs'
        simp only [hread, ok_bind, hparse, List.foldr_cons]
        exact ⟨s'', rfl, hs'', by rw [hforest, hcomplete]⟩

/-! ## The forest and its reports -/

namespace Parser

theorem strays_tail (stack : List OpenBlock) {inside : Forest} (h : inside.strays = []) :
    (tail stack inside).strays = [] := by
  induction stack generalizing inside with
  | nil => exact h
  | cons b below ih => exact ih rfl

theorem unclosed_tail {stack : List OpenBlock} (h : ∀ b ∈ stack, b.inside.unclosed = [])
    (inside : Forest) :
    (tail stack inside).unclosed = stack.reverse.map (·.opening) ++ inside.unclosed := by
  induction stack generalizing inside with
  | nil => rfl
  | cons b below ih =>
    obtain ⟨hb, hbelow⟩ := List.forall_mem_cons.mp h
    rw [tail, ih hbelow, Forest.unclosed, unclosed_append, hb]
    simp [Forest.unclosed]

theorem reports_forest {s : Parser} (hs : s.Sound) :
    s.forest.reports = s.strays ++ s.stack.reverse.map fun b =>
      ⟨trim b.opening.line, .unterminatedBlock, some b.opening.lineno, some b.opening.keyword, none⟩ := by
  rw [reports, forest, strays_append, strays_tail _ rfl, unclosed_append, hs.content,
    unclosed_tail hs.inside, hs.strays, List.append_nil, List.nil_append]
  simp [Forest.unclosed, Function.comp_def, strayReport]

end Parser

theorem visit_eq (todo : List Node) : visit todo = .ok (Forest.visit todo) := by
  induction todo using Forest.visit.induct with
  | case1 =>
    rw [visit, Forest.visit]
    rfl
  | case2 n todo ih =>
    rw [visit, Forest.visit]
    simp only [List.isEmpty_cons, Bool.false_eq_true, if_false, pop, ih, ok_bind]
    rfl

theorem document_eq (t : Text) : document t = .ok (ofText t, (ofText t).reports) := by
  have hstart : Parser.Sound ⟨.nil, [], []⟩ := ⟨rfl, List.forall_mem_nil _, rfl⟩
  obtain ⟨s, hparse, hs, hforest⟩ := parse_spec (lines t) 1 0 hstart
  have hreports : s.stack.reverse.mapM unterminatedReport = .ok (s.stack.reverse.map fun b =>
      ⟨trim b.opening.line, .unterminatedBlock, some b.opening.lineno, some b.opening.keyword, none⟩) :=
    List.mapM_pure
  have hofText : s.forest = ofText t := hforest
  show (parse (reach (lines t)) 1 0 ⟨.nil, [], []⟩ (lines t) >>= fun s => do
    let unterminated ← s.stack.reverse.mapM unterminatedReport
    let _ ← visit s.forest.nodes
    return (s.forest, s.strays ++ unterminated)) = _
  rw [hparse, ok_bind, hreports, ok_bind, visit_eq, ok_bind, ← Parser.reports_forest hs, hofText]
  rfl

end BlockMarkup.Checked
