import BlockMarkup.Rendering.Passes
import BlockMarkup.Proofs.Block
import BlockMarkup.Proofs.Document.Shift
import BlockMarkup.Proofs.Rendering.Recursion

/-!
# Rendering further down

What stands further down in a text is rendered to the same HTML with the same reports, of larger line
numbers: by recursion on the forest (`Rendering.recursive_shift`) and piece by piece
(`Rendering.pieces_shift`). In reports and option sections the line number zero stands for an unknown
place, so blocks and pieces must have line numbers of their own.
-/

namespace BlockMarkup

open Text

variable {k : Nat}

/-! ## Reports on options -/

namespace OptionReader

def shift (k : Nat) (r : OptionReader) : OptionReader :=
  { r with firstLine := r.firstLine.map (· + k) }

variable (r : OptionReader)

theorem report_shift (offset : Nat) (line : Text) (p : Problem) :
    (r.shift k).report offset line p = (r.report offset line p).shift k := by
  unfold report shift Diagnostic.shift
  rw [Option.map_map, Option.map_map]
  congr 2
  funext n
  exact Int.add_right_comm n k offset

theorem settingReports_shift (offset : Nat) (above : Options) (line key : Text) :
    (r.shift k).settingReports offset above line key =
      (r.settingReports offset above line key).map (Diagnostic.shift k) := by
  have hknown : (r.shift k).known = r.known := rfl
  unfold settingReports
  rw [hknown, report_shift, report_shift, List.map_append]
  congr 1
  · split <;> rfl
  · split <;> rfl

theorem readLines_shift (ls : List Text) : ∀ (offset : Nat) (above : Options),
    (r.shift k).readLines offset above ls =
      ((r.readLines offset above ls).1, (r.readLines offset above ls).2.map (Diagnostic.shift k)) := by
  induction ls with
  | nil => intros; rfl
  | cons l ls ih =>
    intro offset above
    simp only [readLines]
    split
    · exact ih _ _
    · split
      · rw [ih, report_shift]
        rfl
      · rw [ih, settingReports_shift, List.map_append]

end OptionReader

/-! ## Blocks -/

namespace Block

/-- Zero as the number of the first option line stays zero: there is no such line. -/
def shift (k : Nat) (b : Block) : Block where
  component := b.component
  title := b.title
  optionLines := b.optionLines
  body := b.body
  raw := b.raw
  lineno := b.lineno + k
  endLineno := b.endLineno + k
  optionsLineno := if b.optionsLineno = 0 then 0 else b.optionsLineno + k

variable {b : Block}

@[simp] theorem component_shift (b : Block) : (b.shift k).component = b.component := rfl

theorem alike_shift (b : Block) : Alike (b.shift k) b := ⟨rfl, rfl, rfl, rfl⟩

theorem knownLine_add {n : Nat} (h : n ≠ 0) : knownLine (n + k) = (knownLine n).map (· + (k : Int)) := by
  have hadd : n + k ≠ 0 := fun h0 => h (Nat.eq_zero_of_add_eq_zero_right h0)
  rw [knownLine, knownLine, if_neg h, if_neg hadd]
  rfl

theorem knownLine_settingLines_shift (h : b.lineno ≠ 0) :
    knownLine (b.shift k).settingLines.2 = (knownLine b.settingLines.2).map (· + (k : Int)) := by
  have hheader : (b.shift k).hasHeaderOption = b.hasHeaderOption := rfl
  unfold settingLines
  rw [hheader]
  by_cases hoption : b.hasHeaderOption
  · rw [if_pos hoption, if_pos hoption]
    exact knownLine_add h
  · rw [if_neg hoption, if_neg hoption]
    have hsection : knownLine (b.shift k).optionsLineno =
        (knownLine b.optionsLineno).map (· + (k : Int)) := by
      by_cases h0 : b.optionsLineno = 0
      · simp only [shift, h0, if_true]
        rfl
      · simp only [shift, h0, if_false]
        exact knownLine_add h0
    cases hc : b.component with
    | badge =>
      have hshift : b.lineno + k ≠ 0 := fun h0 => h (Nat.eq_zero_of_add_eq_zero_right h0)
      have hbody : b.lineno + 1 + (b.body.takeWhile (· == '\n')).length ≠ 0 := by omega
      simp only [shift, hc, h, hshift, if_false]
      rw [← knownLine_add hbody]
      congr 1
      omega
    | col =>
      simp only [shift, hc]
      rfl
    | card | tile | row | alert | callout | accordion =>
      simp only [shift, hc] at hsection ⊢
      exact hsection

theorem reader_shift (h : b.lineno ≠ 0) : (b.shift k).reader = b.reader.shift k := by
  unfold reader OptionReader.shift
  rw [knownLine_settingLines_shift h]
  rfl

theorem choiceReport?_shift (h : b.lineno ≠ 0) (o : Options) (choice : Text × List Text) :
    (b.shift k).choiceReport? o choice = (b.choiceReport? o choice).map (Diagnostic.shift k) := by
  unfold choiceReport?
  rw [knownLine_settingLines_shift h]
  split
  · rfl
  · split
    · rfl
    · rfl

theorem reports_shift (h : b.lineno ≠ 0) : (b.shift k).reports = b.reports.map (Diagnostic.shift k) := by
  have hchoices : ∀ o, (b.shift k).choiceReport? o = fun c => (b.choiceReport? o c).map (.shift k) :=
    fun o => funext (choiceReport?_shift h o)
  unfold reports OptionReader.read
  rw [reader_shift h, (alike_shift b).settingLines, OptionReader.readLines_shift, List.map_append,
    List.map_filterMap]
  simp only [hchoices, component_shift]

end Block

/-! ## Contexts -/

def Handover.shift (k : Nat) (h : Handover) : Handover := ⟨h.block.shift k, h.number⟩

namespace Context

def shift (k : Nat) (ctx : Context) : Context :=
  { ctx with
    reports := ctx.reports.map (Diagnostic.shift k)
    handovers := ctx.handovers.map (·.map (Handover.shift k)) }

variable (ctx : Context)

theorem report_shift (ds : List Diagnostic) :
    (ctx.shift k).report (ds.map (Diagnostic.shift k)) = (ctx.report ds).shift k := by
  unfold report shift
  rw [List.map_append]

theorem numberFor_shift (b : Block) (number : Option Nat) :
    (ctx.shift k).numberFor (b.shift k) number =
      ((ctx.numberFor b number).1, (ctx.numberFor b number).2.shift k) := by
  unfold numberFor
  rw [Block.component_shift]
  split
  · rfl
  · split <;> rfl

theorem hand_shift {b : Block} (h : b.lineno ≠ 0) (number : Option Nat) :
    (ctx.shift k).hand (b.shift k) number =
      ((ctx.hand b number).1, (ctx.hand b number).2.shift k) := by
  unfold hand
  rw [numberFor_shift]
  generalize ctx.numberFor b number = drawn
  obtain ⟨n, p, accordions, ds, hs⟩ := drawn
  simp only [shift, report, (Block.alike_shift b).html_eq, Block.reports_shift h, List.map_append]
  cases hs with
  | none => rfl
  | some hs => simp only [Option.map_some, List.map_append]; rfl

end Context

/-! ## Forests -/

namespace Node

variable (n : Node)

theorem source_shift : (n.shift k).source = n.source := by
  unfold source shift
  rw [Forest.source_shift, Option.map_map]
  rfl

theorem around_shift (inside : List Text) : (n.shift k).around inside = n.around inside := by
  unfold around closer shift
  rw [Option.map_map]
  rfl

theorem block_shift (c : Component) (cl : Closing) (inside : List Text) :
    (n.shift k).block c (cl.shift k) inside = (n.block c cl inside).shift k := by
  have hoptions : (n.opening.shift k).optionsLineno =
      if n.opening.optionsLineno = 0 then 0 else n.opening.optionsLineno + k := by
    unfold Opening.optionsLineno
    cases hsep : n.opening.separator with
    | none => simp [Opening.shift, hsep]
    | some marker =>
      simp only [Opening.shift, hsep, Option.isSome_some, if_true, Nat.succ_ne_zero, if_false]
      omega
  unfold block
  rw [source_shift]
  simp only [Block.shift, shift, hoptions]
  rfl

theorem announce_shift (ctx : Context) :
    (n.shift k).announce (ctx.shift k) = ((n.announce ctx).1, (n.announce ctx).2.shift k) := by
  obtain ⟨o, i, closing⟩ := n
  unfold announce shift
  simp only [Opening.component?_shift]
  rcases closing with _ | cl <;> rcases o.component? with _ | c
  · rfl
  · rfl
  · exact Prod.ext rfl (ctx.report_shift
      [⟨trim o.line, .unknownComponent o.keyword, some o.lineno, none, none⟩])
  · cases c <;> rfl

theorem close_shift (h : n.opening.lineno ≠ 0) (number : Option Nat) (inside : List Text)
    (ctx : Context) :
    (n.shift k).close number inside (ctx.shift k) =
      ((n.close number inside ctx).1, (n.close number inside ctx).2.shift k) := by
  have hopening : (n.shift k).opening = n.opening.shift k := rfl
  have hclosing : (n.shift k).closing = n.closing.map (Closing.shift k) := rfl
  unfold close
  rw [hopening, Opening.component?_shift, hclosing, around_shift]
  rcases n.closing with _ | cl <;> rcases n.opening.component? with _ | c
  · rfl
  · rfl
  · rfl
  · simp only [Option.map_some]
    rw [block_shift]
    exact ctx.hand_shift h number

end Node

namespace Rendering

theorem recursive_shift {f : Forest} (h : ∀ n ∈ f.preorder, n.opening.lineno ≠ 0) (ctx : Context) :
    recursive (f.shift k) (ctx.shift k) =
      ((recursive f ctx).1, (recursive f ctx).2.shift k) := by
  induction f generalizing ctx with
  | nil => rfl
  | line n t f ih => simp only [Forest.shift, recursive, ih h]
  | block o i c f ihi ihf =>
    obtain ⟨hself, hrest⟩ := List.forall_mem_cons.mp h
    obtain ⟨hi, hf⟩ := List.forall_mem_append.mp hrest
    have hnode : (⟨o.shift k, i.shift k, c.map (·.shift k)⟩ : Node) = Node.shift k ⟨o, i, c⟩ := rfl
    simp only [Forest.shift, recursive, hnode, Node.announce_shift, ihi hi,
      Node.close_shift ⟨o, i, c⟩ hself, ihf hf]

end Rendering

/-! ## Pieces -/

namespace Piece

def shift (k : Nat) : Piece → Piece
  | line t => line t
  | block b => block (b.shift k)
  | openEnd n l => openEnd (n + k) l

theorem report?_shift (c : Component) (p : Piece) :
    (p.shift k).report? c = (p.report? c).map (Diagnostic.shift k) := by
  cases p <;> rfl

theorem blockAt_shift (c : Component) (header : Text) (lineno : Nat) (opener : Text)
    (rest : List Text) (size length : Nat) :
    blockAt c header (lineno + k) opener rest size length =
      (blockAt c header lineno opener rest size length).shift k := by
  have hend : lineno + k + size + length + 1 = lineno + size + length + 1 + k := by omega
  have hsection : (if size = 0 then 0 else lineno + k + 1) =
      if (if size = 0 then 0 else lineno + 1) = 0 then 0
      else (if size = 0 then 0 else lineno + 1) + k := by
    by_cases h0 : size = 0
    · simp only [h0, if_true]
    · simp only [h0, if_false, Nat.succ_ne_zero]
      omega
  unfold blockAt
  rw [hend, hsection]
  rfl

theorem scan_add (c : Component) (ls : List Text) : ∀ limit lineno skip,
    scan c limit (lineno + k) skip ls = (scan c limit lineno skip ls).map (shift k) := by
  induction ls with
  | nil => intros; rfl
  | cons l rest ih =>
    intro limit lineno skip
    have hnext : lineno + k + 1 = lineno + 1 + k := Nat.add_right_comm lineno k 1
    cases skip with
    | succ n => rw [scan, hnext, ih, scan]
    | zero =>
      simp only [scan, hnext, ih]
      split
      · rfl
      · split
        · rw [blockAt_shift]
          rfl
        · simp only [List.map_cons, List.map_map]
          rfl

/-- A piece whose line number, if it has one, is a line of a text. -/
def Placed : Piece → Prop
  | line _ => True
  | block b => b.lineno ≠ 0
  | openEnd n _ => n ≠ 0

theorem placed_of_mem_scan {c : Component} {p : Piece} {ls : List Text} :
    ∀ {limit lineno skip}, lineno ≠ 0 → p ∈ scan c limit lineno skip ls → p.Placed := by
  induction ls with
  | nil =>
    intro limit lineno skip _ h
    cases h
  | cons l rest ih =>
    intro limit lineno skip hpos h
    cases skip with
    | succ n => exact ih (Nat.succ_ne_zero _) h
    | zero =>
      simp only [scan] at h
      split at h
      · rcases List.mem_cons.mp h with rfl | h
        · trivial
        · exact ih (Nat.succ_ne_zero _) h
      · split at h
        · rcases List.mem_cons.mp h with rfl | h
          · exact hpos
          · exact ih (Nat.succ_ne_zero _) h
        · rcases List.mem_cons.mp h with rfl | h
          · exact hpos
          · obtain ⟨t, -, rfl⟩ := List.mem_map.mp h
            trivial

theorem placed_of_mem_ofText {c : Component} {t : Text} {p : Piece} (h : p ∈ ofText c t) :
    p.Placed :=
  placed_of_mem_scan Nat.one_ne_zero h

end Piece

namespace Rendering

theorem pieces_shift {ps : List Piece} (h : ∀ p ∈ ps, p.Placed) (ctx : Context) :
    pieces (ps.map (Piece.shift k)) (ctx.shift k) =
      ((pieces ps ctx).1, (pieces ps ctx).2.shift k) := by
  induction ps generalizing ctx with
  | nil => rfl
  | cons p ps ih =>
    obtain ⟨hp, hrest⟩ := List.forall_mem_cons.mp h
    cases p with
    | line t => simp only [List.map_cons, Piece.shift, pieces, ih hrest]
    | openEnd n l => simp only [List.map_cons, Piece.shift, pieces, ih hrest]
    | block b =>
      simp only [List.map_cons, Piece.shift, pieces, ctx.hand_shift hp, ih hrest]

end Rendering

end BlockMarkup
