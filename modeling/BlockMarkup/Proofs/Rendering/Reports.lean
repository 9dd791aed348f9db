import BlockMarkup.Proofs.Document.Shape
import BlockMarkup.Proofs.Rendering.Tidy

/-!
# The reports on a text

Rendering by block structure reports every marker and every block that is not in order, and nothing
else besides options; each report quotes the line of which it gives the number.

1. A block reports on the lines that set its options (`Block.of_mem_reports`). Where its head lies in
   the text, so do these lines (`Opening.LiesAt.getElem?_head`); only the option in the header of a row
   is part of a line (`Block.HeadAt.place_of_mem_reports`).
2. Options aside, the events of a rendering report the closed blocks of unknown components
   (`Forest.filter_events`).
-/

namespace BlockMarkup

open Text Marker Layout

namespace Diagnostic

/-- The report quotes the line of which it gives the number, counted from one. -/
def Quotes (ls : List Text) (d : Diagnostic) : Prop :=
  ∃ i l, ls[i]? = some l ∧ d.lineno = some ((i + 1 : Nat) : Int) ∧ d.line = trim l

/-- The report gives the number of the opener of a row and quotes the option in its header. -/
def QuotesHeader (ls : List Text) (d : Diagnostic) : Prop :=
  ∃ i m, openerAt? ls i = some m ∧ m.keyword = Component.row.keyword ∧ ':' ∈ m.header ∧
    d.lineno = some ((i + 1 : Nat) : Int) ∧ d.line = trim m.header

end Diagnostic

/-! ## Blocks in their place -/

namespace Opening

variable {ls : List Text} {a : Nat} {o : Opening}

theorem LiesAt.getElem?_head (h : o.LiesAt ls a) {j : Nat} {l : Text} (hl : o.head[j]? = some l) :
    ls[a + j]? = some l := by
  have hlt : j < o.head.length := (List.getElem?_eq_some_iff.mp hl).1
  rw [← List.getElem?_drop, h.drop_eq, List.getElem?_append_left hlt, hl]

theorem LiesAt.getElem?_line (h : o.LiesAt ls a) : ls[a]? = some o.line :=
  h.getElem?_head (j := 0) rfl

theorem LiesAt.getElem?_optionLines (h : o.LiesAt ls a) {j : Nat} {l : Text}
    (hl : o.optionLines[j]? = some l) : o.separator.isSome ∧ ls[a + 1 + j]? = some l := by
  have hlt : j < o.optionLines.length := (List.getElem?_eq_some_iff.mp hl).1
  constructor
  · cases hsep : o.separator with
    | some marker => rfl
    | none =>
      rw [(h.unsectioned hsep).1] at hl
      cases hl
  · rw [Nat.add_assoc, Nat.add_comm 1]
    refine h.getElem?_head ?_
    rw [head, List.getElem?_cons_succ, List.getElem?_append_left hlt, hl]

end Opening

/-- A block has its opener in line `a`, and its option lines are those below. -/
structure Block.HeadAt (ls : List Text) (b : Block) (a : Nat) : Prop where
  lineno : b.lineno = a + 1
  optionLines : ∀ j l, b.optionLines[j]? = some l → b.optionsLineno = a + 2 ∧ ls[a + 1 + j]? = some l

namespace Block

variable {ls : List Text} {a : Nat} {b : Block} {d : Diagnostic}

theorem settingLines_of_header (h : b.hasHeaderOption) :
    b.settingLines = (b.title :: b.optionLines, b.lineno) := if_pos h

theorem settingLines_of_not_header (h : ¬ b.hasHeaderOption) (hbadge : b.component ≠ .badge) :
    b.settingLines = ([], 0) ∨ b.settingLines = (b.optionLines, b.optionsLineno) := by
  unfold settingLines
  rw [if_neg h]
  cases hc : b.component with
  | badge => exact absurd hc hbadge
  | col => exact .inl rfl
  | card | tile | row | alert | callout | accordion => exact .inr rfl

namespace HeadAt

theorem optionsLineno_eq (h : b.HeadAt ls a) (hne : b.optionLines ≠ []) : b.optionsLineno = a + 2 := by
  obtain ⟨l, rest, hl⟩ := List.exists_cons_of_ne_nil hne
  exact (h.optionLines 0 l (by rw [hl]; rfl)).1

/-- Lines that set options have a number. -/
theorem settingLines_ne_zero (h : b.HeadAt ls a) (hne : b.settingLines.1 ≠ []) :
    b.settingLines.2 ≠ 0 := by
  have hlineno : b.lineno ≠ 0 := by
    rw [h.lineno]
    exact Nat.succ_ne_zero a
  revert hne
  unfold settingLines
  split
  · exact fun _ => hlineno
  · split
    · exact fun _ => by simp [hlineno]
    · exact fun hne => absurd rfl hne
    · intro hne
      rw [h.optionsLineno_eq hne]
      exact Nat.succ_ne_zero _

theorem isSome_lineno (h : b.HeadAt ls a) (hd : d ∈ b.reports) : d.lineno.isSome := by
  obtain ⟨-, hne, ⟨j, l, -, -, hlineno, -⟩ | ⟨-, hlineno⟩⟩ := of_mem_reports hd
  · rw [hlineno, knownLine_of_ne_zero (h.settingLines_ne_zero hne)]
    rfl
  · rw [hlineno, knownLine_of_ne_zero (h.settingLines_ne_zero hne)]
    rfl

/-- The report on an option line of a block, badges aside, quotes a line of its section or the header of a
row. -/
theorem place_of_mem_reports (h : b.HeadAt ls a) (hls : ∀ l ∈ ls, '\n' ∉ l) (htitle : '\n' ∉ b.title)
    (hbadge : b.component ≠ .badge) (hd : d ∈ b.reports) (hp : d.problem.isOptionLine) :
    (∃ j l, b.optionLines[j]? = some l ∧ d.lineno = some ((a + 1 + j + 1 : Nat) : Int) ∧
        d.line = trim l) ∨
      (b.component = .row ∧ ':' ∈ b.title ∧ d.lineno = some ((a + 1 : Nat) : Int) ∧
        d.line = trim b.title) := by
  have hflat : ∀ l ∈ b.optionLines, '\n' ∉ l := by
    intro l hl
    obtain ⟨j, hj⟩ := List.mem_iff_getElem?.mp hl
    exact hls l (List.mem_of_getElem? (h.optionLines j l hj).2)
  obtain ⟨-, hne, ⟨j, l, hl, -, hlineno, hline⟩ | ⟨⟨key, allowed, hvalue⟩, -⟩⟩ := of_mem_reports hd
  · rw [knownLine_of_ne_zero (h.settingLines_ne_zero hne), Option.map_some] at hlineno
    by_cases hheader : b.hasHeaderOption
    · obtain ⟨hrow, hcolon⟩ : b.component = .row ∧ ':' ∈ b.title := by
        simpa [hasHeaderOption] using hheader
      rw [settingLines_of_header hheader] at hl hlineno
      rw [lines_unlines (List.cons_ne_nil _ _),
        flatMap_lines_eq_self (List.forall_mem_cons.mpr ⟨htitle, hflat⟩)] at hl
      rw [hlineno, h.lineno]
      cases j with
      | zero =>
        obtain rfl := Option.some.inj hl
        exact .inr ⟨hrow, hcolon, by simp, hline⟩
      | succ j => exact .inl ⟨j, l, hl, rfl, hline⟩
    · rcases settingLines_of_not_header hheader hbadge with hsetting | hsetting
      · rw [hsetting] at hne
        exact absurd rfl hne
      · rw [hsetting] at hl hlineno hne
        rw [lines_unlines hne, flatMap_lines_eq_self hflat] at hl
        refine .inl ⟨j, l, hl, ?_, hline⟩
        rw [hlineno, h.optionsLineno_eq hne]
        congr 1
        omega
  · rw [hvalue] at hp
    cases hp

end HeadAt

end Block

namespace Node

variable {ls : List Text} {a : Nat} {n : Node} {cl : Closing} {c : Component}

theorem headAt_block (h : n.opening.LiesAt ls a) (inside : List Text) :
    (n.block c cl inside).HeadAt ls a where
  lineno := h.lineno
  optionLines j l hl := by
    obtain ⟨hsome, hline⟩ := h.getElem?_optionLines hl
    refine ⟨?_, hline⟩
    show n.opening.optionsLineno = a + 2
    rw [Opening.optionsLineno, if_pos hsome, h.lineno]

theorem isSome_lineno_of_mem_reports (h : n.opening.LiesAt ls a) {inside : List Text}
    {d : Diagnostic} (hd : d ∈ (n.block c cl inside).reports) : d.lineno.isSome :=
  (headAt_block h inside).isSome_lineno hd

/-- The report on an option line of a block, badges aside, is on a line of its head. -/
theorem quotes_of_mem_reports (h : n.opening.LiesAt ls a) (hls : ∀ l ∈ ls, '\n' ∉ l)
    (hc : n.opening.component? = some c) (hbadge : c ≠ .badge) {inside : List Text} {d : Diagnostic}
    (hd : d ∈ (n.block c cl inside).reports) (hp : d.problem.isOptionLine) :
    d.Quotes ls ∨ (d.component = some Component.row.keyword ∧ d.QuotesHeader ls) := by
  have hhead : (n.block c cl inside).HeadAt ls a := headAt_block h inside
  have htitle := (Forest.Opening.LiesAt.tidy h hc hls).flat_title
  rcases hhead.place_of_mem_reports hls htitle hbadge hd hp with
    ⟨j, l, hl, hlineno, hline⟩ | ⟨hrow, hcolon, hlineno, hline⟩
  · exact .inl ⟨_, l, (hhead.optionLines j l hl).2, hlineno, hline⟩
  · obtain rfl : c = .row := hrow
    exact .inr ⟨(Block.of_mem_reports hd).1, a, _, h.opener, Opening.component?_eq_some_iff.mp hc,
      hcolon, hlineno, hline⟩

end Node

/-! ## Reports of the events -/

namespace Forest

variable {pictograms : Text} {f : Forest}

/-- The closed blocks of unknown components. -/
def unknownNodes (f : Forest) : List Node := f.preorder.filter Node.isUnknown

/-- Options aside, the events report the closed blocks of unknown components. -/
theorem filter_events (f : Forest) (k : Nat) :
    ((f.events pictograms k).flatMap Event.reports).filter (!·.problem.isOption) =
      f.unknownNodes.map Node.unknownReport := by
  induction f generalizing k with
  | nil => rfl
  | line _ _ f ih => exact ih k
  | block o i c f ihi ihf =>
    have hhanded : ∀ inside, ((Node.handing ⟨o, i, c⟩ k inside).flatMap Event.reports).filter
        (!·.problem.isOption) = [] := by
      intro inside
      refine List.filter_eq_nil_iff.mpr fun d hd => ?_
      obtain ⟨e, he, hd⟩ := List.mem_flatMap.mp hd
      obtain ⟨cl, comp, -, -, rfl⟩ := Node.of_mem_handing he
      simp [Block.isOption_of_mem_reports hd]
    rw [events, Node.announcement_eq, unknownNodes, preorder, List.filter_cons, List.filter_append]
    simp only [List.flatMap_append, List.filter_append, hhanded, ihi, ihf, List.append_nil]
    by_cases hunknown : Node.isUnknown ⟨o, i, c⟩
    · simp [hunknown, Event.reports, Node.unknownReport, Problem.isOption, unknownNodes]
    · simp [hunknown, unknownNodes]

theorem filter_reports_structure (f : Forest) :
    f.reports.filter (!·.problem.isOption) = f.reports := by
  refine List.filter_eq_self.mpr fun d hd => ?_
  rcases List.mem_append.mp hd with hd | hd
  · obtain ⟨c, -, rfl⟩ := List.mem_map.mp hd
    rfl
  · obtain ⟨o, -, rfl⟩ := List.mem_map.mp hd
    rfl

theorem of_mem_reports_events {k : Nat} {d : Diagnostic}
    (hd : d ∈ (f.events pictograms k).flatMap Event.reports) :
    ∃ n ∈ f.preorder, (n.isUnknown ∧ d = n.unknownReport) ∨
      ∃ cl c inside, n.opening.component? = some c ∧ d ∈ (n.block c cl inside).reports := by
  obtain ⟨e, he, hd⟩ := List.mem_flatMap.mp hd
  obtain ⟨n, hn, ⟨hunknown, rfl⟩ | ⟨j, inside, hhanding⟩⟩ := exists_of_mem_events he
  · exact ⟨n, hn, .inl ⟨hunknown, List.mem_singleton.mp hd⟩⟩
  · obtain ⟨cl, c, -, hc, rfl⟩ := Node.of_mem_handing hhanding
    exact ⟨n, hn, .inr ⟨cl, c, inside, hc, hd⟩⟩

theorem quotes_opener {ls : List Text} {a : Nat} {o : Opening} (h : o.LiesAt ls a) (p : Problem)
    (component : Option Text) : (⟨trim o.line, p, some o.lineno, component, none⟩ :
      Diagnostic).Quotes ls :=
  ⟨a, o.line, h.getElem?_line, by rw [h.lineno], rfl⟩

theorem quotes_of_mem_reports_ofText {t : Text} {d : Diagnostic} (hd : d ∈ (ofText t).reports) :
    d.Quotes (lines t) := by
  have hlies := lies_ofText t
  rcases List.mem_append.mp hd with hd | hd
  · obtain ⟨⟨n, l⟩, hc, rfl⟩ := List.mem_map.mp hd
    obtain ⟨i, rfl, -, -, hl, -⟩ := hlies.of_mem_topLines (mem_strays_iff.mp hc).2
    exact ⟨i, l, hl, rfl, rfl⟩
  · obtain ⟨o, ho, rfl⟩ := List.mem_map.mp hd
    obtain ⟨n, hn, rfl, -⟩ := mem_unclosed_iff.mp ho
    obtain ⟨a, e, -, -, hn⟩ := hlies.exists_of_mem_preorder hn
    exact quotes_opener hn.opening _ _

/-- What the reports on a text with these lines and this forest are. -/
structure Reported (ls : List Text) (f : Forest) (ds : List Diagnostic) : Prop where
  numbered : ∀ d ∈ ds, d.lineno.isSome
  sorted : ds.Pairwise fun d e => d.lineno.getD 0 ≤ e.lineno.getD 0
  /-- Options aside, each stray marker, each open block and each closed block of an unknown
  component is reported once. -/
  structural : (ds.filter (!·.problem.isOption)).Perm
    (f.strays.map (fun c => ⟨trim c.line, .strayCloser, some c.lineno, none, none⟩) ++
      f.unclosed.map (fun o =>
        ⟨trim o.line, .unterminatedBlock, some o.lineno, some o.keyword, none⟩) ++
      f.unknownNodes.map Node.unknownReport)
  /-- These reports quote their lines. -/
  structural_quotes : ∀ d ∈ ds, d.problem.isOption = false → d.Quotes ls
  /-- So do the reports on option lines, but for badges and for the option in the header of a row. -/
  option_quotes : ∀ d ∈ ds, d.problem.isOptionLine → d.component ≠ some Component.badge.keyword →
    d.Quotes ls ∨ (d.component = some Component.row.keyword ∧ d.QuotesHeader ls)

end Forest

namespace Diagnostic

theorem pairwise_sort (ds : List Diagnostic) :
    (sort ds).Pairwise fun d e => d.lineno.getD 0 ≤ e.lineno.getD 0 := by
  have hsorted : (sort ds).Pairwise fun d e => d.precedes e = true := by
    refine List.pairwise_mergeSort (fun d e f hde hef => ?_) (fun d e => ?_) ds
    · simp only [precedes, decide_eq_true_eq] at hde hef ⊢
      exact Int.le_trans hde hef
    · simp only [precedes, Bool.or_eq_true, decide_eq_true_eq]
      exact Int.le_total _ _
  exact hsorted.imp of_decide_eq_true

end Diagnostic

namespace Transpiler

/-- Rendering by block structure reports all that is wrong, each report on its line. -/
theorem reports_complete (pictograms separator t : Text) :
    (Forest.ofText t).Reported (lines t) (transpile ⟨.nested, pictograms, separator⟩ t).reports := by
  have hlies := Forest.lies_ofText t
  rw [reports_nested]
  have hperm := List.mergeSort_perm ((Forest.ofText t).reports ++
    ((Forest.ofText t).events pictograms 0).flatMap Event.reports) Diagnostic.precedes
  -- A report is on the structure of the text, on an unknown component or on the options of a block.
  have hcases : ∀ d ∈ Diagnostic.sort ((Forest.ofText t).reports ++
      ((Forest.ofText t).events pictograms 0).flatMap Event.reports),
      d.Quotes (lines t) ∨ ∃ (n : Node) (a : Nat) (cl : Closing) (c : Component)
        (inside : List Text), n.opening.LiesAt (lines t) a ∧ n.opening.component? = some c ∧
          d ∈ (n.block c cl inside).reports := by
    intro d hd
    rcases List.mem_append.mp (hperm.mem_iff.mp hd) with hd | hd
    · exact .inl (Forest.quotes_of_mem_reports_ofText hd)
    · obtain ⟨n, hn, hreport⟩ := Forest.of_mem_reports_events hd
      obtain ⟨a, e, -, -, hn⟩ := hlies.exists_of_mem_preorder hn
      rcases hreport with ⟨-, rfl⟩ | ⟨cl, c, inside, hc, hd⟩
      · exact .inl (Forest.quotes_opener hn.opening _ _)
      · exact .inr ⟨n, a, cl, c, inside, hn.opening, hc, hd⟩
  constructor
  case numbered =>
    intro d hd
    obtain ⟨i, l, -, hlineno, -⟩ | ⟨n, a, cl, c, inside, hn, -, hreport⟩ := hcases d hd
    · rw [hlineno]
      rfl
    · exact Node.isSome_lineno_of_mem_reports hn hreport
  case sorted => exact Diagnostic.pairwise_sort _
  case structural =>
    refine (hperm.filter _).trans ?_
    rw [List.filter_append, Forest.filter_reports_structure, Forest.filter_events]
    exact .refl _
  case structural_quotes =>
    intro d hd hproblem
    obtain hquotes | ⟨n, a, cl, c, inside, -, -, hreport⟩ := hcases d hd
    · exact hquotes
    · rw [Block.isOption_of_mem_reports hreport] at hproblem
      cases hproblem
  case option_quotes =>
    intro d hd hproblem hbadge
    obtain hquotes | ⟨n, a, cl, c, inside, hn, hc, hreport⟩ := hcases d hd
    · exact .inl hquotes
    · refine Node.quotes_of_mem_reports hn (fun l => newline_notMem_of_mem_lines) hc ?_ hreport
        hproblem
      rintro rfl
      exact hbadge (Block.of_mem_reports hreport).1

end Transpiler

end BlockMarkup
