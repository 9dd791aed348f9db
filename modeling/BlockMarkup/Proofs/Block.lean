import BlockMarkup.Block

/-!
# What blocks say

A block reports on the lines that set its options and on the values they set, and on nothing else
(`Block.of_mem_reports`). What it says does not depend on where it stands: blocks with the same
content have the same HTML (`Alike.html_eq`) and the same reports but for their line numbers
(`Alike.gist_reports`).
-/

namespace BlockMarkup

open Text

/-! ## Reports on options -/

namespace Problem

/-- Whether it is a problem of the options of a block. -/
def isOption : Problem → Bool
  | malformedOption | unknownOption _ | duplicateOption _ | unexpectedValue _ _ => true
  | unterminatedBlock | strayCloser | unknownComponent _ => false

/-- Whether it is a problem of one option line. -/
def isOptionLine : Problem → Bool
  | malformedOption | unknownOption _ | duplicateOption _ => true
  | unexpectedValue _ _ | unterminatedBlock | strayCloser | unknownComponent _ => false

theorem isOption_of_isOptionLine {p : Problem} (h : p.isOptionLine) : p.isOption := by
  cases p with
  | malformedOption | unknownOption | duplicateOption => rfl
  | unexpectedValue | unterminatedBlock | strayCloser | unknownComponent => cases h

end Problem

namespace OptionReader

variable (r : OptionReader)

theorem of_mem_settingReports {offset : Nat} {above : Options} {line key : Text} {d : Diagnostic}
    (hd : d ∈ r.settingReports offset above line key) :
    ∃ p : Problem, p.isOptionLine ∧ d = r.report offset line p := by
  unfold settingReports at hd
  rcases List.mem_append.mp hd with hd | hd
  · split at hd
    · cases hd
    · exact ⟨_, rfl, List.mem_singleton.mp hd⟩
  · split at hd
    · exact ⟨_, rfl, List.mem_singleton.mp hd⟩
    · cases hd

/-- Every report is on a line that is not blank, and counts the lines above it. -/
theorem of_mem_readLines {ls : List Text} {offset : Nat} {above : Options} {d : Diagnostic}
    (hd : d ∈ (r.readLines offset above ls).2) :
    ∃ j l p, ls[j]? = some l ∧ l.all isBlank = false ∧ Problem.isOptionLine p ∧
      d = r.report (offset + j) l p := by
  induction ls generalizing offset above with
  | nil => cases hd
  | cons l ls ih =>
    have hbelow : ∀ above, d ∈ (r.readLines (offset + 1) above ls).2 →
        ∃ j m p, (l :: ls)[j]? = some m ∧ m.all isBlank = false ∧ Problem.isOptionLine p ∧
          d = r.report (offset + j) m p := by
      intro above hd
      obtain ⟨j, m, p, hm, hblank, hp, rfl⟩ := ih hd
      refine ⟨j + 1, m, p, hm, hblank, hp, ?_⟩
      rw [Nat.add_assoc, Nat.add_comm 1]
    simp only [readLines] at hd
    split at hd
    · exact hbelow _ hd
    · next hblank =>
      have hself : l.all isBlank = false := by simpa using hblank
      split at hd
      · rcases List.mem_cons.mp hd with rfl | hd
        · exact ⟨0, l, .malformedOption, rfl, hself, rfl, rfl⟩
        · exact hbelow _ hd
      · rcases List.mem_append.mp hd with hd | hd
        · obtain ⟨p, hp, rfl⟩ := r.of_mem_settingReports hd
          exact ⟨0, l, p, rfl, hself, hp, rfl⟩
        · exact hbelow _ hd

end OptionReader

namespace Block

variable {b : Block} {d : Diagnostic}

theorem knownLine_of_ne_zero {n : Nat} (h : n ≠ 0) : knownLine n = some (n : Int) := if_neg h

/-- Every report is on a line that sets options or on a value that one of them sets. -/
theorem of_mem_reports (hd : d ∈ b.reports) :
    d.component = some b.component.keyword ∧ b.settingLines.1 ≠ [] ∧
      ((∃ (j : Nat) (l : Text), (lines (unlines b.settingLines.1))[j]? = some l ∧
          d.problem.isOptionLine ∧
          d.lineno = (knownLine b.settingLines.2).map (· + (j : Int)) ∧ d.line = trim l) ∨
        ((∃ key allowed, d.problem = .unexpectedValue key allowed) ∧
          d.lineno = knownLine b.settingLines.2)) := by
  unfold reports at hd
  rcases List.mem_append.mp hd with hd | hd
  · obtain ⟨j, l, p, hl, hblank, hp, rfl⟩ := b.reader.of_mem_readLines hd
    refine ⟨rfl, fun hnil => ?_, .inl ⟨j, l, hl, hp, ?_, rfl⟩⟩
    · rw [hnil] at hl
      have hmem : l ∈ [[]] := List.mem_of_getElem? hl
      rw [List.mem_singleton.mp hmem] at hblank
      cases hblank
    · rw [OptionReader.report, Nat.zero_add]
      rfl
  · obtain ⟨⟨key, allowed⟩, -, hchoice⟩ := List.mem_filterMap.mp hd
    unfold choiceReport? at hchoice
    split at hchoice
    · cases hchoice
    · next v hv =>
      split at hchoice
      · cases hchoice
      · cases hchoice
        refine ⟨rfl, fun hnil => ?_, .inr ⟨⟨key, allowed, rfl⟩, rfl⟩⟩
        rw [hnil] at hv
        cases hv

theorem isOption_of_mem_reports (hd : d ∈ b.reports) : d.problem.isOption := by
  obtain ⟨-, -, ⟨j, l, -, hp, -⟩ | ⟨⟨key, allowed, hp⟩, -⟩⟩ := of_mem_reports hd
  · exact Problem.isOption_of_isOptionLine hp
  · rw [hp]
    rfl

end Block

/-! ## Blocks in another place -/

/-- What a report says, its place aside: the component, the reason and the quoted line. -/
def Diagnostic.gist (d : Diagnostic) : Option Text × Text × Text :=
  (d.component, d.problem.message, d.line)

namespace OptionReader

/-- Readers for the same keys in the name of the same component. -/
structure Alike (r s : OptionReader) : Prop where
  known : r.known = s.known
  component : r.component = s.component

variable {r s : OptionReader}

theorem Alike.gist_report (h : Alike r s) (offset : Nat) (line : Text) (p : Problem) :
    (r.report offset line p).gist = (s.report offset line p).gist := by
  simp [Diagnostic.gist, report, h.component]

theorem Alike.gist_settingReports (h : Alike r s) (offset : Nat) (above : Options) (line key : Text) :
    (r.settingReports offset above line key).map Diagnostic.gist =
      (s.settingReports offset above line key).map Diagnostic.gist := by
  unfold settingReports
  rw [h.known]
  split <;> split <;> simp [h.gist_report]

theorem Alike.readLines (h : Alike r s) (ls : List Text) (offset : Nat) (above : Options) :
    (r.readLines offset above ls).1 = (s.readLines offset above ls).1 ∧
      (r.readLines offset above ls).2.map Diagnostic.gist =
        (s.readLines offset above ls).2.map Diagnostic.gist := by
  induction ls generalizing offset above with
  | nil => exact ⟨rfl, rfl⟩
  | cons l ls ih =>
    simp only [OptionReader.readLines]
    split
    · exact ih _ _
    · split
      · obtain ⟨ho, hds⟩ := ih (offset + 1) above
        exact ⟨ho, by simp [h.gist_report, hds]⟩
      · next key v _ =>
        obtain ⟨ho, hds⟩ := ih (offset + 1) (above.set key v)
        exact ⟨ho, by simp [h.gist_settingReports, hds]⟩

end OptionReader

namespace Block

/-- Blocks with the same content. -/
structure Alike (a b : Block) : Prop where
  component : a.component = b.component
  title : a.title = b.title
  optionLines : a.optionLines = b.optionLines
  body : a.body = b.body

variable {a b : Block}

theorem Alike.settingLines (h : Alike a b) : a.settingLines.1 = b.settingLines.1 := by
  unfold Block.settingLines hasHeaderOption
  rw [h.component, h.title, h.optionLines, h.body]
  split
  · rfl
  · split <;> rfl

theorem Alike.reader (h : Alike a b) : OptionReader.Alike a.reader b.reader :=
  ⟨by simp [Block.reader, h.component], by simp [Block.reader, h.component]⟩

theorem Alike.options (h : Alike a b) : a.options = b.options := by
  rw [Block.options, Block.options, h.settingLines]
  exact (h.reader.readLines _ _ _).1

theorem Alike.html_eq (h : Alike a b) (pictograms : Text) (number : Nat) :
    a.html pictograms number = b.html pictograms number := by
  unfold html htmlWith hasHeaderOption
  rw [h.options, h.component, h.title, h.body]

theorem Alike.gist_choiceReport? (h : Alike a b) (o : Options) (choice : Text × List Text) :
    (a.choiceReport? o choice).map Diagnostic.gist =
      (b.choiceReport? o choice).map Diagnostic.gist := by
  unfold choiceReport?
  split
  · rfl
  · split
    · rfl
    · simp [Diagnostic.gist, h.component]

theorem Alike.gist_reports (h : Alike a b) :
    a.reports.map Diagnostic.gist = b.reports.map Diagnostic.gist := by
  obtain ⟨ho, hds⟩ := h.reader.readLines (lines (unlines b.settingLines.1)) 0 .empty
  unfold reports OptionReader.read
  rw [h.settingLines, h.component, List.map_append, List.map_append, hds, ho, List.map_filterMap,
    List.map_filterMap]
  simp only [h.gist_choiceReport?]

end Block

end BlockMarkup
