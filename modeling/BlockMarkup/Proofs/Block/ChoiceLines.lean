import BlockMarkup.Proofs.Options.Places

/-!
# The lines of values outside a choice

Choices are checked when the option lines have been read into a mapping, where a key has the value of the
last line that sets it (`Setting.exists_setsLast`) and no line is known any more. So a report on a choice
shows the value of that line, but has the number of the first line, whichever line is to blame
(`Component.choices_reported_at_first_line`). The number is right just for a value that is set on the first
line and on no other.
-/

namespace BlockMarkup

open Text

/-! ## The last line that sets a key -/

namespace Setting

/-- The line at an index sets a key, and no line below it does. -/
structure SetsLast (ls : List Text) (j : Nat) (key : Text) (v : OptionValue) : Prop where
  sets : ls[j]?.bind ofLine? = some (key, v)
  below : ∀ i, j < i → keyAt? ls i ≠ some key

variable {ls : List Text} {l key : Text} {v : OptionValue} {j : Nat}

theorem keyAt?_append_length (ls : List Text) (l : Text) :
    keyAt? (ls ++ [l]) ls.length = (ofLine? l).map Prod.fst :=
  keyAt?_eq (by simp)

theorem keyAt?_of_length_le (h : ls.length ≤ j) : keyAt? ls j = none := by
  rw [keyAt?, List.getElem?_eq_none h]
  rfl

theorem SetsLast.keyAt?_eq (h : SetsLast ls j key v) : keyAt? ls j = some key := by
  rw [keyAt?, h.sets, Option.map_some]

/-- One more line is the last that sets its key. -/
theorem setsLast_append_self (ls : List Text) (h : ofLine? l = some (key, v)) :
    SetsLast (ls ++ [l]) ls.length key v := by
  refine ⟨by simp [h], fun i hi => ?_⟩
  have hend : (ls ++ [l]).length ≤ i := by
    rw [List.length_append]
    exact hi
  rw [keyAt?_of_length_le hend]
  simp

/-- One more line that does not set the key changes nothing. -/
theorem SetsLast.append (h : SetsLast ls j key v) (hl : (ofLine? l).map Prod.fst ≠ some key) :
    SetsLast (ls ++ [l]) j key v := by
  have hj : j < ls.length := by
    by_contra hle
    have hkey := h.keyAt?_eq
    rw [keyAt?_of_length_le (Nat.le_of_not_lt hle)] at hkey
    cases hkey
  refine ⟨by rw [List.getElem?_append_left hj]; exact h.sets, fun i hi => ?_⟩
  rcases Nat.lt_trichotomy i ls.length with hlt | rfl | hgt
  · have hbelow := h.below i hi
    rwa [keyAt?, List.getElem?_append_left hlt]
  · rwa [keyAt?_append_length]
  · have hend : (ls ++ [l]).length ≤ i := by
      rw [List.length_append]
      exact hgt
    rw [keyAt?_of_length_le hend]
    simp

/-- The value of a key is that of the last line that sets it. -/
theorem exists_setsLast (h : (Options.ofSettings (ofLines ls)).get? key = some v) :
    ∃ j, SetsLast ls j key v := by
  induction ls using List.reverseRecOn with
  | nil => cases h
  | append_singleton ls l ih =>
    rw [Options.get?_ofSettings] at h ih
    rw [ofLines, List.filterMap_append, List.reverse_append] at h
    cases hl : ofLine? l with
    | none =>
      obtain ⟨j, hj⟩ := ih (by simpa [hl, ofLines] using h)
      exact ⟨j, hj.append (by simp [hl])⟩
    | some s =>
      rw [List.filterMap_cons_some hl, List.filterMap_nil, List.reverse_singleton,
        List.singleton_append, List.lookup_cons] at h
      by_cases hkey : key = s.1
      · subst hkey
        rw [BEq.rfl] at h
        obtain rfl : s.2 = v := Option.some.inj h
        exact ⟨ls.length, setsLast_append_self ls hl⟩
      · rw [beq_eq_false_iff_ne.mpr hkey] at h
        obtain ⟨j, hj⟩ := ih h
        refine ⟨j, hj.append ?_⟩
        rw [hl, Option.map_some, ne_eq, Option.some.injEq]
        exact Ne.symm hkey

end Setting

namespace OptionReader

/-- Lines that are joined set what they set one by one. -/
theorem fst_read_unlines (r : OptionReader) {ls : List Text} (hflat : ∀ l ∈ ls, '\n' ∉ l) :
    (r.read (unlines ls)).1 = Options.ofSettings (Setting.ofLines ls) := by
  rw [fst_read]
  by_cases hne : ls = []
  · subst hne
    rfl
  · rw [lines_unlines hne, flatMap_lines_eq_self hflat]

end OptionReader

/-! ## Reports of a component on lines -/

namespace Component

/-- Reads lines that set options of the component, the first of which has a number. -/
def readerAt (c : Component) (n : Nat) : OptionReader :=
  ⟨some c.keys, some c.keyword, Block.knownLine n⟩

/-- The report on a value that is not among those its key accepts. -/
def choiceReport? (c : Component) (n : Nat) (o : Options) (choice : Text × List Text) :
    Option Diagnostic :=
  match o.get? choice.1 with
  | none => none
  | some v =>
    if choice.2.any (fun t => v = .text t) then none
    else some ⟨choice.1 ++ ": " ++ Block.shownValue v, .unexpectedValue choice.1 choice.2,
      Block.knownLine n, some c.keyword, none⟩

/-- The reports of a component on lines that set options. -/
def reportsOn (c : Component) (ls : List Text) (n : Nat) : List Diagnostic :=
  ((c.readerAt n).read (unlines ls)).2 ++
    c.choices.filterMap (c.choiceReport? n ((c.readerAt n).read (unlines ls)).1)

/-- A block reports on the lines that set its options. -/
theorem reports_eq_reportsOn (b : Block) :
    b.reports = b.component.reportsOn b.settingLines.1 b.settingLines.2 := rfl

variable {c : Component} {ls : List Text} {n : Nat} {d : Diagnostic} {key : Text} {allowed : List Text}

/-- A report on a choice shows the value of the last line that sets the key. -/
theorem exists_setsLast_of_mem_reportsOn (hflat : ∀ l ∈ ls, '\n' ∉ l) (hd : d ∈ c.reportsOn ls n)
    (hp : d.problem = .unexpectedValue key allowed) :
    ∃ j v, Setting.SetsLast ls j key v ∧ (∀ t ∈ allowed, v ≠ .text t) ∧
      d.line = key ++ ": " ++ Block.shownValue v ∧ d.lineno = Block.knownLine n := by
  rcases List.mem_append.mp hd with hd | hd
  · obtain ⟨j, l, p, -, -, hline, rfl⟩ := OptionReader.of_mem_readLines _ hd
    rw [show p = .unexpectedValue key allowed from hp] at hline
    cases hline
  · obtain ⟨choice, -, hchoice⟩ := List.mem_filterMap.mp hd
    rw [OptionReader.fst_read_unlines _ hflat] at hchoice
    unfold choiceReport? at hchoice
    split at hchoice
    · cases hchoice
    · next v hv =>
      split at hchoice
      · cases hchoice
      · next hout =>
        cases hchoice
        obtain ⟨rfl, rfl⟩ := Problem.unexpectedValue.inj hp
        obtain ⟨j, hj⟩ := Setting.exists_setsLast hv
        exact ⟨j, v, hj, by simpa using hout, rfl, rfl⟩

/-- A report on a choice shows the value of the last line that sets the key, and has the number of the
first line. That is the number of the line it is about if and only if the two are one. -/
theorem choices_reported_at_first_line (c : Component) {ls : List Text} {n : Nat}
    (hflat : ∀ l ∈ ls, '\n' ∉ l) (hn : 1 ≤ n) :
    (∀ b : Block, b.component = c → b.settingLines = (ls, n) → b.reports = c.reportsOn ls n) ∧
      ∀ d ∈ c.reportsOn ls n, ∀ key allowed, d.problem = .unexpectedValue key allowed →
        ∃ j v, Setting.SetsLast ls j key v ∧ (∀ t ∈ allowed, v ≠ .text t) ∧
          d.line = key ++ ": " ++ Block.shownValue v ∧ d.lineno = some (n : Int) ∧
          (d.lineno = some ((n + j : Nat) : Int) ↔ j = 0) := by
  constructor
  · intro b hb hlines
    rw [reports_eq_reportsOn, hb, hlines]
  · intro d hd key allowed hp
    obtain ⟨j, v, hj, hout, hline, hnumber⟩ := exists_setsLast_of_mem_reportsOn hflat hd hp
    rw [Block.knownLine_of_ne_zero (by omega)] at hnumber
    refine ⟨j, v, hj, hout, hline, hnumber, ?_⟩
    rw [hnumber, Option.some.injEq]
    omega

theorem choices_reported_at_first_line_alert :
    let ls : List Text := ["markup: h5", "type: info", "type: danger"]
    let d : Diagnostic := ⟨"type: danger",
      .unexpectedValue "type" ["info".toList, "success".toList, "warning".toList, "error".toList],
      some 2, some "alert".toList, none⟩
    (∀ l ∈ ls, '\n' ∉ l) ∧ 1 ≤ 2 ∧ d ∈ Component.alert.reportsOn ls 2 ∧
      ∃ j v, Setting.SetsLast ls j "type" v ∧ d.line = "type: " ++ Block.shownValue v ∧
        d.lineno = some 2 ∧ (d.lineno = some ((2 + j : Nat) : Int) ↔ j = 0) := by
  intro ls d
  have hflat : ∀ l ∈ ls, '\n' ∉ l := by decide
  have hd : d ∈ Component.alert.reportsOn ls 2 := by decide
  obtain ⟨-, hreports⟩ := choices_reported_at_first_line .alert hflat (n := 2) (by decide)
  obtain ⟨j, v, hj, -, hline, hnumber⟩ := hreports d hd _ _ rfl
  exact ⟨hflat, by decide, hd, j, v, hj, hline, hnumber⟩

theorem not_choices_reported_in_place :
    ¬ ∀ (c : Component) (ls : List Text) (n : Nat), (∀ l ∈ ls, '\n' ∉ l) → 1 ≤ n →
      ∀ d ∈ c.reportsOn ls n, ∀ key allowed, d.problem = .unexpectedValue key allowed →
        ∃ j v, Setting.SetsLast ls j key v ∧ d.lineno = some ((n + j : Nat) : Int) := by
  intro h
  obtain ⟨j, v, hj, hnumber⟩ := h .alert ["markup: h5", "type: danger"] 2 (by decide) (by decide)
    ⟨"type: danger",
      .unexpectedValue "type" ["info".toList, "success".toList, "warning".toList, "error".toList],
      some 2, some "alert".toList, none⟩ (by decide) _ _ rfl
  obtain rfl : j = 0 := by
    have := Option.some.inj hnumber
    omega
  -- The first line sets another key.
  have hkey : Setting.keyAt? ["markup: h5", "type: danger"] 0 = some "type" := hj.keyAt?_eq
  exact absurd hkey (by decide)

end Component

end BlockMarkup
