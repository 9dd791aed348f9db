import BlockMarkup.Proofs.Options.Reading

/-!
# Options written and read again

What is read is plain (`Options.plain_read`): the settings of option lines are, and reading adds no
others. Plain options are written as their lines, each of which is read as the setting it was written
for (`Setting.ofLines_toText`). So there is a setting for every key and a key for every setting, and
nothing is left to report (`OptionReader.snd_read_eq_nil`).
-/

namespace BlockMarkup

open Text

namespace Options

/-- Options that can be written: a key and a value on a line, from which both are read again. -/
def Plain (o : Options) : Prop := ∀ s ∈ o.entries, s.Plain

variable {o : Options}

theorem mem_of_mem_ofSettings {es : List Setting} {s : Setting} (h : s ∈ (ofSettings es).entries) :
    s ∈ es := by
  induction es using List.reverseRecOn with
  | nil => cases h
  | append_singleton es e ih =>
    rw [ofSettings_append_singleton] at h
    rcases Entries.mem_put h with rfl | h
    · simp
    · exact List.mem_append_left _ (ih h)

/-- Different keys stay in their order, each with its value. -/
theorem entries_ofSettings {es : List Setting} (h : (es.map Prod.fst).Nodup) :
    (ofSettings es).entries = es := by
  induction es using List.reverseRecOn with
  | nil => rfl
  | append_singleton es e ih =>
    rw [List.map_append, List.nodup_append] at h
    obtain ⟨hes, -, hdisjoint⟩ := h
    rw [ofSettings_append_singleton]
    show Entries.put e.1 e.2 (ofSettings es).entries = _
    rw [ih hes, Entries.put_of_notMem]
    intro hmem
    exact hdisjoint _ hmem _ (List.mem_singleton_self _) rfl

theorem eq_of_entries {o p : Options} (h : o.entries = p.entries) : o = p := by
  cases o
  cases p
  cases h
  rfl

theorem ofSettings_entries (o : Options) : ofSettings o.entries = o :=
  eq_of_entries (entries_ofSettings o.nodup_keys)

theorem plain_read (r : OptionReader) (t : Text) : (r.read t).1.Plain := by
  intro s hs
  rw [r.fst_read] at hs
  obtain ⟨l, -, hl⟩ := List.mem_filterMap.mp (mem_of_mem_ofSettings hs)
  exact Setting.plain_of_ofLine? hl

theorem Plain.lines_toText (h : o.Plain) (hne : o.entries ≠ []) :
    lines o.toText = o.entries.map Setting.toLine := by
  rw [toText, lines_unlines (by simpa using hne), flatMap_lines_eq_self]
  intro l hl
  obtain ⟨s, hs, rfl⟩ := List.mem_map.mp hl
  exact Setting.newline_notMem_toLine (h s hs)

/-- The lines of plain options set what the options hold, and nothing else. -/
theorem Plain.ofLines_toText (h : o.Plain) : Setting.ofLines (lines o.toText) = o.entries := by
  by_cases hnil : o.entries = []
  · rw [toText, hnil]
    rfl
  · have hlines : ∀ s ∈ o.entries, (Setting.ofLine? ∘ Setting.toLine) s = some s :=
      fun s hs => Setting.ofLine?_toLine (h s hs)
    rw [h.lines_toText hnil, Setting.ofLines, List.filterMap_map, List.filterMap_congr hlines,
      List.filterMap_some]

theorem Plain.blank_or_isLine (h : o.Plain) {l : Text} (hl : l ∈ lines o.toText) :
    l.all isBlank || Setting.isLine l := by
  by_cases hnil : o.entries = []
  · rw [toText, hnil] at hl
    obtain rfl := List.mem_singleton.mp hl
    rfl
  · rw [h.lines_toText hnil] at hl
    obtain ⟨s, hs, rfl⟩ := List.mem_map.mp hl
    simp [Setting.isLine, Setting.ofLine?_toLine (h s hs)]

end Options

namespace OptionReader

/-- Nothing is reported on blank lines and option lines with known and different keys. -/
theorem snd_read_eq_nil {r : OptionReader} {t : Text}
    (hlines : ∀ l ∈ lines t, l.all isBlank || Setting.isLine l)
    (hknown : ∀ s ∈ Setting.ofLines (lines t), r.knows s.1)
    (hkeys : ((Setting.ofLines (lines t)).map Prod.fst).Nodup) : (r.read t).2 = [] := by
  have hmalformed := filter_isMalformed_eq_nil (r := r) hlines
  have hunknown : (r.read t).2.filter (·.problem.isUnknown) = [] := by
    rw [read, r.filter_readLines _ _ _ r.filter_isUnknown_lineReports, List.filterMap_eq_nil_iff]
    rintro ⟨l, j⟩ hl
    cases hs : Setting.ofLine? l with
    | none => simp [unknownReport?, hs]
    | some s =>
      have hmem : s ∈ Setting.ofLines (lines t) :=
        List.mem_filterMap.mpr ⟨l, List.fst_mem_of_mem_zipIdx hl, hs⟩
      simp [unknownReport?, hs, hknown s hmem]
  have hduplicate : (r.read t).2.countP (·.problem.isDuplicate) = 0 := by
    have hcount := r.countP_readLines 0 .empty (lines t)
    rw [← read, fst_read] at hcount
    have hlength : (Options.ofSettings (Setting.ofLines (lines t))).keys.length =
        (Setting.ofLines (lines t)).length := by
      rw [Options.keys, Options.entries_ofSettings hkeys, Entries.keys, List.length_map]
    have hempty : Options.empty.keys.length = 0 := rfl
    omega
  -- A report on a line is of one of the three kinds.
  refine List.eq_nil_iff_forall_not_mem.mpr fun d hd => ?_
  have hm := List.filter_eq_nil_iff.mp hmalformed d hd
  have hu := List.filter_eq_nil_iff.mp hunknown d hd
  have hdup := List.countP_eq_zero.mp hduplicate d hd
  obtain ⟨j, l, p, -, -, hp, rfl⟩ := r.of_mem_readLines hd
  cases p with
  | malformedOption => exact hm rfl
  | unknownOption => exact hu rfl
  | duplicateOption => exact hdup rfl
  | unexpectedValue | unterminatedBlock | strayCloser | unknownComponent => cases hp

/-- Plain options are read as they were written. -/
theorem read_toText {r : OptionReader} {o : Options} (h : o.Plain) (hknown : r.known = none) :
    r.read o.toText = (o, []) := by
  refine Prod.ext ?_ ?_
  · rw [fst_read, h.ofLines_toText, Options.ofSettings_entries]
  · refine snd_read_eq_nil (fun l => h.blank_or_isLine) (fun s _ => ?_) ?_
    · rw [knows, hknown]
      rfl
    · rw [h.ofLines_toText]
      exact o.nodup_keys

variable (component : Option Text) (firstLine : Option Int)

/-- Just the plain options come back when they are written and read. What was read is plain, so it comes
back. -/
theorem read_toText_eq_iff (o : Options) (r : OptionReader) (t : Text) :
    ((⟨none, component, firstLine⟩ : OptionReader).read o.toText = (o, []) ↔ o.Plain) ∧
      (r.read t).1.Plain ∧
      (⟨none, component, firstLine⟩ : OptionReader).read (r.read t).1.toText =
        ((r.read t).1, []) := by
  have hread := Options.plain_read r t
  refine ⟨⟨fun h => ?_, fun h => read_toText h rfl⟩, hread, read_toText hread rfl⟩
  have hplain := Options.plain_read ⟨none, component, firstLine⟩ o.toText
  rwa [h] at hplain

end OptionReader

end BlockMarkup
