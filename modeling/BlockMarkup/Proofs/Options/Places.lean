import BlockMarkup.Proofs.Options.Reading

/-!
# The lines that readers reject

A report on an option line stands at a line that gives cause for it (`OptionReader.Rejects`): the line is
neither blank nor an option line, or it sets a key that is not known, or one that a line above it sets.
The reader keeps no lines, only the options above. That these are the settings of the lines above is what
the induction over the lines carries (`exists_rejects_of_mem_readLines`).

A cause stays one where the lines stand further down, and blanks in front of a line do not count
(`Rejects.shift`).
-/

namespace BlockMarkup

open Text

/-! ## The keys that lines set -/

namespace Setting

/-- The key that the line at an index sets. -/
def keyAt? (ls : List Text) (i : Nat) : Option Text := (ls[i]?.bind ofLine?).map Prod.fst

variable {ls : List Text} {l key : Text} {i : Nat}

theorem keyAt?_eq (h : ls[i]? = some l) : keyAt? ls i = (ofLine? l).map Prod.fst := by
  rw [keyAt?, h, Option.bind_some]

theorem mem_keys_ofLines_iff :
    key ∈ (Options.ofSettings (ofLines ls)).keys ↔ ∃ i < ls.length, keyAt? ls i = some key := by
  rw [Options.keys_ofSettings, List.mem_eraseDups, List.mem_map]
  constructor
  · rintro ⟨s, hs, rfl⟩
    obtain ⟨l, hl, hset⟩ := List.mem_filterMap.mp hs
    obtain ⟨i, hi⟩ := List.mem_iff_getElem?.mp hl
    exact ⟨i, (List.getElem?_eq_some_iff.mp hi).1, by rw [keyAt?_eq hi, hset, Option.map_some]⟩
  · rintro ⟨i, hi, hkey⟩
    rw [keyAt?_eq (List.getElem?_eq_getElem hi), Option.map_eq_some_iff] at hkey
    obtain ⟨s, hs, rfl⟩ := hkey
    exact ⟨s, List.mem_filterMap.mpr ⟨_, List.getElem_mem hi, hs⟩, rfl⟩

end Setting

/-! ## Causes of reports -/

namespace OptionReader

/-- Whether a line gives cause for a report. -/
def Rejects (r : OptionReader) (ls : List Text) (j : Nat) : Problem → Prop
  | .malformedOption => ∃ l, ls[j]? = some l ∧ l.all isBlank = false ∧ Setting.ofLine? l = none
  | .unknownOption key => Setting.keyAt? ls j = some key ∧ r.knows key = false
  | .duplicateOption key =>
    Setting.keyAt? ls j = some key ∧ ∃ i < j, Setting.keyAt? ls i = some key
  | .unexpectedValue _ _ | .unterminatedBlock | .strayCloser | .unknownComponent _ => False

variable {r : OptionReader} {d : Diagnostic}

theorem after_ofLines (above : List Text) (l : Text) :
    after (Options.ofSettings (Setting.ofLines above)) l =
      Options.ofSettings (Setting.ofLines (above ++ [l])) := by
  rw [after, Setting.ofLines, Setting.ofLines, List.filterMap_append]
  cases h : Setting.ofLine? l with
  | none => simp [h]
  | some s => simp [h, Options.ofSettings_append_singleton]

theorem rejects_of_mem_lineReports {above : List Text} {l : Text} (ls : List Text)
    (hd : d ∈ r.lineReports above.length (Options.ofSettings (Setting.ofLines above)) l) :
    r.Rejects (above ++ l :: ls) above.length d.problem ∧ d = r.report above.length l d.problem := by
  have hself : (above ++ l :: ls)[above.length]? = some l := by simp
  unfold lineReports at hd
  split at hd
  · cases hd
  · next hblank =>
    split at hd
    · next hset =>
      rw [List.mem_singleton.mp hd]
      exact ⟨⟨l, hself, by simpa using hblank, hset⟩, rfl⟩
    · next s hset =>
      have hkey : Setting.keyAt? (above ++ l :: ls) above.length = some s.1 := by
        rw [Setting.keyAt?_eq hself, hset, Option.map_some]
      rw [settingReports_eq] at hd
      rcases List.mem_append.mp hd with hd | hd
      · split at hd
        · cases hd
        · next hknown =>
          rw [List.mem_singleton.mp hd]
          exact ⟨⟨hkey, by simpa using hknown⟩, rfl⟩
      · split at hd
        · next hcontains =>
          have hmem : s.1 ∈ (Options.ofSettings (Setting.ofLines above)).keys := by
            simpa [Options.contains] using hcontains
          obtain ⟨i, hi, habove⟩ := Setting.mem_keys_ofLines_iff.mp hmem
          rw [List.mem_singleton.mp hd]
          refine ⟨⟨hkey, i, hi, ?_⟩, rfl⟩
          rw [← habove, Setting.keyAt?, Setting.keyAt?, List.getElem?_append_left hi]
        · cases hd

theorem exists_rejects_of_mem_readLines (above : List Text) {ls : List Text}
    (hd : d ∈ (r.readLines above.length (Options.ofSettings (Setting.ofLines above)) ls).2) :
    ∃ j l, (above ++ ls)[j]? = some l ∧ r.Rejects (above ++ ls) j d.problem ∧
      d = r.report j l d.problem := by
  induction ls generalizing above with
  | nil => cases hd
  | cons l ls ih =>
    rw [readLines_cons] at hd
    rcases List.mem_append.mp hd with hd | hd
    · obtain ⟨hreject, hreport⟩ := rejects_of_mem_lineReports ls hd
      exact ⟨above.length, l, by simp, hreject, hreport⟩
    · have hlength : (above ++ [l]).length = above.length + 1 := by simp
      rw [after_ofLines, ← hlength] at hd
      simpa using ih _ hd

/-- A report on an option line stands at a line that gives cause for it, and quotes it. -/
theorem exists_rejects_of_mem_read {t : Text} (hd : d ∈ (r.read t).2) :
    ∃ j l, (lines t)[j]? = some l ∧ r.Rejects (lines t) j d.problem ∧ d = r.report j l d.problem :=
  exists_rejects_of_mem_readLines [] hd

/-! ## The same lines further down -/

/-- Lines that stand further down, up to blanks in front of them. -/
def StandBelow (k : Nat) (us ls : List Text) : Prop :=
  ∀ i u, us[i]? = some u → ∃ l, ls[k + i]? = some l ∧ l.dropWhile isBlank = u.dropWhile isBlank

variable {us ls : List Text} {k j : Nat} {p : Problem}

theorem StandBelow.keyAt? (h : StandBelow k us ls) (hus : ∀ u ∈ us, '\n' ∉ u)
    (hls : ∀ l ∈ ls, '\n' ∉ l) {i : Nat} {key : Text} (hkey : Setting.keyAt? us i = some key) :
    Setting.keyAt? ls (k + i) = some key := by
  cases hu : us[i]? with
  | none => simp [Setting.keyAt?, hu] at hkey
  | some u =>
    obtain ⟨l, hl, hblanks⟩ := h i u hu
    rw [Setting.keyAt?_eq hu] at hkey
    rw [Setting.keyAt?_eq hl, ← hkey,
      Setting.ofLine?_congr (hls l (List.mem_of_getElem? hl)) (hus u (List.mem_of_getElem? hu)) hblanks]

theorem Rejects.shift (h : StandBelow k us ls) (hus : ∀ u ∈ us, '\n' ∉ u) (hls : ∀ l ∈ ls, '\n' ∉ l)
    (hr : r.Rejects us j p) : r.Rejects ls (k + j) p := by
  cases p with
  | malformedOption =>
    obtain ⟨u, hu, hblank, hset⟩ := hr
    obtain ⟨l, hl, hblanks⟩ := h j u hu
    refine ⟨l, hl, ?_, ?_⟩
    · rw [Bool.eq_false_iff, ne_eq, List.all_eq_true, ← List.dropWhile_eq_nil_iff] at hblank ⊢
      rwa [hblanks]
    · rw [← hset]
      exact Setting.ofLine?_congr (hls l (List.mem_of_getElem? hl)) (hus u (List.mem_of_getElem? hu))
        hblanks
  | unknownOption key => exact ⟨h.keyAt? hus hls hr.1, hr.2⟩
  | duplicateOption key =>
    obtain ⟨hkey, i, hi, habove⟩ := hr
    exact ⟨h.keyAt? hus hls hkey, k + i, by omega, h.keyAt? hus hls habove⟩
  | unexpectedValue | unterminatedBlock | strayCloser | unknownComponent => exact hr

end OptionReader

/-! ## Blocks -/

namespace Block

variable {b : Block} {d : Diagnostic}

theorem isOptionLine_of_choiceReport? {o : Options} {choice : Text × List Text}
    (h : b.choiceReport? o choice = some d) : d.problem.isOptionLine = false := by
  unfold choiceReport? at h
  split at h
  · cases h
  · split at h
    · cases h
    · cases h
      rfl

/-- A report of a block on an option line comes from reading the lines that set its options. -/
theorem mem_read_of_mem_reports (hd : d ∈ b.reports) (hp : d.problem.isOptionLine) :
    d ∈ (b.reader.read (unlines b.settingLines.1)).2 := by
  refine (List.mem_append.mp hd).resolve_right fun hchoice => ?_
  obtain ⟨choice, -, hchoice⟩ := List.mem_filterMap.mp hchoice
  rw [isOptionLine_of_choiceReport? hchoice] at hp
  cases hp

end Block

end BlockMarkup
