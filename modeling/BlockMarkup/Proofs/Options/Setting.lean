import BlockMarkup.Options.Setting
import BlockMarkup.Proofs.Marker

/-!
# Option lines, read and written

What is read from an option line is plain: a key of key characters, and a switch or a text on one line
without blanks at its ends (`Setting.plain_of_ofLine?`). A plain setting is written on a line from
which it is read again (`Setting.ofLine?_toLine`).
-/

namespace BlockMarkup

open Text Marker

/-! ## Characters of keys -/

theorem Text.toNat_lt_of_isAlphanum {c : Char} (h : c.isAlphanum) : c.toNat < 128 := by
  change ((decide (65 ≤ c.val ∧ c.val ≤ 90) || (decide (97 ≤ c.val) && decide (c.val ≤ 122))) ||
    (decide (48 ≤ c.val) && decide (c.val ≤ 57))) = true at h
  simp only [Bool.or_eq_true, Bool.and_eq_true, decide_eq_true_eq, UInt32.le_iff_toNat_le] at h
  change ((65 ≤ c.toNat ∧ c.toNat ≤ 90) ∨ (97 ≤ c.toNat ∧ c.toNat ≤ 122)) ∨
    (48 ≤ c.toNat ∧ c.toNat ≤ 57) at h
  omega

theorem Text.isBlank_eq_false_of_isKeyChar {c : Char} (h : isKeyChar c) : isBlank c = false := by
  by_contra hc
  have hword := isWordChar_eq_false_of_isBlank (by simpa using hc)
  rw [isWordChar, isAlphanumeric, Bool.or_eq_false_iff] at hword
  rw [isKeyChar, hword.1, Bool.or_false] at h
  rw [if_pos (toNat_lt_of_isAlphanum h), h] at hword
  exact absurd hword.2 (by decide)

/-! ## Values -/

namespace OptionValue

/-- A value that can be written behind a key: a switch, or a text on one line that has no blanks at its
ends and is not the word for a switch. -/
def Plain : OptionValue → Prop
  | .switch _ => True
  | .text t => '\n' ∉ t ∧ trim t = t ∧ t ≠ "true" ∧ t ≠ "false"

variable {t u : Text} {v : OptionValue}

theorem plain_ofText (hflat : '\n' ∉ t) (htrim : trim t = t) : (ofText t).Plain := by
  unfold ofText
  split
  · trivial
  · next htrue =>
    split
    · trivial
    · next hfalse => exact ⟨hflat, htrim, htrue, hfalse⟩

theorem eq_of_ofText (h : ofText t = .text u) : u = t := by
  unfold ofText at h
  split at h
  · cases h
  · split at h
    · cases h
    · exact (OptionValue.text.inj h).symm

/-- A plain value is written as one line without blanks at its ends. -/
theorem Plain.toText (h : v.Plain) : '\n' ∉ v.toText ∧ trim v.toText = v.toText := by
  cases v with
  | switch on => cases on <;> decide
  | text t => exact ⟨h.1, h.2.1⟩

theorem Plain.ofText_toText (h : v.Plain) : ofText v.toText = v := by
  cases v with
  | switch on => cases on <;> decide
  | text t =>
    obtain ⟨-, -, htrue, hfalse⟩ := h
    show ofText t = .text t
    rw [ofText, if_neg htrue, if_neg hfalse]

end OptionValue

/-! ## Lines -/

namespace Setting

/-- A setting that can be written on a line. -/
structure Plain (s : Setting) : Prop where
  named : s.1 ≠ []
  key : ∀ c ∈ s.1, isKeyChar c
  value : s.2.Plain

variable {l t u : Text} {s : Setting}

theorem value?_of_flat (h : '\n' ∉ t) : value? t = if t.isEmpty then none else some (trim t) := by
  unfold value?
  rw [lines_eq_singleton h]
  simp

/-- Blanks over several lines and then a line: the last line has the last of the blanks in front. -/
theorem value?_append {gap value : Text} (hgap : ∀ c ∈ gap, isBlank c) (hvalue : value ≠ [])
    (hflat : '\n' ∉ value) : value? (gap ++ value) = some (trim value) := by
  obtain ⟨above, p, hlines⟩ : ∃ above p, lines gap = above ++ [p] :=
    ⟨_, _, (List.dropLast_append_getLast (lines_ne_nil gap)).symm⟩
  have hblank : ∀ m ∈ lines gap, ∀ c ∈ m, isBlank c := fun m hm c hc =>
    hgap c (mem_of_mem_splitWhen hm hc)
  have habove : above.all (·.all isBlank) := by
    simp only [List.all_eq_true]
    exact fun m hm => hblank m (by simp [hlines, hm])
  have hlast : lines (gap ++ value) = above ++ [p ++ value] :=
    lines_append hlines (lines_eq_singleton hflat)
  have htrim : trim (p ++ value) = trim value :=
    trim_append_of_blank (hblank p (by simp [hlines])) value
  simp [value?, hlast, habove, hvalue, htrim]

/-- What follows the colon is cut behind its last line feed. -/
theorem exists_append_of_value? (h : value? t = some u) :
    ∃ gap value, t = gap ++ value ∧ (∀ c ∈ gap, isBlank c) ∧ value ≠ [] ∧ '\n' ∉ value ∧
      u = trim value := by
  unfold value? at h
  split at h
  · cases h
  · next last before hlines =>
    split at h
    · cases h
    · next hcond =>
      simp only [Bool.or_eq_true, Bool.not_eq_true', not_or, Bool.not_eq_true, Bool.not_eq_false,
        List.isEmpty_eq_false_iff, List.all_eq_true] at hcond
      obtain ⟨hlast, hbefore⟩ := hcond
      have hsplit : lines t = before.reverse ++ [last] := by
        rw [← List.reverse_reverse (lines t), hlines, List.reverse_cons]
      have hmem : last ∈ lines t := by simp [hsplit]
      obtain ⟨gap, hgap, ht⟩ := exists_append_of_lines hsplit
      refine ⟨gap, last, ht, fun c hc => ?_, hlast, newline_notMem_of_mem_lines hmem,
        (Option.some.inj h).symm⟩
      rcases hgap c hc with rfl | ⟨m, hm, hc⟩
      · decide
      · exact hbefore m (List.mem_reverse.mp hm) c hc

/-- An option line in its parts. Blanks behind the colon may belong to the gap or to the value. -/
structure Parts (l indent key gap value : Text) : Prop where
  eq : dropFinalNewline l = indent ++ key ++ ':' :: (gap ++ value)
  indent : ∀ c ∈ indent, isBlank c
  named : key ≠ []
  key : ∀ c ∈ key, isKeyChar c
  gap : ∀ c ∈ gap, isBlank c
  nonempty : value ≠ []
  flat : '\n' ∉ value

theorem Parts.ofLine?_eq {indent key gap value : Text} (h : Parts l indent key gap value) :
    ofLine? l = some (key, OptionValue.ofText (trim value)) := by
  have hstart : (dropFinalNewline l).dropWhile isBlank = key ++ ':' :: (gap ++ value) := by
    obtain ⟨c, cs, rfl⟩ := List.exists_cons_of_ne_nil h.named
    have hc := isBlank_eq_false_of_isKeyChar (h.key c List.mem_cons_self)
    rw [h.eq, List.append_assoc, List.dropWhile_append_of_pos h.indent, List.cons_append,
      List.dropWhile_cons_of_neg (by simp [hc])]
  have htake : (key ++ ':' :: (gap ++ value)).takeWhile isKeyChar = key := by
    rw [List.takeWhile_append_of_pos h.key, List.takeWhile_cons_of_neg (by decide), List.append_nil]
  have hdrop : (key ++ ':' :: (gap ++ value)).dropWhile isKeyChar = ':' :: (gap ++ value) := by
    rw [List.dropWhile_append_of_pos h.key, List.dropWhile_cons_of_neg (by decide)]
  have hnamed : key.isEmpty = false := by simpa using h.named
  unfold ofLine?
  rw [hstart]
  simp [htake, hdrop, hnamed, value?_append h.gap h.nonempty h.flat]

theorem exists_parts_of_ofLine? (h : ofLine? l = some s) :
    ∃ indent gap value, Parts l indent s.1 gap value ∧ s.2 = OptionValue.ofText (trim value) := by
  have hl := List.takeWhile_append_dropWhile (p := isBlank) (l := dropFinalNewline l)
  simp only [ofLine?] at h
  generalize (dropFinalNewline l).dropWhile isBlank = t at h hl
  have ht := List.takeWhile_append_dropWhile (p := isKeyChar) (l := t)
  split at h
  · next rest hrest =>
    split at h
    · cases h
    · next hnamed =>
      obtain ⟨v, hv, rfl⟩ := Option.map_eq_some_iff.mp h
      obtain ⟨gap, value, rfl, hgap, hvalue, hflat, rfl⟩ := exists_append_of_value? hv
      refine ⟨(dropFinalNewline l).takeWhile isBlank, gap, value, ⟨?_, ?_, ?_, ?_, hgap, hvalue, hflat⟩,
        rfl⟩
      · rw [hrest] at ht
        rw [List.append_assoc, ht, hl]
      · exact fun c hc => List.mem_takeWhile_imp hc
      · exact mt List.isEmpty_iff.mpr hnamed
      · exact fun c hc => List.mem_takeWhile_imp hc
  · cases h

/-- The text that an option line sets is a part of the line, and on one line whatever stands in front
of it. -/
theorem of_ofLine? {key : Text} (h : ofLine? l = some (key, .text t)) : '\n' ∉ t ∧ t ⊆ l := by
  obtain ⟨indent, gap, value, hparts, hv⟩ := exists_parts_of_ofLine? h
  obtain rfl := OptionValue.eq_of_ofText hv.symm
  refine ⟨newline_notMem_trim hparts.flat, fun c hc => mem_of_mem_dropFinalNewline ?_⟩
  rw [hparts.eq]
  simp [mem_of_mem_trim hc]

theorem plain_of_ofLine? (h : ofLine? l = some s) : s.Plain := by
  obtain ⟨indent, gap, value, hparts, hv⟩ := exists_parts_of_ofLine? h
  refine ⟨hparts.named, hparts.key, ?_⟩
  rw [hv]
  exact OptionValue.plain_ofText (newline_notMem_trim hparts.flat) (trim_trim value)

/-- Blank lines set nothing. -/
theorem ofLine?_of_blank (h : l.all isBlank) : ofLine? l = none := by
  have hdrop : (dropFinalNewline l).dropWhile isBlank = [] :=
    List.dropWhile_eq_nil_iff.mpr fun c hc =>
      List.all_eq_true.mp h c (mem_of_mem_dropFinalNewline hc)
  simp [ofLine?, hdrop]

/-- Nor do blanks in front of a line matter. -/
theorem ofLine?_congr {m : Text} (hl : '\n' ∉ l) (hm : '\n' ∉ m)
    (h : l.dropWhile isBlank = m.dropWhile isBlank) : ofLine? l = ofLine? m := by
  unfold ofLine?
  rw [dropFinalNewline_eq hl, dropFinalNewline_eq hm, h]

theorem newline_notMem_toLine (h : s.Plain) : '\n' ∉ s.toLine := by
  have hkey : '\n' ∉ s.1 := fun hmem => absurd (h.key _ hmem) (by decide)
  simp [toLine, hkey, h.value.toText.1]

theorem ofLine?_toLine (h : s.Plain) : ofLine? s.toLine = some s := by
  obtain ⟨hflat, htrim⟩ := h.value.toText
  have hparts : Parts s.toLine [] s.1 [] (' ' :: s.2.toText) := by
    refine ⟨?_, by simp, h.named, h.key, by simp, List.cons_ne_nil _ _, by simpa using hflat⟩
    rw [dropFinalNewline_eq (newline_notMem_toLine h)]
    simp [toLine]
  rw [hparts.ofLine?_eq, trim_cons_of_blank (by decide), htrim, h.value.ofText_toText]

end Setting

end BlockMarkup
