import BlockMarkup.Proofs.Text.Trim

/-!
# Where a text stands in another

An occurrence of a text is moved when more text is put around it. If no blank starts or ends it, trimming
takes blanks away on either side of it and moves it by the blanks in front of the whole
(`OccursAt.trim`).
-/

namespace BlockMarkup.Text

/-- The text `u` stands in `t` behind `i` characters. -/
def OccursAt (t : Text) (i : Nat) (u : Text) : Prop := ∃ x y, t = x ++ u ++ y ∧ x.length = i

/-- The text starts and ends with characters that are not blank. -/
structure Firm (u : Text) : Prop where
  first : ∃ c s, u = c :: s ∧ isBlank c = false
  last : ∃ s c, u = s ++ [c] ∧ isBlank c = false

/-- How many blanks stand in front. -/
def margin (t : Text) : Nat := (t.takeWhile isBlank).length

variable {t u : Text} {i : Nat}

theorem occursAt_self (t : Text) : OccursAt t 0 t := ⟨[], [], by simp, rfl⟩

theorem OccursAt.le_length (h : OccursAt t i u) : i + u.length ≤ t.length := by
  obtain ⟨x, y, rfl, rfl⟩ := h
  simp

theorem OccursAt.around (h : OccursAt t i u) (x y : Text) : OccursAt (x ++ t ++ y) (x.length + i) u := by
  obtain ⟨x', y', rfl, rfl⟩ := h
  exact ⟨x ++ x', y' ++ y, by simp, by simp⟩

theorem Firm.ne_nil (h : Firm u) : u ≠ [] := by
  obtain ⟨c, s, rfl, -⟩ := h.first
  exact List.cons_ne_nil c s

theorem Firm.not_occursAt_nil (h : Firm u) : ¬ OccursAt [] i u := by
  rintro ⟨x, y, heq, -⟩
  simp [h.ne_nil] at heq

theorem takeWhile_isBlank_append (h : Firm u) (x y : Text) :
    (x ++ u ++ y).takeWhile isBlank = x.takeWhile isBlank := by
  obtain ⟨c, s, rfl, hc⟩ := h.first
  rw [List.append_assoc, List.cons_append, List.takeWhile_append,
    List.takeWhile_cons_of_neg (by simp [hc])]
  split
  · next hall => rw [(List.takeWhile_prefix _).eq_of_length hall, List.append_nil]
  · rfl

theorem dropWhile_isBlank_append (h : Firm u) (x y : Text) :
    (x ++ u ++ y).dropWhile isBlank = x.dropWhile isBlank ++ u ++ y := by
  obtain ⟨c, s, rfl, hc⟩ := h.first
  rw [List.append_assoc, List.cons_append, List.dropWhile_append,
    List.dropWhile_cons_of_neg (by simp [hc])]
  split
  · next hnil => rw [List.isEmpty_iff.mp hnil, List.nil_append, List.cons_append]
  · rw [List.append_assoc, List.cons_append]

/-- Blanks around a firm text are trimmed away from the rest on either side. -/
theorem trim_append_firm (h : Firm u) (x y : Text) :
    trim (x ++ u ++ y) = x.dropWhile isBlank ++ u ++ trimEnd y := by
  rw [trim, dropWhile_isBlank_append h]
  obtain ⟨s, c, rfl, hc⟩ := h.last
  have htrim := trimEnd_append_cons hc (x.dropWhile isBlank ++ s) y
  simpa using htrim

theorem OccursAt.trim (h : OccursAt t i u) (hu : Firm u) :
    margin t ≤ i ∧ OccursAt (trim t) (i - margin t) u := by
  obtain ⟨x, y, rfl, rfl⟩ := h
  have hlength : (x.takeWhile isBlank).length + (x.dropWhile isBlank).length = x.length := by
    rw [← List.length_append, List.takeWhile_append_dropWhile]
  rw [margin, takeWhile_isBlank_append hu, trim_append_firm hu]
  exact ⟨by omega, x.dropWhile isBlank, trimEnd y, rfl, by omega⟩

/-- Lines that are joined with others stand in the whole. -/
theorem exists_unlines_append (as bs cs : List Text) :
    ∃ x y, unlines (as ++ bs ++ cs) = x ++ unlines bs ++ y := by
  by_cases hb : bs = []
  · exact ⟨unlines (as ++ bs ++ cs), [], by simp [hb]⟩
  · have hleft : ∃ x, unlines (as ++ bs) = x ++ unlines bs := by
      by_cases ha : as = []
      · exact ⟨[], by simp [ha]⟩
      · exact ⟨unlines as ++ ['\n'], by rw [unlines_append ha hb]; simp⟩
    obtain ⟨x, hx⟩ := hleft
    by_cases hc : cs = []
    · exact ⟨x, [], by simp [hc, hx]⟩
    · exact ⟨x, '\n' :: unlines cs, by rw [unlines_append (by simp [hb]) hc, hx]⟩

end BlockMarkup.Text
