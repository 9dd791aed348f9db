import BlockMarkup.Text.Blank
import BlockMarkup.Proofs.Text.Lines
import Mathlib.Data.List.Induction
import Mathlib.Data.List.TakeWhile

/-!
# Trimming

Trimming takes blanks away at both ends, among them whole lines. What is left is one line trimmed, or
lines of which the first has lost the blanks in front and the last those behind (`lines_trim`). So each
line that is left is a line of the text up to blanks at its ends (`exists_line_of_mem_lines_trim`).
-/

namespace BlockMarkup.Text

variable {t x y : Text} {c : Char}

/-! ## The two ends -/

theorem trimEnd_append_cons (hc : isBlank c = false) (x y : Text) :
    trimEnd (x ++ c :: y) = x ++ c :: trimEnd y := by
  simp only [trimEnd, dropEndWhile_eq, List.reverse_append, List.reverse_cons, List.append_assoc]
  by_cases hy : ∀ d ∈ y.reverse, isBlank d
  · rw [List.dropWhile_append_of_pos hy, List.singleton_append,
      List.dropWhile_cons_of_neg (by simp [hc]),
      List.dropWhile_eq_nil_iff.mpr hy]
    simp
  · rw [List.dropWhile_append, if_neg]
    · simp
    · rwa [List.isEmpty_iff, List.dropWhile_eq_nil_iff]

theorem trimEnd_cons (hc : isBlank c = false) (t : Text) : trimEnd (c :: t) = c :: trimEnd t :=
  trimEnd_append_cons hc [] t

theorem trimEnd_append (h : ∀ c ∈ x, isBlank c = false) (y : Text) :
    trimEnd (x ++ y) = x ++ trimEnd y := by
  induction x with
  | nil => rfl
  | cons c x ih =>
    obtain ⟨hc, hx⟩ := List.forall_mem_cons.mp h
    rw [List.cons_append, trimEnd_cons hc, ih hx, List.cons_append]

theorem trimEnd_concat_of_blank (hc : isBlank c) (t : Text) : trimEnd (t ++ [c]) = trimEnd t := by
  simp [trimEnd, dropEndWhile_eq, hc]

theorem trimEnd_concat (hc : isBlank c = false) (t : Text) : trimEnd (t ++ [c]) = t ++ [c] :=
  trimEnd_append_cons hc t []

theorem trimEnd_append_eq_ite (x y : Text) :
    trimEnd (x ++ y) = if trimEnd y = [] then trimEnd x else x ++ trimEnd y := by
  induction y using List.reverseRecOn with
  | nil =>
    rw [List.append_nil]
    rfl
  | append_singleton y c ih =>
    rw [← List.append_assoc]
    by_cases hc : isBlank c
    · rw [trimEnd_concat_of_blank hc, trimEnd_concat_of_blank hc, ih]
    · rw [trimEnd_concat (by simpa using hc), trimEnd_concat (by simpa using hc), if_neg (by simp),
        List.append_assoc]

theorem trimEnd_eq_nil (h : ∀ c ∈ t, isBlank c) : trimEnd t = [] := by
  rw [trimEnd, dropEndWhile_eq, List.dropWhile_eq_nil_iff.mpr]
  · rfl
  · simpa using h

theorem trim_cons_of_blank (hc : isBlank c) (t : Text) : trim (c :: t) = trim t := by
  simp [trim, hc]

theorem trim_cons (hc : isBlank c = false) (t : Text) : trim (c :: t) = c :: trimEnd t := by
  rw [trim, List.dropWhile_cons_of_neg (by simp [hc]), trimEnd_cons hc]

theorem trim_concat_of_blank (hc : isBlank c) (t : Text) : trim (t ++ [c]) = trim t := by
  induction t with
  | nil => rw [List.nil_append, trim_cons_of_blank hc]
  | cons d t ih =>
    by_cases hd : isBlank d
    · rw [List.cons_append, trim_cons_of_blank hd, ih, trim_cons_of_blank hd]
    · rw [List.cons_append, trim_cons (by simpa using hd), trimEnd_concat_of_blank hc,
        trim_cons (by simpa using hd)]

theorem trim_append_of_blank (h : ∀ c ∈ x, isBlank c) (y : Text) : trim (x ++ y) = trim y := by
  rw [trim, List.dropWhile_append_of_pos h, ← trim]

theorem trim_dropWhile (t : Text) : trim (t.dropWhile isBlank) = trim t := by
  induction t with
  | nil => rfl
  | cons c t ih =>
    by_cases hc : isBlank c
    · rw [List.dropWhile_cons_of_pos hc, ih, trim_cons_of_blank hc]
    · rw [List.dropWhile_cons_of_neg hc]

theorem trimEnd_prefix_self (t : Text) : trimEnd t <+: t := by
  have hsuffix : t.reverse.dropWhile isBlank <:+ t.reverse := List.dropWhile_suffix _
  rw [← List.reverse_prefix, List.reverse_reverse] at hsuffix
  rwa [trimEnd, dropEndWhile_eq]

theorem mem_of_mem_trimEnd (h : c ∈ trimEnd t) : c ∈ t := (trimEnd_prefix_self t).mem h

theorem mem_of_mem_trim (h : c ∈ trim t) : c ∈ t :=
  (List.dropWhile_sublist _).subset (mem_of_mem_trimEnd h)

theorem mem_trim_of_mem (h : c ∈ t) (hc : isBlank c = false) : c ∈ trim t := by
  have hdrop : c ∈ t.dropWhile isBlank := by
    rw [← List.takeWhile_append_dropWhile (p := isBlank) (l := t)] at h
    refine (List.mem_append.mp h).resolve_left fun htake => ?_
    rw [List.mem_takeWhile_imp htake] at hc
    cases hc
  obtain ⟨x, y, hxy⟩ := List.append_of_mem hdrop
  rw [trim, hxy, trimEnd_append_cons hc]
  simp

theorem newline_notMem_trim (h : '\n' ∉ t) : '\n' ∉ trim t := fun hmem => h (mem_of_mem_trim hmem)

theorem trim_trimEnd (t : Text) : trim (trimEnd t) = trim t := by
  induction t using List.reverseRecOn with
  | nil => rfl
  | append_singleton t c ih =>
    by_cases hc : isBlank c
    · rw [trimEnd_concat_of_blank hc, ih, trim_concat_of_blank hc]
    · rw [trimEnd_concat (by simpa using hc)]

theorem trim_trim (t : Text) : trim (trim t) = trim t := by
  show trim (trimEnd (t.dropWhile isBlank)) = trim t
  rw [trim_trimEnd, trim_dropWhile]

/-! ## Lines -/

/-- At the start, whole blank lines are taken away and then the blanks in front of the first one left. -/
theorem exists_lines_dropWhile (t : Text) :
    ∃ above l below, lines t = above ++ l :: below ∧ (∀ m ∈ above, m.all isBlank) ∧
      lines (t.dropWhile isBlank) = l.dropWhile isBlank :: below ∧
      (below ≠ [] → l.dropWhile isBlank ≠ []) := by
  obtain ⟨above, p, habove⟩ : ∃ above p, lines (t.takeWhile isBlank) = above ++ [p] :=
    ⟨_, _, (List.dropLast_append_getLast (lines_ne_nil _)).symm⟩
  obtain ⟨l, below, hbelow⟩ := List.exists_cons_of_ne_nil (lines_ne_nil (t.dropWhile isBlank))
  have hblank : ∀ m ∈ lines (t.takeWhile isBlank), ∀ c ∈ m, isBlank c := fun m hm c hc =>
    List.mem_takeWhile_imp (mem_of_mem_splitWhen hm hc)
  have hl : l.dropWhile isBlank = l ∧ (below ≠ [] → l ≠ []) := by
    cases hrest : t.dropWhile isBlank with
    | nil =>
      rw [hrest] at hbelow
      obtain ⟨rfl, rfl⟩ := List.cons.inj (show [[]] = l :: below from hbelow)
      exact ⟨rfl, absurd rfl⟩
    | cons c rest =>
      have hc : isBlank c = false := by
        have hhead := List.head?_dropWhile_not isBlank t
        rwa [hrest] at hhead
      have hn : c ≠ '\n' := by
        rintro rfl
        exact absurd hc (by decide)
      obtain ⟨m, ms, hms⟩ := List.exists_cons_of_ne_nil (lines_ne_nil rest)
      rw [hrest, lines_cons hn hms] at hbelow
      obtain ⟨rfl, -⟩ := List.cons.inj hbelow
      exact ⟨List.dropWhile_cons_of_neg (by simp [hc]), fun _ => List.cons_ne_nil c m⟩
  have hp : (p ++ l).dropWhile isBlank = l := by
    rw [List.dropWhile_append_of_pos (hblank p (by simp [habove])), hl.1]
  refine ⟨above, p ++ l, below, ?_, fun m hm => ?_, by rw [hp, hbelow], by rw [hp]; exact hl.2⟩
  · rw [← lines_append habove hbelow, List.takeWhile_append_dropWhile]
  · exact List.all_eq_true.mpr (hblank m (by simp [habove, hm]))

/-- At the end, whole lines are taken away and then the blanks behind the last one left. -/
theorem exists_lines_trimEnd (t : Text) :
    ∃ above l below, lines t = above ++ l :: below ∧
      lines (trimEnd t) = above ++ [trimEnd l] := by
  induction t using List.reverseRecOn with
  | nil => exact ⟨[], [], [], rfl, rfl⟩
  | append_singleton t c ih =>
    obtain ⟨ps, p, ht⟩ : ∃ ps p, lines t = ps ++ [p] :=
      ⟨_, _, (List.dropLast_append_getLast (lines_ne_nil t)).symm⟩
    by_cases hc : isBlank c
    · obtain ⟨above, l, below, hlines, htrim⟩ := ih
      rw [trimEnd_concat_of_blank hc]
      by_cases hn : c = '\n'
      · refine ⟨above, l, below ++ [[]], ?_, htrim⟩
        rw [hn, lines_append_newline, hlines, List.append_assoc]
        rfl
      · rw [lines_append ht (lines_eq_singleton (by simpa using Ne.symm hn))]
        rw [ht] at hlines
        rcases List.eq_nil_or_concat below with rfl | ⟨below, q, rfl⟩
        · obtain ⟨rfl, hp⟩ := List.append_inj' hlines rfl
          obtain rfl := List.singleton_inj.mp hp
          exact ⟨ps, p ++ [c], [], rfl, by rw [htrim, trimEnd_concat_of_blank hc]⟩
        · rw [List.concat_eq_append, ← List.cons_append, ← List.append_assoc] at hlines
          obtain ⟨rfl, hp⟩ := List.append_inj' hlines rfl
          exact ⟨above, l, below ++ [p ++ [c]], by simp, htrim⟩
    · have hn : c ≠ '\n' := by
        rintro rfl
        exact hc (by decide)
      rw [trimEnd_concat (by simpa using hc),
        lines_append ht (lines_eq_singleton (by simpa using Ne.symm hn))]
      exact ⟨ps, p ++ [c], [], rfl, by rw [trimEnd_concat (by simpa using hc)]⟩

/-- A text is trimmed to one of its lines trimmed, or to some of its lines without the blanks in front
of the first one, which has more than blanks, and behind the last one. -/
theorem lines_trim (t : Text) :
    (∃ l ∈ lines t, lines (trim t) = [trim l]) ∨
      ∃ above l mid r below, lines t = above ++ l :: (mid ++ r :: below) ∧
        lines (trim t) = l.dropWhile isBlank :: (mid ++ [trimEnd r]) ∧ l.dropWhile isBlank ≠ [] := by
  obtain ⟨above, l, below, hlines, -, hdrop, hne⟩ := exists_lines_dropWhile t
  obtain ⟨above', r, below', hlines', htrim⟩ := exists_lines_trimEnd (t.dropWhile isBlank)
  rw [hdrop] at hlines'
  cases above' with
  | nil =>
    obtain ⟨rfl, rfl⟩ := List.cons.inj hlines'
    exact .inl ⟨l, by simp [hlines], htrim⟩
  | cons m mid =>
    obtain ⟨rfl, rfl⟩ := List.cons.inj hlines'
    exact .inr ⟨above, l, mid, r, below', hlines, htrim, hne (by simp)⟩

theorem exists_line_of_mem_lines_trim {l : Text} (h : l ∈ lines (trim t)) :
    ∃ m ∈ lines t, trim l = trim m := by
  rcases lines_trim t with ⟨m, hm, heq⟩ | ⟨above, m, mid, r, below, hlines, heq, -⟩
  · rw [heq, List.mem_singleton] at h
    exact ⟨m, hm, by rw [h, trim_trim]⟩
  · rw [heq, List.mem_cons, List.mem_append, List.mem_singleton] at h
    rcases h with rfl | h | rfl
    · exact ⟨m, by simp [hlines], trim_dropWhile m⟩
    · exact ⟨l, by simp [hlines, h], rfl⟩
    · exact ⟨r, by simp [hlines], trim_trimEnd r⟩

theorem length_lines_trim_le (t : Text) : (lines (trim t)).length ≤ (lines t).length := by
  rcases lines_trim t with ⟨l, hl, htrim⟩ | ⟨above, l, mid, r, below, hlines, htrim, -⟩
  · rw [htrim]
    exact List.length_pos_of_mem hl
  · rw [htrim, hlines]
    simp only [List.length_append, List.length_cons, List.length_nil]
    omega

/-- A text that loses no line when it is trimmed has the same lines, up to blanks at their ends. -/
theorem map_trim_lines_trim (h : (lines (trim t)).length = (lines t).length) :
    (lines (trim t)).map trim = (lines t).map trim := by
  rcases lines_trim t with ⟨l, hl, htrim⟩ | ⟨above, l, mid, r, below, hlines, htrim, -⟩
  · rw [htrim] at h
    obtain ⟨m, hm⟩ := List.length_eq_one_iff.mp h.symm
    rw [hm, List.mem_singleton] at hl
    rw [htrim, hm, hl, List.map_singleton, List.map_singleton, trim_trim]
  · rw [htrim, hlines] at h
    simp only [List.length_append, List.length_cons, List.length_nil] at h
    have habove : above = [] := List.eq_nil_of_length_eq_zero (by omega)
    have hbelow : below = [] := List.eq_nil_of_length_eq_zero (by omega)
    have hfirst : trim (l.dropWhile isBlank) = trim l := trim_dropWhile l
    rw [htrim, hlines, habove, hbelow]
    simp [hfirst, trim_trimEnd]

end BlockMarkup.Text
