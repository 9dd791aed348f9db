import BlockMarkup.Text.Basic
import Mathlib.Data.List.Basic

/-!
# Lines and pieces of text

A text that is joined from pieces has the lines of its pieces, whether or not a piece holds line
feeds (`lines_unlines`). So pieces may be joined first among themselves (`unlines_flatMap_lines`).
-/

namespace BlockMarkup.Text

section Split

variable {α : Type} {sep : α → Bool}

theorem consPiece_append (a : α) {ps : List (List α)} (h : ps ≠ []) (qs : List (List α)) :
    consPiece sep a (ps ++ qs) = consPiece sep a ps ++ qs := by
  cases ps with
  | nil => exact absurd rfl h
  | cons p ps => by_cases ha : sep a <;> simp [consPiece, ha]

theorem splitWhen_append_cons {a : α} (ha : sep a) (l m : List α) :
    splitWhen sep (l ++ a :: m) = splitWhen sep l ++ splitWhen sep m := by
  induction l with
  | nil =>
    rw [List.nil_append, splitWhen_cons, splitWhen_nil]
    cases h : splitWhen sep m with
    | nil => exact absurd h (splitWhen_ne_nil _ _)
    | cons p ps => simp [consPiece, ha]
  | cons b l ih =>
    rw [List.cons_append, splitWhen_cons, ih, consPiece_append b (splitWhen_ne_nil _ _),
      splitWhen_cons]

/-- The pieces next to a joint become one piece. -/
theorem splitWhen_append {l m p q : List α} {ps qs : List (List α)}
    (hl : splitWhen sep l = ps ++ [p]) (hm : splitWhen sep m = q :: qs) :
    splitWhen sep (l ++ m) = ps ++ (p ++ q) :: qs := by
  induction l generalizing ps p with
  | nil =>
    rw [splitWhen_nil] at hl
    obtain ⟨rfl, rfl⟩ : ps = [] ∧ p = [] := by
      cases ps <;> simp_all
    simpa using hm
  | cons a l ih =>
    obtain ⟨rs, r, hr⟩ : ∃ rs r, splitWhen sep l = rs ++ [r] :=
      ⟨_, _, (List.dropLast_append_getLast (splitWhen_ne_nil sep l)).symm⟩
    rw [splitWhen_cons, hr] at hl
    rw [List.cons_append, splitWhen_cons, ih hr]
    cases rs with
    | nil =>
      by_cases ha : sep a
      · rw [List.nil_append, consPiece, if_pos ha] at hl
        obtain ⟨rfl, hp⟩ := List.append_inj' (show [[]] ++ [r] = ps ++ [p] from hl) rfl
        obtain rfl : r = p := by simpa using hp
        simp [consPiece, ha]
      · rw [List.nil_append, consPiece, if_neg ha] at hl
        obtain ⟨rfl, hp⟩ := List.append_inj' (show [] ++ [a :: r] = ps ++ [p] from hl) rfl
        obtain rfl : a :: r = p := by simpa using hp
        simp [consPiece, ha]
    | cons s rs =>
      rw [consPiece_append a (List.cons_ne_nil s rs)] at hl ⊢
      obtain ⟨rfl, hp⟩ := List.append_inj' hl rfl
      obtain rfl : r = p := by simpa using hp
      rfl

theorem splitWhen_eq_singleton {l : List α} (h : ∀ a ∈ l, sep a = false) : splitWhen sep l = [l] := by
  induction l with
  | nil => rfl
  | cons a l ih =>
    obtain ⟨ha, hl⟩ := List.forall_mem_cons.mp h
    simp [splitWhen_cons, ih hl, consPiece, ha]

theorem sep_eq_false_of_mem_splitWhen {l p : List α} (hp : p ∈ splitWhen sep l) :
    ∀ a ∈ p, sep a = false := by
  induction l generalizing p with
  | nil => simp_all
  | cons b l ih =>
    rw [splitWhen_cons] at hp
    cases h : splitWhen sep l with
    | nil => exact absurd h (splitWhen_ne_nil _ _)
    | cons q qs =>
      rw [h] at hp ih
      by_cases hb : sep b
      · rw [consPiece, if_pos hb] at hp
        rcases List.mem_cons.mp hp with rfl | hp
        · simp
        · exact ih hp
      · rw [consPiece, if_neg hb] at hp
        rcases List.mem_cons.mp hp with rfl | hp
        · exact List.forall_mem_cons.mpr ⟨by simpa using hb, ih List.mem_cons_self⟩
        · exact ih (List.mem_cons_of_mem _ hp)

theorem mem_of_mem_splitWhen {a : α} {l p : List α} (hp : p ∈ splitWhen sep l) (ha : a ∈ p) :
    a ∈ l := by
  induction l generalizing p with
  | nil => simp_all
  | cons b l ih =>
    rw [splitWhen_cons] at hp
    cases h : splitWhen sep l with
    | nil => exact absurd h (splitWhen_ne_nil _ _)
    | cons q qs =>
      rw [h] at hp ih
      have hrest : ∀ r ∈ q :: qs, a ∈ r → a ∈ b :: l := fun r hr ha =>
        List.mem_cons_of_mem _ (ih hr ha)
      by_cases hb : sep b
      · rw [consPiece, if_pos hb] at hp
        rcases List.mem_cons.mp hp with rfl | hp
        · cases ha
        · exact hrest p hp ha
      · rw [consPiece, if_neg hb] at hp
        rcases List.mem_cons.mp hp with rfl | hp
        · rcases List.mem_cons.mp ha with rfl | ha
          · exact List.mem_cons_self
          · exact hrest q List.mem_cons_self ha
        · exact hrest p (List.mem_cons_of_mem _ hp) ha

theorem flatten_splitWhen (sep : α → Bool) (l : List α) :
    (splitWhen sep l).flatten = l.filter (!sep ·) := by
  induction l with
  | nil => rfl
  | cons a l ih =>
    obtain ⟨p, ps, hps⟩ := List.exists_cons_of_ne_nil (splitWhen_ne_nil sep l)
    rw [hps] at ih
    rw [splitWhen_cons, hps]
    by_cases ha : sep a <;> simp [consPiece, ha, ← ih]

end Split

/-! ## Joining -/

theorem lines_append_newline (t u : Text) : lines (t ++ '\n' :: u) = lines t ++ lines u :=
  splitWhen_append_cons rfl t u

theorem lines_append {t u p q : Text} {ps qs : List Text} (ht : lines t = ps ++ [p])
    (hu : lines u = q :: qs) : lines (t ++ u) = ps ++ (p ++ q) :: qs :=
  splitWhen_append ht hu

theorem lines_newline_cons (t : Text) : lines ('\n' :: t) = [] :: lines t :=
  lines_append_newline [] t

theorem lines_cons {c : Char} {t p : Text} {ps : List Text} (hc : c ≠ '\n') (ht : lines t = p :: ps) :
    lines (c :: t) = (c :: p) :: ps := by
  rw [lines] at ht ⊢
  rw [splitWhen_cons, ht]
  simp [consPiece, hc]

theorem lines_eq_singleton {t : Text} (h : '\n' ∉ t) : lines t = [t] :=
  splitWhen_eq_singleton fun c hc => by
    rw [beq_eq_false_iff_ne]
    rintro rfl
    exact h hc

theorem newline_notMem_of_mem_lines {t l : Text} (h : l ∈ lines t) : '\n' ∉ l := by
  intro hmem
  have := sep_eq_false_of_mem_splitWhen h _ hmem
  simp at this

theorem flatMap_lines_eq_self {ls : List Text} (h : ∀ l ∈ ls, '\n' ∉ l) : ls.flatMap lines = ls := by
  induction ls with
  | nil => rfl
  | cons l ls ih =>
    obtain ⟨hl, hls⟩ := List.forall_mem_cons.mp h
    rw [List.flatMap_cons, lines_eq_singleton hl, ih hls, List.singleton_append]

theorem lines_unlines {ps : List Text} (h : ps ≠ []) : lines (unlines ps) = ps.flatMap lines := by
  induction ps with
  | nil => exact absurd rfl h
  | cons p ps ih =>
    cases ps with
    | nil => simp
    | cons q ps =>
      rw [unlines_cons_cons, lines_append_newline, ih (List.cons_ne_nil q ps)]
      exact List.flatMap_cons.symm

theorem length_lines_unlines {ls : List Text} (h : ∀ l ∈ ls, '\n' ∉ l) :
    (lines (unlines ls)).length = max 1 ls.length := by
  cases ls with
  | nil => rfl
  | cons l ls =>
    rw [lines_unlines (List.cons_ne_nil l ls), flatMap_lines_eq_self h, List.length_cons]
    omega

theorem unlines_append {ps qs : List Text} (hps : ps ≠ []) (hqs : qs ≠ []) :
    unlines (ps ++ qs) = unlines ps ++ '\n' :: unlines qs := by
  induction ps with
  | nil => exact absurd rfl hps
  | cons p ps ih =>
    cases ps with
    | nil =>
      obtain ⟨q, qs, rfl⟩ := List.exists_cons_of_ne_nil hqs
      exact unlines_cons_cons p q qs
    | cons r ps =>
      have hrest := ih (List.cons_ne_nil r ps)
      rw [List.cons_append] at hrest
      rw [List.cons_append, List.cons_append, unlines_cons_cons, hrest, unlines_cons_cons,
        List.append_assoc, List.cons_append]

theorem eq_nil_or_mem_of_mem_lines_unlines {l : Text} {ps : List Text} (h : l ∈ lines (unlines ps)) :
    l = [] ∨ l ∈ ps.flatMap lines := by
  by_cases hps : ps = []
  · subst hps
    exact .inl (List.mem_singleton.mp h)
  · rw [lines_unlines hps] at h
    exact .inr h

theorem eq_newline_or_mem_of_mem_unlines {c : Char} {ps : List Text} (h : c ∈ unlines ps) :
    c = '\n' ∨ ∃ p ∈ ps, c ∈ p := by
  induction ps with
  | nil => cases h
  | cons p ps ih =>
    cases ps with
    | nil => exact .inr ⟨p, List.mem_singleton_self p, h⟩
    | cons q ps =>
      rw [unlines_cons_cons, List.mem_append, List.mem_cons] at h
      rcases h with h | rfl | h
      · exact .inr ⟨p, List.mem_cons_self, h⟩
      · exact .inl rfl
      · exact (ih h).imp_right fun ⟨m, hm, hc⟩ => ⟨m, List.mem_cons_of_mem p hm, hc⟩

/-- A text is cut in front of its last line. -/
theorem exists_append_of_lines {t last : Text} {above : List Text} (h : lines t = above ++ [last]) :
    ∃ start, (∀ c ∈ start, c = '\n' ∨ ∃ m ∈ above, c ∈ m) ∧ t = start ++ last := by
  have ht : t = unlines (above ++ [last]) := by rw [← h, unlines_lines]
  by_cases habove : above = []
  · subst habove
    exact ⟨[], by simp, ht⟩
  · rw [unlines_append habove (List.cons_ne_nil _ _)] at ht
    refine ⟨unlines above ++ ['\n'], fun c hc => ?_, by simpa using ht⟩
    rcases List.mem_append.mp hc with hc | hc
    · exact eq_newline_or_mem_of_mem_unlines hc
    · exact .inl (List.mem_singleton.mp hc)

theorem unlines_flatMap_lines (ps : List Text) : unlines (ps.flatMap lines) = unlines ps := by
  cases ps with
  | nil => rfl
  | cons p ps => rw [← lines_unlines (List.cons_ne_nil p ps), unlines_lines]

/-- Pieces with the same lines are joined to the same text. -/
theorem unlines_congr {ps qs : List Text} (h : ps.flatMap lines = qs.flatMap lines) :
    unlines ps = unlines qs := by
  rw [← unlines_flatMap_lines ps, h, unlines_flatMap_lines]

/-- A text of characters of a class without the line feed is on one line. -/
theorem newline_notMem_of_forall {t : Text} {p : Char → Bool} (hp : p '\n' = false)
    (h : ∀ c ∈ t, p c) : '\n' ∉ t := by
  intro hmem
  rw [h _ hmem] at hp
  cases hp

/-! ## The final line feed -/

theorem eq_dropFinalNewline_or (t : Text) :
    t = dropFinalNewline t ∨ t = dropFinalNewline t ++ ['\n'] := by
  fun_induction dropFinalNewline t with
  | case1 => exact .inl rfl
  | case2 => exact .inr rfl
  | case3 c t _ ih => exact ih.imp (congrArg (c :: ·)) (congrArg (c :: ·))

theorem dropFinalNewline_append_newline (t : Text) : dropFinalNewline (t ++ ['\n']) = t := by
  induction t with
  | nil => rfl
  | cons c t ih =>
    rw [List.cons_append, dropFinalNewline, ih]
    rintro - hnil
    simp at hnil

theorem dropFinalNewline_of_getLast? {t : Text} (h : t.getLast? ≠ some '\n') :
    dropFinalNewline t = t := by
  rcases eq_dropFinalNewline_or t with heq | heq
  · exact heq.symm
  · rw [heq, List.getLast?_concat] at h
    exact absurd rfl h

theorem dropFinalNewline_eq {t : Text} (h : '\n' ∉ t) : dropFinalNewline t = t :=
  dropFinalNewline_of_getLast? fun hlast => h (List.mem_of_getLast? hlast)

theorem mem_of_mem_dropFinalNewline {t : Text} {c : Char} (h : c ∈ dropFinalNewline t) : c ∈ t := by
  fun_induction dropFinalNewline t with
  | case1 => exact h
  | case2 => cases h
  | case3 d t _ ih =>
    rcases List.mem_cons.mp h with rfl | h
    · exact List.mem_cons_self
    · exact List.mem_cons_of_mem _ (ih h)

end BlockMarkup.Text
