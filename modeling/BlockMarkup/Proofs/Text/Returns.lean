import BlockMarkup.Proofs.Text.Trim

/-!
# Carriage returns

A text without its carriage returns (`unreturn`) has the lines of the text without theirs, is joined
from such pieces and trimmed to such a text, because a return is a blank and ends no line. So these
functions may be computed with or without the returns. Writing each line break with a return (`crlf`)
puts one behind every line but the last (`lines_crlf`).
-/

namespace BlockMarkup.Text

/-- A text without its carriage returns. -/
def unreturn (t : Text) : Text := t.filter (· != '\r')

/-- A text with a carriage return in front of each line feed. -/
def crlf (t : Text) : Text := t.flatMap fun c => if c = '\n' then ['\r', '\n'] else [c]

variable {t u : Text} {c : Char}

@[simp] theorem unreturn_append (t u : Text) : unreturn (t ++ u) = unreturn t ++ unreturn u :=
  List.filter_append _ _

theorem unreturn_cons (hc : c ≠ '\r') (t : Text) : unreturn (c :: t) = c :: unreturn t :=
  List.filter_cons_of_pos (by simpa using hc)

theorem unreturn_cons_return (t : Text) : unreturn ('\r' :: t) = unreturn t := rfl

theorem return_notMem_unreturn (t : Text) : '\r' ∉ unreturn t := by
  simp [unreturn]

theorem unreturn_of_notMem (h : '\r' ∉ t) : unreturn t = t := by
  rw [unreturn, List.filter_eq_self]
  intro c hc
  rw [bne_iff_ne]
  rintro rfl
  exact h hc

theorem unreturn_append_return (h : '\r' ∉ t) : unreturn (t ++ ['\r']) = t := by
  rw [unreturn_append, unreturn_of_notMem h]
  exact List.append_nil t

/-! ## Lines -/

theorem splitWhen_filter {α : Type} {sep p : α → Bool} (h : ∀ a, sep a → p a) (l : List α) :
    splitWhen sep (l.filter p) = (splitWhen sep l).map (·.filter p) := by
  induction l with
  | nil => rfl
  | cons a l ih =>
    obtain ⟨q, qs, hq⟩ := List.exists_cons_of_ne_nil (splitWhen_ne_nil sep l)
    rw [splitWhen_cons, hq]
    rw [hq] at ih
    by_cases ha : sep a
    · rw [List.filter_cons_of_pos (h a ha), splitWhen_cons, ih]
      simp [consPiece, ha]
    · by_cases hp : p a
      · rw [List.filter_cons_of_pos hp, splitWhen_cons, ih]
        simp [consPiece, ha, hp]
      · rw [List.filter_cons_of_neg hp, ih]
        simp [consPiece, ha, hp]

theorem lines_unreturn (t : Text) : lines (unreturn t) = (lines t).map unreturn :=
  splitWhen_filter (fun c hc => by simp_all) t

theorem unreturn_unlines (ls : List Text) : unreturn (unlines ls) = unlines (ls.map unreturn) := by
  induction ls with
  | nil => rfl
  | cons l ls ih =>
    cases ls with
    | nil => rfl
    | cons m ls =>
      rw [unlines_cons_cons, unreturn_append, unreturn_cons (by decide), ih]
      exact (unlines_cons_cons _ _ _).symm

/-! ## Blanks -/

theorem all_isBlank_unreturn (t : Text) : (unreturn t).all isBlank = t.all isBlank := by
  induction t with
  | nil => rfl
  | cons c t ih =>
    by_cases hc : c = '\r'
    · have hblank : isBlank '\r' := by decide
      rw [hc, unreturn_cons_return, ih, List.all_cons, hblank, Bool.true_and]
    · rw [unreturn_cons hc, List.all_cons, ih, List.all_cons]

theorem dropWhile_unreturn (t : Text) :
    (unreturn t).dropWhile isBlank = unreturn (t.dropWhile isBlank) := by
  induction t with
  | nil => rfl
  | cons c t ih =>
    by_cases hc : c = '\r'
    · rw [hc, unreturn_cons_return, ih, List.dropWhile_cons_of_pos (by decide)]
    · rw [unreturn_cons hc]
      by_cases hblank : isBlank c
      · rw [List.dropWhile_cons_of_pos hblank, List.dropWhile_cons_of_pos hblank, ih]
      · rw [List.dropWhile_cons_of_neg hblank, List.dropWhile_cons_of_neg hblank, unreturn_cons hc]

theorem reverse_unreturn (t : Text) : (unreturn t).reverse = unreturn t.reverse :=
  List.filter_reverse.symm

theorem trimEnd_unreturn (t : Text) : trimEnd (unreturn t) = unreturn (trimEnd t) := by
  simp only [trimEnd, dropEndWhile_eq, reverse_unreturn, dropWhile_unreturn]

theorem trim_unreturn (t : Text) : trim (unreturn t) = unreturn (trim t) := by
  unfold trim
  rw [dropWhile_unreturn, trimEnd_unreturn]

/-! ## Line breaks with returns -/

theorem crlf_cons (hc : c ≠ '\n') (t : Text) : crlf (c :: t) = c :: crlf t := by
  simp [crlf, hc]

theorem crlf_newline_cons (t : Text) : crlf ('\n' :: t) = '\r' :: '\n' :: crlf t := rfl

theorem unreturn_crlf (h : '\r' ∉ t) : unreturn (crlf t) = t := by
  induction t with
  | nil => rfl
  | cons c t ih =>
    obtain ⟨hc, ht⟩ := not_or.mp (mt List.mem_cons.mpr h)
    by_cases hn : c = '\n'
    · rw [hn, crlf_newline_cons, unreturn_cons_return, unreturn_cons (by decide), ih ht]
    · rw [crlf_cons hn, unreturn_cons (Ne.symm hc), ih ht]

theorem lines_crlf (t : Text) :
    lines (crlf t) =
      (lines t).dropLast.map (· ++ ['\r']) ++ [(lines t).getLast (lines_ne_nil t)] := by
  induction t with
  | nil => rfl
  | cons c t ih =>
    obtain ⟨q, qs, hq⟩ := List.exists_cons_of_ne_nil (lines_ne_nil t)
    simp only [hq] at ih
    by_cases hn : c = '\n'
    · have hreturn : lines ('\r' :: '\n' :: crlf t) = ['\r'] :: lines (crlf t) :=
        lines_append_newline ['\r'] (crlf t)
      simp only [hn, crlf_newline_cons, hreturn, lines_newline_cons, hq, ih]
      simp
    · simp only [crlf_cons hn, lines_cons hn hq]
      cases qs with
      | nil =>
        rw [lines_cons hn ih]
        rfl
      | cons r qs =>
        rw [List.dropLast_cons_cons, List.map_cons, List.cons_append] at ih
        rw [lines_cons hn ih]
        simp

end BlockMarkup.Text
