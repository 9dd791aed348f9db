import BlockMarkup.Proofs.Text.Trim
import BlockMarkup.Slides

/-!
# Decks in normal form

1. What is cut out of a deck are slides: not empty, trimmed, and without a line that is a separator
   (`Slides.isSlide_of_mem_split`). Trimming takes place after the cutting, but makes no new separators,
   for each line that it leaves is a line of the deck up to blanks at its ends.
2. Slides that are joined are cut at their joints and nowhere else (`Slides.splitWhen_lines_joined`), so
   they come back (`Slides.split_joined`).
3. Cutting loses separators and blanks and nothing else (`Slides.ink_split`).
-/

namespace BlockMarkup

open Text

/-! ## Characters that are not blank -/

namespace Text

/-- The characters of a text that are not blank. -/
def ink (t : Text) : Text := t.filter fun c => !isBlank c

theorem ink_append (t u : Text) : ink (t ++ u) = ink t ++ ink u := List.filter_append _ _

theorem ink_cons_of_blank {c : Char} (hc : isBlank c) (t : Text) : ink (c :: t) = ink t := by
  simp [ink, hc]

theorem ink_dropWhile (t : Text) : ink (t.dropWhile isBlank) = ink t := by
  induction t with
  | nil => rfl
  | cons c t ih =>
    by_cases hc : isBlank c
    · rw [List.dropWhile_cons_of_pos hc, ih, ink_cons_of_blank hc]
    · rw [List.dropWhile_cons_of_neg hc]

theorem ink_reverse (t : Text) : ink t.reverse = (ink t).reverse := List.filter_reverse

theorem ink_trim (t : Text) : ink (trim t) = ink t := by
  rw [trim, trimEnd, dropEndWhile_eq, ink_reverse, ink_dropWhile, ink_reverse, List.reverse_reverse,
    ink_dropWhile]

theorem ink_unlines (ls : List Text) : ink (unlines ls) = ink ls.flatten := by
  induction ls with
  | nil => rfl
  | cons l ls ih =>
    cases ls with
    | nil => simp
    | cons m ms =>
      rw [unlines_cons_cons, ink_append, ink_cons_of_blank (by decide), ih, ← ink_append,
        ← List.flatten_cons]

theorem ink_flatten (ts : List Text) : ink ts.flatten = (ts.map ink).flatten := List.filter_flatten

end Text

namespace Slides

variable {separator s : Text} {ss : List Text}

/-- What a slide looks like that was cut out of a deck. -/
structure IsSlide (separator s : Text) : Prop where
  nonempty : s ≠ []
  trimmed : trim s = s
  uncut : ∀ l ∈ lines s, trim l ≠ separator

/-- Slides in one deck, with a line for the separator between one and the next. -/
def joined (separator : Text) (ss : List Text) : Text := join ('\n' :: separator ++ ['\n']) ss

/-! ## Cutting -/

theorem isSeparator_iff {l : Text} : isSeparator separator l ↔ trim l = separator := beq_iff_eq

/-- The lines between two separators make a slide, if they make anything. -/
theorem isSlide_of_piece {t : Text} {p : List Text}
    (hp : p ∈ splitWhen (isSeparator separator) (lines t)) (hne : trim (unlines p) ≠ []) :
    IsSlide separator (trim (unlines p)) := by
  refine ⟨hne, trim_trim _, fun l hl => ?_⟩
  have hp_ne : p ≠ [] := by
    rintro rfl
    exact hne rfl
  have hflat : ∀ m ∈ p, '\n' ∉ m := fun m hm => newline_notMem_of_mem_lines (mem_of_mem_splitWhen hp hm)
  obtain ⟨m, hm, htrim⟩ := exists_line_of_mem_lines_trim hl
  rw [lines_unlines hp_ne, flatMap_lines_eq_self hflat] at hm
  have hcut := sep_eq_false_of_mem_splitWhen hp m hm
  rw [htrim]
  exact fun h => Bool.false_ne_true (hcut.symm.trans (isSeparator_iff.mpr h))

theorem isSlide_of_mem_split {t : Text} (h : s ∈ split separator t) : IsSlide separator s := by
  obtain ⟨hs, hne⟩ := List.mem_filter.mp h
  obtain ⟨p, hp, rfl⟩ := List.mem_map.mp hs
  exact isSlide_of_piece hp (by simpa using hne)

/-! ## Joining -/

theorem joined_cons_cons (s u : Text) (ss : List Text) :
    joined separator (s :: u :: ss) = s ++ '\n' :: (separator ++ '\n' :: joined separator (u :: ss)) := by
  simp [joined, join, List.intercalate_cons_cons]

/-- A joined deck is cut into the lines of its slides. -/
theorem splitWhen_lines_joined (htrim : trim separator = separator) (hflat : '\n' ∉ separator)
    (hne : ss ≠ []) (h : ∀ s ∈ ss, IsSlide separator s) :
    splitWhen (isSeparator separator) (lines (joined separator ss)) = ss.map lines := by
  have hslide : ∀ s, IsSlide separator s → splitWhen (isSeparator separator) (lines s) = [lines s] :=
    fun s hs => splitWhen_eq_singleton fun l hl => by
      rw [← Bool.not_eq_true, isSeparator_iff]
      exact hs.uncut l hl
  induction ss with
  | nil => exact absurd rfl hne
  | cons s ss ih =>
    obtain ⟨hs, hss⟩ := List.forall_mem_cons.mp h
    cases ss with
    | nil =>
      rw [joined, join, List.intercalate_singleton, hslide s hs]
      rfl
    | cons u ss =>
      rw [joined_cons_cons, lines_append_newline, lines_append_newline, lines_eq_singleton hflat,
        List.singleton_append, splitWhen_append_cons (isSeparator_iff.mpr htrim), hslide s hs,
        ih (List.cons_ne_nil u ss) hss]
      rfl

theorem split_nil (separator : Text) : split separator [] = [] := by
  unfold split
  rw [show lines [] = [[]] from rfl, splitWhen_cons, splitWhen_nil, consPiece]
  split <;> rfl

/-- Joined slides come back when they are cut. -/
theorem split_joined (htrim : trim separator = separator) (hflat : '\n' ∉ separator)
    (h : ∀ s ∈ ss, IsSlide separator s) : split separator (joined separator ss) = ss := by
  by_cases hne : ss = []
  · rw [hne]
    exact split_nil separator
  · have hmap : (ss.map lines).map (fun p => trim (unlines p)) = ss := by
      rw [List.map_map]
      refine (List.map_congr_left fun s hs => ?_).trans ss.map_id
      rw [Function.comp_apply, unlines_lines, (h s hs).trimmed, id]
    rw [split, splitWhen_lines_joined htrim hflat hne h, hmap, List.filter_eq_self]
    exact fun s hs => by simpa using (h s hs).nonempty

/-! ## Nothing is lost -/

theorem ink_split (separator t : Text) :
    ink (split separator t).flatten = ink ((lines t).filter fun l => trim l ≠ separator).flatten := by
  have hlines : (lines t).filter (fun l => trim l ≠ separator) =
      (splitWhen (isSeparator separator) (lines t)).flatten := by
    rw [flatten_splitWhen]
    exact List.filter_congr fun l _ => by simp [isSeparator, beq_eq_decide]
  rw [split, List.flatten_filter_not_isEmpty, ink_flatten, List.map_map, hlines]
  induction splitWhen (isSeparator separator) (lines t) with
  | nil => rfl
  | cons p ps ih =>
    rw [List.map_cons, List.flatten_cons, ih, Function.comp_apply, ink_trim, ink_unlines,
      List.flatten_cons, List.flatten_append, ink_append]

/-- A deck is cut into slides that come back when they are joined and cut once more, as all texts do that
look like slides, and nothing is lost of it but separators and blanks. -/
theorem split_normalForm (htrim : trim separator = separator) (hflat : '\n' ∉ separator) (t : Text) :
    (∀ s ∈ split separator t, IsSlide separator s) ∧
      split separator (joined separator (split separator t)) = split separator t ∧
      (∀ ss : List Text, (∀ s ∈ ss, IsSlide separator s) →
        split separator (joined separator ss) = ss) ∧
      ink (split separator t).flatten = ink ((lines t).filter fun l => trim l ≠ separator).flatten :=
  ⟨fun _ => isSlide_of_mem_split, split_joined htrim hflat fun _ => isSlide_of_mem_split,
    fun _ => split_joined htrim hflat, ink_split separator t⟩

theorem split_normalForm_dashes :
    let deck : Text := "\n a\n\nb \n --- \n---\n c"
    let slides : List Text := ["a\n\nb", "c"]
    trim defaultSeparator = defaultSeparator ∧ '\n' ∉ defaultSeparator ∧
      split defaultSeparator deck = slides ∧ (∀ s ∈ slides, IsSlide defaultSeparator s) ∧
      split defaultSeparator (joined defaultSeparator slides) = slides ∧
      ink slides.flatten = "abc".toList := by
  intro deck slides
  have htrim : trim defaultSeparator = defaultSeparator := by decide
  have hflat : '\n' ∉ defaultSeparator := by decide
  have hcut : split defaultSeparator deck = slides := by decide
  obtain ⟨hslides, -, hagain, hink⟩ := split_normalForm htrim hflat deck
  rw [hcut] at hslides hink
  exact ⟨htrim, hflat, hcut, hslides, hagain slides hslides, hink.trans (by decide)⟩

end Slides

end BlockMarkup
