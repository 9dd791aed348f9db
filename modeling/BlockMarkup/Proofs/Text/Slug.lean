import BlockMarkup.Proofs.Options.Setting
import BlockMarkup.Proofs.Text.Lines
import BlockMarkup.Text.Slug
import Mathlib

/-!
# Slugs in normal form

1. What is joined is words, so every slug is hyphenated (`isSlug_slug`).
2. No capital of ASCII is left of any character (`isUpper_of_mem_plainLetters`), so what a slug keeps of
   the plain letters is all that ASCII counts among letters and digits (`filter_slug`).
3. Lower-case letters and digits of ASCII and hyphens are their own lower-case forms and have no accents
   (`Hyphenated.plainLetters_eq`), so a slug is cut at its hyphens and comes back (`IsSlug.slug_eq`).
-/

namespace BlockMarkup.Text

variable {c : Char} {t w : Text}

/-! ## Words and hyphens -/

/-- A run of characters that a slug may hold. -/
structure IsSlugWord (w : Text) : Prop where
  nonempty : w ≠ []
  slugChars : ∀ c ∈ w, isSlugChar c

/-- Words with single hyphens between them. -/
inductive Hyphenated : Text → Prop
  | word {w : Text} : IsSlugWord w → Hyphenated w
  | hyphen {w t : Text} : IsSlugWord w → Hyphenated t → Hyphenated (w ++ '-' :: t)

def IsSlug (t : Text) : Prop := t = [] ∨ Hyphenated t

theorem isSlugChar_hyphen : isSlugChar '-' = false := by decide

namespace IsSlugWord

theorem hyphen_notMem (h : IsSlugWord w) : '-' ∉ w := by
  intro hmem
  have hslug := h.slugChars '-' hmem
  rw [isSlugChar_hyphen] at hslug
  cases hslug

theorem head?_ne (h : IsSlugWord w) : w.head? ≠ some '-' := fun hhead =>
  h.hyphen_notMem (List.mem_of_mem_head? hhead)

end IsSlugWord

/-- Hyphens that stand side by side are not parted by a word in front of them. -/
theorem not_doubled_append (hw : '-' ∉ w) (ht : ¬ ['-', '-'] <:+: t) :
    ¬ ['-', '-'] <:+: w ++ t := by
  induction w with
  | nil => exact ht
  | cons c w ih =>
    obtain ⟨hc, hw⟩ := not_or.mp (mt List.mem_cons.mpr hw)
    rw [List.cons_append, List.infix_cons_iff]
    rintro (hstart | hrest)
    · exact hc (List.cons_prefix_cons.mp hstart).1
    · exact ih hw hrest

namespace Hyphenated

theorem ne_nil (h : Hyphenated t) : t ≠ [] := by
  cases h with
  | word hw => exact hw.nonempty
  | hyphen => exact List.append_ne_nil_of_right_ne_nil _ (List.cons_ne_nil _ _)

theorem head?_ne (h : Hyphenated t) : t.head? ≠ some '-' := by
  cases h with
  | word hw => exact hw.head?_ne
  | hyphen hw =>
    rw [List.head?_append_of_ne_nil _ hw.nonempty]
    exact hw.head?_ne

theorem getLast?_ne (h : Hyphenated t) : t.getLast? ≠ some '-' := by
  induction h with
  | word hw => exact fun hlast => hw.hyphen_notMem (List.mem_of_getLast? hlast)
  | hyphen hw ht ih =>
    rw [List.getLast?_append_of_ne_nil _ (List.cons_ne_nil _ _),
      List.getLast?_cons_of_ne_nil ht.ne_nil]
    exact ih

theorem not_doubled (h : Hyphenated t) : ¬ ['-', '-'] <:+: t := by
  induction h with
  | word hw =>
    intro hdouble
    exact hw.hyphen_notMem (hdouble.subset List.mem_cons_self)
  | @hyphen w t hw ht ih =>
    refine not_doubled_append hw.hyphen_notMem ?_
    rw [List.infix_cons_iff]
    rintro (hstart | hrest)
    · obtain ⟨-, u, hu⟩ := List.cons_prefix_cons.mp hstart
      exact ht.head?_ne (hu ▸ rfl)
    · exact ih hrest

theorem mem (h : Hyphenated t) (hc : c ∈ t) : isSlugChar c ∨ c = '-' := by
  induction h with
  | word hw => exact .inl (hw.slugChars c hc)
  | hyphen hw _ ih =>
    rcases List.mem_append.mp hc with hc | hc
    · exact .inl (hw.slugChars c hc)
    · rcases List.mem_cons.mp hc with rfl | hc
      · exact .inr rfl
      · exact ih hc

end Hyphenated

/-! ## Slugs are hyphenated -/

theorem hyphenated_join {ws : List Text} (hne : ws ≠ []) (h : ∀ w ∈ ws, IsSlugWord w) :
    Hyphenated (join ['-'] ws) := by
  induction ws with
  | nil => exact absurd rfl hne
  | cons w ws ih =>
    obtain ⟨hw, hws⟩ := List.forall_mem_cons.mp h
    cases ws with
    | nil =>
      rw [join, List.intercalate_singleton]
      exact .word hw
    | cons v ws =>
      rw [join, List.intercalate_cons_cons, List.append_assoc]
      exact .hyphen hw (ih (List.cons_ne_nil v ws) hws)

/-- The words between the characters that no slug holds. -/
def slugWords (t : Text) : List Text := (splitWhen (!isSlugChar ·) t).filter (!·.isEmpty)

theorem slug_eq_join (t : Text) : slug t = join ['-'] (slugWords (plainLetters t)) := rfl

theorem isSlugWord_of_mem_slugWords (h : w ∈ slugWords t) : IsSlugWord w := by
  obtain ⟨hpiece, hne⟩ := List.mem_filter.mp h
  constructor
  · rintro rfl
    cases hne
  · intro c hc
    have hkept := sep_eq_false_of_mem_splitWhen hpiece c hc
    rwa [Bool.not_eq_false'] at hkept

theorem isSlug_slug (t : Text) : IsSlug (slug t) := by
  rw [slug_eq_join]
  by_cases hnone : slugWords (plainLetters t) = []
  · rw [hnone]
    exact .inl rfl
  · exact .inr (hyphenated_join hnone fun w hw => isSlugWord_of_mem_slugWords hw)

/-! ## Plain letters -/

theorem toNat_lt_of_isSlugChar (h : isSlugChar c) : c.toNat < 128 := by
  have halphanum : c.isAlphanum = (c.isUpper || c.isLower || c.isDigit) := rfl
  refine toNat_lt_of_isAlphanum ?_
  rw [halphanum, Bool.or_assoc, ← isSlugChar, h, Bool.or_true]

theorem isUpper_iff : c.isUpper ↔ 65 ≤ c.toNat ∧ c.toNat ≤ 90 := decide_eq_true_iff

theorem not_isUpper_of_isSlugChar (h : isSlugChar c) : ¬ c.isUpper := by
  rw [isSlugChar, Bool.or_eq_true] at h
  rcases h with h | h
  · exact fun hupper => Char.not_isLower_of_isUpper hupper h
  · rw [Char.isDigit_iff_toNat] at h
    rw [isUpper_iff]
    have : '9'.toNat = 57 := rfl
    omega

theorem lowerChar_of_isSlugChar (h : isSlugChar c ∨ c = '-') : lowerChar c = [c] := by
  rcases h with h | rfl
  · rw [lowerChar, if_pos (toNat_lt_of_isSlugChar h),
      Char.toLower_eq_of_not_isUpper (not_isUpper_of_isSlugChar h)]
  · decide

theorem unaccent_of_isSlugChar (h : isSlugChar c ∨ c = '-') : unaccent c = c := by
  have haccented : ∀ a ∈ accents, a.2.all fun d => !(isSlugChar d || d == '-') := by decide
  have hnone : accents.find? (·.2.contains c) = none := by
    rw [List.find?_eq_none]
    intro a ha hmem
    have hplain := List.all_eq_true.mp (haccented a ha) c (List.contains_iff_mem.mp hmem)
    simp only [Bool.not_eq_true', Bool.or_eq_false_iff, beq_eq_false_iff_ne] at hplain
    rcases h with h | h
    · rw [hplain.1] at h
      cases h
    · exact hplain.2 h
  rw [unaccent, hnone]

/-- The lower-case forms of the capitals beyond ASCII are no capitals of ASCII. -/
theorem isUpper_of_mem_lowerChar {d : Char} (h : d ∈ lowerChar c) : d.isUpper = false := by
  unfold lowerChar at h
  split at h
  · rw [List.mem_singleton.mp h, Char.isUpper_toLower_eq_false]
  · next hbeyond =>
    split at h
    · rcases List.mem_cons.mp h with rfl | h
      · decide
      · rw [List.mem_singleton.mp h]
        decide
    · rw [← Bool.not_eq_true, isUpper_iff]
      split at h
      · next r hr =>
        have hshift : ∀ r ∈ caseRuns, (91 : Int) ≤ r.first + r.shift := by decide +kernel
        have hfirst : r.first ≤ c.toNat := by
          have hcovers := List.find?_some hr
          simp only [CaseRun.covers, Bool.and_eq_true, decide_eq_true_eq] at hcovers
          exact hcovers.1.1
        have := hshift r (List.mem_of_find?_eq_some hr)
        rw [List.mem_singleton.mp h, Char.toNat_ofNat]
        split <;> omega
      · rw [List.mem_singleton.mp h]
        omega

theorem isUpper_unaccent (h : c.isUpper = false) : (unaccent c).isUpper = false := by
  have hbases : ∀ a ∈ accents, a.1.isUpper = false := by decide
  unfold unaccent
  split
  · next base forms hfind => exact hbases _ (List.mem_of_find?_eq_some hfind)
  · exact h

theorem isUpper_of_mem_plainLetters (h : c ∈ plainLetters t) : c.isUpper = false := by
  obtain ⟨d, hd, rfl⟩ := List.mem_map.mp h
  obtain ⟨e, -, hde⟩ := List.mem_flatMap.mp hd
  exact isUpper_unaccent (isUpper_of_mem_lowerChar hde)

/-- Among plain letters, ASCII has letters and digits that a slug may hold and no others. -/
theorem isAlphanum_eq_isSlugChar (h : c.isUpper = false) : c.isAlphanum = isSlugChar c := by
  have halphanum : c.isAlphanum = (c.isUpper || c.isLower || c.isDigit) := rfl
  rw [halphanum, h, Bool.false_or, isSlugChar]

/-! ## What a slug keeps -/

theorem filter_join {ws : List Text} (h : ∀ w ∈ ws, IsSlugWord w) :
    (join ['-'] ws).filter (· != '-') = ws.flatten := by
  have hword : ∀ w, IsSlugWord w → w.filter (· != '-') = w := fun w hw =>
    List.filter_eq_self.mpr fun c hc => bne_iff_ne.mpr fun heq => hw.hyphen_notMem (heq ▸ hc)
  induction ws with
  | nil => rfl
  | cons w ws ih =>
    obtain ⟨hw, hws⟩ := List.forall_mem_cons.mp h
    cases ws with
    | nil => rw [join, List.intercalate_singleton, hword w hw, List.flatten_singleton]
    | cons v ws =>
      rw [join, List.intercalate_cons_cons, List.append_assoc, List.filter_append, hword w hw,
        List.filter_append, List.flatten_cons]
      exact congrArg (w ++ ·) (ih hws)

theorem flatten_slugWords (t : Text) : (slugWords t).flatten = t.filter isSlugChar := by
  rw [slugWords, List.flatten_filter_not_isEmpty, flatten_splitWhen]
  simp only [Bool.not_not]

theorem filter_slug (t : Text) :
    (slug t).filter (· != '-') = (plainLetters t).filter Char.isAlphanum := by
  calc (slug t).filter (· != '-')
    _ = (slugWords (plainLetters t)).flatten :=
      filter_join fun w hw => isSlugWord_of_mem_slugWords hw
    _ = (plainLetters t).filter isSlugChar := flatten_slugWords _
    _ = (plainLetters t).filter Char.isAlphanum :=
      List.filter_congr fun c hc => (isAlphanum_eq_isSlugChar (isUpper_of_mem_plainLetters hc)).symm

/-! ## Slugs come back -/

theorem IsSlugWord.splitWhen_eq (h : IsSlugWord w) : splitWhen (!isSlugChar ·) w = [w] :=
  splitWhen_eq_singleton fun c hc => by
    rw [h.slugChars c hc]
    rfl

theorem IsSlugWord.slugWords_eq (h : IsSlugWord w) : slugWords w = [w] := by
  rw [slugWords, h.splitWhen_eq, List.filter_cons_of_pos, List.filter_nil]
  simpa using h.nonempty

theorem IsSlugWord.slugWords_hyphen (h : IsSlugWord w) (t : Text) :
    slugWords (w ++ '-' :: t) = w :: slugWords t := by
  have hcut : splitWhen (!isSlugChar ·) (w ++ '-' :: t) =
      splitWhen (!isSlugChar ·) w ++ splitWhen (!isSlugChar ·) t :=
    splitWhen_append_cons (by decide) w t
  calc slugWords (w ++ '-' :: t)
    _ = slugWords w ++ slugWords t := by rw [slugWords, hcut, List.filter_append]; rfl
    _ = w :: slugWords t := by rw [h.slugWords_eq, List.singleton_append]

namespace Hyphenated

theorem join_slugWords (h : Hyphenated t) : join ['-'] (slugWords t) = t := by
  induction h with
  | word hw => rw [hw.slugWords_eq, join, List.intercalate_singleton]
  | @hyphen w t hw ht ih =>
    obtain ⟨v, vs, hvs⟩ : ∃ v vs, slugWords t = v :: vs := by
      refine List.exists_cons_of_ne_nil fun hnone => ht.ne_nil ?_
      rw [← ih, hnone]
      rfl
    rw [hw.slugWords_hyphen, hvs, join, List.intercalate_cons_cons, List.append_assoc, ← join, ← hvs,
      ih]
    rfl

theorem plainLetters_eq (h : Hyphenated t) : plainLetters t = t := by
  have hlower : lower t = t := by
    calc t.flatMap lowerChar
      _ = t.flatMap ([·]) := List.flatMap_congr fun c hc => lowerChar_of_isSlugChar (h.mem hc)
      _ = t := List.flatMap_singleton' t
  rw [plainLetters, hlower]
  exact (List.map_congr_left fun c hc => unaccent_of_isSlugChar (h.mem hc)).trans (List.map_id' t)

theorem slug_eq (h : Hyphenated t) : slug t = t := by
  rw [slug_eq_join, h.plainLetters_eq, h.join_slugWords]

end Hyphenated

theorem IsSlug.slug_eq (h : IsSlug t) : slug t = t := by
  rcases h with rfl | h
  · rfl
  · exact h.slug_eq

/-! ## The normal form -/

theorem slug_eq_self_iff : slug t = t ↔ IsSlug t := by
  constructor
  · intro h
    rw [← h]
    exact isSlug_slug t
  · exact IsSlug.slug_eq

theorem IsSlug.ends_ne (h : IsSlug t) :
    t.head? ≠ some '-' ∧ t.getLast? ≠ some '-' ∧ ¬ ['-', '-'] <:+: t := by
  rcases h with rfl | h
  · exact ⟨nofun, nofun, by decide⟩
  · exact ⟨h.head?_ne, h.getLast?_ne, h.not_doubled⟩

theorem slug_normalForm (t : Text) :
    IsSlug (slug t) ∧
      ((slug t).head? ≠ some '-' ∧ (slug t).getLast? ≠ some '-' ∧ ¬ ['-', '-'] <:+: slug t) ∧
      (slug t = t ↔ IsSlug t) ∧ slug (slug t) = slug t ∧
      (slug t).filter (· != '-') = ((lower t).map unaccent).filter Char.isAlphanum :=
  ⟨isSlug_slug t, (isSlug_slug t).ends_ne, slug_eq_self_iff, (isSlug_slug t).slug_eq, filter_slug t⟩

example : slug "Été à Paris !" = "ete-a-paris".toList := by decide +kernel

end BlockMarkup.Text
