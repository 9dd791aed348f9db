import BlockMarkup.Options.Basic
import BlockMarkup.Proofs.Text.Slug

/-!
# Small sigmas

A capital sigma at the end of a word has a lower-case form of its own. `Text.lower` gives the middle form there;
neither slugs nor switches depend on which of the two it is (`slug_of_isLowered`, `isOnWord_of_isLowered`).
-/

namespace BlockMarkup.Text

/-- The middle form for either small sigma. -/
def middleSigma (c : Char) : Char := if c = 'ς' then 'σ' else c

/-- A lower-case form of a text, with any of the small sigmas in either form. -/
def IsLowered (t u : Text) : Prop := u.map middleSigma = (lower t).map middleSigma

theorem middleSigma_of_ne {c : Char} (h : c ≠ 'ς') : middleSigma c = c := if_neg h

theorem isSlugChar_middleSigma (c : Char) : isSlugChar (middleSigma c) = isSlugChar c := by
  by_cases h : c = 'ς'
  · subst h
    decide
  · rw [middleSigma_of_ne h]

theorem middleSigma_of_isSlugChar {c : Char} (h : isSlugChar c) : middleSigma c = c := by
  refine middleSigma_of_ne ?_
  rintro rfl
  exact absurd h (by decide)

theorem unaccent_middleSigma (c : Char) : unaccent (middleSigma c) = middleSigma (unaccent c) := by
  by_cases h : c = 'ς'
  · subst h
    decide
  · have hbases : ∀ a ∈ accents, a.1 ≠ 'ς' := by decide
    rw [middleSigma_of_ne h, middleSigma_of_ne]
    unfold unaccent
    split
    · next base forms hfind => exact hbases _ (List.mem_of_find?_eq_some hfind)
    · exact h

/-- Text is cut at the same places if only what it is cut at differs. -/
theorem splitWhen_map {α : Type} {sep : α → Bool} {f : α → α} (hsep : ∀ a, sep (f a) = sep a)
    (hkeep : ∀ a, sep a = false → f a = a) (l : List α) : splitWhen sep (l.map f) = splitWhen sep l := by
  induction l with
  | nil => rfl
  | cons a l ih =>
    rw [List.map_cons, splitWhen_cons, splitWhen_cons, ih]
    cases ha : sep a with
    | true => simp only [consPiece, hsep, ha, if_true]
    | false => rw [hkeep a ha]

theorem slugWords_map_middleSigma (t : Text) : slugWords (t.map middleSigma) = slugWords t := by
  have hsep : ∀ c, (!isSlugChar (middleSigma c)) = !isSlugChar c := fun c => by
    rw [isSlugChar_middleSigma]
  have hkeep : ∀ c, (!isSlugChar c) = false → middleSigma c = c := fun c hc =>
    middleSigma_of_isSlugChar (by simpa using hc)
  rw [slugWords, splitWhen_map hsep hkeep, slugWords]

theorem slug_of_isLowered {t u : Text} (h : IsLowered t u) :
    join ['-'] (slugWords (u.map unaccent)) = slug t := by
  have hcomm : ∀ v : Text, (v.map unaccent).map middleSigma = (v.map middleSigma).map unaccent := by
    intro v
    simp only [List.map_map]
    exact List.map_congr_left fun c _ => (unaccent_middleSigma c).symm
  rw [slug_eq_join, plainLetters, ← slugWords_map_middleSigma (u.map unaccent), hcomm, h, ← hcomm,
    slugWords_map_middleSigma]

/-- A text without sigmas is the only one with its middle forms. -/
theorem eq_of_map_middleSigma {u v : Text} (h : u.map middleSigma = v) (hmiddle : 'σ' ∉ v) : u = v := by
  induction u generalizing v with
  | nil => exact h
  | cons c u ih =>
    subst h
    rw [List.map_cons, List.mem_cons, not_or] at hmiddle
    rw [List.map_cons, ← ih rfl hmiddle.2, middleSigma_of_ne]
    rintro rfl
    exact hmiddle.1 rfl

theorem isOnWord_of_isLowered {t u : Text} (h : IsLowered t u) :
    Options.onWords.contains u = Options.onWords.contains (lower t) := by
  have hplain : ∀ w ∈ Options.onWords, 'σ' ∉ w ∧ w.map middleSigma = w := by decide
  rw [Bool.eq_iff_iff, List.contains_iff_mem, List.contains_iff_mem]
  constructor
  · intro hu
    obtain ⟨hmiddle, hsame⟩ := hplain u hu
    rwa [eq_of_map_middleSigma (h.symm.trans hsame) hmiddle]
  · intro hlower
    obtain ⟨hmiddle, hsame⟩ := hplain _ hlower
    rwa [eq_of_map_middleSigma (h.trans hsame) hmiddle]

end BlockMarkup.Text
