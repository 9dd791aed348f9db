import BlockMarkup.Marker
import BlockMarkup.Proofs.OptionSection
import BlockMarkup.Proofs.Text.Trim

/-!
# Lines that never become markers

A marker stays one when it is trimmed, and text that continues a line behind a `<` does not make it
one. So a line whose trimmed form is no marker is `Inert`: it stays none when blanks at its ends are
dropped or markup is put behind it, as happens to the lines that a component puts into its HTML.
-/

namespace BlockMarkup.Text

/-! ## Blanks in words -/

/-- The code points of the blanks beyond ASCII. -/
def wideBlanks : List Nat :=
  [0x85, 0xA0, 0x1680, 0x2028, 0x2029, 0x202F, 0x205F, 0x3000] ++ List.range' 0x2000 11

theorem toNat_of_isBlank {c : Char} (h : isBlank c) : c.toNat ≤ 32 ∨ c.toNat ∈ wideBlanks := by
  simp only [isBlank, Bool.or_eq_true, Bool.and_eq_true, decide_eq_true_eq, beq_iff_eq] at h
  simp only [wideBlanks, List.mem_append, List.mem_cons, List.mem_range'_1, List.not_mem_nil]
  omega

theorem insideTurns_of_mem_wideBlanks :
    ∀ n ∈ wideBlanks, 128 ≤ n ∧ insideTurns false alphanumericTurns n = false := by
  decide +kernel

theorem isAlphanum_eq_false_of_toNat_le {c : Char} (h : c.toNat ≤ 32) : c.isAlphanum = false := by
  have hall : ∀ n ≤ 32, (Char.ofNat n).isAlphanum = false := by decide
  rw [← Char.ofNat_toNat c]
  exact hall _ h

theorem isWordChar_eq_false_of_isBlank {c : Char} (h : isBlank c) : isWordChar c = false := by
  have hne : c ≠ '_' := by
    rintro rfl
    revert h
    decide
  rw [isWordChar, beq_eq_false_iff_ne.mpr hne, Bool.false_or, isAlphanumeric]
  rcases toNat_of_isBlank h with hlow | hwide
  · rw [if_pos (by omega), isAlphanum_eq_false_of_toNat_le hlow]
  · obtain ⟨hge, hin⟩ := insideTurns_of_mem_wideBlanks _ hwide
    rw [if_neg (by omega), memTurns, hin]

end BlockMarkup.Text

namespace BlockMarkup.Marker

open Text

variable {l t : Text} {c : Char}

/-! ## The parts of an opener -/

theorem isBlank_eq_false_of_isKeywordChar (h : isKeywordChar c) : isBlank c = false := by
  by_contra hc
  rw [Bool.not_eq_false] at hc
  rw [isKeywordChar, isWordChar_eq_false_of_isBlank hc, Bool.false_or, beq_iff_eq] at h
  subst h
  revert hc
  decide

theorem isKeywordChar_of_isAlpha (h : c.isAlpha) : isKeywordChar c := by
  rw [isKeywordChar, isWordChar, isAlphanumeric]
  have hz : c.val ≤ 122 := by
    change (decide (65 ≤ c.val ∧ c.val ≤ 90) ||
      decide (97 ≤ c.val) && decide (c.val ≤ 122)) = true at h
    simp only [Bool.or_eq_true, Bool.and_eq_true, decide_eq_true_eq] at h
    rcases h with ⟨-, hle⟩ | ⟨-, hle⟩
    · exact UInt32.le_trans hle (by decide)
    · exact hle
  have hlow : c.toNat < 128 := Nat.lt_of_le_of_lt (UInt32.le_iff_toNat_le.mp hz) (by decide)
  simp [hlow, Char.isAlphanum, h]

theorem isKeywordChar_eq_false_of_isTrail (h : isTrail c) : isKeywordChar c = false := by
  by_contra hc
  rw [Bool.not_eq_false] at hc
  have := isBlank_eq_false_of_isKeywordChar hc
  rw [isBlank_of_isTrail h] at this
  cases this

/-- What may follow the keyword of an opener: nothing but what may end a line, or a header. -/
inductive Tail : Text → Prop
  | plain {sp : Text} (hsp : ∀ c ∈ sp, isTrail c) : Tail sp
  | header {sp h : Text} (hsp : ∀ c ∈ sp, isTrail c) (hh : '\n' ∉ h) : Tail (sp ++ '|' :: h)

theorem header?_of_trail {sp : Text} (hsp : ∀ c ∈ sp, isTrail c) : header? sp = some [] := by
  rw [header?, List.dropWhile_eq_nil_iff.mpr hsp]

theorem header?_of_bar {sp h : Text} (hsp : ∀ c ∈ sp, isTrail c) (hh : '\n' ∉ h) :
    header? (sp ++ '|' :: h) = some (trim h) := by
  rw [header?, List.dropWhile_append_of_pos hsp, List.dropWhile_cons_of_neg (by decide)]
  simp [hh]

theorem header?_isSome_iff : (header? t).isSome ↔ Tail t := by
  constructor
  · intro h
    have hsplit := List.takeWhile_append_dropWhile (p := isTrail) (l := t)
    have hsp : ∀ c ∈ t.takeWhile isTrail, isTrail c := fun c hc => List.mem_takeWhile_imp hc
    unfold header? at h
    split at h
    · next hd =>
      rw [hd, List.append_nil] at hsplit
      rw [← hsplit]
      exact .plain hsp
    · next u hd =>
      rw [hd] at hsplit
      rw [← hsplit]
      refine .header hsp fun hmem => ?_
      simp [hmem] at h
    · cases h
  · rintro (hsp | ⟨hsp, hh⟩)
    · rw [header?_of_trail hsp]
      rfl
    · rw [header?_of_bar hsp hh]
      rfl

theorem Tail.newline_notMem (h : Tail t) : '\n' ∉ t := by
  cases h with
  | plain hsp => exact newline_notMem_of_forall (by decide) hsp
  | header hsp hh => simp [newline_notMem_of_forall (by decide) hsp, hh]

theorem Tail.dropWhile_append (h : Tail t) {kw : Text} (hkw : ∀ c ∈ kw, isKeywordChar c) :
    (kw ++ t).dropWhile isKeywordChar = t := by
  have hstop : t.dropWhile isKeywordChar = t := by
    cases h with
    | @plain t hsp =>
      cases t with
      | nil => rfl
      | cons c t =>
        have hc := isKeywordChar_eq_false_of_isTrail (hsp c List.mem_cons_self)
        rw [List.dropWhile_cons_of_neg (by simp [hc])]
    | @header sp h hsp hh =>
      cases sp with
      | nil => exact List.dropWhile_cons_of_neg (by decide)
      | cons c t =>
        have hc := isKeywordChar_eq_false_of_isTrail (hsp c List.mem_cons_self)
        rw [List.cons_append, List.dropWhile_cons_of_neg (by simp [hc])]
  rw [List.dropWhile_append_of_pos hkw, hstop]

/-- An opener in its parts: what follows the slashes is a gap, the keyword and a tail. -/
structure OpenerParts (t gap : Text) (c : Char) (kw tail : Text) : Prop where
  eq : t = gap ++ c :: (kw ++ tail)
  gap : ∀ d ∈ gap, isIndent d
  alpha : c.isAlpha
  keyword : ∀ d ∈ kw, isKeywordChar d
  tail : Tail tail

theorem OpenerParts.opener?_eq {gap kw tail : Text} (ht : afterSlashes? l = some t)
    (h : OpenerParts t gap c kw tail) :
    opener? l = (header? tail).map fun header => ⟨c :: kw, header⟩ := by
  have hc : isIndent c = false := by
    have := isTrail_of_isAlpha h.alpha
    rw [isTrail, Bool.or_eq_false_iff] at this
    exact this.1
  have hdrop : t.dropWhile isIndent = c :: (kw ++ tail) := by
    rw [h.eq, List.dropWhile_append_of_pos h.gap, List.dropWhile_cons_of_neg (by simp [hc])]
  have htail := h.tail.dropWhile_append h.keyword
  have hkeyword : (kw ++ tail).takeWhile isKeywordChar = kw := by
    have hsplit := List.takeWhile_append_dropWhile (p := isKeywordChar) (l := kw ++ tail)
    rw [htail] at hsplit
    exact List.append_cancel_right hsplit
  rw [opener?, ht]
  simp only [Option.map_some, hdrop, h.alpha, if_true, htail, hkeyword]

theorem OpenerParts.isSome_opener? {gap kw tail : Text} (ht : afterSlashes? l = some t)
    (h : OpenerParts t gap c kw tail) : isOpener l := by
  rw [isOpener, h.opener?_eq ht, Option.isSome_map]
  exact header?_isSome_iff.mpr h.tail

theorem exists_openerParts (h : isOpener l) :
    ∃ t, afterSlashes? l = some t ∧ ∃ gap c kw tail, OpenerParts t gap c kw tail := by
  rw [isOpener, opener?] at h
  cases ht : afterSlashes? l with
  | none => simp [ht] at h
  | some t =>
    simp only [ht, Option.map_some] at h
    cases hd : t.dropWhile isIndent with
    | nil => simp [hd] at h
    | cons c u =>
      simp only [hd] at h
      by_cases hc : c.isAlpha
      · simp only [hc, if_true, Option.isSome_map] at h
        refine ⟨t, rfl, t.takeWhile isIndent, c, u.takeWhile isKeywordChar,
          u.dropWhile isKeywordChar, ?_, fun d hd => List.mem_takeWhile_imp hd, hc,
          fun d hd => List.mem_takeWhile_imp hd, header?_isSome_iff.mp h⟩
        rw [List.takeWhile_append_dropWhile, ← hd, List.takeWhile_append_dropWhile]
      · simp [hc] at h

/-- A header is written on the line of its opener. -/
theorem header_subset {m : Opener} (h : opener? l = some m) : m.header ⊆ l := by
  have hheader : ∀ {t h : Text}, header? t = some h → h ⊆ t := by
    intro t h hh
    unfold header? at hh
    split at hh
    · simp [← Option.some.inj hh]
    · next u hu =>
      split at hh
      · cases hh
      · intro c hc
        rw [← Option.some.inj hh] at hc
        have hmem : c ∈ t.dropWhile isTrail := hu ▸ List.mem_cons_of_mem _ (mem_of_mem_trim hc)
        exact (List.dropWhile_sublist _).subset hmem
    · cases hh
  unfold opener? at h
  split at h
  · next c u hu =>
    split at h
    · obtain ⟨t, ht, hcu⟩ := Option.map_eq_some_iff.mp hu
      obtain ⟨header, hhead, rfl⟩ := Option.map_eq_some_iff.mp h
      intro d hd
      have hrest : d ∈ c :: u :=
        List.mem_cons_of_mem _ ((List.dropWhile_sublist _).subset (hheader hhead hd))
      have hslashes : d ∈ "///" ++ t :=
        List.mem_append_right _ ((List.dropWhile_sublist _).subset (hcu ▸ hrest))
      rw [← afterSlashes?_eq_some_iff.mp ht] at hslashes
      exact mem_of_mem_dropFinalNewline ((List.dropWhile_sublist _).subset hslashes)
    · cases h
  · cases h

/-! ## Markers when their ends change -/

/-- Openers and closing markers. -/
def isMarker (l : Text) : Bool := isOpener l || isCloser l

theorem afterSlashes?_iff (h : '\n' ∉ l) :
    afterSlashes? l = some t ↔ l.dropWhile isIndent = "///" ++ t := by
  rw [afterSlashes?_eq_some_iff, dropFinalNewline_eq h]

theorem exists_afterSlashes?_of_isMarker (h : isMarker l) : ∃ t, afterSlashes? l = some t := by
  rcases Bool.or_eq_true_iff.mp h with h | h
  · obtain ⟨t, ht, -⟩ := exists_openerParts h
    exact ⟨t, ht⟩
  · obtain ⟨t, ht, -⟩ := isCloser_iff_exists.mp h
    exact ⟨t, ht⟩

theorem Tail.trimEnd (h : Tail t) : Tail (trimEnd t) := by
  cases h with
  | plain hsp =>
    rw [trimEnd_eq_nil fun c hc => isBlank_of_isTrail (hsp c hc)]
    exact .plain (by simp)
  | header hsp hh =>
    rw [trimEnd_append_cons (by decide)]
    exact .header hsp fun hmem => hh (mem_of_mem_trimEnd hmem)

theorem Tail.header?_trimEnd (h : Tail t) : header? (Text.trimEnd t) = header? t := by
  cases h with
  | plain hsp =>
    rw [trimEnd_eq_nil fun c hc => isBlank_of_isTrail (hsp c hc), header?_of_trail hsp]
    rfl
  | header hsp hu =>
    have hflat := fun hmem => hu (mem_of_mem_trimEnd hmem)
    rw [trimEnd_append_cons (by decide), header?_of_bar hsp hflat, header?_of_bar hsp hu,
      trim_trimEnd]

theorem OpenerParts.trimEnd {gap kw tail : Text} (h : OpenerParts t gap c kw tail) :
    OpenerParts (trimEnd t) gap c kw (trimEnd tail) := by
  have hc : isBlank c = false :=
    isBlank_eq_false_of_isKeywordChar (isKeywordChar_of_isAlpha h.alpha)
  have hkw : ∀ d ∈ kw, isBlank d = false := fun d hd =>
    isBlank_eq_false_of_isKeywordChar (h.keyword d hd)
  refine ⟨?_, h.gap, h.alpha, h.keyword, h.tail.trimEnd⟩
  rw [h.eq, trimEnd_append_cons hc, trimEnd_append hkw]

/-- What stands behind the slashes of a trimmed line. -/
theorem afterSlashes?_trim (hl : '\n' ∉ l) (h : afterSlashes? l = some t) :
    afterSlashes? (trim l) = some (trimEnd t) := by
  have hb : l.dropWhile isBlank = "///" ++ t :=
    dropWhile_eq_cons_of_imp (fun c => isBlank_of_isIndent) ((afterSlashes?_iff hl).mp h) (by decide)
  have htrim : trim l = "///" ++ trimEnd t := by
    rw [trim, hb]
    exact trimEnd_append_cons (by decide) "//" t
  rw [afterSlashes?_iff fun hmem => hl (mem_of_mem_trim hmem), htrim]
  exact List.dropWhile_cons_of_neg (by decide)

/-- An opener is the same one when it is trimmed. -/
theorem opener?_trim {m : Opener} (hl : '\n' ∉ l) (h : opener? l = some m) :
    opener? (trim l) = some m := by
  obtain ⟨t, ht, gap, c, kw, tail, hparts⟩ := exists_openerParts (l := l) (by simp [isOpener, h])
  rw [hparts.trimEnd.opener?_eq (afterSlashes?_trim hl ht), hparts.tail.header?_trimEnd,
    ← hparts.opener?_eq ht, h]

theorem isCloser_trim (hl : '\n' ∉ l) (h : isCloser l) : isCloser (trim l) := by
  obtain ⟨t, ht, htrail⟩ := isCloser_iff_exists.mp h
  refine isCloser_iff_exists.mpr ⟨trimEnd t, afterSlashes?_trim hl ht, fun c hc => ?_⟩
  exact htrail c (mem_of_mem_trimEnd hc)

theorem isMarker_trim (hl : '\n' ∉ l) (h : isMarker l) : isMarker (trim l) := by
  rcases Bool.or_eq_true_iff.mp h with h | h
  · obtain ⟨m, hm⟩ := Option.isSome_iff_exists.mp h
    simp [isMarker, isOpener, opener?_trim hl hm]
  · simp [isMarker, isCloser_trim hl h]

/-- Where a text is cut in two, a character stands in the second part if it is not in the first. -/
theorem exists_append_of_notMem {x y p q : Text} (h : x ++ c :: y = p ++ q) (hc : c ∉ p) :
    ∃ x', x = p ++ x' ∧ q = x' ++ c :: y := by
  rcases List.append_eq_append_iff.mp h with ⟨p', hp, hq⟩ | ⟨x', hx, hq⟩
  · cases p' with
    | nil => exact ⟨[], by simpa using hp.symm, by simpa using hq.symm⟩
    | cons d p' =>
      obtain ⟨rfl, -⟩ := List.cons.inj hq
      simp [hp] at hc
  · exact ⟨x', hx, hq⟩

theorem dropWhile_append_cons {p : Char → Bool} (hc : p c = false) (x y : Text) :
    (x ++ c :: y).dropWhile p = x.dropWhile p ++ c :: y := by
  rw [List.dropWhile_append]
  split
  · next hnil =>
    rw [List.isEmpty_iff.mp hnil, List.nil_append]
    exact List.dropWhile_cons_of_neg (by simp [hc])
  · rfl

theorem takeWhile_append_cons {p : Char → Bool} (hc : p c = false) (x y : Text) :
    (x ++ c :: y).takeWhile p = x.takeWhile p := by
  induction x with
  | nil => exact List.takeWhile_cons_of_neg (by simp [hc])
  | cons d x ih => rw [List.cons_append, List.takeWhile_cons, List.takeWhile_cons, ih]

/-- Text that continues a tail behind a `<` belongs to a header, where any other text may stand. -/
theorem Tail.of_append_lt {s w : Text} (h : Tail (t ++ '<' :: s)) (hw : '\n' ∉ w) : Tail (t ++ w) := by
  generalize hu : t ++ '<' :: s = u at h
  cases h with
  | plain hsp =>
    exact absurd (hsp '<' (by simp [← hu])) (by decide)
  | @header sp h hsp hh =>
    have hlt : '<' ∉ sp ++ ['|'] := by
      intro hmem
      rcases List.mem_append.mp hmem with hmem | hmem
      · exact absurd (hsp _ hmem) (by decide)
      · simp at hmem
    obtain ⟨h', rfl, rfl⟩ := exists_append_of_notMem (hu.trans (List.append_cons sp '|' h)) hlt
    have heq : (sp ++ ['|']) ++ h' ++ w = sp ++ '|' :: (h' ++ w) := by simp
    rw [heq]
    refine .header hsp fun hmem => ?_
    rcases List.mem_append.mp hmem with hmem | hmem
    · exact hh (by simp [hmem])
    · exact hw hmem

theorem OpenerParts.of_append_lt {s w gap kw tail : Text}
    (h : OpenerParts (t ++ '<' :: s) gap c kw tail) (hw : '\n' ∉ w) :
    ∃ tail', OpenerParts (t ++ w) gap c kw tail' := by
  have hlt : '<' ∉ gap ++ c :: kw := by
    intro hmem
    rcases List.mem_append.mp hmem with hmem | hmem
    · exact absurd (h.gap _ hmem) (by decide)
    · have : isKeywordChar '<' := by
        rcases List.mem_cons.mp hmem with heq | hmem
        · exact isKeywordChar_of_isAlpha (heq ▸ h.alpha)
        · exact h.keyword _ hmem
      exact absurd this (by decide)
  have heq : t ++ '<' :: s = (gap ++ c :: kw) ++ tail := by simpa using h.eq
  obtain ⟨tail', rfl, htail⟩ := exists_append_of_notMem heq hlt
  exact ⟨tail' ++ w, by simp, h.gap, h.alpha, h.keyword, Tail.of_append_lt (htail ▸ h.tail) hw⟩

/-- Markup behind a line does not make it a marker. -/
theorem isMarker_of_append_lt {s w : Text} (hl : '\n' ∉ l ++ '<' :: s) (h : isMarker (l ++ '<' :: s))
    (hw : '\n' ∉ w) : isMarker (l ++ w) := by
  have hl' : '\n' ∉ l ++ w := by
    simp only [List.mem_append, not_or] at hl ⊢
    exact ⟨hl.1, hw⟩
  obtain ⟨t, ht⟩ := exists_afterSlashes?_of_isMarker h
  have heq := (afterSlashes?_iff hl).mp ht
  rw [dropWhile_append_cons (by decide)] at heq
  obtain ⟨y, hy, rfl⟩ := exists_append_of_notMem heq (by decide)
  have hafter : afterSlashes? (l ++ w) = some (y ++ w) := by
    rw [afterSlashes?_iff hl', List.dropWhile_append, if_neg (by simp [hy]), hy, List.append_assoc]
  rcases Bool.or_eq_true_iff.mp h with h | h
  · obtain ⟨u, hu, gap, c, kw, tail, hparts⟩ := exists_openerParts h
    obtain rfl : y ++ '<' :: s = u := Option.some.inj (ht.symm.trans hu)
    obtain ⟨tail', hparts'⟩ := hparts.of_append_lt hw
    simp [isMarker, hparts'.isSome_opener? hafter]
  · rw [isCloser, ht] at h
    exact absurd (List.all_eq_true.mp h '<' (by simp)) (by decide)

/-! ## Inert lines -/

/-- A line that is no marker, trimmed or not. -/
structure Inert (l : Text) : Prop where
  flat : '\n' ∉ l
  unmarked : isMarker (trim l) = false

namespace Inert

theorem isMarker_eq_false (h : Inert l) : isMarker l = false := by
  by_contra hne
  have := isMarker_trim h.flat (by simpa using hne)
  rw [h.unmarked] at this
  cases this

theorem opener?_eq_none (h : Inert l) : opener? l = none := by
  have := h.isMarker_eq_false
  rw [isMarker, Bool.or_eq_false_iff, isOpener, Option.isSome_eq_false_iff] at this
  exact Option.isNone_iff_eq_none.mp this.1

theorem isCloser_eq_false (h : Inert l) : isCloser l = false := by
  have := h.isMarker_eq_false
  rw [isMarker, Bool.or_eq_false_iff] at this
  exact this.2

theorem congr {m : Text} (h : Inert l) (hm : '\n' ∉ m) (heq : trim m = trim l) : Inert m :=
  ⟨hm, heq ▸ h.unmarked⟩

/-- A line of markup is inert. -/
theorem of_lt {s : Text} (hs : '\n' ∉ s) : Inert ('<' :: s) := by
  refine ⟨by simpa using hs, ?_⟩
  rw [trim_cons (by decide)]
  by_contra h
  obtain ⟨t, ht⟩ := exists_afterSlashes?_of_isMarker (by simpa using h)
  rw [afterSlashes?_iff fun hmem => ?_] at ht
  · rw [List.dropWhile_cons_of_neg (by decide)] at ht
    simp at ht
  · exact hs (mem_of_mem_trimEnd (by simpa using hmem))

theorem append_lt {s : Text} (h : Inert l) (hs : '\n' ∉ s) : Inert (l ++ '<' :: s) := by
  have hflat : '\n' ∉ l ++ '<' :: s := by simp [h.flat, hs]
  refine ⟨hflat, ?_⟩
  rw [trim, dropWhile_append_cons (by decide), trimEnd_append_cons (by decide)]
  by_contra hne
  have hflat' : '\n' ∉ l.dropWhile isBlank ++ '<' :: trimEnd s := by
    intro hmem
    rcases List.mem_append.mp hmem with hmem | hmem
    · exact h.flat ((List.dropWhile_sublist _).subset hmem)
    · exact hs (mem_of_mem_trimEnd (by simpa using hmem))
  have hstart : isMarker (l.dropWhile isBlank) := by
    have := isMarker_of_append_lt hflat' (by simpa using hne) (w := []) (by simp)
    rwa [List.append_nil] at this
  have htrim := isMarker_trim (fun hmem => h.flat ((List.dropWhile_sublist _).subset hmem)) hstart
  rw [trim_dropWhile, h.unmarked] at htrim
  cases htrim

theorem nil : Inert [] := ⟨by simp, by decide⟩

end Inert

end BlockMarkup.Marker
