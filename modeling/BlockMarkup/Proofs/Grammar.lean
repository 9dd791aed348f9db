import BlockMarkup.Proofs.Options.Setting

/-!
# The grammar of lines

How an opener, a closing marker and an option line are written, part by part (`OpenerLine`,
`CloserLine`, `SettingLine`). Reading accepts what is written so and nothing else, and no line is read
as two of the three (`recognised_iff`).

A text read as a line may hold line feeds. One of them behind the line is set aside, and as no line
ends in a line feed of its own, nothing else is lost by that. An option line may hold more of them
among its blanks. How these are divided between the gap behind the colon and the value is left open by
the grammar, and does not matter: the value is trimmed.
-/

namespace BlockMarkup

open Text Marker

namespace Grammar

/-! ## The ends of a line -/

/-- What may stand behind a line: nothing, or one line feed. -/
inductive LineEnd : Text → Prop
  | nothing : LineEnd []
  | newline : LineEnd ['\n']

/-- Spaces and tabs. -/
def Indent (t : Text) : Prop := ∀ c ∈ t, c = ' ' ∨ c = '\t'

/-- Spaces, tabs and returns. -/
def Trail (t : Text) : Prop := ∀ c ∈ t, c = ' ' ∨ c = '\t' ∨ c = '\r'

variable {l t u indent stop : Text}

theorem indent_iff : Indent t ↔ ∀ c ∈ t, isIndent c := by simp [Indent, isIndent]

theorem trail_iff : Trail t ↔ ∀ c ∈ t, isTrail c := by simp [Trail, isTrail, isIndent, or_assoc]

theorem exists_lineEnd (t : Text) : ∃ stop, LineEnd stop ∧ t = dropFinalNewline t ++ stop := by
  rcases eq_dropFinalNewline_or t with heq | heq
  · exact ⟨[], .nothing, heq.trans (List.append_nil _).symm⟩
  · exact ⟨['\n'], .newline, heq⟩

/-- The end of a line is what is set aside, as the line itself ends in no line feed. -/
theorem LineEnd.dropFinalNewline_append (hstop : LineEnd stop) (ht : t.getLast? ≠ some '\n') :
    dropFinalNewline (t ++ stop) = t := by
  cases hstop with
  | nothing => rw [List.append_nil, dropFinalNewline_of_getLast? ht]
  | newline => exact dropFinalNewline_append_newline t

theorem getLast?_ne_newline (h : '\n' ∉ t) : t.getLast? ≠ some '\n' := fun hlast =>
  h (List.mem_of_getLast? hlast)

/-! ## Marker lines -/

/-- An ASCII letter, and then word characters and hyphens. -/
inductive Keyword : Text → Prop
  | mk {c : Char} {cs : Text} (hc : c.isAlpha) (hcs : ∀ d ∈ cs, isWordChar d ∨ d = '-') :
      Keyword (c :: cs)

/-- The line of an opener: slashes, a keyword, and behind a bar the header, if there is one. -/
inductive OpenerLine : Opener → Text → Prop
  | plain {indent gap keyword trail stop : Text} (hindent : Indent indent) (hgap : Indent gap)
      (hkeyword : Keyword keyword) (htrail : Trail trail) (hstop : LineEnd stop) :
      OpenerLine ⟨keyword, []⟩ (indent ++ "///" ++ gap ++ keyword ++ trail ++ stop)
  | header {indent gap keyword trail header stop : Text} (hindent : Indent indent) (hgap : Indent gap)
      (hkeyword : Keyword keyword) (htrail : Trail trail) (hheader : '\n' ∉ header)
      (hstop : LineEnd stop) :
      OpenerLine ⟨keyword, trim header⟩
        (indent ++ "///" ++ gap ++ keyword ++ trail ++ '|' :: header ++ stop)

/-- The line of a closing marker: slashes alone. -/
inductive CloserLine : Text → Prop
  | mk {indent trail stop : Text} (hindent : Indent indent) (htrail : Trail trail)
      (hstop : LineEnd stop) : CloserLine (indent ++ "///" ++ trail ++ stop)

theorem exists_of_afterSlashes? (h : afterSlashes? l = some t) :
    ∃ indent stop, Indent indent ∧ LineEnd stop ∧ l = indent ++ "///" ++ t ++ stop := by
  obtain ⟨stop, hstop, hl⟩ := exists_lineEnd l
  have hsplit := List.takeWhile_append_dropWhile (p := isIndent) (l := dropFinalNewline l)
  rw [afterSlashes?_eq_some_iff.mp h] at hsplit
  have hindent : Indent ((dropFinalNewline l).takeWhile isIndent) :=
    indent_iff.mpr fun c hc => List.mem_takeWhile_imp hc
  refine ⟨_, stop, hindent, hstop, ?_⟩
  rw [List.append_assoc _ _ t, hsplit, ← hl]

theorem afterSlashes?_append (hindent : Indent indent) (hstop : LineEnd stop) (ht : '\n' ∉ t) :
    afterSlashes? (indent ++ "///" ++ t ++ stop) = some t := by
  rw [indent_iff] at hindent
  have hflat : '\n' ∉ indent ++ "///" ++ t := by
    simp [newline_notMem_of_forall (by decide) hindent, ht]
  rw [afterSlashes?_eq_some_iff, hstop.dropFinalNewline_append (getLast?_ne_newline hflat),
    List.append_assoc, List.dropWhile_append_of_pos hindent]
  exact List.dropWhile_cons_of_neg (by decide)

theorem isCloser_iff : isCloser l ↔ CloserLine l := by
  rw [isCloser_iff_exists]
  constructor
  · rintro ⟨t, ht, htrail⟩
    obtain ⟨indent, stop, hindent, hstop, rfl⟩ := exists_of_afterSlashes? ht
    exact .mk hindent (trail_iff.mpr htrail) hstop
  · rintro ⟨hindent, htrail, hstop⟩
    rw [trail_iff] at htrail
    have hflat := newline_notMem_of_forall (by decide) htrail
    exact ⟨_, afterSlashes?_append hindent hstop hflat, htrail⟩

theorem Keyword.newline_notMem {keyword : Text} (h : Keyword keyword) : '\n' ∉ keyword := by
  obtain @⟨c, cs, hc, hcs⟩ := h
  have hchars : ∀ d ∈ c :: cs, isKeywordChar d :=
    List.forall_mem_cons.mpr ⟨isKeywordChar_of_isAlpha hc, by simpa [isKeywordChar] using hcs⟩
  exact newline_notMem_of_forall (by decide) hchars

/-- What an opener is read as, given what stands behind its keyword. -/
theorem opener?_append {gap keyword tail : Text} (hindent : Indent indent) (hgap : Indent gap)
    (hkeyword : Keyword keyword) (htail : Tail tail) (hstop : LineEnd stop) :
    opener? (indent ++ "///" ++ (gap ++ keyword ++ tail) ++ stop) =
      (header? tail).map fun header => ⟨keyword, header⟩ := by
  rw [indent_iff] at hgap
  have hflat : '\n' ∉ gap ++ keyword ++ tail := by
    simp [newline_notMem_of_forall (by decide) hgap, hkeyword.newline_notMem, htail.newline_notMem]
  obtain @⟨c, cs, hc, hcs⟩ := hkeyword
  have hparts : OpenerParts (gap ++ c :: cs ++ tail) gap c cs tail :=
    ⟨List.append_assoc gap (c :: cs) tail, hgap, hc, by simpa [isKeywordChar] using hcs, htail⟩
  exact hparts.opener?_eq (afterSlashes?_append hindent hstop hflat)

theorem opener?_eq_some_iff {o : Opener} : opener? l = some o ↔ OpenerLine o l := by
  constructor
  · intro h
    obtain ⟨t, ht, gap, c, cs, tail, hparts⟩ := exists_openerParts (l := l) (by simp [isOpener, h])
    rw [hparts.opener?_eq ht] at h
    obtain ⟨heq, hgap, hc, hcs, htail⟩ := hparts
    obtain ⟨indent, stop, hindent, hstop, rfl⟩ := exists_of_afterSlashes? ht
    rw [← indent_iff] at hgap
    have hkeyword : Keyword (c :: cs) := .mk hc (by simpa [isKeywordChar] using hcs)
    cases htail with
    | plain htrail =>
      rw [header?_of_trail htrail] at h
      obtain rfl := Option.some.inj h
      have hline := OpenerLine.plain hindent hgap hkeyword (trail_iff.mpr htrail) hstop
      simpa [heq] using hline
    | header htrail hheader =>
      rw [header?_of_bar htrail hheader] at h
      obtain rfl := Option.some.inj h
      have hline := OpenerLine.header hindent hgap hkeyword (trail_iff.mpr htrail) hheader hstop
      simpa [heq] using hline
  · intro h
    cases h with
    | plain hindent hgap hkeyword htrail hstop =>
      rw [trail_iff] at htrail
      have h := opener?_append hindent hgap hkeyword (.plain htrail) hstop
      rw [header?_of_trail htrail] at h
      simpa using h
    | header hindent hgap hkeyword htrail hheader hstop =>
      rw [trail_iff] at htrail
      have h := opener?_append hindent hgap hkeyword (.header htrail hheader) hstop
      rw [header?_of_bar htrail hheader] at h
      simpa using h

/-! ## Option lines -/

/-- ASCII letters, digits and underscores, one at least. -/
structure Key (t : Text) : Prop where
  named : t ≠ []
  chars : ∀ c ∈ t, c.isAlphanum ∨ c = '_'

/-- The line of an option: a key, a colon, and a value of which blanks alone may be left. -/
inductive SettingLine : Setting → Text → Prop
  | mk {indent key gap value stop : Text} (hindent : ∀ c ∈ indent, isBlank c) (hkey : Key key)
      (hgap : ∀ c ∈ gap, isBlank c) (hvalue : value ≠ []) (hflat : '\n' ∉ value)
      (hstop : LineEnd stop) :
      SettingLine (key, OptionValue.ofText (trim value))
        (indent ++ key ++ ':' :: gap ++ value ++ stop)

theorem ofLine?_eq_some_iff {s : Setting} : Setting.ofLine? l = some s ↔ SettingLine s l := by
  constructor
  · intro h
    obtain ⟨key, v⟩ := s
    obtain ⟨indent, gap, value, hparts, rfl⟩ := Setting.exists_parts_of_ofLine? h
    obtain ⟨stop, hstop, hl⟩ := exists_lineEnd l
    have hkey : Key key := ⟨hparts.named, by simpa [isKeyChar] using hparts.key⟩
    have hline := SettingLine.mk hparts.indent hkey hparts.gap hparts.nonempty hparts.flat hstop
    rw [hl, hparts.eq]
    simpa using hline
  · rintro @⟨indent, key, gap, value, stop, hindent, hkey, hgap, hvalue, hflat, hstop⟩
    have hlast : (indent ++ key ++ ':' :: gap ++ value).getLast? ≠ some '\n' := by
      rw [List.getLast?_append_of_ne_nil _ hvalue]
      exact getLast?_ne_newline hflat
    have hparts : Setting.Parts (indent ++ key ++ ':' :: gap ++ value ++ stop) indent key gap value := by
      refine ⟨?_, hindent, hkey.named, by simpa [isKeyChar] using hkey.chars, hgap, hvalue, hflat⟩
      rw [hstop.dropFinalNewline_append hlast]
      simp
    exact hparts.ofLine?_eq

/-! ## The three together -/

/-- Reading accepts the lines of the grammars and no others, and what it reads is what they name. All
ways to cut an option line into its parts set the same. No line is two of an opener, a closing marker
and an option line. -/
theorem recognised_iff (l : Text) :
    (∀ o, opener? l = some o ↔ OpenerLine o l) ∧ (isCloser l ↔ CloserLine l) ∧
      (∀ s, Setting.ofLine? l = some s ↔ SettingLine s l) ∧
      (∀ s s', SettingLine s l → SettingLine s' l → s = s') ∧
      ¬ (isOpener l ∧ isCloser l) ∧ ¬ (isOpener l ∧ Setting.isLine l) ∧
      ¬ (isCloser l ∧ Setting.isLine l) := by
  refine ⟨fun o => opener?_eq_some_iff, isCloser_iff, fun s => ofLine?_eq_some_iff, ?_, ?_, ?_, ?_⟩
  · intro s s' hs hs'
    exact Option.some.inj ((ofLine?_eq_some_iff.mpr hs).symm.trans (ofLine?_eq_some_iff.mpr hs'))
  · rintro ⟨hopener, hcloser⟩
    rw [isOpener, opener?_eq_none_of_isCloser hcloser] at hopener
    cases hopener
  · rintro ⟨hopener, hline⟩
    rw [isOpener, opener?_eq_none_of_isLine hline] at hopener
    cases hopener
  · rintro ⟨hcloser, hline⟩
    rw [isLine_eq_false_of_isCloser hcloser] at hline
    cases hline

example : Setting.ofLine? "k:\n \n v\n" = some ("k".toList, .text "v".toList) ∧
    Setting.ofLine? "k: " = some ("k".toList, .text []) ∧ Setting.ofLine? "k:\n" = none := by
  decide

end Grammar

end BlockMarkup
