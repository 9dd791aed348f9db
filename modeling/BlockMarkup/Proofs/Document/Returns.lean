import BlockMarkup.Proofs.Document.Relabel
import BlockMarkup.Proofs.Options.Setting
import BlockMarkup.Proofs.Text.Returns
import Mathlib.Data.List.DropRight

/-!
# Lines that end in a return

A return at the end of a line changes nothing in how the line is read, neither as a marker nor as an
option, with one exception: behind a colon it counts as a blank value, so that it makes an option line
of a key that lacks a value (`Returned`). Without such keys, a text without its returns has the forest
of the text with its lines written without theirs (`Forest.ofText_unreturn`).

1. Opener, closing marker and option line are each read the same with a return behind them
   (`opener?_append_return`, `isCloser_append_return`, `ofLine?_append_return`).
2. So option sections have the same length (`OptionSection.length_unreturn`).
3. Tokens are the same but for the returns in the lines they hold (`Token.scan_unreturn`).
-/

namespace BlockMarkup

open Text Marker

/-! ## Reading a line -/

namespace Marker

variable {l : Text}

theorem after?_append {start : Text} {c : Char} (hc : c ∉ start) (l : Text) :
    after? start (l ++ [c]) = (after? start l).map (· ++ [c]) := by
  ext u
  rw [after?_eq_some_iff, Option.map_eq_some_iff]
  constructor
  · intro h
    obtain ⟨rest, rfl, rfl⟩ := exists_append_of_notMem h hc
    exact ⟨rest, after?_eq_some_iff.mpr rfl, rfl⟩
  · rintro ⟨rest, hrest, rfl⟩
    rw [after?_eq_some_iff.mp hrest, List.append_assoc]

theorem afterSlashes?_append_return (hl : '\n' ∉ l) :
    afterSlashes? (l ++ ['\r']) = (afterSlashes? l).map (· ++ ['\r']) := by
  have hl' : '\n' ∉ l ++ ['\r'] := by simp [hl]
  rw [afterSlashes?, dropFinalNewline_eq hl', dropWhile_append_cons (by decide),
    after?_append (by decide), afterSlashes?, dropFinalNewline_eq hl]

theorem header?_append_return (t : Text) : header? (t ++ ['\r']) = header? t := by
  have hreturn : ['\r'].dropWhile isTrail = [] := by decide
  unfold header?
  rw [List.dropWhile_append, hreturn]
  cases hd : t.dropWhile isTrail with
  | nil => rfl
  | cons c u =>
    by_cases hc : c = '|'
    · subst hc
      simp [trim_concat_of_blank (c := '\r') (by decide)]
    · simp [hc]

theorem opener?_append_return (hl : '\n' ∉ l) : opener? (l ++ ['\r']) = opener? l := by
  have hreturn : isKeywordChar '\r' = false := isKeywordChar_eq_false_of_isTrail (by decide)
  unfold opener?
  rw [afterSlashes?_append_return hl]
  cases afterSlashes? l with
  | none => rfl
  | some t =>
    have hindent : (t ++ ['\r']).dropWhile isIndent = t.dropWhile isIndent ++ ['\r'] :=
      dropWhile_append_cons (by decide) t []
    simp only [Option.map_some, hindent]
    cases t.dropWhile isIndent with
    | nil => rfl
    | cons c u =>
      have htake : (u ++ ['\r']).takeWhile isKeywordChar = u.takeWhile isKeywordChar :=
        takeWhile_append_cons hreturn u []
      have hdrop : (u ++ ['\r']).dropWhile isKeywordChar = u.dropWhile isKeywordChar ++ ['\r'] :=
        dropWhile_append_cons hreturn u []
      simp only [List.cons_append, htake, hdrop, header?_append_return]

theorem isCloser_append_return (hl : '\n' ∉ l) : isCloser (l ++ ['\r']) = isCloser l := by
  unfold isCloser
  rw [afterSlashes?_append_return hl]
  cases afterSlashes? l with
  | none => rfl
  | some t =>
    have hreturn : isTrail '\r' := by decide
    simp [hreturn]

end Marker

namespace Setting

variable {l : Text}

/-- A key and a colon with nothing behind, which are no option line. -/
def isBare (l : Text) : Bool :=
  let t := l.dropWhile isBlank
  !(t.takeWhile isKeyChar).isEmpty && t.dropWhile isKeyChar = [':']

theorem isBare_of_mem (h : '>' ∈ l) : isBare l = false := by
  obtain ⟨x, y, rfl⟩ := List.append_of_mem h
  have hne : ∀ z : Text, z ++ '>' :: y ≠ [':'] := by
    intro z hz
    have hmem : '>' ∈ z ++ '>' :: y := by simp
    rw [hz] at hmem
    revert hmem
    decide
  have hblank : isBlank '>' = false := by decide
  have hkey : isKeyChar '>' = false := by decide
  simp only [isBare, dropWhile_append_cons hblank, dropWhile_append_cons hkey, hne, decide_false,
    Bool.and_false]

theorem value?_append_return {t : Text} (ht : '\n' ∉ t) (hne : t ≠ []) :
    value? (t ++ ['\r']) = value? t := by
  have ht' : '\n' ∉ t ++ ['\r'] := by simp [ht]
  rw [value?_of_flat ht', value?_of_flat ht, trim_concat_of_blank (by decide)]
  simp [hne]

theorem ofLine?_append_return (hl : '\n' ∉ l) (hbare : isBare l = false) :
    ofLine? (l ++ ['\r']) = ofLine? l := by
  have hl' : '\n' ∉ l ++ ['\r'] := by simp [hl]
  have hreturn : ['\r'].dropWhile isBlank = [] := by decide
  unfold ofLine?
  rw [dropFinalNewline_eq hl', dropFinalNewline_eq hl, List.dropWhile_append, hreturn]
  simp only [isBare] at hbare
  generalize ht : l.dropWhile isBlank = t at hbare ⊢
  cases t with
  | nil => rfl
  | cons d u =>
    have htake : (d :: u ++ ['\r']).takeWhile isKeyChar = (d :: u).takeWhile isKeyChar :=
      takeWhile_append_cons (by decide) (d :: u) []
    have hdrop : (d :: u ++ ['\r']).dropWhile isKeyChar = (d :: u).dropWhile isKeyChar ++ ['\r'] :=
      dropWhile_append_cons (by decide) (d :: u) []
    simp only [List.isEmpty_cons, Bool.false_eq_true, if_false, htake, hdrop]
    generalize hkey : (d :: u).takeWhile isKeyChar = key at hbare
    cases hrest : (d :: u).dropWhile isKeyChar with
    | nil => rfl
    | cons c rest =>
      by_cases hc : c = ':'
      · subst hc
        cases key with
        | nil => rfl
        | cons e es =>
          have hmem : ∀ a ∈ rest, a ∈ l := fun a ha => by
            have hdu : a ∈ d :: u :=
              (List.dropWhile_sublist isKeyChar).subset (hrest ▸ List.mem_cons_of_mem _ ha)
            exact (List.dropWhile_sublist isBlank).subset (ht ▸ hdu)
          have hne : rest ≠ [] := by
            rintro rfl
            rw [hrest] at hbare
            simp at hbare
          have hvalue := value?_append_return (fun h => hl (hmem _ h)) hne
          simp [hvalue]
      · simp [hc]

end Setting

/-! ## Lines that may end in a return -/

/-- A line without returns but perhaps one at its end, where no bare key stands in front of it. -/
structure Returned (l : Text) : Prop where
  flat : '\n' ∉ l
  eq : l = unreturn l ∨ l = unreturn l ++ ['\r'] ∧ Setting.isBare (unreturn l) = false

namespace Returned

variable {l : Text}

theorem of_notMem (hl : '\n' ∉ l) (h : '\r' ∉ l) : Returned l := ⟨hl, .inl (unreturn_of_notMem h).symm⟩

theorem append_return (hl : '\n' ∉ l) (h : '\r' ∉ l) (hbare : Setting.isBare l = false) :
    Returned (l ++ ['\r']) := by
  refine ⟨by simp [hl], .inr ?_⟩
  rw [unreturn_append_return h]
  exact ⟨rfl, hbare⟩

theorem flat_unreturn (h : Returned l) : '\n' ∉ unreturn l :=
  fun hmem => h.flat ((List.filter_sublist).subset hmem)

theorem opener?_unreturn (h : Returned l) : opener? (unreturn l) = opener? l := by
  rcases h.eq with heq | ⟨heq, -⟩
  · rw [← heq]
  · rw [heq, unreturn_append_return (return_notMem_unreturn l), opener?_append_return h.flat_unreturn]

theorem isCloser_unreturn (h : Returned l) : isCloser (unreturn l) = isCloser l := by
  rcases h.eq with heq | ⟨heq, -⟩
  · rw [← heq]
  · rw [heq, unreturn_append_return (return_notMem_unreturn l), isCloser_append_return h.flat_unreturn]

theorem ofLine?_unreturn (h : Returned l) : Setting.ofLine? (unreturn l) = Setting.ofLine? l := by
  rcases h.eq with heq | ⟨heq, hbare⟩
  · rw [← heq]
  · rw [heq, unreturn_append_return (return_notMem_unreturn l),
      Setting.ofLine?_append_return h.flat_unreturn hbare]

theorem return_notMem_header (h : Returned l) {m : Opener} (hm : opener? l = some m) :
    '\r' ∉ m.header := by
  rw [← h.opener?_unreturn] at hm
  exact fun hmem => return_notMem_unreturn l (header_subset hm hmem)

/-! ### Trimming -/

theorem return_notMem_trimEnd (h : Returned l) : '\r' ∉ trimEnd l := by
  have htrim : trimEnd l = trimEnd (unreturn l) := by
    rcases h.eq with heq | ⟨heq, -⟩
    · rw [← heq]
    · rw [heq, trimEnd_concat_of_blank (by decide), ← heq]
  rw [htrim]
  exact fun hmem => return_notMem_unreturn l (mem_of_mem_trimEnd hmem)

theorem dropWhile (h : Returned l) : Returned (l.dropWhile isBlank) := by
  have hflat : '\n' ∉ l.dropWhile isBlank := fun hmem =>
    h.flat ((List.dropWhile_sublist _).subset hmem)
  refine ⟨hflat, ?_⟩
  rw [← dropWhile_unreturn]
  rcases h.eq with heq | ⟨heq, hbare⟩
  · rw [← heq]
    exact .inl rfl
  · have hreturn : ['\r'].dropWhile isBlank = [] := by decide
    have hself : l.dropWhile isBlank = (unreturn l ++ ['\r']).dropWhile isBlank := by rw [← heq]
    rw [List.dropWhile_append, hreturn] at hself
    rw [hself]
    split
    · next hnil =>
      rw [List.isEmpty_iff.mp hnil]
      exact .inl rfl
    · refine .inr ⟨rfl, ?_⟩
      unfold Setting.isBare at hbare ⊢
      rwa [List.dropWhile_idempotent]

theorem return_notMem_trim (h : Returned l) : '\r' ∉ trim l := h.dropWhile.return_notMem_trimEnd

/-- Behind the end of a tag no key is bare. -/
theorem behind_tag {x : Text} (h : Returned l) (hx : '\n' ∉ x) (hx' : '\r' ∉ x) :
    Returned (x ++ '>' :: l) := by
  have hsplit : x ++ '>' :: l = (x ++ ['>']) ++ l := by simp
  have hself : unreturn (x ++ ['>']) = x ++ ['>'] := unreturn_of_notMem (by simp [hx'])
  refine ⟨by simp [hx, h.flat], ?_⟩
  rw [hsplit, unreturn_append, hself, List.append_assoc (x ++ ['>'])]
  rcases h.eq with heq | ⟨heq, -⟩
  · rw [← heq]
    exact .inl rfl
  · rw [← heq]
    exact .inr ⟨rfl, Setting.isBare_of_mem (by simp)⟩

end Returned

/-! ## Texts of such lines -/

section Texts

variable {t x y : Text} {ps : List Text}

theorem returned_lines_of_notMem (h : '\r' ∉ t) : ∀ l ∈ lines t, Returned l := fun _ hl =>
  .of_notMem (newline_notMem_of_mem_lines hl) fun hmem => h (mem_of_mem_splitWhen hl hmem)

theorem Returned.flatMap_lines_cons {l : Text} (h : Returned l)
    (hps : ∀ m ∈ ps.flatMap lines, Returned m) : ∀ m ∈ (l :: ps).flatMap lines, Returned m := by
  rw [List.flatMap_cons, lines_eq_singleton h.flat]
  exact List.forall_mem_cons.mpr ⟨h, hps⟩

theorem returned_lines_unlines (h : ∀ l ∈ ps.flatMap lines, Returned l) :
    ∀ l ∈ lines (unlines ps), Returned l := by
  intro l hl
  rcases eq_nil_or_mem_of_mem_lines_unlines hl with rfl | hl
  · exact .of_notMem (by simp) (by simp)
  · exact h l hl

/-- The lines may end in returns, all but the last one. -/
def ReturnedWithin (t : Text) : Prop := ∃ ls r, lines t = ls ++ [r] ∧ (∀ l ∈ ls, Returned l) ∧ '\r' ∉ r

theorem returnedWithin_of_notMem (h : '\r' ∉ t) : ReturnedWithin t := by
  have hlast := (List.dropLast_append_getLast (lines_ne_nil t)).symm
  refine ⟨_, _, hlast, fun l hl => returned_lines_of_notMem h l ((List.dropLast_sublist _).subset hl), ?_⟩
  exact fun hmem => h (mem_of_mem_splitWhen (List.getLast_mem (lines_ne_nil t)) hmem)

theorem returnedWithin_trim (h : ∀ l ∈ lines t, Returned l) : ReturnedWithin (trim t) := by
  rcases lines_trim t with ⟨l, hl, htrim⟩ | ⟨above, l, mid, r, below, ht, htrim, -⟩
  · exact ⟨[], trim l, htrim, by simp, (h l hl).return_notMem_trim⟩
  · have hr : '\r' ∉ trimEnd r := (h r (by simp [ht])).return_notMem_trimEnd
    refine ⟨l.dropWhile isBlank :: mid, trimEnd r, htrim, ?_, hr⟩
    exact List.forall_mem_cons.mpr ⟨(h l (by simp [ht])).dropWhile, fun k hk => h k (by simp [ht, hk])⟩

theorem ReturnedWithin.returned (h : ReturnedWithin t) : ∀ l ∈ lines t, Returned l := by
  obtain ⟨ls, r, ht, hls, hr⟩ := h
  rw [ht, List.forall_mem_append, List.forall_mem_singleton]
  exact ⟨hls, .of_notMem (newline_notMem_of_mem_lines (t := t) (by simp [ht])) hr⟩

/-- In markup without returns around such a text, the lines may end in returns. -/
theorem ReturnedWithin.returned_between (h : ReturnedWithin t) (hx : '\r' ∉ x) (hy : '\r' ∉ y) :
    ∀ l ∈ lines (x ++ '>' :: (t ++ y)), Returned l := by
  obtain ⟨ls, r, ht, hls, hr⟩ := h
  cases ls with
  | nil =>
    have ht' : '\r' ∉ t := by
      rw [← unlines_lines t, ht]
      exact hr
    exact returned_lines_of_notMem (by simp [hx, hy, ht'])
  | cons l ls =>
    obtain ⟨ps, p, hp⟩ : ∃ ps p, lines x = ps ++ [p] :=
      ⟨_, _, (List.dropLast_append_getLast (lines_ne_nil x)).symm⟩
    obtain ⟨q, qs, hq⟩ := List.exists_cons_of_ne_nil (lines_ne_nil y)
    have hbehind : lines ('>' :: (t ++ y)) = ('>' :: l) :: (ls ++ (r ++ q) :: qs) := by
      rw [lines_cons (by decide) (lines_append ht hq)]
      rfl
    have hbefore := returned_lines_of_notMem hx
    have hafter := returned_lines_of_notMem hy
    have hlast : '\r' ∉ r ++ q := by
      rw [List.mem_append, not_or]
      exact ⟨hr, fun hmem => hy (mem_of_mem_splitWhen (hq ▸ List.mem_cons_self) hmem)⟩
    have hflat : '\n' ∉ r ++ q := by
      rw [List.mem_append, not_or]
      exact ⟨newline_notMem_of_mem_lines (t := t) (by simp [ht]),
        newline_notMem_of_mem_lines (t := y) (by simp [hq])⟩
    have hmem : p ∈ lines x := by simp [hp]
    obtain ⟨hl, hls⟩ := List.forall_mem_cons.mp hls
    rw [hp, List.forall_mem_append] at hbefore
    rw [hq, List.forall_mem_cons] at hafter
    rw [lines_append hp hbehind]
    simp only [List.forall_mem_append, List.forall_mem_cons]
    exact ⟨hbefore.1, hl.behind_tag (newline_notMem_of_mem_lines hmem)
      (fun h => hx (mem_of_mem_splitWhen hmem h)), hls, .of_notMem hflat hlast, hafter.2⟩

end Texts

/-! ## Option sections -/

variable {ls : List Text}

theorem Returned.isLine_unreturn {l : Text} (h : Returned l) :
    Setting.isLine (unreturn l) = Setting.isLine l := by
  rw [Setting.isLine, h.ofLine?_unreturn, Setting.isLine]

theorem Returned.knowsLine_unreturn {l : Text} (h : Returned l) (c : Component) :
    c.knowsLine (unreturn l) = c.knowsLine l := by
  rw [Component.knowsLine, h.ofLine?_unreturn, Component.knowsLine]

theorem Marker.lastCloser?_unreturn (h : ∀ l ∈ ls, Returned l) :
    lastCloser? (ls.map unreturn) = lastCloser? ls := by
  induction ls with
  | nil => rfl
  | cons l ls ih =>
    obtain ⟨hl, hls⟩ := List.forall_mem_cons.mp h
    rw [List.map_cons, lastCloser?, ih hls, hl.isCloser_unreturn, lastCloser?]

theorem takeWhile_unreturn {p : Text → Bool} (h : ∀ l ∈ ls, p (unreturn l) = p l) :
    (ls.map unreturn).takeWhile p = (ls.takeWhile p).map unreturn := by
  induction ls with
  | nil => rfl
  | cons l ls ih =>
    obtain ⟨hl, hls⟩ := List.forall_mem_cons.mp h
    rw [List.map_cons, List.takeWhile_cons, List.takeWhile_cons, hl, ih hls]
    split <;> rfl

namespace OptionSection

theorem any_knowsLine_unreturn (c : Component) (h : ∀ l ∈ ls, Returned l) :
    (ls.map unreturn).any c.knowsLine = ls.any c.knowsLine := by
  induction ls with
  | nil => rfl
  | cons l ls ih =>
    obtain ⟨hl, hls⟩ := List.forall_mem_cons.mp h
    rw [List.map_cons, List.any_cons, List.any_cons, hl.knowsLine_unreturn, ih hls]

theorem size?_unreturn (c : Component) (limit : Nat) (h : ∀ l ∈ ls, Returned l) :
    size? c limit (ls.map unreturn) = size? c limit ls := by
  have hknown : ((ls.takeWhile Setting.isLine).map unreturn).any c.knowsLine =
      (ls.takeWhile Setting.isLine).any c.knowsLine :=
    any_knowsLine_unreturn c fun l hl => h l ((List.takeWhile_sublist _).subset hl)
  have hrun := takeWhile_unreturn fun l hl => (h l hl).isLine_unreturn
  unfold size?
  simp only [hrun, hknown, List.length_map, List.isEmpty_map, List.getElem?_map]
  split
  · cases hmarker : ls[(ls.takeWhile Setting.isLine).length]? with
    | none => rfl
    | some marker =>
      have hreturned := h marker (List.mem_of_getElem? hmarker)
      simp only [Option.map_some, hreturned.isCloser_unreturn]
  · rfl

theorem length_unreturn (c : Component) (limit : Nat) (h : ∀ l ∈ ls, Returned l) :
    length c limit (ls.map unreturn) = length c limit ls := by
  rw [length, size?_unreturn c limit h, length]

end OptionSection

/-! ## Forests -/

def Opening.unreturn (o : Opening) : Opening :=
  { o with
    line := o.line.unreturn
    optionLines := o.optionLines.map Text.unreturn
    separator := o.separator.map Text.unreturn }

/-- The change of a text that loses its returns. -/
def Relabeling.unreturn : Relabeling := ⟨Opening.unreturn, id, Text.unreturn⟩

namespace Token

theorem openingOf_unreturn (m : Opener) (lineno : Nat) (l : Text) (below : List Text) :
    openingOf m lineno l.unreturn (below.map Text.unreturn) = (openingOf m lineno l below).unreturn := by
  simp only [openingOf, Opening.unreturn, List.map_dropLast, List.getLast?_map]

theorem sectionLength_unreturn (keyword : Text) (limit : Nat) (h : ∀ l ∈ ls, Returned l) :
    sectionLength keyword limit (ls.map Text.unreturn) = sectionLength keyword limit ls := by
  unfold sectionLength
  cases Component.ofKeyword? keyword with
  | none => rfl
  | some c => exact OptionSection.length_unreturn c limit h

theorem scan_unreturn (h : ∀ l ∈ ls, Returned l) (limit lineno skip : Nat) :
    scan limit lineno skip (ls.map Text.unreturn) =
      (scan limit lineno skip ls).map Relabeling.unreturn.token := by
  induction ls generalizing limit lineno skip with
  | nil => rfl
  | cons l rest ih =>
    obtain ⟨hl, hrest⟩ := List.forall_mem_cons.mp h
    rw [List.map_cons]
    cases skip with
    | succ n => rw [scan, ih hrest, scan]
    | zero =>
      simp only [scan, hl.opener?_unreturn]
      cases opener? l with
      | some m =>
        simp only [sectionLength_unreturn _ _ hrest, ← List.map_take, openingOf_unreturn, ih hrest]
        rfl
      | none =>
        simp only [hl.isCloser_unreturn, ih hrest]
        split <;> rfl

end Token

theorem Forest.ofText_unreturn {t : Text} (h : ∀ l ∈ lines t, Returned l) :
    ofText (unreturn t) = Relabeling.unreturn.forest (ofText t) := by
  unfold ofText Token.ofText Token.ofLines
  rw [lines_unreturn, lastCloser?_unreturn h, Token.scan_unreturn h, Relabeling.ofTokens_map]

end BlockMarkup
