import BlockMarkup.Proofs.Options.Reading
import BlockMarkup.Proofs.Rendering.Greedy
import BlockMarkup.Proofs.Rendering.Preserved
import BlockMarkup.Proofs.Rendering.Reports

/-!
# Option sections are read as options

Whatever a matcher takes as the option lines of a block is read without a malformed line and sets a key
of the component; none of the lines is a marker (`OptionSection.Readable`).

1. A section that stands under an opener is readable (`OptionSection.Stands.readable`). The forest and
   the passes take such sections and no others (`Opening.LiesAt.readable`, `Block.CutAt.readable`).
2. So a malformed line is one of a badge, which has its options in its body, or the header of a row
   (`Block.of_malformed_mem_reports`).
3. While a text is rendered, every report on options is that of a block handed over before, and each of
   these blocks has a section that a matcher took (`Context.Traced`).
-/

namespace BlockMarkup

open Text Marker Layout Patch

/-! ## Sections -/

namespace OptionSection

/-- Lines that are read as options of the component. -/
structure Readable (c : Component) (options : List Text) : Prop where
  wellFormed : ∀ (r : OptionReader), ∀ d ∈ (r.read (unlines options)).2, d.problem ≠ .malformedOption
  known : options ≠ [] → ∀ r : OptionReader, ∃ key ∈ c.keys, key ∈ (r.read (unlines options)).1.keys
  unmarked : ∀ l ∈ options, opener? l = none ∧ isCloser l = false

variable {c : Component} {options below : List Text} {marker : Text}

theorem ne_malformed_of_mem_read {t : Text} (h : ∀ l ∈ lines t, l.all isBlank || Setting.isLine l)
    (r : OptionReader) {d : Diagnostic} (hd : d ∈ (r.read t).2) : d.problem ≠ .malformedOption := by
  have hnot := List.filter_eq_nil_iff.mp (OptionReader.filter_isMalformed_eq_nil (r := r) h) d hd
  simpa [Problem.isMalformed] using hnot

theorem readable_nil (c : Component) : Readable c [] where
  wellFormed r d hd := by
    refine ne_malformed_of_mem_read (fun l hl => ?_) r hd
    rw [List.mem_singleton.mp hl]
    rfl
  known h := absurd rfl h
  unmarked l hl := by cases hl

theorem Stands.readable (h : Stands c options marker below) (hflat : ∀ l ∈ options, '\n' ∉ l) :
    Readable c options := by
  have hne : options ≠ [] := List.ne_nil_of_mem h.known.choose_spec.1
  have hlines : lines (unlines options) = options := by
    rw [lines_unlines hne, flatMap_lines_eq_self hflat]
  constructor
  case wellFormed =>
    intro r d hd
    refine ne_malformed_of_mem_read (fun l hl => ?_) r hd
    rw [hlines] at hl
    rw [h.areOptions l hl, Bool.or_true]
  case known =>
    intro _ r
    obtain ⟨l, hl, hknown⟩ := h.known
    unfold Component.knowsLine at hknown
    split at hknown
    · next key v hline =>
      have hset : (key, v) ∈ Setting.ofLines options := List.mem_filterMap.mpr ⟨l, hl, hline⟩
      refine ⟨key, by simpa using hknown, ?_⟩
      rw [r.fst_read, hlines, Options.keys_ofSettings]
      exact List.mem_eraseDups.mpr (List.mem_map_of_mem hset)
    · cases hknown
  case unmarked =>
    exact fun l hl => ⟨opener?_eq_none_of_isLine (h.areOptions l hl),
      isCloser_eq_false_of_isLine (h.areOptions l hl)⟩

end OptionSection

open OptionSection

namespace Opening.LiesAt

variable {ls : List Text} {a : Nat} {o : Opening}

theorem optionLines_eq_nil (h : o.LiesAt ls a) (hc : o.component? = none) : o.optionLines = [] := by
  cases hsep : o.separator with
  | none => exact (h.unsectioned hsep).1
  | some marker =>
    obtain ⟨c, hsome, -⟩ := h.sectioned marker hsep
    rw [hc] at hsome
    cases hsome

theorem readable (h : o.LiesAt ls a) (hls : ∀ l ∈ ls, '\n' ∉ l) {c : Component}
    (hc : o.component? = some c) : Readable c o.optionLines := by
  cases hsep : o.separator with
  | none =>
    rw [(h.unsectioned hsep).1]
    exact readable_nil c
  | some marker =>
    obtain ⟨d, hd, hstands⟩ := h.sectioned marker hsep
    obtain rfl := Option.some.inj (hc.symm.trans hd)
    refine hstands.readable fun l hl => ?_
    exact (Forest.Opening.LiesAt.tidy h hc hls).flat l
      (List.mem_cons_of_mem _ (List.mem_append_left _ hl))

end Opening.LiesAt

namespace Block.CutAt

variable {ls : List Text} {b : Block} {a e : Nat} {sep : Option Nat}

theorem newline_notMem_title (h : b.CutAt ls a sep e) : '\n' ∉ b.title := by
  obtain ⟨l, -, hl⟩ := openerAt?_eq_some_iff.mp h.opener
  exact newline_notMem_header hl

theorem lt_length (h : b.CutAt ls a sep e) : e < ls.length := by
  by_contra hlt
  have hcloser := h.closer
  rw [closes, List.getElem?_eq_none (by omega)] at hcloser
  cases hcloser

/-- A block without a section has no option lines; any other has them in front of the marker that ends
its section. -/
theorem sectioned (h : b.CutAt ls a sep e) :
    (sep = none ∧ b.optionLines = []) ∨
      ∃ marker below, sep = some (a + 1 + b.optionLines.length) ∧
        ls.drop (a + 1) = b.optionLines ++ marker :: below ∧
        Stands b.component b.optionLines marker below := by
  have hend := h.sectionEnd
  rw [OptionSection.end?_eq] at hend
  obtain rfl := Except.ok.inj hend
  rw [h.optionLines]
  split
  · exact .inl ⟨rfl, rfl⟩
  · next hne =>
    obtain ⟨n, hn⟩ := Nat.exists_eq_succ_of_ne_zero hne
    obtain ⟨options, marker, below, hrest, rfl, hstands⟩ := length_reach_eq_succ_iff.mp hn
    have hoptions : stretch ls (a + 1) (a + (options.length + 1)) = options := by
      have hstretch := stretch_eq_of_drop hrest
      rwa [Nat.add_right_comm] at hstretch
    rw [hn, Option.elim_some, hoptions]
    exact .inr ⟨marker, below, congrArg some (Nat.add_right_comm a options.length 1), hrest, hstands⟩

theorem readable (h : b.CutAt ls a sep e) (hls : ∀ l ∈ ls, '\n' ∉ l) :
    Readable b.component b.optionLines := by
  rcases h.sectioned with ⟨-, hnil⟩ | ⟨marker, below, -, hrest, hstands⟩
  · rw [hnil]
    exact readable_nil _
  · refine hstands.readable fun l hl => hls l (List.mem_of_mem_drop (i := a + 1) ?_)
    rw [hrest]
    exact List.mem_append_left _ hl

end Block.CutAt

namespace Rendering

theorem readable_of_mem_findBlocks {c : Component} {t : Text} :
    ∀ b ∈ (findBlocks c t).1, b.component = c ∧ Readable b.component b.optionLines := by
  intro b hb
  obtain ⟨hc, i, sep, e, -, hcut⟩ := (Piece.lies_ofText c t).cutAt b hb
  exact ⟨hc, hcut.readable fun l => newline_notMem_of_mem_lines⟩

end Rendering

/-! ## Malformed lines -/

/-- Behind a readable section only a badge or the header of a row can have a malformed line. -/
theorem Block.of_malformed_mem_reports {b : Block} (hb : Readable b.component b.optionLines)
    {d : Diagnostic} (hd : d ∈ b.reports) (hp : d.problem = .malformedOption) :
    b.component = .badge ∨ b.component = .row ∧ ':' ∈ b.title := by
  by_contra hneither
  obtain ⟨hbadge, hrow⟩ := not_or.mp hneither
  have hheader : ¬ b.hasHeaderOption := by simpa [hasHeaderOption] using hrow
  have hsection : Readable b.component b.settingLines.1 := by
    unfold settingLines
    rw [if_neg hheader]
    split
    · next h => exact absurd h hbadge
    · exact readable_nil _
    · exact hb
  rcases List.mem_append.mp hd with hd | hd
  · exact hsection.wellFormed b.reader d hd hp
  · obtain ⟨choice, -, hchoice⟩ := List.mem_filterMap.mp hd
    unfold choiceReport? at hchoice
    split at hchoice
    · cases hchoice
    · split at hchoice
      · cases hchoice
      · cases hchoice
        cases hp

/-! ## The course of a rendering -/

namespace Context

/-- The blocks handed over have sections that are read as options, and reports on options come from
them. -/
structure Traced (ctx : Context) : Prop where
  kept : ctx.handovers.isSome
  readable : ∀ h ∈ ctx.handovers.getD [], Readable h.block.component h.block.optionLines
  options : ∀ d ∈ ctx.reports, d.problem.isOption →
    ∃ h ∈ ctx.handovers.getD [], d ∈ h.block.reports

variable {ctx : Context}

theorem traced_keeping (pictograms : Text) : (keeping pictograms).Traced where
  kept := rfl
  readable h hh := by cases hh
  options d hd := by cases hd

theorem Traced.report (h : ctx.Traced) {ds : List Diagnostic}
    (hds : ∀ d ∈ ds, d.problem.isOption = false) : (ctx.report ds).Traced where
  kept := h.kept
  readable := h.readable
  options d hd hp := by
    rcases List.mem_append.mp hd with hd | hd
    · exact h.options d hd hp
    · rw [hds d hd] at hp
      cases hp

theorem Traced.hand (h : ctx.Traced) {b : Block} (hb : Readable b.component b.optionLines)
    (number : Option Nat) : (ctx.hand b number).2.Traced := by
  obtain ⟨hs, hkept⟩ := Option.isSome_iff_exists.mp h.kept
  have hreadable := h.readable
  have hoptions := h.options
  have hhanded : (ctx.hand b number).2.handovers = some (hs ++ [⟨b, number⟩]) := by
    rw [hand_handovers, hkept]
    rfl
  rw [hkept] at hreadable hoptions
  constructor
  case kept =>
    rw [hhanded]
    rfl
  case readable =>
    rw [hhanded]
    exact List.forall_mem_append.mpr ⟨hreadable, List.forall_mem_singleton.mpr hb⟩
  case options =>
    rw [hhanded, hand_reports]
    intro d hd hp
    rcases List.mem_append.mp hd with hd | hd
    · obtain ⟨e, he, hmem⟩ := hoptions d hd hp
      exact ⟨e, List.mem_append_left _ he, hmem⟩
    · exact ⟨⟨b, number⟩, List.mem_append_right _ (List.mem_singleton_self _), hd⟩

end Context

namespace Node

variable {n : Node} {ctx : Context}

theorem traced_announce (n : Node) (h : ctx.Traced) : (n.announce ctx).2.Traced := by
  unfold announce
  split
  · refine h.report fun d hd => ?_
    rw [List.mem_singleton.mp hd]
    rfl
  · exact ⟨h.kept, h.readable, h.options⟩
  · exact h

theorem traced_close (hn : ∀ c, n.opening.component? = some c → Readable c n.opening.optionLines)
    (h : ctx.Traced) (number : Option Nat) (inside : List Text) :
    (n.close number inside ctx).2.Traced := by
  unfold close
  split
  · next closing c _ hc => exact h.hand (b := n.block c closing inside) (hn c hc) number
  · exact h

end Node

namespace Rendering

theorem isOption_eq_false_of_mem_findBlocks {c : Component} {t : Text} :
    ∀ d ∈ (findBlocks c t).2, d.problem.isOption = false := by
  intro d hd
  obtain ⟨n, l, -, rfl⟩ := exists_of_mem_reports_findBlocks hd
  rfl

theorem readable_of_mem_preorder {t : Text} {n : Node} (hn : n ∈ (Forest.ofText t).preorder)
    {c : Component} (hc : n.opening.component? = some c) : Readable c n.opening.optionLines := by
  obtain ⟨a, e, -, -, hlies⟩ := (Forest.lies_ofText t).exists_of_mem_preorder hn
  exact hlies.opening.readable (fun l => newline_notMem_of_mem_lines) hc

end Rendering

namespace Transpiler

theorem traced_render (p : Transpiler) (t : Text) : (p.render t (.keeping p.pictograms)).2.Traced := by
  have hstart := Context.traced_keeping p.pictograms
  unfold render
  split
  · refine Rendering.nested_preserves (hstart.report fun d hd => ?_)
      (fun n _ ctx h => n.traced_announce h) (fun n hn number inside ctx h => ?_)
    · rw [← Forest.filter_reports_structure] at hd
      simpa using (List.mem_filter.mp hd).2
    · exact Node.traced_close (fun c hc => Rendering.readable_of_mem_preorder hn hc) h number inside
  · exact Rendering.passes_preserves t
      (fun c u ctx h => h.report Rendering.isOption_eq_false_of_mem_findBlocks)
      (fun c u b hb ctx h => h.hand (Rendering.readable_of_mem_findBlocks b hb).2 none) hstart

/-- What a matcher takes as option lines is read as options, in the text and in what the passes make of
it. A line is malformed only in a badge or in the header of a row. -/
theorem sections_readable (p : Transpiler) (t : Text) :
    (∀ n ∈ (Forest.ofText t).preorder,
      (n.opening.component? = none → n.opening.optionLines = []) ∧
        ∀ c, n.opening.component? = some c → Readable c n.opening.optionLines) ∧
    (∀ c, ∀ b ∈ (Rendering.findBlocks c t).1, Readable c b.optionLines) ∧
    (∀ h ∈ p.handovers t, Readable h.block.component h.block.optionLines) ∧
    ∀ d ∈ (p.transpile t).reports, d.problem = .malformedOption →
      ∃ h ∈ p.handovers t, d ∈ h.block.reports ∧
        (h.block.component = .badge ∨ h.block.component = .row ∧ ':' ∈ h.block.title) := by
  have htraced := p.traced_render t
  refine ⟨fun n hn => ⟨fun hc => ?_, fun c hc => Rendering.readable_of_mem_preorder hn hc⟩,
    fun c b hb => ?_, htraced.readable, fun d hd hp => ?_⟩
  · obtain ⟨a, e, -, -, hlies⟩ := (Forest.lies_ofText t).exists_of_mem_preorder hn
    exact hlies.opening.optionLines_eq_nil hc
  · obtain ⟨rfl, hreadable⟩ := Rendering.readable_of_mem_findBlocks b hb
    exact hreadable
  · rw [transpile_eq_keeping] at hd
    have hreport := (List.mergeSort_perm _ _).mem_iff.mp hd
    obtain ⟨h, hmem, hblock⟩ := htraced.options d hreport (by rw [hp]; rfl)
    exact ⟨h, hmem, hblock, Block.of_malformed_mem_reports (htraced.readable h hmem) hblock hp⟩

end Transpiler

end BlockMarkup
