import Mathlib.Algebra.GroupWithZero.Nat
import BlockMarkup.Proofs.Rendering.Run
import BlockMarkup.Proofs.Rendering.Sections
import BlockMarkup.Proofs.Rendering.Unmarked

/-!
# Markers that the passes leave

The passes report an opener at which one of them stops, and no other marker (`Leftover.silent`). So an
opener of a known component that is left is reported, unless it got into the HTML of a block: its own pass or
a later one closed a block around it (`Leftover.openers`). Closing markers go with the blocks, one each and
one more for an option section; all others are left without a word (`Leftover.closers`).

1. In the HTML of a block a line has markup in it or is one of the body up to blanks at its ends
   (`Block.lt_or_line_of_mem_html`). So no closing marker appears in a pass unless a line becomes one when it
   is trimmed.
2. Of the lines that a block takes, as many are closing markers as it has (`Block.CutAt.countP_isCloser`), so
   a pass takes as many from the text as its blocks have (`Piece.Lies.countP_isCloser`).
3. A line of what a pass makes was there before or is in the HTML of a block. If it was there before, it opens
   no block of the component unless the pass stops (`Piece.Lies.mem_substitute`).
-/

namespace BlockMarkup

open Text Marker Layout Patch Html

/-! ## Closing markers in HTML -/

theorem Marker.isCloser_eq_false_of_lt {l : Text} (hl : '\n' ∉ l) (h : '<' ∈ l) : isCloser l = false := by
  unfold isCloser
  cases ht : afterSlashes? l with
  | none => rfl
  | some t =>
    have hsplit := List.takeWhile_append_dropWhile (p := isIndent) (l := l)
    rw [(afterSlashes?_iff hl).mp ht] at hsplit
    rw [← hsplit, List.mem_append, List.mem_append] at h
    rcases h with h | h | h
    · exact absurd (List.mem_takeWhile_imp h) (by decide)
    · exact absurd h (by decide)
    · exact List.all_eq_false.mpr ⟨'<', h, by decide⟩

/-- Content that does not stand on lines of its own is one line, or lines of the body up to blanks at their
ends. -/
theorem Component.line_of_mem_content {c : Component} (hc : c.hasOwnLines = false) (o : Options)
    (body : Text) : ∀ l ∈ lines (c.content o body),
      lines (c.content o body) = [l] ∨ ∃ m ∈ lines body, trim l = trim m := by
  have htrim : ∀ l ∈ lines (trim body), ∃ m ∈ lines body, trim l = trim m := fun _ =>
    exists_line_of_mem_lines_trim
  intro l hl
  cases c with
  | card | alert | callout => exact .inr (htrim l hl)
  | tile =>
    have hcontent : Component.tile.content o body =
        if Link.announcesDownload o then Link.downloadDetail else trim body := rfl
    rw [hcontent] at hl ⊢
    split at hl
    · have hdetail : lines Link.downloadDetail = [Link.downloadDetail] := by decide
      rw [hdetail, List.mem_singleton] at hl
      rw [if_pos (by assumption), hdetail, hl]
      exact .inl rfl
    · exact .inr (htrim l hl)
  | badge =>
    obtain ⟨k, hk, hlabel⟩ := splitBadgeBody_label body
    have hflat : lines (splitBadgeBody body).2 = [trim k] := by
      rw [hlabel, lines_eq_singleton (newline_notMem_trim (newline_notMem_of_mem_lines hk))]
    have hself : l = trim k := List.mem_singleton.mp (hflat ▸ hl)
    exact .inl (hself ▸ hflat)
  | col | row | accordion => cases hc

namespace Block

variable {b : Block} {pictograms : Text}

/-- In the HTML of a block each line has markup in it or is a line of the body, up to blanks at its ends. -/
theorem lt_or_line_of_mem_html (hp : '\n' ∉ pictograms) (ht : '\n' ∉ b.title) (number : Nat) :
    ∀ l ∈ lines (b.html pictograms number), '<' ∈ l ∨ ∃ m ∈ lines b.body, trim l = trim m := by
  obtain ⟨x, y, hx, hy, hhtml⟩ := exists_html_eq hp ht number
  intro l hl
  rw [hhtml] at hl
  cases hown : b.component.hasOwnLines with
  | true =>
    rw [Component.content_of_hasOwnLines hown, lines_around_onOwnLines hx hy, List.mem_cons,
      List.mem_append, List.mem_singleton] at hl
    rcases hl with rfl | hl | rfl
    · exact .inl List.mem_cons_self
    · exact .inr (exists_line_of_mem_lines_trim hl)
    · exact .inl List.mem_cons_self
  | false =>
    have hcontent := Component.line_of_mem_content hown b.options b.body
    rcases lines_between (t := b.component.content b.options b.body) hx hy with
      ⟨k, -, hlines⟩ | ⟨k, mid, r, hk, hlines⟩
    · rw [hlines, List.mem_singleton] at hl
      exact .inl (hl ▸ List.mem_cons_self)
    · rw [hlines, List.mem_cons, List.mem_append, List.mem_singleton] at hl
      rcases hl with rfl | hl | rfl
      · exact .inl List.mem_cons_self
      · refine .inr ((hcontent l (by rw [hk]; simp [hl])).resolve_left fun hone => ?_)
        have := congrArg List.length (hk.symm.trans hone)
        simp at this
      · exact .inl (List.mem_append_right _ List.mem_cons_self)

/-- A body without closing markers, trimmed or not, is rendered to HTML without any. -/
theorem isCloser_trim_html (hp : '\n' ∉ pictograms) (ht : '\n' ∉ b.title)
    (hbody : ∀ l ∈ lines b.body, isCloser (trim l) = false) (number : Nat) :
    ∀ l ∈ lines (b.html pictograms number), isCloser (trim l) = false := by
  intro l hl
  rcases lt_or_line_of_mem_html hp ht number l hl with hlt | ⟨m, hm, htrim⟩
  · exact isCloser_eq_false_of_lt (newline_notMem_trim (newline_notMem_of_mem_lines hl))
      (mem_trim_of_mem hlt (by decide))
  · rw [htrim, hbody m hm]

/-! ## Closing markers of a block -/

/-- How many closing markers a block has: one of its own, and the one of its section. -/
def closers (b : Block) : Nat := if b.optionsLineno = 0 then 1 else 2

namespace CutAt

variable {ls : List Text} {a e : Nat} {sep : Option Nat}

theorem isCloser_of_mem_body (h : b.CutAt ls a sep e) :
    ∀ l ∈ stretch ls (sep.getD a + 1) e, isCloser l = false := by
  intro l hl
  obtain ⟨k, hk⟩ := List.mem_iff_getElem?.mp hl
  have hlt := (List.getElem?_eq_some_iff.mp hk).1
  rw [length_stretch h.lt_length.le] at hlt
  have hnot := h.nearest (sep.getD a + 1 + k) (by omega) (by omega)
  rw [stretch, List.getElem?_drop, List.getElem?_take_of_lt (by omega)] at hk
  rw [closes, hk] at hnot
  exact hnot

/-- The head of a block has a closing marker in it if there is a section. -/
theorem countP_isCloser_head (h : b.CutAt ls a sep e) :
    (stretch ls a (sep.getD a + 1)).countP isCloser + 1 = b.closers := by
  obtain ⟨l, hl, hm⟩ := openerAt?_eq_some_iff.mp h.opener
  have hopener := isCloser_eq_false_of_opener hm
  rw [closers, h.optionsLineno]
  rcases h.sectioned with ⟨rfl, -⟩ | ⟨marker, below, rfl, hrest, hstands⟩
  · rw [Option.getD_none, stretch_succ hl]
    simp [hopener]
  · have hdrop : ls.drop a = (l :: b.optionLines ++ [marker]) ++ below := by
      rw [Token.drop_eq_cons hl, hrest]
      simp
    have hlength : a + (l :: b.optionLines ++ [marker]).length = a + 1 + b.optionLines.length + 1 := by
      simp only [List.length_append, List.length_cons, List.length_nil]
      omega
    have hoptions : b.optionLines.countP isCloser = 0 := by
      rw [List.countP_eq_zero]
      intro k hk
      simp [isCloser_eq_false_of_isLine (hstands.areOptions k hk)]
    rw [Option.getD_some, ← hlength, stretch_eq_of_drop hdrop]
    simp [hopener, hoptions, hstands.closes]

/-- The lines that a block takes have its closing markers and no others. -/
theorem countP_isCloser (h : b.CutAt ls a sep e) :
    (stretch ls a (e + 1)).countP isCloser = b.closers := by
  have hle := h.le_getD
  have hstart := h.start_le
  have hbody : (stretch ls (sep.getD a + 1) e).countP isCloser = 0 := by
    rw [List.countP_eq_zero]
    intro l hl
    simp [h.isCloser_of_mem_body l hl]
  obtain ⟨l, hlast, hcloser⟩ : ∃ l, ls[e]? = some l ∧ isCloser l := by
    simpa [closes, Option.any_eq_true] using h.closer
  rw [← stretch_append (m := sep.getD a + 1) (by omega) (by omega),
    ← stretch_append (m := e) hstart (by omega), stretch_succ hlast, List.countP_append,
    List.countP_append, hbody, Nat.zero_add, ← h.countP_isCloser_head]
  simp [hcloser]

end CutAt

end Block

/-! ## One pass -/

/-- No line becomes a closing marker when it is trimmed. -/
def ClosersStand (ls : List Text) : Prop := ∀ l ∈ ls, isCloser (trim l) → isCloser l

theorem Block.CutAt.isCloser_trim_of_mem_body {ls : List Text} {b : Block} {a e : Nat}
    {sep : Option Nat} (h : b.CutAt ls a sep e) (hls : ∀ l ∈ ls, '\n' ∉ l) (hstand : ClosersStand ls) :
    ∀ l ∈ lines b.body, isCloser (trim l) = false := by
  intro l hl
  rw [h.body] at hl
  rcases eq_nil_or_mem_of_mem_lines_unlines hl with rfl | hmem
  · decide
  · rw [flatMap_lines_eq_self fun k hk => hls k (mem_of_mem_stretch hk)] at hmem
    by_contra hcloser
    have hself := hstand l (mem_of_mem_stretch hmem) (by simpa using hcloser)
    rw [h.isCloser_of_mem_body l hmem] at hself
    cases hself

namespace Piece.Lies

variable {ls : List Text} {c : Component} {a : Nat} {ps : List Piece}

/-- A pass takes from the lines the closing markers of its blocks. -/
theorem countP_isCloser (h : Lies ls c a ps) (hls : ∀ l ∈ ls, '\n' ∉ l) (render : Block → Text)
    (hrender : ∀ b ∈ ps.filterMap block?, ∀ l ∈ lines (render b), isCloser l = false) :
    ((ps.map (Rendering.substitutePiece render)).flatMap lines).countP isCloser +
      ((ps.filterMap block?).map Block.closers).sum = (ls.drop a).countP isCloser := by
  induction h with
  | nil => simp
  | @line a t ps ht ho hps ih =>
    have hcount := ih hrender
    rw [Token.drop_eq_cons ht, flatMap_lines_line ht hls, blocks_line, List.countP_cons,
      List.countP_cons]
    omega
  | @block a e sep b ps hc hb hps ih =>
    obtain ⟨hself, hrest⟩ := List.forall_mem_cons.mp hrender
    have hnone : (lines (render b)).countP isCloser = 0 := by
      rw [List.countP_eq_zero]
      intro l hl
      simp [hself l hl]
    have hlt := hb.lt
    have hend := hb.lt_length
    have hcount := ih hrest
    rw [drop_eq_stretch_append (b := e + 1) (by omega) hend, List.map_cons, List.flatMap_cons,
      blocks_block, List.map_cons, List.sum_cons]
    show (lines (render b) ++ _).countP isCloser + _ = _
    rw [List.countP_append, List.countP_append, hnone, hb.countP_isCloser]
    omega
  | @openEnd a t ht ho hnone =>
    rw [blocks_openEnd, flatMap_lines_openEnd ht hls]
    rfl

/-- A line of what a pass makes is in what is made of a block, or it was there before. Then it does not open
a block of the component, unless the pass stops. -/
theorem mem_substitute (h : Lies ls c a ps) (hls : ∀ l ∈ ls, '\n' ∉ l) {render : Block → Text}
    {l : Text} (hl : l ∈ (ps.map (Rendering.substitutePiece render)).flatMap lines) :
    (∃ b ∈ ps.filterMap block?, l ∈ lines (render b)) ∨
      l ∈ ls ∧ ((∀ m, opener? l = some m → m.keyword ≠ c.keyword) ∨
        ∃ d, d ∈ ps.filterMap (report? c)) := by
  induction h with
  | nil => cases hl
  | @line a t ps ht ho hps ih =>
    rw [flatMap_lines_line ht hls] at hl
    rcases List.mem_cons.mp hl with rfl | hl
    · exact .inr ⟨List.mem_of_getElem? ht, .inl (keyword_ne ht ho)⟩
    · exact ih hl
  | @block a e sep b ps hc hb hps ih =>
    rw [List.map_cons, List.flatMap_cons, List.mem_append] at hl
    rcases hl with hl | hl
    · exact .inl ⟨b, List.mem_cons_self, hl⟩
    · exact (ih hl).imp_left fun ⟨d, hd, hline⟩ => ⟨d, List.mem_cons_of_mem _ hd, hline⟩
  | @openEnd a t ht ho hnone =>
    rw [flatMap_lines_openEnd ht hls] at hl
    exact .inr ⟨List.mem_of_mem_drop hl, .inr ⟨_, List.mem_cons_self⟩⟩

end Piece.Lies

namespace Rendering

variable {s : Text × Context} {c : Component} {l : Text}

theorem mem_lines_pass (hl : l ∈ lines (pass s c).1) :
    (∃ b ∈ (findBlocks c s.1).1, ∃ number, l ∈ lines (b.html s.2.pictograms number)) ∨
      l ∈ lines s.1 ∧ ((∀ m, opener? l = some m → m.keyword ≠ c.keyword) ∨
        ∃ d, d ∈ (findBlocks c s.1).2) := by
  obtain ⟨number, hlines⟩ := exists_lines_pass s c
  rw [hlines] at hl
  have hmem := (Piece.lies_ofText c s.1).mem_substitute (fun l => newline_notMem_of_mem_lines) hl
  exact hmem.imp_left fun ⟨b, hb, hline⟩ => ⟨b, hb, _, hline⟩

/-- A pass takes from the text the closing markers of its blocks, and makes none. -/
theorem closers_pass (hp : '\n' ∉ s.2.pictograms) (hstand : ClosersStand (lines s.1)) (c : Component) :
    ClosersStand (lines (pass s c).1) ∧
      (lines (pass s c).1).countP isCloser + ((handed c s.1).map (·.block.closers)).sum =
        (lines s.1).countP isCloser := by
  have hhtml : ∀ b ∈ (findBlocks c s.1).1, ∀ number, ∀ l ∈ lines (b.html s.2.pictograms number),
      isCloser (trim l) = false := by
    intro b hb number
    obtain ⟨-, a, sep, e, -, hcut⟩ := (Piece.lies_ofText c s.1).cutAt b hb
    exact Block.isCloser_trim_html hp hcut.newline_notMem_title
      (hcut.isCloser_trim_of_mem_body (fun l => newline_notMem_of_mem_lines) hstand) number
  constructor
  · intro l hl hcloser
    rcases mem_lines_pass hl with ⟨b, hb, number, hline⟩ | ⟨hline, -⟩
    · rw [hhtml b hb number l hline] at hcloser
      cases hcloser
    · exact hstand l hline hcloser
  · obtain ⟨number, hlines⟩ := exists_lines_pass s c
    rw [hlines, handed, List.map_map]
    refine (Piece.lies_ofText c s.1).countP_isCloser (fun l => newline_notMem_of_mem_lines) _
      fun b hb l hl => ?_
    by_contra hcloser
    have htrim := isCloser_trim (newline_notMem_of_mem_lines hl) (by simpa using hcloser)
    rw [hhtml b hb _ l hl] at htrim
    cases htrim

/-! ## All passes -/

variable {cs : List Component}

theorem closers_foldl_pass (cs : List Component) (hp : '\n' ∉ s.2.pictograms)
    (hstand : ClosersStand (lines s.1)) :
    (lines (cs.foldl pass s).1).countP isCloser +
        (((readingsFrom cs s).flatMap fun e => handed e.1 e.2).map (·.block.closers)).sum =
      (lines s.1).countP isCloser := by
  induction cs generalizing s with
  | nil => rfl
  | cons c cs ih =>
    obtain ⟨hnext, hcount⟩ := closers_pass hp hstand c
    have hrest := ih (pass_pictograms s c ▸ hp) hnext
    rw [List.foldl_cons, readingsFrom, List.flatMap_cons, List.map_append, List.sum_append]
    dsimp only
    omega

/-- A line that the passes leave is one of the text or in the HTML of a block. -/
theorem mem_lines_foldl_pass (hl : l ∈ lines (cs.foldl pass s).1) :
    l ∈ lines s.1 ∨ ∃ e ∈ readingsFrom cs s, ∃ b ∈ (findBlocks e.1 e.2).1, ∃ number,
      l ∈ lines (b.html s.2.pictograms number) := by
  induction cs generalizing s with
  | nil => exact .inl hl
  | cons c cs ih =>
    rcases ih hl with hpass | ⟨e, he, b, hb, number, hline⟩
    · rcases mem_lines_pass hpass with ⟨b, hb, number, hline⟩ | ⟨hline, -⟩
      · exact .inr ⟨_, List.mem_cons_self, b, hb, number, hline⟩
      · exact .inl hline
    · rw [pass_pictograms] at hline
      exact .inr ⟨e, List.mem_cons_of_mem _ he, b, hb, number, hline⟩

/-- An opener that is left is in the HTML of a block that its own pass or a later one has found, or its pass
stops at an opener. -/
theorem opener_left (hcs : cs.Pairwise (·.rank < ·.rank)) (hc : c ∈ cs) {m : Opener}
    (hm : opener? l = some m) (hkey : m.keyword = c.keyword) (hl : l ∈ lines (cs.foldl pass s).1) :
    (∃ u d, (c, u) ∈ readingsFrom cs s ∧ d ∈ (findBlocks c u).2) ∨
      ∃ e ∈ readingsFrom cs s, c.rank ≤ e.1.rank ∧ ∃ b ∈ (findBlocks e.1 e.2).1, ∃ number,
        l ∈ lines (b.html s.2.pictograms number) := by
  induction cs generalizing s with
  | nil => cases hc
  | cons k cs ih =>
    obtain ⟨hrank, hcs⟩ := List.pairwise_cons.mp hcs
    rcases List.mem_cons.mp hc with rfl | hc
    · -- The passes after its own can only bring the line in with HTML of theirs.
      rcases mem_lines_foldl_pass (s := pass s c) hl with hpass | ⟨e, he, b, hb, number, hline⟩
      · rcases mem_lines_pass hpass with ⟨b, hb, number, hline⟩ | ⟨-, hnot | ⟨d, hd⟩⟩
        · exact .inr ⟨_, List.mem_cons_self, le_rfl, b, hb, number, hline⟩
        · exact absurd hkey (hnot m hm)
        · exact .inl ⟨s.1, d, List.mem_cons_self, hd⟩
      · rw [pass_pictograms] at hline
        exact .inr ⟨e, List.mem_cons_of_mem _ he, (hrank e.1 (mem_of_mem_readingsFrom he)).le, b, hb,
          number, hline⟩
    · rcases ih hcs hc (s := pass s k) hl with ⟨u, d, hu, hd⟩ | ⟨e, he, hle, b, hb, number, hline⟩
      · exact .inl ⟨u, d, List.mem_cons_of_mem _ hu, hd⟩
      · rw [pass_pictograms] at hline
        exact .inr ⟨e, List.mem_cons_of_mem _ he, hle, b, hb, number, hline⟩

end Rendering

/-! ## In every text -/

/-- How much of the markers of a text is left in what the passes make of it, and what is reported. -/
structure Leftover (pictograms t : Text) (out : Transpiled) (hs : List Handover) : Prop where
  /-- Of stray closing markers and unknown components nothing is said. -/
  silent : ∀ d ∈ out.reports, d.problem ≠ .strayCloser ∧ ∀ k, d.problem ≠ .unknownComponent k
  /-- An opener is reported, or it is in the HTML of a block that its own pass or a later one rendered. -/
  openers : ∀ l ∈ lines out.text, ∀ m c, opener? l = some m → Component.ofKeyword? m.keyword = some c →
    (∃ d ∈ out.reports, d.problem = .unterminatedBlock ∧ d.component = some c.keyword) ∨
      ∃ h ∈ hs, c.rank ≤ h.block.component.rank ∧ ∃ number, l ∈ lines (h.block.html pictograms number)
  /-- All closing markers are left but those of the blocks. -/
  closers : ClosersStand (lines t) →
    (lines out.text).countP isCloser + (hs.map (·.block.closers)).sum = (lines t).countP isCloser

namespace Transpiler

open Rendering

variable {pictograms separator t : Text}

theorem silent_passes {d : Diagnostic}
    (hd : d ∈ (transpile ⟨.passes, pictograms, separator⟩ t).reports) :
    d.problem ≠ .strayCloser ∧ ∀ k, d.problem ≠ .unknownComponent k := by
  obtain ⟨⟨c, u⟩, -, hreported⟩ := mem_reports_passes.mp hd
  rcases List.mem_append.mp hreported with hopen | hblock
  · obtain ⟨n, l, -, rfl⟩ := exists_of_mem_reports_findBlocks hopen
    exact ⟨Problem.noConfusion, fun k => Problem.noConfusion⟩
  · obtain ⟨b, -, hself⟩ := List.mem_flatMap.mp hblock
    have hoption := Block.isOption_of_mem_reports hself
    constructor
    · intro hstray
      rw [hstray] at hoption
      cases hoption
    · intro k hunknown
      rw [hunknown] at hoption
      cases hoption

theorem opener_reported_or_mem_html {l : Text} {m : Opener} {c : Component}
    (hl : l ∈ lines (transpile ⟨.passes, pictograms, separator⟩ t).text) (hm : opener? l = some m)
    (hkey : m.keyword = c.keyword) :
    (∃ d ∈ (transpile ⟨.passes, pictograms, separator⟩ t).reports,
        d.problem = .unterminatedBlock ∧ d.component = some c.keyword) ∨
      ∃ h ∈ handovers ⟨.passes, pictograms, separator⟩ t, c.rank ≤ h.block.component.rank ∧
        ∃ number, l ∈ lines (h.block.html pictograms number) := by
  rw [text_passes_keeping] at hl
  rcases opener_left (by decide) (Component.mem_all c) hm hkey hl with
    ⟨u, d, hu, hd⟩ | ⟨e, he, hle, b, hb, number, hline⟩
  · left
    refine ⟨d, mem_reports_passes.mpr ⟨(c, u), hu, List.mem_append_left _ hd⟩, ?_⟩
    obtain ⟨n, k, -, rfl⟩ := exists_of_mem_reports_findBlocks hd
    exact ⟨rfl, rfl⟩
  · right
    have hcomponent : b.component = e.1 := component_of_mem_findBlocks b hb
    exact ⟨⟨b, none⟩, mem_handovers_passes.mpr ⟨e, he, b, hb, rfl⟩, hcomponent ▸ hle, number, hline⟩

/-- The passes report an opener at which one of them stops, and nothing else of the markers that are left. -/
theorem passes_leftover (hp : '\n' ∉ pictograms) (separator t : Text) :
    Leftover pictograms t (transpile ⟨.passes, pictograms, separator⟩ t)
      (handovers ⟨.passes, pictograms, separator⟩ t) where
  silent _ := silent_passes
  openers _ hl _ _ hm hc := opener_reported_or_mem_html hl hm (Component.keyword_of_ofKeyword? hc).symm
  closers hstand := by
    rw [text_passes_keeping, handovers_eq_flatMap]
    exact closers_foldl_pass Component.all (s := (t, .keeping pictograms)) hp hstand

theorem passes_leftover_row :
    let t : Text := "/// row\n/// col\nx\n///"
    let p : Transpiler := ⟨.passes, "/p", "---"⟩
    "/// row".toList ∈ lines (p.transpile t).text ∧
      ∃ d ∈ (p.transpile t).reports, d.problem = .unterminatedBlock ∧ d.component = some "row".toList := by
  intro t p
  have hl : "/// row".toList ∈ lines (p.transpile t).text := by decide +kernel
  have hinner : ∀ h ∈ p.handovers t, h.block.component.rank < Component.row.rank := by
    rw [handovers_eq_flatMap]
    decide +kernel
  refine ⟨hl, ((passes_leftover (by decide) "---" t).openers _ hl ⟨"row", []⟩ .row (by decide)
    (by decide)).resolve_right ?_⟩
  rintro ⟨h, hh, hle, -⟩
  exact absurd (hinner h hh) (not_lt.mpr hle)

theorem not_passes_report_leftover :
    ¬ ∀ (pictograms separator t : Text),
      let out := transpile ⟨.passes, pictograms, separator⟩ t
      (∃ l ∈ lines t, isMarker l ∧ l ∈ lines out.text) →
        ∃ d ∈ out.reports, d.problem = .unterminatedBlock ∨ d.problem = .strayCloser ∨
          ∃ k, d.problem = .unknownComponent k := by
  intro h
  obtain ⟨d, hd, -⟩ := h "/p" "---" "text\n///"
    ⟨"///", by decide, by decide, by decide +kernel⟩
  obtain ⟨e, he, hreported⟩ := mem_reports_passes.mp hd
  have hnone : ∀ e ∈ readings "/p" "text\n///", reported e.1 e.2 = [] := by decide +kernel
  rw [hnone e he] at hreported
  cases hreported

end Transpiler

end BlockMarkup
