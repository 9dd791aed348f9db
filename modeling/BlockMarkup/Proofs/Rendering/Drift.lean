import BlockMarkup.Proofs.Rendering.Run
import BlockMarkup.Proofs.Rendering.Sections
import BlockMarkup.Proofs.Rendering.Unmarked

/-!
# Line numbers in the course of the passes

A pass counts the lines of what it reads. There the blocks found before stand as HTML, seldom on as many
lines as they took in the text, so its reports drift away from the lines that they quote
(`Transpiler.not_passes_quote`). They have the numbers of their lines in the text if each block found before
and further up keeps the number of its lines (`Transpiler.passes_quote`).

1. The HTML of a block that keeps its lines has, in the place of each of them, markup or the same line up to
   blanks at its ends (`Block.CutAt.inPlace_html`). Such a block has its body on lines of its own, and no
   option section.
2. So a pass leaves the lines above a number in place if the blocks that it finds there keep their lines
   (`Rendering.inPlace_pass`), and so do the passes one after the other (`Rendering.inPlace_readings`).
3. What a report quotes is no markup (`Rendering.place_of_mem_reported`).
-/

namespace BlockMarkup

open Text Marker Layout Patch Html

/-! ## Lines in place -/

namespace Html

/-- Whether a line starts with a tag, blanks aside. -/
def isMarkup (l : Text) : Bool := (trim l).head? == some '<'

theorem isMarkup_iff {l : Text} : isMarkup l ↔ ∃ s, trim l = '<' :: s := by
  unfold isMarkup
  cases trim l with
  | nil => simp
  | cons c t => simp only [List.head?_cons, beq_iff_eq, Option.some.injEq, List.cons.injEq,
      exists_and_left, exists_eq', and_true]

theorem isMarkup_lt (s : Text) : isMarkup ('<' :: s) := isMarkup_iff.mpr ⟨_, trim_cons (by decide) s⟩

theorem isMarkup_eq_false_of_opener {l : Text} {m : Opener} (hl : '\n' ∉ l) (h : opener? l = some m) :
    isMarkup l = false := by
  by_contra hmarkup
  obtain ⟨s, hs⟩ := isMarkup_iff.mp (by simpa using hmarkup)
  have hmarker := isMarker_trim hl (by simp [isMarker, isOpener, h])
  have hflat := newline_notMem_trim hl
  rw [hs] at hmarker hflat
  rw [isMarker_lt (by simpa using hflat)] at hmarker
  cases hmarker

theorem isMarkup_eq_false_of_isLine {l : Text} (hl : '\n' ∉ l) (h : Setting.isLine l) :
    isMarkup l = false := by
  by_contra hmarkup
  obtain ⟨s, hs⟩ := isMarkup_iff.mp (by simpa using hmarkup)
  obtain ⟨u, hu⟩ : ∃ u, l.dropWhile isBlank = '<' :: u := by
    obtain ⟨rest, hrest⟩ := trimEnd_prefix_self (l.dropWhile isBlank)
    exact ⟨s ++ rest, by rw [← hrest, ← List.cons_append, ← hs]; rfl⟩
  have hflat : '\n' ∉ '<' :: u := fun hmem => hl ((List.dropWhile_sublist _).subset (hu ▸ hmem))
  have hblanks : l.dropWhile isBlank = ('<' :: u).dropWhile isBlank := by
    rw [hu, List.dropWhile_cons_of_neg (by decide)]
  rw [Setting.isLine, Setting.ofLine?_congr hl hflat hblanks] at h
  have hnot := isLine_lt u
  rw [Setting.isLine, h] at hnot
  cases hnot

end Html

/-- Each of the first `n` lines behind is markup or, up to blanks at its ends, the line in its place. -/
def InPlace (n : Nat) (ls ms : List Text) : Prop :=
  ∀ i m, i < n → ms[i]? = some m → isMarkup m ∨ ∃ l, ls[i]? = some l ∧ trim l = trim m

namespace InPlace

variable {n : Nat} {ls ms ns xs ys : List Text}

theorem refl (n : Nat) (ls : List Text) : InPlace n ls ls := fun _ m _ hm => .inr ⟨m, hm, rfl⟩

theorem trans (h : InPlace n ls ms) (h' : InPlace n ms ns) : InPlace n ls ns := by
  intro i k hi hk
  rcases h' i k hi hk with hmarkup | ⟨m, hm, hmk⟩
  · exact .inl hmarkup
  · rcases h i m hi hm with hmarkup | ⟨l, hl, hlm⟩
    · rw [isMarkup, hmk] at hmarkup
      exact .inl hmarkup
    · exact .inr ⟨l, hl, hlm.trans hmk⟩

theorem append (hlength : xs.length = ys.length) (h : InPlace n xs ys)
    (h' : InPlace (n - xs.length) ls ms) : InPlace n (xs ++ ls) (ys ++ ms) := by
  intro i m hi hm
  by_cases hlt : i < xs.length
  · rw [List.getElem?_append_left (hlength ▸ hlt)] at hm
    rw [List.getElem?_append_left hlt]
    exact h i m hi hm
  · rw [List.getElem?_append_right (hlength ▸ not_lt.mp hlt), ← hlength] at hm
    rw [List.getElem?_append_right (not_lt.mp hlt)]
    exact h' _ m (by omega) hm

theorem of_map_trim (h : ys.map trim = xs.map trim) (n : Nat) : InPlace n xs ys := by
  intro i m _ hm
  have hi := congrArg (·[i]?) h
  simp only [List.getElem?_map, hm, Option.map_some] at hi
  obtain ⟨l, hl, htrim⟩ := Option.map_eq_some_iff.mp hi.symm
  exact .inr ⟨l, hl, htrim⟩

theorem of_isMarkup {l m : Text} (h : isMarkup m) (n : Nat) : InPlace n [l] [m] := by
  intro i k _ hk
  have hmem := List.mem_of_getElem? hk
  rw [List.mem_singleton.mp hmem]
  exact .inl h

theorem of_le_one {m : Text} (hn : n ≤ 1) (h : isMarkup m) (ls ms : List Text) :
    InPlace n ls (m :: ms) := by
  intro i k hi hk
  obtain rfl : i = 0 := by omega
  obtain rfl := Option.some.inj hk
  exact .inl h

end InPlace

/-! ## The HTML of a block -/

theorem Component.length_lines_content_le {c : Component} (hc : c.hasOwnLines = false) (o : Options)
    (body : Text) : (lines (c.content o body)).length ≤ (lines body).length := by
  have hpos : 1 ≤ (lines body).length := List.length_pos_iff.mpr (lines_ne_nil body)
  cases c with
  | card | alert | callout => exact length_lines_trim_le body
  | tile =>
    show (lines (if Link.announcesDownload o then Link.downloadDetail else trim body)).length ≤ _
    split
    · have hdetail : lines Link.downloadDetail = [Link.downloadDetail] := by decide
      rw [hdetail]
      exact hpos
    · exact length_lines_trim_le body
  | badge =>
    obtain ⟨l, hl, hlabel⟩ := splitBadgeBody_label body
    show (lines (splitBadgeBody body).2).length ≤ _
    rw [hlabel, lines_eq_singleton (newline_notMem_trim (newline_notMem_of_mem_lines hl))]
    exact hpos
  | col | row | accordion => cases hc

namespace Block

variable {b : Block} {pictograms : Text}

/-- The HTML of the block has as many lines as the block takes. -/
def KeepsLines (pictograms : Text) (b : Block) : Prop :=
  (lines (b.html pictograms 0)).length = b.endLineno + 1 - b.lineno

instance (pictograms : Text) (b : Block) : Decidable (b.KeepsLines pictograms) :=
  inferInstanceAs (Decidable (_ = _))

/-- Tags add no lines. -/
theorem length_lines_html (hp : '\n' ∉ pictograms) (ht : '\n' ∉ b.title) (number : Nat) :
    (lines (b.html pictograms number)).length =
      (lines (b.component.content b.options b.body)).length := by
  obtain ⟨x, y, hx, hy, hhtml⟩ := exists_html_eq hp ht number
  rw [hhtml]
  rcases lines_between (t := b.component.content b.options b.body) hx hy with
    ⟨l, hl, hlines⟩ | ⟨l, mid, r, hl, hlines⟩
  · rw [hl, hlines, List.length_singleton, List.length_singleton]
  · rw [hl, hlines]
    simp

namespace CutAt

variable {ls : List Text} {a e n : Nat} {sep : Option Nat}

theorem length_lines_body (h : b.CutAt ls a sep e) (hls : ∀ l ∈ ls, '\n' ∉ l) :
    (lines b.body).length = max 1 (e - (sep.getD a + 1)) := by
  have hlt := h.lt_length
  rw [h.body, length_lines_unlines fun l hl => hls l (mem_of_mem_stretch hl),
    length_stretch (by omega)]

/-- Only a block without a section, with its body on lines of its own that are not blank, keeps the number
of its lines. -/
theorem of_keepsLines (h : b.CutAt ls a sep e) (hls : ∀ l ∈ ls, '\n' ∉ l) (hp : '\n' ∉ pictograms)
    (hkeeps : b.KeepsLines pictograms) :
    b.component.hasOwnLines ∧ b.body = unlines (stretch ls (a + 1) e) ∧ a + 1 < e ∧
      (lines (trim b.body)).length = e - (a + 1) := by
  have hbody := h.length_lines_body hls
  have hlt := h.lt
  rw [KeepsLines, length_lines_html hp h.newline_notMem_title, h.lineno, h.endLineno] at hkeeps
  have hown : b.component.hasOwnLines := by
    by_contra hown
    have hle := Component.length_lines_content_le (by simpa using hown) b.options b.body
    have hstart := h.le_getD
    omega
  rw [Component.content_of_hasOwnLines hown, lines_onOwnLines, List.length_cons, List.length_append,
    List.length_singleton] at hkeeps
  have htrim := length_lines_trim_le b.body
  have hpos : 0 < (lines (trim b.body)).length := List.length_pos_iff.mpr (lines_ne_nil _)
  rcases h.sectioned with ⟨rfl, -⟩ | ⟨marker, below, rfl, -, hstands⟩
  · refine ⟨hown, h.body, by omega, by omega⟩
  · obtain ⟨l, hl, -⟩ := hstands.known
    have hoptions : 0 < b.optionLines.length := List.length_pos_of_mem hl
    have hstart := h.start_le
    rw [Option.getD_some] at hbody hstart
    omega

theorem inPlace_html (h : b.CutAt ls a sep e) (hls : ∀ l ∈ ls, '\n' ∉ l) (hp : '\n' ∉ pictograms)
    (hkeeps : b.KeepsLines pictograms) (number : Nat) :
    (stretch ls a (e + 1)).length = (lines (b.html pictograms number)).length ∧
      InPlace n (stretch ls a (e + 1)) (lines (b.html pictograms number)) := by
  obtain ⟨hown, hbody, hlt, hlength⟩ := h.of_keepsLines hls hp hkeeps
  have hend := h.lt_length
  obtain ⟨x, y, hx, hy, hhtml⟩ := exists_html_eq hp h.newline_notMem_title number
  have hlines : lines (b.html pictograms number) =
      ['<' :: (x ++ ['>'])] ++ (lines (trim b.body) ++ ['<' :: y]) := by
    rw [hhtml, Component.content_of_hasOwnLines hown, lines_around_onOwnLines hx hy]
    rfl
  have hfull : lines b.body = stretch ls (a + 1) e := by
    have hne : stretch ls (a + 1) e ≠ [] := by
      rw [← List.length_pos_iff, length_stretch (by omega)]
      omega
    rw [hbody, lines_unlines hne, flatMap_lines_eq_self fun l hl => hls l (mem_of_mem_stretch hl)]
  obtain ⟨first, hfirst⟩ : ∃ l, ls[a]? = some l := ⟨_, List.getElem?_eq_getElem (by omega)⟩
  obtain ⟨last, hlast⟩ : ∃ l, ls[e]? = some l := ⟨_, List.getElem?_eq_getElem hend⟩
  have hsplit : stretch ls a (e + 1) = [first] ++ (stretch ls (a + 1) e ++ [last]) := by
    rw [← stretch_succ hfirst, ← stretch_succ hlast, stretch_append (by omega) (by omega),
      stretch_append (by omega) (by omega)]
  have hcount : (lines (trim b.body)).length = (lines b.body).length := by
    rw [hlength, hfull, length_stretch (by omega)]
  have hinner : InPlace (n - 1) (stretch ls (a + 1) e) (lines (trim b.body)) :=
    .of_map_trim (hfull ▸ map_trim_lines_trim hcount) _
  rw [hsplit, hlines, ← hfull]
  refine ⟨by simp [hcount], .append rfl (.of_isMarkup (isMarkup_lt _) n) ?_⟩
  exact .append hcount.symm (hfull ▸ hinner) (.of_isMarkup (isMarkup_lt _) _)

end CutAt

end Block

/-! ## The passes -/

theorem Piece.Lies.inPlace {ls : List Text} {c : Component} {a n : Nat} {ps : List Piece}
    {pictograms : Text} {number : Block → Nat} (h : Lies ls c a ps) (hls : ∀ l ∈ ls, '\n' ∉ l)
    (hp : '\n' ∉ pictograms)
    (hkeeps : ∀ b ∈ ps.filterMap block?, b.lineno < n → b.KeepsLines pictograms) :
    InPlace (n - a) (ls.drop a)
      ((ps.map (Rendering.substitutePiece fun b => b.html pictograms (number b))).flatMap lines) := by
  induction h with
  | nil => rw [List.drop_length]; exact .refl _ []
  | @line a t ps ht ho hps ih =>
    rw [Token.drop_eq_cons ht, flatMap_lines_line ht hls]
    have hbelow := ih hkeeps
    rw [← Nat.sub_sub] at hbelow
    exact .append rfl (.refl _ [t]) hbelow
  | @block a e sep b ps hc hb hps ih =>
    obtain ⟨hself, hrest⟩ := List.forall_mem_cons.mp hkeeps
    have hlt := hb.lt
    rw [List.map_cons, List.flatMap_cons]
    show InPlace (n - a) (ls.drop a) (lines (b.html pictograms (number b)) ++ _)
    by_cases hn : b.lineno < n
    · have hend := hb.lt_length
      obtain ⟨hlength, hplace⟩ := hb.inPlace_html (n := n - a) hls hp (hself hn) (number b)
      have hnext : n - a - (stretch ls a (e + 1)).length = n - (e + 1) := by
        rw [length_stretch (by omega)]
        omega
      rw [drop_eq_stretch_append (b := e + 1) (by omega) hend]
      exact .append hlength hplace (hnext ▸ ih hrest)
    · -- The block starts at the number or below it, so only its first line can count.
      rw [hb.lineno] at hn
      obtain ⟨s, hs⟩ := b.exists_html_eq_lt pictograms (number b)
      obtain ⟨p, q, hpq⟩ := List.exists_cons_of_ne_nil (lines_ne_nil s)
      rw [hs, lines_cons (by decide) hpq, List.cons_append]
      exact .of_le_one (by omega) (isMarkup_lt p) _ _
  | @openEnd a t ht ho hnone =>
    rw [flatMap_lines_openEnd ht hls]
    exact .refl _ _

namespace Rendering

/-- A pass leaves the lines above a number in place if the blocks that it finds there keep their lines. -/
theorem inPlace_pass {s : Text × Context} {c : Component} {n : Nat} (hp : '\n' ∉ s.2.pictograms)
    (hkeeps : ∀ b ∈ (findBlocks c s.1).1, b.lineno < n → b.KeepsLines s.2.pictograms) :
    InPlace n (lines s.1) (lines (pass s c).1) := by
  obtain ⟨number, hlines⟩ := exists_lines_pass s c
  rw [hlines]
  exact (Piece.lies_ofText c s.1).inPlace (fun l => newline_notMem_of_mem_lines) hp hkeeps

/-- The text that a pass reads has its lines in place if the blocks found before keep theirs. -/
theorem inPlace_readings {cs : List Component} {s : Text × Context} {e : Component × Text} {n : Nat}
    (hcs : cs.Pairwise (·.rank < ·.rank)) (hp : '\n' ∉ s.2.pictograms) (he : e ∈ readingsFrom cs s)
    (hkeeps : ∀ f ∈ readingsFrom cs s, f.1.rank < e.1.rank → ∀ b ∈ (findBlocks f.1 f.2).1,
      b.lineno < n → b.KeepsLines s.2.pictograms) : InPlace n (lines s.1) (lines e.2) := by
  induction cs generalizing s with
  | nil => cases he
  | cons c cs ih =>
    obtain ⟨hrank, hcs⟩ := List.pairwise_cons.mp hcs
    rcases List.mem_cons.mp he with rfl | he
    · exact .refl n _
    · obtain ⟨hfirst, hrest⟩ := List.forall_mem_cons.mp hkeeps
      rw [← pass_pictograms s c] at hp hrest
      refine (inPlace_pass (pass_pictograms s c ▸ hp) fun b hb hn => ?_).trans (ih hcs hp he hrest)
      exact hfirst (hrank e.1 (mem_of_mem_readingsFrom he)) b hb hn

end Rendering

/-! ## What reports quote -/

namespace Block.CutAt

variable {ls : List Text} {b : Block} {a e : Nat} {sep : Option Nat}

theorem headAt (h : b.CutAt ls a sep e) : b.HeadAt ls a where
  lineno := h.lineno
  optionLines j l hl := by
    have hlt : j < b.optionLines.length := (List.getElem?_eq_some_iff.mp hl).1
    rcases h.sectioned with ⟨-, hnil⟩ | ⟨marker, below, rfl, hrest, -⟩
    · simp [hnil] at hl
    · refine ⟨h.optionsLineno, ?_⟩
      rw [← List.getElem?_drop, hrest, List.getElem?_append_left hlt, hl]

theorem isLine_of_mem_optionLines (h : b.CutAt ls a sep e) : ∀ l ∈ b.optionLines, Setting.isLine l := by
  rcases h.sectioned with ⟨-, hnil⟩ | ⟨marker, below, -, -, hstands⟩
  · simp [hnil]
  · exact hstands.areOptions

end Block.CutAt

namespace Diagnostic

/-- The report quotes the line, or it quotes the header of the row that the line opens. -/
def IsOn (d : Diagnostic) (c : Component) (l : Text) : Prop :=
  d.line = trim l ∨ c = .row ∧
    ∃ m, opener? l = some m ∧ m.keyword = Component.row.keyword ∧ ':' ∈ m.header ∧ d.line = trim m.header

variable {d : Diagnostic} {c : Component} {ls : List Text} {i : Nat} {l : Text}

theorem IsOn.quotes (h : d.IsOn c l) (hl : ls[i]? = some l) (hd : d.lineno = some ((i + 1 : Nat) : Int)) :
    d.Quotes ls ∨ c = .row ∧ d.QuotesHeader ls := by
  rcases h with hline | ⟨hrow, m, hm, hkey, hcolon, hline⟩
  · exact .inl ⟨i, l, hl, hd, hline⟩
  · exact .inr ⟨hrow, i, m, openerAt?_eq_some_iff.mpr ⟨l, hl, hm⟩, hkey, hcolon, hd, hline⟩

/-- A line that is the same up to blanks at its ends is quoted as well, trimmed if it is an opener. -/
theorem IsOn.quotes_of_trim {k : Text} (h : d.IsOn c l) (hflat : '\n' ∉ l) (hk : ls[i]? = some k)
    (htrim : trim k = trim l) (hd : d.lineno = some ((i + 1 : Nat) : Int)) :
    d.Quotes ls ∨ c = .row ∧ d.QuotesHeader (ls.map trim) := by
  rcases h with hline | ⟨hrow, m, hm, hkey, hcolon, hline⟩
  · exact .inl ⟨i, k, hk, hd, hline.trans htrim.symm⟩
  · refine .inr ⟨hrow, i, m, openerAt?_eq_some_iff.mpr ⟨trim k, ?_, ?_⟩, hkey, hcolon, hd, hline⟩
    · rw [List.getElem?_map, hk, Option.map_some]
    · rw [htrim, opener?_trim hflat hm]

end Diagnostic

namespace Rendering

variable {c : Component} {t : Text} {d : Diagnostic}

theorem opens_of_mem_reports_findBlocks (hd : d ∈ (findBlocks c t).2) :
    ∃ i, opens (lines t) c i ∧ d = openReport (lines t) c i := by
  rcases (Piece.lies_ofText c t).reports with ⟨-, hnone⟩ | ⟨i, -, hleft, -, -, hone⟩
  · rw [show (findBlocks c t).2 = [] from hnone] at hd
    cases hd
  · exact ⟨i, hleft.1, List.mem_singleton.mp (hone ▸ hd)⟩

/-- A report of a pass on a marker or an option line, badges aside, is on a line of what the pass reads, and
this line is no markup. -/
theorem place_of_mem_reported (hd : d ∈ reported c t)
    (hproblem : d.problem = .unterminatedBlock ∨ d.problem.isOptionLine)
    (hbadge : d.component ≠ some Component.badge.keyword) :
    d.component = some c.keyword ∧ ∃ i l, (lines t)[i]? = some l ∧ isMarkup l = false ∧
      d.lineno = some ((i + 1 : Nat) : Int) ∧ d.IsOn c l := by
  have hflat : ∀ {i l}, (lines t)[i]? = some l → '\n' ∉ l := fun hl =>
    newline_notMem_of_mem_lines (List.mem_of_getElem? hl)
  rcases List.mem_append.mp hd with hd | hd
  · obtain ⟨i, hopens, rfl⟩ := opens_of_mem_reports_findBlocks hd
    cases hl : (lines t)[i]? with
    | none => simp [opens, openerAt?, hl] at hopens
    | some l =>
      obtain ⟨m, hm, -⟩ := exists_opener hl hopens
      rw [openReport, hl]
      exact ⟨rfl, i, l, hl, isMarkup_eq_false_of_opener (hflat hl) hm, rfl, .inl rfl⟩
  · obtain ⟨b, hb, hself⟩ := List.mem_flatMap.mp hd
    obtain ⟨rfl, a, sep, e, -, hcut⟩ := (Piece.lies_ofText c t).cutAt b hb
    have hname := (Block.of_mem_reports hself).1
    have hoption : d.problem.isOptionLine := by
      refine hproblem.resolve_left fun hp => ?_
      have := Block.isOption_of_mem_reports hself
      rw [hp] at this
      cases this
    have hnot : b.component ≠ .badge := by
      intro hb
      rw [hname, hb] at hbadge
      exact hbadge rfl
    refine ⟨hname, ?_⟩
    rcases hcut.headAt.place_of_mem_reports (fun l => newline_notMem_of_mem_lines)
      hcut.newline_notMem_title hnot hself hoption with ⟨j, l, hl, hlineno, hline⟩ | ⟨hrow, hcolon, hlineno, hline⟩
    · have hget := (hcut.headAt.optionLines j l hl).2
      have hset := hcut.isLine_of_mem_optionLines l (List.mem_of_getElem? hl)
      exact ⟨_, l, hget, isMarkup_eq_false_of_isLine (hflat hget) hset, hlineno, .inl hline⟩
    · obtain ⟨l, hget, hm⟩ := openerAt?_eq_some_iff.mp hcut.opener
      refine ⟨a, l, hget, isMarkup_eq_false_of_opener (hflat hget) hm, hlineno,
        .inr ⟨hrow, _, hm, ?_, hcolon, hline⟩⟩
      rw [hrow]

end Rendering

namespace Transpiler

open Rendering

variable {pictograms separator t : Text} {d : Diagnostic}

/-- A report of the passes on a marker or an option line, badges aside, quotes a line of what its pass reads.
It has the number of that line in the text if the blocks that earlier passes find above keep their lines. -/
theorem passes_quote (hp : '\n' ∉ pictograms)
    (hd : d ∈ (transpile ⟨.passes, pictograms, separator⟩ t).reports)
    (hproblem : d.problem = .unterminatedBlock ∨ d.problem.isOptionLine)
    (hbadge : d.component ≠ some Component.badge.keyword) :
    ∃ (c : Component) (u : Text) (n : Nat), (c, u) ∈ readings pictograms t ∧
      d.component = some c.keyword ∧ d.lineno = some (n : Int) ∧
      (d.Quotes (lines u) ∨ c = .row ∧ d.QuotesHeader (lines u)) ∧
      ((∀ h ∈ handovers ⟨.passes, pictograms, separator⟩ t, h.block.component.rank < c.rank →
          h.block.lineno < n → h.block.KeepsLines pictograms) →
        d.Quotes (lines t) ∨ c = .row ∧ d.QuotesHeader ((lines t).map trim)) := by
  obtain ⟨⟨c, u⟩, he, hreported⟩ := mem_reports_passes.mp hd
  obtain ⟨hname, i, l, hl, hmarkup, hlineno, hon⟩ := place_of_mem_reported hreported hproblem hbadge
  refine ⟨c, u, i + 1, he, hname, hlineno, hon.quotes hl hlineno, fun hkeeps => ?_⟩
  have hplace : InPlace (i + 1) (lines t) (lines u) := by
    refine inPlace_readings (e := (c, u)) (by decide) hp he fun f hf hrank b hb hn => ?_
    have hcomponent : b.component = f.1 := component_of_mem_findBlocks b hb
    exact hkeeps ⟨b, none⟩ (mem_handovers_passes.mpr ⟨f, hf, b, hb, rfl⟩) (hcomponent ▸ hrank) hn
  rcases hplace i l (Nat.lt_succ_self i) hl with hmarked | ⟨k, hk, htrim⟩
  · rw [hmarkup] at hmarked
    cases hmarked
  · exact hon.quotes_of_trim (newline_notMem_of_mem_lines (List.mem_of_getElem? hl)) hk htrim hlineno

theorem passes_quote_below_col :
    let t : Text := "/// col | 6\nx\n///\n/// alert | A\ncolour: red\ntype: info\n///\ny\n///"
    let d : Diagnostic := ⟨"colour: red", .unknownOption "colour", some 5, some "alert".toList, none⟩
    d ∈ (transpile ⟨.passes, "/p", "---"⟩ t).reports ∧ d.Quotes (lines t) := by
  intro t d
  have hd : d ∈ (transpile ⟨.passes, "/p", "---"⟩ t).reports := by
    rw [mem_reports_passes]
    decide +kernel
  obtain ⟨c, u, n, -, hname, -, -, hquotes⟩ :=
    passes_quote (by decide) hd (.inr rfl) (by decide)
  obtain rfl : c = .alert := by
    revert hname
    cases c <;> decide
  have hkeeps : ∀ h ∈ handovers ⟨.passes, "/p", "---"⟩ t, h.block.component.rank < Component.alert.rank →
      h.block.KeepsLines "/p" := by
    rw [handovers_eq_flatMap]
    decide +kernel
  exact ⟨hd, (hquotes fun h hh hrank _ => hkeeps h hh hrank).resolve_right (by simp)⟩

theorem not_passes_quote :
    ¬ ∀ (pictograms separator t : Text) (d : Diagnostic),
      d ∈ (transpile ⟨.passes, pictograms, separator⟩ t).reports →
      (d.problem = .unterminatedBlock ∨ d.problem.isOptionLine) →
      d.component ≠ some Component.badge.keyword →
        d.Quotes (lines t) ∨ (d.component = some Component.row.keyword ∧ d.QuotesHeader (lines t)) := by
  intro h
  let t : Text := "/// card | T\nx\n///\n/// alert | A\ncolour: red\ntype: info\n///\ny\n///"
  let d : Diagnostic := ⟨"colour: red", .unknownOption "colour", some 3, some "alert".toList, none⟩
  have hd : d ∈ (transpile ⟨.passes, "/p", "---"⟩ t).reports := by
    rw [mem_reports_passes]
    decide +kernel
  rcases h "/p" "---" t d hd (.inr rfl) (by decide) with ⟨i, l, hl, hlineno, hline⟩ | ⟨hrow, -⟩
  · obtain rfl : i = 2 := by
      have := Option.some.inj hlineno
      omega
    have hthird : (lines t)[2]? = some "///".toList := by decide
    obtain rfl : "///".toList = l := Option.some.inj (hthird.symm.trans hl)
    revert hline
    decide
  · revert hrow
    decide

end Transpiler

end BlockMarkup
