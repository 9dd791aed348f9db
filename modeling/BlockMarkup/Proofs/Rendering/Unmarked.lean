import BlockMarkup.Proofs.Rendering.Complete
import BlockMarkup.Proofs.Rendering.Surroundings

/-!
# Markers in what is rendered

Rendering makes no marker lines but in one way: a line of a body that becomes a marker when the blanks
around the body go, in a component that puts its body on lines of its own
(`Block.marker_mem_html_iff`). So the HTML of a text in which no line becomes a marker when it is
trimmed has none. A text without markers is transpiled to itself, by either strategy
(`Transpiler.transpile_unmarked`), so such HTML is (`Transpiler.transpile_nested_again`).
-/

namespace BlockMarkup

open Text Marker Html

/-! ## The HTML of a block -/

theorem Marker.isMarker_lt {s : Text} (hs : '\n' ∉ s) : isMarker ('<' :: s) = false :=
  (Inert.of_lt hs).isMarker_eq_false

namespace Html

variable {x y t : Text}

theorem unmarked_around_flat (hx : '\n' ∉ x) (hy : '\n' ∉ y) (ht : '\n' ∉ t) :
    ∀ l ∈ lines ('<' :: (x ++ '>' :: (t ++ '<' :: y))), isMarker l = false := by
  have hflat : '\n' ∉ x ++ '>' :: (t ++ '<' :: y) := by simp [hx, hy, ht]
  rw [lines_eq_singleton (by simpa using hflat), List.forall_mem_singleton]
  exact isMarker_lt hflat

/-- A text whose lines are no markers makes none when it is trimmed and stands between two tags. Of the
lines that have lost blanks, the first one stands behind a tag. The last one is no marker in front of
a tag, for then it would be one with the blanks. -/
theorem unmarked_around_trim (hx : '\n' ∉ x) (hy : '\n' ∉ y)
    (h : ∀ l ∈ lines t, isMarker l = false) :
    ∀ l ∈ lines ('<' :: (x ++ '>' :: (trim t ++ '<' :: y))), isMarker l = false := by
  rcases lines_between (t := trim t) hx hy with ⟨l, hl, hlines⟩ | ⟨l, mid, r, hl, hlines⟩
  · have hflat : '\n' ∉ l := newline_notMem_of_mem_lines (hl ▸ List.mem_singleton_self l)
    rw [hlines, List.forall_mem_singleton]
    exact isMarker_lt (by simp [hx, hy, hflat])
  · have hflat : '\n' ∉ l := newline_notMem_of_mem_lines (hl ▸ List.mem_cons_self)
    rw [hlines, List.forall_mem_cons, List.forall_mem_append, List.forall_mem_singleton]
    rcases lines_trim t with ⟨m, -, htrim⟩ | ⟨above, m, mid', r', below, ht, htrim, -⟩
    · have := congrArg List.length (hl.symm.trans htrim)
      simp at this
    · obtain ⟨-, hbelow⟩ := List.cons.inj (hl.symm.trans htrim)
      obtain ⟨rfl, hr⟩ := List.append_inj' hbelow rfl
      obtain rfl := List.singleton_inj.mp hr
      have hmem : r' ∈ lines t := by simp [ht]
      refine ⟨isMarker_lt (by simp [hx, hflat]), fun k hk => h k (by simp [ht, hk]), ?_⟩
      by_contra hmarker
      obtain ⟨blanks, hblanks⟩ := trimEnd_prefix_self r'
      have hr' : '\n' ∉ trimEnd r' ++ blanks := by
        rw [hblanks]
        exact newline_notMem_of_mem_lines hmem
      rw [List.mem_append, not_or] at hr'
      have hline : '\n' ∉ trimEnd r' ++ '<' :: y := by simp [hr'.1, hy]
      have := isMarker_of_append_lt hline (by simpa using hmarker) hr'.2
      rw [hblanks, h r' hmem] at this
      cases this

/-- A body on lines of its own is trimmed, and has a line of markup above and one below. -/
theorem lines_around_onOwnLines (hx : '\n' ∉ x) (hy : '\n' ∉ y) (t : Text) :
    lines ('<' :: (x ++ '>' :: (onOwnLines t ++ '<' :: y))) =
      ('<' :: (x ++ ['>'])) :: (lines (trim t) ++ ['<' :: y]) := by
  rcases lines_between (t := onOwnLines t) hx hy with ⟨l, hl, -⟩ | ⟨l, mid, r, hl, hlines⟩
  · have := congrArg List.length ((lines_onOwnLines t).symm.trans hl)
    simp at this
  · obtain ⟨rfl, hbelow⟩ := List.cons.inj ((lines_onOwnLines t).symm.trans hl)
    obtain ⟨rfl, hr⟩ := List.append_inj' hbelow rfl
    obtain rfl := List.singleton_inj.mp hr
    exact hlines

end Html

namespace Component

variable {c : Component} {o : Options} {body x y : Text}

/-- Whether the body stands on lines of its own. -/
def hasOwnLines : Component → Bool
  | .col | .row | .accordion => true
  | _ => false

theorem content_of_hasOwnLines (h : c.hasOwnLines) : c.content o body = onOwnLines body := by
  cases c with
  | col | row | accordion => rfl
  | card | tile | alert | callout | badge => cases h

theorem unmarked_around_content (hc : c.hasOwnLines = false) (hx : '\n' ∉ x) (hy : '\n' ∉ y)
    (h : ∀ l ∈ lines body, isMarker l = false) :
    ∀ l ∈ lines ('<' :: (x ++ '>' :: (c.content o body ++ '<' :: y))), isMarker l = false := by
  cases c with
  | card | alert | callout => exact unmarked_around_trim hx hy h
  | tile =>
    have hcontent : Component.tile.content o body =
        if Link.announcesDownload o then Link.downloadDetail else trim body := rfl
    rw [hcontent]
    split
    · exact unmarked_around_flat hx hy (by decide)
    · exact unmarked_around_trim hx hy h
  | badge =>
    obtain ⟨l, hl, hlabel⟩ := splitBadgeBody_label body
    have hflat : '\n' ∉ (splitBadgeBody body).2 := by
      rw [hlabel]
      exact newline_notMem_trim (newline_notMem_of_mem_lines hl)
    exact unmarked_around_flat hx hy hflat
  | col | row | accordion => cases hc

end Component

namespace Block

variable {b : Block} {pictograms : Text}

/-- A line of the HTML of a block is a marker only where the trimmed body stands on lines of its own
and has that line. -/
theorem marker_mem_html_iff (hp : '\n' ∉ pictograms) (ht : '\n' ∉ b.title)
    (hbody : ∀ l ∈ lines b.body, isMarker l = false) (number : Nat) :
    ∀ l, isMarker l → (l ∈ lines (b.html pictograms number) ↔
      b.component.hasOwnLines ∧ l ∈ lines (trim b.body)) := by
  obtain ⟨x, y, hx, hy, hhtml⟩ := exists_html_eq hp ht number
  intro l hl
  rw [hhtml]
  cases hown : b.component.hasOwnLines with
  | false =>
    have hunmarked := Component.unmarked_around_content (o := b.options) hown hx hy hbody l
    simp only [hl, Bool.true_eq_false, imp_false] at hunmarked
    simp [hunmarked]
  | true =>
    have hopen : l ≠ '<' :: (x ++ ['>']) := by
      rintro rfl
      rw [isMarker_lt (by simp [hx])] at hl
      cases hl
    have hclose : l ≠ '<' :: y := by
      rintro rfl
      rw [isMarker_lt hy] at hl
      cases hl
    rw [Component.content_of_hasOwnLines hown, lines_around_onOwnLines hx hy]
    simp [hopen, hclose]

theorem marker_mem_html_row :
    let b : Block := ⟨.row, "one: two", [], "\u00a0/// card | T\nthree\n///.", [], 1, 5, 0⟩
    isMarker "/// card | T" ∧
      ("/// card | T".toList ∈ lines (b.html "/p" 0) ↔
        b.component.hasOwnLines ∧ "/// card | T".toList ∈ lines (trim b.body)) := by
  intro b
  have hmarker : isMarker "/// card | T" := by decide
  exact ⟨hmarker, marker_mem_html_iff (b := b) (by decide) (by decide) (by decide) 0 _ hmarker⟩

theorem not_unmarked_html :
    ¬ ∀ (b : Block) (pictograms : Text) (number : Nat), '\n' ∉ pictograms → '\n' ∉ b.title →
      (∀ l ∈ b.optionLines, '\n' ∉ l) → (∀ l ∈ lines b.body, isMarker l = false) →
        ∀ l ∈ lines (b.html pictograms number), isMarker l = false := by
  intro h
  have := h ⟨.col, [], [], "\u00a0///", [], 1, 3, 0⟩ "/p" 0 (by decide) (by decide) (by decide)
    (by decide) "///" (by decide)
  revert this
  decide

end Block

/-! ## Texts without markers -/

variable {t : Text}

namespace Rendering

theorem nested_unmarked (h : ∀ l ∈ lines t, isMarker l = false) (ctx : Context) :
    nested t ctx = (t, ctx) := by
  have hplain := Forest.plain_ofText h
  have hctx : ctx.report [] = ctx := by simp [Context.report]
  rw [nested_eq_recursive, hplain.reports, hctx, recursive_plain hplain, Forest.source_ofText,
    unlines_lines]

theorem pass_unmarked (h : ∀ l ∈ lines t, isMarker l = false) (ctx : Context) (c : Component) :
    pass (t, ctx) c = (t, ctx) := by
  have hread : Piece.ofText c t = (lines t).map .line := by
    have hlines : Piece.read c 1 (lines t ++ []) = (lines t).map .line ++ [] :=
      Piece.read_lines (fun l hl => by simp [(of_isMarker_eq_false (h l hl)).1]) 1 []
    rwa [List.append_nil, List.append_nil] at hlines
  have hctx : ctx.report [] = ctx := by simp [Context.report]
  rw [pass_eq, hread, Piece.filterMap_map_line fun _ => rfl, hctx, pieces_lines, unlines_lines]

theorem passes_unmarked (h : ∀ l ∈ lines t, isMarker l = false) (ctx : Context) :
    passes t ctx = (t, ctx) := by
  unfold passes
  generalize Component.all = cs
  induction cs with
  | nil => rfl
  | cons c cs ih => rw [List.foldl_cons, pass_unmarked h, ih]

end Rendering

namespace Transpiler

theorem transpile_unmarked (p : Transpiler) (h : ∀ l ∈ lines t, isMarker l = false) :
    p.transpile t = ⟨t, []⟩ := by
  have hrender : p.render t (.start p.pictograms) = (t, .start p.pictograms) := by
    unfold render
    cases p.strategy with
    | nested => exact Rendering.nested_unmarked h _
    | passes => exact Rendering.passes_unmarked h _
  have hsort : Diagnostic.sort [] = [] := List.mergeSort_nil
  rw [transpile, hrender]
  exact congrArg (Transpiled.mk t) hsort

/-- What rendering by block structure makes of a text whose blocks are all closed and known has no
markers, if none of its lines becomes one when it is trimmed. So it is transpiled to itself. -/
theorem transpile_nested_again {pictograms : Text} (hp : '\n' ∉ pictograms)
    (hreports : (Forest.ofText t).reports = [])
    (hknown : ∀ n ∈ (Forest.ofText t).preorder, n.opening.component?.isSome)
    (hstrip : ∀ l ∈ lines t, isMarker l = false → isMarker (trim l) = false) (separator : Text) :
    let rendered := ((⟨.nested, pictograms, separator⟩ : Transpiler).transpile t).text
    (∀ l ∈ lines rendered, isOpener l = false ∧ isCloser l = false) ∧
      ∀ p : Transpiler, p.transpile rendered = ⟨rendered, []⟩ := by
  intro rendered
  have hunmarked : ∀ l ∈ lines rendered, isMarker l = false := by
    intro l hl
    have hinert := (Forest.complete_ofText hreports hknown hstrip).inert_rendered hp 0
    rw [show rendered = _ from text_nested pictograms separator t] at hl
    rcases eq_nil_or_mem_of_mem_lines_unlines hl with rfl | hl
    · exact Inert.nil.isMarker_eq_false
    · exact (hinert l hl).isMarker_eq_false
  exact ⟨fun l hl => Bool.or_eq_false_iff.mp (hunmarked l hl), fun p => p.transpile_unmarked hunmarked⟩

theorem transpile_nested_again_accordion :
    let t : Text :=
      "/// accordion | A\nopen: yes\n///\n one\n/// row\n/// col | 6\n/ two\n///\n///\n///\n" ++
        "/// badge\nnew\n///"
    let rendered := ((⟨.nested, "/p", "---"⟩ : Transpiler).transpile t).text
    (∀ l ∈ lines rendered, isOpener l = false ∧ isCloser l = false) ∧
      ∀ p : Transpiler, p.transpile rendered = ⟨rendered, []⟩ :=
  transpile_nested_again (by decide) (by decide) (by decide) (by decide) _

end Transpiler

end BlockMarkup
