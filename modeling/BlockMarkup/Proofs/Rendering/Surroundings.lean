import BlockMarkup.Proofs.Document.Joined
import BlockMarkup.Proofs.Rendering.Placed
import BlockMarkup.Proofs.Rendering.Stage

/-!
# Text around a text

Lines without markers, above and below a text, change nothing in how it is rendered, whatever the
text leaves open: they stay as they are, and the reports only get larger line numbers
(`Transpiler.transpile_surrounded`).

1. Nested: such lines are a forest of lines. Above, they stand in front of the forest of the text;
   below, they go behind it or into the block that is left open at its end, which stays as written
   (`Rendering.nested_above`, `Rendering.nested_below`).
2. In passes: a pass finds nothing in such lines, and the same in the text as without them
   (`Piece.ofText_above`, `Piece.ofText_below`). So each pass leaves them around its text for the next
   one (`Rendering.pass_above`, `Rendering.pass_below`).
-/

namespace BlockMarkup

open Text Marker Layout

theorem Marker.of_isMarker_eq_false {l : Text} (h : isMarker l = false) :
    opener? l = none ∧ isCloser l = false := by
  unfold isMarker isOpener at h
  simpa using h

variable {above below : Text}

/-! ## Forests of lines -/

namespace Forest

variable {ls : List Text} {s : Surrounding} {a b k : Nat} {f g : Forest}

/-- A forest of lines that are no markers. -/
structure Plain (f : Forest) : Prop where
  nodes : f.nodes = []
  strays : f.strays = []

theorem Lies.plain (h : Lies ls s a f b) (hls : ∀ l ∈ ls, isMarker l = false) : f.Plain := by
  have hopener : ∀ {a : Nat} {o : Opening}, ¬ o.LiesAt ls a := by
    intro a o ho
    obtain ⟨l, hl, hm⟩ := openerAt?_eq_some_iff.mp ho.opener
    rw [(of_isMarker_eq_false (hls l (List.mem_of_getElem? hl))).1] at hm
    cases hm
  induction h with
  | nil => exact ⟨rfl, rfl⟩
  | line ht _ _ _ ih =>
    have hclose := (of_isMarker_eq_false (hls _ (List.mem_of_getElem? ht))).2
    refine ⟨ih.nodes, ?_⟩
    rw [Forest.strays, hclose]
    exact ih.strays
  | closed ho => exact absurd ho hopener
  | unclosed _ ho => exact absurd ho hopener

theorem plain_ofText {t : Text} (h : ∀ l ∈ lines t, isMarker l = false) : (ofText t).Plain :=
  (lies_ofText t).plain h

theorem Plain.unclosed (h : f.Plain) : f.unclosed = [] := unclosed_eq_nil_of_nodes h.nodes

theorem Plain.reports (h : f.Plain) : f.reports = [] := by
  unfold Forest.reports
  rw [h.strays, h.unclosed]
  rfl

theorem Plain.shift (h : f.Plain) : (f.shift k).Plain := by
  obtain ⟨hnodes, hstrays⟩ := h
  constructor
  · clear hstrays
    induction f with
    | nil => rfl
    | line n t f ih => exact ih hnodes
    | block o i c f => cases hnodes
  · rw [strays_shift, hstrays]
    rfl

theorem strays_extend (f : Forest) (hg : g.Plain) : (f.extend g).strays = f.strays := by
  fun_induction extend f g with
  | case1 g => exact hg.strays
  | case2 n t f g ih => rw [Forest.strays, Forest.strays, ih hg]
  | case3 o i g ih => rfl
  | case4 o i c f g hopen ih => exact ih hg

theorem unclosed_extend (f : Forest) (hg : g.Plain) : (f.extend g).unclosed = f.unclosed := by
  fun_induction extend f g with
  | case1 g => exact hg.unclosed
  | case2 n t f g ih => exact ih hg
  | case3 o i g ih => simp only [Forest.unclosed, ih hg]
  | case4 o i c f g hopen ih =>
    cases c with
    | none => rw [Forest.unclosed, Forest.unclosed, ih hg]
    | some c => rw [Forest.unclosed, Forest.unclosed, ih hg]

/-- Lines below a forest are not reported, whether or not they go into a block. -/
theorem reports_extend (f : Forest) (hg : g.Plain) : (f.extend g).reports = f.reports := by
  unfold Forest.reports
  rw [strays_extend f hg, unclosed_extend f hg]

theorem ofText_above (h : ∀ l ∈ lines above, isMarker l = false) (t : Text) :
    ofText (above ++ '\n' :: t) = (ofText above).append ((ofText t).shift (lines above).length) := by
  have hunclosed := (plain_ofText h).unclosed
  have hlatent : ¬ Latent (lines above) := by
    rintro ⟨j, hj, -⟩
    rw [lastCloser?_eq_none_iff.mpr fun l hl => (of_isMarker_eq_false (h l hl)).2] at hj
    cases hj
  rw [ofText_append (.inr ⟨hunclosed, hlatent⟩), extend_eq_append hunclosed]

theorem ofText_below (h : ∀ l ∈ lines below, isMarker l = false) (t : Text) :
    ofText (t ++ '\n' :: below) = (ofText t).extend ((ofText below).shift (lines t).length) :=
  ofText_append (.inl fun l hl => (of_isMarker_eq_false (h l hl)).2)

end Forest

/-! ## Nested rendering -/

namespace Rendering

theorem recursive_append {f : Forest} (h : f.Plain) (g : Forest) (ctx : Context) :
    recursive (f.append g) ctx = (f.source ++ (recursive g ctx).1, (recursive g ctx).2) := by
  obtain ⟨hnodes, -⟩ := h
  induction f with
  | nil => rfl
  | line n t f ih =>
    rw [Forest.append, recursive, ih hnodes]
    rfl
  | block o i c f => cases hnodes

theorem recursive_plain {f : Forest} (h : f.Plain) (ctx : Context) :
    recursive f ctx = (f.source, ctx) := by
  have happend := recursive_append h .nil ctx
  rwa [Forest.append_nil, recursive, List.append_nil] at happend

/-- Lines below a forest stay as they are, in the block that is left open or behind all blocks. -/
theorem recursive_extend (f : Forest) {g : Forest} (hg : g.Plain) (ctx : Context) :
    (recursive (f.extend g) ctx).1.flatMap lines =
        (recursive f ctx).1.flatMap lines ++ g.source.flatMap lines ∧
      (recursive (f.extend g) ctx).2 = (recursive f ctx).2 := by
  fun_induction Forest.extend f g generalizing ctx with
  | case1 g =>
    rw [recursive_plain hg]
    exact ⟨rfl, rfl⟩
  | case2 n t f g ih =>
    obtain ⟨hlines, hctx⟩ := ih hg ctx
    simp only [recursive, List.flatMap_cons, List.append_assoc, hlines, hctx, and_self]
  | case3 o i g ih =>
    obtain ⟨hlines, hctx⟩ := ih hg ctx
    have hopen : ∀ i ctx, recursive (.block o i none .nil) ctx =
        ([Node.around ⟨o, i, none⟩ (recursive i ctx).1], (recursive i ctx).2) := fun _ _ => rfl
    rw [hopen, hopen]
    refine ⟨?_, hctx⟩
    simp only [List.flatMap_singleton, Node.lines_around, List.flatMap_append, hlines, Node.closer,
      Option.map_none, Option.toList_none, List.append_nil, List.append_assoc]
  | case4 o i c f g hopen ih =>
    obtain ⟨hlines, hctx⟩ := ih hg (block ⟨o, i, c⟩ ctx).2
    rw [recursive_block, recursive_block]
    refine ⟨?_, hctx⟩
    rw [List.flatMap_cons, List.flatMap_cons, hlines, List.append_assoc]

theorem recursive_ne_nil {f : Forest} (h : f ≠ .nil) (ctx : Context) : (recursive f ctx).1 ≠ [] := by
  cases f with
  | nil => exact absurd rfl h
  | line n t f => exact List.cons_ne_nil _ _
  | block o i c f => exact List.cons_ne_nil _ _

theorem nested_eq_recursive (t : Text) (ctx : Context) :
    nested t ctx =
      (unlines (recursive (Forest.ofText t) (ctx.report (Forest.ofText t).reports)).1,
        (recursive (Forest.ofText t) (ctx.report (Forest.ofText t).reports)).2) := by
  unfold nested
  simp only [forest_eq_recursive]

theorem nested_above (h : ∀ l ∈ lines above, isMarker l = false) (t : Text) (ctx : Context) :
    nested (above ++ '\n' :: t) (ctx.shift (lines above).length) =
      (above ++ '\n' :: (nested t ctx).1, (nested t ctx).2.shift (lines above).length) := by
  have hplain := Forest.plain_ofText h
  have hreports : (Forest.ofText (above ++ '\n' :: t)).reports =
      (Forest.ofText t).reports.map (Diagnostic.shift (lines above).length) := by
    rw [Forest.ofText_above h, Forest.reports_append hplain.unclosed, hplain.reports,
      Forest.reports_shift, List.nil_append]
  rw [nested_eq_recursive, nested_eq_recursive, hreports, Context.report_shift, Forest.ofText_above h,
    recursive_append hplain,
    recursive_shift fun n hn => (Forest.lies_ofText t).lineno_ne_zero hn, Forest.source_ofText,
    unlines_append (lines_ne_nil above) (recursive_ne_nil (Forest.ofText_ne_nil t) _), unlines_lines]

theorem nested_below (h : ∀ l ∈ lines below, isMarker l = false) (t : Text) (ctx : Context) :
    nested (t ++ '\n' :: below) ctx = ((nested t ctx).1 ++ '\n' :: below, (nested t ctx).2) := by
  have hplain : ((Forest.ofText below).shift (lines t).length).Plain := (Forest.plain_ofText h).shift
  rw [nested_eq_recursive, nested_eq_recursive, Forest.ofText_below h,
    Forest.reports_extend _ hplain]
  obtain ⟨hlines, hctx⟩ := recursive_extend (Forest.ofText t) hplain
    (ctx.report (Forest.ofText t).reports)
  rw [hctx]
  refine Prod.ext ?_ rfl
  calc unlines (recursive ((Forest.ofText t).extend ((Forest.ofText below).shift (lines t).length))
          (ctx.report (Forest.ofText t).reports)).1
      = unlines ((recursive (Forest.ofText t) (ctx.report (Forest.ofText t).reports)).1 ++
          lines below) := by
        refine unlines_congr ?_
        rw [hlines, List.flatMap_append, Forest.source_shift, Forest.source_ofText]
    _ = unlines (recursive (Forest.ofText t) (ctx.report (Forest.ofText t).reports)).1 ++
          '\n' :: below := by
        rw [unlines_append (recursive_ne_nil (Forest.ofText_ne_nil t) _) (lines_ne_nil below),
          unlines_lines]

end Rendering

/-! ## Rendering in passes -/

namespace Piece

variable {c : Component}

theorem blockAt_append {rest : List Text} {size length : Nat} (h : size + length + 1 ≤ rest.length)
    (ms : List Text) (header : Text) (lineno : Nat) (opener : Text) :
    blockAt c header lineno opener (rest ++ ms) size length =
      blockAt c header lineno opener rest size length := by
  have hsize : size ≤ rest.length := by omega
  have hbody : length ≤ (rest.drop size).length := by
    rw [List.length_drop]
    omega
  unfold blockAt optionLines
  rw [List.take_append_of_le_length hsize, List.drop_append_of_le_length hsize,
    List.take_append_of_le_length hbody, List.take_append_of_le_length h]

/-- A block ends at the same closing marker whatever lines follow, or has none if they hold none. -/
theorem body_append {rest ms : List Text} {size : Nat} (hsize : size ≤ rest.length)
    (h : ∀ l ∈ ms, isCloser l = false) :
    let body := (rest.drop size).takeWhile (!isCloser ·)
    let longer := ((rest ++ ms).drop size).takeWhile (!isCloser ·)
    size + body.length < rest.length ∧ longer = body ∨
      ¬ size + body.length < rest.length ∧ ¬ size + longer.length < (rest ++ ms).length := by
  intro body longer
  have hle : body.length ≤ (rest.drop size).length := (List.takeWhile_prefix _).length_le
  have hdrop : (rest.drop size).length = rest.length - size := List.length_drop
  have hlonger : longer = (rest.drop size ++ ms).takeWhile (!isCloser ·) := by
    show ((rest ++ ms).drop size).takeWhile _ = _
    rw [List.drop_append_of_le_length hsize]
  rw [List.takeWhile_append] at hlonger
  by_cases hall : body.length = (rest.drop size).length
  · right
    have hms : ms.takeWhile (!isCloser ·) = ms := by
      rw [List.takeWhile_eq_self_iff]
      simpa using h
    rw [if_pos hall, hms] at hlonger
    rw [hlonger, List.length_append, List.length_append]
    omega
  · left
    rw [if_neg hall] at hlonger
    exact ⟨by omega, hlonger⟩

/-- Lines without markers are left alone, and change nothing above them. -/
theorem scan_append {ls ms : List Text} (h : ∀ l ∈ ms, isMarker l = false) :
    ∀ lineno skip, skip ≤ ls.length →
      scan c (reach (ls ++ ms)) lineno skip (ls ++ ms) =
        scan c (reach ls) lineno skip ls ++ ms.map .line := by
  have hclosers : ∀ l ∈ ms, isCloser l = false := fun l hl => (of_isMarker_eq_false (h l hl)).2
  induction ls with
  | nil =>
    intro lineno skip hskip
    obtain rfl : skip = 0 := Nat.le_zero.mp hskip
    have hread : read c lineno (ms ++ []) = ms.map .line ++ read c (lineno + ms.length) [] :=
      read_lines (fun l hl => by simp [(of_isMarker_eq_false (h l hl)).1]) lineno []
    rwa [List.append_nil, read_nil, List.append_nil] at hread
  | cons l rest ih =>
    intro lineno skip hskip
    cases skip with
    | succ n =>
      simp only [List.cons_append, scan, reach_cons_sub_one]
      exact ih _ n (Nat.le_of_succ_le_succ hskip)
    | zero =>
      have hle := OptionSection.length_reach_le c rest
      simp only [List.cons_append, scan, reach_cons_sub_one,
        OptionSection.length_reach_append_of_no_closer c rest hclosers]
      generalize OptionSection.length c (reach rest) rest = size at hle
      split
      · rw [ih _ 0 (Nat.zero_le _), List.cons_append]
      · rcases body_append hle hclosers with ⟨hclosed, hbody⟩ | ⟨hopen, hlonger⟩
        · have hlonger := Nat.lt_add_right ms.length hclosed
          rw [← List.length_append] at hlonger
          rw [hbody, if_pos hclosed, if_pos hlonger, blockAt_append hclosed, ih _ _ hclosed,
            List.cons_append]
        · rw [if_neg hopen, if_neg hlonger, List.map_append, List.cons_append]

theorem ofText_above (h : ∀ l ∈ lines above, isMarker l = false) (t : Text) :
    ofText c (above ++ '\n' :: t) =
      (lines above).map .line ++ (ofText c t).map (shift (lines above).length) := by
  show read c 1 (lines (above ++ '\n' :: t)) = _
  rw [lines_append_newline,
    read_lines fun l hl => by simp [(of_isMarker_eq_false (h l hl)).1], read, scan_add]
  rfl

theorem ofText_below (h : ∀ l ∈ lines below, isMarker l = false) (t : Text) :
    ofText c (t ++ '\n' :: below) = ofText c t ++ (lines below).map .line := by
  show read c 1 (lines (t ++ '\n' :: below)) = _
  rw [lines_append_newline]
  exact scan_append h 1 0 (Nat.zero_le _)

theorem ofText_ne_nil (c : Component) (t : Text) : ofText c t ≠ [] := by
  obtain ⟨l, rest, hlines⟩ := List.exists_cons_of_ne_nil (lines_ne_nil t)
  unfold ofText
  rw [hlines]
  simp only [scan]
  split
  · exact List.cons_ne_nil _ _
  · split
    · exact List.cons_ne_nil _ _
    · exact List.cons_ne_nil _ _

end Piece

namespace Rendering

theorem pieces_ne_nil {ps : List Piece} (h : ps ≠ []) (ctx : Context) : (pieces ps ctx).1 ≠ [] := by
  cases ps with
  | nil => exact absurd rfl h
  | cons p ps =>
    cases p with
    | line t => exact List.cons_ne_nil _ _
    | block b => exact List.cons_ne_nil _ _
    | openEnd n l => exact List.cons_ne_nil _ _

theorem pass_eq (t : Text) (ctx : Context) (c : Component) :
    pass (t, ctx) c =
      (unlines (pieces (Piece.ofText c t)
          (ctx.report ((Piece.ofText c t).filterMap (Piece.report? c)))).1,
        (pieces (Piece.ofText c t)
          (ctx.report ((Piece.ofText c t).filterMap (Piece.report? c)))).2) := rfl

theorem pass_above (h : ∀ l ∈ lines above, isMarker l = false) (t : Text) (ctx : Context)
    (c : Component) :
    pass (above ++ '\n' :: t, ctx.shift (lines above).length) c =
      (above ++ '\n' :: (pass (t, ctx) c).1, (pass (t, ctx) c).2.shift (lines above).length) := by
  have hreports : (Piece.ofText c (above ++ '\n' :: t)).filterMap (Piece.report? c) =
      ((Piece.ofText c t).filterMap (Piece.report? c)).map
        (Diagnostic.shift (lines above).length) := by
    rw [Piece.ofText_above h, List.filterMap_append, Piece.filterMap_map_line fun _ => rfl,
      List.nil_append, List.filterMap_map, List.map_filterMap]
    refine List.filterMap_congr fun p _ => ?_
    exact p.report?_shift c
  rw [pass_eq, pass_eq, hreports, Context.report_shift, Piece.ofText_above h, pieces_append,
    pieces_lines, pieces_shift fun p hp => Piece.placed_of_mem_ofText hp,
    unlines_append (lines_ne_nil above) (pieces_ne_nil (Piece.ofText_ne_nil c t) _), unlines_lines]

theorem pass_below (h : ∀ l ∈ lines below, isMarker l = false) (t : Text) (ctx : Context)
    (c : Component) :
    pass (t ++ '\n' :: below, ctx) c = ((pass (t, ctx) c).1 ++ '\n' :: below, (pass (t, ctx) c).2) := by
  have hreports : (Piece.ofText c (t ++ '\n' :: below)).filterMap (Piece.report? c) =
      (Piece.ofText c t).filterMap (Piece.report? c) := by
    rw [Piece.ofText_below h, List.filterMap_append, Piece.filterMap_map_line fun _ => rfl,
      List.append_nil]
  rw [pass_eq, pass_eq, hreports, Piece.ofText_below h, pieces_append, pieces_lines,
    unlines_append (pieces_ne_nil (Piece.ofText_ne_nil c t) _) (lines_ne_nil below), unlines_lines]

theorem passes_above (h : ∀ l ∈ lines above, isMarker l = false) (t : Text) (ctx : Context) :
    passes (above ++ '\n' :: t) (ctx.shift (lines above).length) =
      (above ++ '\n' :: (passes t ctx).1, (passes t ctx).2.shift (lines above).length) := by
  unfold passes
  generalize Component.all = cs
  induction cs generalizing t ctx with
  | nil => rfl
  | cons c cs ih => rw [List.foldl_cons, pass_above h, ih, List.foldl_cons]

theorem passes_below (h : ∀ l ∈ lines below, isMarker l = false) (t : Text) (ctx : Context) :
    passes (t ++ '\n' :: below) ctx = ((passes t ctx).1 ++ '\n' :: below, (passes t ctx).2) := by
  unfold passes
  generalize Component.all = cs
  induction cs generalizing t ctx with
  | nil => rfl
  | cons c cs ih => rw [List.foldl_cons, pass_below h, ih, List.foldl_cons]

end Rendering

/-! ## Both strategies -/

namespace Transpiler

theorem render_above (p : Transpiler) (h : ∀ l ∈ lines above, isMarker l = false) (t : Text)
    (ctx : Context) :
    p.render (above ++ '\n' :: t) (ctx.shift (lines above).length) =
      (above ++ '\n' :: (p.render t ctx).1, (p.render t ctx).2.shift (lines above).length) := by
  unfold render
  cases p.strategy with
  | nested => exact Rendering.nested_above h t ctx
  | passes => exact Rendering.passes_above h t ctx

theorem render_below (p : Transpiler) (h : ∀ l ∈ lines below, isMarker l = false) (t : Text)
    (ctx : Context) :
    p.render (t ++ '\n' :: below) ctx =
      ((p.render t ctx).1 ++ '\n' :: below, (p.render t ctx).2) := by
  unfold render
  cases p.strategy with
  | nested => exact Rendering.nested_below h t ctx
  | passes => exact Rendering.passes_below h t ctx

/-- A text is transpiled as if the lines around it were not there, if these are no markers. They stay
as they are, and every report has its line number, if it has one, increased by the number of lines
above. -/
theorem transpile_surrounded (p : Transpiler) (habove : ∀ l ∈ lines above, isMarker l = false)
    (hbelow : ∀ l ∈ lines below, isMarker l = false) (t : Text) :
    p.transpile (above ++ '\n' :: (t ++ '\n' :: below)) =
      ⟨above ++ '\n' :: ((p.transpile t).text ++ '\n' :: below),
        (p.transpile t).reports.map (Diagnostic.shift (lines above).length)⟩ := by
  have hstart : Context.start p.pictograms =
      (Context.start p.pictograms).shift (lines above).length := rfl
  have hplaced : ∀ d ∈ (p.render t (.start p.pictograms)).2.reports, d.Placed :=
    p.placed_render t fun d hd => by cases hd
  have hrender : p.render (above ++ '\n' :: (t ++ '\n' :: below)) (.start p.pictograms) =
      (above ++ '\n' :: ((p.render t (.start p.pictograms)).1 ++ '\n' :: below),
        (p.render t (.start p.pictograms)).2.shift (lines above).length) := by
    rw [hstart, render_above p habove, render_below p hbelow]
    rfl
  unfold transpile
  rw [hrender]
  exact congrArg (Transpiled.mk _) (Diagnostic.sort_shift hplaced)

theorem transpile_surrounded_open :
    let above : Text := "one\n\nkey: value"
    let t : Text :=
      "/// video\n///\n///\n/// alert | A\ntype: loud\n///\ntwo\n///\n/// accordion | B"
    let below : Text := "open: yes\nthree"
    let nested : Transpiler := ⟨.nested, "/p", "---"⟩
    let passes : Transpiler := ⟨.passes, "/p", "---"⟩
    nested.transpile (above ++ '\n' :: (t ++ '\n' :: below)) =
        ⟨above ++ '\n' :: ((nested.transpile t).text ++ '\n' :: below),
          (nested.transpile t).reports.map (Diagnostic.shift 3)⟩ ∧
      passes.transpile (above ++ '\n' :: (t ++ '\n' :: below)) =
        ⟨above ++ '\n' :: ((passes.transpile t).text ++ '\n' :: below),
          (passes.transpile t).reports.map (Diagnostic.shift 3)⟩ := by
  intro above t below nested passes
  have habove : ∀ l ∈ lines above, isMarker l = false := by decide +kernel
  have hbelow : ∀ l ∈ lines below, isMarker l = false := by decide +kernel
  exact ⟨nested.transpile_surrounded habove hbelow t, passes.transpile_surrounded habove hbelow t⟩

end Transpiler

end BlockMarkup
