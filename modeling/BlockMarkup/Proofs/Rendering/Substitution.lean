import BlockMarkup.Proofs.Marker
import BlockMarkup.Proofs.Rendering.Greedy
import BlockMarkup.Proofs.Rendering.Numbering
import BlockMarkup.Proofs.Rendering.Surroundings

/-!
# Substitution is a splice

What a pass makes of a text is the lines of the text with a patch in the place of each block that it
finds. So it gives the text back when each block becomes its source, and when no block becomes a
text with markers, a second pass finds nothing (`Rendering.substitute_splices`).

1. The pieces of a pass, each replaced, are a splice of the lines they lie in
   (`Piece.Lies.map_substitutePiece`).
2. The source of a block has the lines that the block takes (`Piece.Lies.flatMap_lines_raw`).
3. A second pass reads the lines that were left alone as the first one did. The opener at which the
   first one stopped still has no closing marker below it (`Piece.Lies.blocks_again`).
-/

namespace BlockMarkup

open Text Marker Layout Patch

/-- The patch that puts what is made of a block in its place. -/
def Block.patch (render : Block → Text) (b : Block) : Patch := ⟨b.lineno, b.endLineno, render b⟩

namespace Piece.Lies

open Rendering (substitutePiece)

variable {ls : List Text} {c : Component} {a : Nat} {ps : List Piece}

theorem le_length (h : Lies ls c a ps) : a ≤ ls.length := by
  induction h with
  | nil => exact le_refl _
  | line _ _ _ ih => omega
  | block _ hb _ ih =>
    have := hb.lt
    omega
  | openEnd ht => exact (List.getElem?_eq_some_iff.mp ht).1.le

theorem fit_patches (h : Lies ls c a ps) (render : Block → Text) :
    Fit a ls.length ((ps.filterMap block?).map (Block.patch render)) := by
  induction h with
  | nil => exact le_refl _
  | line _ _ _ ih => exact ih.line
  | @block a e sep b ps hc hb _ ih =>
    have hlt := hb.lt
    refine ⟨?_, ?_, ?_⟩
    · show a < b.lineno
      rw [hb.lineno]
      exact Nat.lt_succ_self a
    · show b.lineno ≤ b.endLineno
      rw [hb.lineno, hb.endLineno]
      omega
    · show Fit b.endLineno _ _
      rw [hb.endLineno]
      exact ih
  | openEnd ht =>
    rw [blocks_openEnd]
    exact (List.getElem?_eq_some_iff.mp ht).1.le

/-- The pieces with their blocks replaced are the lines with the patches in their places. -/
theorem map_substitutePiece (h : Lies ls c a ps) (render : Block → Text) :
    ps.map (substitutePiece render) =
      splice ls a ls.length ((ps.filterMap block?).map (Block.patch render)) := by
  induction h with
  | nil => exact (stretch_self ls _).symm
  | line ht _ hps ih =>
    rw [List.map_cons, blocks_line, splice_line ht (hps.fit_patches render), ih]
    rfl
  | @block a e sep b ps hc hb _ ih =>
    rw [List.map_cons, blocks_block, List.map_cons, splice, ih]
    show render b :: _ = stretch ls a (b.lineno - 1) ++ render b :: splice ls b.endLineno _ _
    rw [hb.lineno, hb.endLineno, Nat.add_sub_cancel, stretch_self, List.nil_append]
  | openEnd ht =>
    rw [blocks_openEnd, List.map_nil, splice, stretch_length, Token.drop_eq_cons ht, List.map_cons,
      List.map_map]
    exact congrArg _ (List.map_id _)

/-- The lines of the blocks' sources and of all else are those that the pieces lie in. -/
theorem flatMap_lines_raw (h : Lies ls c a ps) :
    (ps.map (substitutePiece Block.raw)).flatMap lines = (ls.drop a).flatMap lines := by
  induction h with
  | nil => rw [List.drop_length]; rfl
  | line ht _ _ ih =>
    rw [Token.drop_eq_cons ht, List.map_cons, List.flatMap_cons, List.flatMap_cons, ih]
    rfl
  | @block a e sep b ps hc hb hps ih =>
    have hlt := hb.lt
    have hle := hps.le_length
    have hne : stretch ls a (e + 1) ≠ [] := by
      rw [← List.length_pos_iff, stretch, List.length_drop, List.length_take]
      omega
    rw [drop_eq_stretch_append (by omega) hle, List.flatMap_append, ← ih, ← lines_unlines hne, ← hb.raw]
    rfl
  | openEnd ht =>
    rw [Token.drop_eq_cons ht, List.map_cons, List.map_map]
    exact congrArg _ (congrArg _ (List.map_id _))

theorem flatMap_lines_line {t : Text} (ht : ls[a]? = some t) (hls : ∀ l ∈ ls, '\n' ∉ l)
    (render : Block → Text) (ps : List Piece) :
    ((Piece.line t :: ps).map (substitutePiece render)).flatMap lines =
      t :: (ps.map (substitutePiece render)).flatMap lines := by
  rw [List.map_cons, List.flatMap_cons, show substitutePiece render (.line t) = t from rfl,
    lines_eq_singleton (hls t (List.mem_of_getElem? ht)), List.singleton_append]

/-- The opener at which a pass stops and the lines below it stay as they are. -/
theorem flatMap_lines_openEnd {t : Text} (ht : ls[a]? = some t) (hls : ∀ l ∈ ls, '\n' ∉ l) (n : Nat)
    (render : Block → Text) :
    ((Piece.openEnd n t :: (ls.drop (a + 1)).map .line).map (substitutePiece render)).flatMap lines =
      ls.drop a := by
  have hmap : ((ls.drop (a + 1)).map Piece.line).map (substitutePiece render) = ls.drop (a + 1) := by
    rw [List.map_map]
    exact List.map_id _
  rw [List.map_cons, hmap]
  show (t :: ls.drop (a + 1)).flatMap lines = ls.drop a
  rw [← Token.drop_eq_cons ht, flatMap_lines_eq_self fun l hl => hls l (List.mem_of_mem_drop hl)]

/-- When nothing put in the place of a block has a marker line, the pass finds no block in what it
has made of the lines. -/
theorem blocks_again {render : Block → Text} (h : Lies ls c a ps) (hflat : ∀ l ∈ ls, '\n' ∉ l)
    (hrender : ∀ b ∈ ps.filterMap block?, ∀ l ∈ lines (render b), isMarker l = false) (n : Nat) :
    (read c n ((ps.map (substitutePiece render)).flatMap lines)).filterMap block? = [] := by
  induction h generalizing n with
  | nil => rfl
  | @line a t ps ht ho _ ih =>
    rw [flatMap_lines_line ht hflat, read_line (keyword_ne ht ho), blocks_line]
    exact ih hrender (n + 1)
  | @block a e sep b ps hc hb _ ih =>
    obtain ⟨hself, hrest⟩ := List.forall_mem_cons.mp hrender
    have hnone : ∀ l ∈ lines (render b), ∀ m, opener? l = some m → m.keyword ≠ c.keyword := by
      intro l hl m hm
      rw [(Marker.of_isMarker_eq_false (hself l hl)).1] at hm
      cases hm
    rw [List.map_cons, List.flatMap_cons,
      show substitutePiece render (.block b) = render b from rfl, read_lines hnone, List.filterMap_append, filterMap_map_line fun _ => rfl, List.nil_append]
    exact ih hrest _
  | @openEnd a t ht ho hnone =>
    obtain ⟨m, hm, hkey⟩ := exists_opener ht ho
    have hbelow : ∀ l ∈ ls.drop (a + 1), isCloser l = false := by
      intro l hl
      obtain ⟨k, hk⟩ := List.mem_iff_getElem?.mp hl
      have hcloses := hnone (a + 1 + k) (by omega)
      rw [closes_add, closes, hk] at hcloses
      exact hcloses
    rw [flatMap_lines_openEnd ht hflat, Token.drop_eq_cons ht, read_stop n hm hkey hbelow,
      blocks_openEnd]

end Piece.Lies

/-! ## In every text -/

namespace Rendering

/-- The pass for a component is a substitution, in which its accordions have the numbers that come
next. -/
theorem exists_pass_text (c : Component) (t : Text) (ctx : Context) :
    ∃ number : Block → Nat, (pass (t, ctx) c).1 =
      (substitute c (fun b => b.html ctx.pictograms (number b)) t).1 := by
  have hnodup := (pairwise_findBlocks c t).imp Nat.ne_of_lt
  refine ⟨fun b => ctx.accordions + place ((findBlocks c t).1.map (·.lineno)) b.lineno,
    pass_text fun _ => ?_⟩
  have hplaces := congrArg (List.map (ctx.accordions + ·)) (map_place hnodup)
  rw [List.map_map, List.map_map, List.length_map, List.map_add_range'] at hplaces
  exact hplaces

/-- What a pass makes of a text is its lines with each block that the pass finds replaced. With the
blocks' sources it is the text; without marker lines in what is put in, the pass finds no block in
it. -/
theorem substitute_splices (c : Component) (render : Block → Text) (t : Text) :
    let patches := (findBlocks c t).1.map (Block.patch render)
    (Fit 0 (lines t).length patches ∧
        (substitute c render t).1 = unlines (splice (lines t) 0 (lines t).length patches)) ∧
      (∀ ctx : Context, ∃ number : Block → Nat, (pass (t, ctx) c).1 =
        (substitute c (fun b => b.html ctx.pictograms (number b)) t).1) ∧
      (substitute c Block.raw t).1 = t ∧
      ((∀ b ∈ (findBlocks c t).1, ∀ l ∈ lines (render b), isMarker l = false) →
        (findBlocks c (substitute c render t).1).1 = []) := by
  intro patches
  have hlies := Piece.lies_ofText c t
  refine ⟨⟨hlies.fit_patches render, congrArg unlines (hlies.map_substitutePiece render)⟩,
    exists_pass_text c t, ?_, fun hrender => ?_⟩
  · calc (substitute c Block.raw t).1
        = unlines ((lines t).drop 0) := unlines_congr hlies.flatMap_lines_raw
      _ = t := unlines_lines t
  · have hne : (Piece.ofText c t).map (substitutePiece render) ≠ [] := by
      rw [Ne, List.map_eq_nil_iff]
      intro hnil
      have hraw := hlies.flatMap_lines_raw
      rw [hnil, List.drop_zero,
        flatMap_lines_eq_self fun l hl => newline_notMem_of_mem_lines hl] at hraw
      exact lines_ne_nil t hraw.symm
    have hlines : lines (substitute c render t).1 =
        ((Piece.ofText c t).map (substitutePiece render)).flatMap lines := lines_unlines hne
    show (Piece.ofText c (substitute c render t).1).filterMap Piece.block? = []
    rw [Piece.ofText, hlines]
    exact hlies.blocks_again (fun l hl => newline_notMem_of_mem_lines hl) hrender 1

theorem substitute_splices_tile :
    let t : Text := "/// tile\nA\n///\n/// tile\nicon: star\n- B"
    let render (b : Block) : Text := b.body ++ "\n// " ++ b.body
    let rendered := (substitute .tile render t).1
    rendered = "A\n// A\n/// tile\nicon: star\n- B" ∧ (findBlocks .tile rendered).1 = [] := by
  intro t render rendered
  exact ⟨by decide, (substitute_splices .tile render t).2.2.2 (by decide)⟩

end Rendering

end BlockMarkup
