import BlockMarkup.Proofs.Document.Matching
import BlockMarkup.Proofs.Rendering.Preserved
import BlockMarkup.Proofs.Rendering.Stage
import Mathlib.Data.List.Forall2

/-!
# Accordion numbers

In every text the accordions are numbered from one in the order of their openers, and again in every
slide of a deck.

1. By block structure a number is drawn when an accordion is entered and used when it is left; in
   between, those inside get theirs. Still each accordion is handed over with the place of its opener
   among the openers of closed accordions (`Forest.handed_numbers_perm`), and the text is that in
   which every accordion looks up its number by its opener (`Forest.rendered_eq_numbered`).
2. In passes a number is drawn when a block is handed over. The passes before that for accordions
   draw none (`Rendering.foldl_pass_quiet`), and that one numbers its blocks in order
   (`Rendering.passes_text`).
-/

namespace BlockMarkup

open Text Layout

/-- The place of a line among others, counted from one. -/
def place (linenos : List Nat) (n : Nat) : Nat := linenos.idxOf n + 1

theorem map_place {linenos : List Nat} (h : linenos.Nodup) :
    linenos.map (place linenos) = List.range' 1 linenos.length := by
  refine List.ext_getElem (by simp) fun i hi _ => ?_
  rw [List.getElem_map, List.getElem_range', place, h.idxOf_getElem]
  omega

theorem place_of_getElem? {α : Type} {g : α → Nat} {xs : List α} (h : (xs.map g).Nodup) {k : Nat}
    {x : α} (hx : xs[k]? = some x) : place (xs.map g) (g x) = k + 1 := by
  obtain ⟨hk, rfl⟩ := List.getElem?_eq_some_iff.mp hx
  have hidx := h.idxOf_getElem k (by simpa using hk)
  rw [List.getElem_map] at hidx
  rw [place, hidx]

/-- The number counts for accordions alone. -/
theorem Block.html_number {b : Block} (h : b.component ≠ .accordion) (pictograms : Text)
    (m n : Nat) : b.html pictograms m = b.html pictograms n := by
  unfold html htmlWith
  cases hc : b.component with
  | accordion => exact absurd hc h
  | card | tile | col | row | alert | callout | badge => rfl

/-! ## By block structure -/

/-- What stands for a block in the rendered text if this is its number. -/
def Node.htmlAs (pictograms : Text) (n : Node) (number : Nat) (inside : List Text) : Text :=
  match n.closing, n.opening.component? with
  | some closing, some c => (n.block c closing inside).html pictograms number
  | _, _ => n.around inside

theorem Node.html_eq_htmlAs {n : Node} {k number : Nat} (h : n.draws → number = k + 1)
    (pictograms : Text) (inside : List Text) :
    n.html (fun _ => true) pictograms k inside = n.htmlAs pictograms number inside := by
  obtain ⟨o, i, closing⟩ := n
  unfold html htmlAs
  rcases closing with _ | cl <;> rcases hc : o.component? with _ | c
  · rfl
  · rfl
  · rfl
  · by_cases ha : c = .accordion
    · have hdraws : Node.draws ⟨o, i, some cl⟩ := by simp [draws, hc, ha]
      simp [number?, hdraws, h hdraws]
    · exact Block.html_number ha _ _ _

/-- The line of the opener and the number of a block that was handed over with one. -/
def Handover.numbering? (h : Handover) : Option (Nat × Nat) :=
  h.number.map fun k => (h.block.lineno, k)

theorem Handover.snd_numbering? (h : Handover) : h.numbering?.map Prod.snd = h.number := by
  rw [numbering?, Option.map_map]
  exact Option.map_id'

theorem Node.numberings_handing (n : Node) (k : Nat) (inside : List Text) :
    ((n.handing k inside).filterMap Event.handover?).filterMap Handover.numbering? =
      (([n].filter Node.draws).map (·.opening.lineno)).zipIdx (k + 1) := by
  obtain ⟨o, i, closing⟩ := n
  unfold handing number?
  rcases closing with _ | cl <;> rcases hc : o.component? with _ | c
  · rfl
  · rfl
  · simp [draws, hc]
  · by_cases ha : c = .accordion
    · simp [draws, hc, ha, Event.handover?, Handover.numbering?, block]
    · simp [draws, hc, ha, Event.handover?, Handover.numbering?]

theorem Node.length_filter_draws (n : Node) : ([n].filter draws).length = n.drawn := by
  unfold drawn
  by_cases h : n.draws
  · rw [List.filter_cons_of_pos h, if_pos h]
    rfl
  · rw [List.filter_cons_of_neg h, if_neg h]
    rfl

namespace Forest

variable {pictograms : Text} {f : Forest}

/-- The blocks that draw a number, in the order of their openers. -/
def closedAccordions (f : Forest) : List Node := f.preorder.filter Node.draws

/-- The pieces of a forest, all rendered, when the number of an accordion depends on the line of its
opener alone. -/
def numbered (number : Nat → Nat) (pictograms : Text) : Forest → List Text
  | nil => []
  | line _ t f => t :: f.numbered number pictograms
  | block o i c f =>
    Node.htmlAs pictograms ⟨o, i, c⟩ (number o.lineno) (i.numbered number pictograms) ::
      f.numbered number pictograms

theorem closedAccordions_block (o : Opening) (i : Forest) (c : Option Closing) (f : Forest) :
    (block o i c f).closedAccordions =
      [⟨o, i, c⟩].filter Node.draws ++ i.closedAccordions ++ f.closedAccordions := by
  unfold closedAccordions
  rw [← List.filter_append, ← List.filter_append]
  rfl

theorem length_closedAccordions (f : Forest) : f.closedAccordions.length = f.accordions := by
  induction f with
  | nil => rfl
  | line _ _ f ih => exact ih
  | block o i c f ihi ihf =>
    rw [closedAccordions_block, List.length_append, List.length_append, ihi, ihf,
      Node.length_filter_draws, accordions]

/-- Whatever counts up at each closed accordion is the number it gets. -/
theorem rendered_eq_numbered {number : Nat → Nat} {k : Nat}
    (h : f.closedAccordions.map (fun n => number n.opening.lineno) =
      List.range' (k + 1) f.accordions) :
    f.rendered (fun _ => true) pictograms k = f.numbered number pictograms := by
  induction f generalizing k with
  | nil => rfl
  | line _ t f ih => rw [rendered, ih h, numbered]
  | block o i c f ihi ihf =>
    have hnode := Node.length_filter_draws ⟨o, i, c⟩
    have hsplit : List.range' (k + 1) (block o i c f).accordions =
        List.range' (k + 1) (Node.drawn ⟨o, i, c⟩) ++
          List.range' (k + Node.drawn ⟨o, i, c⟩ + 1) i.accordions ++
          List.range' (k + Node.drawn ⟨o, i, c⟩ + i.accordions + 1) f.accordions := by
      rw [accordions, ← List.range'_append_1, ← List.range'_append_1]
      congr 2
      · congr 1
        omega
      · omega
    rw [closedAccordions_block, List.map_append, List.map_append, hsplit] at h
    obtain ⟨hfirst, hrest⟩ := List.append_inj' h (by simp [length_closedAccordions])
    obtain ⟨hself, hinner⟩ := List.append_inj' hfirst (by simp [length_closedAccordions])
    have hnumber : Node.draws ⟨o, i, c⟩ → number o.lineno = k + 1 := by
      intro hdraws
      rw [List.filter_cons_of_pos hdraws, Node.drawn, if_pos hdraws] at hself
      exact (List.cons.inj hself).1
    rw [rendered, numbered, Node.html_eq_htmlAs hnumber, ihi hinner, ihf hrest]

/-- Each closed accordion is handed over with its place among them. -/
theorem handed_numbers_perm (f : Forest) (k : Nat) :
    ((f.handed pictograms k).filterMap Handover.numbering?).Perm
      ((f.closedAccordions.map (·.opening.lineno)).zipIdx (k + 1)) := by
  induction f generalizing k with
  | nil => exact .refl _
  | line _ _ f ih => exact ih k
  | block o i c f ihi ihf =>
    have hinner := ihi (k + Node.drawn ⟨o, i, c⟩)
    have hrest := ihf (k + Node.drawn ⟨o, i, c⟩ + i.accordions)
    -- The blocks inside are handed over before the block itself.
    rw [handed_block, List.filterMap_append, List.filterMap_append, Node.numberings_handing,
      closedAccordions_block, List.map_append, List.map_append, List.zipIdx_append,
      List.zipIdx_append]
    simp only [List.length_append, List.length_map, Node.length_filter_draws,
      length_closedAccordions]
    refine .append (List.perm_append_comm.trans (.append_left _ ?_)) ?_
    · convert hinner using 2
      omega
    · convert hrest using 2
      omega

/-- Accordions are handed over with a number, other blocks without. -/
theorem isSome_number_iff (f : Forest) (k : Nat) :
    ∀ h ∈ f.handed pictograms k, h.number.isSome ↔ h.block.component = .accordion := by
  intro h hh
  obtain ⟨e, he, hhanded⟩ := List.mem_filterMap.mp hh
  obtain ⟨n, -, ⟨-, rfl⟩ | ⟨j, inside, hhanding⟩⟩ := exists_of_mem_events he
  · cases hhanded
  · obtain ⟨cl, c, hcl, hc, rfl⟩ := Node.of_mem_handing hhanding
    cases hhanded
    show (n.number? j).isSome ↔ c = .accordion
    by_cases ha : c = .accordion
    · simp [Node.number?, Node.draws, hcl, hc, ha]
    · simp [Node.number?, Node.draws, hc, ha]

/-- Their openers are in order. -/
theorem pairwise_closedAccordions (t : Text) :
    ((ofText t).closedAccordions.map (·.opening.lineno)).Pairwise (· < ·) := by
  have hlines : ((ofText t).preorder.map (·.opening.lineno)).Pairwise (· < ·) := by
    rw [(lies_ofText t).lineno_preorder]
    refine List.Pairwise.map _ (fun _ _ h => Nat.succ_lt_succ h) ?_
    exact (List.pairwise_lt_range' 1 Nat.one_pos).filter _
  exact hlines.sublist (List.filter_sublist.map _)

end Forest

/-! ## In passes -/

namespace Context

theorem hand_accordions (ctx : Context) {b : Block} (h : b.component ≠ .accordion) :
    (ctx.hand b none).2.accordions = ctx.accordions := by
  have hnumber : ctx.numberFor b none = (0, ctx) := if_neg h
  rw [hand, hnumber]
  rfl

end Context

namespace Piece

variable {c : Component}

/-- The blocks that the pass for a component finds are of this component, and in order. -/
theorem blocks_scan (c : Component) (ls : List Text) : ∀ limit lineno skip,
    (∀ b ∈ (scan c limit lineno skip ls).filterMap block?, b.component = c ∧ lineno ≤ b.lineno) ∧
      ((scan c limit lineno skip ls).filterMap block?).Pairwise (·.lineno < ·.lineno) := by
  induction ls with
  | nil =>
    intro limit lineno skip
    refine ⟨fun b hb => ?_, .nil⟩
    cases hb
  | cons l rest ih =>
    intro limit lineno skip
    have hbelow : ∀ skip, ∀ b ∈ (scan c (limit - 1) (lineno + 1) skip rest).filterMap block?,
        b.component = c ∧ lineno ≤ b.lineno := fun skip b hb =>
      ⟨((ih _ _ skip).1 b hb).1, (Nat.le_succ lineno).trans ((ih _ _ skip).1 b hb).2⟩
    cases skip with
    | succ n => exact ⟨hbelow n, (ih _ _ n).2⟩
    | zero =>
      simp only [scan]
      split
      · exact ⟨hbelow 0, (ih _ _ 0).2⟩
      · next m _ =>
        split
        · rw [List.filterMap_cons_some (show block? (.block _) = some _ from rfl)]
          refine ⟨List.forall_mem_cons.mpr ⟨⟨rfl, le_refl _⟩, hbelow _⟩, .cons ?_ (ih _ _ _).2⟩
          exact fun b hb => ((ih _ _ _).1 b hb).2
        · rw [List.filterMap_cons_none rfl, filterMap_map_line fun _ => rfl]
          refine ⟨fun b hb => ?_, .nil⟩
          cases hb

end Piece

namespace Rendering

variable {c : Component} {number : Block → Nat}

theorem component_of_mem_findBlocks {t : Text} : ∀ b ∈ (findBlocks c t).1, b.component = c :=
  fun b hb => ((Piece.blocks_scan c _ _ _ _).1 b hb).1

theorem pairwise_findBlocks (c : Component) (t : Text) :
    ((findBlocks c t).1.map (·.lineno)).Pairwise (· < ·) :=
  List.pairwise_map.mpr (Piece.blocks_scan c _ _ _ _).2

/-- The text after the pass for a component if the blocks have these numbers. -/
def passText (pictograms : Text) (number : Block → Nat) (c : Component) (t : Text) : Text :=
  (substitute c (fun b => b.html pictograms (number b)) t).1

/-- The text that the pass for accordions reads. -/
def textForAccordions (pictograms t : Text) : Text :=
  (Component.all.takeWhile (· ≠ .accordion)).foldl
    (fun t c => passText pictograms (fun _ => 0) c t) t

/-- The blocks of a pass in order take the numbers that come next, if they take any. -/
theorem pieces_eq_map {ps : List Piece} {ctx : Context}
    (hc : ∀ b ∈ ps.filterMap Piece.block?, b.component = c)
    (hnumber : c = .accordion → (ps.filterMap Piece.block?).map number =
      List.range' (ctx.accordions + 1) (ps.filterMap Piece.block?).length) :
    (pieces ps ctx).1 = ps.map (substitutePiece fun b => b.html ctx.pictograms (number b)) := by
  induction ps generalizing ctx with
  | nil => rfl
  | cons p ps ih =>
    cases p with
    | line t => exact congrArg (t :: ·) (ih hc hnumber)
    | openEnd _ l => exact congrArg (l :: ·) (ih hc hnumber)
    | block b =>
      rw [List.filterMap_cons_some (show Piece.block? (.block b) = some b from rfl)] at hc hnumber
      obtain ⟨hb, hrest⟩ := List.forall_mem_cons.mp hc
      by_cases ha : c = .accordion
      · have hfirst := hnumber ha
        rw [List.map_cons, List.length_cons, List.range'_succ] at hfirst
        obtain ⟨hself, htail⟩ := List.cons.inj hfirst
        simp only [pieces, Context.hand, Context.numberFor, hb, ha, if_true, Context.draw,
          List.map_cons, substitutePiece, hself]
        congr 1
        exact ih hrest fun _ => htail
      · simp only [pieces, Context.hand, Context.numberFor, hb, ha, if_false, List.map_cons,
          substitutePiece]
        rw [Block.html_number (hb ▸ ha) ctx.pictograms 0 (number b)]
        congr 1
        exact ih hrest fun h => absurd h ha

theorem pieces_pictograms (ps : List Piece) (ctx : Context) :
    (pieces ps ctx).2.pictograms = ctx.pictograms := by
  induction ps generalizing ctx with
  | nil => rfl
  | cons p ps ih =>
    cases p with
    | line | openEnd => exact ih ctx
    | block b => exact (ih _).trans (ctx.hand_pictograms b none)

theorem pieces_accordions {ps : List Piece} {ctx : Context}
    (h : ∀ b ∈ ps.filterMap Piece.block?, b.component ≠ .accordion) :
    (pieces ps ctx).2.accordions = ctx.accordions := by
  induction ps generalizing ctx with
  | nil => rfl
  | cons p ps ih =>
    cases p with
    | line | openEnd => exact ih h
    | block b =>
      obtain ⟨hb, hrest⟩ := List.forall_mem_cons.mp h
      exact (ih hrest).trans (ctx.hand_accordions hb)

theorem pass_text {s : Text × Context}
    (hnumber : c = .accordion → (findBlocks c s.1).1.map number =
      List.range' (s.2.accordions + 1) (findBlocks c s.1).1.length) :
    (pass s c).1 = passText s.2.pictograms number c s.1 :=
  congrArg unlines (pieces_eq_map component_of_mem_findBlocks hnumber)

theorem pass_pictograms (s : Text × Context) (c : Component) :
    (pass s c).2.pictograms = s.2.pictograms := pieces_pictograms _ _

theorem pass_accordions {s : Text × Context} (h : c ≠ .accordion) :
    (pass s c).2.accordions = s.2.accordions := by
  refine pieces_accordions fun b hb => ?_
  rw [component_of_mem_findBlocks b hb]
  exact h

/-- Passes for other components draw no number. -/
theorem foldl_pass_quiet {cs : List Component} (h : ∀ c ∈ cs, c ≠ .accordion) (s : Text × Context) :
    (cs.foldl pass s).1 =
        cs.foldl (fun t c => passText s.2.pictograms (fun _ => 0) c t) s.1 ∧
      (cs.foldl pass s).2.accordions = s.2.accordions ∧
      (cs.foldl pass s).2.pictograms = s.2.pictograms := by
  induction cs generalizing s with
  | nil => exact ⟨rfl, rfl, rfl⟩
  | cons c cs ih =>
    obtain ⟨hc, hcs⟩ := List.forall_mem_cons.mp h
    obtain ⟨htext, hcount, hplace⟩ := ih hcs (pass s c)
    refine ⟨?_, hcount.trans (pass_accordions hc), hplace.trans (pass_pictograms s c)⟩
    rw [List.foldl_cons, htext, pass_pictograms, List.foldl_cons,
      pass_text fun ha => absurd ha hc]

/-- The pass for accordions numbers its blocks from one, in order. -/
theorem passes_text (pictograms t : Text) {number : Block → Nat}
    (hnumber : (findBlocks .accordion (textForAccordions pictograms t)).1.map number =
      List.range' 1 (findBlocks .accordion (textForAccordions pictograms t)).1.length) :
    (passes t (.start pictograms)).1 =
      passText pictograms (fun _ => 0) .badge
        (passText pictograms number .accordion (textForAccordions pictograms t)) := by
  have hquiet : ∀ c ∈ Component.all.takeWhile (· ≠ .accordion), c ≠ .accordion := by decide
  obtain ⟨htext, hcount, hplace⟩ := foldl_pass_quiet hquiet (t, .start pictograms)
  have hsplit : passes t (.start pictograms) = pass (pass ((Component.all.takeWhile
      (· ≠ .accordion)).foldl pass (t, .start pictograms)) .accordion) .badge := by
    have hall : Component.all =
        Component.all.takeWhile (· ≠ .accordion) ++ [.accordion, .badge] := by decide
    unfold passes
    conv_lhs => rw [hall, List.foldl_append, List.foldl_cons, List.foldl_cons, List.foldl_nil]
  revert htext hcount hplace hsplit
  generalize (Component.all.takeWhile (· ≠ .accordion)).foldl pass (t, .start pictograms) = s
  intro htext hcount hplace hsplit
  have hbefore : s.1 = textForAccordions pictograms t := htext
  have hzero : s.2.accordions = 0 := hcount
  have hpictograms : s.2.pictograms = pictograms := hplace
  have hself : (pass s .accordion).1 =
      passText pictograms number .accordion (textForAccordions pictograms t) := by
    rw [pass_text fun _ => by rw [hzero, hbefore, hnumber], hpictograms, hbefore]
  have hlast : (pass (pass s .accordion) .badge).1 =
      passText (pass s .accordion).2.pictograms (fun _ => 0) .badge (pass s .accordion).1 :=
    pass_text fun h => absurd h (by decide)
  rw [hsplit, hlast, pass_pictograms, hpictograms, hself]

end Rendering

/-! ## In every text -/

namespace Transpiler

/-- How a text with these closed accordions comes out by block structure. -/
structure NestedNumbers (p : Transpiler) (t : Text) (accordions : List Node) (out : Transpiled) :
    Prop where
  /-- The openers are in order. -/
  ordered : (accordions.map (·.opening.lineno)).Pairwise (· < ·)
  /-- Each one is handed over with its place among them. -/
  handed : ((p.handovers t).filterMap Handover.numbering?).Perm
    ((accordions.map (·.opening.lineno)).zipIdx 1)
  /-- The numbers are those from one on without a gap, each used once. -/
  used : ((p.handovers t).filterMap (·.number)).Perm (List.range' 1 accordions.length)
  /-- No other block has a number. -/
  alone : ∀ h ∈ p.handovers t, h.number.isSome ↔ h.block.component = .accordion
  /-- In the text each one has the number of its place. -/
  shown : ∃ number : Nat → Nat,
    (∀ k n, accordions[k]? = some n → number n.opening.lineno = k + 1) ∧
      out.text = unlines ((Forest.ofText t).numbered number p.pictograms)

/-- How a text with these blocks in the pass for accordions comes out in passes. -/
structure PassesNumbers (p : Transpiler) (t : Text) (accordions : List Block) (out : Transpiled) :
    Prop where
  /-- The openers are in order. -/
  ordered : (accordions.map (·.lineno)).Pairwise (· < ·)
  /-- In the text each one has the number of its place. -/
  shown : ∃ number : Block → Nat,
    (∀ k b, accordions[k]? = some b → number b = k + 1) ∧
      out.text = Rendering.passText p.pictograms (fun _ => 0) .badge
        (Rendering.passText p.pictograms number .accordion
          (Rendering.textForAccordions p.pictograms t))

/-- In what comes out of a text the accordions are numbered from one in the order of their
openers. -/
def Numbers (p : Transpiler) (t : Text) (out : Transpiled) : Prop :=
  match p.strategy with
  | .nested => p.NestedNumbers t (Forest.ofText t).closedAccordions out
  | .passes => p.PassesNumbers t
      (Rendering.findBlocks .accordion (Rendering.textForAccordions p.pictograms t)).1 out

variable (pictograms separator t : Text)

theorem nestedNumbers :
    NestedNumbers ⟨.nested, pictograms, separator⟩ t (Forest.ofText t).closedAccordions
      (transpile ⟨.nested, pictograms, separator⟩ t) := by
  have hordered := Forest.pairwise_closedAccordions t
  have hnodup := hordered.imp Nat.ne_of_lt
  have hhanded : (((Forest.ofText t).handed pictograms 0).filterMap Handover.numbering?).Perm
      (((Forest.ofText t).closedAccordions.map (·.opening.lineno)).zipIdx 1) :=
    Forest.handed_numbers_perm _ 0
  refine ⟨hordered, ?_, ?_, ?_, place ((Forest.ofText t).closedAccordions.map (·.opening.lineno)),
    fun k n hn => place_of_getElem? hnodup hn, ?_⟩
  · rw [handovers_nested]
    exact hhanded
  · have hnumbers := hhanded.map Prod.snd
    rw [List.map_filterMap, List.zipIdx_map_snd, List.length_map] at hnumbers
    rw [handovers_nested]
    simpa only [Handover.snd_numbering?] using hnumbers
  · rw [handovers_nested]
    exact Forest.isSome_number_iff _ _
  · have hplaces := map_place hnodup
    rw [List.map_map, List.length_map, Forest.length_closedAccordions] at hplaces
    rw [text_nested, Forest.rendered_eq_numbered hplaces]

theorem text_passes :
    (transpile ⟨.passes, pictograms, separator⟩ t).text = (Rendering.passes t (.start pictograms)).1 := by
  simp only [transpile, render]

theorem passesNumbers :
    PassesNumbers ⟨.passes, pictograms, separator⟩ t
      (Rendering.findBlocks .accordion (Rendering.textForAccordions pictograms t)).1
      (transpile ⟨.passes, pictograms, separator⟩ t) := by
  have hordered := Rendering.pairwise_findBlocks .accordion
    (Rendering.textForAccordions pictograms t)
  have hnodup := hordered.imp Nat.ne_of_lt
  have hplaces := map_place hnodup
  rw [List.map_map, List.length_map] at hplaces
  refine ⟨hordered, fun b => place _ b.lineno, fun k b hb => place_of_getElem? hnodup hb, ?_⟩
  rw [text_passes, Rendering.passes_text pictograms t hplaces]
  rfl

/-- In every text the accordions are numbered from one, and again in every slide. -/
theorem accordions_numbered (p : Transpiler) (t : Text) :
    p.Numbers t (p.transpile t) ∧
      List.Forall₂ p.Numbers (Slides.split p.separator t) (p.transpileSlides t) := by
  have hall : ∀ t, p.Numbers t (p.transpile t) := by
    intro t
    obtain ⟨strategy, pictograms, separator⟩ := p
    cases strategy with
    | nested => exact nestedNumbers pictograms separator t
    | passes => exact passesNumbers pictograms separator t
  exact ⟨hall t, List.forall₂_map_right_iff.mpr (List.forall₂_same.mpr fun slide _ => hall slide)⟩

end Transpiler

end BlockMarkup
