import BlockMarkup.Transpiler
import BlockMarkup.Proofs.Document.Matching
import BlockMarkup.Proofs.Rendering.Events

/-!
# Only rendered blocks are touched

Nested rendering cuts the outermost rendered blocks out of the lines of a text and puts their HTML in
their places. All other lines stay as they are: those around the blocks, and those of blocks that are
unterminated or unknown (`Transpiler.nested_replaces`).
-/

namespace BlockMarkup

open Text Layout

/-! ## Patches -/

/-- Lines to be replaced, by the numbers of the first and the last one, and what replaces them. -/
structure Patch where
  first : Nat
  last : Nat
  text : Text
deriving DecidableEq

namespace Patch

/-- The lines from `a` up to `b`, counted from zero. -/
def stretch (ls : List Text) (a b : Nat) : List Text := (ls.take b).drop a

/-- The lines from `a` up to `b` with the patches in their places. -/
def splice (ls : List Text) (a b : Nat) : List Patch → List Text
  | [] => stretch ls a b
  | p :: ps => stretch ls a (p.first - 1) ++ p.text :: splice ls p.last b ps

/-- The patches follow one another in the lines from `a` up to `b`. -/
def Fit (a b : Nat) : List Patch → Prop
  | [] => a ≤ b
  | p :: ps => a < p.first ∧ p.first ≤ p.last ∧ Fit p.last b ps

variable {ls : List Text} {a m b : Nat} {ps qs : List Patch}

theorem stretch_append (ham : a ≤ m) (hmb : m ≤ b) :
    stretch ls a m ++ stretch ls m b = stretch ls a b := by
  have hsplit : stretch ls m b = (stretch ls a b).drop (m - a) := by
    rw [stretch, stretch, List.drop_drop, Nat.add_sub_cancel' ham]
  have htake : stretch ls a m = (stretch ls a b).take (m - a) := by
    rw [stretch, stretch, List.take_drop, List.take_take, Nat.add_sub_cancel' ham,
      Nat.min_eq_left hmb]
  rw [hsplit, htake, List.take_append_drop]

@[simp] theorem stretch_self (ls : List Text) (a : Nat) : stretch ls a a = [] := by
  simp [stretch]

theorem stretch_eq_of_drop {xs below : List Text} (h : ls.drop a = xs ++ below) :
    stretch ls a (a + xs.length) = xs := by
  rw [stretch, List.drop_take, Nat.add_sub_cancel_left, h, List.take_left]

theorem stretch_succ {l : Text} (h : ls[a]? = some l) : stretch ls a (a + 1) = [l] := by
  have hdrop : ls.drop a = [l] ++ ls.drop (a + 1) := Token.drop_eq_cons h
  exact stretch_eq_of_drop hdrop

theorem stretch_length (ls : List Text) (a : Nat) : stretch ls a ls.length = ls.drop a := by
  rw [stretch, List.take_length]

theorem drop_eq_stretch_append (hab : a ≤ b) (hb : b ≤ ls.length) :
    ls.drop a = stretch ls a b ++ ls.drop b := by
  rw [← stretch_length, ← stretch_length, stretch_append hab hb]

theorem length_stretch (h : b ≤ ls.length) : (stretch ls a b).length = b - a := by
  rw [stretch, List.length_drop, List.length_take, Nat.min_eq_left h]

theorem mem_of_mem_stretch {l : Text} (h : l ∈ stretch ls a b) : l ∈ ls :=
  List.mem_of_mem_take (List.mem_of_mem_drop h)

/-- A line in front of the patches. -/
theorem Fit.line (hps : Fit (a + 1) b ps) : Fit a b ps := by
  cases ps with
  | nil => exact Nat.le_of_succ_le hps
  | cons p ps => exact ⟨Nat.lt_of_succ_lt hps.1, hps.2⟩

theorem Fit.append (hp : Fit a m ps) (hq : Fit m b qs) : Fit a b (ps ++ qs) := by
  induction ps generalizing a with
  | nil =>
    cases qs with
    | nil => exact le_trans (show a ≤ m from hp) hq
    | cons q qs => exact ⟨lt_of_le_of_lt (show a ≤ m from hp) hq.1, hq.2⟩
  | cons p ps ih => exact ⟨hp.1, hp.2.1, ih hp.2.2⟩

theorem splice_append (ls : List Text) (hp : Fit a m ps) (hq : Fit m b qs) :
    splice ls a b (ps ++ qs) = splice ls a m ps ++ splice ls m b qs := by
  induction ps generalizing a with
  | nil =>
    have ham : a ≤ m := hp
    cases qs with
    | nil => exact (stretch_append ham hq).symm
    | cons q qs =>
      have hmq : m < q.first := hq.1
      simp only [List.nil_append, splice]
      rw [← stretch_append ham (by omega : m ≤ q.first - 1), List.append_assoc]
  | cons p ps ih => simp [splice, ih hp.2.2]

/-- A line in front of the patches is left alone. -/
theorem splice_line {l : Text} (hl : ls[a]? = some l) (hps : Fit (a + 1) b ps) :
    splice ls a b ps = l :: splice ls (a + 1) b ps := by
  have hline : Fit a (a + 1) [] := Nat.le_succ a
  have hsplice := splice_append ls hline hps
  rwa [List.nil_append, splice, stretch_succ hl] at hsplice

/-- Patches in a part of the lines leave those around the part alone. -/
theorem splice_inside (ls : List Text) {c d : Nat} (hac : a ≤ c) (hps : Fit c d ps) (hdb : d ≤ b) :
    Fit a b ps ∧
      splice ls a b ps = stretch ls a c ++ splice ls c d ps ++ stretch ls d b := by
  have hbefore : Fit a c [] := hac
  have hbehind : Fit d b [] := hdb
  have hfit := hbefore.append hps
  constructor
  · simpa using hfit.append hbehind
  · have hsplice := splice_append ls hfit hbehind
    rwa [splice_append ls hbefore hps, List.nil_append, List.append_nil] at hsplice

end Patch

open Patch

/-! ## The patches of a forest -/

/-- The patch that a closed block becomes when all components are rendered. -/
def Node.patch (pictograms : Text) (n : Node) (k : Nat) (inside : List Text) : Patch where
  first := n.opening.lineno
  last := (n.closing.map (·.lineno)).getD n.opening.lineno
  text := n.html (fun _ => true) pictograms k inside

/-- A patch puts what a block became when it was handed over in the place of its lines. -/
structure Patch.Shows (pictograms : Text) (hs : List Handover) (n : Node) (p : Patch) : Prop where
  first : p.first = n.opening.lineno
  last : n.closing.map (·.lineno) = some p.last
  handed : ∃ h ∈ hs, h.block.lineno = n.opening.lineno ∧
    n.opening.component? = some h.block.component ∧
    p.text = h.block.html pictograms (h.number.getD 0)

theorem Patch.Shows.mono {pictograms : Text} {hs gs : List Handover} {n : Node} {p : Patch}
    (h : p.Shows pictograms hs n) (hsub : hs ⊆ gs) : p.Shows pictograms gs n := by
  obtain ⟨e, he, hrest⟩ := h.handed
  exact ⟨h.first, h.last, e, hsub he, hrest⟩

theorem Node.shows_patch {n : Node} (hr : n.isRendered) (pictograms : Text) (k : Nat)
    (inside : List Text) :
    (n.patch pictograms k inside).Shows pictograms
      ((n.handing k inside).filterMap Event.handover?) n := by
  obtain ⟨cl, c, hcl, hc⟩ := exists_of_isRendered hr
  rw [handing_eq hcl hc]
  exact ⟨rfl, by simp [patch, hcl], _, List.mem_singleton_self _, rfl, hc,
    html_of_rendered hcl hc pictograms k inside⟩

namespace Forest

/-- The patches of the rendered blocks that no rendered block holds. -/
def patches (pictograms : Text) : Forest → Nat → List Patch
  | nil, _ => []
  | line _ _ f, k => f.patches pictograms k
  | block o i c f, k =>
    (if Node.isRendered ⟨o, i, c⟩ then
      [Node.patch pictograms ⟨o, i, c⟩ k
        (i.rendered (fun _ => true) pictograms (k + Node.drawn ⟨o, i, c⟩))]
    else i.patches pictograms (k + Node.drawn ⟨o, i, c⟩)) ++
      f.patches pictograms (k + Node.drawn ⟨o, i, c⟩ + i.accordions)

variable {ls : List Text} {s : Surrounding} {a b : Nat} {f : Forest} {pictograms : Text}

theorem Lies.fit_patches (h : Lies ls s a f b) (pictograms : Text) (k : Nat) :
    Fit a b (f.patches pictograms k) := by
  induction h generalizing k with
  | nil => exact le_refl _
  | line _ _ _ _ ih => exact (ih k).line
  | @closed s a b c o i f cl ho hi hc hf ihi ihf =>
    have hac : bodyStart ls a ≤ c := hi.le
    have hstart : a < bodyStart ls a := lt_bodyStart
    refine Fit.append (m := c + 1) ?_ (ihf _)
    by_cases hr : Node.isRendered ⟨o, i, some cl⟩
    · rw [if_pos hr]
      simp only [Fit, Node.patch, ho.lineno, Option.map_some, Option.getD_some, hc.lineno]
      omega
    · rw [if_neg hr]
      exact (splice_inside ls hstart.le (ihi _) (Nat.le_succ c)).1
  | @unclosed s a o i hs ho hi ihi =>
    simpa [patches, Node.isRendered] using
      (splice_inside ls lt_bodyStart.le (ihi _) (le_refl _)).1

theorem stretch_head {o : Opening} (ho : o.LiesAt ls a) :
    stretch ls a (bodyStart ls a) = o.head := by
  rw [← ho.length_head]
  exact stretch_eq_of_drop ho.drop_eq

/-- The rendered pieces have the lines of the text with the patches in their places. -/
theorem Lies.flatMap_lines_rendered (h : Lies ls s a f b) (k : Nat) :
    (f.rendered (fun _ => true) pictograms k).flatMap lines =
      (splice ls a b (f.patches pictograms k)).flatMap lines := by
  induction h generalizing k with
  | nil => simp [rendered, patches, splice]
  | @line s a b t f ht ho hc hf ih =>
    simp [rendered, patches, splice_line ht (hf.fit_patches pictograms k), ih]
  | @closed s a b c o i f cl ho hi hc hf ihi ihf =>
    have hblock := Lies.closed (s := .closed) ho hi hc .nil
    have hfit := hblock.fit_patches pictograms k
    rw [patches, patches, List.append_nil] at hfit
    rw [rendered, patches, splice_append ls hfit (hf.fit_patches _ _), List.flatMap_cons,
      List.flatMap_append, ihf]
    congr 1
    by_cases hr : Node.isRendered ⟨o, i, some cl⟩
    · rw [if_pos hr]
      simp [splice, Node.patch, ho.lineno, hc.lineno]
    · obtain ⟨-, hsplice⟩ := splice_inside ls lt_bodyStart.le
        (hi.fit_patches pictograms _) (Nat.le_succ c)
      rw [if_neg hr, hsplice, Node.html_of_not_rendered (by simpa using hr), Node.lines_around,
        stretch_head ho, stretch_succ hc.line, List.flatMap_append, List.flatMap_append, ihi,
        List.flatMap_append, List.flatMap_append]
      rfl
  | @unclosed s a o i hs ho hi ihi =>
    have hr : Node.isRendered ⟨o, i, none⟩ = false := rfl
    obtain ⟨-, hsplice⟩ := splice_inside ls lt_bodyStart.le
      (hi.fit_patches pictograms (k + Node.drawn ⟨o, i, none⟩)) (le_refl _)
    rw [rendered, patches, hr, if_neg (by decide), patches, List.append_nil, hsplice,
      Node.html_of_not_rendered hr, List.flatMap_cons, Node.lines_around, stretch_head ho]
    simp [ihi, rendered, Node.closer]

/-! ## Blocks that no other holds -/

/-- Some block of a kind holds the block, at any depth. -/
def Inside (f : Forest) (hide : Node → Bool) (n : Node) : Prop :=
  ∃ p ∈ f.preorder, hide p ∧ n ∈ p.inner.preorder

instance (f : Forest) (hide : Node → Bool) (n : Node) : Decidable (f.Inside hide n) :=
  inferInstanceAs (Decidable (∃ p ∈ f.preorder, hide p ∧ n ∈ p.inner.preorder))

/-- The blocks of one kind that no block of another kind holds, in the order of their openers. -/
def outside (f : Forest) (keep hide : Node → Bool) : List Node :=
  f.preorder.filter fun n => keep n ∧ ¬ f.Inside hide n

variable {keep hide : Node → Bool}

theorem inside_block_iff {o : Opening} {i : Forest} {c : Option Closing} {n : Node} :
    (block o i c f).Inside hide n ↔
      (hide ⟨o, i, c⟩ ∧ n ∈ i.preorder) ∨ i.Inside hide n ∨ f.Inside hide n := by
  simp only [Inside, preorder, List.mem_cons, List.mem_append, or_and_right, exists_or,
    exists_eq_left]

theorem Inside.mem {n : Node} (h : f.Inside hide n) : n ∈ f.preorder := by
  obtain ⟨p, hp, -, hn⟩ := h
  exact mem_preorder_of_mem_inner hp hn

theorem outside_block {o : Opening} {i : Forest} {c : Option Closing}
    (h : (block o i c f).preorder.Nodup) :
    (block o i c f).outside keep hide =
      (if keep ⟨o, i, c⟩ then [⟨o, i, c⟩] else []) ++
        (if hide ⟨o, i, c⟩ then [] else i.outside keep hide) ++ f.outside keep hide := by
  obtain ⟨hself, hrest⟩ := List.nodup_cons.mp h
  have hapart := List.disjoint_of_nodup_append hrest
  rw [List.mem_append, not_or] at hself
  have hfree : ¬ (block o i c f).Inside hide ⟨o, i, c⟩ := by
    rw [inside_block_iff]
    rintro (⟨-, hn⟩ | hn | hn)
    · exact hself.1 hn
    · exact hself.1 hn.mem
    · exact hself.2 hn.mem
  have hinner : i.preorder.filter (fun n => keep n ∧ ¬ (block o i c f).Inside hide n) =
      if hide ⟨o, i, c⟩ then [] else i.outside keep hide := by
    have hinside : ∀ n ∈ i.preorder,
        ((block o i c f).Inside hide n ↔ hide ⟨o, i, c⟩ ∨ i.Inside hide n) := by
      intro n hn
      have hnot : ¬ f.Inside hide n := fun hf => hapart hn hf.mem
      rw [inside_block_iff]
      simp [hn, hnot]
    split
    · next hhide =>
      rw [List.filter_eq_nil_iff]
      intro n hn
      simp [hinside n hn, hhide]
    · next hhide => exact List.filter_congr fun n hn => by simp [hinside n hn, hhide]
  have hbehind : f.preorder.filter (fun n => keep n ∧ ¬ (block o i c f).Inside hide n) =
      f.outside keep hide := by
    refine List.filter_congr fun n hn => ?_
    have hnot : n ∉ i.preorder := fun hi => hapart hi hn
    have hnot' : ¬ i.Inside hide n := fun hi => hnot hi.mem
    simp [inside_block_iff, hnot, hnot']
  rw [outside, preorder, List.filter_cons, List.filter_append, hinner, hbehind, List.append_assoc]
  by_cases hkeep : keep ⟨o, i, c⟩
  · rw [if_pos (by simp [hkeep, hfree]), if_pos hkeep]
    rfl
  · rw [if_neg (by simp [hkeep]), if_neg hkeep]
    rfl

/-! ## Outermost blocks -/

/-- Some rendered block holds the block, at any depth. -/
def Encloses (f : Forest) (n : Node) : Prop :=
  ∃ p ∈ f.preorder, p.isRendered ∧ n ∈ p.inner.preorder

instance (f : Forest) (n : Node) : Decidable (f.Encloses n) :=
  inferInstanceAs (Decidable (∃ p ∈ f.preorder, p.isRendered ∧ n ∈ p.inner.preorder))

/-- The rendered blocks that no rendered block holds, in the order of their openers. -/
def outermost (f : Forest) : List Node := f.preorder.filter fun n => n.isRendered ∧ ¬ f.Encloses n

theorem outermost_eq_outside (f : Forest) : f.outermost = f.outside Node.isRendered Node.isRendered := rfl

theorem outermost_block {o : Opening} {i : Forest} {c : Option Closing}
    (h : (block o i c f).preorder.Nodup) :
    (block o i c f).outermost =
      (if Node.isRendered ⟨o, i, c⟩ then [⟨o, i, c⟩] else i.outermost) ++ f.outermost := by
  rw [outermost_eq_outside, outside_block h]
  split <;> rfl

/-! ## Blocks handed over -/

/-- Each rendered block is handed over exactly once. -/
theorem lineno_handed_perm (f : Forest) (k : Nat) :
    ((f.handed pictograms k).map (·.block.lineno)).Perm
      ((f.preorder.filter Node.isRendered).map (·.opening.lineno)) := by
  induction f generalizing k with
  | nil => rfl
  | line _ _ f ih => exact ih k
  | block o i c f ihi ihf =>
    have hboth := (ihi (k + Node.drawn ⟨o, i, c⟩)).append
      (ihf (k + Node.drawn ⟨o, i, c⟩ + i.accordions))
    rw [← List.map_append, ← List.map_append, ← List.filter_append] at hboth
    rw [handed_block, preorder, List.filter_cons]
    by_cases hr : Node.isRendered ⟨o, i, c⟩
    · obtain ⟨cl, comp, hcl, hcomp⟩ := Node.exists_of_isRendered hr
      rw [Node.handing_eq hcl hcomp, if_pos hr, List.append_assoc]
      refine (List.perm_middle.map _).trans ?_
      exact hboth.cons _
    · rw [Node.handing_of_not_rendered (by simpa using hr), if_neg hr]
      simpa using hboth

theorem Lies.nodup_lineno_handed (h : Lies ls s a f b) (k : Nat) :
    ((f.handed pictograms k).map (·.block.lineno)).Nodup := by
  rw [(f.lineno_handed_perm k).nodup_iff]
  exact h.nodup_lineno_preorder.sublist (List.filter_sublist.map _)

theorem forall₂_outermost_patches (h : f.preorder.Nodup) (k : Nat) :
    List.Forall₂ (fun n p => Patch.Shows pictograms (f.handed pictograms k) n p) f.outermost
      (f.patches pictograms k) := by
  induction f generalizing k with
  | nil => exact .nil
  | line _ _ f ih => exact ih h k
  | block o i c f ihi ihf =>
    obtain ⟨hi, hf, -⟩ := List.nodup_append'.mp (List.nodup_cons.mp h).2
    rw [outermost_block h, patches, handed_block]
    refine List.rel_append ?_ ?_
    · by_cases hr : Node.isRendered ⟨o, i, c⟩
      · rw [if_pos hr, if_pos hr]
        refine .cons ((Node.shows_patch hr pictograms k _).mono ?_) .nil
        exact fun e he => List.mem_append_left _ (List.mem_append_right _ he)
      · rw [if_neg hr, if_neg hr]
        refine (ihi hi _).imp fun n p hp => hp.mono ?_
        exact fun e he => List.mem_append_left _ (List.mem_append_left _ he)
    · exact (ihf hf _).imp fun n p hp => hp.mono (List.subset_append_right _ _)

theorem patches_eq_nil (h : ∀ n ∈ f.preorder, n.isRendered = false) (k : Nat) :
    f.patches pictograms k = [] := by
  induction f generalizing k with
  | nil => rfl
  | line _ _ f ih => exact ih h k
  | block o i c f ihi ihf =>
    obtain ⟨hself, hrest⟩ := List.forall_mem_cons.mp h
    obtain ⟨hi, hf⟩ := List.forall_mem_append.mp hrest
    rw [patches, hself, if_neg (by decide), ihi hi, ihf hf]
    rfl

end Forest

/-! ## The whole text -/

namespace Transpiler

/-- The nested rendering of a text is its lines with the outermost rendered blocks replaced, each by
what it became when it was handed over; without such blocks it is the text. -/
theorem nested_replaces (pictograms separator t : Text) :
    let p : Transpiler := ⟨.nested, pictograms, separator⟩
    ((p.handovers t).map (·.block.lineno)).Nodup ∧
      (∃ patches, List.Forall₂ (fun n q => Patch.Shows pictograms (p.handovers t) n q)
          (Forest.ofText t).outermost patches ∧
        Fit 0 (lines t).length patches ∧
        (p.transpile t).text = unlines (splice (lines t) 0 (lines t).length patches)) ∧
      ((∀ n ∈ (Forest.ofText t).preorder, n.isRendered = false) → (p.transpile t).text = t) := by
  intro p
  have hlies := Forest.lies_ofText t
  have hhanded : p.handovers t = (Forest.ofText t).handed pictograms 0 := by
    simp [p, handovers, render, Rendering.nested_eq, Context.keeping, Context.report,
      Context.record, Forest.handed]
  have htext : (p.transpile t).text =
      unlines (splice (lines t) 0 (lines t).length ((Forest.ofText t).patches pictograms 0)) := by
    have hpieces : (p.transpile t).text =
        unlines ((Forest.ofText t).rendered (fun _ => true) pictograms 0) := by
      simp [p, transpile, render, Rendering.nested_eq, Context.start]
    rw [hpieces]
    exact unlines_congr (hlies.flatMap_lines_rendered 0)
  refine ⟨?_, ⟨(Forest.ofText t).patches pictograms 0, ?_, hlies.fit_patches pictograms 0, htext⟩, ?_⟩
  · rw [hhanded]
    exact hlies.nodup_lineno_handed 0
  · rw [hhanded]
    exact Forest.forall₂_outermost_patches hlies.nodup_preorder 0
  · intro hnone
    rw [htext, Forest.patches_eq_nil hnone, splice, stretch, List.take_length, List.drop_zero,
      unlines_lines]

end Transpiler

end BlockMarkup
