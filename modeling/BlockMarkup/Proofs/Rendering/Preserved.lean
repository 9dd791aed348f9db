import BlockMarkup.Transpiler
import BlockMarkup.Proofs.Rendering.Recursion

/-!
# What a rendering preserves

To hand over a block adds its reports and the block, and changes nothing else but the count of
accordions (`Context.hand_reports`, `Context.hand_handovers`). A property of contexts that the steps on
the blocks of a text preserve holds when the text is rendered: by block structure if it is kept when a
block is announced and closed (`Rendering.nested_preserves`), in passes if it is kept when a pass
reports and hands its blocks over (`Rendering.passes_preserves`).
-/

namespace BlockMarkup

open Text

namespace Context

variable (ctx : Context) (b : Block) (number : Option Nat)

/-- To find a number for a block changes nothing but the count of accordions. -/
theorem exists_numberFor_eq : ∃ k, (ctx.numberFor b number).2 = { ctx with accordions := k } := by
  unfold numberFor
  split
  · exact ⟨ctx.accordions, rfl⟩
  · split
    · exact ⟨ctx.accordions + 1, rfl⟩
    · exact ⟨ctx.accordions, rfl⟩

theorem hand_pictograms : (ctx.hand b number).2.pictograms = ctx.pictograms := by
  obtain ⟨k, hk⟩ := ctx.exists_numberFor_eq b number
  show (ctx.numberFor b number).2.pictograms = _
  rw [hk]

theorem hand_reports : (ctx.hand b number).2.reports = ctx.reports ++ b.reports := by
  obtain ⟨k, hk⟩ := ctx.exists_numberFor_eq b number
  show (ctx.numberFor b number).2.reports ++ b.reports = _
  rw [hk]

theorem hand_handovers :
    (ctx.hand b number).2.handovers = ctx.handovers.map (· ++ [⟨b, number⟩]) := by
  obtain ⟨k, hk⟩ := ctx.exists_numberFor_eq b number
  show (ctx.numberFor b number).2.handovers.map (· ++ [⟨b, number⟩]) = _
  rw [hk]

end Context

namespace Rendering

variable {P : Context → Prop} {ctx : Context}

theorem recursive_preserves {f : Forest}
    (hannounce : ∀ n ∈ f.preorder, ∀ ctx, P ctx → P (n.announce ctx).2)
    (hclose : ∀ n ∈ f.preorder, ∀ number inside ctx, P ctx → P (n.close number inside ctx).2)
    (h : P ctx) : P (recursive f ctx).2 := by
  induction f generalizing ctx with
  | nil => exact h
  | line n t f ih => exact ih hannounce hclose h
  | block o i c f ihi ihf =>
    obtain ⟨hself, hrest⟩ := List.forall_mem_cons.mp hannounce
    obtain ⟨hi, hf⟩ := List.forall_mem_append.mp hrest
    obtain ⟨hself', hrest'⟩ := List.forall_mem_cons.mp hclose
    obtain ⟨hi', hf'⟩ := List.forall_mem_append.mp hrest'
    exact ihf hf hf' (hself' _ _ _ (ihi hi hi' (hself _ h)))

theorem nested_preserves {t : Text} (hreport : P (ctx.report (Forest.ofText t).reports))
    (hannounce : ∀ n ∈ (Forest.ofText t).preorder, ∀ ctx, P ctx → P (n.announce ctx).2)
    (hclose : ∀ n ∈ (Forest.ofText t).preorder, ∀ number inside ctx, P ctx →
      P (n.close number inside ctx).2) : P (nested t ctx).2 := by
  show P (forest (Forest.ofText t) (ctx.report (Forest.ofText t).reports)).2
  rw [forest_eq_recursive]
  exact recursive_preserves hannounce hclose hreport

theorem pieces_preserves {ps : List Piece}
    (hhand : ∀ b ∈ ps.filterMap Piece.block?, ∀ ctx, P ctx → P (ctx.hand b none).2) (h : P ctx) :
    P (pieces ps ctx).2 := by
  induction ps generalizing ctx with
  | nil => exact h
  | cons p ps ih =>
    cases p with
    | line t => exact ih hhand h
    | openEnd n l => exact ih hhand h
    | block b =>
      obtain ⟨hself, hrest⟩ := List.forall_mem_cons.mp hhand
      exact ih hrest (hself _ h)

/-- A pass reports nothing but the opener it stops at. -/
theorem exists_of_mem_reports_findBlocks {c : Component} {t : Text} {d : Diagnostic}
    (hd : d ∈ (findBlocks c t).2) : ∃ (n : Nat) (l : Text), .openEnd n l ∈ Piece.ofText c t ∧
      d = ⟨trim l, .unterminatedBlock, some n, some c.keyword, none⟩ := by
  obtain ⟨p, hp, hreport⟩ := List.mem_filterMap.mp hd
  cases p with
  | line t => cases hreport
  | block b => cases hreport
  | openEnd n l => exact ⟨n, l, hp, (Option.some.inj hreport).symm⟩

/-- Each pass reads the text that the passes before it have made. -/
theorem passes_preserves (t : Text)
    (hreport : ∀ c u ctx, P ctx → P (ctx.report (findBlocks c u).2))
    (hhand : ∀ c u, ∀ b ∈ (findBlocks c u).1, ∀ ctx, P ctx → P (ctx.hand b none).2) (h : P ctx) :
    P (passes t ctx).2 := by
  unfold passes
  generalize Component.all = cs
  induction cs generalizing t ctx with
  | nil => exact h
  | cons c cs ih => exact ih _ (pieces_preserves (hhand c t) (hreport c t ctx h))

end Rendering

end BlockMarkup
