import BlockMarkup.Transpiler
import BlockMarkup.Proofs.Document.Matching
import BlockMarkup.Proofs.Rendering.Preserved
import BlockMarkup.Proofs.Rendering.Shift

/-!
# The line numbers of reports

Every report on a text that has a line number has that of a line, counted from one
(`Transpiler.placed_render`): zero, which stands for an unknown place, is never reported. So reports
sorted by line number stay in their order further down in a text (`Diagnostic.sort_shift`).
-/

namespace BlockMarkup

open Text

/-- A report whose line number, if it has one, is a line of a text. -/
def Diagnostic.Placed (d : Diagnostic) : Prop := ∀ n ∈ d.lineno, 0 < n

theorem Diagnostic.placed_of_ne_zero {n : Nat} (h : n ≠ 0) (line : Text) (p : Problem)
    (component : Option Text) (slide : Option Int) :
    (⟨line, p, some n, component, slide⟩ : Diagnostic).Placed := by
  intro m hm
  cases hm
  exact Int.natCast_pos.mpr (Nat.pos_of_ne_zero h)

/-! ## Reports on blocks -/

namespace Block

theorem knownLine_pos (k : Nat) : ∀ n ∈ knownLine k, 0 < n := by
  intro n hn
  unfold knownLine at hn
  by_cases hk : k = 0
  · rw [if_pos hk] at hn
    cases hn
  · rw [if_neg hk] at hn
    cases hn
    omega

theorem placed_reports (b : Block) : ∀ d ∈ b.reports, d.Placed := by
  intro d hd n hn
  have hpos := knownLine_pos b.settingLines.2
  obtain ⟨-, -, ⟨j, l, -, -, hlineno, -⟩ | ⟨-, hlineno⟩⟩ := of_mem_reports hd
  · rw [hlineno] at hn
    obtain ⟨m, hm, rfl⟩ := Option.map_eq_some_iff.mp hn
    have hm := hpos m hm
    omega
  · rw [hlineno] at hn
    exact hpos n hn

end Block

/-! ## The course of a rendering -/

namespace Context

/-- All reports made so far have their places in the text. -/
def Placed (ctx : Context) : Prop := ∀ d ∈ ctx.reports, d.Placed

variable {ctx : Context}

theorem Placed.report {ds : List Diagnostic} (h : ctx.Placed) (hds : ∀ d ∈ ds, d.Placed) :
    (ctx.report ds).Placed :=
  List.forall_mem_append.mpr ⟨h, hds⟩

theorem Placed.hand (h : ctx.Placed) (b : Block) (number : Option Nat) :
    (ctx.hand b number).2.Placed := by
  rw [Context.Placed, hand_reports]
  exact List.forall_mem_append.mpr ⟨h, b.placed_reports⟩

end Context

namespace Node

variable {n : Node} {ctx : Context}

theorem placed_announce (h : ctx.Placed) (hn : n.opening.lineno ≠ 0) : (n.announce ctx).2.Placed := by
  unfold announce
  split
  · refine h.report fun d hd => ?_
    rw [List.mem_singleton.mp hd]
    exact Diagnostic.placed_of_ne_zero hn _ _ _ _
  · exact h
  · exact h

theorem placed_close (h : ctx.Placed) (number : Option Nat) (inside : List Text) :
    (n.close number inside ctx).2.Placed := by
  unfold close
  split
  · exact h.hand _ _
  · exact h

end Node

theorem Forest.placed_reports_ofText (t : Text) : ∀ d ∈ (ofText t).reports, d.Placed := by
  intro d hd
  have hlies := lies_ofText t
  rcases List.mem_append.mp hd with hd | hd
  · obtain ⟨⟨n, l⟩, he, rfl⟩ := List.mem_map.mp hd
    obtain ⟨c, rfl, -⟩ := hlies.of_mem_topLines (mem_strays_iff.mp he).2
    exact Diagnostic.placed_of_ne_zero (Nat.succ_ne_zero c) _ _ _ _
  · obtain ⟨o, ho, rfl⟩ := List.mem_map.mp hd
    obtain ⟨n, hn, rfl, -⟩ := mem_unclosed_iff.mp ho
    exact Diagnostic.placed_of_ne_zero (hlies.lineno_ne_zero hn) _ _ _ _

namespace Rendering

theorem placed_nested (t : Text) {ctx : Context} (h : ctx.Placed) : (nested t ctx).2.Placed :=
  nested_preserves (h.report (Forest.placed_reports_ofText t))
    (fun _ hn _ h => Node.placed_announce h ((Forest.lies_ofText t).lineno_ne_zero hn))
    (fun _ _ _ _ _ h => Node.placed_close h _ _)

theorem placed_reports_findBlocks (c : Component) (t : Text) : ∀ d ∈ (findBlocks c t).2, d.Placed := by
  intro d hd
  obtain ⟨n, l, hmem, rfl⟩ := exists_of_mem_reports_findBlocks hd
  exact Diagnostic.placed_of_ne_zero (Piece.placed_of_mem_ofText hmem) _ _ _ _

theorem placed_passes (t : Text) {ctx : Context} (h : ctx.Placed) : (passes t ctx).2.Placed :=
  passes_preserves t (fun c u _ h => h.report (placed_reports_findBlocks c u))
    (fun _ _ b _ _ h => h.hand b none) h

end Rendering

theorem Transpiler.placed_render (p : Transpiler) (t : Text) {ctx : Context} (h : ctx.Placed) :
    (p.render t ctx).2.Placed := by
  unfold render
  split
  · exact Rendering.placed_nested t h
  · exact Rendering.placed_passes t h

/-! ## Sorted reports -/

namespace Diagnostic

variable {k : Nat}

theorem precedes_shift {d e : Diagnostic} (hd : d.Placed) (he : e.Placed) :
    (d.shift k).precedes (e.shift k) = d.precedes e := by
  unfold precedes shift
  cases hn : d.lineno with
  | none =>
    cases hm : e.lineno with
    | none => rfl
    | some m =>
      have hpos : 0 < m := he m hm
      simp only [Option.map_none, Option.map_some, Option.getD_none, Option.getD_some,
        decide_eq_decide]
      omega
  | some n =>
    have hpos : 0 < n := hd n hn
    cases hm : e.lineno with
    | none =>
      simp only [Option.map_none, Option.map_some, Option.getD_none, Option.getD_some,
        decide_eq_decide]
      omega
    | some m =>
      simp only [Option.map_some, Option.getD_some, decide_eq_decide]
      omega

theorem sort_shift {ds : List Diagnostic} (h : ∀ d ∈ ds, d.Placed) :
    sort (ds.map (shift k)) = (sort ds).map (shift k) :=
  (List.map_mergeSort fun d hd e he => (precedes_shift (h d hd) (h e he)).symm).symm

end Diagnostic

end BlockMarkup
