import BlockMarkup.Proofs.Rendering.Preserved
import BlockMarkup.Proofs.Rendering.Substitution

/-!
# The run of the passes

Each pass reads what the passes before it have made of the text (`Rendering.readings`). All that is reported
in the end is what the passes report on the texts they read, and all that is handed over are the blocks
they find there (`Transpiler.mem_reports_passes`, `Transpiler.mem_handovers_passes`). The lines that a pass
makes are those of its pieces, each block with its HTML in its place (`Rendering.exists_lines_pass`).
-/

namespace BlockMarkup

open Text

namespace Rendering

/-! ## One pass -/

/-- The report on the opener that a pass stops at, and those of the blocks that it finds. -/
def reported (c : Component) (t : Text) : List Diagnostic :=
  (findBlocks c t).2 ++ (findBlocks c t).1.flatMap Block.reports

/-- The blocks that a pass finds, as they are handed over. -/
def handed (c : Component) (t : Text) : List Handover := (findBlocks c t).1.map fun b => ⟨b, none⟩

theorem pieces_reports (ps : List Piece) (ctx : Context) :
    (pieces ps ctx).2.reports = ctx.reports ++ (ps.filterMap Piece.block?).flatMap Block.reports := by
  induction ps generalizing ctx with
  | nil => exact (List.append_nil _).symm
  | cons p ps ih =>
    cases p with
    | line | openEnd => exact ih ctx
    | block b =>
      have hself := ih (ctx.hand b none).2
      rw [Context.hand_reports, List.append_assoc] at hself
      exact hself

theorem pieces_handovers (ps : List Piece) (ctx : Context) :
    (pieces ps ctx).2.handovers =
      ctx.handovers.map (· ++ (ps.filterMap Piece.block?).map fun b => ⟨b, none⟩) := by
  induction ps generalizing ctx with
  | nil => cases h : ctx.handovers <;> simp [pieces, h]
  | cons p ps ih =>
    cases p with
    | line | openEnd => exact ih ctx
    | block b =>
      have hself := ih (ctx.hand b none).2
      rw [Context.hand_handovers, Option.map_map] at hself
      refine hself.trans ?_
      cases ctx.handovers with
      | none => rfl
      | some hs => exact congrArg some (List.append_assoc _ _ _)

theorem pass_reports (s : Text × Context) (c : Component) :
    (pass s c).2.reports = s.2.reports ++ reported c s.1 := by
  rw [pass_eq, pieces_reports]
  exact List.append_assoc _ _ _

theorem pass_handovers (s : Text × Context) (c : Component) :
    (pass s c).2.handovers = s.2.handovers.map (· ++ handed c s.1) := pieces_handovers _ _

/-- The lines that a pass makes are those of its pieces, with the HTML of each block in its place. -/
theorem exists_lines_pass (s : Text × Context) (c : Component) :
    ∃ number : Block → Nat, lines (pass s c).1 =
      ((Piece.ofText c s.1).map
        (substitutePiece fun b => b.html s.2.pictograms (number b))).flatMap lines := by
  obtain ⟨number, hnumber⟩ := exists_pass_text c s.1 s.2
  refine ⟨number, ?_⟩
  rw [show pass s c = pass (s.1, s.2) c from rfl, hnumber]
  exact lines_unlines (by simpa using Piece.ofText_ne_nil c s.1)

/-! ## All passes -/

/-- The passes for the components, each with the text that it reads. -/
def readingsFrom : List Component → Text × Context → List (Component × Text)
  | [], _ => []
  | c :: cs, s => (c, s.1) :: readingsFrom cs (pass s c)

/-- The passes over a text, each with the text that it reads. -/
def readings (pictograms t : Text) : List (Component × Text) :=
  readingsFrom Component.all (t, .keeping pictograms)

variable {cs : List Component} {s : Text × Context}

theorem mem_of_mem_readingsFrom {e : Component × Text} (h : e ∈ readingsFrom cs s) : e.1 ∈ cs := by
  induction cs generalizing s with
  | nil => cases h
  | cons c cs ih =>
    rcases List.mem_cons.mp h with rfl | h
    · exact List.mem_cons_self
    · exact List.mem_cons_of_mem _ (ih h)

theorem foldl_pass_reports (cs : List Component) (s : Text × Context) :
    (cs.foldl pass s).2.reports =
      s.2.reports ++ (readingsFrom cs s).flatMap fun e => reported e.1 e.2 := by
  induction cs generalizing s with
  | nil => exact (List.append_nil _).symm
  | cons c cs ih =>
    rw [List.foldl_cons, ih, pass_reports, List.append_assoc]
    rfl

theorem foldl_pass_handovers (cs : List Component) (s : Text × Context) :
    (cs.foldl pass s).2.handovers =
      s.2.handovers.map (· ++ (readingsFrom cs s).flatMap fun e => handed e.1 e.2) := by
  induction cs generalizing s with
  | nil => cases h : s.2.handovers <;> simp [readingsFrom, h]
  | cons c cs ih =>
    rw [List.foldl_cons, ih, pass_handovers, Option.map_map]
    cases s.2.handovers with
    | none => rfl
    | some hs => exact congrArg some (List.append_assoc _ _ _)

theorem reports_passes (pictograms t : Text) :
    (passes t (.keeping pictograms)).2.reports =
      (readings pictograms t).flatMap fun e => reported e.1 e.2 := by
  rw [passes, foldl_pass_reports]
  exact List.nil_append _

theorem handovers_passes (pictograms t : Text) :
    (passes t (.keeping pictograms)).2.handovers =
      some ((readings pictograms t).flatMap fun e => handed e.1 e.2) := by
  rw [passes, foldl_pass_handovers]
  exact congrArg some (List.nil_append _)

end Rendering

/-! ## Transpiling in passes -/

namespace Transpiler

open Rendering

variable {pictograms separator t : Text}

theorem text_passes_keeping :
    (transpile ⟨.passes, pictograms, separator⟩ t).text =
      (Component.all.foldl pass (t, .keeping pictograms)).1 := by
  rw [transpile_eq_keeping, render, passes]

theorem mem_reports_passes {d : Diagnostic} :
    d ∈ (transpile ⟨.passes, pictograms, separator⟩ t).reports ↔
      ∃ e ∈ readings pictograms t, d ∈ reported e.1 e.2 := by
  rw [transpile_eq_keeping, render, Diagnostic.sort, (List.mergeSort_perm _ _).mem_iff, reports_passes]
  exact List.mem_flatMap

theorem handovers_eq_flatMap :
    handovers ⟨.passes, pictograms, separator⟩ t =
      (readings pictograms t).flatMap fun e => handed e.1 e.2 := by
  rw [handovers, render, handovers_passes, Option.getD_some]

theorem mem_handovers_passes {h : Handover} :
    h ∈ handovers ⟨.passes, pictograms, separator⟩ t ↔
      ∃ e ∈ readings pictograms t, ∃ b ∈ (findBlocks e.1 e.2).1, h = ⟨b, none⟩ := by
  rw [handovers_eq_flatMap, List.mem_flatMap]
  simp only [handed, List.mem_map, eq_comm (a := h)]

end Transpiler

end BlockMarkup
