import BlockMarkup.Transpiler
import BlockMarkup.Proofs.Rendering.Stage

/-!
# The strategies agree

On a text without reports, in which every block lies in blocks of later components only, the passes
take the text from stage to stage until all components are rendered, which is what rendering by block
structure makes of it at once (`Transpiler.strategies_agree`).
-/

namespace BlockMarkup

open Text Marker

namespace Component

theorem rank_lt (c : Component) : c.rank < all.length := by cases c <;> decide

theorem map_rank_all : all.map rank = List.range' 0 all.length := by decide

end Component

namespace Forest

variable {pictograms : Text} {f : Forest}

theorem stage_ne_nil (hf : f ≠ nil) (r k : Nat) : f.stage pictograms r k ≠ [] := by
  rw [stage, Ne, List.flatMap_eq_nil_iff]
  intro h
  cases f with
  | nil => exact hf rfl
  | line n t f => exact lines_ne_nil t (h t List.mem_cons_self)
  | block o i c f => exact lines_ne_nil _ (h _ List.mem_cons_self)

theorem lines_unlines_stage (hf : f ≠ nil) (r k : Nat) :
    lines (unlines (f.stage pictograms r k)) = f.stage pictograms r k := by
  rw [lines_unlines (stage_ne_nil hf r k)]
  refine flatMap_lines_eq_self fun l hl => ?_
  obtain ⟨p, -, hl⟩ := List.mem_flatMap.mp hl
  exact newline_notMem_of_mem_lines hl

/-- Before the first pass there is the text. -/
theorem Tidy.stage_zero {below : List Text} (h : Tidy below f) (k : Nat) :
    f.stage pictograms 0 k = f.source := by
  induction h generalizing k with
  | nil => rfl
  | line ht _ ih =>
    rw [stage, rendered, List.flatMap_cons, lines_eq_singleton ht.flat, source, ← ih k]
    rfl
  | block ho _ _ _ hflat _ _ ihi ihf =>
    rw [stage_block_of_le_rank ho hflat (Nat.zero_le _), ihi, ihf]
    simp [source]

/-- After the last pass all blocks are rendered. -/
theorem stage_length_all (f : Forest) (k : Nat) :
    f.stage pictograms Component.all.length k =
      (f.rendered (fun _ => true) pictograms k).flatMap lines := by
  have hready : f.Ready (Component.before Component.all.length) := fun _ _ c _ =>
    decide_eq_true c.rank_lt
  rw [stage, hready.rendered_eq]

end Forest

namespace Rendering

variable {pictograms : Text} {f : Forest}

/-- A pass takes the text to the next stage. -/
theorem pass_stage (h : f.Tidy []) (hf : f ≠ .nil) (hp : '\n' ∉ pictograms) (c : Component)
    {ctx : Context} (hctx : ctx.pictograms = pictograms)
    (hk : c = .accordion → ctx.accordions = 0) :
    let s := pass (unlines (f.stage pictograms c.rank 0), ctx) c
    s.1 = unlines (f.stage pictograms (c.rank + 1) 0) ∧ s.2.pictograms = pictograms ∧
      s.2.accordions = ctx.accordions + (if c = .accordion then f.accordions else 0) ∧
      s.2.reports.map Diagnostic.gist = ctx.reports.map Diagnostic.gist ++ f.said pictograms c 0 := by
  intro s
  obtain ⟨ps, n, hread, hcourse⟩ := h.passes hp c 0 1 [] id
  have hfound : Piece.ofText c (unlines (f.stage pictograms c.rank 0)) = ps := by
    rw [Piece.read_nil, List.append_nil, List.append_nil] at hread
    rw [Piece.ofText, Forest.lines_unlines_stage hf]
    exact hread
  have hreport : ctx.report [] = ctx := by simp [Context.report]
  have hs : s = (unlines (pieces ps ctx).1, (pieces ps ctx).2) := by
    simp only [s, pass, hfound, hcourse.unreported, hreport]
  rw [hs]
  refine ⟨?_, hcourse.context_eq ctx hctx⟩
  rw [← hcourse.lines_eq ctx hctx hk, unlines_flatMap_lines]

/-- The passes for the components from some place on. -/
theorem foldl_pass (h : f.Tidy []) (hf : f ≠ .nil) (hp : '\n' ∉ pictograms) (cs : List Component)
    {r : Nat} (hcs : cs.map Component.rank = List.range' r cs.length) (ctx : Context)
    (hctx : ctx.pictograms = pictograms) (hk : .accordion ∈ cs → ctx.accordions = 0) :
    let s := cs.foldl pass (unlines (f.stage pictograms r 0), ctx)
    s.1 = unlines (f.stage pictograms (r + cs.length) 0) ∧
      s.2.reports.map Diagnostic.gist =
        ctx.reports.map Diagnostic.gist ++ cs.flatMap fun c => f.said pictograms c 0 := by
  induction cs generalizing r ctx with
  | nil => simp
  | cons c cs ih =>
    rw [List.length_cons, List.range'_succ, List.map_cons] at hcs
    obtain ⟨rfl, hrest⟩ := List.cons.inj hcs
    obtain ⟨htext, hctx', hcount, hsaid⟩ := pass_stage h hf hp c hctx
      fun hc => hk (hc ▸ List.mem_cons_self)
    -- An accordion pass comes only once, so behind it the count is not read again.
    have hk' : .accordion ∈ cs →
        (pass (unlines (f.stage pictograms c.rank 0), ctx) c).2.accordions = 0 := by
      intro hmem
      have hrank := List.mem_map_of_mem (f := Component.rank) hmem
      rw [hrest, List.mem_range'_1] at hrank
      have hne : c ≠ .accordion := fun hc => by
        rw [hc] at hrank
        omega
      rw [hcount, if_neg hne, hk (List.mem_cons_of_mem _ hmem)]
    have hrun := ih hrest _ hctx' hk'
    rw [← htext] at hrun
    rw [List.foldl_cons, List.length_cons, List.flatMap_cons, ← List.append_assoc, ← hsaid,
      Nat.add_comm cs.length, ← Nat.add_assoc]
    exact hrun

end Rendering

/-! ## Reports of all components -/

theorem flatMap_filter_component?_perm (cs : List Component) (hcs : cs.Nodup) (es : List Event) :
    (cs.flatMap fun c => es.filter (·.component? = some c)).Perm
      (es.filter fun e => ∃ c ∈ cs, e.component? = some c) := by
  induction cs with
  | nil => simp
  | cons c cs ih =>
    obtain ⟨hc, hcs⟩ := List.nodup_cons.mp hcs
    have hthis : (es.filter fun e => ∃ d ∈ c :: cs, e.component? = some d).filter
        (·.component? = some c) = es.filter (·.component? = some c) := by
      rw [List.filter_filter]
      refine List.filter_congr fun e _ => ?_
      by_cases he : e.component? = some c <;> simp [he]
    have hothers : (es.filter fun e => ∃ d ∈ c :: cs, e.component? = some d).filter
        (fun e => !decide (e.component? = some c)) =
          es.filter fun e => ∃ d ∈ cs, e.component? = some d := by
      rw [List.filter_filter]
      refine List.filter_congr fun e _ => ?_
      by_cases he : e.component? = some c
      · simp [he, hc]
      · simp [he]
    have hsplit := List.filter_append_perm (fun e : Event => decide (e.component? = some c))
      (es.filter fun e => ∃ d ∈ c :: cs, e.component? = some d)
    rw [hthis, hothers] at hsplit
    rw [List.flatMap_cons]
    exact ((ih hcs).append_left _).trans hsplit

theorem Forest.Tidy.exists_component? {below : List Text} {f : Forest} {pictograms : Text}
    (h : f.Tidy below) (k : Nat) : ∀ e ∈ f.events pictograms k, ∃ c, e.component? = some c := by
  induction h generalizing k with
  | nil => simp [events]
  | line _ _ ih => exact ih k
  | @block below o i f cl c ho _ _ _ _ _ _ ihi ihf =>
    have hnone : Node.announcement ⟨o, i, some cl⟩ = [] := by
      simp [Node.announcement, ho.component]
    intro e he
    simp only [events, hnone, Node.handing_eq (n := ⟨o, i, some cl⟩) rfl ho.component,
      List.nil_append, List.mem_append, List.mem_singleton] at he
    rcases he with (he | rfl) | he
    · exact ihi _ e he
    · exact ⟨c, rfl⟩
    · exact ihf _ e he

/-- What is said component by component is what is said block by block, in another order. -/
theorem Forest.Tidy.said_perm {below : List Text} {f : Forest} {pictograms : Text}
    (h : f.Tidy below) (k : Nat) :
    (Component.all.flatMap fun c => f.said pictograms c k).Perm
      (((f.events pictograms k).flatMap Event.reports).map Diagnostic.gist) := by
  have hperm := flatMap_filter_component?_perm Component.all (by decide) (f.events pictograms k)
  have hall : (f.events pictograms k).filter
      (fun e => ∃ c ∈ Component.all, e.component? = some c) = f.events pictograms k := by
    rw [List.filter_eq_self]
    intro e he
    obtain ⟨c, hc⟩ := h.exists_component? k e he
    exact decide_eq_true ⟨c, Component.mem_all c, hc⟩
  rw [hall] at hperm
  have hsaid : (Component.all.flatMap fun c => f.said pictograms c k) =
      ((Component.all.flatMap fun c =>
        (f.events pictograms k).filter (·.component? = some c)).flatMap Event.reports).map
          Diagnostic.gist := by
    simp only [said, List.flatMap_assoc, List.map_flatMap]
  rw [hsaid]
  exact (hperm.flatMap_right _).map _

namespace Transpiler

/-- On a text without reports, in which all components are known and in order and no line becomes a
marker when it is trimmed, both strategies give the same text, and reports that say the same. -/
theorem strategies_agree {pictograms separator t : Text} (hp : '\n' ∉ pictograms)
    (hreports : (Forest.ofText t).reports = [])
    (hknown : ∀ n ∈ (Forest.ofText t).preorder, n.opening.component?.isSome)
    (hordered : (Forest.ofText t).Ordered)
    (hstrip : ∀ l ∈ lines t, isMarker l = false → isMarker (trim l) = false) :
    let passes := (⟨.passes, pictograms, separator⟩ : Transpiler).transpile t
    let nested := (⟨.nested, pictograms, separator⟩ : Transpiler).transpile t
    passes.text = nested.text ∧
      (passes.reports.map Diagnostic.gist).Perm (nested.reports.map Diagnostic.gist) := by
  intro passes nested
  have htidy := Forest.tidy_ofText hreports hknown hordered hstrip
  have hsource := Forest.source_ofText t
  have hne : Forest.ofText t ≠ .nil := fun h => lines_ne_nil t (by rw [← hsource, h]; rfl)
  obtain ⟨htext, hsaid⟩ := Rendering.foldl_pass htidy hne hp Component.all Component.map_rank_all
    (.start pictograms) rfl fun _ => rfl
  rw [htidy.stage_zero, hsource, unlines_lines] at htext hsaid
  have hnested : nested = ⟨unlines ((Forest.ofText t).rendered (fun _ => true) pictograms 0),
      Diagnostic.sort (((Forest.ofText t).events pictograms 0).flatMap Event.reports)⟩ := by
    simp only [nested, transpile, render, Rendering.nested_eq, hreports, Context.start,
      Context.report, Context.record, List.nil_append]
  have hpasses : passes = ⟨(Rendering.passes t (.start pictograms)).1,
      Diagnostic.sort (Rendering.passes t (.start pictograms)).2.reports⟩ := by
    simp only [passes, transpile, render]
  have hsort (ds : List Diagnostic) :
      ((Diagnostic.sort ds).map Diagnostic.gist).Perm (ds.map Diagnostic.gist) :=
    (List.mergeSort_perm ds _).map _
  rw [hnested, hpasses]
  constructor
  · rw [Rendering.passes, htext, Nat.zero_add, Forest.stage_length_all, unlines_flatMap_lines]
  · refine ((hsort _).trans ?_).trans (hsort _).symm
    rw [Rendering.passes, hsaid]
    exact htidy.said_perm 0

/-- An accordion with a section and a callout in it, and a badge, in both strategies. -/
theorem strategies_agree_accordion :
    let t : Text :=
      "/// accordion | A\nopen: yes\n///\none\n/// callout | C\ncolor: red\n///\ntwo\n///\n///\n" ++
        "/// badge\nnew\n///"
    let passes := (⟨.passes, "/p", "---"⟩ : Transpiler).transpile t
    let nested := (⟨.nested, "/p", "---"⟩ : Transpiler).transpile t
    passes.text = nested.text ∧
      (passes.reports.map Diagnostic.gist).Perm (nested.reports.map Diagnostic.gist) :=
  strategies_agree (by decide) (by decide +kernel) (by decide +kernel) (by decide +kernel)
    (by decide +kernel)

end Transpiler

end BlockMarkup
