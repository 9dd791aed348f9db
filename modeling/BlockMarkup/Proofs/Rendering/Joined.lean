import BlockMarkup.Transpiler
import BlockMarkup.Proofs.Document.Joined
import BlockMarkup.Proofs.Rendering.Events
import BlockMarkup.Proofs.Rendering.Shift

/-!
# Joined texts rendered

Two texts, one below the other, are read apart when the upper one leaves no block open and the lower
one turns no closing marker of it into the end of an option section. Then they are also rendered
apart, unless accordions in the lower one are numbered from the upper one on
(`Transpiler.joined_texts`).
-/

namespace BlockMarkup

open Text Marker Layout

namespace Forest

variable {ready : Component → Bool} {pictograms : Text}

theorem unclosed_eq_nil {f : Forest} (h : ∀ d ∈ f.reports, d.problem ≠ .unterminatedBlock) :
    f.unclosed = [] := by
  rw [List.eq_nil_iff_forall_not_mem]
  intro o ho
  have hmem : ⟨trim o.line, .unterminatedBlock, some (o.lineno : Int), some o.keyword, none⟩ ∈
      f.reports := List.mem_append_right _ (List.mem_map.mpr ⟨o, ho, rfl⟩)
  exact h _ hmem rfl

/-! ## Rendered forests -/

theorem rendered_append (f g : Forest) (k : Nat) :
    (f.append g).rendered ready pictograms k =
      f.rendered ready pictograms k ++ g.rendered ready pictograms (k + f.accordions) := by
  induction f generalizing k with
  | nil => rfl
  | line n t f ih =>
    rw [append, rendered, ih, rendered, accordions]
    rfl
  | block o i c f _ ih =>
    rw [append, rendered, ih, rendered, accordions, List.cons_append, Nat.add_assoc, Nat.add_assoc,
      Nat.add_assoc]

theorem rendered_shift {f : Forest} (h : ∀ n ∈ f.preorder, n.opening.lineno ≠ 0) (m k : Nat) :
    (f.shift m).rendered (fun _ => true) pictograms k =
      f.rendered (fun _ => true) pictograms k := by
  have hshift := Rendering.recursive_shift (k := m) h ⟨pictograms, k, [], none⟩
  rw [Rendering.recursive_eq, Rendering.recursive_eq] at hshift
  exact congrArg Prod.fst hshift

/-- Where no block draws a number, it does not matter how many are drawn before. -/
theorem rendered_of_not_draws {f : Forest} (h : ∀ n ∈ f.preorder, n.draws = false) (j k : Nat) :
    f.rendered ready pictograms j = f.rendered ready pictograms k := by
  induction f generalizing j k with
  | nil => rfl
  | line n t f ih => rw [rendered, ih h j k, rendered]
  | block o i c f ihi ihf =>
    obtain ⟨hself, hrest⟩ := List.forall_mem_cons.mp h
    obtain ⟨hi, hf⟩ := List.forall_mem_append.mp hrest
    have hnumber : Node.number? ⟨o, i, c⟩ j = Node.number? ⟨o, i, c⟩ k := by
      rw [Node.number?, Node.number?, hself]
      rfl
    have hhtml : ∀ inside, Node.html ready pictograms ⟨o, i, c⟩ j inside =
        Node.html ready pictograms ⟨o, i, c⟩ k inside := by
      intro inside
      unfold Node.html
      rw [hnumber]
    rw [rendered, hhtml, ihi hi _ (k + Node.drawn ⟨o, i, c⟩),
      ihf hf _ (k + Node.drawn ⟨o, i, c⟩ + i.accordions), rendered]

theorem rendered_ne_nil {f : Forest} (h : f ≠ nil) (k : Nat) : f.rendered ready pictograms k ≠ [] := by
  cases f with
  | nil => exact absurd rfl h
  | line n t f => exact List.cons_ne_nil _ _
  | block o i c f => exact List.cons_ne_nil _ _

end Forest

/-! ## Joined texts -/

namespace Transpiler

/-- The forest of joined texts holds those of both, with the reports of both, and nested rendering
joins what both are rendered to. -/
theorem joined_texts {a b : Text}
    (hclosed : ∀ d ∈ (Forest.ofText a).reports, d.problem ≠ .unterminatedBlock)
    (hseam : (∀ l ∈ lines b, isCloser l = false) ∨ ¬ Latent (lines a)) :
    let k := (lines a).length
    Forest.ofText (a ++ '\n' :: b) = (Forest.ofText a).append ((Forest.ofText b).shift k) ∧
      (Forest.ofText (a ++ '\n' :: b)).reports =
        (Forest.ofText a).reports ++ (Forest.ofText b).reports.map (Diagnostic.shift k) ∧
      ((∀ n ∈ (Forest.ofText b).preorder, n.isClosed → n.opening.component? ≠ some .accordion) →
        ∀ pictograms separator,
          let p : Transpiler := ⟨.nested, pictograms, separator⟩
          (p.transpile (a ++ '\n' :: b)).text =
            (p.transpile a).text ++ '\n' :: (p.transpile b).text) := by
  intro k
  have hunclosed := Forest.unclosed_eq_nil hclosed
  have hforest : Forest.ofText (a ++ '\n' :: b) =
      (Forest.ofText a).append ((Forest.ofText b).shift k) := by
    rw [Forest.ofText_append (hseam.imp_right fun h => ⟨hunclosed, h⟩),
      Forest.extend_eq_append hunclosed]
  refine ⟨hforest, ?_, ?_⟩
  · rw [hforest, Forest.reports_append hunclosed, Forest.reports_shift]
  · intro haccordions pictograms separator p
    have hdraws : ∀ n ∈ (Forest.ofText b).preorder, n.draws = false := by
      intro n hn
      rw [Node.draws, Bool.and_eq_false_iff, beq_eq_false_iff_ne, ← Bool.not_eq_true]
      exact not_or_of_imp (haccordions n hn)
    have hlower : ((Forest.ofText b).shift k).rendered (fun _ => true) pictograms
        (0 + (Forest.ofText a).accordions) =
          (Forest.ofText b).rendered (fun _ => true) pictograms 0 := by
      rw [Forest.rendered_shift fun n hn => (Forest.lies_ofText b).lineno_ne_zero hn]
      exact Forest.rendered_of_not_draws hdraws _ _
    rw [text_nested, text_nested, text_nested, hforest, Forest.rendered_append, hlower]
    exact unlines_append (Forest.rendered_ne_nil (Forest.ofText_ne_nil a) 0)
      (Forest.rendered_ne_nil (Forest.ofText_ne_nil b) 0)

theorem joined_texts_alert_callout :
    let a : Text := "/// alert | A\ntype: info\n///\none\n///"
    let b : Text := "/// callout | B\ncolor: red\n///\ntwo\n///\n///"
    let p : Transpiler := ⟨.nested, "/p", "---"⟩
    (∃ l ∈ lines b, isCloser l) ∧ ¬ Latent (lines a) ∧
      Forest.ofText (a ++ '\n' :: b) = (Forest.ofText a).append ((Forest.ofText b).shift 5) ∧
      (Forest.ofText (a ++ '\n' :: b)).reports =
        (Forest.ofText a).reports ++ (Forest.ofText b).reports.map (Diagnostic.shift 5) ∧
      (p.transpile (a ++ '\n' :: b)).text =
        (p.transpile a).text ++ '\n' :: (p.transpile b).text := by
  intro a b p
  have hlatent : ¬ Latent (lines a) := by decide +kernel
  obtain ⟨hforest, hreports, htext⟩ :=
    joined_texts (a := a) (b := b) (by decide +kernel) (.inr hlatent)
  exact ⟨by decide +kernel, hlatent, hforest, hreports, htext (by decide +kernel) _ _⟩

end Transpiler

end BlockMarkup
