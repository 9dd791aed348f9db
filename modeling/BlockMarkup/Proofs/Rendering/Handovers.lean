import BlockMarkup.Proofs.Rendering.Matchers
import BlockMarkup.Proofs.Rendering.Splice

/-!
# Handed blocks describe the text

What nested rendering hands to a component is read off the text: the lines of the block as they were
written, its title and its options. Only the body shows that the blocks inside have been rendered
before. It is the lines between the head and the closing marker with patches in the places of the
outermost of them (`Transpiler.handovers_describe`).

1. An option section reaches from its opener to its separator (`Opening.LiesAt.optionLines_eq`), and
   a closed block has its source in the lines from its opener to its closing marker
   (`Node.Lies.source_eq`).
2. Each handover is that of a block of the forest around its rendered content, and the blocks in the
   content have been handed over as well (`Forest.exists_of_mem_handed`).
3. The rendered content is a splice of the lines it lies in (`Forest.Lies.flatMap_lines_rendered`),
   so the body is one too (`Forest.Lies.exists_patches`).
-/

namespace BlockMarkup

open Text Layout Patch

/-- The block says what stands in the lines from `a`, where it is opened, to `e`, where it is
closed. -/
structure Block.Describes (b : Block) (ls : List Text) (a e : Nat) : Prop where
  opener : openerAt? ls a = some ⟨b.component.keyword, b.title⟩
  lineno : b.lineno = a + 1
  endLineno : b.endLineno = e + 1
  raw : b.raw = unlines (stretch ls a (e + 1))
  optionLines : b.optionLines = (separator? ls a).elim [] (stretch ls (a + 1))
  optionsLineno : b.optionsLineno = (separator? ls a).elim 0 fun _ => b.lineno + 1

variable {ls : List Text} {a : Nat}

/-! ## Blocks in their place -/

namespace Opening.LiesAt

variable {o : Opening}

theorem separator?_eq (h : o.LiesAt ls a) :
    separator? ls a = o.separator.map fun _ => a + 1 + o.optionLines.length := by
  have hhead := h.length_head
  have hstart := bodyStart_eq h.opener
  rw [Layout.separator?_eq h.opener]
  cases hsep : o.separator with
  | none =>
    rw [if_pos (h.unsectioned hsep).2]
    rfl
  | some marker =>
    have hlength : o.head.length = o.optionLines.length + 2 := by simp [Opening.head, hsep]
    rw [if_neg (by omega), Option.map_some]
    congr 1
    omega

theorem optionLines_eq (h : o.LiesAt ls a) :
    o.optionLines = (separator? ls a).elim [] (stretch ls (a + 1)) := by
  rw [h.separator?_eq]
  cases hsep : o.separator with
  | none => exact (h.unsectioned hsep).1
  | some marker =>
    have hbelow := h.lines_eq.2
    rw [List.append_assoc] at hbelow
    exact (stretch_eq_of_drop hbelow).symm

theorem optionsLineno_eq_elim (h : o.LiesAt ls a) :
    o.optionsLineno = (separator? ls a).elim 0 fun _ => o.lineno + 1 := by
  rw [h.separator?_eq, Opening.optionsLineno]
  cases o.separator <;> rfl

end Opening.LiesAt

/-- A block has its source in the lines that it takes. -/
theorem Node.Lies.source_eq {n : Node} {e : Nat} (h : n.Lies ls a e) :
    n.source = unlines (stretch ls a e) := by
  cases h with
  | @closed e o i cl ho hi hc =>
    have hdrop : ls.drop a = o.head ++ i.source ++ [cl.line] ++ ls.drop (e + 1) := by
      rw [ho.drop_eq, hi.drop_eq, Token.drop_eq_cons hc.line]
      simp
    have hend : a + (o.head ++ i.source ++ [cl.line]).length = e + 1 := by
      have hhead := ho.length_head
      have hbody := hi.length_source
      rw [List.length_append, List.length_append, List.length_singleton]
      omega
    rw [← hend, stretch_eq_of_drop hdrop]
    rfl
  | @unclosed o i ho hi =>
    have hdrop : ls.drop a = o.head ++ i.source ++ ls.drop ls.length := by
      rw [ho.drop_eq, hi.drop_eq, List.append_assoc]
    have hend : a + (o.head ++ i.source).length = ls.length := by
      have hhead := ho.length_head
      have hbody := hi.length_source
      rw [List.length_append]
      omega
    rw [← hend, stretch_eq_of_drop hdrop, Node.source, Option.map_none, Option.toList_none,
      List.append_nil]

/-- Around any content, a closed block says what stands in its lines. -/
theorem Node.describes_block {o : Opening} {i : Forest} {cl : Closing} {c : Component} {e : Nat}
    (ho : o.LiesAt ls a) (hi : Forest.Lies ls .closed (bodyStart ls a) i e) (hcl : cl.LiesAt ls e)
    (hc : o.component? = some c) (inside : List Text) :
    (Node.block ⟨o, i, some cl⟩ c cl inside).Describes ls a e where
  opener := Opening.component?_eq_some_iff.mp hc ▸ ho.opener
  lineno := ho.lineno
  endLineno := hcl.lineno
  raw := (Node.Lies.closed ho hi hcl).source_eq
  optionLines := ho.optionLines_eq
  optionsLineno := ho.optionsLineno_eq_elim

/-! ## What was handed over -/

namespace Forest

variable {s : Surrounding} {b : Nat} {f : Forest} {pictograms : Text}

/-- Each handover is that of a closed block of the forest, and what its content was rendered to
comes from handovers before it. -/
theorem exists_of_mem_handed {k : Nat} {h : Handover} (hmem : h ∈ f.handed pictograms k) :
    ∃ n ∈ f.preorder, ∃ cl c j, n.closing = some cl ∧ n.opening.component? = some c ∧
      h.block = n.block c cl (n.inner.rendered (fun _ => true) pictograms j) ∧
      n.inner.handed pictograms j ⊆ f.handed pictograms k := by
  induction f generalizing k with
  | nil => cases hmem
  | line _ _ f ih => exact ih hmem
  | block o i c f ihi ihf =>
    rw [handed_block, List.mem_append, List.mem_append] at hmem
    rw [handed_block]
    rcases hmem with (hinner | hself) | hrest
    · obtain ⟨n, hn, cl, d, j, hcl, hd, hblock, hsub⟩ := ihi hinner
      refine ⟨n, List.mem_cons_of_mem _ (List.mem_append_left _ hn), cl, d, j, hcl, hd, hblock, ?_⟩
      exact fun e he => List.mem_append_left _ (List.mem_append_left _ (hsub he))
    · obtain ⟨e, he, hhanded⟩ := List.mem_filterMap.mp hself
      obtain ⟨cl, d, hcl, hd, rfl⟩ := Node.of_mem_handing he
      obtain rfl := Option.some.inj hhanded
      refine ⟨⟨o, i, c⟩, List.mem_cons_self, cl, d, _, hcl, hd, rfl, ?_⟩
      exact fun e he => List.mem_append_left _ (List.mem_append_left _ he)
    · obtain ⟨n, hn, cl, d, j, hcl, hd, hblock, hsub⟩ := ihf hrest
      refine ⟨n, List.mem_cons_of_mem _ (List.mem_append_right _ hn), cl, d, j, hcl, hd, hblock, ?_⟩
      exact fun e he => List.mem_append_right _ (hsub he)

/-- What the lines of a forest are rendered to shows its outermost blocks as they were handed over,
and all else as written. -/
theorem Lies.exists_patches (h : Lies ls s a f b) {hs : List Handover} {k : Nat}
    (hsub : f.handed pictograms k ⊆ hs) :
    ∃ patches, List.Forall₂ (fun n q => Patch.Shows pictograms hs n q) f.outermost patches ∧
      Fit a b patches ∧
      unlines (f.rendered (fun _ => true) pictograms k) = unlines (splice ls a b patches) := by
  refine ⟨f.patches pictograms k, ?_, h.fit_patches pictograms k,
    unlines_congr (h.flatMap_lines_rendered k)⟩
  exact (forall₂_outermost_patches h.nodup_preorder k).imp fun _ _ hshows => hshows.mono hsub

end Forest

namespace Transpiler

/-- Each block that nested rendering hands to its component is a closed block of the text. It says
what was written there; its body is the lines between its head and its closing marker with the
outermost blocks replaced, each by what it became when it was handed over itself. -/
theorem handovers_describe (pictograms separator t : Text) :
    let p : Transpiler := ⟨.nested, pictograms, separator⟩
    ∀ h ∈ p.handovers t, ∃ n ∈ (Forest.ofText t).preorder, ∃ a e patches,
      n.opening.lineno = h.block.lineno ∧ n.closing.map (·.lineno) = some h.block.endLineno ∧
        h.block.raw = n.source ∧ h.block.Describes (lines t) a e ∧
        List.Forall₂ (fun m q => Patch.Shows pictograms (p.handovers t) m q) n.inner.outermost
          patches ∧
        Fit (bodyStart (lines t) a) e patches ∧
        h.block.body = unlines (splice (lines t) (bodyStart (lines t) a) e patches) := by
  intro p h hmem
  have hhanded := handovers_nested pictograms separator t
  rw [hhanded] at hmem ⊢
  obtain ⟨⟨o, i, _⟩, hn, cl, c, j, rfl, hc, hblock, hsub⟩ := Forest.exists_of_mem_handed hmem
  obtain ⟨a, _, -, -, hlies⟩ := (Forest.lies_ofText t).exists_of_mem_preorder hn
  cases hlies with
  | @closed e _ _ _ ho hi hcl =>
    obtain ⟨patches, hshows, hfit, hbody⟩ := hi.exists_patches hsub
    rw [hblock]
    exact ⟨_, hn, a, e, patches, rfl, rfl, rfl, Node.describes_block ho hi hcl hc _, hshows, hfit,
      hbody⟩

theorem handovers_describe_card :
    let t : Text := "/// card | T\ntarget: /x\n///\n/// badge\nnew\n///\nmore\n///"
    let p : Transpiler := ⟨.nested, "/p", "---"⟩
    ∃ h ∈ p.handovers t, h.block.component = .card ∧ h.block.raw = t ∧
      ∃ n ∈ (Forest.ofText t).preorder, h.block.raw = n.source := by
  intro t p
  obtain ⟨h, hhanded, hcard, hraw⟩ :
      ∃ h ∈ (Forest.ofText t).handed "/p" 0, h.block.component = .card ∧ h.block.raw = t := by
    decide +kernel
  have hmem : h ∈ p.handovers t := handovers_nested "/p" "---" t ▸ hhanded
  obtain ⟨n, hn, a, e, patches, -, -, hsource, -⟩ := handovers_describe "/p" "---" t h hmem
  exact ⟨h, hmem, hcard, hraw, n, hn, hsource⟩

end Transpiler

end BlockMarkup
