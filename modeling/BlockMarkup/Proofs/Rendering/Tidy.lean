import BlockMarkup.Proofs.Block
import BlockMarkup.Proofs.Rendering.Complete

/-!
# Tidy forests

A forest is tidy when nothing in it is left open, unknown or about to become a marker, and every
block lies in blocks of later components only (`Forest.Tidy`); such is the forest of a text without
reports (`tidy_ofText`). However many components of a tidy forest have been rendered, the rendered
parts hold inert lines alone (`Tidy.inert_rendered`), and closing markers stand only where blocks
are still to be rendered (`Tidy.exists_isCloser`).
-/

namespace BlockMarkup

open Text Marker Layout

/-! ## The order of the components -/

/-- The place of a component among all of them. -/
def Component.rank (c : Component) : Nat := Component.all.idxOf c

namespace Component

theorem rank_injective {c d : Component} (h : c.rank = d.rank) : c = d := by
  revert h
  cases c <;> cases d <;> decide

/-- The components before a place. -/
def before (r : Nat) (c : Component) : Bool := c.rank < r

end Component

/-- The component of a block, if it is known, has a place before `r`. -/
def Node.RankLt (r : Nat) (n : Node) : Prop := ∀ c ∈ n.opening.component?, c.rank < r

instance (r : Nat) (n : Node) : Decidable (n.RankLt r) :=
  inferInstanceAs (Decidable (∀ c ∈ n.opening.component?, c.rank < r))

/-- A tag starts no option line. -/
theorem isLine_lt (s : Text) : Setting.isLine ('<' :: s) = false := by
  have hdrop : dropFinalNewline ('<' :: s) = '<' :: dropFinalNewline s := by
    cases s <;> rfl
  have hblank : ('<' :: dropFinalNewline s).dropWhile isBlank = '<' :: dropFinalNewline s :=
    List.dropWhile_cons_of_neg (by decide)
  have hkey : isKeyChar '<' = false := by decide
  simp [Setting.isLine, Setting.ofLine?, hdrop, hblank, hkey]

namespace Forest

/-- Every block lies in blocks of later components only. -/
def Ordered (f : Forest) : Prop :=
  ∀ p ∈ f.preorder, ∀ n ∈ p.inner.nodes, ∀ c ∈ p.opening.component?, n.RankLt c.rank

instance (f : Forest) : Decidable f.Ordered :=
  inferInstanceAs (Decidable
    (∀ p ∈ f.preorder, ∀ n ∈ p.inner.nodes, ∀ c ∈ p.opening.component?, n.RankLt c.rank))

theorem Ordered.inner {o : Opening} {i f : Forest} {cl : Option Closing}
    (h : (block o i cl f).Ordered) : i.Ordered :=
  fun p hp => h p (List.mem_cons_of_mem _ (List.mem_append_left _ hp))

theorem Ordered.rest {o : Opening} {i f : Forest} {cl : Option Closing}
    (h : (block o i cl f).Ordered) : f.Ordered :=
  fun p hp => h p (List.mem_cons_of_mem _ (List.mem_append_right _ hp))

/-- In an ordered forest the outermost blocks have the latest components. -/
theorem Ordered.rankLt {f : Forest} {r : Nat} (h : f.Ordered) (hr : ∀ n ∈ f.nodes, n.RankLt r)
    (hknown : ∀ n ∈ f.preorder, n.opening.component?.isSome) : ∀ n ∈ f.preorder, n.RankLt r := by
  induction f generalizing r with
  | nil => simp [preorder]
  | line _ _ f ih => exact ih h hr hknown
  | block o i cl f ihi ihf =>
    obtain ⟨hself, hrest⟩ := List.forall_mem_cons.mp hr
    obtain ⟨hknowns, hknowni⟩ := List.forall_mem_cons.mp hknown
    obtain ⟨hki, hkf⟩ := List.forall_mem_append.mp hknowni
    obtain ⟨c, hc⟩ := Option.isSome_iff_exists.mp hknowns
    refine List.forall_mem_cons.mpr ⟨hself, List.forall_mem_append.mpr ⟨?_, ihf h.rest hrest hkf⟩⟩
    intro n hn d hd
    have hinner := ihi h.inner (fun m hm => h _ List.mem_cons_self m hm c hc) hki n hn d hd
    exact hinner.trans (hself c hc)

end Forest

/-! ## Tidy forests -/

/-- An opening of a known component as written, with or without a section. -/
structure Opening.Tidy (o : Opening) (c : Component) : Prop where
  component : o.component? = some c
  opener : opener? o.line = some ⟨o.keyword, o.title⟩
  flat : ∀ l ∈ o.head, '\n' ∉ l
  flat_title : '\n' ∉ o.title
  sectioned : ∀ marker, o.separator = some marker →
    ∃ below, OptionSection.Stands c o.optionLines marker below
  unsectioned : o.separator = none → o.optionLines = []

namespace Forest

/-- A forest over some lines below it, which decide about its option sections. -/
inductive Tidy : List Text → Forest → Prop
  | nil {below : List Text} : Tidy below nil
  | line {below : List Text} {n : Nat} {t : Text} {f : Forest} (ht : Inert t) (hf : Tidy below f) :
      Tidy below (line n t f)
  | block {below : List Text} {o : Opening} {i f : Forest} {cl : Closing} {c : Component}
      (ho : o.Tidy c) (hi : Tidy (cl.line :: (f.source ++ below)) i)
      (hrank : ∀ n ∈ i.preorder, n.RankLt c.rank)
      (hcl : isCloser cl.line) (hflat : '\n' ∉ cl.line)
      (hbare : o.separator = none →
        ¬ OptionSection.Stands c i.source cl.line (f.source ++ below))
      (hf : Tidy below f) : Tidy below (block o i (some cl) f)

variable {below : List Text} {f : Forest} {pictograms : Text}

/-! ## Rendered parts -/

/-- The components of all blocks are ready. -/
def Ready (ready : Component → Bool) (f : Forest) : Prop :=
  ∀ n ∈ f.preorder, ∀ c, n.opening.component? = some c → ready c

theorem Ready.block {ready : Component → Bool} {o : Opening} {i : Forest} {cl : Option Closing}
    {c : Component} (h : (block o i cl f).Ready ready) (hc : o.component? = some c) :
    ready c ∧ i.Ready ready ∧ f.Ready ready := by
  obtain ⟨hself, hrest⟩ := List.forall_mem_cons.mp h
  obtain ⟨hi, hf⟩ := List.forall_mem_append.mp hrest
  exact ⟨hself c hc, hi, hf⟩

theorem ready_true (f : Forest) : f.Ready fun _ => true := fun _ _ _ _ => rfl

theorem ready_before {r : Nat} (h : ∀ n ∈ f.preorder, n.RankLt r) : f.Ready (Component.before r) :=
  fun n hn c hc => decide_eq_true (h n hn c hc)

/-- Where all blocks are rendered, it does not matter which other components are. -/
theorem Ready.rendered_eq {ready : Component → Bool} (h : f.Ready ready) (k : Nat) :
    f.rendered ready pictograms k = f.rendered (fun _ => true) pictograms k := by
  induction f generalizing k with
  | nil => rfl
  | line _ _ f ih => simp only [rendered, ih h]
  | block o i cl f ihi ihf =>
    have hi : i.Ready ready := fun n hn =>
      h n (List.mem_cons_of_mem _ (List.mem_append_left _ hn))
    have hf : f.Ready ready := fun n hn =>
      h n (List.mem_cons_of_mem _ (List.mem_append_right _ hn))
    simp only [rendered, ihi hi, ihf hf]
    congr 1
    unfold Node.html
    split
    · next closing c hcl hc => rw [if_pos (h _ List.mem_cons_self c hc), if_pos rfl]
    · rfl

theorem Tidy.complete (h : Tidy below f) : f.Complete := by
  induction h with
  | nil => exact .nil
  | line ht _ ih => exact .line ht ih
  | block ho _ _ _ _ _ _ ihi ihf => exact .block ho.component ho.flat_title ihi ihf

theorem Tidy.inert_rendered {ready : Component → Bool} (h : Tidy below f) (hp : '\n' ∉ pictograms)
    (hready : f.Ready ready) (k : Nat) :
    ∀ l ∈ (f.rendered ready pictograms k).flatMap lines, Inert l := by
  rw [hready.rendered_eq]
  exact h.complete.inert_rendered hp k

/-- Only blocks have closing markers. -/
theorem Tidy.exists_isCloser {ready : Component → Bool} (h : Tidy below f) {k : Nat}
    (hex : ∃ l ∈ (f.rendered ready pictograms k).flatMap lines, isCloser l) :
    ∃ l ∈ f.source, isCloser l := by
  induction h generalizing k with
  | nil => simp [rendered] at hex
  | line ht _ ih =>
    rw [rendered, List.flatMap_cons, lines_eq_singleton ht.flat] at hex
    obtain ⟨l, hl, hclose⟩ := hex
    rcases List.mem_cons.mp hl with rfl | hl
    · rw [ht.isCloser_eq_false] at hclose
      cases hclose
    · obtain ⟨m, hm, hclose⟩ := ih ⟨l, hl, hclose⟩
      exact ⟨m, List.mem_cons_of_mem _ hm, hclose⟩
  | @block below o i f cl c ho hi hrank hcl hflat hbare hf ihi ihf =>
    exact ⟨cl.line, by simp [source], hcl⟩

/-- Rendered parts start with a tag, so a run of option lines holds none of them. -/
theorem Tidy.eq_source {ready : Component → Bool} (h : Tidy below f) (hready : f.Ready ready) {k : Nat}
    (hlines : ∀ l ∈ (f.rendered ready pictograms k).flatMap lines, Setting.isLine l) :
    (f.rendered ready pictograms k).flatMap lines = f.source := by
  induction h generalizing k with
  | nil => rfl
  | line ht _ ih =>
    rw [rendered, List.flatMap_cons, lines_eq_singleton ht.flat] at hlines ⊢
    rw [ih hready (List.forall_mem_cons.mp hlines).2]
    rfl
  | @block below o i f cl c ho hi hrank hcl hflat hbare hf ihi ihf =>
    obtain ⟨hc, -, -⟩ := hready.block ho.component
    simp only [rendered, Node.html, ho.component, hc, if_true, List.flatMap_cons] at hlines
    obtain ⟨s, hs⟩ := Block.exists_html_eq_lt (Node.block ⟨o, i, some cl⟩ c cl
      (i.rendered ready pictograms (k + Node.drawn ⟨o, i, some cl⟩))) pictograms
      ((Node.number? ⟨o, i, some cl⟩ k).getD 0)
    obtain ⟨q, qs, hq⟩ := List.exists_cons_of_ne_nil (lines_ne_nil s)
    rw [hs, lines_cons (by decide) hq] at hlines
    have := hlines _ (List.mem_append_left _ List.mem_cons_self)
    rw [isLine_lt] at this
    cases this

/-! ## The forest of a text without reports -/

variable {ls : List Text} {s : Surrounding} {a b : Nat}

theorem Lies.drop_eq (h : Lies ls s a f b) : ls.drop a = f.source ++ ls.drop b := by
  induction h with
  | nil => rfl
  | line ht _ _ _ ih => rw [Token.drop_eq_cons ht, ih, source, List.cons_append]
  | closed ho _ hc _ ihi ihf =>
    rw [ho.drop_eq, ihi, Token.drop_eq_cons hc.line, ihf]
    simp [source]
  | unclosed _ ho _ ihi =>
    rw [ho.drop_eq, ihi]
    simp [source]

theorem Opening.LiesAt.tidy {o : Opening} {c : Component} (h : o.LiesAt ls a)
    (hc : o.component? = some c) (hls : ∀ l ∈ ls, '\n' ∉ l) : o.Tidy c := by
  have ho := h.lines_eq.1
  refine ⟨hc, ho, fun m hm => hls m ?_, newline_notMem_header ho, fun marker hmarker => ?_,
    fun hnone => (h.unsectioned hnone).1⟩
  · have : m ∈ ls.drop a := h.drop_eq ▸ List.mem_append_left _ hm
    exact List.mem_of_mem_drop this
  · obtain ⟨d, hd, hstands⟩ := h.sectioned marker hmarker
    obtain rfl : c = d := Option.some.inj (hc.symm.trans hd)
    exact ⟨_, hstands⟩

theorem Lies.tidy (h : Lies ls s a f b) (hls : ∀ l ∈ ls, '\n' ∉ l) (hcomplete : f.Complete)
    (hordered : f.Ordered) : f.Tidy (ls.drop b) := by
  induction h with
  | nil => exact .nil
  | line _ _ _ _ ih =>
    cases hcomplete with
    | line ht hf => exact .line ht (ih hf hordered)
  | @closed s a b e o i f cl ho hi hc hf ihi ihf =>
    cases hcomplete with
    | @block _ _ _ _ c hcomp _ hcompletei hcompletef =>
    have hbelow : ls.drop e = cl.line :: (f.source ++ ls.drop b) := by
      rw [Token.drop_eq_cons hc.line, hf.drop_eq]
    have hinner := ihi hcompletei hordered.inner
    rw [hbelow] at hinner
    refine .block (Opening.LiesAt.tidy ho hcomp hls) hinner ?_ hc.closes
      (hls _ (List.mem_of_getElem? hc.line)) ?_ (ihf hcompletef hordered.rest)
    · exact hordered.inner.rankLt
        (fun n hn => hordered _ List.mem_cons_self n hn c hcomp) hcompletei.known
    · intro hnone
      obtain ⟨hoptions, hlength⟩ := ho.unsectioned hnone
      have hstart : bodyStart ls a = a + 1 := by
        rw [bodyStart_eq ho.opener, hlength]
      rw [sectionLength, Token.sectionLength] at hlength
      simp only [show Component.ofKeyword? o.keyword = some c from hcomp] at hlength
      refine OptionSection.length_reach_eq_zero_iff.mp hlength _ _ _ ?_
      rw [← hstart, hi.drop_eq, hbelow]
  | unclosed => cases hcomplete

theorem tidy_ofText {t : Text} (hreports : (ofText t).reports = [])
    (hknown : ∀ n ∈ (ofText t).preorder, n.opening.component?.isSome) (hordered : (ofText t).Ordered)
    (hstrip : ∀ l ∈ lines t, isMarker l = false → isMarker (trim l) = false) :
    (ofText t).Tidy [] := by
  have h := (lies_ofText t).tidy (fun l hl => newline_notMem_of_mem_lines hl)
    (complete_ofText hreports hknown hstrip) hordered
  rwa [List.drop_length] at h

end Forest

end BlockMarkup
