import BlockMarkup.Proofs.Html.Tags
import BlockMarkup.Proofs.Rendering.Complete

/-!
# Balance of what is rendered

A text without angle brackets and quotes is rendered to balanced HTML, whatever blocks stay open or
unknown in it (`Transpiler.balanced_nested`). For every piece of its forest is rendered to markup over
the plain lexicon (`Forest.built_rendered`): lines are texts, and the frame of a block closes whatever
it opens. A badge shows a part of its body, so there the body must be text.
-/

namespace BlockMarkup

open Text Marker Html Lexicon

namespace Forest

variable {L : Lexicon} {f : Forest} {pictograms : Text}

theorem rendered_of_nodes {ready : Component → Bool} (h : f.nodes = []) (k : Nat) :
    f.rendered ready pictograms k = f.source := by
  induction f with
  | nil => rfl
  | line n t f ih => rw [rendered, source, ih h]
  | block o i c f => cases h

/-- What a forest is written with. -/
structure Written (L : Lexicon) (f : Forest) : Prop where
  source : ∀ l ∈ f.source, L.Admits l
  openings : ∀ n ∈ f.preorder, n.opening.WellFormed
  badges : ∀ n ∈ f.preorder, n.opening.component? = some .badge → n.inner.nodes = []

theorem Written.block {o : Opening} {i : Forest} {c : Option Closing}
    (h : (Forest.block o i c f).Written L) : i.Written L ∧ f.Written L := by
  obtain ⟨hsource, hopenings, hbadges⟩ := h
  simp only [Forest.source, List.forall_mem_append] at hsource
  obtain ⟨-, hopenings⟩ := List.forall_mem_cons.mp hopenings
  obtain ⟨-, hbadges⟩ := List.forall_mem_cons.mp hbadges
  rw [List.forall_mem_append] at hopenings hbadges
  exact ⟨⟨hsource.1.1.2, hopenings.1, hbadges.1⟩, ⟨hsource.2, hopenings.2, hbadges.2⟩⟩

/-- The HTML of a block whose content is rendered, and the block as written around it. -/
theorem Written.built_html {o : Opening} {i f : Forest} {cl : Option Closing}
    (h : (Forest.block o i cl f).Written L) (hnewline : L.char '\n') (hp : L.Admits pictograms)
    (k j : Nat) (hinside : ∀ t ∈ i.rendered (fun _ => true) pictograms j, L.Built t)
    (hmarkup : ∀ c closing, o.component? = some c → cl = some closing → ∀ v,
      (Node.block ⟨o, i, cl⟩ c closing (i.rendered (fun _ => true) pictograms j)).options.get? "markup" =
        some (.text v) → L.name v) :
    L.Built (Node.html (fun _ => true) pictograms ⟨o, i, cl⟩ k
      (i.rendered (fun _ => true) pictograms j)) := by
  have hsource := h.source
  simp only [Forest.source, List.forall_mem_append] at hsource
  obtain ⟨⟨⟨hhead, hinner⟩, hcloser⟩, -⟩ := hsource
  unfold Node.html
  split
  · next closing c hcl hc =>
    rw [if_pos rfl]
    generalize hb : Node.block ⟨o, i, cl⟩ c closing (i.rendered (fun _ => true) pictograms j) = b
    have hbody : b.body = unlines (i.rendered (fun _ => true) pictograms j) := by rw [← hb]; rfl
    have htitle : L.Admits b.title := by
      have hopener := ((List.forall_mem_cons.mp h.openings).1).opener
      have hline : L.Admits o.line := hhead o.line List.mem_cons_self
      rw [← hb]
      exact hline.of_subset (header_subset hopener)
    have hoptions : ∀ l ∈ b.optionLines, L.Admits l := by
      rw [← hb]
      exact fun l hl => hhead l (List.mem_cons_of_mem _ (List.mem_append_left _ hl))
    have hbadge : b.component = .badge → L.Admits b.body := by
      rw [hbody, ← hb]
      rintro rfl
      rw [rendered_of_nodes ((List.forall_mem_cons.mp h.badges).1 hc)]
      exact admits_unlines hnewline hinner
    have hwritten : b.Written L pictograms b.options :=
      ⟨hp, htitle, Block.admits_options (Block.admits_settingLines htitle hoptions hbadge),
        hb ▸ hmarkup c closing hc hcl⟩
    obtain ⟨g, hg, hhtml⟩ := hwritten.exists_frame ((Node.number? ⟨o, i, cl⟩ k).getD 0)
    rw [Block.html, hhtml b.body]
    exact hg.built (Component.built_content hnewline (hbody ▸ built_unlines hnewline hinside) hbadge)
  · refine built_unlines hnewline ?_
    simp only [List.forall_mem_append]
    exact ⟨⟨fun l hl => .text (hhead l hl), hinside⟩, fun l hl => .text (hcloser l hl)⟩

theorem Written.built_rendered (h : f.Written L) (hnewline : L.char '\n') (hp : L.Admits pictograms)
    (k : Nat) (hmarkup : ∀ d ∈ f.handed pictograms k, ∀ v,
      d.block.options.get? "markup" = some (.text v) → L.name v) :
    ∀ t ∈ f.rendered (fun _ => true) pictograms k, L.Built t := by
  induction f generalizing k with
  | nil => simp [rendered]
  | line n t f ih =>
    obtain ⟨ht, hsource⟩ := List.forall_mem_cons.mp h.source
    exact List.forall_mem_cons.mpr ⟨.text ht, ih ⟨hsource, h.openings, h.badges⟩ k hmarkup⟩
  | block o i cl f ihi ihf =>
    obtain ⟨hi, hf⟩ := h.block
    rw [handed_block] at hmarkup
    simp only [List.forall_mem_append] at hmarkup
    obtain ⟨⟨hinner, hself⟩, hrest⟩ := hmarkup
    have hinside := ihi hi _ hinner
    refine List.forall_mem_cons.mpr ⟨h.built_html hnewline hp k _ hinside fun c closing hc hcl => ?_,
      ihf hf _ hrest⟩
    rw [Node.handing_eq hcl hc] at hself
    exact hself _ List.mem_cons_self

theorem written_ofText {t : Text} (ht : L.Admits t)
    (hbadges : ∀ n ∈ (ofText t).preorder, n.opening.component? = some .badge → n.inner.nodes = []) :
    (ofText t).Written L := by
  refine ⟨fun l hl => ?_, fun n hn => wellFormed_of_mem_preorder hn, hbadges⟩
  rw [source_ofText] at hl
  exact ht.of_subset fun _ => mem_of_mem_splitWhen hl

end Forest

namespace Transpiler

/-- A text and a place of pictograms without angle brackets and quotes, in which no badge holds a block
and every element that `markup` names has a name of letters and digits and is no image, are rendered
to balanced HTML. -/
theorem balanced_nested {pictograms separator t : Text} (ht : ∀ c ∈ ("<>\"" : Text), c ∉ t)
    (hp : ∀ c ∈ ("<>\"" : Text), c ∉ pictograms)
    (hbadges : ∀ n ∈ (Forest.ofText t).preorder, n.opening.component? = some .badge →
      n.inner.nodes = [])
    (hmarkup : ∀ d ∈ handovers ⟨.nested, pictograms, separator⟩ t, ∀ name,
      d.block.options.get? "markup" = some (.text name) → isElementName name ∧ name ≠ "img") :
    Balanced (transpile ⟨.nested, pictograms, separator⟩ t).text := by
  rw [handovers_nested] at hmarkup
  rw [text_nested]
  have hwritten := Forest.written_ofText (admits_plainLexicon.mpr ht) hbadges
  have hnewline : '\n' ∉ ("<>\"" : Text) := by decide
  exact balanced_of_built (built_unlines hnewline
    (hwritten.built_rendered hnewline (admits_plainLexicon.mpr hp) 0 hmarkup))

theorem balanced_nested_card :
    let t : Text :=
      "/// card | T\nmarkup: h2\nbadge: new\n///\n/// video\n/// badge\nnew\n///\n///\n///\n/// row"
    Balanced (transpile ⟨.nested, "/p/", "---"⟩ t).text := by
  intro t
  have hvalues : ∀ d ∈ handovers ⟨.nested, "/p/", "---"⟩ t,
      ∀ v ∈ d.block.options.get? "markup", v = .text "h2" := by
    rw [handovers_nested]
    decide +kernel
  refine balanced_nested (by simp [t]) (by simp) (by decide) fun d hd name hname => ?_
  obtain rfl := OptionValue.text.inj (hvalues d hd _ hname)
  decide

end Transpiler

end BlockMarkup
