import BlockMarkup.Proofs.Component
import BlockMarkup.Proofs.Rendering.Splice
import BlockMarkup.Proofs.Text.Occurrences

/-!
# Nothing that is nested gets lost

The HTML of a block stands in the rendered text as its component returned it, unless a block around it
hides its content. The places of the blocks follow the forest: blocks lie one behind the other, or one
inside the other just as their nodes do (`Transpiler.content_shown`).

1. A component that does not hide its body puts it, trimmed, between two texts
   (`Block.exists_html_eq_trim`). HTML starts and ends with a sign of a tag, so trimming does not cut
   into the HTML of a block in the body (`Laid.trim`).
2. Spots are collected from the inside out: those in the content move with it into the HTML around it
   (`Node.displays_html`), those of pieces follow each other (`Displays.unlines_cons`).
3. By induction on the forest, the rendered text has a spot for every block that is shown
   (`Forest.displays`).
-/

namespace BlockMarkup

open Text

/-! ## Spots -/

/-- Where the HTML of a block stands in a text. -/
structure Spot where
  node : Node
  start : Nat
  text : Text

namespace Spot

def stop (s : Spot) : Nat := s.start + s.text.length

/-- The spot when so many characters at the start of the text are taken away and others put there. -/
def move (taken put : Nat) (s : Spot) : Spot := { s with start := s.start - taken + put }

theorem map_node_move (taken put : Nat) (spots : List Spot) :
    (spots.map (move taken put)).map (·.node) = spots.map (·.node) := by
  rw [List.map_map]
  rfl

/-- The second spot is behind the first one, or inside it as its block is. -/
def Apart (p q : Spot) : Prop :=
  p.stop ≤ q.start ∨ q.node ∈ p.node.inner.preorder ∧ p.start ≤ q.start ∧ q.stop ≤ p.stop

/-- The text is what the block became when it was handed over. -/
def Shows (pictograms : Text) (hs : List Handover) (s : Spot) : Prop :=
  ∃ h ∈ hs, h.block.lineno = s.node.opening.lineno ∧
    s.node.opening.component? = some h.block.component ∧
    s.text = h.block.html pictograms (h.number.getD 0)

theorem Shows.mono {pictograms : Text} {hs gs : List Handover} {s : Spot}
    (h : s.Shows pictograms hs) (hsub : hs ⊆ gs) : s.Shows pictograms gs := by
  obtain ⟨e, he, hrest⟩ := h
  exact ⟨e, hsub he, hrest⟩

end Spot

/-- The spots of a text. -/
structure Laid (out : Text) (spots : List Spot) : Prop where
  occurs : ∀ s ∈ spots, OccursAt out s.start s.text
  firm : ∀ s ∈ spots, Firm s.text
  apart : spots.Pairwise Spot.Apart

namespace Laid

variable {out rest : Text} {spots behind : List Spot}

theorem nil (out : Text) : Laid out [] := ⟨by simp, by simp, .nil⟩

/-- Spots stay apart when they are moved, if none of them reaches into what is taken away. -/
theorem pairwise_move {taken put : Nat} (h : spots.Pairwise Spot.Apart)
    (htaken : ∀ s ∈ spots, taken ≤ s.start) : (spots.map (Spot.move taken put)).Pairwise Spot.Apart := by
  refine List.pairwise_map.mpr (h.imp_of_mem fun {p q} hp hq hpq => ?_)
  have hp := htaken p hp
  have hq := htaken q hq
  unfold Spot.Apart Spot.stop Spot.move at *
  dsimp only
  rcases hpq with hpq | ⟨hinside, hstart, hstop⟩
  · exact .inl (by omega)
  · exact .inr ⟨hinside, by omega, by omega⟩

theorem around (h : Laid out spots) (x y : Text) :
    Laid (x ++ out ++ y) (spots.map (Spot.move 0 x.length)) where
  occurs := by
    refine List.forall_mem_map.mpr fun s hs => ?_
    show OccursAt _ (s.start - 0 + x.length) s.text
    rw [Nat.sub_zero, Nat.add_comm]
    exact (h.occurs s hs).around x y
  firm := List.forall_mem_map.mpr h.firm
  apart := pairwise_move h.apart fun _ _ => Nat.zero_le _

theorem trim (h : Laid out spots) : Laid (trim out) (spots.map (Spot.move (margin out) 0)) where
  occurs := List.forall_mem_map.mpr fun s hs => ((h.occurs s hs).trim (h.firm s hs)).2
  firm := List.forall_mem_map.mpr h.firm
  apart := pairwise_move h.apart fun s hs => ((h.occurs s hs).trim (h.firm s hs)).1

theorem append (h : Laid out spots) (hrest : Laid rest behind) :
    Laid (out ++ rest) (spots ++ behind.map (Spot.move 0 out.length)) where
  occurs := by
    refine List.forall_mem_append.mpr ⟨fun s hs => ?_, ?_⟩
    · simpa using (h.occurs s hs).around [] rest
    · simpa using (hrest.around out []).occurs
  firm := List.forall_mem_append.mpr ⟨h.firm, List.forall_mem_map.mpr hrest.firm⟩
  apart := by
    refine List.pairwise_append.mpr ⟨h.apart, (hrest.around out []).apart, ?_⟩
    intro p hp q hq
    obtain ⟨s, -, rfl⟩ := List.mem_map.mp hq
    have hstop := (h.occurs p hp).le_length
    refine .inl ?_
    unfold Spot.stop Spot.move
    dsimp only
    omega

/-- The whole text is the spot of a block that holds all the others. -/
theorem cons (h : Laid out spots) (hout : Firm out) {n : Node}
    (hinside : ∀ s ∈ spots, s.node ∈ n.inner.preorder) : Laid out (⟨n, 0, out⟩ :: spots) where
  occurs := List.forall_mem_cons.mpr ⟨occursAt_self out, h.occurs⟩
  firm := List.forall_mem_cons.mpr ⟨hout, h.firm⟩
  apart := by
    refine .cons (fun s hs => .inr ⟨hinside s hs, Nat.zero_le _, ?_⟩) h.apart
    have hstop := (h.occurs s hs).le_length
    unfold Spot.stop
    dsimp only
    omega

theorem eq_nil (h : Laid [] spots) : spots = [] := by
  cases spots with
  | nil => rfl
  | cons s ss =>
    exact absurd (h.occurs s List.mem_cons_self) (h.firm s List.mem_cons_self).not_occursAt_nil

end Laid

/-! ## Blocks that a text displays -/

/-- The text has a spot for each of the nodes, with what it became when it was handed over. -/
def Displays (pictograms : Text) (hs : List Handover) (ns : List Node) (out : Text) : Prop :=
  ∃ spots, spots.map (·.node) = ns ∧ (∀ s ∈ spots, s.Shows pictograms hs) ∧ Laid out spots

namespace Displays

variable {pictograms out rest : Text} {hs gs : List Handover} {ns ms : List Node}

theorem nil (pictograms : Text) (hs : List Handover) (out : Text) : Displays pictograms hs [] out :=
  ⟨[], rfl, by simp, .nil out⟩

theorem mono (h : Displays pictograms hs ns out) (hsub : hs ⊆ gs) : Displays pictograms gs ns out := by
  obtain ⟨spots, hnodes, hshows, hlaid⟩ := h
  exact ⟨spots, hnodes, fun s hs => (hshows s hs).mono hsub, hlaid⟩

theorem around (h : Displays pictograms hs ns out) (x y : Text) :
    Displays pictograms hs ns (x ++ out ++ y) := by
  obtain ⟨spots, hnodes, hshows, hlaid⟩ := h
  exact ⟨_, (Spot.map_node_move _ _ _).trans hnodes, List.forall_mem_map.mpr hshows, hlaid.around x y⟩

theorem trim (h : Displays pictograms hs ns out) : Displays pictograms hs ns (trim out) := by
  obtain ⟨spots, hnodes, hshows, hlaid⟩ := h
  exact ⟨_, (Spot.map_node_move _ _ _).trans hnodes, List.forall_mem_map.mpr hshows, hlaid.trim⟩

theorem append (h : Displays pictograms hs ns out) (hrest : Displays pictograms hs ms rest) :
    Displays pictograms hs (ns ++ ms) (out ++ rest) := by
  obtain ⟨spots, rfl, hshows, hlaid⟩ := h
  obtain ⟨behind, rfl, hshows', hlaid'⟩ := hrest
  refine ⟨spots ++ behind.map (Spot.move 0 out.length), ?_,
    List.forall_mem_append.mpr ⟨hshows, List.forall_mem_map.mpr hshows'⟩, hlaid.append hlaid'⟩
  rw [List.map_append, Spot.map_node_move]

/-- A block displays itself and what is inside it. -/
theorem cons (h : Displays pictograms hs ns out) (hout : Firm out) {n : Node}
    (hinside : ∀ m ∈ ns, m ∈ n.inner.preorder) (hself : Spot.Shows pictograms hs ⟨n, 0, out⟩) :
    Displays pictograms hs (n :: ns) out := by
  obtain ⟨spots, rfl, hshows, hlaid⟩ := h
  exact ⟨⟨n, 0, out⟩ :: spots, rfl, List.forall_mem_cons.mpr ⟨hself, hshows⟩,
    hlaid.cons hout fun s hs => hinside _ (List.mem_map_of_mem hs)⟩

theorem eq_nil (h : Displays pictograms hs ns []) : ns = [] := by
  obtain ⟨spots, rfl, -, hlaid⟩ := h
  rw [hlaid.eq_nil]
  rfl

theorem unlines_cons {pieces : List Text} (h : Displays pictograms hs ns out)
    (hrest : Displays pictograms hs ms (unlines pieces)) :
    Displays pictograms hs (ns ++ ms) (unlines (out :: pieces)) := by
  cases pieces with
  | nil =>
    rw [hrest.eq_nil, List.append_nil]
    exact h
  | cons p ps =>
    rw [unlines_cons_cons]
    have hbelow := hrest.around ['\n'] []
    rw [List.append_nil] at hbelow
    exact h.append hbelow

end Displays

/-! ## One block -/

namespace Block

theorem firm_html (b : Block) (pictograms : Text) (number : Nat) : Firm (b.html pictograms number) := by
  obtain ⟨s, hs⟩ := b.exists_html_eq_lt pictograms number
  obtain ⟨s', hs'⟩ := b.exists_htmlWith_eq_gt b.options pictograms number
  exact ⟨⟨'<', s, hs, by decide⟩, ⟨s', '>', hs', by decide⟩⟩

end Block

namespace Node

/-- The block gives way to HTML that does not show what it holds. -/
def hidesContent (n : Node) : Bool :=
  match n.closing, n.opening.component? with
  | some closing, some c => (n.block c closing []).hidesContent
  | _, _ => false

/-- Whether content is shown does not depend on the content. -/
theorem hidesContent_block (n : Node) (c : Component) (closing : Closing) (inside : List Text) :
    (n.block c closing inside).hidesContent = (n.block c closing []).hidesContent := by
  cases c <;> rfl

variable {n : Node} {pictograms : Text} {hs : List Handover} {ns : List Node} {inside : List Text}

theorem hidesContent_of_not_rendered (h : n.isRendered = false) : n.hidesContent = false := by
  unfold hidesContent
  split
  · next cl c hcl hc => simp [isRendered, hcl, hc] at h
  · rfl

/-- What the content displays is displayed by the block as well, unless it hides it. -/
theorem displays_content (h : Displays pictograms hs ns (unlines inside)) (k : Nat) :
    Displays pictograms hs (if n.hidesContent then [] else ns)
      (n.html (fun _ => true) pictograms k inside) := by
  by_cases hr : n.isRendered
  · obtain ⟨cl, c, hcl, hc⟩ := exists_of_isRendered hr
    split
    · exact .nil pictograms hs _
    · next hshown =>
      have hblock : (n.block c cl inside).hidesContent = false := by
        simpa [hidesContent, hcl, hc, hidesContent_block n c cl inside] using hshown
      obtain ⟨x, y, hxy⟩ := Block.exists_html_eq_trim hblock pictograms ((n.number? k).getD 0)
      rw [html_of_rendered hcl hc, hxy]
      exact h.trim.around x y
  · rw [Bool.not_eq_true] at hr
    obtain ⟨x, y, hxy⟩ := exists_unlines_append n.opening.head inside n.closer
    rw [hidesContent_of_not_rendered hr, html_of_not_rendered hr, Node.around, hxy]
    exact h.around x y

/-- A rendered block displays itself besides. -/
theorem displays_html (h : Displays pictograms hs ns (unlines inside))
    (hns : ∀ m ∈ ns, m ∈ n.inner.preorder) (k : Nat) :
    Displays pictograms (hs ++ (n.handing k inside).filterMap Event.handover?)
      ((if n.isRendered then [n] else []) ++ if n.hidesContent then [] else ns)
      (n.html (fun _ => true) pictograms k inside) := by
  have hcontent := (displays_content (n := n) h k).mono
    (List.subset_append_left hs ((n.handing k inside).filterMap Event.handover?))
  by_cases hr : n.isRendered
  · obtain ⟨cl, c, hcl, hc⟩ := exists_of_isRendered hr
    have hhtml := html_of_rendered hcl hc pictograms k inside
    rw [if_pos hr]
    refine hcontent.cons (hhtml ▸ Block.firm_html _ _ _) (fun m hm => ?_) ?_
    · split at hm
      · cases hm
      · exact hns m hm
    · rw [handing_eq hcl hc]
      exact ⟨_, List.mem_append_right _ (List.mem_singleton_self _), rfl, hc, hhtml⟩
  · rw [if_neg hr]
    exact hcontent

end Node

/-! ## The whole text -/

namespace Forest

variable {f : Forest}

/-- The rendered blocks that no block hides, in the order of their openers. -/
def shown (f : Forest) : List Node := f.outside Node.isRendered Node.hidesContent

theorem mem_preorder_of_mem_shown {n : Node} (h : n ∈ f.shown) : n ∈ f.preorder :=
  List.mem_of_mem_filter h

theorem displays (h : f.preorder.Nodup) (pictograms : Text) (k : Nat) :
    Displays pictograms (f.handed pictograms k) f.shown
      (unlines (f.rendered (fun _ => true) pictograms k)) := by
  induction f generalizing k with
  | nil => exact .nil pictograms _ _
  | line n t f ih => exact (Displays.nil pictograms _ t).unlines_cons (ih h k)
  | block o i c f ihi ihf =>
    obtain ⟨hi, hf, -⟩ := List.nodup_append'.mp (List.nodup_cons.mp h).2
    have hself := Node.displays_html (n := ⟨o, i, c⟩)
      (ihi hi (k + Node.drawn ⟨o, i, c⟩)) (fun m => mem_preorder_of_mem_shown) k
    have hrest := ihf hf (k + Node.drawn ⟨o, i, c⟩ + i.accordions)
    rw [shown, outside_block h, handed_block, rendered]
    exact (hself.mono (List.subset_append_left _ _)).unlines_cons
      (hrest.mono (List.subset_append_right _ _))

end Forest

namespace Transpiler

/-- The HTML of each block that no block around it hides stands in the nested rendering of a text, in the
order of the openers: two of them one behind the other, unless one block holds the other. -/
theorem content_shown (pictograms separator t : Text) :
    let p : Transpiler := ⟨.nested, pictograms, separator⟩
    ((p.handovers t).map (·.block.lineno)).Nodup ∧
      ∃ spots : List Spot, spots.map (·.node) = (Forest.ofText t).shown ∧
        (∀ s ∈ spots, s.Shows pictograms (p.handovers t) ∧
          OccursAt (p.transpile t).text s.start s.text) ∧
        spots.Pairwise Spot.Apart := by
  intro p
  have hlies := Forest.lies_ofText t
  rw [handovers_nested, text_nested]
  refine ⟨hlies.nodup_lineno_handed 0, ?_⟩
  obtain ⟨spots, hnodes, hshows, hlaid⟩ := Forest.displays hlies.nodup_preorder pictograms 0
  exact ⟨spots, hnodes, fun s hs => ⟨hshows s hs, hlaid.occurs s hs⟩, hlaid.apart⟩

end Transpiler

end BlockMarkup
