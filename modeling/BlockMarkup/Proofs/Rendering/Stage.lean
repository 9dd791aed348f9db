import BlockMarkup.Rendering.Passes
import BlockMarkup.Proofs.Rendering.Tidy

/-!
# One pass over a tidy forest

When the components before one are rendered, the pass for that one finds exactly the blocks of the
forest with this component, each with its own section and body, and leaves the text as it is when
this component is rendered too (`Tidy.passes`). A `Course` is what reading a part of the text
comes to: the lines it leaves, the accordions it counts and what its reports say.
-/

namespace BlockMarkup

open Text Marker

/-! ## Scanning -/

namespace Piece

variable {c : Component}

theorem scan_skip (rest : List Text) : ∀ limit lineno skip,
    scan c limit lineno skip rest = scan c (limit - skip) (lineno + skip) 0 (rest.drop skip) := by
  induction rest with
  | nil => intro limit lineno skip; simp [scan]
  | cons l rest ih =>
    intro limit lineno skip
    cases skip with
    | zero => rfl
    | succ n =>
      rw [scan, ih, List.drop_succ_cons]
      congr 1 <;> omega

/-- The pieces that a pass finds in lines with a number. -/
def read (c : Component) (lineno : Nat) (ls : List Text) : List Piece :=
  scan c (reach ls) lineno 0 ls

theorem scan_reach_skip (rest : List Text) (lineno skip : Nat) :
    scan c (reach rest) lineno skip rest = read c (lineno + skip) (rest.drop skip) := by
  rw [scan_skip, read, reach_drop]

@[simp] theorem read_nil (c : Component) (lineno : Nat) : read c lineno [] = [] := rfl

theorem read_line {l : Text} (h : ∀ m, opener? l = some m → m.keyword ≠ c.keyword) (lineno : Nat)
    (rest : List Text) : read c lineno (l :: rest) = .line l :: read c (lineno + 1) rest := by
  have hnone : (opener? l).filter (·.keyword == c.keyword) = none := by
    rw [Option.filter_eq_none_iff]
    intro m hm
    simpa using h m hm
  rw [read, scan]
  simp only [hnone, reach_cons_sub_one]
  rfl

theorem read_lines {ls : List Text} (h : ∀ l ∈ ls, ∀ m, opener? l = some m → m.keyword ≠ c.keyword)
    (lineno : Nat) (rest : List Text) :
    read c lineno (ls ++ rest) = ls.map .line ++ read c (lineno + ls.length) rest := by
  induction ls generalizing lineno with
  | nil => rfl
  | cons l ls ih =>
    obtain ⟨hl, hls⟩ := List.forall_mem_cons.mp h
    rw [List.cons_append, read_line hl, ih hls]
    simp [Nat.add_assoc, Nat.add_comm 1]

/-- A block with its section and its body, in front of the lines below its closing marker. -/
theorem read_blockAt {l closer : Text} {m : Opener} {head body below : List Text} (lineno : Nat)
    (hl : opener? l = some m) (hkey : m.keyword = c.keyword)
    (hhead : OptionSection.length c (reach (head ++ (body ++ closer :: below)))
      (head ++ (body ++ closer :: below)) = head.length)
    (hbody : ∀ t ∈ body, isCloser t = false) (hcloser : isCloser closer) :
    read c lineno (l :: (head ++ (body ++ closer :: below))) =
      .block (blockAt c m.header lineno l (head ++ (body ++ closer :: below)) head.length
        body.length) :: read c (lineno + 1 + (head.length + body.length + 1)) below := by
  have hsome : (opener? l).filter (·.keyword == c.keyword) = some m := by
    simp [hl, hkey]
  have htake : ((head ++ (body ++ closer :: below)).drop head.length).takeWhile (!isCloser ·) =
      body := by
    rw [List.drop_left, List.takeWhile_append_of_pos (by simpa using hbody),
      List.takeWhile_cons_of_neg (by simp [hcloser]), List.append_nil]
  have hdrop : (head ++ (body ++ closer :: below)).drop (head.length + body.length + 1) = below := by
    rw [Nat.add_assoc, List.drop_length_add_append, List.drop_length_add_append]
    rfl
  have hlt : head.length + body.length < (head ++ (body ++ closer :: below)).length := by
    simp
  rw [read, scan]
  simp only [hsome, reach_cons_sub_one, hhead, htake, hlt, if_true]
  rw [scan_reach_skip, hdrop]

theorem read_block {l closer : Text} {m : Opener} {head body below : List Text} (lineno : Nat)
    (hl : opener? l = some m) (hkey : m.keyword = c.keyword)
    (hhead : OptionSection.length c (reach (head ++ (body ++ closer :: below)))
      (head ++ (body ++ closer :: below)) = head.length)
    (hbody : ∀ t ∈ body, isCloser t = false) (hcloser : isCloser closer) :
    ∃ n b, b.component = c ∧ b.title = m.header ∧ b.optionLines = head.dropLast ∧
      b.body = unlines body ∧
      read c lineno (l :: (head ++ (body ++ closer :: below))) = .block b :: read c n below :=
  ⟨_, _, rfl, rfl, by simp [blockAt, optionLines], by simp [blockAt],
    read_blockAt lineno hl hkey hhead hbody hcloser⟩

/-- A block without a closing marker, with which the pass stops. -/
theorem read_openEnd {l : Text} {m : Opener} {head body : List Text} (lineno : Nat)
    (hl : opener? l = some m) (hkey : m.keyword = c.keyword)
    (hhead : OptionSection.length c (reach (head ++ body)) (head ++ body) = head.length)
    (hbody : ∀ t ∈ body, isCloser t = false) :
    read c lineno (l :: (head ++ body)) = .openEnd lineno l :: (head ++ body).map .line := by
  have hsome : (opener? l).filter (·.keyword == c.keyword) = some m := by
    simp [hl, hkey]
  have htake : ((head ++ body).drop head.length).takeWhile (!isCloser ·) = body := by
    rw [List.drop_left, List.takeWhile_eq_self_iff]
    simpa using hbody
  have hnot : ¬ head.length + body.length < (head ++ body).length := by
    rw [List.length_append]
    exact lt_irrefl _
  rw [read, scan]
  simp only [hsome, reach_cons_sub_one, hhead, htake, hnot, if_false]

theorem filterMap_map_line {α : Type} {g : Piece → Option α} (h : ∀ t, g (.line t) = none)
    (ls : List Text) : (ls.map line).filterMap g = [] := by
  rw [List.filterMap_map, List.filterMap_eq_nil_iff]
  exact fun l _ => h l

end Piece

/-! ## The course of a pass -/

namespace Rendering

theorem pieces_append (ps qs : List Piece) (ctx : Context) :
    pieces (ps ++ qs) ctx =
      ((pieces ps ctx).1 ++ (pieces qs (pieces ps ctx).2).1, (pieces qs (pieces ps ctx).2).2) := by
  induction ps generalizing ctx with
  | nil => rfl
  | cons p ps ih => cases p <;> simp [pieces, ih]

theorem pieces_lines (ls : List Text) (ctx : Context) : pieces (ls.map .line) ctx = (ls, ctx) := by
  induction ls with
  | nil => rfl
  | cons l ls ih => simp [pieces, ih]

end Rendering

/-- What pieces come to in the pass for a component, in which `k` accordions may have their numbers:
how many numbers they draw, the lines they leave, and what their reports say. -/
structure Course (pictograms : Text) (c : Component) (k : Nat) (ps : List Piece) (drawn : Nat)
    (out : List Text) (said : List (Option Text × Text × Text)) : Prop where
  unreported : ps.filterMap (Piece.report? c) = []
  lines_eq : ∀ ctx : Context, ctx.pictograms = pictograms → (c = .accordion → ctx.accordions = k) →
    (Rendering.pieces ps ctx).1.flatMap lines = out
  context_eq : ∀ ctx : Context, ctx.pictograms = pictograms →
    (Rendering.pieces ps ctx).2.pictograms = pictograms ∧
    (Rendering.pieces ps ctx).2.accordions = ctx.accordions + drawn ∧
    (Rendering.pieces ps ctx).2.reports.map Diagnostic.gist = ctx.reports.map Diagnostic.gist ++ said

namespace Course

variable (pictograms : Text) (c : Component) (k : Nat)

theorem of_lines {ls : List Text} (h : ∀ l ∈ ls, '\n' ∉ l) :
    Course pictograms c k (ls.map .line) 0 ls [] := by
  refine ⟨?_, fun ctx _ _ => ?_, fun ctx hp => ?_⟩
  · simp [List.filterMap_map, Function.comp_def, Piece.report?]
  · rw [Rendering.pieces_lines]
    exact flatMap_lines_eq_self h
  · simp [Rendering.pieces_lines, hp]

variable {c} in
theorem of_block {b : Block} (hb : b.component = c) :
    Course pictograms c k [.block b] (if c = .accordion then 1 else 0)
      (lines (b.html pictograms (if c = .accordion then k + 1 else 0)))
      (b.reports.map Diagnostic.gist) := by
  refine ⟨rfl, fun ctx hp hk => ?_, fun ctx hp => ?_⟩
  · by_cases hc : c = .accordion
    · simp [Rendering.pieces, Context.hand, Context.numberFor, Context.draw, hb, hc, hp, hk hc]
    · simp [Rendering.pieces, Context.hand, Context.numberFor, hb, hc, hp]
  · by_cases hc : c = .accordion
    · simp [Rendering.pieces, Context.hand, Context.numberFor, Context.draw, Context.report, hb,
        hc, hp]
    · simp [Rendering.pieces, Context.hand, Context.numberFor, Context.report, hb, hc, hp]

variable {pictograms c k} in
theorem append {j d e : Nat} {ps qs : List Piece} {out rest : List Text}
    {said more : List (Option Text × Text × Text)}
    (hps : Course pictograms c k ps d out said) (hqs : Course pictograms c j qs e rest more)
    (hj : c = .accordion → j = k + d) :
    Course pictograms c k (ps ++ qs) (d + e) (out ++ rest) (said ++ more) := by
  refine ⟨?_, fun ctx hp hk => ?_, fun ctx hp => ?_⟩
  · rw [List.filterMap_append, hps.unreported, hqs.unreported]
    rfl
  · obtain ⟨hp', hdrawn, -⟩ := hps.context_eq ctx hp
    rw [Rendering.pieces_append, List.flatMap_append, hps.lines_eq ctx hp hk,
      hqs.lines_eq _ hp' fun hc => by rw [hdrawn, hk hc, hj hc]]
  · obtain ⟨hp', hdrawn, hsaid⟩ := hps.context_eq ctx hp
    obtain ⟨hp'', hdrawn', hsaid'⟩ := hqs.context_eq _ hp'
    rw [Rendering.pieces_append]
    refine ⟨hp'', ?_, ?_⟩
    · rw [hdrawn', hdrawn, Nat.add_assoc]
    · rw [hsaid', hsaid, List.append_assoc]

end Course

/-! ## What one pass is about -/

/-- The component that a block was handed to. -/
def Event.component? : Event → Option Component
  | unknown _ => none
  | handed h => some h.block.component

namespace Node

variable {n : Node} {cl : Closing} {c : Component} (hcl : n.closing = some cl)
  (hc : n.opening.component? = some c)

include hcl hc

theorem drawn_eq : n.drawn = if c = .accordion then 1 else 0 := by
  simp [drawn, draws, hcl, hc]

theorem getD_number?_eq (k : Nat) :
    (n.number? k).getD 0 = if c = .accordion then k + 1 else 0 := by
  simp only [number?, draws, hcl, hc]
  by_cases ha : c = .accordion <;> simp [ha]

theorem html_of_rank_lt {r : Nat} (hr : c.rank < r) (pictograms : Text) (k : Nat)
    (inside : List Text) :
    n.html (Component.before r) pictograms k inside =
      (n.block c cl inside).html pictograms (if c = .accordion then k + 1 else 0) := by
  simp only [html, hcl, hc, Component.before, hr, decide_true, if_true, getD_number?_eq hcl hc]

theorem html_of_le_rank {r : Nat} (hr : r ≤ c.rank) (pictograms : Text) (k : Nat)
    (inside : List Text) :
    n.html (Component.before r) pictograms k inside = n.around inside := by
  simp [html, hcl, hc, Component.before, Nat.not_lt.mpr hr]

end Node

namespace Forest

variable {pictograms : Text} {f : Forest} {below : List Text}

/-- What the reports on the blocks of a component say. -/
def said (pictograms : Text) (c : Component) (f : Forest) (k : Nat) :
    List (Option Text × Text × Text) :=
  (((f.events pictograms k).filter (·.component? = some c)).flatMap Event.reports).map
    Diagnostic.gist

theorem said_block {o : Opening} {i : Forest} {cl : Closing} {d : Component}
    (hd : o.component? = some d) (c : Component) (k : Nat) :
    (block o i (some cl) f).said pictograms c k =
      i.said pictograms c (k + Node.drawn ⟨o, i, some cl⟩) ++
        (if d = c then (Node.block ⟨o, i, some cl⟩ d cl (i.rendered (fun _ => true) pictograms
          (k + Node.drawn ⟨o, i, some cl⟩))).reports.map Diagnostic.gist else []) ++
        f.said pictograms c (k + Node.drawn ⟨o, i, some cl⟩ + i.accordions) := by
  have hnone : Node.announcement ⟨o, i, some cl⟩ = [] := by simp [Node.announcement, hd]
  have hcomponent : ∀ inside, (Node.block ⟨o, i, some cl⟩ d cl inside).component = d := fun _ => rfl
  simp only [said, events, hnone, Node.handing_eq (n := ⟨o, i, some cl⟩) rfl hd, List.nil_append,
    List.filter_append, List.filter_singleton, Event.component?, hcomponent]
  by_cases hdc : d = c <;> simp [hdc, Event.reports]

/-- A forest without a component has nothing to say about it. -/
theorem said_eq_nil {c : Component} (h : ∀ n ∈ f.preorder, n.opening.component? ≠ some c) (k : Nat) :
    f.said pictograms c k = [] := by
  have hfilter : (f.events pictograms k).filter (·.component? = some c) = [] := by
    refine List.filter_eq_nil_iff.mpr fun e he => ?_
    obtain ⟨n, hn, ⟨-, rfl⟩ | ⟨j, inside, hhanding⟩⟩ := exists_of_mem_events he
    · simp [Event.component?]
    · obtain ⟨cl, d, -, hd, rfl⟩ := Node.of_mem_handing hhanding
      have hne : d ≠ c := fun hdc => h n hn (hdc ▸ hd)
      simp [Event.component?, Node.block, hne]
  rw [said, hfilter]
  rfl

theorem accordions_eq_zero (h : ∀ n ∈ f.preorder, n.opening.component? ≠ some .accordion) :
    f.accordions = 0 := by
  induction f with
  | nil => rfl
  | line _ _ f ih => exact ih h
  | block o i cl f ihi ihf =>
    obtain ⟨hself, hrest⟩ := List.forall_mem_cons.mp h
    obtain ⟨hi, hf⟩ := List.forall_mem_append.mp hrest
    have hdraws : Node.draws ⟨o, i, cl⟩ = false := by simp [Node.draws, hself]
    rw [accordions, ihi hi, ihf hf, Node.drawn, hdraws]
    rfl

end Forest

/-! ## The pass over a forest -/

theorem Opening.Tidy.length_section {o : Opening} {c : Component} (ho : o.Tidy c)
    {body : List Text} (below : List Text) {closer : Text} (hcloser : isCloser closer)
    (hbody : ∀ t ∈ body, isCloser t = false)
    (hbare : o.separator = none → ¬ OptionSection.Stands c body closer below) :
    OptionSection.length c
        (reach (o.optionLines ++ o.separator.toList ++ (body ++ closer :: below)))
        (o.optionLines ++ o.separator.toList ++ (body ++ closer :: below)) =
      (o.optionLines ++ o.separator.toList).length := by
  cases hsep : o.separator with
  | some marker =>
    obtain ⟨_, hstands⟩ := ho.sectioned marker hsep
    rw [Option.toList_some, List.length_append, List.length_singleton]
    refine OptionSection.length_reach_eq_succ_iff.mpr
      ⟨o.optionLines, marker, body ++ closer :: below, by simp, rfl, ?_⟩
    exact { hstands with closerBelow := ⟨closer, by simp, hcloser⟩ }
  | none =>
    rw [ho.unsectioned hsep, Option.toList_none, List.append_nil, List.nil_append, List.length_nil]
    refine OptionSection.length_reach_eq_zero_iff.mpr fun options marker rest heq hstands => ?_
    -- The first closing marker on either side is the same line.
    have htake : body = options := by
      have hleft : (body ++ closer :: below).takeWhile (!isCloser ·) = body := by
        rw [List.takeWhile_append_of_pos (by simpa using hbody),
          List.takeWhile_cons_of_neg (by simp [hcloser]), List.append_nil]
      have hoptions : ∀ l ∈ options, isCloser l = false := fun l hl =>
        isCloser_eq_false_of_isLine (hstands.areOptions l hl)
      rw [← hleft, heq, List.takeWhile_append_of_pos (by simpa using hoptions),
        List.takeWhile_cons_of_neg (by simp [hstands.closes]), List.append_nil]
    subst htake
    obtain ⟨rfl, rfl⟩ := List.cons.inj (List.append_cancel_left heq)
    exact hbare hsep hstands

theorem Opening.Tidy.wellFormed {o : Opening} {c : Component} (ho : o.Tidy c) : o.WellFormed := by
  refine ⟨ho.opener, fun marker hmarker => ?_, ho.unsectioned⟩
  obtain ⟨below, hstands⟩ := ho.sectioned marker hmarker
  exact ⟨c, below, hstands⟩

namespace Forest

variable {pictograms : Text} {f : Forest} {below : List Text}

/-- The lines of a forest when the components before place `r` have been rendered. -/
def stage (pictograms : Text) (r : Nat) (f : Forest) (k : Nat) : List Text :=
  (f.rendered (Component.before r) pictograms k).flatMap lines

section Block

variable {o : Opening} {i : Forest} {cl : Closing} {d : Component} {r : Nat}

/-- A rendered block, and what it holds, in the lines of a stage. -/
theorem stage_block_of_rank_lt (pictograms : Text) (f : Forest) (cl : Closing) (ho : o.Tidy d)
    (hrank : ∀ n ∈ i.preorder, n.RankLt d.rank) (hr : d.rank < r) (k : Nat) :
    (Forest.block o i (some cl) f).stage pictograms r k =
      lines ((Node.block ⟨o, i, some cl⟩ d cl (i.rendered (fun _ => true) pictograms
        (k + Node.drawn ⟨o, i, some cl⟩))).html pictograms (if d = .accordion then k + 1 else 0)) ++
        f.stage pictograms r (k + Node.drawn ⟨o, i, some cl⟩ + i.accordions) := by
  have hready : i.Ready (Component.before r) := ready_before fun n hn c hc =>
    (hrank n hn c hc).trans hr
  rw [stage, rendered, List.flatMap_cons, hready.rendered_eq,
    Node.html_of_rank_lt (n := ⟨o, i, some cl⟩) rfl ho.component hr]
  rfl

/-- A block that is not yet rendered, around what it holds. -/
theorem stage_block_of_le_rank (ho : o.Tidy d) (hflat : '\n' ∉ cl.line) (hr : r ≤ d.rank) (k : Nat) :
    (Forest.block o i (some cl) f).stage pictograms r k =
      o.head ++ (i.stage pictograms r (k + Node.drawn ⟨o, i, some cl⟩) ++ cl.line ::
        f.stage pictograms r (k + Node.drawn ⟨o, i, some cl⟩ + i.accordions)) := by
  have haround : ∀ inside, lines (Node.around ⟨o, i, some cl⟩ inside) =
      o.head ++ inside.flatMap lines ++ [cl.line] := by
    intro inside
    rw [Node.lines_around, List.flatMap_append, List.flatMap_append, flatMap_lines_eq_self ho.flat]
    simp [Node.closer, lines_eq_singleton hflat]
  rw [stage, rendered, List.flatMap_cons,
    Node.html_of_le_rank (n := ⟨o, i, some cl⟩) rfl ho.component hr, haround]
  simp [stage]

end Block

/-- In front of lines that bring no new closing marker, the pass finds the pieces of the forest and
goes on behind them; rendering these pieces brings the forest to its next stage. -/
def Passes (pictograms : Text) (c : Component) (below : List Text) (f : Forest) (k : Nat) : Prop :=
  ∀ (lineno : Nat) (rest : List Text), ((∃ l ∈ rest, isCloser l) → ∃ l ∈ below, isCloser l) →
    ∃ ps n, Piece.read c lineno (f.stage pictograms c.rank k ++ rest) = ps ++ Piece.read c n rest ∧
      Course pictograms c k ps (if c = .accordion then f.accordions else 0)
        (f.stage pictograms (c.rank + 1) k) (f.said pictograms c k)

section Block

variable {o : Opening} {i : Forest} {cl : Closing} {c d : Component} {k : Nat}

/-- A block that an earlier pass has rendered is passed over. -/
theorem passes_block_of_rank_lt (ho : o.Tidy d) (hi : Tidy (cl.line :: (f.source ++ below)) i)
    (hrank : ∀ n ∈ i.preorder, n.RankLt d.rank) (hp : '\n' ∉ pictograms) (hlt : d.rank < c.rank)
    (hf : Passes pictograms c below f (k + Node.drawn ⟨o, i, some cl⟩ + i.accordions)) :
    Passes pictograms c below (block o i (some cl) f) k := by
  intro lineno rest hrest
  have hne : d ≠ c := fun h => by rw [h] at hlt; exact lt_irrefl _ hlt
  have habsent : ∀ n ∈ i.preorder, n.opening.component? ≠ some c := fun n hn hcomp =>
    absurd (hrank n hn c hcomp) (by omega)
  have hdrawn : c = .accordion → Node.drawn ⟨o, i, some cl⟩ + i.accordions = 0 := by
    rintro rfl
    rw [Node.drawn_eq (n := ⟨o, i, some cl⟩) rfl ho.component, if_neg hne,
      accordions_eq_zero habsent]
  have hinert := inert_html_block ho.flat_title i d cl hp
    (hi.inert_rendered hp (ready_true i) (k + Node.drawn ⟨o, i, some cl⟩))
    (if d = .accordion then k + 1 else 0)
  have hstage := fun r (hr : d.rank < r) => stage_block_of_rank_lt pictograms f cl ho hrank hr k
  revert hinert hstage
  generalize lines (Block.html pictograms _ _) = html
  intro hinert hstage
  obtain ⟨ps, n, hread, hcourse⟩ := hf (lineno + html.length) rest hrest
  refine ⟨html.map .line ++ ps, n, ?_, ?_⟩
  · rw [hstage _ hlt, List.append_assoc,
      Piece.read_lines fun l hl => by simp [(hinert l hl).opener?_eq_none], hread, List.append_assoc]
  · have hlines := (Course.of_lines _ _ _ fun l hl => (hinert l hl).flat).append hcourse
      fun hc => by rw [Nat.add_assoc, hdrawn hc]
    have hcount : (if c = .accordion then (Forest.block o i (some cl) f).accordions else 0) =
        0 + if c = .accordion then f.accordions else 0 := by
      split
      · next hc => rw [accordions, hdrawn hc]
      · rfl
    rw [hstage _ (hlt.trans (Nat.lt_succ_self _)), said_block ho.component, said_eq_nil habsent,
      if_neg hne, List.nil_append, hcount]
    exact hlines

/-- A block of another component that is still to be rendered keeps its markers. -/
theorem passes_block_of_lt_rank (ho : o.Tidy d) (hcl : isCloser cl.line) (hflat : '\n' ∉ cl.line)
    (hgt : c.rank < d.rank)
    (hi : Passes pictograms c (cl.line :: (f.source ++ below)) i (k + Node.drawn ⟨o, i, some cl⟩))
    (hf : Passes pictograms c below f (k + Node.drawn ⟨o, i, some cl⟩ + i.accordions)) :
    Passes pictograms c below (block o i (some cl) f) k := by
  intro lineno rest hrest
  have hne : d ≠ c := fun h => by rw [h] at hgt; exact lt_irrefl _ hgt
  have hother : o.component? ≠ some c := fun h => hne (Option.some.inj (ho.component.symm.trans h))
  have hdrawn : c = .accordion → Node.drawn ⟨o, i, some cl⟩ = 0 := by
    rintro rfl
    rw [Node.drawn_eq (n := ⟨o, i, some cl⟩) rfl ho.component, if_neg hne]
  have hcloser : ∀ m, opener? cl.line = some m → m.keyword ≠ c.keyword := by
    simp [opener?_eq_none_of_isCloser hcl]
  obtain ⟨qs, n, hreadi, hcoursei⟩ := hi (lineno + o.head.length)
    (cl.line :: (f.stage pictograms c.rank (k + Node.drawn ⟨o, i, some cl⟩ + i.accordions) ++ rest))
    fun _ => ⟨cl.line, List.mem_cons_self, hcl⟩
  obtain ⟨ps, m, hreadf, hcoursef⟩ := hf (n + 1) rest hrest
  refine ⟨o.head.map .line ++ (qs ++ (.line cl.line :: ps)), m, ?_, ?_⟩
  · rw [stage_block_of_le_rank ho hflat hgt.le, List.append_assoc, List.append_assoc,
      List.cons_append, Piece.read_lines (ho.wellFormed.opener?_head hother), hreadi,
      Piece.read_line hcloser, hreadf]
    simp
  · have hcloserLine : Course pictograms c (k + Node.drawn ⟨o, i, some cl⟩ + i.accordions)
        [.line cl.line] 0 [cl.line] [] :=
      Course.of_lines _ _ _ (List.forall_mem_singleton.mpr hflat)
    have hall := (Course.of_lines pictograms c k ho.flat).append
      (hcoursei.append (hcloserLine.append hcoursef fun _ => rfl) fun hc => by rw [if_pos hc])
      fun hc => by rw [hdrawn hc]
    have hcount : (if c = .accordion then (Forest.block o i (some cl) f).accordions else 0) =
        0 + ((if c = .accordion then i.accordions else 0) +
          (0 + if c = .accordion then f.accordions else 0)) := by
      split
      · next hc => rw [accordions, hdrawn hc]; omega
      · rfl
    rw [stage_block_of_le_rank ho hflat hgt, said_block ho.component, if_neg hne, List.append_nil,
      hcount]
    exact hall

/-- What stands inside a block when its pass comes is inert. -/
theorem isCloser_stage_eq_false (hi : Tidy below i) (hrank : ∀ n ∈ i.preorder, n.RankLt c.rank)
    (hp : '\n' ∉ pictograms) (k : Nat) : ∀ t ∈ i.stage pictograms c.rank k, isCloser t = false :=
  fun t ht => (hi.inert_rendered hp (ready_before hrank) k t ht).isCloser_eq_false

/-- When its pass comes, a block has the option section that it was read with. -/
theorem length_section_stage (ho : o.Tidy c) (hi : Tidy (cl.line :: (f.source ++ below)) i)
    (hrank : ∀ n ∈ i.preorder, n.RankLt c.rank) (hp : '\n' ∉ pictograms) (hcl : isCloser cl.line)
    (hbare : o.separator = none →
      ¬ OptionSection.Stands c i.source cl.line (f.source ++ below))
    (htidy : Tidy below f) {rest : List Text}
    (hrest : (∃ l ∈ rest, isCloser l) → ∃ l ∈ below, isCloser l) (j k : Nat) :
    OptionSection.length c
        (reach (o.optionLines ++ o.separator.toList ++ (i.stage pictograms c.rank j ++
          cl.line :: (f.stage pictograms c.rank k ++ rest))))
        (o.optionLines ++ o.separator.toList ++ (i.stage pictograms c.rank j ++
          cl.line :: (f.stage pictograms c.rank k ++ rest))) =
      (o.optionLines ++ o.separator.toList).length := by
  refine ho.length_section _ hcl (isCloser_stage_eq_false hi hrank hp j) fun hsep hstands => ?_
  -- A body of option lines alone holds no block, so it is the body as written.
  have hbody : i.stage pictograms c.rank j = i.source :=
    hi.eq_source (ready_before hrank) hstands.areOptions
  refine hbare hsep { hstands with areOptions := ?_, known := ?_, closerBelow := ?_ }
  · exact hbody ▸ hstands.areOptions
  · exact hbody ▸ hstands.known
  · obtain ⟨l, hl, hclose⟩ := hstands.closerBelow
    rcases List.mem_append.mp hl with hl | hl
    · obtain ⟨m, hm, hclose⟩ := htidy.exists_isCloser ⟨l, hl, hclose⟩
      exact ⟨m, List.mem_append_left _ hm, hclose⟩
    · obtain ⟨m, hm, hclose⟩ := hrest ⟨l, hl, hclose⟩
      exact ⟨m, List.mem_append_right _ hm, hclose⟩

/-- A block of the component is found with its section and its body. -/
theorem passes_block_of_rank_eq (ho : o.Tidy c) (hi : Tidy (cl.line :: (f.source ++ below)) i)
    (hrank : ∀ n ∈ i.preorder, n.RankLt c.rank) (hp : '\n' ∉ pictograms) (hcl : isCloser cl.line)
    (hflat : '\n' ∉ cl.line)
    (hbare : o.separator = none →
      ¬ OptionSection.Stands c i.source cl.line (f.source ++ below))
    (htidy : Tidy below f)
    (hf : Passes pictograms c below f (k + Node.drawn ⟨o, i, some cl⟩ + i.accordions)) :
    Passes pictograms c below (block o i (some cl) f) k := by
  intro lineno rest hrest
  have habsent : ∀ n ∈ i.preorder, n.opening.component? ≠ some c := fun n hn hcomp =>
    lt_irrefl _ (hrank n hn c hcomp)
  have hdrawn := Node.drawn_eq (n := ⟨o, i, some cl⟩) rfl ho.component
  have haccordions : c = .accordion → i.accordions = 0 := by
    rintro rfl
    exact accordions_eq_zero habsent
  have hready := ready_before (f := i) hrank
  have hsection := length_section_stage ho hi hrank hp hcl hbare htidy hrest
    (k + Node.drawn ⟨o, i, some cl⟩) (k + Node.drawn ⟨o, i, some cl⟩ + i.accordions)
  obtain ⟨n, b, hcomponent, htitle, hoptions, hblockBody, hread⟩ := Piece.read_block lineno ho.opener
    (Component.keyword_of_ofKeyword? ho.component).symm hsection
    (isCloser_stage_eq_false hi hrank hp _) hcl
  obtain ⟨ps, m, hreadf, hcoursef⟩ := hf n rest hrest
  have halike : b.Alike (Node.block ⟨o, i, some cl⟩ c cl (i.rendered (fun _ => true) pictograms
      (k + Node.drawn ⟨o, i, some cl⟩))) := by
    refine ⟨hcomponent, htitle, hoptions.trans ho.wellFormed.dropLast_section, hblockBody.trans ?_⟩
    rw [stage, unlines_flatMap_lines, hready.rendered_eq]
    rfl
  refine ⟨.block b :: ps, m, ?_, ?_⟩
  · rw [stage_block_of_le_rank ho hflat (le_refl _), Opening.head]
    simp only [List.cons_append, List.append_assoc] at hread ⊢
    rw [hread, hreadf]
  · have hall := (Course.of_block pictograms k hcomponent).append hcoursef
      fun hc => by rw [hdrawn, haccordions hc, Nat.add_zero]
    have hcount : (if c = .accordion then (Forest.block o i (some cl) f).accordions else 0) =
        (if c = .accordion then 1 else 0) + if c = .accordion then f.accordions else 0 := by
      split
      · next hc => rw [accordions, hdrawn, if_pos hc, haccordions hc]
      · rfl
    rw [stage_block_of_rank_lt _ _ _ ho hrank (Nat.lt_succ_self _), said_block ho.component,
      said_eq_nil habsent, if_pos rfl, hcount, ← halike.html_eq, ← halike.gist_reports]
    exact hall

end Block

theorem Tidy.passes (h : Tidy below f) (hp : '\n' ∉ pictograms) (c : Component) (k : Nat) :
    Passes pictograms c below f k := by
  induction h generalizing k with
  | nil =>
    intro lineno rest _
    refine ⟨[], lineno, rfl, ?_⟩
    have := Course.of_lines pictograms c k (List.forall_mem_nil _)
    simpa [stage, rendered, said, events, accordions] using this
  | @line below n t f ht hf ih =>
    intro lineno rest hrest
    obtain ⟨ps, m, hread, hcourse⟩ := ih k (lineno + 1) rest hrest
    have hline : ∀ r, (Forest.line n t f).stage pictograms r k = t :: f.stage pictograms r k :=
      fun r => by
        rw [stage, rendered, List.flatMap_cons, lines_eq_singleton ht.flat]
        rfl
    refine ⟨.line t :: ps, m, ?_, ?_⟩
    · rw [hline, List.cons_append, Piece.read_line (by simp [ht.opener?_eq_none]), hread]
      rfl
    · have hfirst := Course.of_lines pictograms c k (List.forall_mem_singleton.mpr ht.flat)
      rw [hline]
      simpa [accordions, said, events] using hfirst.append hcourse (fun _ => rfl)
  | @block below o i f cl d ho hi hrank hcl hflat hbare hf ihi ihf =>
    rcases Nat.lt_trichotomy d.rank c.rank with hlt | heq | hgt
    · exact passes_block_of_rank_lt ho hi hrank hp hlt (ihf _)
    · obtain rfl := Component.rank_injective heq
      exact passes_block_of_rank_eq ho hi hrank hp hcl hflat hbare hf (ihf _)
    · exact passes_block_of_lt_rank ho hcl hflat hgt (ihi _) (ihf _)

end Forest

end BlockMarkup
