import BlockMarkup.Proofs.Document.Coverage
import BlockMarkup.Proofs.Document.Matching

/-!
# The shape of a forest

What is closed and what is left open, and where the lines are: inside a closed block all blocks are
closed, the blocks left open hang one at the end of the other, and the lines of the blocks lie in
each other as the blocks do. `Forest.Shape` says so of a forest and the lines it was read from
(`shape_ofText`).

1. Only the document and blocks left open have open blocks, the last things they hold
   (`Lies.isClosed`, `Lies.hangs`).
2. A marker is a line of the forest only as a stray closing marker (`Lies.unmarked`).
3. The lines of a block begin with its head and end with its marker (`Node.Lies.span`). Blocks side
   by side take them one after the other (`Lies.pairwise_nodes`), and what a closed block holds
   stands between its two ends (`Node.Lies.nested`).
4. Every closing marker closes a block, ends an option section or is stray
   (`Lies.countP_isCloser`).
-/

namespace BlockMarkup

open Text Marker Layout

variable {ls : List Text} {s : Surrounding} {a b : Nat} {f : Forest}

namespace Forest

/-! ## Closed and open blocks -/

/-- The block at the end of a forest, if a block stands there. -/
def last? : Forest → Option Node
  | nil => none
  | line _ _ f => f.last?
  | block o i c nil => some ⟨o, i, c⟩
  | block _ _ _ f => f.last?

/-- The first block stands at the end of the forest, and each one at the end of the one before. -/
def Hangs : Forest → List Node → Prop
  | _, [] => True
  | f, n :: ns => f.last? = some n ∧ n.inner.Hangs ns

/-- The blocks without a closing marker, in the order of their openers. -/
def openNodes (f : Forest) : List Node := f.preorder.filter (!·.isClosed)

theorem last?_block (o : Opening) (i : Forest) (c : Option Closing) {n : Node}
    (h : f.last? = some n) : (block o i c f).last? = some n := by
  cases f with
  | nil => cases h
  | line _ _ f => exact h
  | block _ _ _ f => exact h

theorem openNodes_block (o : Opening) (i : Forest) (c : Option Closing) (f : Forest) :
    (block o i c f).openNodes =
      (if c = none then [⟨o, i, c⟩] else []) ++ i.openNodes ++ f.openNodes := by
  unfold openNodes
  rw [preorder, List.filter_cons, List.filter_append]
  cases c with
  | none => rfl
  | some c => rfl

theorem unclosed_eq_openNodes (f : Forest) : f.unclosed = f.openNodes.map (·.opening) := by
  induction f with
  | nil => rfl
  | line _ _ f ih => exact ih
  | block o i c f ihi ihf =>
    rw [openNodes_block]
    cases c with
    | none => simp [unclosed, ihi, ihf]
    | some c => simp [unclosed, ihi, ihf]

/-- In a closed block all blocks are closed. -/
theorem Lies.isClosed (h : Lies ls s a f b) (hs : s = .closed) : ∀ n ∈ f.preorder, n.isClosed := by
  induction h with
  | nil =>
    intro n hn
    cases hn
  | line _ _ _ _ ih => exact ih hs
  | closed _ _ _ _ ihi ihf =>
    exact List.forall_mem_cons.mpr ⟨rfl, List.forall_mem_append.mpr ⟨ihi rfl, ihf hs⟩⟩
  | unclosed hs' _ _ _ => exact absurd hs hs'

theorem Lies.openNodes_eq_nil (h : Lies ls .closed a f b) : f.openNodes = [] := by
  rw [openNodes, List.filter_eq_nil_iff]
  intro n hn
  simp [h.isClosed rfl n hn]

theorem Lies.hangs (h : Lies ls s a f b) : f.Hangs f.openNodes := by
  induction h with
  | nil => trivial
  | @line s a b t f _ _ _ _ ih =>
    rw [openNodes, preorder, ← openNodes]
    -- A line in front changes neither the open blocks nor what stands at the end.
    cases hopen : f.openNodes with
    | nil => trivial
    | cons n ns =>
      rw [hopen] at ih
      exact ih
  | @closed s a b c o i f cl _ hi _ _ _ ihf =>
    rw [openNodes_block, hi.openNodes_eq_nil]
    cases hopen : f.openNodes with
    | nil => trivial
    | cons n ns =>
      rw [hopen] at ihf
      exact ⟨last?_block o i (some cl) ihf.1, ihf.2⟩
  | @unclosed s a o i _ _ _ ihi =>
    have hnodes : (block o i none Forest.nil).openNodes = ⟨o, i, none⟩ :: i.openNodes := by
      rw [openNodes_block]
      exact List.append_nil _
    rw [hnodes]
    exact ⟨rfl, ihi⟩

theorem filter_reports_unterminated (f : Forest) :
    f.reports.filter (·.problem = .unterminatedBlock) =
      f.openNodes.map fun n =>
        ⟨trim n.opening.line, .unterminatedBlock, some n.opening.lineno, some n.opening.keyword,
          none⟩ := by
  have hstrays : ∀ cs : List Closing,
      (cs.map fun c => (⟨trim c.line, .strayCloser, some (c.lineno : Int), none, none⟩ :
        Diagnostic)).filter (·.problem = .unterminatedBlock) = [] := by
    intro cs
    simp [List.filter_eq_nil_iff]
  rw [reports, List.filter_append, hstrays, List.nil_append, unclosed_eq_openNodes, List.map_map,
    List.filter_eq_self.mpr]
  · rfl
  · intro d hd
    obtain ⟨n, -, rfl⟩ := List.mem_map.mp hd
    rfl

/-! ## Lines -/

theorem Lies.unmarked (h : Lies ls s a f b) :
    ∀ e ∈ f.topLines, opener? e.2 = none ∧ (s ≠ .document → isCloser e.2 = false) := by
  induction h with
  | nil =>
    intro e he
    cases he
  | line _ ho hc _ ih =>
    refine List.forall_mem_cons.mpr ⟨⟨ho, fun hs => ?_⟩, ih⟩
    by_contra hclose
    exact hs (hc (by simpa using hclose)).1
  | closed _ _ _ _ _ ihf => exact ihf
  | unclosed _ _ _ _ =>
    intro e he
    cases he

theorem Lies.strays_eq_nil (h : Lies ls s a f b) (hs : s ≠ .document) : f.strays = [] := by
  rw [List.eq_nil_iff_forall_not_mem]
  rintro ⟨n, t⟩ hmem
  obtain ⟨hclose, htop⟩ := mem_strays_iff.mp hmem
  rw [(h.unmarked _ htop).2 hs] at hclose
  cases hclose

end Forest

/-! ## The lines of a block -/

namespace Node

variable {n : Node} {e : Nat}

/-- What a block holds lies behind its head. -/
theorem Lies.inner (h : n.Lies ls a e) :
    ∃ s b, s ≠ .document ∧ (n.isClosed → s = .closed) ∧
      Forest.Lies ls s (bodyStart ls a) n.inner b := by
  cases h with
  | closed _ hi _ => exact ⟨.closed, _, by decide, fun _ => rfl, hi⟩
  | unclosed _ hi =>
    refine ⟨.unclosed, _, by decide, fun hclosed => ?_, hi⟩
    cases hclosed

/-- The head of a block stands in its place. -/
theorem Lies.head_prefix (h : n.Lies ls a e) :
    n.opening.head <+: ls.drop (n.opening.lineno - 1) := by
  rw [h.opening.lineno, Nat.add_sub_cancel, h.opening.drop_eq]
  exact List.prefix_append _ _

/-- A closed block ends with its marker, below its opener. -/
theorem Lies.span {cl : Closing} (h : n.Lies ls a e) (hcl : n.closing = some cl) :
    n.opening.lineno < cl.lineno ∧ cl.lineno = e ∧ ls[cl.lineno - 1]? = some cl.line := by
  cases h with
  | @closed c o i d ho hi hc =>
    obtain rfl : d = cl := Option.some.inj hcl
    have hstart : a < bodyStart ls a := lt_bodyStart
    have hle := hi.le
    rw [ho.lineno, hc.lineno]
    exact ⟨by omega, rfl, hc.line⟩
  | unclosed _ _ => cases hcl

/-- Blocks and lines in a closed block stand between its opener and its marker. -/
theorem Lies.nested {cl : Closing} (h : n.Lies ls a e) (hcl : n.closing = some cl) :
    (∀ m ∈ n.inner.nodes, n.opening.lineno < m.opening.lineno ∧
      ∃ c, m.closing = some c ∧ c.lineno < cl.lineno) ∧
      ∀ l ∈ n.inner.topLines, n.opening.lineno < l.1 ∧ l.1 < cl.lineno := by
  cases h with
  | @closed c o i d ho hi hc =>
    obtain rfl : d = cl := Option.some.inj hcl
    have hstart : a < bodyStart ls a := lt_bodyStart
    rw [ho.lineno, hc.lineno]
    constructor
    · intro m hm
      have hpre := Forest.mem_preorder_of_mem_nodes hm
      obtain ⟨j, e, hj, he, hm'⟩ := hi.exists_of_mem_preorder hpre
      have hclosed := hi.isClosed rfl m hpre
      obtain ⟨c', hc'⟩ := Option.isSome_iff_exists.mp hclosed
      obtain ⟨-, hend, -⟩ := hm'.span hc'
      rw [hm'.opening.lineno]
      exact ⟨by omega, c', hc', by omega⟩
    · rintro ⟨k, t⟩ hl
      obtain ⟨j, rfl, hj, hj', -⟩ := hi.of_mem_topLines hl
      exact ⟨by omega, by omega⟩
  | unclosed _ _ => cases hcl

end Node

namespace Forest

/-- Blocks side by side: a closed one ends before the next one starts. -/
theorem Lies.pairwise_nodes (h : Lies ls s a f b) :
    f.nodes.Pairwise fun m n => ∀ cl, m.closing = some cl → cl.lineno < n.opening.lineno := by
  induction h with
  | nil => exact .nil
  | line _ _ _ _ ih => exact ih
  | @closed s a b c o i f cl _ _ hc hf _ ihf =>
    refine .cons (fun n hn d hd => ?_) ihf
    obtain rfl : cl = d := Option.some.inj hd
    obtain ⟨j, e, hj, -, hn'⟩ := hf.exists_of_mem_preorder (mem_preorder_of_mem_nodes hn)
    rw [hc.lineno, hn'.opening.lineno]
    omega
  | unclosed _ _ _ _ =>
    refine .cons (fun n hn => ?_) .nil
    cases hn

end Forest

/-! ## Closing markers -/

theorem Opening.WellFormed.countP_head {o : Opening} (h : o.WellFormed) :
    o.head.countP isCloser = if o.separator.isSome then 1 else 0 := by
  have hself : isCloser o.line = false := isCloser_eq_false_of_opener h.opener
  rw [Opening.head, List.countP_cons_of_neg (by simp [hself])]
  cases hsep : o.separator with
  | none =>
    rw [h.unsectioned hsep]
    rfl
  | some marker =>
    obtain ⟨c, below, hstands⟩ := h.sectioned marker hsep
    have hoptions : o.optionLines.countP isCloser = 0 := by
      rw [List.countP_eq_zero]
      intro l hl
      simp [isCloser_eq_false_of_isLine (hstands.areOptions l hl)]
    rw [List.countP_append, hoptions]
    simp [hstands.closes]

namespace Forest

/-- Every closing marker closes a block, ends an option section or is stray. -/
theorem Lies.countP_isCloser (h : Lies ls s a f b) :
    f.source.countP isCloser =
      f.preorder.countP (·.isClosed) + f.preorder.countP (·.opening.separator.isSome) +
        f.strays.length := by
  induction h with
  | nil => rfl
  | @line s a b t f _ _ _ _ ih =>
    rw [source, preorder, strays, List.countP_cons, ih]
    by_cases hc : isCloser t
    · simp only [hc, if_true, List.length_cons]
      omega
    · simp [hc]
  | @closed s a b c o i f cl ho hi hc _ ihi ihf =>
    have hclosed : Node.isClosed ⟨o, i, some cl⟩ := rfl
    rw [hi.strays_eq_nil (by decide)] at ihi
    simp only [source, preorder, strays, List.countP_append, List.countP_cons, ihi, ihf,
      ho.wellFormed.countP_head, hclosed, if_true, Option.map_some, Option.toList_some, hc.closes,
      List.countP_nil, List.length_nil]
    omega
  | @unclosed s a o i _ ho hi ihi =>
    have hopen : Node.isClosed ⟨o, i, none⟩ = false := rfl
    rw [hi.strays_eq_nil (by decide)] at ihi
    simp only [source, preorder, strays, List.countP_append, List.countP_cons, ihi,
      ho.wellFormed.countP_head, hopen, Option.map_none, Option.toList_none, List.countP_nil,
      List.length_nil]
    simp
    omega

/-! ## The whole text -/

/-- What holds of the forest of a text. Lines are counted from one. -/
structure Shape (ls : List Text) (f : Forest) : Prop where
  /-- In a closed block all blocks are closed. -/
  closed_inside : ∀ n ∈ f.preorder, n.isClosed → ∀ m ∈ n.inner.preorder, m.isClosed
  /-- The open blocks are a chain, the first one at the end of the document. -/
  open_chain : f.Hangs f.openNodes
  /-- They are reported in the order of the chain. -/
  open_reports : f.reports.filter (·.problem = .unterminatedBlock) = f.openNodes.map fun n =>
    ⟨trim n.opening.line, .unterminatedBlock, some n.opening.lineno, some n.opening.keyword, none⟩
  top_lines : ∀ l ∈ f.topLines, opener? l.2 = none
  inner_lines : ∀ n ∈ f.preorder, ∀ l ∈ n.inner.topLines, opener? l.2 = none ∧ isCloser l.2 = false
  head_prefix : ∀ n ∈ f.preorder, 0 < n.opening.lineno ∧
    n.opening.head <+: ls.drop (n.opening.lineno - 1)
  closing_span : ∀ n ∈ f.preorder, ∀ cl, n.closing = some cl →
    n.opening.lineno < cl.lineno ∧ ls[cl.lineno - 1]? = some cl.line
  /-- In the document and in each block, a closed block ends before the next one starts. -/
  siblings : ∀ g, g = f ∨ (∃ n ∈ f.preorder, g = n.inner) → g.nodes.Pairwise fun m n =>
    ∀ cl, m.closing = some cl → cl.lineno < n.opening.lineno
  /-- What a closed block holds stands strictly between its opener and its marker. -/
  nested : ∀ n ∈ f.preorder, ∀ cl, n.closing = some cl →
    (∀ m ∈ n.inner.nodes, n.opening.lineno < m.opening.lineno ∧
      ∃ c, m.closing = some c ∧ c.lineno < cl.lineno) ∧
    ∀ l ∈ n.inner.topLines, n.opening.lineno < l.1 ∧ l.1 < cl.lineno
  closers : ls.countP isCloser =
    f.preorder.countP (·.isClosed) + f.preorder.countP (·.opening.separator.isSome) +
      f.strays.length

theorem shape_ofText (t : Text) : Shape (lines t) (ofText t) := by
  have h := lies_ofText t
  constructor
  case closed_inside =>
    intro n hn hclosed
    obtain ⟨a, e, -, -, hlies⟩ := h.exists_of_mem_preorder hn
    obtain ⟨s, b, -, hs, hi⟩ := hlies.inner
    exact hi.isClosed (hs hclosed)
  case open_chain => exact h.hangs
  case open_reports => exact filter_reports_unterminated _
  case top_lines => exact fun l hl => (h.unmarked l hl).1
  case inner_lines =>
    intro n hn l hl
    obtain ⟨a, e, -, -, hlies⟩ := h.exists_of_mem_preorder hn
    obtain ⟨s, b, hs, -, hi⟩ := hlies.inner
    exact ⟨(hi.unmarked l hl).1, (hi.unmarked l hl).2 hs⟩
  case head_prefix =>
    intro n hn
    obtain ⟨a, e, -, -, hlies⟩ := h.exists_of_mem_preorder hn
    exact ⟨Nat.pos_of_ne_zero (h.lineno_ne_zero hn), hlies.head_prefix⟩
  case closing_span =>
    intro n hn cl hcl
    obtain ⟨a, e, -, -, hlies⟩ := h.exists_of_mem_preorder hn
    obtain ⟨hlt, -, hline⟩ := hlies.span hcl
    exact ⟨hlt, hline⟩
  case siblings =>
    rintro g (rfl | ⟨n, hn, rfl⟩)
    · exact h.pairwise_nodes
    · obtain ⟨a, e, -, -, hlies⟩ := h.exists_of_mem_preorder hn
      obtain ⟨s, b, -, -, hi⟩ := hlies.inner
      exact hi.pairwise_nodes
  case nested =>
    intro n hn cl hcl
    obtain ⟨a, e, -, -, hlies⟩ := h.exists_of_mem_preorder hn
    exact hlies.nested hcl
  case closers =>
    rw [← source_ofText]
    exact h.countP_isCloser

end Forest

end BlockMarkup
