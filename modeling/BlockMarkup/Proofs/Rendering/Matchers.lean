import BlockMarkup.Proofs.Document.Matching
import BlockMarkup.Proofs.Rendering.Stage

/-!
# The greedy matcher and the forest

A pass closes each block of its component at the nearest closing marker, where the forest matches
the markers of all components. When no block of the component holds another block, both find the
same blocks, and the pass stops at the block that the forest leaves open
(`Rendering.findBlocks_eq_nodes`).

1. A block without blocks in it has no closing marker in its body (`Lies.isCloser_eq_false`), so the
   pass finds its own marker, or none (`Lies.read_closed`, `Lies.read_unclosed`).
2. All other lines open no block of the component, and the pass leaves them alone. So it reads the
   text as the pieces that the forest tells (`Forest.found`, `Lies.read_eq`).
3. The blocks among these pieces are the closed blocks of the forest (`Forest.blocks_found`), and
   their reports are those of the forest (`Forest.reports_found`).
-/

namespace BlockMarkup

open Text Marker Layout

/-! ## Openings in their place -/

namespace Opening.LiesAt

variable {ls : List Text} {a : Nat} {o : Opening}

theorem length_section {c : Component} (h : o.LiesAt ls a) (hc : o.component? = some c) :
    OptionSection.length c (reach (ls.drop (a + 1))) (ls.drop (a + 1)) =
      (o.optionLines ++ o.separator.toList).length := by
  have hstart := bodyStart_eq h.opener
  have hlength := h.length_head
  rw [Opening.head, List.length_cons] at hlength
  rw [component?] at hc
  unfold sectionLength Token.sectionLength at hstart
  simp only [hc] at hstart
  omega

theorem optionsLineno_eq (h : o.LiesAt ls a) :
    o.optionsLineno =
      if (o.optionLines ++ o.separator.toList).length = 0 then 0 else a + 1 + 1 := by
  unfold optionsLineno
  cases hsep : o.separator with
  | some marker => simp [h.lineno]
  | none => simp [(h.unsectioned hsep).1]

end Opening.LiesAt

/-! ## Blocks without blocks in them -/

namespace Forest

variable {ls : List Text} {s : Surrounding} {a b : Nat} {f : Forest} {c : Component}

theorem Lies.length_source (h : Lies ls s a f b) : a + f.source.length = b := by
  induction h with
  | nil => rfl
  | line _ _ _ _ ih =>
    rw [source, List.length_cons]
    omega
  | closed ho _ _ _ ihi ihf =>
    have hhead := ho.length_head
    simp only [source, Option.map_some, Option.toList_some, List.length_append,
      List.length_singleton]
    omega
  | unclosed _ ho _ ihi =>
    have hhead := ho.length_head
    simp only [source, Option.map_none, Option.toList_none, List.length_append, List.length_nil]
    omega

/-- Inside a block, markers are found on blocks only. -/
theorem Lies.isCloser_eq_false (h : Lies ls s a f b) (hs : s ≠ .document) (hnodes : f.nodes = []) :
    ∀ l ∈ f.source, isCloser l = false := by
  induction h with
  | nil =>
    intro l hl
    cases hl
  | line _ _ hc _ ih =>
    refine List.forall_mem_cons.mpr ⟨?_, ih hs hnodes⟩
    by_contra hne
    exact hs (hc (by simpa using hne)).1
  | closed => cases hnodes
  | unclosed => cases hnodes

/-- The block that the pass cuts out of the lines is that of the node, its content as written. -/
theorem Lies.blockAt_eq {e : Nat} {o : Opening} {i : Forest} {cl : Closing} (ho : o.LiesAt ls a)
    (hi : Lies ls s (bodyStart ls a) i e) (hcl : cl.LiesAt ls e) (c : Component)
    (below : List Text) :
    Piece.blockAt c o.title (a + 1) o.line
        (o.optionLines ++ o.separator.toList ++ (i.source ++ cl.line :: below))
        (o.optionLines ++ o.separator.toList).length i.source.length =
      Node.block ⟨o, i, some cl⟩ c cl i.source := by
  have hhead := ho.length_head
  have hbody := hi.length_source
  rw [Opening.head, List.length_cons] at hhead
  have hend : a + 1 + (o.optionLines ++ o.separator.toList).length + i.source.length + 1 =
      cl.lineno := by
    rw [hcl.lineno]
    omega
  have htake : (o.optionLines ++ o.separator.toList ++ (i.source ++ cl.line :: below)).take
        ((o.optionLines ++ o.separator.toList).length + i.source.length + 1) =
      o.optionLines ++ o.separator.toList ++ (i.source ++ [cl.line]) := by
    rw [Nat.add_assoc, List.take_length_add_append, List.take_length_add_append]
    rfl
  unfold Piece.blockAt Piece.optionLines Node.block Node.source
  rw [htake, hend, List.take_left, List.drop_left, List.take_left, ho.wellFormed.dropLast_section,
    ho.optionsLineno_eq, ho.lineno]
  simp [Opening.head]

theorem Lies.read_closed {e : Nat} {o : Opening} {i : Forest} {cl : Closing} (ho : o.LiesAt ls a)
    (hi : Lies ls .closed (bodyStart ls a) i e) (hcl : cl.LiesAt ls e)
    (hc : o.component? = some c) (hnodes : i.nodes = []) :
    Piece.read c (a + 1) (ls.drop a) =
      .block (Node.block ⟨o, i, some cl⟩ c cl i.source) ::
        Piece.read c (e + 1 + 1) (ls.drop (e + 1)) := by
  obtain ⟨hopener, hrest⟩ := ho.lines_eq
  have hsection := ho.length_section hc
  have hbelow : ls.drop (bodyStart ls a) = i.source ++ cl.line :: ls.drop (e + 1) := by
    rw [hi.drop_eq, Token.drop_eq_cons hcl.line]
  have hlines : ls.drop a = o.line :: (o.optionLines ++ o.separator.toList ++
      (i.source ++ cl.line :: ls.drop (e + 1))) := by
    rw [ho.drop_eq, hbelow]
    rfl
  have hnext : a + 1 + 1 + ((o.optionLines ++ o.separator.toList).length + i.source.length + 1) =
      e + 1 + 1 := by
    have hhead := ho.length_head
    have hbody := hi.length_source
    rw [Opening.head, List.length_cons] at hhead
    omega
  rw [hrest, hbelow] at hsection
  rw [hlines, Piece.read_blockAt (a + 1) hopener (Opening.component?_eq_some_iff.mp hc) hsection
    (hi.isCloser_eq_false (by decide) hnodes) hcl.closes, hi.blockAt_eq ho hcl, hnext]

theorem Lies.read_unclosed {o : Opening} {i : Forest} (ho : o.LiesAt ls a)
    (hi : Lies ls .unclosed (bodyStart ls a) i ls.length) (hc : o.component? = some c)
    (hnodes : i.nodes = []) :
    Piece.read c (a + 1) (ls.drop a) =
      .openEnd o.lineno o.line ::
        (o.optionLines ++ o.separator.toList ++ i.source).map .line := by
  obtain ⟨hopener, hrest⟩ := ho.lines_eq
  have hsection := ho.length_section hc
  have hbelow : ls.drop (bodyStart ls a) = i.source := by
    rw [hi.drop_eq, List.drop_length, List.append_nil]
  have hlines : ls.drop a = o.line :: (o.optionLines ++ o.separator.toList ++ i.source) := by
    rw [ho.drop_eq, hbelow]
    rfl
  rw [hrest, hbelow] at hsection
  rw [hlines, Piece.read_openEnd (a + 1) hopener (Opening.component?_eq_some_iff.mp hc) hsection
    (hi.isCloser_eq_false (by decide) hnodes), ho.lineno]

end Forest

/-! ## The pieces of a pass -/

/-- The pieces that the pass for a component finds in a block of it that holds no other block. -/
def Node.found (c : Component) (n : Node) : List Piece :=
  match n.closing with
  | some cl => [.block (n.block c cl n.inner.source)]
  | none => .openEnd n.opening.lineno n.opening.line ::
      (n.opening.optionLines ++ n.opening.separator.toList ++ n.inner.source).map .line

namespace Forest

variable {ls : List Text} {s : Surrounding} {a b : Nat} {f : Forest} {c : Component}

/-- The pieces that the pass for a component finds in a forest where no block of the component holds
another block. -/
def found (c : Component) : Forest → List Piece
  | nil => []
  | line _ t f => .line t :: f.found c
  | block o i cl f =>
    (if o.component? = some c then Node.found c ⟨o, i, cl⟩
    else o.head.map .line ++ i.found c ++ (Node.closer ⟨o, i, cl⟩).map .line) ++ f.found c

/-- No block of the component holds another block. -/
def Flat (c : Component) (f : Forest) : Prop :=
  ∀ n ∈ f.preorder, n.opening.component? = some c → n.inner.nodes = []

theorem Flat.block {o : Opening} {i : Forest} {cl : Option Closing} (h : (block o i cl f).Flat c) :
    (o.component? = some c → i.nodes = []) ∧ i.Flat c ∧ f.Flat c := by
  obtain ⟨hself, hrest⟩ := List.forall_mem_cons.mp h
  obtain ⟨hi, hf⟩ := List.forall_mem_append.mp hrest
  exact ⟨hself, hi, hf⟩

/-- The pass reads the lines of a forest as its pieces, and then goes on below. -/
theorem Lies.read_eq (h : Lies ls s a f b) (hflat : f.Flat c) :
    Piece.read c (a + 1) (ls.drop a) = f.found c ++ Piece.read c (b + 1) (ls.drop b) := by
  induction h with
  | nil => rfl
  | line ht ho _ _ ih =>
    rw [Token.drop_eq_cons ht, Piece.read_line (by simp [ho]), ih hflat]
    rfl
  | @closed s a b e o i f cl ho hi hcl hf ihi ihf =>
    obtain ⟨hself, hflati, hflatf⟩ := hflat.block
    by_cases hc : o.component? = some c
    · rw [hi.read_closed ho hcl hc (hself hc), ihf hflatf, found, if_pos hc]
      rfl
    · have hcloser : opener? cl.line = none := opener?_eq_none_of_isCloser hcl.closes
      have hstart : a + 1 + o.head.length = bodyStart ls a + 1 := by
        have := ho.length_head
        omega
      rw [ho.drop_eq, Piece.read_lines (ho.wellFormed.opener?_head hc), hstart, ihi hflati,
        Token.drop_eq_cons hcl.line, Piece.read_line (by simp [hcloser]), ihf hflatf, found, if_neg hc]
      simp [Node.closer]
  | @unclosed s a o i hs ho hi ihi =>
    obtain ⟨hself, hflati, -⟩ := hflat.block
    rw [List.drop_length, Piece.read_nil, List.append_nil]
    by_cases hc : o.component? = some c
    · rw [hi.read_unclosed ho hc (hself hc), found, if_pos hc, found, List.append_nil, Node.found]
    · have hstart : a + 1 + o.head.length = bodyStart ls a + 1 := by
        have := ho.length_head
        omega
      rw [ho.drop_eq, Piece.read_lines (ho.wellFormed.opener?_head hc), hstart, ihi hflati,
        List.drop_length, Piece.read_nil, found, if_neg hc, found]
      simp [Node.closer]

theorem read_ofText {t : Text} (h : (ofText t).Flat c) : Piece.ofText c t = (ofText t).found c := by
  have hread := (lies_ofText t).read_eq h
  rwa [List.drop_length, Piece.read_nil, List.append_nil] at hread

/-! ## Blocks and reports -/

theorem blocks_found (h : f.Flat c) :
    (f.found c).filterMap Piece.block? =
      (f.preorder.filter (·.opening.component? = some c)).filterMap
        fun n => n.closing.map fun cl => n.block c cl n.inner.source := by
  have hline := Piece.filterMap_map_line (g := Piece.block?) fun _ => rfl
  induction f with
  | nil => rfl
  | line n t f ih => exact ih h
  | block o i cl f ihi ihf =>
    obtain ⟨hself, hi, hf⟩ := h.block
    rw [found, List.filterMap_append, ihf hf, preorder, List.filter_cons, List.filter_append]
    by_cases hc : o.component? = some c
    · rw [if_pos hc, if_pos (by simpa using hc), preorder_eq_nil (hself hc)]
      cases cl with
      | some closing => rfl
      | none =>
        rw [Node.found, List.filterMap_cons_none rfl, hline]
        rfl
    · rw [if_neg hc, if_neg (by simpa using hc), List.filterMap_append, List.filterMap_append,
        hline, hline, ihi hi, List.filterMap_append]
      simp

/-- The report on an unterminated block. -/
def openReport (o : Opening) : Diagnostic :=
  ⟨trim o.line, .unterminatedBlock, some o.lineno, some o.keyword, none⟩

theorem filter_reports (c : Component) (f : Forest) :
    f.reports.filter (fun d => d.problem = .unterminatedBlock ∧ d.component = some c.keyword) =
      (f.unclosed.filter (·.component? = some c)).map openReport := by
  unfold reports
  rw [List.filter_append, List.filter_map, List.filter_map]
  have hstrays : f.strays.filter ((fun d : Diagnostic => decide (d.problem = .unterminatedBlock ∧
      d.component = some c.keyword)) ∘ fun e : Closing =>
        ⟨trim e.line, .strayCloser, some (e.lineno : Int), none, none⟩) = [] := by
    rw [List.filter_eq_nil_iff]
    intro e _
    simp
  rw [hstrays, List.map_nil, List.nil_append]
  refine congrArg (List.map openReport) (List.filter_congr fun o _ => ?_)
  simp [Opening.component?_eq_some_iff]

theorem reports_found (h : f.Flat c) :
    (f.found c).filterMap (Piece.report? c) =
      (f.unclosed.filter (·.component? = some c)).map openReport := by
  have hline := Piece.filterMap_map_line (g := Piece.report? c) fun _ => rfl
  induction f with
  | nil => rfl
  | line n t f ih => exact ih h
  | block o i cl f ihi ihf =>
    obtain ⟨hself, hi, hf⟩ := h.block
    rw [found, List.filterMap_append, ihf hf]
    by_cases hc : o.component? = some c
    · have hunclosed := unclosed_eq_nil_of_nodes (hself hc)
      rw [if_pos hc]
      cases cl with
      | some closing =>
        rw [unclosed, hunclosed]
        rfl
      | none =>
        have hreport : Piece.report? c (.openEnd o.lineno o.line) = some (openReport o) := by
          rw [openReport, Opening.component?_eq_some_iff.mp hc]
          rfl
        rw [Node.found, List.filterMap_cons_some hreport, hline, unclosed, hunclosed,
          List.nil_append, List.filter_cons_of_pos (by simpa using hc)]
        rfl
    · rw [if_neg hc, List.filterMap_append, List.filterMap_append, hline, hline, ihi hi,
        List.nil_append, List.append_nil, ← List.map_append, ← List.filter_append]
      cases cl with
      | some closing => rfl
      | none => rw [unclosed, List.filter_cons_of_neg (by simpa using hc)]

end Forest

/-- A pass reports at most one block: it stops there. -/
theorem Piece.length_reports_le_one (c : Component) (ls : List Text) : ∀ limit lineno skip,
    ((scan c limit lineno skip ls).filterMap (report? c)).length ≤ 1 := by
  induction ls with
  | nil => intros; exact Nat.zero_le 1
  | cons l rest ih =>
    intro limit lineno skip
    cases skip with
    | succ n => exact ih _ _ _
    | zero =>
      simp only [scan]
      split
      · exact ih _ _ _
      · split
        · exact ih _ _ _
        · rw [List.filterMap_cons, filterMap_map_line fun _ => rfl]
          exact le_refl 1

namespace Rendering

/-- When no block of a component holds another block, the pass finds the closed blocks of the forest
in document order, each with its body as written, and reports the unterminated block of the forest,
if there is one. -/
theorem findBlocks_eq_nodes (c : Component) (t : Text)
    (hflat : ∀ n ∈ (Forest.ofText t).preorder, n.opening.component? = some c → n.inner.nodes = []) :
    (findBlocks c t).1 =
        ((Forest.ofText t).preorder.filter (·.opening.component? = some c)).filterMap
          (fun n => n.closing.map fun cl => n.block c cl n.inner.source) ∧
      (findBlocks c t).2 = (Forest.ofText t).reports.filter
        (fun d => d.problem = .unterminatedBlock ∧ d.component = some c.keyword) ∧
      (findBlocks c t).2.length =
        if ∃ n ∈ (Forest.ofText t).preorder, n.opening.component? = some c ∧ n.closing = none
        then 1 else 0 := by
  have hread := Forest.read_ofText hflat
  have hreports : (findBlocks c t).2 =
      ((Forest.ofText t).unclosed.filter (·.component? = some c)).map Forest.openReport := by
    rw [findBlocks, hread]
    exact Forest.reports_found hflat
  refine ⟨?_, ?_, ?_⟩
  · rw [findBlocks, hread]
    exact Forest.blocks_found hflat
  · rw [hreports, Forest.filter_reports]
  · have hle : (findBlocks c t).2.length ≤ 1 := Piece.length_reports_le_one c _ _ _ _
    have hlength : (findBlocks c t).2.length =
        ((Forest.ofText t).unclosed.filter (·.component? = some c)).length := by
      rw [hreports, List.length_map]
    by_cases hopen : ∃ n ∈ (Forest.ofText t).preorder,
        n.opening.component? = some c ∧ n.closing = none
    · obtain ⟨n, hn, hc, hcl⟩ := hopen
      have hmem : n.opening ∈ (Forest.ofText t).unclosed.filter (·.component? = some c) :=
        List.mem_filter.mpr ⟨Forest.mem_unclosed_iff.mpr ⟨n, hn, rfl, hcl⟩, by simpa using hc⟩
      have hpos := List.length_pos_of_mem hmem
      rw [if_pos ⟨n, hn, hc, hcl⟩]
      omega
    · rw [if_neg hopen, hlength, List.length_eq_zero_iff, List.filter_eq_nil_iff]
      intro o ho hc
      obtain ⟨n, hn, rfl, hcl⟩ := Forest.mem_unclosed_iff.mp ho
      exact hopen ⟨n, hn, by simpa using hc, hcl⟩

theorem findBlocks_eq_nodes_col :
    let t : Text :=
      "/// row\n/// col | 6\none\n///\n/// video\n/// col\ntwo\n///\n///\n///\n" ++
        "/// accordion | A\n/// col\nthree"
    (∀ n ∈ (Forest.ofText t).preorder, n.opening.component? = some .col → n.inner.nodes = []) ∧
      (findBlocks .col t).1 =
        ((Forest.ofText t).preorder.filter (·.opening.component? = some .col)).filterMap
          (fun n => n.closing.map fun cl => n.block .col cl n.inner.source) ∧
      (findBlocks .col t).2.length = 1 := by
  intro t
  have hflat : ∀ n ∈ (Forest.ofText t).preorder,
      n.opening.component? = some .col → n.inner.nodes = [] := by decide +kernel
  obtain ⟨hblocks, -, hlength⟩ := findBlocks_eq_nodes .col t hflat
  exact ⟨hflat, hblocks, hlength.trans (if_pos (by decide +kernel))⟩

end Rendering

end BlockMarkup
