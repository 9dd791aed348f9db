import BlockMarkup.Proofs.Document.Returns
import BlockMarkup.Proofs.Rendering.Complete
import BlockMarkup.Proofs.Rendering.Numbering

/-!
# Returns in what is rendered

Whether the lines of a text end in returns changes nothing but the returns in what is rendered, by
either strategy, as long as no key is bare in front of a return (`Transpiler.text_unreturn`).

1. A block has the same options without returns, and shows the same content but for its returns
   (`Block.options_unreturn`, `Component.content_unreturn`). So its HTML loses its returns and nothing
   else, and lines of the HTML that end in returns have no bare keys either (`Block.html_unreturn`,
   `Block.Returned.html`).
2. By block structure the same holds of all that is rendered inside a block, by induction on the forest
   (`Forest.rendered_unreturn`).
3. A pass finds the same blocks but for their returns (`Piece.scan_unreturn`), and puts HTML in their
   place that is fit for the next pass (`Rendering.Unreturned.pass`).
-/

namespace BlockMarkup

open Text Marker Html Lexicon

/-! ## Options -/

theorem Returned.return_notMem_value {l key t : Text} (h : Returned l)
    (ht : Setting.ofLine? l = some (key, .text t)) : '\r' ∉ t := by
  rw [← h.ofLine?_unreturn] at ht
  exact fun hmem => return_notMem_unreturn l ((Setting.of_ofLine? ht).2 hmem)

theorem OptionReader.readLines_unreturn (r : OptionReader) {ls : List Text} (h : ∀ l ∈ ls, Returned l)
    (offset : Nat) (above : Options) :
    (r.readLines offset above (ls.map unreturn)).1 = (r.readLines offset above ls).1 := by
  induction ls generalizing offset above with
  | nil => rfl
  | cons l ls ih =>
    obtain ⟨hl, hls⟩ := List.forall_mem_cons.mp h
    simp only [List.map_cons, readLines, all_isBlank_unreturn, hl.ofLine?_unreturn]
    split
    · exact ih hls _ _
    · split
      · exact ih hls _ _
      · exact ih hls _ _

/-! ## Content -/

namespace Component

variable {c : Component} {o : Options} {body : Text}

theorem splitBadgeBody_unreturn (body : Text) :
    splitBadgeBody (unreturn body) =
      ((splitBadgeBody body).1.map unreturn, unreturn (splitBadgeBody body).2) := by
  unfold splitBadgeBody
  simp only [trim_unreturn, lines_unreturn, List.map_dropLast, List.getLastD_eq_getLast?,
    List.getLast?_map, Prod.mk.injEq, true_and]
  rw [← trim_unreturn]
  cases (lines (trim body)).getLast? <;> rfl

theorem content_unreturn (c : Component) (o : Options) (body : Text) :
    c.content o (unreturn body) = unreturn (c.content o body) := by
  cases c with
  | card | alert | callout => exact trim_unreturn body
  | tile =>
    simp only [content]
    split
    · rfl
    · exact trim_unreturn body
  | col | row | accordion =>
    simp only [content, onOwnLines, trim_unreturn, unreturn_append]
    rfl
  | badge =>
    simp only [content]
    rw [splitBadgeBody_unreturn]

theorem returnedWithin_content (h : ∀ l ∈ lines body, Returned l) : ReturnedWithin (c.content o body) := by
  have htrim := returnedWithin_trim h
  cases c with
  | card | alert | callout => exact htrim
  | tile =>
    show ReturnedWithin (if Link.announcesDownload o then Link.downloadDetail else trim body)
    split
    · exact returnedWithin_of_notMem (by decide)
    · exact htrim
  | col | row | accordion =>
    refine ⟨[] :: lines (trim body), [], lines_onOwnLines body, ?_, by simp⟩
    exact List.forall_mem_cons.mpr ⟨.of_notMem (by simp) (by simp), htrim.returned⟩
  | badge =>
    obtain ⟨l, hl, hlabel⟩ := splitBadgeBody_label body
    show ReturnedWithin (splitBadgeBody body).2
    rw [hlabel]
    exact returnedWithin_of_notMem (htrim.returned l hl).return_notMem_trim

end Component

/-! ## Blocks -/

namespace Block

/-- A block of a text that loses its returns. -/
def unreturn (b : Block) : Block :=
  { b with
    optionLines := b.optionLines.map Text.unreturn
    body := Text.unreturn b.body
    raw := Text.unreturn b.raw }

/-- The title has no returns, the lines below may end in them. -/
structure Returned (b : Block) : Prop where
  title_flat : '\n' ∉ b.title
  title : '\r' ∉ b.title
  optionLines : ∀ l ∈ b.optionLines, BlockMarkup.Returned l
  body : ∀ l ∈ lines b.body, BlockMarkup.Returned l

variable {b : Block} {pictograms : Text}

theorem Returned.settingLines (h : b.Returned) : ∀ l ∈ b.settingLines.1, BlockMarkup.Returned l := by
  unfold Block.settingLines
  split
  · exact List.forall_mem_cons.mpr ⟨.of_notMem h.title_flat h.title, h.optionLines⟩
  · split
    · exact fun l hl => (returnedWithin_trim h.body).returned l ((List.dropLast_sublist _).subset hl)
    · simp
    · exact h.optionLines

theorem settingLines_unreturn (ht : '\r' ∉ b.title) :
    b.unreturn.settingLines.1 = b.settingLines.1.map Text.unreturn := by
  have hheader : b.unreturn.hasHeaderOption = b.hasHeaderOption := rfl
  have htitle : b.unreturn.title = Text.unreturn b.title := (unreturn_of_notMem ht).symm
  have hcomponent : b.unreturn.component = b.component := rfl
  unfold settingLines
  rw [hheader, hcomponent, htitle]
  split
  · rfl
  · split
    · exact congrArg Prod.fst (Component.splitBadgeBody_unreturn b.body)
    · rfl
    · rfl

theorem Returned.lines_settingLines (h : b.Returned) :
    ∀ l ∈ lines (unlines b.settingLines.1), BlockMarkup.Returned l := by
  refine returned_lines_unlines ?_
  rw [flatMap_lines_eq_self fun l hl => (h.settingLines l hl).flat]
  exact h.settingLines

theorem options_unreturn (h : b.Returned) : b.unreturn.options = b.options := by
  have hreader : OptionReader.Alike b.unreturn.reader b.reader := ⟨rfl, rfl⟩
  unfold options OptionReader.read
  rw [settingLines_unreturn h.title, ← unreturn_unlines, lines_unreturn,
    OptionReader.readLines_unreturn _ h.lines_settingLines]
  exact (hreader.readLines _ _ _).1

theorem Returned.written (h : b.Returned) (hp : '\r' ∉ pictograms) :
    b.Written (without '\r' rfl) pictograms b.options := by
  have htexts : b.options.Texts (without '\r' rfl).Admits :=
    b.reader.texts_read fun l hl key t ht =>
      admits_without.mpr ((h.lines_settingLines l hl).return_notMem_value ht)
  exact ⟨admits_without.mpr hp, admits_without.mpr h.title, htexts,
    fun t ht => admits_without.mp (htexts.of_get? ht)⟩

/-- The content stands between two texts without returns, the first of which ends a tag. -/
theorem Returned.exists_between (h : b.Returned) (hp : '\r' ∉ pictograms) (number : Nat) :
    ∃ x y, '\r' ∉ x ∧ '\r' ∉ y ∧
      ∀ body, ({ b with body := body } : Block).htmlWith pictograms number b.options =
        x ++ '>' :: (b.component.content b.options body ++ y) := by
  obtain ⟨x, y, hxy, hbody⟩ := (h.written hp).exists_between (without_keeps rfl (by decide)) number
  refine ⟨'<' :: x, '<' :: y, ?_, ?_, hbody⟩
  · rw [List.mem_cons, not_or]
    exact ⟨by decide, fun hmem => hxy _ (List.mem_append_left _ hmem) rfl⟩
  · rw [List.mem_cons, not_or]
    exact ⟨by decide, fun hmem => hxy _ (List.mem_append_right _ hmem) rfl⟩

theorem html_unreturn (h : b.Returned) (hp : '\r' ∉ pictograms) (number : Nat) :
    b.unreturn.html pictograms number = Text.unreturn (b.html pictograms number) := by
  obtain ⟨x, y, hx, hy, hbody⟩ := h.exists_between hp number
  have hself : b.html pictograms number =
      x ++ '>' :: (b.component.content b.options b.body ++ y) := hbody b.body
  have hother : b.unreturn.htmlWith pictograms number b.options =
      x ++ '>' :: (b.component.content b.options (Text.unreturn b.body) ++ y) :=
    hbody (Text.unreturn b.body)
  rw [html, options_unreturn h, hother, hself, unreturn_append, unreturn_cons (by decide),
    unreturn_append, unreturn_of_notMem hx, unreturn_of_notMem hy, Component.content_unreturn]

theorem Returned.html (h : b.Returned) (hp : '\r' ∉ pictograms) (number : Nat) :
    ∀ l ∈ lines (b.html pictograms number), BlockMarkup.Returned l := by
  obtain ⟨x, y, hx, hy, hbody⟩ := h.exists_between hp number
  have hself : b.html pictograms number =
      x ++ '>' :: (b.component.content b.options b.body ++ y) := hbody b.body
  rw [hself]
  exact (Component.returnedWithin_content h.body).returned_between hx hy

end Block

/-! ## Forests -/

theorem Opening.head_unreturn (o : Opening) : o.unreturn.head = o.head.map Text.unreturn := by
  cases h : o.separator <;> simp [Opening.head, Opening.unreturn, h]

namespace Node

/-- A node of a text that loses its returns. -/
def unreturn (n : Node) : Node :=
  ⟨n.opening.unreturn, Relabeling.unreturn.forest n.inner, n.closing.map Relabeling.unreturn.closing⟩

/-- The title has no returns, the lines of the markers may end in them. -/
structure Returned (n : Node) : Prop where
  opening : n.opening.WellFormed
  head : ∀ l ∈ n.opening.head, BlockMarkup.Returned l
  closer : ∀ l ∈ n.closer, BlockMarkup.Returned l

variable {n : Node} {inside : List Text} {pictograms : Text}

theorem around_unreturn (n : Node) (inside : List Text) :
    n.unreturn.around (inside.map Text.unreturn) = Text.unreturn (n.around inside) := by
  have hcloser : n.unreturn.closer = n.closer.map Text.unreturn := by
    unfold closer unreturn
    cases n.closing <;> rfl
  have hhead : n.unreturn.opening.head = n.opening.head.map Text.unreturn := n.opening.head_unreturn
  unfold around
  rw [hhead, hcloser, unreturn_unlines, List.map_append, List.map_append]

theorem draws_unreturn (n : Node) : n.unreturn.draws = n.draws := by
  unfold draws unreturn
  rw [Option.isSome_map]
  rfl

theorem drawn_unreturn (n : Node) : n.unreturn.drawn = n.drawn := by
  unfold drawn
  rw [draws_unreturn]

theorem Returned.block (h : n.Returned) (hinside : ∀ l ∈ inside.flatMap lines, BlockMarkup.Returned l)
    (c : Component) (cl : Closing) : (n.block c cl inside).Returned where
  title_flat := h.opening.newline_notMem_title
  title := (h.head n.opening.line List.mem_cons_self).return_notMem_header h.opening.opener
  optionLines l hl := h.head l (List.mem_cons_of_mem _ (List.mem_append_left _ hl))
  body := returned_lines_unlines hinside

theorem Returned.html (h : n.Returned) (hinside : ∀ l ∈ inside.flatMap lines, BlockMarkup.Returned l)
    (hp : '\r' ∉ pictograms) (k : Nat) :
    ∀ l ∈ lines (n.html (fun _ => true) pictograms k inside), BlockMarkup.Returned l := by
  unfold Node.html
  split
  · exact (h.block hinside _ _).html hp _
  · rw [lines_around, List.flatMap_append, List.flatMap_append,
      flatMap_lines_eq_self fun l hl => (h.head l hl).flat,
      flatMap_lines_eq_self fun l hl => (h.closer l hl).flat]
    simp only [List.forall_mem_append]
    exact ⟨⟨h.head, hinside⟩, h.closer⟩

theorem html_unreturn (h : n.Returned) (hinside : ∀ l ∈ inside.flatMap lines, BlockMarkup.Returned l)
    (hp : '\r' ∉ pictograms) (k : Nat) :
    n.unreturn.html (fun _ => true) pictograms k (inside.map Text.unreturn) =
      Text.unreturn (n.html (fun _ => true) pictograms k inside) := by
  have hnumber : n.unreturn.number? k = n.number? k := by
    unfold number?
    rw [draws_unreturn]
  have hcomponent : n.unreturn.opening.component? = n.opening.component? := rfl
  unfold Node.html
  rw [hcomponent, around_unreturn, hnumber, show n.unreturn.closing = n.closing.map _ from rfl]
  cases hcl : n.closing with
  | none => rfl
  | some cl =>
    cases n.opening.component? with
    | none => rfl
    | some c =>
      have halike : Block.Alike
          (n.unreturn.block c (Relabeling.unreturn.closing cl) (inside.map Text.unreturn))
          (n.block c cl inside).unreturn := ⟨rfl, rfl, rfl, (unreturn_unlines inside).symm⟩
      simp only [Option.map_some, if_true]
      rw [halike.html_eq, Block.html_unreturn (h.block hinside c cl) hp]

end Node

namespace Forest

variable {f : Forest} {pictograms t : Text}

theorem accordions_unreturn (f : Forest) : (Relabeling.unreturn.forest f).accordions = f.accordions := by
  induction f with
  | nil => rfl
  | line n t f ih => exact ih
  | block o i cl f ihi ihf =>
    have hdrawn : Node.drawn ⟨o.unreturn, _, cl.map Relabeling.unreturn.closing⟩ = Node.drawn ⟨o, i, cl⟩ :=
      Node.drawn_unreturn ⟨o, i, cl⟩
    simp only [Relabeling.forest, accordions, ihi, ihf]
    rw [← hdrawn]
    rfl

/-- The lines may end in returns, and the openers are well-formed. -/
structure Returned (f : Forest) : Prop where
  source : ∀ l ∈ f.source, BlockMarkup.Returned l
  openings : ∀ n ∈ f.preorder, n.opening.WellFormed

theorem Returned.block {o : Opening} {i : Forest} {cl : Option Closing}
    (h : (Forest.block o i cl f).Returned) : (⟨o, i, cl⟩ : Node).Returned ∧ i.Returned ∧ f.Returned := by
  obtain ⟨hsource, hopenings⟩ := h
  simp only [Forest.source, List.forall_mem_append] at hsource
  obtain ⟨hself, hopenings⟩ := List.forall_mem_cons.mp hopenings
  obtain ⟨hi, hf⟩ := List.forall_mem_append.mp hopenings
  obtain ⟨⟨⟨hhead, hinner⟩, hcloser⟩, hrest⟩ := hsource
  exact ⟨⟨hself, hhead, hcloser⟩, ⟨hinner, hi⟩, ⟨hrest, hf⟩⟩

theorem returned_ofText (h : ∀ l ∈ lines t, BlockMarkup.Returned l) : (ofText t).Returned := by
  refine ⟨fun l hl => h l ?_, fun n hn => wellFormed_of_mem_preorder hn⟩
  rwa [source_ofText] at hl

theorem Returned.rendered (h : f.Returned) (hp : '\r' ∉ pictograms) (k : Nat) :
    ∀ l ∈ (f.rendered (fun _ => true) pictograms k).flatMap lines, BlockMarkup.Returned l := by
  induction f generalizing k with
  | nil => simp [Forest.rendered]
  | line n t f ih =>
    obtain ⟨ht, hsource⟩ := List.forall_mem_cons.mp h.source
    exact ht.flatMap_lines_cons (ih ⟨hsource, h.openings⟩ k)
  | block o i cl f ihi ihf =>
    obtain ⟨hnode, hi, hf⟩ := h.block
    rw [Forest.rendered, List.flatMap_cons, List.forall_mem_append]
    exact ⟨hnode.html (ihi hi _) hp k, ihf hf _⟩

/-- All that is rendered from a forest loses its returns with it. -/
theorem rendered_unreturn (h : f.Returned) (hp : '\r' ∉ pictograms) (k : Nat) :
    (Relabeling.unreturn.forest f).rendered (fun _ => true) pictograms k =
      (f.rendered (fun _ => true) pictograms k).map Text.unreturn := by
  induction f generalizing k with
  | nil => rfl
  | line n t f ih =>
    obtain ⟨-, hsource⟩ := List.forall_mem_cons.mp h.source
    rw [Forest.rendered, List.map_cons, ← ih ⟨hsource, h.openings⟩ k]
    rfl
  | block o i cl f ihi ihf =>
    obtain ⟨hnode, hi, hf⟩ := h.block
    have hself : (⟨o.unreturn, Relabeling.unreturn.forest i, cl.map Relabeling.unreturn.closing⟩ : Node) =
        Node.unreturn ⟨o, i, cl⟩ := rfl
    rw [Forest.rendered, List.map_cons, ← Node.html_unreturn hnode (hi.rendered hp _) hp, ← ihi hi,
      ← ihf hf]
    show Forest.rendered _ _ (Forest.block o.unreturn _ _ _) k = _
    rw [Forest.rendered, hself, Node.drawn_unreturn, accordions_unreturn]

end Forest

/-! ## Passes -/

namespace Context

/-- Contexts that render alike, whatever was reported in them. -/
structure Alike (ctx ctx' : Context) : Prop where
  pictograms : ctx.pictograms = ctx'.pictograms
  accordions : ctx.accordions = ctx'.accordions

variable {ctx ctx' : Context} {b : Block}

theorem Alike.numberFor (h : Alike ctx ctx') {b' : Block} (hb : b.component = b'.component)
    (number : Option Nat) : (ctx.numberFor b number).1 = (ctx'.numberFor b' number).1 ∧
      Alike (ctx.numberFor b number).2 (ctx'.numberFor b' number).2 := by
  unfold Context.numberFor
  cases number with
  | some n => exact ⟨rfl, h⟩
  | none =>
    simp only [hb]
    split
    · exact ⟨congrArg (· + 1) h.accordions, h.pictograms, congrArg (· + 1) h.accordions⟩
    · exact ⟨rfl, h⟩

theorem Alike.hand_unreturn (h : Alike ctx' ctx) (hb : b.Returned) (hp : '\r' ∉ ctx.pictograms)
    (number : Option Nat) :
    (ctx'.hand b.unreturn number).1 = unreturn (ctx.hand b number).1 ∧
      Alike (ctx'.hand b.unreturn number).2 (ctx.hand b number).2 := by
  have hcomponent : b.unreturn.component = b.component := rfl
  obtain ⟨hnumber, hpictograms, haccordions⟩ := h.numberFor hcomponent number
  have hplace : (ctx.numberFor b number).2.pictograms = ctx.pictograms := ctx.hand_pictograms b number
  refine ⟨?_, hpictograms, haccordions⟩
  show b.unreturn.html (ctx'.numberFor b.unreturn number).2.pictograms
      (ctx'.numberFor b.unreturn number).1 = _
  rw [hnumber, hpictograms, Block.html_unreturn hb (hplace ▸ hp)]
  rfl

theorem returned_hand (hb : b.Returned) (hp : '\r' ∉ ctx.pictograms) (number : Option Nat) :
    ∀ l ∈ lines (ctx.hand b number).1, Returned l := by
  have hplace : (ctx.numberFor b number).2.pictograms = ctx.pictograms := ctx.hand_pictograms b number
  exact hb.html (hplace ▸ hp) _

end Context

namespace Piece

variable {c : Component} {ls : List Text}

/-- A piece of a text that loses its returns. -/
def unreturn : Piece → Piece
  | line t => line t.unreturn
  | block b => block b.unreturn
  | openEnd n l => openEnd n l.unreturn

/-- The lines of the piece may end in returns. -/
def Returned : Piece → Prop
  | line t => BlockMarkup.Returned t
  | block b => b.Returned
  | openEnd _ l => BlockMarkup.Returned l

theorem blockAt_unreturn (c : Component) (header : Text) (lineno : Nat) (l : Text) (rest : List Text)
    (size length : Nat) :
    blockAt c header lineno l.unreturn (rest.map Text.unreturn) size length =
      (blockAt c header lineno l rest size length).unreturn := by
  simp only [blockAt, Block.unreturn, optionLines, unreturn_unlines, List.map_cons, List.map_take,
    List.map_drop, List.map_dropLast]

theorem scan_unreturn (h : ∀ l ∈ ls, BlockMarkup.Returned l) (limit lineno skip : Nat) :
    scan c limit lineno skip (ls.map Text.unreturn) = (scan c limit lineno skip ls).map unreturn := by
  induction ls generalizing limit lineno skip with
  | nil => rfl
  | cons l rest ih =>
    obtain ⟨hl, hrest⟩ := List.forall_mem_cons.mp h
    rw [List.map_cons]
    cases skip with
    | succ n => rw [scan, ih hrest, scan]
    | zero =>
      have hbody : ∀ size, ((rest.map Text.unreturn).drop size).takeWhile (!isCloser ·) =
          ((rest.drop size).takeWhile (!isCloser ·)).map Text.unreturn := by
        intro size
        rw [← List.map_drop]
        exact takeWhile_unreturn fun l hl => by rw [(hrest l (List.mem_of_mem_drop hl)).isCloser_unreturn]
      simp only [scan, hl.opener?_unreturn, OptionSection.length_unreturn c _ hrest, hbody,
        List.length_map, blockAt_unreturn, ih hrest]
      split
      · rfl
      · split
        · rfl
        · simp only [List.map_cons, List.map_map]
          rfl

theorem returned_blockAt {header l : Text} {rest : List Text} (hflat : '\n' ∉ header)
    (hheader : '\r' ∉ header) (hrest : ∀ l ∈ rest, BlockMarkup.Returned l) (lineno size length : Nat) :
    (blockAt c header lineno l rest size length).Returned where
  title_flat := hflat
  title := hheader
  optionLines m hm := hrest m (List.mem_of_mem_take ((List.dropLast_sublist _).subset hm))
  body := by
    have hbody : ∀ m ∈ (rest.drop size).take length, BlockMarkup.Returned m := fun m hm =>
      hrest m (List.mem_of_mem_drop (List.mem_of_mem_take hm))
    refine returned_lines_unlines ?_
    rwa [flatMap_lines_eq_self fun m hm => (hbody m hm).flat]

theorem returned_scan (h : ∀ l ∈ ls, BlockMarkup.Returned l) (limit lineno skip : Nat) :
    ∀ p ∈ scan c limit lineno skip ls, p.Returned := by
  induction ls generalizing limit lineno skip with
  | nil => exact List.forall_mem_nil _
  | cons l rest ih =>
    obtain ⟨hl, hrest⟩ := List.forall_mem_cons.mp h
    cases skip with
    | succ n => exact ih hrest _ _ _
    | zero =>
      simp only [scan]
      split
      · exact List.forall_mem_cons.mpr ⟨hl, ih hrest _ _ _⟩
      · next m hm =>
        have hopener : opener? l = some m := Option.eq_some_of_filter_eq_some hm
        split
        · refine List.forall_mem_cons.mpr ⟨?_, ih hrest _ _ _⟩
          exact returned_blockAt (newline_notMem_header hopener) (hl.return_notMem_header hopener) hrest
            _ _ _
        · refine List.forall_mem_cons.mpr ⟨hl, List.forall_mem_map.mpr hrest⟩

theorem ofText_unreturn {t : Text} (h : ∀ l ∈ lines t, BlockMarkup.Returned l) (c : Component) :
    ofText c (Text.unreturn t) = (ofText c t).map unreturn := by
  simp only [ofText, lines_unreturn, lastCloser?_unreturn h, scan_unreturn h]

end Piece

namespace Rendering

variable {t t' : Text} {ctx ctx' : Context} {s s' : Text × Context}

theorem pieces_unreturn {ps : List Piece} (h : ∀ p ∈ ps, p.Returned) (halike : ctx'.Alike ctx)
    (hp : '\r' ∉ ctx.pictograms) :
    (pieces (ps.map Piece.unreturn) ctx').1 = (pieces ps ctx).1.map unreturn ∧
      (pieces (ps.map Piece.unreturn) ctx').2.Alike (pieces ps ctx).2 := by
  induction ps generalizing ctx ctx' with
  | nil => exact ⟨rfl, halike⟩
  | cons p ps ih =>
    obtain ⟨hpiece, hps⟩ := List.forall_mem_cons.mp h
    cases p with
    | line t =>
      obtain ⟨htexts, hrest⟩ := ih hps halike hp
      exact ⟨congrArg (t.unreturn :: ·) htexts, hrest⟩
    | openEnd n l =>
      obtain ⟨htexts, hrest⟩ := ih hps halike hp
      exact ⟨congrArg (l.unreturn :: ·) htexts, hrest⟩
    | block b =>
      obtain ⟨htext, hnext⟩ := halike.hand_unreturn hpiece hp none
      have hp' : '\r' ∉ (ctx.hand b none).2.pictograms := ctx.hand_pictograms b none ▸ hp
      obtain ⟨htexts, hrest⟩ := ih hps hnext hp'
      exact ⟨congrArg₂ List.cons htext htexts, hrest⟩

theorem returned_pieces {ps : List Piece} (h : ∀ p ∈ ps, p.Returned) (hp : '\r' ∉ ctx.pictograms) :
    ∀ l ∈ (pieces ps ctx).1.flatMap lines, Returned l := by
  induction ps generalizing ctx with
  | nil => exact List.forall_mem_nil _
  | cons p ps ih =>
    obtain ⟨hpiece, hps⟩ := List.forall_mem_cons.mp h
    cases p with
    | line | openEnd => exact Returned.flatMap_lines_cons hpiece (ih hps hp)
    | block b =>
      have hp' : '\r' ∉ (ctx.hand b none).2.pictograms := ctx.hand_pictograms b none ▸ hp
      exact List.forall_mem_append.mpr ⟨Context.returned_hand hpiece hp none, ih hps hp'⟩

/-- The second state is the first one without the returns in its text. -/
structure Unreturned (s s' : Text × Context) : Prop where
  lines : ∀ l ∈ lines s.1, Returned l
  text : s'.1 = unreturn s.1
  alike : s'.2.Alike s.2
  pictograms : '\r' ∉ s.2.pictograms

theorem Unreturned.pass (h : Unreturned s s') (c : Component) :
    Unreturned (pass s c) (pass s' c) := by
  obtain ⟨t, ctx⟩ := s
  obtain ⟨t', ctx'⟩ := s'
  obtain ⟨hlines, rfl, halike, hp⟩ := h
  have hfound : ∀ p ∈ Piece.ofText c t, p.Returned := Piece.returned_scan hlines _ _ _
  have hreport : ∀ ds ds', (ctx'.report ds').Alike (ctx.report ds) := fun _ _ =>
    ⟨halike.pictograms, halike.accordions⟩
  obtain ⟨htexts, hrest⟩ := pieces_unreturn hfound (hreport _ _) hp
  refine ⟨returned_lines_unlines (returned_pieces hfound hp), ?_, ?_, ?_⟩
  · simp only [Rendering.pass, Piece.ofText_unreturn hlines]
    rw [htexts, unreturn_unlines]
  · simp only [Rendering.pass, Piece.ofText_unreturn hlines]
    exact hrest
  · rw [pass_pictograms]
    exact hp

theorem Unreturned.passes (h : Unreturned (t, ctx) (t', ctx')) :
    Unreturned (passes t ctx) (passes t' ctx') := by
  unfold Rendering.passes
  exact List.foldl_rel h fun c _ _ _ h => h.pass c

end Rendering

/-! ## Texts -/

namespace Transpiler

variable {p : Transpiler} {t : Text}

/-- A text without its returns is transpiled to the same text without returns. -/
theorem text_unreturn (hp : '\r' ∉ p.pictograms) (ht : ∀ l ∈ lines t, Returned l) :
    (p.transpile (unreturn t)).text = unreturn (p.transpile t).text := by
  obtain ⟨strategy, pictograms, separator⟩ := p
  cases strategy with
  | nested =>
    rw [text_nested, text_nested, Forest.ofText_unreturn ht,
      Forest.rendered_unreturn (Forest.returned_ofText ht) hp, unreturn_unlines]
  | passes =>
    have hstart : Rendering.Unreturned (t, .start pictograms) (unreturn t, .start pictograms) :=
      ⟨ht, rfl, ⟨rfl, rfl⟩, hp⟩
    rw [text_passes, text_passes]
    exact hstart.passes.text

theorem returned_lines_crlf (h : '\r' ∉ t) (hbare : ∀ l ∈ (lines t).dropLast, Setting.isBare l = false) :
    ∀ l ∈ lines (crlf t), Returned l := by
  have hlines : ∀ l ∈ lines t, '\n' ∉ l ∧ '\r' ∉ l := fun l hl =>
    ⟨newline_notMem_of_mem_lines hl, fun hmem => h (mem_of_mem_splitWhen hl hmem)⟩
  rw [lines_crlf, List.forall_mem_append, List.forall_mem_map, List.forall_mem_singleton]
  constructor
  · intro l hl
    obtain ⟨hflat, hreturn⟩ := hlines l ((List.dropLast_sublist _).subset hl)
    exact .append_return hflat hreturn (hbare l hl)
  · obtain ⟨hflat, hreturn⟩ := hlines _ (List.getLast_mem (lines_ne_nil t))
    exact .of_notMem hflat hreturn

/-- A text whose line breaks are written with returns is transpiled to the same text but for returns,
unless a line with a line break behind it is a key without a value. -/
theorem text_crlf (hp : '\r' ∉ p.pictograms) (ht : '\r' ∉ t)
    (hbare : ∀ l ∈ (lines t).dropLast, Setting.isBare l = false) :
    unreturn (p.transpile (crlf t)).text = (p.transpile t).text := by
  have hreturned := returned_lines_crlf ht hbare
  rw [← text_unreturn hp hreturned, unreturn_crlf ht]

theorem text_crlf_badge :
    let t : Text := "/// card | T\ntarget: a\n///\nx y:\n\n/// badge\ntype: new\n label \n///\n///\ntarget:"
    '\r' ∉ t ∧ unreturn ((⟨.passes, "/p", "---"⟩ : Transpiler).transpile (crlf t)).text =
      ((⟨.passes, "/p", "---"⟩ : Transpiler).transpile t).text := by
  intro t
  have ht : '\r' ∉ t := by decide
  exact ⟨ht, text_crlf (by decide) ht (by decide)⟩

theorem not_text_crlf :
    ¬ ∀ (p : Transpiler) (t : Text), '\r' ∉ p.pictograms → '\r' ∉ t →
      unreturn (p.transpile (crlf t)).text = (p.transpile t).text := by
  intro h
  have heq := h ⟨.passes, Context.defaultPictograms, "---"⟩ "/// card | T\nmarkup:\n///\n///"
    (by decide) (by decide)
  rw [text_passes, text_passes] at heq
  revert heq
  decide +kernel

end Transpiler

end BlockMarkup
