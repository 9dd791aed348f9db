import BlockMarkup.Block
import BlockMarkup.Proofs.Entries
import BlockMarkup.Proofs.Html
import BlockMarkup.Proofs.Options.Setting

/-!
# The markup of blocks

A component puts its content into a frame that its title and options make, and that does not depend
on the body (`Block.exists_frame`). What a value of an option may hold is found in its line
(`Setting.of_ofLine?`). So every line of the HTML of a block is inert if those of its body are
(`Block.inert_html`).
-/

namespace BlockMarkup

open Text Marker Html

/-! ## Options -/

/-- Every text that is a value is of a kind. -/
def Options.Texts (P : Text → Prop) (o : Options) : Prop := ∀ e ∈ o.entries, ∀ t, e.2 = .text t → P t

namespace Options

variable {o : Options} {P Q : Text → Prop} {key fallback : Text}

theorem texts_empty : empty.Texts P := fun _ he => absurd he List.not_mem_nil

theorem Texts.of_get? {t : Text} (h : o.Texts P) (ht : o.get? key = some (.text t)) : P t := by
  obtain ⟨before, after, hentries, -⟩ := List.lookup_eq_some_iff.mp ht
  exact h (key, .text t) (by simp [hentries]) t rfl

theorem textD_of_get? (hf : P fallback) (h : ∀ t, o.get? key = some (.text t) → P t) :
    P (o.textD key fallback) := by
  unfold Options.textD
  split
  · next t ht => exact h t ht
  · exact hf

theorem Texts.textD (h : o.Texts P) (hf : P fallback) : P (o.textD key fallback) :=
  textD_of_get? hf fun _ => h.of_get?

theorem Texts.set {v : OptionValue} (h : o.Texts P) (hv : ∀ t, v = .text t → P t) :
    (o.set key v).Texts P := by
  intro e he
  rcases Entries.mem_put he with rfl | he
  · exact hv
  · exact h e he

end Options

namespace OptionReader

variable {P : Text → Prop} (r : OptionReader)

theorem texts_readLines {ls : List Text}
    (h : ∀ l ∈ ls, ∀ key t, Setting.ofLine? l = some (key, .text t) → P t) (offset : Nat) {o : Options}
    (ho : o.Texts P) : (r.readLines offset o ls).1.Texts P := by
  induction ls generalizing offset o with
  | nil => exact ho
  | cons l ls ih =>
    obtain ⟨hl, hls⟩ := List.forall_mem_cons.mp h
    rw [readLines]
    split
    · exact ih hls _ ho
    · split
      · exact ih hls _ ho
      · next key v hv =>
        refine ih hls _ (ho.set fun t ht => ?_)
        subst ht
        exact hl key t hv

theorem texts_read {t : Text}
    (h : ∀ l ∈ lines t, ∀ key u, Setting.ofLine? l = some (key, .text u) → P u) :
    (r.read t).1.Texts P :=
  r.texts_readLines h 0 Options.texts_empty

end OptionReader

/-! ## Parts of components -/

section Parts

variable {L : Lexicon} {o : Options} {t base : Text}

open Lexicon

theorem admits_slug (L : Lexicon) (t : Text) : L.Admits (slug t) := by
  refine admits_join (L.literal (by decide)) fun p hp => L.literal (List.all_eq_true.mpr fun c hc => ?_)
  have hslug := sep_eq_false_of_mem_splitWhen (List.mem_of_mem_filter hp) c hc
  have halphanum : c.isAlphanum = (c.isUpper || c.isLower || c.isDigit) := rfl
  rw [Bool.not_eq_false', isSlugChar, Bool.or_eq_true] at hslug
  rcases hslug with h | h <;> simp [isLiteral, halphanum, h]

theorem admits_of_mem_words (h : L.Admits t) {w : Text} (hw : w ∈ words t) : L.Admits w :=
  h.of_subset fun _ => mem_of_mem_splitWhen (List.mem_of_mem_filter hw)

theorem admits_of_mem_commaItems (h : L.Admits t) {u : Text} (hu : u ∈ commaItems t) : L.Admits u := by
  obtain ⟨p, hp, rfl⟩ := List.mem_map.mp (List.mem_of_mem_filter hu)
  exact h.of_subset fun _ hc => mem_of_mem_splitWhen hp (mem_of_mem_trim hc)

theorem admits_splitLabel {fallback : Text} (h : L.Admits t) (hf : L.Admits fallback) :
    L.Admits (splitLabel t fallback).1 ∧ L.Admits (splitLabel t fallback).2 := by
  have hpiece : ∀ p ∈ splitWhen (· == '|') t, L.Admits (trim p) := fun p hp =>
    h.of_subset fun _ hc => mem_of_mem_splitWhen hp (mem_of_mem_trim hc)
  unfold splitLabel
  split
  · next label modifier _ hs =>
    exact ⟨hpiece label (by simp [hs]), hf.ite (hpiece modifier (by simp [hs]))⟩
  · next label hs => exact ⟨hpiece label (by simp [hs]), hf⟩
  · exact ⟨L.admits_nil, hf⟩

theorem admitsAttributes_windowAttributes (L : Lexicon) (o : Options) (key : Text) :
    L.AdmitsAttributes (o.windowAttributes key) := by
  unfold Options.windowAttributes
  split
  · exact L.literalAttributes (by decide)
  · exact L.admitsAttributes_nil

theorem admits_leadingClasses (hbase : L.Admits base) (o : Options) :
    ∀ t ∈ Link.leadingClasses base o, L.Admits t := by
  simp only [Link.leadingClasses, List.forall_mem_cons]
  exact ⟨hbase, (L.literal (by decide)).ite L.admits_nil,
    (admits_variant hbase (L.literal (by decide))).ite L.admits_nil, List.forall_mem_nil _⟩

theorem built_pictogramLayer {href layer : Text} (hhref : L.Admits href) (hlayer : L.Admits layer) :
    L.Built (pictogramLayer href layer) := by
  have hclass : L.Admits ("fr-artwork-" ++ layer) :=
    admits_append.mpr ⟨L.literal (by decide), hlayer⟩
  have hlink : L.Admits (href ++ "#artwork-" ++ layer) :=
    admits_append.mpr ⟨admits_append.mpr ⟨hhref, L.literal (by decide)⟩, hlayer⟩
  exact .own (by decide) (.cons (by decide) hclass (.cons (by decide) hlink L.admitsAttributes_nil))
    L.built_nil

/-! ### Parts with options -/

section Options

variable (ho : o.Texts L.Admits)

include ho

theorem built_badge : L.Built (Link.badge o) := by
  have hvalue : L.Admits (o.textD "badge" []) := ho.textD L.admits_nil
  obtain ⟨hlabel, hmodifier⟩ := admits_splitLabel hvalue
    (L.literal (by decide) : L.Admits "info")
  have hclass : L.Admits ("fr-badge " ++ variant "fr-badge" _) :=
    admits_append.mpr ⟨L.literal (by decide), admits_variant (L.literal (by decide)) hmodifier⟩
  exact L.built_nil.ite (.own (by decide) (admitsAttributes_class hclass) (.text hlabel))

theorem admits_trailingClasses (hbase : L.Admits base) :
    ∀ t ∈ Link.trailingClasses base o, L.Admits t := by
  rw [Link.trailingClasses, List.forall_mem_cons]
  refine ⟨(admits_variant hbase (L.literal (by decide))).ite L.admits_nil, ?_⟩
  rw [List.forall_mem_map]
  exact fun u hu => admits_variant hbase (admits_of_mem_commaItems (ho.textD L.admits_nil) hu)

theorem built_title (hname : L.name (o.textD "markup" "h5")) (hbase : L.Admits base)
    (ht : L.Admits t) : L.Built (Link.title base t o) := by
  have hclass : L.Admits (base ++ "__title") := admits_append.mpr ⟨hbase, L.literal (by decide)⟩
  have hlink : L.AdmitsAttributes
      (("href", o.textD "target" []) :: o.windowAttributes "target_new") :=
    .cons (by decide) (ho.textD L.admits_nil) (admitsAttributes_windowAttributes L o _)
  exact .element hname (admitsAttributes_class hclass) (.own (by decide) hlink (.text ht))

theorem built_description (hbase : L.Admits base) : L.Built (Link.description base o) := by
  have hclass : L.Admits (base ++ "__desc") := admits_append.mpr ⟨hbase, L.literal (by decide)⟩
  exact L.built_nil.ite
    (.own (by decide) (admitsAttributes_class hclass) (.text (ho.textD L.admits_nil)))

theorem built_cardImage (ht : L.Admits t) : L.Built (cardImage t o) := by
  have himage : L.AdmitsAttributes [("src", o.textD "image" []), ("class", "fr-responsive-img"),
      ("alt", o.textD "image_alt" t)] :=
    .cons (by decide) (ho.textD L.admits_nil) (.cons (by decide) (L.literal (by decide))
      (.cons (by decide) (ho.textD ht) L.admitsAttributes_nil))
  exact L.built_nil.ite (.own (by decide) (L.literalAttributes (by decide))
    (.own (by decide) (L.literalAttributes (by decide)) (.image himage)))

theorem built_tilePictogram {pictograms : Text} (hp : L.Admits pictograms) :
    L.Built (tilePictogram pictograms o) := by
  have hdirectory : L.Admits (dropEndWhile (· == '/') pictograms) := by
    refine hp.of_subset fun c hc => ?_
    rw [dropEndWhile_eq, List.mem_reverse] at hc
    exact List.mem_reverse.mp ((List.dropWhile_sublist _).subset hc)
  have hhref : L.Admits
      (dropEndWhile (· == '/') pictograms ++ "/" ++ o.textD "picto" [] ++ ".svg") := by
    simp only [admits_append]
    exact ⟨⟨⟨hdirectory, L.literal (by decide)⟩, ho.textD L.admits_nil⟩, L.literal (by decide)⟩
  have hlayer : ∀ layer : Text, layer.all isLiteral → L.Built (pictogramLayer _ layer) :=
    fun layer h => built_pictogramLayer hhref (L.literal h)
  have hlayers : L.Built (pictogramLayer _ "decorative" ++ pictogramLayer _ "minor" ++
      pictogramLayer _ "major") :=
    ((hlayer "decorative" (by decide)).append (hlayer "minor" (by decide))).append
      (hlayer "major" (by decide))
  exact L.built_nil.ite (.own (by decide) (L.literalAttributes (by decide))
    (.own (by decide) (L.literalAttributes (by decide))
      (.own (by decide) (L.literalAttributes (by decide)) hlayers)))

theorem built_calloutLink : L.Built (calloutLink o) := by
  have hlink : L.AdmitsAttributes (("class", "fr-btn") :: ("href", o.textD "link_url" []) ::
      o.windowAttributes "link_newtab") :=
    .cons (by decide) (L.literal (by decide))
      (.cons (by decide) (ho.textD L.admits_nil) (admitsAttributes_windowAttributes L o _))
  exact L.built_nil.ite (.own (by decide) hlink (.text (ho.textD L.admits_nil)))

end Options

end Parts

/-! ## Content and frame -/

/-- What a component shows of a body. -/
def Component.content (c : Component) (o : Options) (body : Text) : Text :=
  match c with
  | .card | .alert | .callout => trim body
  | .tile => if Link.announcesDownload o then Link.downloadDetail else trim body
  | .col | .row | .accordion => onOwnLines body
  | .badge => (splitBadgeBody body).2

section Frames

variable {L : Lexicon} {o : Options} {title : Text}

open Lexicon

theorem exists_frame_col (ht : L.Admits title) :
    ∃ g, L.Frame g ∧ ∀ body, colHtml title body = g (onOwnLines body) := by
  have hwidths : ∀ t ∈ (words title).map fun t => ("fr-col-" : Text) ++ t, L.Admits t :=
    List.forall_mem_map.mpr fun w hw =>
      admits_append.mpr ⟨L.literal (by decide), admits_of_mem_words ht hw⟩
  have hclass : ∀ names : List Text, (∀ t ∈ names, L.Admits t) →
      L.Admits (classes (if names.isEmpty then ["fr-col"] else names)) := by
    intro names hnames
    split
    · exact admits_classes (List.forall_mem_singleton.mpr (L.literal (by decide)))
    · exact admits_classes hnames
  exact ⟨_, .aroundOwn (by decide) (admitsAttributes_class (hclass _ hwidths)), fun _ => rfl⟩

theorem exists_frame_accordion (ht : L.Admits title) (o : Options) (number : Nat) :
    ∃ g, L.Frame g ∧ ∀ body, accordionHtml title o body number = g (onOwnLines body) := by
  have hid : L.Admits ("accordion-" ++ ofNat number) :=
    admits_append.mpr ⟨L.literal (by decide), L.admits_ofNat number⟩
  refine ⟨_, .insideOwn (by decide) (L.literalAttributes (by decide))
    (.right ?button (.aroundOwn (by decide) ?fold)), fun _ => rfl⟩
  case button =>
    refine .own (by decide) (L.literalAttributes (by decide)) (.own (by decide) ?_ (.text ht))
    exact .cons (by decide) (L.literal (by decide)) (.cons (by decide)
      ((L.literal (by decide)).ite (L.literal (by decide)))
      (.cons (by decide) hid L.admitsAttributes_nil))
  case fold =>
    exact .cons (by decide) ((L.literal (by decide)).ite (L.literal (by decide)))
      (.cons (by decide) hid L.admitsAttributes_nil)

section Options

variable (ho : o.Texts L.Admits)

include ho

theorem admits_linkClasses {base : Text} (hbase : L.Admits base) {between : List Text}
    (hbetween : ∀ t ∈ between, L.Admits t) :
    L.Admits (classes (Link.leadingClasses base o ++ (between ++ Link.trailingClasses base o))) := by
  refine admits_classes ?_
  rw [List.forall_mem_append, List.forall_mem_append]
  exact ⟨admits_leadingClasses hbase o, hbetween, admits_trailingClasses ho hbase⟩

theorem exists_frame_card (hname : L.name (o.textD "markup" "h5")) (ht : L.Admits title) :
    ∃ g, L.Frame g ∧ ∀ body, cardHtml title o body = g (trim body) := by
  have hposition : L.Admits (if Component.cardPositions.contains (o.textD "horizontal_pos" []) then
      variant "fr-card" ("horizontal-" ++ o.textD "horizontal_pos" []) else []) :=
    (admits_variant (L.literal (by decide)) (admits_append.mpr
      ⟨L.literal (by decide), ho.textD L.admits_nil⟩)).ite L.admits_nil
  have hclasses := admits_linkClasses ho (L.literal (by decide) : L.Admits "fr-card")
    (List.forall_mem_singleton.mpr hposition)
  have hhead : L.Built (Link.title "fr-card" title o ++ Link.description "fr-card" o) :=
    (built_title ho hname (L.literal (by decide)) ht).append
      (built_description ho (L.literal (by decide)))
  have hdetail : L.Built (if Link.announcesDownload o then
      element "p" [("class", "fr-card__detail")] Link.downloadDetail else []) :=
    (Built.own (by decide) (L.literalAttributes (by decide))
      (.text (L.literal (by decide)))).ite L.built_nil
  have hfooter : L.Built (element "div" [("class", "fr-card__footer")] (Link.badge o)) :=
    .own (by decide) (L.literalAttributes (by decide)) (built_badge ho)
  have hparagraph : L.Frame (element "p" [("class", "fr-card__desc")]) :=
    .aroundOwn (by decide) (L.literalAttributes (by decide))
  exact ⟨_, .insideOwn (by decide) (admitsAttributes_class hclasses) (.right (built_cardImage ho ht)
    (.insideOwn (by decide) (L.literalAttributes (by decide)) (.left
      (.insideOwn (by decide) (L.literalAttributes (by decide)) (.left (.right hhead hparagraph) hdetail))
      hfooter))), fun _ => rfl⟩

theorem exists_frame_tile {pictograms : Text} (hname : L.name (o.textD "markup" "h5"))
    (hp : L.Admits pictograms) (ht : L.Admits title) :
    ∃ g, L.Frame g ∧ ∀ body,
      tileHtml pictograms title o body = g (Component.tile.content o body) := by
  have hclasses := admits_linkClasses ho (L.literal (by decide) : L.Admits "fr-tile")
    (List.forall_mem_nil _)
  have hhead : L.Built (Link.title "fr-tile" title o ++ Link.description "fr-tile" o) :=
    (built_title ho hname (L.literal (by decide)) ht).append
      (built_description ho (L.literal (by decide)))
  have hdetail : L.Frame (element "p" [("class", "fr-tile__detail")]) :=
    .aroundOwn (by decide) (L.literalAttributes (by decide))
  exact ⟨_, .insideOwn (by decide) (admitsAttributes_class hclasses) (.left (.left
    (.insideOwn (by decide) (L.literalAttributes (by decide))
      (.insideOwn (by decide) (L.literalAttributes (by decide)) (.right hhead hdetail)))
    (built_tilePictogram ho hp)) (built_badge ho)), fun _ => rfl⟩

theorem exists_frame_alert (hname : L.name (o.textD "markup" "h5")) (ht : L.Admits title) :
    ∃ g, L.Frame g ∧ ∀ body, alertHtml title o body = g (trim body) := by
  have hclass : L.Admits ("fr-alert " ++ variant "fr-alert" (o.textD "type" "info")) :=
    admits_append.mpr ⟨L.literal (by decide),
      admits_variant (L.literal (by decide)) (ho.textD (L.literal (by decide)))⟩
  have htitle : L.Built (element (o.textD "markup" "h5")
      [("class", "fr-alert__title"), ("id", slug title)] title) :=
    .element hname (.cons (by decide) (L.literal (by decide))
      (.cons (by decide) (admits_slug L title) L.admitsAttributes_nil)) (.text ht)
  exact ⟨_, .insideOwn (by decide) (admitsAttributes_class hclass)
    (.right htitle (.aroundOwn (by decide) L.admitsAttributes_nil)), fun _ => rfl⟩

theorem exists_frame_callout (hname : L.name (o.textD "markup" "p")) (ht : L.Admits title) :
    ∃ g, L.Frame g ∧ ∀ body, calloutHtml title o body = g (trim body) := by
  have hclasses : L.Admits
      (classes ["fr-callout", variant? "fr-callout" (o.textD "color" [])]) := by
    refine admits_classes ?_
    simp only [List.forall_mem_cons]
    exact ⟨L.literal (by decide), admits_variant? (L.literal (by decide)) (ho.textD L.admits_nil),
      List.forall_mem_nil _⟩
  have hicon : L.Built (if (o.textD "icon" []).isEmpty then [] else element "span"
      [("class", "fr-icon-" ++ o.textD "icon" []), ("aria-hidden", "true")] []) :=
    L.built_nil.ite (.own (by decide) (.cons (by decide)
      (admits_append.mpr ⟨L.literal (by decide), ho.textD L.admits_nil⟩)
      (L.literalAttributes (by decide))) L.built_nil)
  have htitle : L.Built (element (o.textD "markup" "p") [("class", "fr-callout__title")] _) :=
    .element hname (L.literalAttributes (by decide)) (hicon.append (.text ht))
  have htext : L.Frame (element "p" [("class", "fr-callout__text")]) :=
    .aroundOwn (by decide) (L.literalAttributes (by decide))
  exact ⟨_, .insideOwn (by decide) (admitsAttributes_class hclasses)
    (.left (.right htitle htext) (built_calloutLink ho)), fun _ => rfl⟩

theorem exists_frame_row (ht : L.Admits title) :
    ∃ g, L.Frame g ∧ ∀ body, rowHtml title o body = g (onOwnLines body) := by
  have hclasses : L.Admits (classes ["fr-grid-row", trim title,
      variant? "fr-grid-row" (o.textD "halign" []), variant? "fr-grid-row" (o.textD "valign" [])]) := by
    refine admits_classes ?_
    simp only [List.forall_mem_cons]
    exact ⟨L.literal (by decide), ht.trim,
      admits_variant? (L.literal (by decide)) (ho.textD L.admits_nil),
      admits_variant? (L.literal (by decide)) (ho.textD L.admits_nil), List.forall_mem_nil _⟩
  exact ⟨_, .aroundOwn (by decide) (admitsAttributes_class hclasses), fun _ => rfl⟩

theorem frame_badge : L.Frame fun label => badgeHtml label o := by
  refine .aroundOwn (by decide) (admitsAttributes_class (admits_classes ?_))
  simp only [List.forall_mem_cons]
  exact ⟨L.literal (by decide), admits_variant? (L.literal (by decide)) (ho.textD L.admits_nil),
    admits_variant? (L.literal (by decide)) (ho.textD L.admits_nil),
    (L.literal (by decide)).ite L.admits_nil, List.forall_mem_nil _⟩

end Options

end Frames

/-- A label is a line of the body up to blanks. -/
theorem splitBadgeBody_label (body : Text) :
    ∃ l ∈ lines (trim body), (splitBadgeBody body).2 = trim l := by
  refine ⟨_, List.getLast_mem (lines_ne_nil (trim body)), ?_⟩
  show trim ((lines (trim body)).getLastD []) = _
  rw [List.getLastD_eq_getLast?, List.getLast?_eq_some_getLast (lines_ne_nil _), Option.getD_some]

theorem Component.inert_content {c : Component} {o : Options} {body : Text}
    (h : ∀ l ∈ lines body, Inert l) : ∀ l ∈ lines (c.content o body), Inert l := by
  have htrim : ∀ l ∈ lines (trim body), Inert l := inert_lines_trim h
  cases c with
  | card | alert | callout => exact htrim
  | tile =>
    show ∀ l ∈ lines (if Link.announcesDownload o then Link.downloadDetail else trim body), Inert l
    split
    · have hdetail : lines Link.downloadDetail = [Link.downloadDetail] := by decide
      rw [hdetail, List.forall_mem_singleton]
      exact ⟨by decide, by decide⟩
    · exact htrim
  | col | row | accordion => exact inert_lines_onOwnLines h
  | badge =>
    obtain ⟨l, hl, hlabel⟩ := splitBadgeBody_label body
    have hinert : Inert (trim l) := inert_trim (htrim l hl)
    show ∀ l ∈ lines (splitBadgeBody body).2, Inert l
    rw [hlabel, lines_eq_singleton hinert.flat, List.forall_mem_singleton]
    exact hinert

theorem Component.built_content {L : Lexicon} {c : Component} {o : Options} {body : Text}
    (hnewline : L.char '\n') (hbody : L.Built body) (hbadge : c = .badge → L.Admits body) :
    L.Built (c.content o body) := by
  cases c with
  | card | alert | callout => exact hbody.trim
  | tile => exact Lexicon.Built.ite (.text (L.literal (by decide))) hbody.trim
  | col | row | accordion =>
    have hbreak : L.Built ['\n'] := .text (List.forall_mem_singleton.mpr hnewline)
    exact (hbreak.append hbody.trim).append hbreak
  | badge =>
    obtain ⟨l, hl, hlabel⟩ := splitBadgeBody_label body
    have hline : L.Admits l := (hbadge rfl).trim.of_subset fun _ => mem_of_mem_splitWhen hl
    show L.Built (splitBadgeBody body).2
    rw [hlabel]
    exact .text hline.trim

/-! ## Blocks -/

namespace Block

variable {L : Lexicon} {b : Block} {o : Options} {pictograms : Text}

open Lexicon

/-- What a block writes around its content is in the lexicon. -/
structure Written (L : Lexicon) (pictograms : Text) (b : Block) (o : Options) : Prop where
  pictograms : L.Admits pictograms
  title : L.Admits b.title
  texts : o.Texts L.Admits
  markup : ∀ t, o.get? "markup" = some (.text t) → L.name t

/-- The body of a block goes into a frame. -/
theorem Written.exists_frame (h : b.Written L pictograms o) (number : Nat) :
    ∃ g, L.Frame g ∧ ∀ body, ({ b with body := body } : Block).htmlWith pictograms number o =
      g (b.component.content o body) := by
  have hname : ∀ fallback ∈ ownNames, L.name (o.textD "markup" fallback) := fun fallback hf =>
    Options.textD_of_get? (L.name_of_mem_ownNames fallback hf) h.markup
  obtain ⟨hp, ht, ho, -⟩ := h
  obtain ⟨c, title, optionLines, body, raw, lineno, endLineno, optionsLineno⟩ := b
  cases c with
  | card => exact exists_frame_card ho (hname "h5" (by decide)) ht
  | tile => exact exists_frame_tile ho (hname "h5" (by decide)) hp ht
  | col => exact exists_frame_col ht
  | row =>
    have hheader : ∀ body, hasHeaderOption
        ⟨.row, title, optionLines, body, raw, lineno, endLineno, optionsLineno⟩ = title.contains ':' :=
      fun _ => rfl
    simp only [htmlWith, hheader]
    exact exists_frame_row ho (L.admits_nil.ite ht)
  | alert => exact exists_frame_alert ho (hname "h5" (by decide)) ht
  | callout => exact exists_frame_callout ho (hname "p" (by decide)) ht
  | accordion => exact exists_frame_accordion ht o number
  | badge => exact ⟨_, frame_badge ho, fun _ => rfl⟩

theorem exists_htmlWith_eq_lt (b : Block) (o : Options) (pictograms : Text) (number : Nat) :
    ∃ s, b.htmlWith pictograms number o = '<' :: s := by
  unfold htmlWith
  split <;> exact ⟨_, rfl⟩

theorem exists_html_eq_lt (b : Block) (pictograms : Text) (number : Nat) :
    ∃ s, b.html pictograms number = '<' :: s := b.exists_htmlWith_eq_lt b.options pictograms number

theorem exists_htmlWith_eq_gt (b : Block) (o : Options) (pictograms : Text) (number : Nat) :
    ∃ s, b.htmlWith pictograms number o = s ++ ['>'] := by
  have helement : ∀ name as content, ∃ s, element name as content = s ++ ['>'] :=
    fun name as content => ⟨startTag name as ++ content ++ ("</" ++ name), by
      simp [element, endTag]⟩
  unfold htmlWith
  split <;> exact helement _ _ _

/-- A block whose HTML does not show what its body holds: of a badge only the label is left, and a tile
that announces a download says so instead. -/
def hidesContent (b : Block) : Bool :=
  b.component == .badge || b.component == .tile && Link.announcesDownload b.options

/-- All other blocks show their body trimmed. -/
theorem exists_html_eq_trim (h : b.hidesContent = false) (pictograms : Text) (number : Nat) :
    ∃ x y, b.html pictograms number = x ++ trim b.body ++ y := by
  have hwritten : b.Written full pictograms b.options :=
    ⟨admits_full _, admits_full _, fun _ _ _ _ => admits_full _, fun _ _ => trivial⟩
  obtain ⟨g, hg, hbody⟩ := hwritten.exists_frame number
  obtain ⟨x, y, hxy⟩ := hg.exists_eq
  have hhtml : b.html pictograms number =
      x ++ '>' :: (b.component.content b.options b.body ++ '<' :: y) := (hbody b.body).trans (hxy _)
  obtain ⟨v, w, hcontent⟩ :
      ∃ v w, b.component.content b.options b.body = v ++ trim b.body ++ w := by
    unfold hidesContent at h
    cases hc : b.component with
    | badge => simp [hc] at h
    | tile =>
      have hshown : Link.announcesDownload b.options = false := by simpa [hc] using h
      exact ⟨[], [], by simp [Component.content, hshown]⟩
    | card | alert | callout => exact ⟨[], [], by simp [Component.content]⟩
    | col | row | accordion => exact ⟨['\n'], ['\n'], rfl⟩
  exact ⟨x ++ '>' :: v, w ++ '<' :: y, by rw [hhtml, hcontent]; simp⟩

/-- The content stands between two texts that the body does not change. -/
theorem Written.exists_between (h : b.Written L pictograms o) {P : Char → Prop} (hP : L.Keeps P)
    (number : Nat) :
    ∃ x y, (∀ c ∈ x ++ y, P c) ∧
      ∀ body, ({ b with body := body } : Block).htmlWith pictograms number o =
        '<' :: (x ++ '>' :: (b.component.content o body ++ '<' :: y)) := by
  obtain ⟨g, hg, hbody⟩ := h.exists_frame number
  obtain ⟨s, hs⟩ := b.exists_htmlWith_eq_lt o pictograms number
  have hself : g (b.component.content o b.body) = '<' :: s := (hbody b.body).symm.trans hs
  obtain ⟨x, y, hxy, hg⟩ := hg.exists_between hP hself
  exact ⟨x, y, hxy, fun body => (hbody body).trans (hg _)⟩

/-! ### Values on one line -/

/-- The texts that a block sets are parts of the lines that set them. -/
theorem texts_options {P : Text → Prop} (h : ∀ t, '\n' ∉ t →
    (∀ c ∈ t, ∃ l ∈ b.settingLines.1, c ∈ l) → P t) : b.options.Texts P := by
  refine b.reader.texts_read fun l hl key t ht => ?_
  obtain ⟨hflat, hsub⟩ := Setting.of_ofLine? ht
  refine h t hflat fun c hc => ?_
  rcases eq_nil_or_mem_of_mem_lines_unlines hl with rfl | hmem
  · cases hsub hc
  · obtain ⟨m, hm, hl⟩ := List.mem_flatMap.mp hmem
    exact ⟨m, hm, mem_of_mem_splitWhen hl (hsub hc)⟩

theorem admits_settingLines (ht : L.Admits b.title) (ho : ∀ l ∈ b.optionLines, L.Admits l)
    (hbadge : b.component = .badge → L.Admits b.body) : ∀ l ∈ b.settingLines.1, L.Admits l := by
  unfold settingLines
  split
  · exact List.forall_mem_cons.mpr ⟨ht, ho⟩
  · split
    · next hc =>
      intro l hl
      have hline : l ∈ lines (trim b.body) := (List.dropLast_sublist _).subset hl
      exact (hbadge hc).trim.of_subset fun _ => mem_of_mem_splitWhen hline
    · simp
    · exact ho

theorem admits_options (h : ∀ l ∈ b.settingLines.1, L.Admits l) : b.options.Texts L.Admits :=
  texts_options fun _ _ ht c hc =>
    let ⟨l, hl, hmem⟩ := ht c hc
    h l hl c hmem

theorem written_flat (hp : '\n' ∉ pictograms) (ht : '\n' ∉ b.title) :
    b.Written (without '\n' rfl) pictograms b.options := by
  have htexts : b.options.Texts (without '\n' rfl).Admits :=
    texts_options fun t hflat _ => admits_without.mpr hflat
  exact ⟨admits_without.mpr hp, admits_without.mpr ht, htexts,
    fun t ht => admits_without.mp (htexts.of_get? ht)⟩

theorem exists_html_eq (hp : '\n' ∉ pictograms) (ht : '\n' ∉ b.title) (number : Nat) :
    ∃ x y, '\n' ∉ x ∧ '\n' ∉ y ∧
      b.html pictograms number = '<' :: (x ++ '>' :: (b.component.content b.options b.body ++ '<' :: y)) := by
  obtain ⟨x, y, hxy, hbody⟩ := (written_flat hp ht).exists_between (without_keeps rfl (by decide)) number
  exact ⟨x, y, fun hmem => hxy _ (List.mem_append_left _ hmem) rfl,
    fun hmem => hxy _ (List.mem_append_right _ hmem) rfl, hbody b.body⟩

/-- Every line of the HTML of a block is inert if those of its body are. -/
theorem inert_html (hp : '\n' ∉ pictograms) (ht : '\n' ∉ b.title)
    (hbody : ∀ l ∈ lines b.body, Inert l) (number : Nat) :
    ∀ l ∈ lines (b.html pictograms number), Inert l := by
  obtain ⟨x, y, hx, hy, hhtml⟩ := exists_html_eq hp ht number
  rw [hhtml]
  exact inert_between hx hy (Component.inert_content hbody)

end Block

end BlockMarkup
