import BlockMarkup.Html
import BlockMarkup.Proofs.Marker

/-!
# Markup and what it is made of

A lexicon says which characters may stand in texts and attributes and which names elements may have.
Markup that keeps to a lexicon is `Built` from texts, images and elements; a `Frame` is such markup
with a hole for content, inside at least one element. So the content of a frame stands between two
fixed texts, the first up to a `>` and the second from a `<` on (`Frame.exists_between`). When these
two stand on one line each, the lines between are those of the content (`lines_between`).
-/

namespace BlockMarkup

open Text Marker

namespace Html

/-! ## Lexicons -/

/-- The characters of the classes, identifiers and texts that the components bring along. -/
def isLiteral (c : Char) : Bool := c.isAlphanum || [' ', '-', '_', '#', '.', '/', 'à', 'é'].contains c

/-- The elements that the components make whatever the options are. -/
def ownNames : List Text :=
  ["div".toList, "section".toList, "h3".toList, "h5".toList, "p".toList, "a".toList, "button".toList,
    "span".toList, "svg".toList, "use".toList]

/-- The characters and the names of elements that may be written. -/
structure Lexicon where
  char : Char → Prop
  name : Text → Prop
  char_of_isLiteral : ∀ c, isLiteral c → char c
  name_of_mem_ownNames : ∀ t ∈ ownNames, name t

namespace Lexicon

variable {L : Lexicon} {t u : Text}

/-- Only characters of the lexicon stand in the text. -/
def Admits (L : Lexicon) (t : Text) : Prop := ∀ c ∈ t, L.char c

def AdmitsAttributes (L : Lexicon) (as : List Attribute) : Prop :=
  ∀ a ∈ as, L.Admits a.1 ∧ L.Admits a.2

/-- A text that the components bring along. -/
theorem literal (L : Lexicon) {t : Text} (h : t.all isLiteral) : L.Admits t :=
  fun c hc => L.char_of_isLiteral c (List.all_eq_true.mp h c hc)

@[simp] theorem admits_nil (L : Lexicon) : L.Admits [] := List.forall_mem_nil _

@[simp] theorem admits_append : L.Admits (t ++ u) ↔ L.Admits t ∧ L.Admits u :=
  List.forall_mem_append

theorem Admits.of_subset (h : L.Admits u) (hsub : t ⊆ u) : L.Admits t := fun c hc => h c (hsub hc)

theorem Admits.trim (h : L.Admits t) : L.Admits (trim t) := h.of_subset fun _ => mem_of_mem_trim

theorem Admits.ite {p : Prop} [Decidable p] (ht : L.Admits t) (hu : L.Admits u) :
    L.Admits (if p then t else u) := by
  split
  · exact ht
  · exact hu

theorem admits_join {sep : Text} {items : List Text} (hsep : L.Admits sep)
    (h : ∀ t ∈ items, L.Admits t) : L.Admits (join sep items) := by
  rw [join]
  induction items with
  | nil => exact L.admits_nil
  | cons t ts ih =>
    obtain ⟨ht, hts⟩ := List.forall_mem_cons.mp h
    cases ts with
    | nil => simpa [List.intercalate] using ht
    | cons u us =>
      have hrest : List.intercalate sep (t :: u :: us) =
          t ++ (sep ++ List.intercalate sep (u :: us)) := by simp [List.intercalate]
      rw [hrest]
      exact admits_append.mpr ⟨ht, admits_append.mpr ⟨hsep, ih hts⟩⟩

theorem admits_unlines {ls : List Text} (hnewline : L.char '\n') (h : ∀ l ∈ ls, L.Admits l) :
    L.Admits (unlines ls) := by
  have hjoin : unlines ls = join ['\n'] ls := by
    unfold unlines
    split
    · simp [join, List.intercalate]
    · rfl
  rw [hjoin]
  exact admits_join (List.forall_mem_singleton.mpr hnewline) h

theorem admits_classes {names : List Text} (h : ∀ t ∈ names, L.Admits t) : L.Admits (classes names) :=
  admits_join (L.literal (by decide)) fun t ht => h t (List.mem_of_mem_filter ht)

theorem admits_variant {base : Text} (hbase : L.Admits base) (ht : L.Admits t) :
    L.Admits (variant base t) :=
  admits_append.mpr ⟨admits_append.mpr ⟨hbase, L.literal (by decide)⟩, ht⟩

theorem admits_variant? {base : Text} (hbase : L.Admits base) (ht : L.Admits t) :
    L.Admits (variant? base t) :=
  L.admits_nil.ite (admits_variant hbase ht)

theorem admits_ofNat (L : Lexicon) (n : Nat) : L.Admits (ofNat n) := by
  intro c hc
  have hdigit : c.isDigit := Nat.isDigit_of_mem_toDigits (by decide) (by decide) hc
  exact L.char_of_isLiteral c (by simp [isLiteral, Char.isAlphanum, hdigit])

theorem admitsAttributes_cons {a : Attribute} {as : List Attribute} :
    L.AdmitsAttributes (a :: as) ↔ (L.Admits a.1 ∧ L.Admits a.2) ∧ L.AdmitsAttributes as :=
  List.forall_mem_cons

theorem admitsAttributes_nil (L : Lexicon) : L.AdmitsAttributes [] := List.forall_mem_nil _

/-- An attribute under a name that the components bring along. -/
theorem AdmitsAttributes.cons {key : Text} {as : List Attribute} (hkey : key.all isLiteral)
    (ht : L.Admits t) (has : L.AdmitsAttributes as) : L.AdmitsAttributes ((key, t) :: as) :=
  admitsAttributes_cons.mpr ⟨⟨L.literal hkey, ht⟩, has⟩

theorem literalAttributes (L : Lexicon) {as : List Attribute}
    (h : ∀ a ∈ as, a.1.all isLiteral ∧ a.2.all isLiteral) : L.AdmitsAttributes as :=
  fun a ha => ⟨L.literal (h a ha).1, L.literal (h a ha).2⟩

theorem admitsAttributes_class (ht : L.Admits t) : L.AdmitsAttributes [("class", t)] :=
  .cons (by decide) ht L.admitsAttributes_nil

/-! ## Markup over a lexicon -/

/-- Markup made of texts, images and elements. -/
inductive Built (L : Lexicon) : Text → Prop
  | text {t : Text} (ht : L.Admits t) : Built L t
  | image {as : List Attribute} (has : L.AdmitsAttributes as) : Built L (startTag "img" as)
  | element {name t : Text} {as : List Attribute} (hname : L.name name)
      (has : L.AdmitsAttributes as) (ht : Built L t) : Built L (Html.element name as t)
  | append {t u : Text} (ht : Built L t) (hu : Built L u) : Built L (t ++ u)

/-- Markup with a hole inside an element. -/
inductive Frame (L : Lexicon) : (Text → Text) → Prop
  | around {name : Text} {as : List Attribute} (hname : L.name name)
      (has : L.AdmitsAttributes as) : Frame L (Html.element name as)
  | inside {name : Text} {as : List Attribute} {g : Text → Text} (hname : L.name name)
      (has : L.AdmitsAttributes as) (hg : Frame L g) : Frame L fun t => Html.element name as (g t)
  | left {after : Text} {g : Text → Text} (hg : Frame L g) (hafter : Built L after) :
      Frame L fun t => g t ++ after
  | right {before : Text} {g : Text → Text} (hbefore : Built L before) (hg : Frame L g) :
      Frame L fun t => before ++ g t

theorem built_nil (L : Lexicon) : L.Built [] := .text L.admits_nil

/-- An element of a name that the components bring along. -/
theorem Built.own {name : Text} {as : List Attribute} (hname : name ∈ ownNames)
    (has : L.AdmitsAttributes as) (ht : L.Built t) : L.Built (Html.element name as t) :=
  .element (L.name_of_mem_ownNames name hname) has ht

theorem Frame.aroundOwn {name : Text} {as : List Attribute} (hname : name ∈ ownNames)
    (has : L.AdmitsAttributes as) : L.Frame (Html.element name as) :=
  .around (L.name_of_mem_ownNames name hname) has

theorem Frame.insideOwn {name : Text} {as : List Attribute} {g : Text → Text}
    (hname : name ∈ ownNames) (has : L.AdmitsAttributes as) (hg : L.Frame g) :
    L.Frame fun t => Html.element name as (g t) :=
  .inside (L.name_of_mem_ownNames name hname) has hg

theorem Built.ite {p : Prop} [Decidable p] (ht : L.Built t) (hu : L.Built u) :
    L.Built (if p then t else u) := by
  split
  · exact ht
  · exact hu

theorem Frame.built {g : Text → Text} (h : L.Frame g) (ht : L.Built t) : L.Built (g t) := by
  induction h with
  | around hname has => exact .element hname has ht
  | inside hname has _ ih => exact .element hname has ih
  | left _ hafter ih => exact ih.append hafter
  | right hbefore _ ih => exact hbefore.append ih

/-- Content stands between a text that ends a tag and a text that starts one, which do not depend on
it. -/
theorem Frame.exists_eq {g : Text → Text} (hg : L.Frame g) :
    ∃ x y, ∀ t, g t = x ++ '>' :: (t ++ '<' :: y) := by
  induction hg with
  | @around name as hname has =>
    exact ⟨'<' :: (name ++ attributes as), '/' :: (name ++ ">"), fun t => by
      simp [Html.element, startTag, endTag]⟩
  | @inside name as g hname has hg ih =>
    obtain ⟨x, y, hxy⟩ := ih
    exact ⟨startTag name as ++ x, y ++ endTag name, fun t => by simp [Html.element, hxy]⟩
  | @left after g hg hafter ih =>
    obtain ⟨x, y, hxy⟩ := ih
    exact ⟨x, y ++ after, fun t => by simp [hxy]⟩
  | @right before g hbefore hg ih =>
    obtain ⟨x, y, hxy⟩ := ih
    exact ⟨before ++ x, y, fun t => by simp [hxy]⟩

/-! ### Trimming markup -/

theorem Built.dropWhile (h : L.Built t) : L.Built (t.dropWhile isBlank) := by
  induction h with
  | text ht => exact .text (ht.of_subset (List.dropWhile_sublist _).subset)
  | image has =>
    rw [startTag, List.cons_append, List.cons_append, List.dropWhile_cons_of_neg (by decide)]
    exact .image has
  | element hname has ht _ =>
    rw [Html.element, startTag, List.cons_append, List.cons_append, List.cons_append, List.cons_append,
      List.dropWhile_cons_of_neg (by decide)]
    exact .element hname has ht
  | append _ hu iht ihu =>
    rw [List.dropWhile_append]
    exact ihu.ite (iht.append hu)

theorem Built.trimEnd (h : L.Built t) : L.Built (trimEnd t) := by
  have hclose : ∀ t : Text, Text.trimEnd (t ++ ">") = t ++ ">" := trimEnd_concat (by decide)
  induction h with
  | text ht => exact .text (ht.of_subset fun _ => mem_of_mem_trimEnd)
  | image has =>
    rw [startTag, hclose]
    exact .image has
  | element hname has ht _ =>
    rw [Html.element, endTag, ← List.append_assoc, hclose, List.append_assoc]
    exact .element hname has ht
  | append ht _ iht ihu =>
    rw [trimEnd_append_eq_ite]
    exact iht.ite (ht.append ihu)

theorem Built.trim (h : L.Built t) : L.Built (trim t) := h.dropWhile.trimEnd

theorem built_unlines (hnewline : L.char '\n') {ts : List Text} (h : ∀ t ∈ ts, L.Built t) :
    L.Built (unlines ts) := by
  induction ts with
  | nil => exact L.built_nil
  | cons t ts ih =>
    obtain ⟨ht, hts⟩ := List.forall_mem_cons.mp h
    cases ts with
    | nil => exact ht
    | cons u us =>
      rw [unlines_cons_cons, List.append_cons]
      exact (ht.append (.text (List.forall_mem_singleton.mpr hnewline))).append (ih hts)

/-! ### The characters of markup -/

/-- The signs that tags are written with. -/
def signs : Text := "<>/=\" "

/-- Whatever is written with the lexicon has characters of a kind, the signs of tags included. -/
structure Keeps (L : Lexicon) (P : Char → Prop) : Prop where
  char : ∀ c, L.char c → P c
  name : ∀ n, L.name n → ∀ c ∈ n, P c
  sign : ∀ c ∈ signs, P c

section Keeps

variable {P : Char → Prop} (h : L.Keeps P) {name : Text} {as : List Attribute}

include h

theorem Keeps.of_subset (hsub : t ⊆ signs) : ∀ c ∈ t, P c := fun c hc => h.sign c (hsub hc)

theorem Keeps.admits (ht : L.Admits t) : ∀ c ∈ t, P c := fun c hc => h.char c (ht c hc)

theorem Keeps.startTag (hname : ∀ c ∈ name, P c) (has : L.AdmitsAttributes as) :
    ∀ c ∈ startTag name as, P c := by
  have hattributes : ∀ c ∈ attributes as, P c := by
    intro c hc
    obtain ⟨a, ha, hc⟩ := List.mem_flatMap.mp hc
    obtain ⟨hkey, hvalue⟩ := has a ha
    have hattribute : ∀ c ∈ [' '] ++ a.1 ++ "=\"" ++ a.2 ++ "\"", P c := by
      simp only [List.forall_mem_append]
      exact ⟨⟨⟨⟨h.of_subset (by decide), h.admits hkey⟩, h.of_subset (by decide)⟩, h.admits hvalue⟩,
        h.of_subset (by decide)⟩
    exact hattribute c hc
  have htag : ∀ c ∈ ['<'] ++ name ++ attributes as ++ ">", P c := by
    simp only [List.forall_mem_append]
    exact ⟨⟨⟨h.of_subset (by decide), hname⟩, hattributes⟩, h.of_subset (by decide)⟩
  exact htag

theorem Keeps.endTag (hname : ∀ c ∈ name, P c) : ∀ c ∈ endTag name, P c := by
  unfold Html.endTag
  simp only [List.forall_mem_append]
  exact ⟨⟨h.of_subset (by decide), hname⟩, h.of_subset (by decide)⟩

theorem Built.keeps (ht : L.Built t) : ∀ c ∈ t, P c := by
  induction ht with
  | text ht => exact h.admits ht
  | image has => exact h.startTag (h.admits (L.literal (by decide))) has
  | @element name t as hname has _ ih =>
    unfold Html.element
    simp only [List.forall_mem_append]
    exact ⟨⟨h.startTag (h.name name hname) has, ih⟩, h.endTag (h.name name hname)⟩
  | append _ _ iht ihu => exact List.forall_mem_append.mpr ⟨iht, ihu⟩

/-- A frame that starts with `<` puts its content between two texts of such characters, the first from
`<` to `>` and the second from `<` on. -/
theorem Frame.exists_between {g : Text → Text} (hg : L.Frame g) {s : Text} (hs : g t = '<' :: s) :
    ∃ x y, (∀ c ∈ x ++ y, P c) ∧ ∀ t, g t = '<' :: (x ++ '>' :: (t ++ '<' :: y)) := by
  obtain ⟨x, y, hxy⟩ := hg.exists_eq
  have hempty : ∀ c ∈ g [], P c := (hg.built L.built_nil).keeps h
  rw [hxy] at hempty hs
  cases x with
  | nil => exact absurd (List.cons.inj hs).1 (by decide)
  | cons d x =>
    obtain ⟨rfl, -⟩ := List.cons.inj hs
    refine ⟨x, y, fun c hc => hempty c ?_, hxy⟩
    simp only [List.mem_append, List.mem_cons] at hc ⊢
    tauto

end Keeps

/-! ### Any markup -/

/-- All that can be written. -/
def full : Lexicon where
  char _ := True
  name _ := True
  char_of_isLiteral _ _ := trivial
  name_of_mem_ownNames _ _ := trivial

theorem admits_full (t : Text) : full.Admits t := fun _ _ => trivial

/-! ### Markup without a character -/

/-- All that can be written without one character, which the components do not bring along. -/
def without (d : Char) (hd : isLiteral d = false) : Lexicon where
  char c := c ≠ d
  name n := d ∉ n
  char_of_isLiteral := by
    rintro c hc rfl
    rw [hd] at hc
    cases hc
  name_of_mem_ownNames := by
    intro t ht hmem
    have hall : ∀ t ∈ ownNames, t.all isLiteral := by decide
    rw [List.all_eq_true.mp (hall t ht) d hmem] at hd
    cases hd

theorem without_keeps {d : Char} (hd : isLiteral d = false) (hsign : d ∉ signs) :
    (without d hd).Keeps (· ≠ d) where
  char _ hc := hc
  name _ hn _ hc heq := hn (heq ▸ hc)
  sign _ hc heq := hsign (heq ▸ hc)

theorem admits_without {d : Char} {hd : isLiteral d = false} : (without d hd).Admits t ↔ d ∉ t :=
  ⟨fun h hmem => h d hmem rfl, fun h _ hc heq => h (heq ▸ hc)⟩

end Lexicon

/-! ## The lines around content -/

section Lines

variable {x y t : Text}

/-- Content between two texts on one line each: the first line starts with `<`, the last one goes on
behind the content, and the lines between are those of the content. -/
theorem lines_between (hx : '\n' ∉ x) (hy : '\n' ∉ y) :
    (∃ l, lines t = [l] ∧
        lines ('<' :: (x ++ '>' :: (t ++ '<' :: y))) = ['<' :: (x ++ '>' :: (l ++ '<' :: y))]) ∨
      ∃ l mid r, lines t = l :: (mid ++ [r]) ∧
        lines ('<' :: (x ++ '>' :: (t ++ '<' :: y))) =
          ('<' :: (x ++ '>' :: l)) :: (mid ++ [r ++ '<' :: y]) := by
  have heq : '<' :: (x ++ '>' :: (t ++ '<' :: y)) = ('<' :: (x ++ ['>'])) ++ (t ++ '<' :: y) := by simp
  have hopen : lines ('<' :: (x ++ ['>'])) = [] ++ ['<' :: (x ++ ['>'])] :=
    lines_eq_singleton (by simp [hx])
  have hclose : lines ('<' :: y) = ['<' :: y] := lines_eq_singleton (by simp [hy])
  obtain ⟨l, ls, hl⟩ := List.exists_cons_of_ne_nil (lines_ne_nil t)
  rw [heq]
  rcases List.eq_nil_or_concat ls with rfl | ⟨mid, r, rfl⟩
  · left
    have hself : lines t = [] ++ [l] := hl
    have hlast : lines (t ++ '<' :: y) = [l ++ '<' :: y] := lines_append hself hclose
    exact ⟨l, hl, by rw [lines_append hopen hlast]; simp⟩
  · right
    have hself : lines t = (l :: mid) ++ [r] := by rw [hl, List.concat_eq_append, List.cons_append]
    have hlast : lines (t ++ '<' :: y) = (l :: mid) ++ [r ++ '<' :: y] := lines_append hself hclose
    rw [List.cons_append] at hlast
    exact ⟨l, mid, r, hself, by rw [lines_append hopen hlast]; simp⟩

/-- Around inert lines there are inert lines. -/
theorem inert_between (hx : '\n' ∉ x) (hy : '\n' ∉ y) (h : ∀ l ∈ lines t, Inert l) :
    ∀ l ∈ lines ('<' :: (x ++ '>' :: (t ++ '<' :: y))), Inert l := by
  rcases lines_between hx hy with ⟨l, hl, hlines⟩ | ⟨l, mid, r, hl, hlines⟩
  · rw [hl, List.forall_mem_singleton] at h
    rw [hlines, List.forall_mem_singleton]
    exact .of_lt (by simp [hx, hy, h.flat])
  · rw [hl, List.forall_mem_cons, List.forall_mem_append, List.forall_mem_singleton] at h
    obtain ⟨hfirst, hmid, hlast⟩ := h
    rw [hlines, List.forall_mem_cons, List.forall_mem_append, List.forall_mem_singleton]
    exact ⟨.of_lt (by simp [hx, hfirst.flat]), hmid, hlast.append_lt hy⟩

/-! ## Bodies -/

theorem inert_trim (h : Inert t) : Inert (trim t) :=
  h.congr (newline_notMem_trim h.flat) (trim_trim t)

theorem inert_lines_trim (h : ∀ l ∈ lines t, Inert l) : ∀ l ∈ lines (trim t), Inert l := by
  intro l hl
  obtain ⟨m, hm, heq⟩ := exists_line_of_mem_lines_trim hl
  exact (h m hm).congr (newline_notMem_of_mem_lines hl) heq

theorem lines_onOwnLines (t : Text) : lines (onOwnLines t) = [] :: (lines (trim t) ++ [[]]) := by
  rw [onOwnLines, List.cons_append, lines_newline_cons]
  exact congrArg _ (lines_append_newline (trim t) [])

theorem inert_lines_onOwnLines (h : ∀ l ∈ lines t, Inert l) : ∀ l ∈ lines (onOwnLines t), Inert l := by
  rw [lines_onOwnLines, List.forall_mem_cons, List.forall_mem_append, List.forall_mem_singleton]
  exact ⟨.nil, inert_lines_trim h, .nil⟩

end Lines

end Html

end BlockMarkup
