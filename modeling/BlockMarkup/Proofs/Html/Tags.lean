import BlockMarkup.Proofs.Html

/-!
# Tags

The tags of a text are read from left to right (`tags`), with a stack of the elements that are open:
an end tag closes the one on top, and an image is void. A text is balanced when that succeeds and
leaves nothing open (`Balanced`). Markup whose texts and values hold neither angle brackets nor quotes
(`plainLexicon`) is read without a trace, whatever stands behind it (`nest_tags_append`).
-/

namespace BlockMarkup

open Text

namespace Html

/-! ## Reading tags -/

inductive Tag
  | start (name : Text)
  | finish (name : Text)
  /-- A tag that the text ends in. -/
  | unfinished
deriving DecidableEq

/-- What stands between the brackets: a slash and a name, or a name and attributes behind a blank. -/
def Tag.ofInside : Text → Tag
  | '/' :: name => .finish name
  | t => .start (t.takeWhile (!isBlank ·))

/-- Where a reader is: outside the tags, or inside one of which it has read so much, last character
first, and perhaps inside a quoted value. -/
inductive Place
  | outside
  | inside (read : Text) (quoted : Bool)

/-- The tags from a place on. A bracket in a quoted value does not end a tag. -/
def tagsFrom : Place → Text → List Tag
  | .outside, [] => []
  | .inside _ _, [] => [.unfinished]
  | .outside, c :: t => tagsFrom (if c = '<' then .inside [] false else .outside) t
  | .inside read quoted, c :: t =>
    if c = '>' ∧ quoted = false then .ofInside read.reverse :: tagsFrom .outside t
    else tagsFrom (.inside (c :: read) (quoted != (c == '"'))) t

def tags (t : Text) : List Tag := tagsFrom .outside t

/-- The open elements, the innermost one first, after one more tag. -/
def Tag.read (stack : List Text) : Tag → Option (List Text)
  | .start name => some (if name = "img" then stack else name :: stack)
  | .finish name =>
    match stack with
    | top :: stack => if name = top then some stack else none
    | [] => none
  | .unfinished => none

def nest (stack : List Text) (ts : List Tag) : Option (List Text) := ts.foldlM Tag.read stack

/-- Every end tag closes the innermost open element, and in the end none is open. -/
def Balanced (t : Text) : Prop := nest [] (tags t) = some []

instance (t : Text) : Decidable (Balanced t) :=
  inferInstanceAs (Decidable (nest [] (tags t) = some []))

example : Balanced "<p class=\"a>b\">one<img src=\"c\"></p>" ∧ ¬ Balanced "<p><a></p></a>" := by decide

/-! ## Names -/

/-- A letter, and letters and digits, all of ASCII. -/
def isElementName : Text → Bool
  | c :: t => c.isAlpha && t.all Char.isAlphanum
  | [] => false

theorem isAlphanum_of_isElementName {name : Text} (h : isElementName name) :
    ∀ c ∈ name, c.isAlphanum := by
  cases name with
  | nil => cases h
  | cons c t =>
    rw [isElementName, Bool.and_eq_true, List.all_eq_true] at h
    refine List.forall_mem_cons.mpr ⟨?_, h.2⟩
    rw [Char.isAlphanum, h.1, Bool.true_or]

theorem notMem_of_isElementName {name : Text} (h : isElementName name) {c : Char}
    (hc : c.isAlphanum = false) : c ∉ name := by
  intro hmem
  rw [isAlphanum_of_isElementName h c hmem] at hc
  cases hc

theorem isBlank_eq_false_of_isAlphanum {c : Char} (h : c.isAlphanum) : isBlank c = false := by
  have hwide : ∀ n ∈ wideBlanks, (Char.ofNat n).isAlphanum = false := by decide
  by_contra hblank
  have hnot : c.isAlphanum = false := by
    rcases toNat_of_isBlank (by simpa using hblank) with hlow | hmem
    · exact isAlphanum_eq_false_of_toNat_le hlow
    · rw [← Char.ofNat_toNat c]
      exact hwide _ hmem
  rw [h] at hnot
  cases hnot

/-- Names of elements that are not void, and texts without the characters of tags. -/
def plainLexicon : Lexicon where
  char c := c ∉ ("<>\"" : Text)
  name n := isElementName n ∧ n ≠ "img"
  char_of_isLiteral := by
    intro c hc hmem
    have hall : ("<>\"" : Text).all (!isLiteral ·) := by decide
    have hnot := List.all_eq_true.mp hall c hmem
    rw [hc] at hnot
    cases hnot
  name_of_mem_ownNames := by decide

theorem admits_plainLexicon {t : Text} :
    plainLexicon.Admits t ↔ ∀ c ∈ ("<>\"" : Text), c ∉ t :=
  ⟨fun h c hc hmem => h c hmem hc, fun h c hmem hc => h c hc hmem⟩

/-! ## Reading what is written -/

variable {t u w name : Text} {as : List Attribute}

theorem tagsFrom_outside (h : '<' ∉ t) (u : Text) : tagsFrom .outside (t ++ u) = tagsFrom .outside u := by
  induction t with
  | nil => rfl
  | cons c t ih =>
    obtain ⟨hc, ht⟩ := not_or.mp (mt List.mem_cons.mpr h)
    rw [List.cons_append, tagsFrom, if_neg (Ne.symm hc), ih ht]

theorem tagsFrom_inside (hgt : '>' ∉ w) (hquote : '"' ∉ w) (read : Text) (quoted : Bool) (u : Text) :
    tagsFrom (.inside read quoted) (w ++ u) = tagsFrom (.inside (w.reverse ++ read) quoted) u := by
  induction w generalizing read with
  | nil => rfl
  | cons c w ih =>
    obtain ⟨hc, hw⟩ := not_or.mp (mt List.mem_cons.mpr hgt)
    obtain ⟨hc', hw'⟩ := not_or.mp (mt List.mem_cons.mpr hquote)
    have hsame : (quoted != (c == '"')) = quoted := by
      rw [beq_eq_false_iff_ne.mpr (Ne.symm hc'), Bool.bne_false]
    rw [List.cons_append, tagsFrom, if_neg fun h => hc h.1.symm, hsame, ih hw hw', List.reverse_cons,
      List.append_assoc]
    rfl

theorem tagsFrom_quote (read : Text) (quoted : Bool) (u : Text) :
    tagsFrom (.inside read quoted) ('"' :: u) = tagsFrom (.inside ('"' :: read) (!quoted)) u := by
  rw [tagsFrom, if_neg fun h => absurd h.1 (by decide)]
  simp

theorem tagsFrom_attribute {a : Attribute} (hkey : plainLexicon.Admits a.1)
    (hvalue : plainLexicon.Admits a.2) (read u : Text) :
    tagsFrom (.inside read false) (a.toText ++ u) =
      tagsFrom (.inside (a.toText.reverse ++ read) false) u := by
  have hparts : a.toText ++ u = (' ' :: (a.1 ++ ['='])) ++ '"' :: (a.2 ++ '"' :: u) := by
    simp [Attribute.toText]
  rw [admits_plainLexicon] at hkey hvalue
  have hopen : ∀ c ∈ ['>', '"'], c ∉ ' ' :: (a.1 ++ ['=']) := by
    simp [hkey]
  rw [hparts, tagsFrom_inside (hopen _ (by decide)) (hopen _ (by decide)), tagsFrom_quote,
    tagsFrom_inside (hvalue _ (by decide)) (hvalue _ (by decide)), tagsFrom_quote]
  simp [Attribute.toText]

theorem tagsFrom_attributes (has : plainLexicon.AdmitsAttributes as) (read u : Text) :
    tagsFrom (.inside read false) (attributes as ++ u) =
      tagsFrom (.inside ((attributes as).reverse ++ read) false) u := by
  induction as generalizing read with
  | nil => rfl
  | cons a as ih =>
    obtain ⟨⟨hkey, hvalue⟩, has⟩ := Lexicon.admitsAttributes_cons.mp has
    have hcons : attributes (a :: as) = a.toText ++ attributes as := rfl
    rw [hcons, List.append_assoc, tagsFrom_attribute hkey hvalue, ih has, List.reverse_append,
      List.append_assoc]

theorem tagsFrom_close (read u : Text) :
    tagsFrom (.inside read false) ('>' :: u) = .ofInside read.reverse :: tags u := by
  rw [tagsFrom, if_pos ⟨rfl, rfl⟩]
  rfl

theorem ofInside_start (hname : isElementName name) (as : List Attribute) :
    Tag.ofInside (name ++ attributes as) = .start name := by
  have hall : ∀ c ∈ name, (!isBlank c) = true := fun c hc => by
    rw [isBlank_eq_false_of_isAlphanum (isAlphanum_of_isElementName hname c hc), Bool.not_false]
  have hstop : (attributes as).takeWhile (!isBlank ·) = [] := by
    cases as with
    | nil => rfl
    | cons a as =>
      exact List.takeWhile_cons_of_neg (by decide)
  have htake : (name ++ attributes as).takeWhile (!isBlank ·) = name := by
    rw [List.takeWhile_append_of_pos hall, hstop, List.append_nil]
  cases name with
  | nil => cases hname
  | cons c t =>
    have hslash : c ≠ '/' := by
      rintro rfl
      exact notMem_of_isElementName hname (by decide) List.mem_cons_self
    have hstart : Tag.ofInside (c :: t ++ attributes as) =
        .start ((c :: t ++ attributes as).takeWhile (!isBlank ·)) := by
      unfold Tag.ofInside
      split
      · next heq => exact absurd (List.cons.inj heq).1 hslash
      · rfl
    rw [hstart, htake]

theorem tags_startTag (hname : isElementName name) (has : plainLexicon.AdmitsAttributes as)
    (u : Text) : tags (startTag name as ++ u) = .start name :: tags u := by
  have hparts : startTag name as ++ u = '<' :: (name ++ (attributes as ++ '>' :: u)) := by
    simp [startTag]
  have hopen : ∀ t, tags ('<' :: t) = tagsFrom (.inside [] false) t := fun t => rfl
  rw [hparts, hopen, tagsFrom_inside (notMem_of_isElementName hname (by decide))
    (notMem_of_isElementName hname (by decide)), tagsFrom_attributes has, tagsFrom_close]
  simp [ofInside_start hname as]

theorem tags_endTag (hname : isElementName name) (u : Text) :
    tags (endTag name ++ u) = .finish name :: tags u := by
  have hgt : '>' ∉ '/' :: name := by simp [notMem_of_isElementName hname]
  have hquote : '"' ∉ '/' :: name := by simp [notMem_of_isElementName hname]
  have hparts : endTag name ++ u = '<' :: (('/' :: name) ++ '>' :: u) := by
    simp [endTag]
  have hopen : ∀ t, tags ('<' :: t) = tagsFrom (.inside [] false) t := fun t => rfl
  rw [hparts, hopen, tagsFrom_inside hgt hquote, tagsFrom_close, List.append_nil, List.reverse_reverse]
  rfl

/-! ## Balance -/

theorem nest_cons (stack : List Text) (tag : Tag) (ts : List Tag) :
    nest stack (tag :: ts) = (tag.read stack).bind (nest · ts) := rfl

/-- Behind markup, the tags are read with the same elements open as in front of it. -/
theorem nest_tags_append (h : plainLexicon.Built t) (stack : List Text) (u : Text) :
    nest stack (tags (t ++ u)) = nest stack (tags u) := by
  induction h generalizing stack u with
  | text ht =>
    have hlt := admits_plainLexicon.mp ht '<' (by decide)
    exact congrArg (nest stack) (tagsFrom_outside hlt u)
  | image has =>
    rw [tags_startTag (by decide) has, nest_cons]
    rfl
  | @element name t as hname has _ ih =>
    have hpush : Tag.read stack (.start name) = some (name :: stack) := by
      rw [Tag.read, if_neg hname.2]
    have hpop : Tag.read (name :: stack) (.finish name) = some stack := if_pos rfl
    rw [element, List.append_assoc, List.append_assoc, tags_startTag hname.1 has, nest_cons, hpush,
      Option.bind_some, ih, tags_endTag hname.1, nest_cons, hpop, Option.bind_some]
  | append _ _ iht ihu => rw [List.append_assoc, iht, ihu]

theorem balanced_of_built (h : plainLexicon.Built t) : Balanced t := by
  have hnest := nest_tags_append h [] []
  rwa [List.append_nil] at hnest

end Html

end BlockMarkup
