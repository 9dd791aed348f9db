import BlockMarkup.Document.Forest
import BlockMarkup.Proofs.Document.Position

/-!
# Where a forest lies in its text

`Forest.Lies ls s a f b` says that the lines from `a` up to `b` are those of the forest `f`, each
block with its head, its body and its closing marker in their places. Markers are read as lines only
beside the outermost blocks, and an unterminated block reaches to the end of the text. The forest of
a text lies over all of its lines (`lies_ofText`).
-/

namespace BlockMarkup

open Text Marker Layout

/-- What a forest stands in: the document itself, an unterminated block or a closed one. -/
inductive Surrounding
  | document
  | unclosed
  | closed
deriving DecidableEq

/-- An opening and its section in their place, the opener in line `a`. -/
structure Opening.LiesAt (ls : List Text) (a : Nat) (o : Opening) : Prop where
  opener : openerAt? ls a = some ⟨o.keyword, o.title⟩
  lineno : o.lineno = a + 1
  length_head : a + o.head.length = bodyStart ls a
  drop_eq : ls.drop a = o.head ++ ls.drop (bodyStart ls a)
  /-- The lines taken as options are a section of the component. -/
  sectioned : ∀ marker, o.separator = some marker → ∃ c, o.component? = some c ∧
    OptionSection.Stands c o.optionLines marker (ls.drop (bodyStart ls a))
  /-- No section is left out. -/
  unsectioned : o.separator = none → o.optionLines = [] ∧ sectionLength ls a ⟨o.keyword, o.title⟩ = 0

/-- An opening as it is read: its opener with a section, or without one. -/
structure Opening.WellFormed (o : Opening) : Prop where
  opener : opener? o.line = some ⟨o.keyword, o.title⟩
  sectioned : ∀ marker, o.separator = some marker →
    ∃ c below, OptionSection.Stands c o.optionLines marker below
  unsectioned : o.separator = none → o.optionLines = []

/-- A free closing marker in its place. -/
structure Closing.LiesAt (ls : List Text) (a : Nat) (c : Closing) : Prop where
  line : ls[a]? = some c.line
  lineno : c.lineno = a + 1
  closes : isCloser c.line
  clear : isSeparator ls a = false

namespace Forest

inductive Lies (ls : List Text) : Surrounding → Nat → Forest → Nat → Prop
  | nil {s : Surrounding} {a : Nat} : Lies ls s a nil a
  | line {s : Surrounding} {a b : Nat} {t : Text} {f : Forest} (ht : ls[a]? = some t)
      (ho : opener? t = none)
      (hc : isCloser t → s = .document ∧ Closing.LiesAt ls a ⟨a + 1, t⟩)
      (hf : Lies ls s (a + 1) f b) : Lies ls s a (line (a + 1) t f) b
  | closed {s : Surrounding} {a b c : Nat} {o : Opening} {i f : Forest} {cl : Closing}
      (ho : o.LiesAt ls a) (hi : Lies ls .closed (bodyStart ls a) i c) (hc : cl.LiesAt ls c)
      (hf : Lies ls s (c + 1) f b) : Lies ls s a (block o i (some cl) f) b
  | unclosed {s : Surrounding} {a : Nat} {o : Opening} {i : Forest} (hs : s ≠ .closed)
      (ho : o.LiesAt ls a) (hi : Lies ls .unclosed (bodyStart ls a) i ls.length) :
      Lies ls s a (block o i none nil) ls.length

end Forest

variable {ls : List Text} {a b : Nat}

/-! ## Tokens by position -/

namespace Token

/-- The tokens from line `a` on. -/
def after (ls : List Text) (a : Nat) : List Token := scan (reach (ls.drop a)) (a + 1) 0 (ls.drop a)

theorem scan_skip (rest : List Text) : ∀ limit lineno skip,
    scan limit lineno skip rest = scan (limit - skip) (lineno + skip) 0 (rest.drop skip) := by
  induction rest with
  | nil => intro limit lineno skip; simp [scan]
  | cons l rest ih =>
    intro limit lineno skip
    cases skip with
    | zero => rfl
    | succ n =>
      rw [scan, ih, List.drop_succ_cons]
      congr 1 <;> omega

theorem scan_reach_skip (rest : List Text) (lineno skip : Nat) :
    scan (reach rest) lineno skip rest =
      scan (reach (rest.drop skip)) (lineno + skip) 0 (rest.drop skip) := by
  rw [scan_skip, reach_drop]

theorem drop_eq_cons {l : Text} (h : ls[a]? = some l) : ls.drop a = l :: ls.drop (a + 1) := by
  obtain ⟨hlt, hget⟩ := List.getElem?_eq_some_iff.mp h
  rw [List.drop_eq_getElem_cons hlt, hget]

theorem after_of_length_le (h : ls.length ≤ a) : after ls a = [] := by
  rw [after, List.drop_eq_nil_of_le h, scan]

theorem after_of_line {l : Text} (h : ls[a]? = some l) (ho : opener? l = none) :
    after ls a = (if isCloser l then .closing ⟨a + 1, l⟩ else .line (a + 1) l) :: after ls (a + 1) := by
  rw [after, drop_eq_cons h, scan]
  simp only [ho, reach_cons_sub_one]
  rfl

theorem after_of_opener {l : Text} {m : Opener} (h : ls[a]? = some l) (ho : opener? l = some m) :
    after ls a =
      .opening (openingOf m (a + 1) l ((ls.drop (a + 1)).take (Layout.sectionLength ls a m))) ::
        after ls (bodyStart ls a) := by
  have hm : openerAt? ls a = some m := openerAt?_eq_some_iff.mpr ⟨l, h, ho⟩
  rw [after, drop_eq_cons h, scan]
  simp only [ho, reach_cons_sub_one]
  rw [scan_reach_skip, List.drop_drop, after, bodyStart_eq hm, Layout.sectionLength,
    Nat.add_right_comm (a + 1) 1]

end Token

/-! ## Openings in their place -/

theorem openingOf_liesAt {l : Text} {m : Opener} (h : ls[a]? = some l) (ho : opener? l = some m) :
    (Token.openingOf m (a + 1) l ((ls.drop (a + 1)).take (sectionLength ls a m))).LiesAt ls a := by
  have hm : openerAt? ls a = some m := openerAt?_eq_some_iff.mpr ⟨l, h, ho⟩
  have hstart := bodyStart_eq hm
  have hle : sectionLength ls a m ≤ (ls.drop (a + 1)).length := by
    have := bodyStart_le_length hm
    rw [List.length_drop]; omega
  have hcut : ls.drop (a + 1) =
      (ls.drop (a + 1)).take (sectionLength ls a m) ++ ls.drop (bodyStart ls a) := by
    have hdrop : (ls.drop (a + 1)).drop (sectionLength ls a m) = ls.drop (bodyStart ls a) := by
      rw [List.drop_drop, hstart]
    rw [← hdrop, List.take_append_drop]
  refine ⟨hm, rfl, ?_, ?_, ?_, ?_⟩
  · rw [Token.head_openingOf, List.length_cons, List.length_take_of_le hle, hstart]; omega
  · rw [Token.head_openingOf, Token.drop_eq_cons h, List.cons_append, ← hcut]
  · intro marker hmarker
    have hne : sectionLength ls a m ≠ 0 := fun h0 => by simp [Token.openingOf, h0] at hmarker
    obtain ⟨c, options, marker', hc, hrest, hlen, hs⟩ := exists_stands hm (Nat.pos_of_ne_zero hne)
    have htake : (ls.drop (a + 1)).take (sectionLength ls a m) = options ++ [marker'] := by
      rw [hrest, List.append_cons, List.take_left' (by simp [hlen])]
    rw [htake] at hmarker ⊢
    obtain rfl : marker' = marker := by simpa [Token.openingOf] using hmarker
    exact ⟨c, hc, by simpa [Token.openingOf] using hs⟩
  · intro hnone
    have h0 : sectionLength ls a m = 0 := by
      have := List.length_take_of_le hle
      rw [List.getLast?_eq_none_iff.mp hnone] at this
      exact this.symm
    exact ⟨by simp [Token.openingOf, h0], h0⟩

namespace Opening

variable {o : Opening}

theorem component?_eq_some_iff {c : Component} :
    o.component? = some c ↔ o.keyword = c.keyword := by
  constructor
  · intro h
    exact (Component.keyword_of_ofKeyword? h).symm
  · intro h
    rw [component?, h, Component.ofKeyword?_keyword]

/-- The opener, and below it the section and the body. -/
theorem LiesAt.lines_eq (h : o.LiesAt ls a) :
    opener? o.line = some ⟨o.keyword, o.title⟩ ∧
      ls.drop (a + 1) = o.optionLines ++ o.separator.toList ++ ls.drop (bodyStart ls a) := by
  obtain ⟨l, hl, ho⟩ := openerAt?_eq_some_iff.mp h.opener
  have hdrop := h.drop_eq
  rw [Token.drop_eq_cons hl, Opening.head, List.cons_append] at hdrop
  obtain ⟨rfl, hrest⟩ := List.cons.inj hdrop
  exact ⟨ho, hrest⟩

theorem LiesAt.wellFormed (h : o.LiesAt ls a) : o.WellFormed := by
  refine ⟨h.lines_eq.1, fun marker hmarker => ?_, fun hnone => (h.unsectioned hnone).1⟩
  obtain ⟨c, -, hstands⟩ := h.sectioned marker hmarker
  exact ⟨c, _, hstands⟩

namespace WellFormed

theorem dropLast_section (h : o.WellFormed) :
    (o.optionLines ++ o.separator.toList).dropLast = o.optionLines := by
  cases hsep : o.separator with
  | some marker => simp
  | none => simp [h.unsectioned hsep]

/-- No line of a head opens a block of another component. -/
theorem opener?_head (h : o.WellFormed) {c : Component} (hne : o.component? ≠ some c) :
    ∀ l ∈ o.head, ∀ m, opener? l = some m → m.keyword ≠ c.keyword := by
  intro l hl m hm
  rcases List.mem_cons.mp hl with rfl | hl
  · obtain rfl := Option.some.inj (h.opener.symm.trans hm)
    exact fun hkey => hne (component?_eq_some_iff.mpr hkey)
  · cases hsep : o.separator with
    | none =>
      rw [hsep, h.unsectioned hsep] at hl
      cases hl
    | some marker =>
      obtain ⟨d, below, hstands⟩ := h.sectioned marker hsep
      rw [hsep] at hl
      rw [hstands.opener?_eq_none hl] at hm
      cases hm

end WellFormed

end Opening

/-! ## Reading from the right -/

namespace Forest

/-- What lies beside no marker can lie in the document. -/
theorem Lies.inDocument {s : Surrounding} {f : Forest} (h : Lies ls s a f b) :
    Lies ls .document a f b := by
  induction h with
  | nil => exact .nil
  | line ht ho hc _ ih => exact .line ht ho (fun h => ⟨rfl, (hc h).2⟩) ih
  | closed ho hi hc _ _ ih => exact .closed ho hi hc ih
  | unclosed _ ho hi _ => exact .unclosed (by decide) ho hi

theorem Lies.append {s : Surrounding} {f g : Forest} {m : Nat} (hf : Lies ls s a f m)
    (hs : s = .closed) (hg : Lies ls .document m g b) : Lies ls .document a (f.append g) b := by
  induction hf with
  | nil => exact hg
  | line ht ho hc _ ih => exact .line ht ho (fun h => ⟨rfl, (hc h).2⟩) (ih hs hg)
  | closed ho hi hc _ _ ih => exact .closed ho hi hc (ih hs hg)
  | unclosed hs' _ _ _ => exact absurd hs hs'

namespace Pending

/-- The content lies from line `a` up to the first marker that waits, and behind each marker lies
what was read between it and the next one. -/
def Lies (ls : List Text) : Nat → Forest → List (Closing × Forest) → Prop
  | a, f, [] => Forest.Lies ls .unclosed a f ls.length
  | a, f, (c, behind) :: w => ∃ b, Forest.Lies ls .closed a f b ∧ c.LiesAt ls b ∧ Lies ls (b + 1) behind w

theorem Lies.content {a' : Nat} {f g : Forest} {w : List (Closing × Forest)} (h : Lies ls a' f w)
    (hfg : ∀ s b, s ≠ .document → Forest.Lies ls s a' f b → Forest.Lies ls s a g b) :
    Lies ls a g w := by
  cases w with
  | nil => exact hfg .unclosed _ (by decide) h
  | cons e w =>
    obtain ⟨b, hf, hc, hw⟩ := h
    exact ⟨b, hfg .closed b (by decide) hf, hc, hw⟩

/-- The tokens from a line outside every head on are read as a forest over the lines there. -/
theorem lies_foldr_read (hle : a ≤ ls.length) (hclear : Clear ls a) :
    let p := (Token.after ls a).foldr read ⟨nil, []⟩
    Lies ls a p.content p.waiting := by
  induction hn : ls.length - a using Nat.strong_induction_on generalizing a with
  | _ n ih =>
  rcases hle.lt_or_eq with hlt | rfl
  · obtain ⟨l, hl⟩ : ∃ l, ls[a]? = some l := ⟨_, List.getElem?_eq_getElem hlt⟩
    cases ho : opener? l with
    | none =>
      have hnone : openerAt? ls a = none := by simp [openerAt?, hl, ho]
      have hrest := ih _ (by omega) hlt (hclear.succ hnone) rfl
      rw [Token.after_of_line hl ho]
      by_cases hc : isCloser l
      · simp only [hc, if_true, List.foldr_cons, read]
        exact ⟨a, .nil, ⟨hl, rfl, hc, hclear.isSeparator⟩, hrest⟩
      · simp only [hc, List.foldr_cons, read]
        exact hrest.content fun s b hs hf => .line hl ho (fun h => absurd h hc) hf
    | some m =>
      have hm : openerAt? ls a = some m := openerAt?_eq_some_iff.mpr ⟨l, hl, ho⟩
      have hpos : a < bodyStart ls a := lt_bodyStart
      have hrest := ih _ (by omega) (bodyStart_le_length hm) (hclear.bodyStart hm) rfl
      have hopen := openingOf_liesAt hl ho
      rw [Token.after_of_opener hl ho, List.foldr_cons]
      revert hrest
      generalize (Token.after ls (bodyStart ls a)).foldr read ⟨nil, []⟩ = p
      obtain ⟨f, w⟩ := p
      cases w with
      | nil => exact fun hf => Forest.Lies.unclosed (by decide) hopen hf
      | cons e w =>
        rintro ⟨b, hf, hc, hw⟩
        exact hw.content fun s b hs hg => .closed hopen hf hc hg
  · rw [Token.after_of_length_le (le_refl _)]
    exact Forest.Lies.nil

theorem Lies.finish {f : Forest} {w : List (Closing × Forest)} (h : Lies ls a f w) :
    Forest.Lies ls .document a (finish f w) ls.length := by
  induction w generalizing a f with
  | nil => exact h.inDocument
  | cons e w ih =>
    obtain ⟨b, hf, hc, hw⟩ := h
    have hnone : opener? e.1.line = none := opener?_eq_none_of_isCloser hc.closes
    have hlies : (⟨b + 1, e.1.line⟩ : Closing).LiesAt ls b := ⟨hc.line, rfl, hc.closes, hc.clear⟩
    rw [Pending.finish, hc.lineno]
    exact hf.append rfl (.line hc.line hnone (fun _ => ⟨rfl, hlies⟩) (ih hw))

end Pending

/-! ## Nodes in their place -/

theorem Lies.le {s : Surrounding} {f : Forest} (h : Lies ls s a f b) : a ≤ b := by
  induction h with
  | nil => exact le_refl _
  | line _ _ _ _ ih => omega
  | @closed _ a _ _ _ _ _ _ _ _ _ _ ihi ihf =>
    have : a < bodyStart ls a := lt_bodyStart
    omega
  | @unclosed _ a _ _ _ _ _ ihi =>
    have : a < bodyStart ls a := lt_bodyStart
    omega

end Forest

/-- Counting from zero, the line of the opener. -/
def Node.index (n : Node) : Nat := n.opening.lineno - 1

/-- A node that takes the lines from `a` up to `e`. -/
inductive Node.Lies (ls : List Text) : Nat → Node → Nat → Prop
  | closed {a c : Nat} {o : Opening} {i : Forest} {cl : Closing} (ho : o.LiesAt ls a)
      (hi : Forest.Lies ls .closed (bodyStart ls a) i c) (hc : cl.LiesAt ls c) :
      Node.Lies ls a ⟨o, i, some cl⟩ (c + 1)
  | unclosed {a : Nat} {o : Opening} {i : Forest} (ho : o.LiesAt ls a)
      (hi : Forest.Lies ls .unclosed (bodyStart ls a) i ls.length) :
      Node.Lies ls a ⟨o, i, none⟩ ls.length

theorem Node.Lies.opening {n : Node} {e : Nat} (h : n.Lies ls a e) : n.opening.LiesAt ls a := by
  cases h with
  | closed ho _ _ => exact ho
  | unclosed ho _ => exact ho

theorem Node.Lies.index_eq {n : Node} {e : Nat} (h : n.Lies ls a e) : n.index = a := by
  simp [Node.index, h.opening.lineno]

theorem Node.Lies.bodyStart_le {n : Node} {e : Nat} (h : n.Lies ls a e) : bodyStart ls a ≤ e := by
  cases h with
  | closed _ hi => exact hi.le.trans (Nat.le_succ _)
  | unclosed _ hi => exact hi.le

namespace Forest

/-- Every block of a forest has its place between the ends of the forest. -/
theorem Lies.exists_of_mem_preorder {s : Surrounding} {f : Forest} {n : Node}
    (h : Lies ls s a f b) (hn : n ∈ f.preorder) : ∃ i e, a ≤ i ∧ e ≤ b ∧ n.Lies ls i e := by
  induction h with
  | nil => cases hn
  | line _ _ _ _ ih =>
    obtain ⟨i, e, hi, he, hl⟩ := ih hn
    exact ⟨i, e, by omega, he, hl⟩
  | @closed s a b c o i f cl ho hi hc hf ihi ihf =>
    have hstart : a < bodyStart ls a := lt_bodyStart
    have hle := hi.le
    have hle' := hf.le
    rcases List.mem_cons.mp hn with rfl | hn
    · exact ⟨a, c + 1, le_refl a, hle', .closed ho hi hc⟩
    · rcases List.mem_append.mp hn with hn | hn
      · obtain ⟨i, e, hi, he, hl⟩ := ihi hn
        exact ⟨i, e, by omega, by omega, hl⟩
      · obtain ⟨i, e, hi, he, hl⟩ := ihf hn
        exact ⟨i, e, by omega, he, hl⟩
  | @unclosed s a o i hs ho hi ihi =>
    have hstart : a < bodyStart ls a := lt_bodyStart
    rcases List.mem_cons.mp hn with rfl | hn
    · exact ⟨a, ls.length, le_refl a, le_refl _, .unclosed ho hi⟩
    · obtain ⟨i, e, hi, he, hl⟩ := ihi (by simpa [preorder] using hn)
      exact ⟨i, e, by omega, he, hl⟩

theorem lies_ofText (t : Text) : Lies (lines t) .document 0 (ofText t) (lines t).length := by
  exact (Pending.lies_foldr_read (Nat.zero_le _) clear_zero).finish

theorem Lies.lineno_ne_zero {s : Surrounding} {f : Forest} {n : Node} (h : Lies ls s a f b)
    (hn : n ∈ f.preorder) : n.opening.lineno ≠ 0 := by
  obtain ⟨i, e, -, -, hl⟩ := h.exists_of_mem_preorder hn
  rw [hl.opening.lineno]
  exact Nat.succ_ne_zero _

theorem wellFormed_of_mem_preorder {t : Text} {n : Node} (hn : n ∈ (ofText t).preorder) :
    n.opening.WellFormed := by
  obtain ⟨i, e, -, -, hl⟩ := (lies_ofText t).exists_of_mem_preorder hn
  exact hl.opening.wellFormed

end Forest

end BlockMarkup
