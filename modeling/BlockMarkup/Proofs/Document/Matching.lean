import BlockMarkup.Proofs.Document.Layout
import Mathlib.Data.List.Nodup

/-!
# Closing markers match openers like brackets

An opener is closed by the first free closing marker in its body before which the body has as many
openers as free closing markers; the others are free closing markers that close no block or openers
that no marker closes. `Forest.Brackets` says so of a forest and the lines it was read from, and
says which block each block lies in (`brackets_ofText`).

1. Each line from `a` up to `b` is accounted for (`Lies.lineno_preorder`, `Lies.closed_or_stray`).
2. In no part of a body do free closing markers outnumber openers, and in the body of a closed block
   they are as many (`Lies.count_le`, `Lies.count_eq`).
3. The bodies that hold a block are nested (`Lies.parents`).
-/

namespace BlockMarkup

open Text Marker Layout

/-! ## Counting lines -/

namespace Layout

variable {ls : List Text} {p : Nat → Bool} {a b m i c : Nat}

/-- How many of the lines from `a` up to `b` have a property. -/
def between (p : Nat → Bool) (a b : Nat) : Nat := (List.range' a (b - a)).countP p

theorem range'_split (ham : a ≤ m) (hmb : m ≤ b) :
    List.range' a (b - a) = List.range' a (m - a) ++ List.range' m (b - m) := by
  have h := @List.range'_append_1 a (m - a) (b - m)
  have hlen : m - a + (b - m) = b - a := by omega
  rw [Nat.add_sub_cancel' ham, hlen] at h
  exact h.symm

theorem range'_eq_cons (hab : a < b) :
    List.range' a (b - a) = a :: List.range' (a + 1) (b - (a + 1)) := by
  obtain ⟨k, hk⟩ : ∃ k, b - a = k + 1 := ⟨b - a - 1, by omega⟩
  have hk' : b - (a + 1) = k := by omega
  rw [hk, hk', List.range'_succ]

theorem between_add (ham : a ≤ m) (hmb : m ≤ b) : between p a b = between p a m + between p m b := by
  rw [between, range'_split ham hmb, List.countP_append]
  rfl

@[simp] theorem between_self (p : Nat → Bool) (a : Nat) : between p a a = 0 := by simp [between]

theorem between_succ (p : Nat → Bool) (a : Nat) : between p a (a + 1) = if p a then 1 else 0 := by
  rw [between, Nat.add_sub_cancel_left, List.range'_one, List.countP_singleton]

theorem between_eq_zero (h : ∀ j, a ≤ j → j < b → p j = false) : between p a b = 0 := by
  rw [between, List.countP_eq_zero]
  intro j hj
  rw [List.mem_range'_1] at hj
  simp [h j hj.1 (by omega)]

/-- Line `c` is the first free closing marker in the body under the opener in line `i` before which
the body has as many openers as free closing markers. -/
structure Closes (ls : List Text) (i c : Nat) : Prop where
  le : bodyStart ls i ≤ c
  closer : isFreeCloser ls c
  balanced : between (isOpenerAt ls) (bodyStart ls i) c = between (isFreeCloser ls) (bodyStart ls i) c
  least : ∀ d, bodyStart ls i ≤ d → isFreeCloser ls d →
    between (isOpenerAt ls) (bodyStart ls i) d = between (isFreeCloser ls) (bodyStart ls i) d → c ≤ d

theorem Closes.unique {d : Nat} (hc : Closes ls i c) (hd : Closes ls i d) : c = d :=
  le_antisymm (hc.least d hd.le hd.closer hd.balanced) (hd.least c hc.le hc.closer hc.balanced)

theorem isOpenerAt_eq_false_of_isFreeCloser (h : isFreeCloser ls c) : isOpenerAt ls c = false := by
  simp only [isFreeCloser, Bool.and_eq_true, Option.any_eq_true] at h
  obtain ⟨⟨l, hl, hclose⟩, -⟩ := h
  simp [isOpenerAt, openerAt?, hl, opener?_eq_none_of_isCloser hclose]

theorem isFreeCloser_of_liesAt {cl : Closing} (h : cl.LiesAt ls c) : isFreeCloser ls c := by
  simp [isFreeCloser, h.line, h.closes, h.clear]

theorem isFreeCloser_iff {l : Text} (hl : ls[c]? = some l) :
    isFreeCloser ls c ↔ Closing.LiesAt ls c ⟨c + 1, l⟩ := by
  constructor
  · intro h
    simp only [isFreeCloser, hl, Option.any_some, Bool.and_eq_true, Bool.not_eq_true'] at h
    exact ⟨hl, rfl, h.1, h.2⟩
  · exact isFreeCloser_of_liesAt

/-! ### Heads -/

section Head

variable {o : Opener} (h : openerAt? ls i = some o)

include h

theorem isOpenerAt_of_openerAt? : isOpenerAt ls i := by simp [isOpenerAt, h]

theorem isFreeCloser_eq_false_of_head {j : Nat} (hij : i ≤ j) (hj : j < bodyStart ls i) :
    isFreeCloser ls j = false := by
  rcases hij.eq_or_lt with rfl | hlt
  · by_contra hne
    have := isOpenerAt_eq_false_of_isFreeCloser (by simpa using hne : isFreeCloser ls i)
    rw [isOpenerAt_of_openerAt? h] at this
    cases this
  · exact isFreeCloser_eq_false_of_lt_bodyStart h hlt hj

theorem between_isFreeCloser_head {x : Nat} (hx : x ≤ bodyStart ls i) :
    between (isFreeCloser ls) i x = 0 :=
  between_eq_zero fun _ hij hjx => isFreeCloser_eq_false_of_head h hij (hjx.trans_le hx)

theorem filter_isOpenerAt_head :
    (List.range' i (bodyStart ls i - i)).filter (isOpenerAt ls) = [i] := by
  have hnone : (List.range' (i + 1) (bodyStart ls i - (i + 1))).filter (isOpenerAt ls) = [] := by
    rw [List.filter_eq_nil_iff]
    intro j hj
    rw [List.mem_range'_1] at hj
    simp [isOpenerAt, openerAt?_eq_none_of_lt_bodyStart h (by omega : i < j) (by omega)]
  rw [range'_eq_cons lt_bodyStart, List.filter_cons_of_pos (isOpenerAt_of_openerAt? h), hnone]

theorem between_isOpenerAt_head : between (isOpenerAt ls) i (bodyStart ls i) = 1 := by
  rw [between, List.countP_eq_length_filter, filter_isOpenerAt_head h, List.length_singleton]

end Head

end Layout

namespace Forest

variable {ls : List Text} {s : Surrounding} {a b x : Nat} {f : Forest}

/-! ## One block for each opener -/

theorem Lies.lineno_preorder (h : Lies ls s a f b) :
    f.preorder.map (·.opening.lineno) =
      ((List.range' a (b - a)).filter (isOpenerAt ls)).map (· + 1) := by
  induction h with
  | nil => simp [preorder]
  | @line s a b t f ht ho hc hf ih =>
    have hnot : isOpenerAt ls a = false := by simp [isOpenerAt, openerAt?, ht, ho]
    rw [range'_eq_cons hf.le, List.filter_cons_of_neg (by simp [hnot])]
    exact ih
  | @closed s a b c o i f cl ho hi hc hf ihi ihf =>
    have hnot : isOpenerAt ls c = false :=
      isOpenerAt_eq_false_of_isFreeCloser (isFreeCloser_of_liesAt hc)
    have hcb : c < b := hf.le
    rw [range'_split (lt_bodyStart.le : a ≤ bodyStart ls a) (hi.le.trans hcb.le),
      range'_split hi.le hcb.le, range'_eq_cons hcb, List.filter_append, List.filter_append,
      filter_isOpenerAt_head ho.opener, List.filter_cons_of_neg (by simp [hnot])]
    simp only [preorder, List.map_cons, List.map_append, ihi, ihf, ho.lineno]
    rfl
  | @unclosed s a o i hs ho hi ihi =>
    rw [range'_split (lt_bodyStart.le : a ≤ bodyStart ls a) hi.le]
    rw [List.filter_append, filter_isOpenerAt_head ho.opener]
    simp only [preorder, List.map_cons, List.map_append, ihi, ho.lineno, List.append_nil]
    rfl

theorem Lies.pairwise_lineno_preorder (h : Lies ls s a f b) :
    (f.preorder.map (·.opening.lineno)).Pairwise (· < ·) := by
  rw [h.lineno_preorder]
  exact List.Pairwise.map _ (fun _ _ => Nat.succ_lt_succ) (List.Pairwise.filter _ List.pairwise_lt_range')

theorem Lies.nodup_lineno_preorder (h : Lies ls s a f b) :
    (f.preorder.map (·.opening.lineno)).Nodup := h.pairwise_lineno_preorder.imp Nat.ne_of_lt

theorem Lies.nodup_preorder (h : Lies ls s a f b) : f.preorder.Nodup :=
  h.nodup_lineno_preorder.of_map _

/-! ## Balance -/

/-- Over a closed block openers and free closing markers are as many. -/
theorem between_isOpenerAt_block {o : Opening} {cl : Closing} {c : Nat} {i : Forest}
    (ho : o.LiesAt ls a) (hi : Lies ls .closed (bodyStart ls a) i c) (hc : cl.LiesAt ls c)
    (heq : between (isFreeCloser ls) (bodyStart ls a) c = between (isOpenerAt ls) (bodyStart ls a) c) :
    between (isFreeCloser ls) a (c + 1) = between (isOpenerAt ls) a (c + 1) := by
  have hclose := isFreeCloser_of_liesAt hc
  have hle := hi.le
  have hhead : a ≤ bodyStart ls a := lt_bodyStart.le
  have hcount (p : Nat → Bool) : between p a (c + 1) =
      between p a (bodyStart ls a) + between p (bodyStart ls a) c + between p c (c + 1) := by
    rw [between_add hhead (by omega), between_add hle (Nat.le_succ c), ← Nat.add_assoc]
  rw [hcount, hcount, between_succ, between_succ, hclose, heq,
    isOpenerAt_eq_false_of_isFreeCloser hclose, between_isOpenerAt_head ho.opener,
    between_isFreeCloser_head ho.opener (le_refl _)]
  simp; omega

theorem Lies.count_eq (h : Lies ls s a f b) (hs : s = .closed) :
    between (isFreeCloser ls) a b = between (isOpenerAt ls) a b := by
  induction h with
  | nil => simp
  | @line s a b t f ht ho hc hf ih =>
    have hopen : isOpenerAt ls a = false := by simp [isOpenerAt, openerAt?, ht, ho]
    have hclose : isFreeCloser ls a = false := by
      by_contra hne
      have hcl := (isFreeCloser_iff ht).mp (by simpa using hne)
      cases hs ▸ (hc hcl.closes).1
    rw [between_add (Nat.le_succ a) hf.le, between_add (Nat.le_succ a) hf.le, between_succ,
      between_succ, hopen, hclose, ih hs]
  | @closed s a b c o i f cl ho hi hc hf ihi ihf =>
    have hac : a ≤ c + 1 := by
      have := hi.le
      have : a < bodyStart ls a := lt_bodyStart
      omega
    rw [between_add hac hf.le, between_add hac hf.le, between_isOpenerAt_block ho hi hc (ihi rfl),
      ihf hs]
  | unclosed hs' _ _ _ => exact absurd hs hs'

/-- In a block, no part from the start on has more free closing markers than openers. -/
theorem Lies.count_le (h : Lies ls s a f b) (hs : s ≠ .document) (hax : a ≤ x) (hxb : x ≤ b) :
    between (isFreeCloser ls) a x ≤ between (isOpenerAt ls) a x := by
  induction h with
  | nil => obtain rfl := le_antisymm hax hxb; simp
  | @line s a b t f ht ho hc hf ih =>
    rcases hax.eq_or_lt with rfl | hlt
    · simp
    have hclose : isFreeCloser ls a = false := by
      by_contra hne
      have hcl := (isFreeCloser_iff ht).mp (by simpa using hne)
      exact hs (hc hcl.closes).1
    have := ih hs hlt hxb
    rw [between_add (Nat.le_succ a) hlt, between_add (Nat.le_succ a) hlt, between_succ, hclose]
    simp; omega
  | @closed s a b c o i f cl ho hi hc hf ihi ihf =>
    have hhead : a ≤ bodyStart ls a := lt_bodyStart.le
    have hle := hi.le
    rcases le_total x (bodyStart ls a) with hx | hx
    · rw [between_isFreeCloser_head ho.opener hx]
      exact Nat.zero_le _
    rcases le_or_gt x c with hxc | hxc
    · have := ihi (by decide) hx hxc
      rw [between_add hhead hx, between_add hhead hx, between_isFreeCloser_head ho.opener (le_refl _)]
      omega
    · have hac : a ≤ c + 1 := by omega
      have := ihf hs hxc hxb
      have heq := between_isOpenerAt_block ho hi hc (hi.count_eq rfl)
      rw [between_add hac hxc, between_add hac hxc]
      omega
  | @unclosed s a o i _ ho hi ihi =>
    have hhead : a ≤ bodyStart ls a := lt_bodyStart.le
    rcases le_total x (bodyStart ls a) with hx | hx
    · rw [between_isFreeCloser_head ho.opener hx]
      exact Nat.zero_le _
    · have := ihi (by decide) hx hxb
      rw [between_add hhead hx, between_add hhead hx, between_isFreeCloser_head ho.opener (le_refl _)]
      omega

/-- A free closing marker in the lines of a block's content stands before an opener that it closes. -/
theorem Lies.count_lt (h : Lies ls s a f b) (hs : s ≠ .document) (hax : a ≤ x) (hxb : x < b)
    (hx : isFreeCloser ls x) :
    between (isFreeCloser ls) a x < between (isOpenerAt ls) a x := by
  have hle := h.count_le hs (hax.trans (Nat.le_succ x)) hxb
  rw [between_add hax (Nat.le_succ x), between_add hax (Nat.le_succ x), between_succ, between_succ,
    hx, isOpenerAt_eq_false_of_isFreeCloser hx] at hle
  simp at hle; omega

end Forest

/-! ## Closing -/

theorem Node.Lies.closing_iff {ls : List Text} {n : Node} {i e : Nat} (h : n.Lies ls i e) (c : Nat) :
    (∃ l, ls[c]? = some l ∧ n.closing = some ⟨c + 1, l⟩) ↔ Closes ls i c := by
  cases h with
  | @closed e _ _ cl ho hi hc =>
    have hcloses : Closes ls i e := by
      refine ⟨hi.le, isFreeCloser_of_liesAt hc, (hi.count_eq rfl).symm, ?_⟩
      intro d hd hfree heq
      by_contra hlt
      have := hi.count_lt (by decide) hd (by omega) hfree
      omega
    constructor
    · rintro ⟨l, -, heq⟩
      obtain rfl : cl = ⟨c + 1, l⟩ := Option.some.inj heq
      obtain rfl : c = e := Nat.succ.inj hc.lineno
      exact hcloses
    · intro hcl
      obtain rfl := hcloses.unique hcl
      exact ⟨cl.line, hc.line, by rw [← hc.lineno]⟩
  | unclosed ho hi =>
    constructor
    · rintro ⟨l, -, heq⟩
      cases heq
    · intro hcl
      have hfree := hcl.closer
      simp only [isFreeCloser, Bool.and_eq_true, Option.any_eq_true] at hfree
      obtain ⟨⟨l, hl, -⟩, -⟩ := hfree
      have hlt : c < ls.length := (List.getElem?_eq_some_iff.mp hl).1
      have := hi.count_lt (by decide) hcl.le hlt hcl.closer
      have := hcl.balanced
      omega

theorem Node.Lies.closing_eq_none_iff {ls : List Text} {n : Node} {i e : Nat} (h : n.Lies ls i e) :
    n.closing = none ↔ ∀ c, ¬ Closes ls i c := by
  simp only [← h.closing_iff]
  cases h with
  | @closed c _ _ cl ho hi hc =>
    simp only [reduceCtorEq, false_iff, not_forall, not_not]
    exact ⟨c, cl.line, hc.line, by rw [← hc.lineno]⟩
  | unclosed ho hi => simp

/-! ## Blocks inside blocks -/

/-- Line `j` is in the body of the node. -/
def Node.Holds (ls : List Text) (n : Node) (j : Nat) : Prop :=
  bodyStart ls n.index ≤ j ∧ ∀ cl, n.closing = some cl → j + 1 < cl.lineno

namespace Forest

variable {ls : List Text} {s : Surrounding} {a b : Nat} {f : Forest}

/-- The blocks side by side in the content of a block are those whose openers its body holds, and
no body further in. -/
structure Parents (ls : List Text) (f : Forest) : Prop where
  mem_nodes_iff : ∀ n ∈ f.preorder, n ∈ f.nodes ↔ ∀ p ∈ f.preorder, ¬ p.Holds ls n.index
  mem_inner_iff : ∀ n ∈ f.preorder, ∀ p ∈ f.preorder, n ∈ p.inner.nodes ↔
    p.Holds ls n.index ∧ ∀ q ∈ f.preorder, q.Holds ls n.index → q = p ∨ q.Holds ls p.index

theorem mem_preorder_of_mem_nodes {n : Node} (h : n ∈ f.nodes) : n ∈ f.preorder := by
  induction f with
  | nil => cases h
  | line _ _ f ih => exact ih h
  | block o i c f _ ih =>
    rcases List.mem_cons.mp h with rfl | h
    · exact List.mem_cons_self
    · exact List.mem_cons_of_mem _ (List.mem_append_right _ (ih h))

theorem mem_preorder_of_mem_inner {n p : Node} (hp : p ∈ f.preorder) (hn : n ∈ p.inner.preorder) :
    n ∈ f.preorder := by
  induction f with
  | nil => cases hp
  | line _ _ f ih => exact ih hp
  | block o i c f ihi ihf =>
    rcases List.mem_cons.mp hp with rfl | hp
    · exact List.mem_cons_of_mem _ (List.mem_append_left _ hn)
    · rcases List.mem_append.mp hp with hp | hp
      · exact List.mem_cons_of_mem _ (List.mem_append_left _ (ihi hp))
      · exact List.mem_cons_of_mem _ (List.mem_append_right _ (ihf hp))

theorem preorder_eq_nil (h : f.nodes = []) : f.preorder = [] := by
  induction f with
  | nil => rfl
  | line _ _ f ih => exact ih h
  | block o i c f => cases h

theorem mem_unclosed_iff {o : Opening} :
    o ∈ f.unclosed ↔ ∃ n ∈ f.preorder, n.opening = o ∧ n.closing = none := by
  induction f with
  | nil => simp [unclosed, preorder]
  | line _ _ f ih => exact ih
  | block p i c f ihi ihf =>
    cases c with
    | none =>
      simp only [unclosed, preorder, List.mem_cons, List.mem_append, ihi, ihf, or_and_right,
        exists_or, exists_eq_left, and_true]
      rw [eq_comm]
    | some c => simp [unclosed, preorder, ihi, ihf, or_and_right, exists_or]

theorem unclosed_eq_nil_of_nodes (h : f.nodes = []) : f.unclosed = [] := by
  rw [List.eq_nil_iff_forall_not_mem]
  intro o ho
  obtain ⟨n, hn, -⟩ := mem_unclosed_iff.mp ho
  rw [preorder_eq_nil h] at hn
  cases hn

/-- The blocks of `f` and the lines in their bodies stand from line `a` up to `b`. -/
def Within (ls : List Text) (a b : Nat) (f : Forest) : Prop :=
  ∀ n ∈ f.preorder, (a ≤ n.index ∧ n.index < b) ∧
    ∀ j < ls.length, n.Holds ls j → a ≤ j ∧ j < b

/-- Blocks that lie apart hold nothing of each other. -/
theorem Within.not_holds {c d : Nat} {g : Forest} (hf : Within ls a b f) (hg : Within ls c d g)
    (hapart : b ≤ c ∨ d ≤ a) (hd : d ≤ ls.length) :
    ∀ p ∈ f.preorder, ∀ n ∈ g.preorder, ¬ p.Holds ls n.index := by
  intro p hp n hn hold
  have := (hg n hn).1
  have := (hf p hp).2 n.index (by omega) hold
  omega

/-- The block holds the openers of what it has inside and no others, and neither the blocks inside
nor those behind it hold its opener or one of each other's. -/
structure Apart (ls : List Text) (n : Node) (f : Forest) : Prop where
  self_self : ¬ n.Holds ls n.index
  self_inner : ∀ m ∈ n.inner.preorder, n.Holds ls m.index
  self_rest : ∀ m ∈ f.preorder, ¬ n.Holds ls m.index
  inner_self : ∀ p ∈ n.inner.preorder, ¬ p.Holds ls n.index
  rest_self : ∀ p ∈ f.preorder, ¬ p.Holds ls n.index
  inner_rest : ∀ p ∈ n.inner.preorder, ∀ m ∈ f.preorder, ¬ p.Holds ls m.index
  rest_inner : ∀ p ∈ f.preorder, ∀ m ∈ n.inner.preorder, ¬ p.Holds ls m.index
  notMem_rest : n ∉ f.preorder

theorem Within.apart {n : Node} {st c : Nat} (hst : n.index < st) (hstc : st ≤ c) (hcb : c ≤ b)
    (hb : b ≤ ls.length) (hB : ∀ j < ls.length, n.Holds ls j ↔ st ≤ j ∧ j < c)
    (hI : Within ls st c n.inner) (hR : Within ls c b f) : Apart ls n f := by
  have hlen : n.index < ls.length := by omega
  constructor
  case self_self =>
    intro h
    have := (hB _ hlen).mp h
    omega
  case self_inner =>
    intro m hm
    have := (hI m hm).1
    exact (hB _ (by omega)).mpr this
  case self_rest =>
    intro m hm h
    have := (hR m hm).1
    have := (hB _ (by omega)).mp h
    omega
  case inner_self =>
    intro p hp h
    have := (hI p hp).2 _ hlen h
    omega
  case rest_self =>
    intro p hp h
    have := (hR p hp).2 _ hlen h
    omega
  case inner_rest => exact hI.not_holds hR (.inl (le_refl c)) hb
  case rest_inner => exact hR.not_holds hI (.inr (le_refl c)) (by omega)
  case notMem_rest =>
    intro h
    have := (hR _ h).1
    omega

theorem Parents.block {o : Opening} {i : Forest} {cl : Option Closing} (hi : Parents ls i)
    (hf : Parents ls f) (h : Apart ls ⟨o, i, cl⟩ f) : Parents ls (Forest.block o i cl f) := by
  obtain ⟨self_self, self_inner, self_rest, inner_self, rest_self, inner_rest, rest_inner,
    notMem_rest⟩ := h
  have hpre : (Forest.block o i cl f).preorder = ⟨o, i, cl⟩ :: (i.preorder ++ f.preorder) := rfl
  have hnodes : (Forest.block o i cl f).nodes = ⟨o, i, cl⟩ :: f.nodes := rfl
  have hinner : (Node.mk o i cl).inner = i := rfl
  rw [hinner] at self_inner inner_self inner_rest rest_inner
  generalize Node.mk o i cl = self at *
  have notMem_inner : self ∉ i.preorder := fun h => self_self (self_inner _ h)
  have hdisjoint : ∀ n ∈ i.preorder, n ∉ f.preorder := fun n hn hn' =>
    self_rest n hn' (self_inner n hn)
  have hof_nodes := @mem_preorder_of_mem_nodes
  have hof_inner : ∀ g : Forest, ∀ p ∈ g.preorder, ∀ n ∈ p.inner.nodes, n ∈ g.preorder :=
    fun g p hp n hn => mem_preorder_of_mem_inner hp (mem_preorder_of_mem_nodes hn)
  constructor
  · intro n hn
    rw [hpre] at hn ⊢
    rw [hnodes]
    simp only [List.mem_cons, List.mem_append] at hn ⊢
    rcases hn with rfl | hn | hn
    · grind
    · grind
    · have := hf.mem_nodes_iff n hn
      grind
  · intro n hn p hp
    rw [hpre] at hn hp ⊢
    simp only [List.mem_cons, List.mem_append] at hn hp ⊢
    rcases hp with rfl | hp | hp
    · rw [hinner]
      rcases hn with rfl | hn | hn
      · grind
      · have := hi.mem_nodes_iff n hn
        grind
      · grind
    · rcases hn with rfl | hn | hn
      · grind
      · have := hi.mem_inner_iff n hn p hp
        grind
      · grind
    · rcases hn with rfl | hn | hn
      · grind
      · grind
      · have := hf.mem_inner_iff n hn p hp
        grind

/-! ### Bodies by position -/

theorem holds_iff {n : Node} {i e j : Nat} (h : n.Lies ls i e) :
    n.Holds ls j ↔ bodyStart ls i ≤ j ∧ (n.closing ≠ none → j + 1 < e) := by
  rw [Node.Holds, h.index_eq]
  cases h with
  | closed ho hi hc => simp [hc.lineno]
  | unclosed ho hi => simp

theorem Lies.within (h : Lies ls s a f b) : Within ls a b f := by
  intro n hn
  obtain ⟨i, e, hi, he, hl⟩ := h.exists_of_mem_preorder hn
  have hstart : i < bodyStart ls i := lt_bodyStart
  have hend := hl.bodyStart_le
  refine ⟨by rw [hl.index_eq]; omega, fun j hj hold => ?_⟩
  obtain ⟨hlow, hup⟩ := (holds_iff hl).mp hold
  refine ⟨by omega, ?_⟩
  cases hl with
  | closed ho hi hc => have := hup (by simp); omega
  | unclosed ho hi => omega

theorem Lies.parents (h : Lies ls s a f b) (hb : b ≤ ls.length) : Parents ls f := by
  induction h with
  | nil => exact ⟨by simp [preorder], by simp [preorder]⟩
  | line _ _ _ _ ih => exact ⟨(ih hb).mem_nodes_iff, (ih hb).mem_inner_iff⟩
  | @closed s a b c o i f cl ho hi hc hf ihi ihf =>
    have hcb : c < b := hf.le
    have hnode : Node.Lies ls a ⟨o, i, some cl⟩ (c + 1) := .closed ho hi hc
    have hrest : Within ls c b f := fun n hn => by
      have := hf.within n hn
      exact ⟨by omega, fun j hj hold => by have := this.2 j hj hold; omega⟩
    refine (ihi (by omega)).block (ihf hb) (Within.apart ?_ hi.le hcb.le hb ?_ hi.within hrest)
    · rw [hnode.index_eq]; exact lt_bodyStart
    · intro j hj
      rw [holds_iff hnode]
      simp
  | @unclosed s a o i hs ho hi ihi =>
    have hnode : Node.Lies ls a ⟨o, i, none⟩ ls.length := .unclosed ho hi
    have hnil : Parents ls Forest.nil := ⟨by simp [preorder], by simp [preorder]⟩
    refine (ihi (le_refl _)).block hnil
      (Within.apart ?_ hi.le (le_refl _) (le_refl _) ?_ hi.within ?_)
    · rw [hnode.index_eq]; exact lt_bodyStart
    · intro j hj
      rw [holds_iff hnode]
      simp [hj]
    · intro n hn
      cases hn

/-! ## Strays -/

/-- The lines beside the outermost blocks, with their numbers. -/
def topLines : Forest → List (Nat × Text)
  | nil => []
  | line n t f => (n, t) :: f.topLines
  | block _ _ _ f => f.topLines

theorem mem_strays_iff {n : Nat} {t : Text} :
    ⟨n, t⟩ ∈ f.strays ↔ isCloser t ∧ (n, t) ∈ f.topLines := by
  induction f with
  | nil => simp [strays, topLines]
  | line m u f ih =>
    by_cases hu : isCloser u
    · simp only [strays, hu, if_true, topLines, List.mem_cons, ih, Closing.mk.injEq, Prod.mk.injEq]
      grind
    · rw [strays, if_neg hu, ih]
      simp only [topLines, List.mem_cons, Prod.mk.injEq]
      grind
  | block o i c f _ ih => exact ih

theorem Lies.of_mem_topLines {n : Nat} {t : Text} (h : Lies ls s a f b) (ht : (n, t) ∈ f.topLines) :
    ∃ c, n = c + 1 ∧ a ≤ c ∧ c < b ∧ ls[c]? = some t ∧ (isCloser t → isFreeCloser ls c) := by
  induction h with
  | nil => cases ht
  | @line s a b u f hu ho hc hf ih =>
    have hlt : a < b := hf.le
    rcases List.mem_cons.mp ht with heq | ht
    · obtain ⟨rfl, rfl⟩ := Prod.mk.inj heq
      exact ⟨a, rfl, le_refl a, hlt, hu, fun h => isFreeCloser_of_liesAt (hc h).2⟩
    · obtain ⟨c, rfl, hac, hrest⟩ := ih ht
      exact ⟨c, rfl, by omega, hrest⟩
  | @closed s a b c o i f cl ho hi hc hf _ ih =>
    have := hi.le
    have hstart : a < bodyStart ls a := lt_bodyStart
    obtain ⟨d, rfl, hcd, hrest⟩ := ih ht
    exact ⟨d, rfl, by omega, hrest⟩
  | unclosed _ _ _ _ => cases ht

/-- Some block has its closing marker in line `c`. -/
def ClosesAt (f : Forest) (c : Nat) : Prop :=
  ∃ n ∈ f.preorder, n.closing.map (·.lineno) = some (c + 1)

theorem Lies.of_closesAt {c : Nat} (h : Lies ls s a f b) (hc : f.ClosesAt c) :
    a ≤ c ∧ c < b ∧ isFreeCloser ls c := by
  obtain ⟨n, hn, hclosing⟩ := hc
  obtain ⟨i, e, hi, he, hl⟩ := h.exists_of_mem_preorder hn
  have hstart : i < bodyStart ls i := lt_bodyStart
  cases hl with
  | @closed d _ _ cl ho hin hcl =>
    simp only [Option.map_some, hcl.lineno, Option.some.injEq, Nat.add_right_cancel_iff] at hclosing
    subst hclosing
    have := hin.le
    exact ⟨by omega, by omega, isFreeCloser_of_liesAt hcl⟩
  | unclosed ho hin => cases hclosing

theorem closesAt_block_iff {o : Opening} {i : Forest} {cl : Option Closing} {c : Nat} :
    (block o i cl f).ClosesAt c ↔
      cl.map (·.lineno) = some (c + 1) ∨ i.ClosesAt c ∨ f.ClosesAt c := by
  simp only [ClosesAt, preorder, List.mem_cons, List.mem_append, or_and_right, exists_or,
    exists_eq_left]

/-- Every free closing marker closes a block or, in the document, stands beside the outermost ones. -/
theorem Lies.closed_or_stray {c : Nat} (h : Lies ls s a f b) (hac : a ≤ c) (hcb : c < b)
    (hc : isFreeCloser ls c) :
    f.ClosesAt c ∨ s = .document ∧ ∃ t, (c + 1, t) ∈ f.topLines := by
  induction h with
  | nil => omega
  | @line s a b u f hu ho hcl hf ih =>
    rcases hac.eq_or_lt with rfl | hlt
    · have hlies := (isFreeCloser_iff hu).mp hc
      exact .inr ⟨(hcl hlies.closes).1, u, List.mem_cons_self⟩
    · exact (ih hlt hcb).imp_right fun ⟨hs, t, ht⟩ => ⟨hs, t, List.mem_cons_of_mem _ ht⟩
  | @closed s a b d o i f cl ho hi hd hf ihi ihf =>
    rw [closesAt_block_iff]
    have hbody : bodyStart ls a ≤ c := by
      by_contra hlt
      rw [isFreeCloser_eq_false_of_head ho.opener hac (by omega)] at hc
      cases hc
    rcases Nat.lt_trichotomy c d with hlt | rfl | hgt
    · rcases ihi hbody hlt with hin | ⟨hs, -⟩
      · exact .inl (.inr (.inl hin))
      · cases hs
    · exact .inl (.inl (by simp [hd.lineno]))
    · exact (ihf hgt hcb).imp_left fun hin => .inr (.inr hin)
  | @unclosed s a o i hs ho hi ihi =>
    rw [closesAt_block_iff]
    have hbody : bodyStart ls a ≤ c := by
      by_contra hlt
      rw [isFreeCloser_eq_false_of_head ho.opener hac (by omega)] at hc
      cases hc
    rcases ihi hbody hcb with hin | ⟨hs, -⟩
    · exact .inl (.inr (.inl hin))
    · cases hs

/-- No line beside the outermost blocks closes one. -/
theorem Lies.not_closesAt {c : Nat} {t : Text} (h : Lies ls s a f b) (ht : (c + 1, t) ∈ f.topLines) :
    ¬ f.ClosesAt c := by
  induction h with
  | nil => cases ht
  | @line s a b u f hu ho hcl hf ih =>
    rcases List.mem_cons.mp ht with heq | ht
    · obtain ⟨hca, rfl⟩ := Prod.mk.inj heq
      intro hclose
      have := (hf.of_closesAt hclose).1
      omega
    · exact ih ht
  | @closed s a b d o i f cl ho hi hd hf ihi ihf =>
    obtain ⟨c', hc', hle, -⟩ := hf.of_mem_topLines ht
    rw [closesAt_block_iff]
    rintro (heq | hin | hin)
    · simp only [Option.map_some, hd.lineno, Option.some.injEq] at heq
      omega
    · have := (hi.of_closesAt hin).2.1
      omega
    · exact ihf ht hin
  | unclosed _ _ _ _ => cases ht

/-! ## The whole text -/

/-- What the blocks of a text are, said of its lines alone. -/
structure Brackets (ls : List Text) (f : Forest) : Prop where
  /-- The blocks are those of the openers, one for each, in their order. -/
  openers : f.preorder.map (·.opening.lineno) =
    ((List.range ls.length).filter (isOpenerAt ls)).map (· + 1)
  closed_iff : ∀ n ∈ f.preorder, ∀ c,
    (∃ l, ls[c]? = some l ∧ n.closing = some ⟨c + 1, l⟩) ↔ Closes ls n.index c
  unclosed_iff : ∀ n ∈ f.preorder, n.closing = none ↔ ∀ c, ¬ Closes ls n.index c
  parents : Parents ls f
  /-- A free closing marker that closes no block stays beside the outermost blocks. -/
  stray_iff : ∀ c l, ls[c]? = some l →
    (isFreeCloser ls c ∧ ¬ f.ClosesAt c ↔ isCloser l ∧ (c + 1, l) ∈ f.topLines)
  /-- It is reported, and no other line as such. -/
  reported_iff : ∀ c l, ls[c]? = some l →
    (isFreeCloser ls c ∧ ¬ f.ClosesAt c ↔
      ⟨trim l, .strayCloser, some (c + 1 : Nat), none, none⟩ ∈ f.reports)

theorem Lies.stray_iff {c : Nat} {l : Text} (h : Lies ls .document 0 f ls.length)
    (hl : ls[c]? = some l) :
    isFreeCloser ls c ∧ ¬ f.ClosesAt c ↔ isCloser l ∧ (c + 1, l) ∈ f.topLines := by
  constructor
  · rintro ⟨hfree, hnot⟩
    have hlt : c < ls.length := (List.getElem?_eq_some_iff.mp hl).1
    obtain ⟨-, t, ht⟩ := (h.closed_or_stray (Nat.zero_le c) hlt hfree).resolve_left hnot
    obtain ⟨d, hd, -, -, hline, -⟩ := h.of_mem_topLines ht
    obtain rfl : c = d := Nat.succ.inj hd
    obtain rfl : l = t := Option.some.inj (hl.symm.trans hline)
    exact ⟨((isFreeCloser_iff hl).mp hfree).closes, ht⟩
  · rintro ⟨hclose, ht⟩
    obtain ⟨d, hd, -, -, -, hfree⟩ := h.of_mem_topLines ht
    obtain rfl : c = d := Nat.succ.inj hd
    exact ⟨hfree hclose, h.not_closesAt ht⟩

theorem mem_reports_stray_iff {d : Diagnostic} (hd : d.problem = .strayCloser) :
    d ∈ f.reports ↔ ∃ n t, isCloser t ∧ (n, t) ∈ f.topLines ∧
      d = ⟨trim t, .strayCloser, some n, none, none⟩ := by
  simp only [reports, List.mem_append, List.mem_map]
  constructor
  · rintro (⟨⟨n, t⟩, hmem, rfl⟩ | ⟨o, -, rfl⟩)
    · obtain ⟨hc, ht⟩ := mem_strays_iff.mp hmem
      exact ⟨n, t, hc, ht, rfl⟩
    · cases hd
  · rintro ⟨n, t, hc, ht, rfl⟩
    exact .inl ⟨⟨n, t⟩, mem_strays_iff.mpr ⟨hc, ht⟩, rfl⟩

theorem Lies.reported_iff {c : Nat} {l : Text} (h : Lies ls .document 0 f ls.length)
    (hl : ls[c]? = some l) :
    isFreeCloser ls c ∧ ¬ f.ClosesAt c ↔
      ⟨trim l, .strayCloser, some (c + 1 : Nat), none, none⟩ ∈ f.reports := by
  rw [h.stray_iff hl, mem_reports_stray_iff rfl]
  constructor
  · rintro ⟨hc, ht⟩
    exact ⟨c + 1, l, hc, ht, rfl⟩
  · rintro ⟨n, t, hc, ht, heq⟩
    obtain ⟨d, rfl, -, -, hline, -⟩ := h.of_mem_topLines ht
    have hcd : (c : Int) = d := by simpa using congrArg Diagnostic.lineno heq
    obtain rfl : c = d := Int.ofNat.inj hcd
    obtain rfl : l = t := Option.some.inj (hl.symm.trans hline)
    exact ⟨hc, ht⟩

theorem brackets_ofText (t : Text) : Brackets (lines t) (ofText t) := by
  have h := lies_ofText t
  refine ⟨?_, ?_, ?_, h.parents (le_refl _), fun c l => h.stray_iff, fun c l => h.reported_iff⟩
  · rw [h.lineno_preorder, Nat.sub_zero, ← List.range_eq_range']
  · intro n hn c
    obtain ⟨i, e, -, -, hl⟩ := h.exists_of_mem_preorder hn
    rw [hl.index_eq, hl.closing_iff]
  · intro n hn
    obtain ⟨i, e, -, -, hl⟩ := h.exists_of_mem_preorder hn
    rw [hl.index_eq, hl.closing_eq_none_iff]

end Forest

end BlockMarkup
