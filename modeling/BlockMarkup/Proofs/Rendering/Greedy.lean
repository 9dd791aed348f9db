import BlockMarkup.Proofs.Checked.Access
import BlockMarkup.Proofs.Rendering.Splice
import BlockMarkup.Proofs.Rendering.Stage
import Mathlib.Order.Bounds.Defs

/-!
# The greedy matcher

A pass takes each opener of its component in turn and closes the block at the nearest closing marker
below its option section. Then it goes on below that marker. The blocks it finds are cut out of the
lines of the text one below the other, and it leaves no opener of the component alone except where
no closing marker is left (`Rendering.findBlocks_greedy`).

1. The section that a pass takes is the one that ends where `OptionSection.end?` says
   (`OptionSection.end?_eq`), so each block is cut out of the lines as `Block.CutAt` says
   (`Piece.cutAt_blockAt`).
2. `Piece.Lies` says where the pieces of a pass lie in the lines of its text (`Piece.lies_ofText`).
   When the pass stops, no closing marker is left below, for a section would have had one below it.
3. By induction on the pieces, blocks lie one below the other (`Lies.pairwise_blocks`), and the
   first opener outside them, if there is one, is the one reported (`Lies.reports`).
-/

namespace BlockMarkup

open Text Marker Layout Patch

namespace Layout

variable {ls : List Text} {c : Component} {a : Nat}

/-- Line `a` opens a block of the component. -/
def opens (ls : List Text) (c : Component) (a : Nat) : Bool :=
  (openerAt? ls a).any (·.keyword == c.keyword)

/-- Line `a` is a closing marker. -/
def closes (ls : List Text) (a : Nat) : Bool := ls[a]?.any isCloser

theorem opens_eq {l : Text} (h : ls[a]? = some l) :
    opens ls c a = (opener? l).any (·.keyword == c.keyword) := by
  simp [opens, openerAt?, h]

theorem exists_opener {l : Text} (h : ls[a]? = some l) (ho : opens ls c a) :
    ∃ m, opener? l = some m ∧ m.keyword = c.keyword := by
  rw [opens_eq h] at ho
  simpa [Option.any_eq_true] using ho

theorem keyword_ne {l : Text} (h : ls[a]? = some l) (ho : opens ls c a = false) :
    ∀ m, opener? l = some m → m.keyword ≠ c.keyword := by
  rw [opens_eq h, Option.any_eq_false] at ho
  simpa using ho

theorem closes_add (ls : List Text) (a k : Nat) : closes ls (a + k) = closes (ls.drop a) k := by
  rw [closes, closes, List.getElem?_drop]

theorem closes_eq_false_of_forall {k : Nat} (h : ∀ l ∈ ls, isCloser l = false) :
    closes ls k = false := by
  rw [closes, Option.any_eq_false]
  intro l hl
  simpa using h l (List.mem_of_getElem? hl)

end Layout

namespace OptionSection

/-- The section under the opener in line `a` ends in its last line, if it has any. -/
theorem end?_eq (ls : List Text) (c : Component) (a : Nat) :
    OptionSection.end? ls (a + 1) c (lastCloser? ls) =
      .ok (if length c (reach (ls.drop (a + 1))) (ls.drop (a + 1)) = 0 then none
        else some (a + length c (reach (ls.drop (a + 1))) (ls.drop (a + 1)))) := by
  have hreach : (lastCloser? ls).getD 0 - (a + 1) = reach (ls.drop (a + 1)) :=
    (reach_drop ls (a + 1)).symm
  obtain ⟨size, hsize⟩ := Checked.size?_reach_ok c (ls.drop (a + 1))
  rw [end?, hreach, length, hsize]
  cases size with
  | none => rfl
  | some n =>
    rw [if_neg (Nat.succ_ne_zero n)]
    show Except.ok (some (a + 1 + n)) = Except.ok (some (a + (n + 1)))
    rw [Nat.add_right_comm, Nat.add_assoc]

/-- Below an option section stands a closing marker. -/
theorem exists_isCloser_drop_length {c : Component} {rest : List Text}
    (h : length c (reach rest) rest ≠ 0) :
    ∃ l ∈ rest.drop (length c (reach rest) rest), isCloser l := by
  obtain ⟨n, hn⟩ := Nat.exists_eq_succ_of_ne_zero h
  obtain ⟨options, marker, below, hrest, rfl, hs⟩ := length_reach_eq_succ_iff.mp hn
  have hdrop : rest.drop (options.length + 1) = below := by
    rw [hrest, List.drop_length_add_append]
    rfl
  rw [hn, Nat.succ_eq_add_one, hdrop]
  exact hs.closerBelow

end OptionSection

/-! ## Blocks cut out of lines -/

/-- The block is that of the opener in line `a`, with the section that ends in line `sep` if there
is one, closed at line `e`. Lines are counted from zero. -/
structure Block.CutAt (ls : List Text) (b : Block) (a : Nat) (sep : Option Nat) (e : Nat) :
    Prop where
  opener : openerAt? ls a = some ⟨b.component.keyword, b.title⟩
  sectionEnd : OptionSection.end? ls (a + 1) b.component (lastCloser? ls) = .ok sep
  optionLines : b.optionLines = sep.elim [] (stretch ls (a + 1))
  optionsLineno : b.optionsLineno = sep.elim 0 fun _ => a + 2
  /-- The body starts behind the section, or behind the opener when there is none. -/
  start_le : sep.getD a + 1 ≤ e
  closer : closes ls e
  nearest : ∀ j, sep.getD a < j → j < e → closes ls j = false
  body : b.body = unlines (stretch ls (sep.getD a + 1) e)
  raw : b.raw = unlines (stretch ls a (e + 1))
  lineno : b.lineno = a + 1
  endLineno : b.endLineno = e + 1

/-- Line `j` is one of those that the block takes. -/
def Block.Covers (b : Block) (j : Nat) : Prop := b.lineno ≤ j + 1 ∧ j + 1 ≤ b.endLineno

namespace Block.CutAt

variable {ls : List Text} {b : Block} {a e : Nat} {sep : Option Nat}

theorem le_getD (h : b.CutAt ls a sep e) : a ≤ sep.getD a := by
  have hend := h.sectionEnd
  rw [OptionSection.end?_eq] at hend
  obtain rfl := Except.ok.inj hend
  split
  · exact le_refl a
  · exact Nat.le_add_right _ _

theorem lt (h : b.CutAt ls a sep e) : a < e := h.le_getD.trans_lt h.start_le

theorem covers_iff (h : b.CutAt ls a sep e) (j : Nat) : b.Covers j ↔ a ≤ j ∧ j ≤ e := by
  rw [Covers, h.lineno, h.endLineno]
  omega

end Block.CutAt

/-! ## Pieces in their place -/

namespace Piece

variable {ls : List Text} {c : Component} {a : Nat}

/-- The pieces are those of the lines from `a` on. -/
inductive Lies (ls : List Text) (c : Component) : Nat → List Piece → Prop
  | nil : Lies ls c ls.length []
  | line {a : Nat} {t : Text} {ps : List Piece} (ht : ls[a]? = some t) (ho : opens ls c a = false)
      (hps : Lies ls c (a + 1) ps) : Lies ls c a (.line t :: ps)
  | block {a e : Nat} {sep : Option Nat} {b : Block} {ps : List Piece} (hc : b.component = c)
      (hb : b.CutAt ls a sep e) (hps : Lies ls c (e + 1) ps) : Lies ls c a (.block b :: ps)
  | openEnd {a : Nat} {t : Text} (ht : ls[a]? = some t) (ho : opens ls c a)
      (hnone : ∀ j, a < j → closes ls j = false) :
      Lies ls c a (.openEnd (a + 1) t :: (ls.drop (a + 1)).map .line)

/-- The block that the pass cuts out of the lines below an opener. -/
theorem cutAt_blockAt {l closer : Text} {m : Opener} {head body below : List Text}
    (hdrop : ls.drop a = l :: (head ++ (body ++ closer :: below))) (hl : opener? l = some m)
    (hkey : m.keyword = c.keyword)
    (hhead : OptionSection.length c (reach (ls.drop (a + 1))) (ls.drop (a + 1)) = head.length)
    (hbody : ∀ t ∈ body, isCloser t = false) (hcloser : isCloser closer) :
    (blockAt c m.header (a + 1) l (head ++ (body ++ closer :: below)) head.length
      body.length).CutAt ls a (if head.length = 0 then none else some (a + head.length))
        (a + head.length + body.length + 1) := by
  have hrest : ls.drop (a + 1) = head ++ (body ++ closer :: below) := by
    rw [← List.drop_drop, hdrop]
    rfl
  have hbelow : ls.drop (a + head.length + 1) = body ++ closer :: below := by
    rw [Nat.add_right_comm, ← List.drop_drop, hrest, List.drop_left]
  have hstart : (if head.length = 0 then none else some (a + head.length)).getD a =
      a + head.length := by
    split
    · next h => simp [h]
    · rfl
  have hget : ls[a]? = some l := by
    rw [← List.head?_drop, hdrop]
    rfl
  constructor
  case opener =>
    obtain ⟨keyword, header⟩ := m
    obtain rfl : keyword = c.keyword := hkey
    exact openerAt?_eq_some_iff.mpr ⟨l, hget, hl⟩
  case sectionEnd =>
    show OptionSection.end? ls (a + 1) c _ = _
    rw [OptionSection.end?_eq, hhead]
  case optionLines =>
    show ((head ++ (body ++ closer :: below)).take head.length).dropLast = _
    rw [List.take_left]
    by_cases h : head.length = 0
    · rw [if_pos h, List.eq_nil_of_length_eq_zero h]
      rfl
    · rw [if_neg h, Option.elim_some, stretch, List.drop_take, hrest, List.dropLast_eq_take,
        List.take_append_of_le_length (by omega)]
      congr 1
      omega
  case optionsLineno =>
    show (if head.length = 0 then 0 else a + 1 + 1) = _
    split <;> rfl
  case start_le => omega
  case closer =>
    have hlast : closes (body ++ closer :: below) body.length := by simp [closes, hcloser]
    rwa [← hbelow, ← closes_add, Nat.add_right_comm] at hlast
  case nearest =>
    intro j hj hje
    rw [hstart] at hj
    obtain ⟨k, rfl⟩ := Nat.exists_eq_add_of_le hj
    have hk : k < body.length := by omega
    rw [Nat.succ_eq_add_one, closes_add, hbelow, closes, List.getElem?_append_left hk,
      List.getElem?_eq_getElem hk]
    exact hbody _ (List.getElem_mem hk)
  case body =>
    show unlines (((head ++ (body ++ closer :: below)).drop head.length).take body.length) = _
    rw [hstart, stretch, List.drop_take, hbelow, List.drop_left]
    congr 2
    omega
  case raw =>
    show unlines (l :: (head ++ (body ++ closer :: below)).take (head.length + body.length + 1)) = _
    rw [stretch, List.drop_take, hdrop, ← List.take_succ_cons]
    congr 2
    omega
  case lineno => rfl
  case endLineno =>
    show a + 1 + head.length + body.length + 1 = _
    omega

/-- The pass stops at an opener with no closing marker below it, for its section would have had one
below it. -/
theorem read_stop {l : Text} {m : Opener} {rest : List Text} (lineno : Nat)
    (hl : opener? l = some m) (hkey : m.keyword = c.keyword) (hnone : ∀ t ∈ rest, isCloser t = false) :
    read c lineno (l :: rest) = .openEnd lineno l :: rest.map .line := by
  have hsection : OptionSection.length c (reach ([] ++ rest)) ([] ++ rest) =
      ([] : List Text).length := by
    by_contra hne
    obtain ⟨t, ht, hclose⟩ := OptionSection.exists_isCloser_drop_length hne
    rw [hnone t (List.mem_of_mem_drop ht)] at hclose
    cases hclose
  exact read_openEnd lineno hl hkey hsection hnone

/-- Below a section, lines are cut at the nearest closing marker. -/
theorem exists_nearest_closer {rest : List Text} {size : Nat}
    (h : ∃ t ∈ rest.drop size, isCloser t) :
    ∃ head body closer below, rest = head ++ (body ++ closer :: below) ∧ head.length = size ∧
      (∀ t ∈ body, isCloser t = false) ∧ isCloser closer := by
  obtain ⟨t, ht, hct⟩ := h
  obtain ⟨closer, below, hcut⟩ : ∃ closer below,
      (rest.drop size).dropWhile (!isCloser ·) = closer :: below := by
    refine List.exists_cons_of_ne_nil fun hnil => ?_
    have := List.dropWhile_eq_nil_iff.mp hnil t ht
    simp [hct] at this
  refine ⟨rest.take size, (rest.drop size).takeWhile (!isCloser ·), closer, below, ?_, ?_, ?_, ?_⟩
  · rw [← hcut, List.takeWhile_append_dropWhile, List.take_append_drop]
  · rw [List.length_take, Nat.min_eq_left]
    by_contra hlong
    rw [List.drop_eq_nil_of_le (by omega)] at ht
    cases ht
  · intro u hu
    simpa using List.mem_takeWhile_imp hu
  · have := List.head_dropWhile_not (!isCloser ·) (l := rest.drop size) (by simp [hcut])
    simpa [hcut] using this

theorem lies_read (hle : a ≤ ls.length) : Lies ls c a (read c (a + 1) (ls.drop a)) := by
  induction hn : ls.length - a using Nat.strong_induction_on generalizing a with
  | _ n ih =>
  rcases hle.eq_or_lt with rfl | hlt
  · rw [List.drop_length, read_nil]
    exact .nil
  obtain ⟨l, hl⟩ : ∃ l, ls[a]? = some l := ⟨_, List.getElem?_eq_getElem hlt⟩
  by_cases ho : opens ls c a
  · obtain ⟨m, hm, hkey⟩ := exists_opener hl ho
    have hdrop := Token.drop_eq_cons hl
    generalize hrest : ls.drop (a + 1) = rest at hdrop
    generalize hsize : OptionSection.length c (reach rest) rest = size
    by_cases hcloser : ∃ t ∈ rest.drop size, isCloser t
    · obtain ⟨head, body, closer, below, rfl, rfl, hbody, hcloses⟩ := exists_nearest_closer hcloser
      rw [hdrop, read_blockAt (a + 1) hm hkey hsize hbody hcloses]
      have hnext : ls.drop (a + head.length + body.length + 1 + 1) = below := by
        have hsum : a + head.length + body.length + 1 + 1 =
            a + 1 + (head.length + (body.length + 1)) := by omega
        rw [hsum, ← List.drop_drop, hrest, List.drop_length_add_append,
          List.drop_length_add_append]
        rfl
      have hlen := congrArg List.length hrest
      simp only [List.length_drop, List.length_append, List.length_cons] at hlen
      have hcutAt := cutAt_blockAt hdrop hm hkey (hrest ▸ hsize) hbody hcloses
      refine .block rfl hcutAt ?_
      have hih := ih _ (by omega) (by omega : a + head.length + body.length + 1 + 1 ≤ ls.length) rfl
      rw [hnext] at hih
      convert hih using 2
      omega
    · have hzero : size = 0 := by
        by_contra hne
        rw [← hsize] at hne hcloser
        exact hcloser (OptionSection.exists_isCloser_drop_length hne)
      subst hzero
      have hnone : ∀ t ∈ rest, isCloser t = false := by simpa using hcloser
      rw [hdrop, read_stop (a + 1) hm hkey hnone, ← hrest]
      refine .openEnd hl ho fun j hj => ?_
      obtain ⟨k, rfl⟩ := Nat.exists_eq_add_of_lt hj
      rw [Nat.add_right_comm, closes_add, hrest]
      exact closes_eq_false_of_forall hnone
  · rw [Bool.not_eq_true] at ho
    rw [Token.drop_eq_cons hl, read_line (keyword_ne hl ho)]
    exact .line hl ho (ih _ (by omega) hlt rfl)

theorem lies_ofText (c : Component) (t : Text) : Lies (lines t) c 0 (ofText c t) :=
  lies_read (Nat.zero_le _)

end Piece

/-! ## Openers that are left alone -/

namespace Layout

/-- Line `j` opens a block of the component and belongs to none of the blocks. -/
def LeftOpen (ls : List Text) (c : Component) (bs : List Block) (j : Nat) : Prop :=
  opens ls c j ∧ ∀ b ∈ bs, ¬ b.Covers j

/-- The report on the opener in line `j`. -/
def openReport (ls : List Text) (c : Component) (j : Nat) : Diagnostic :=
  ⟨trim (ls[j]?.getD []), .unterminatedBlock, some (j + 1 : Nat), some c.keyword, none⟩

end Layout

namespace Piece.Lies

variable {ls : List Text} {c : Component} {a : Nat} {ps : List Piece}

theorem blocks_line (t : Text) : (Piece.line t :: ps).filterMap block? = ps.filterMap block? := rfl

theorem blocks_block (b : Block) :
    (Piece.block b :: ps).filterMap block? = b :: ps.filterMap block? := rfl

theorem blocks_openEnd {n : Nat} {t : Text} (below : List Text) :
    (Piece.openEnd n t :: below.map .line).filterMap block? = [] := by
  rw [List.filterMap_cons_none rfl, filterMap_map_line fun _ => rfl]

theorem cutAt (h : Lies ls c a ps) :
    ∀ b ∈ ps.filterMap block?, b.component = c ∧ ∃ i sep e, a ≤ i ∧ b.CutAt ls i sep e := by
  induction h with
  | nil => intro b hb; cases hb
  | line _ _ _ ih =>
    intro b hb
    obtain ⟨hc, i, sep, e, hi, hcut⟩ := ih b hb
    exact ⟨hc, i, sep, e, by omega, hcut⟩
  | @block a e sep b ps hc hb _ ih =>
    refine List.forall_mem_cons.mpr ⟨⟨hc, a, sep, e, le_refl a, hb⟩, fun d hd => ?_⟩
    obtain ⟨hd, i, sep', e', hi, hcut⟩ := ih d hd
    have := hb.lt
    exact ⟨hd, i, sep', e', by omega, hcut⟩
  | openEnd =>
    intro b hb
    rw [blocks_openEnd] at hb
    cases hb

theorem pairwise_blocks (h : Lies ls c a ps) :
    (ps.filterMap block?).Pairwise (·.endLineno < ·.lineno) := by
  induction h with
  | nil => exact .nil
  | line _ _ _ ih => exact ih
  | @block a e sep b ps hc hb hps ih =>
    refine .cons (fun d hd => ?_) ih
    obtain ⟨-, i, sep', e', hi, hcut⟩ := hps.cutAt d hd
    rw [hb.endLineno, hcut.lineno]
    omega
  | openEnd =>
    rw [blocks_openEnd]
    exact .nil

/-- From line `a` on, the first opener that is left alone is reported, and no closing marker stands
below it. -/
theorem reports (h : Lies ls c a ps) :
    ((∀ j, a ≤ j → ¬ LeftOpen ls c (ps.filterMap block?) j) ∧ ps.filterMap (report? c) = []) ∨
      ∃ j, a ≤ j ∧ LeftOpen ls c (ps.filterMap block?) j ∧
        (∀ k, a ≤ k → LeftOpen ls c (ps.filterMap block?) k → j ≤ k) ∧
        (∀ k, j < k → closes ls k = false) ∧ ps.filterMap (report? c) = [openReport ls c j] := by
  induction h with
  | nil =>
    refine .inl ⟨fun j hj hleft => ?_, rfl⟩
    have hopens := hleft.1
    rw [opens, openerAt?, List.getElem?_eq_none hj] at hopens
    cases hopens
  | @line a t ps ht ho hps ih =>
    have hnext : ∀ k, a ≤ k → LeftOpen ls c (ps.filterMap block?) k → a + 1 ≤ k := by
      intro k hk hleft
      rcases hk.eq_or_lt with rfl | hlt
      · rw [LeftOpen, ho] at hleft
        cases hleft.1
      · exact hlt
    rcases ih with ⟨hnone, hreports⟩ | ⟨j, hj, hleft, hleast, hbelow, hreports⟩
    · exact .inl ⟨fun j hj hleft => hnone j (hnext j hj hleft) hleft, hreports⟩
    · exact .inr ⟨j, by omega, hleft, fun k hk hl => hleast k (hnext k hk hl) hl, hbelow, hreports⟩
  | @block a e sep b ps hc hb hps ih =>
    have hlt := hb.lt
    have hnext : ∀ k, a ≤ k → LeftOpen ls c (b :: ps.filterMap block?) k →
        e + 1 ≤ k ∧ LeftOpen ls c (ps.filterMap block?) k := by
      intro k hk hleft
      obtain ⟨hself, hrest⟩ := List.forall_mem_cons.mp hleft.2
      rw [hb.covers_iff] at hself
      exact ⟨by omega, hleft.1, hrest⟩
    rcases ih with ⟨hnone, hreports⟩ | ⟨j, hj, hleft, hleast, hbelow, hreports⟩
    · exact .inl ⟨fun j hj hl => hnone j (hnext j hj hl).1 (hnext j hj hl).2, hreports⟩
    · refine .inr ⟨j, by omega, ⟨hleft.1, List.forall_mem_cons.mpr ⟨?_, hleft.2⟩⟩, fun k hk hl =>
        hleast k (hnext k hk hl).1 (hnext k hk hl).2, hbelow, hreports⟩
      rw [hb.covers_iff]
      omega
  | @openEnd a t ht ho hnone =>
    have hreport : report? c (.openEnd (a + 1) t) = some (openReport ls c a) := by
      rw [openReport, ht]
      rfl
    refine .inr ⟨a, le_refl a, ⟨ho, ?_⟩, fun k hk _ => hk, hnone, ?_⟩
    · rw [blocks_openEnd]
      exact List.forall_mem_nil _
    · rw [List.filterMap_cons_some hreport, filterMap_map_line fun _ => rfl]

end Piece.Lies

/-! ## In every text -/

namespace Rendering

/-- The blocks that a pass finds lie one below the other, each cut out of the lines at the nearest
closing marker below its section. An opener outside them has no closing marker below it, and the
first one, if there is one, is all that the pass reports. -/
theorem findBlocks_greedy (c : Component) (t : Text) :
    (findBlocks c t).1.Pairwise (·.endLineno < ·.lineno) ∧
      (∀ b ∈ (findBlocks c t).1, b.component = c ∧ b.lineno < b.endLineno ∧
        ∃ a sep e, b.CutAt (lines t) a sep e) ∧
      (∀ j, opens (lines t) c j → (∃ b ∈ (findBlocks c t).1, b.Covers j) ∨
        ∀ k, j < k → closes (lines t) k = false) ∧
      (((∀ j, ¬ LeftOpen (lines t) c (findBlocks c t).1 j) ∧ (findBlocks c t).2 = []) ∨
        ∃ j, IsLeast {j | LeftOpen (lines t) c (findBlocks c t).1 j} j ∧
          (findBlocks c t).2 = [openReport (lines t) c j]) := by
  have hlies := Piece.lies_ofText c t
  have hreports := hlies.reports
  refine ⟨hlies.pairwise_blocks, fun b hb => ?_, fun j hj => ?_, ?_⟩
  · obtain ⟨hc, a, sep, e, -, hcut⟩ := hlies.cutAt b hb
    refine ⟨hc, ?_, a, sep, e, hcut⟩
    have := hcut.lt
    rw [hcut.lineno, hcut.endLineno]
    omega
  · by_contra hno
    rw [not_or, not_exists] at hno
    obtain ⟨hcovered, hbelow⟩ := hno
    have hleft : LeftOpen (lines t) c (findBlocks c t).1 j :=
      ⟨hj, fun b hb hcovers => hcovered b ⟨hb, hcovers⟩⟩
    rcases hreports with ⟨hnone, -⟩ | ⟨i, -, -, hleast, hnone, -⟩
    · exact hnone j (Nat.zero_le j) hleft
    · have hij := hleast j (Nat.zero_le j) hleft
      exact hbelow fun k hk => hnone k (by omega)
  · rcases hreports with ⟨hnone, hempty⟩ | ⟨j, -, hleft, hleast, -, hone⟩
    · exact .inl ⟨fun j => hnone j (Nat.zero_le j), hempty⟩
    · exact .inr ⟨j, ⟨hleft, fun k hk => hleast k (Nat.zero_le k) hk⟩, hone⟩

end Rendering

end BlockMarkup
