import BlockMarkup.Document.Token
import BlockMarkup.Proofs.OptionSection

/-!
# Openers, separators and closers by position

Lines are counted from zero here. The markers that end an option section are separators, and every
other closing marker is free to close a block. A block starts its body behind its separator, or
behind its opener when it has none; between the two stand neither openers nor free closers
(`openerAt?_eq_none_of_lt_bodyStart`, `isFreeCloser_eq_false_of_lt_bodyStart`).
-/

namespace BlockMarkup.Layout

open Text Marker

def openerAt? (ls : List Text) (i : Nat) : Option Opener := ls[i]?.bind opener?

/-- The marker that ends the option section under the opener in line `i`. -/
def separator? (ls : List Text) (i : Nat) : Option Nat :=
  match (openerAt? ls i).bind fun m => Component.ofKeyword? m.keyword with
  | some c => (OptionSection.end? ls (i + 1) c (lastCloser? ls)).toOption.join
  | none => none

/-- The first line of the body under the opener in line `i`. -/
def bodyStart (ls : List Text) (i : Nat) : Nat := (separator? ls i).getD i + 1

def isOpenerAt (ls : List Text) (i : Nat) : Bool := (openerAt? ls i).isSome

def isSeparator (ls : List Text) (j : Nat) : Bool :=
  (List.range j).any fun i => separator? ls i == some j

/-- A closing marker that ends no option section. -/
def isFreeCloser (ls : List Text) (j : Nat) : Bool :=
  ls[j]?.any isCloser && !isSeparator ls j

/-! ## Body starts -/

variable {ls : List Text} {i j : Nat} {m : Opener}

/-- The lines of the option section under the opener in line `i`, its marker included. -/
def sectionLength (ls : List Text) (i : Nat) (m : Opener) : Nat :=
  Token.sectionLength m.keyword (reach (ls.drop (i + 1))) (ls.drop (i + 1))

theorem openerAt?_eq_some_iff : openerAt? ls i = some m ↔ ∃ l, ls[i]? = some l ∧ opener? l = some m :=
  Option.bind_eq_some_iff

theorem size?_eq_length_sub_one (c : Component) (limit : Nat) (rest : List Text) :
    (OptionSection.size? c limit rest).toOption.join =
      if OptionSection.length c limit rest = 0 then none
      else some (OptionSection.length c limit rest - 1) := by
  unfold OptionSection.length
  split
  · next n h => simp [h, Except.toOption]
  · next h =>
    cases hs : OptionSection.size? c limit rest with
    | error e => simp [Except.toOption]
    | ok o =>
      cases o with
      | none => simp [Except.toOption]
      | some n => exact absurd hs (h n)

theorem separator?_eq (h : openerAt? ls i = some m) :
    separator? ls i =
      if sectionLength ls i m = 0 then none else some (i + sectionLength ls i m) := by
  unfold separator? sectionLength Token.sectionLength
  rw [h, Option.bind_some]
  cases hc : Component.ofKeyword? m.keyword with
  | none => simp
  | some c =>
    have hreach : (lastCloser? ls).getD 0 - (i + 1) = reach (ls.drop (i + 1)) :=
      (reach_drop ls (i + 1)).symm
    have hs := size?_eq_length_sub_one c (reach (ls.drop (i + 1))) (ls.drop (i + 1))
    have hmap (e : Except OptionSection.Fault (Option Nat)) (k : Nat) :
        (e.map (·.map (k + ·))).toOption.join = e.toOption.join.map (k + ·) := by
      rcases e with _ | _ | _ <;> rfl
    simp only [OptionSection.end?, hreach, hmap, hs]
    split
    · rfl
    · simp; omega

theorem bodyStart_eq (h : openerAt? ls i = some m) :
    bodyStart ls i = i + 1 + sectionLength ls i m := by
  rw [bodyStart, separator?_eq h]
  split
  · next h0 => simp [h0]
  · simp; omega

theorem openerAt?_of_separator? (h : separator? ls i = some j) : ∃ m, openerAt? ls i = some m := by
  unfold separator? at h
  cases ho : openerAt? ls i with
  | none => simp [ho] at h
  | some m => exact ⟨m, rfl⟩

theorem bodyStart_of_separator? (h : separator? ls i = some j) : bodyStart ls i = j + 1 := by
  simp [bodyStart, h]

theorem lt_of_separator? (h : separator? ls i = some j) : i < j := by
  obtain ⟨m, hm⟩ := openerAt?_of_separator? h
  have hs := separator?_eq hm
  rw [h] at hs
  split at hs
  · cases hs
  · simp only [Option.some.injEq] at hs; omega

theorem isSeparator_iff : isSeparator ls j ↔ ∃ i, separator? ls i = some j := by
  simp only [isSeparator, List.any_eq_true, List.mem_range, beq_iff_eq]
  exact ⟨fun ⟨i, _, h⟩ => ⟨i, h⟩, fun ⟨i, h⟩ => ⟨i, lt_of_separator? h, h⟩⟩

theorem lt_bodyStart : i < bodyStart ls i := by
  cases h : separator? ls i with
  | none => simp [bodyStart, h]
  | some j => have := lt_of_separator? h; simp [bodyStart, h]; omega

/-! ## Inside a head -/

/-- The lines below an opener that has a section, cut at its marker. -/
theorem exists_stands (h : openerAt? ls i = some m) (hpos : 0 < sectionLength ls i m) :
    ∃ c options marker, Component.ofKeyword? m.keyword = some c ∧
      ls.drop (i + 1) = options ++ marker :: ls.drop (bodyStart ls i) ∧
      options.length + 1 = sectionLength ls i m ∧
      OptionSection.Stands c options marker (ls.drop (bodyStart ls i)) := by
  have hstart := bodyStart_eq h
  unfold sectionLength Token.sectionLength at hpos hstart ⊢
  cases hc : Component.ofKeyword? m.keyword with
  | none => simp [hc] at hpos
  | some c =>
    simp only [hc] at hpos hstart ⊢
    obtain ⟨n, hn⟩ := Nat.exists_eq_succ_of_ne_zero hpos.ne'
    obtain ⟨options, marker, below, hrest, hlen, hs⟩ :=
      OptionSection.length_reach_eq_succ_iff.mp hn
    have hbelow : ls.drop (bodyStart ls i) = below := by
      have hdrop : (options ++ marker :: below).drop (n + 1) = below := by simp [← hlen]
      rw [hstart, hn, ← List.drop_drop, hrest, hdrop]
    rw [hbelow]
    exact ⟨c, options, marker, rfl, hrest, by omega, hs⟩

/-- A line strictly between an opener and the body is an option line or the separator. -/
theorem isLine_or_separator? (h : openerAt? ls i = some m) (hij : i < j) (hj : j < bodyStart ls i) :
    ∃ l, ls[j]? = some l ∧
      (Setting.isLine l = true ∨ isCloser l = true ∧ separator? ls i = some j) := by
  have hstart := bodyStart_eq h
  obtain ⟨c, options, marker, -, hrest, hlen, hs⟩ := exists_stands h (by omega)
  have hget : ls[j]? = (options ++ marker :: ls.drop (bodyStart ls i))[j - (i + 1)]? := by
    rw [← hrest, List.getElem?_drop]; congr 1; omega
  by_cases hlt : j - (i + 1) < options.length
  · rw [List.getElem?_append_left hlt, List.getElem?_eq_getElem hlt] at hget
    exact ⟨_, hget, .inl (hs.areOptions _ (List.getElem_mem hlt))⟩
  · have hlast : j - (i + 1) = options.length := by omega
    rw [hlast, List.getElem?_append_right (le_refl _), Nat.sub_self, List.getElem?_cons_zero] at hget
    refine ⟨marker, hget, .inr ⟨hs.closes, ?_⟩⟩
    rw [separator?_eq h, if_neg (by omega)]
    congr 1; omega

theorem openerAt?_eq_none_of_lt_bodyStart (h : openerAt? ls i = some m) (hij : i < j)
    (hj : j < bodyStart ls i) : openerAt? ls j = none := by
  obtain ⟨l, hl, hline | ⟨hclose, -⟩⟩ := isLine_or_separator? h hij hj
  · simp [openerAt?, hl, opener?_eq_none_of_isLine hline]
  · simp [openerAt?, hl, opener?_eq_none_of_isCloser hclose]

theorem isFreeCloser_eq_false_of_lt_bodyStart (h : openerAt? ls i = some m) (hij : i < j)
    (hj : j < bodyStart ls i) : isFreeCloser ls j = false := by
  obtain ⟨l, hl, hline | ⟨-, hsep⟩⟩ := isLine_or_separator? h hij hj
  · simp [isFreeCloser, hl, isCloser_eq_false_of_isLine hline]
  · simp [isFreeCloser, isSeparator_iff.mpr ⟨i, hsep⟩]

theorem bodyStart_le_length (h : openerAt? ls i = some m) : bodyStart ls i ≤ ls.length := by
  obtain ⟨l, hl, -⟩ := openerAt?_eq_some_iff.mp h
  have hi : i < ls.length := (List.getElem?_eq_some_iff.mp hl).1
  by_contra hlt
  obtain ⟨l', hl', -⟩ := isLine_or_separator? h hi (by omega)
  exact absurd (List.getElem?_eq_some_iff.mp hl').1 (lt_irrefl _)

/-! ## Lines outside every head -/

/-- No opener above has its body start below line `a`. -/
def Clear (ls : List Text) (a : Nat) : Prop :=
  ∀ i < a, isOpenerAt ls i → bodyStart ls i ≤ a

theorem clear_zero : Clear ls 0 := fun i hi => absurd hi (Nat.not_lt_zero i)

theorem Clear.succ {a : Nat} (h : Clear ls a) (ha : openerAt? ls a = none) : Clear ls (a + 1) := by
  intro i hi ho
  rcases Nat.lt_succ_iff_lt_or_eq.mp hi with hlt | rfl
  · exact (h i hlt ho).trans (Nat.le_succ a)
  · simp [isOpenerAt, ha] at ho

theorem Clear.bodyStart {a : Nat} (h : Clear ls a) (ha : openerAt? ls a = some m) :
    Clear ls (bodyStart ls a) := by
  intro i hi ho
  rcases Nat.lt_trichotomy i a with hlt | rfl | hgt
  · exact (h i hlt ho).trans lt_bodyStart.le
  · exact le_refl _
  · simp [isOpenerAt, openerAt?_eq_none_of_lt_bodyStart ha hgt hi] at ho

theorem Clear.isSeparator {a : Nat} (h : Clear ls a) : isSeparator ls a = false := by
  by_contra hne
  obtain ⟨i, hi⟩ := isSeparator_iff.mp (by simpa using hne)
  obtain ⟨m, hm⟩ := openerAt?_of_separator? hi
  have := h i (lt_of_separator? hi) (by simp [isOpenerAt, hm])
  rw [bodyStart_of_separator? hi] at this
  omega

end BlockMarkup.Layout
