import BlockMarkup.OptionSection
import Mathlib.Data.List.Basic
import Mathlib.Data.List.TakeWhile

/-!
# Option sections and the lines below

Whether an option section stands under an opener depends on the lines below that opener alone: its
marker must be a closing marker with another one further down (`length_reach_eq_succ_iff`). Lines
that are marked by three slashes set no option.
-/

namespace BlockMarkup

open Text

namespace Marker

/-! ## Lines with three slashes -/

theorem dropWhile_eq_cons_of_imp {p q : Char → Bool} (hpq : ∀ c, p c → q c) {t u : Text} {c : Char}
    (h : t.dropWhile p = c :: u) (hc : q c = false) : t.dropWhile q = c :: u := by
  have ht : t = t.takeWhile p ++ c :: u := by rw [← h, List.takeWhile_append_dropWhile]
  have hall : ∀ a ∈ t.takeWhile p, q a := fun a ha => hpq a (List.mem_takeWhile_imp ha)
  rw [ht, List.dropWhile_append_of_pos hall, List.dropWhile_cons_of_neg (by simp [hc])]

theorem isBlank_of_isIndent {c : Char} (h : isIndent c) : isBlank c := by
  simp only [isIndent, Bool.or_eq_true, beq_iff_eq] at h
  rcases h with rfl | rfl <;> decide

theorem isBlank_of_isTrail {c : Char} (h : isTrail c) : isBlank c := by
  simp only [isTrail, Bool.or_eq_true, beq_iff_eq] at h
  rcases h with h | rfl
  · exact isBlank_of_isIndent h
  · decide

theorem after?_eq_some_iff {start t u : Text} : after? start t = some u ↔ t = start ++ u := by
  rw [after?, List.isPrefixOf?_eq_some_iff_append_eq, eq_comm]

theorem afterSlashes?_eq_some_iff {l t : Text} :
    afterSlashes? l = some t ↔ (dropFinalNewline l).dropWhile isIndent = "///" ++ t :=
  after?_eq_some_iff

/-- A line with three slashes sets no option. -/
theorem isLine_eq_false_of_afterSlashes {l t : Text} (h : afterSlashes? l = some t) :
    Setting.isLine l = false := by
  rw [afterSlashes?_eq_some_iff] at h
  have hb : (dropFinalNewline l).dropWhile isBlank = '/' :: ("//" ++ t) :=
    dropWhile_eq_cons_of_imp (fun c => isBlank_of_isIndent) h (by decide)
  have hk : isKeyChar '/' = false := by decide
  simp [Setting.isLine, Setting.ofLine?, hb, hk]

/-- A closing marker has nothing behind its slashes but what may end a line. -/
theorem isCloser_iff_exists {l : Text} :
    isCloser l ↔ ∃ t, afterSlashes? l = some t ∧ ∀ c ∈ t, isTrail c := by
  unfold isCloser
  cases afterSlashes? l <;> simp

theorem isLine_eq_false_of_isCloser {l : Text} (h : isCloser l) : Setting.isLine l = false := by
  obtain ⟨t, ht, -⟩ := isCloser_iff_exists.mp h
  exact isLine_eq_false_of_afterSlashes ht

theorem isCloser_eq_false_of_isLine {l : Text} (h : Setting.isLine l) : isCloser l = false := by
  by_contra hcloser
  rw [isLine_eq_false_of_isCloser (by simpa using hcloser)] at h
  cases h

theorem opener?_eq_none_of_isLine {l : Text} (h : Setting.isLine l) : opener? l = none := by
  unfold opener?
  cases ht : afterSlashes? l with
  | none => rfl
  | some t =>
    rw [isLine_eq_false_of_afterSlashes ht] at h
    cases h

theorem opener?_eq_none_of_isCloser {l : Text} (h : isCloser l) : opener? l = none := by
  cases ho : opener? l with
  | none => rfl
  | some o =>
    rw [isCloser_eq_false_of_opener ho] at h
    cases h

/-! ## The last closing marker -/

/-- How many lines below the first one the last closing marker stands, zero without one. -/
def reach (ls : List Text) : Nat := (lastCloser? ls).getD 0

theorem lastCloser?_cons_of_some {l : Text} {ls : List Text} {i : Nat} (h : lastCloser? ls = some i) :
    lastCloser? (l :: ls) = some (i + 1) := by
  rw [lastCloser?, h]

theorem lastCloser?_cons_of_none {l : Text} {ls : List Text} (h : lastCloser? ls = none) :
    lastCloser? (l :: ls) = if isCloser l then some 0 else none := by
  rw [lastCloser?, h]

@[simp] theorem reach_cons_sub_one (l : Text) (ls : List Text) : reach (l :: ls) - 1 = reach ls := by
  unfold reach
  cases h : lastCloser? ls with
  | some i => rw [lastCloser?_cons_of_some h]; rfl
  | none => rw [lastCloser?_cons_of_none h]; split <;> rfl

theorem reach_drop (ls : List Text) (n : Nat) : reach (ls.drop n) = reach ls - n := by
  induction n generalizing ls with
  | zero => rfl
  | succ n ih =>
    cases ls with
    | nil => simp [reach, lastCloser?]
    | cons l ls => rw [List.drop_succ_cons, ih, ← reach_cons_sub_one l ls]; omega

theorem lastCloser?_eq_none_iff {ls : List Text} :
    lastCloser? ls = none ↔ ∀ l ∈ ls, isCloser l = false := by
  induction ls with
  | nil => simp [lastCloser?]
  | cons l ls ih =>
    rw [List.forall_mem_cons, ← ih]
    cases h : lastCloser? ls with
    | some i => simp [lastCloser?_cons_of_some h]
    | none => simp [lastCloser?_cons_of_none h]

/-- Some closing marker stands below the first line. -/
theorem reach_cons_pos_iff {l : Text} {ls : List Text} :
    0 < reach (l :: ls) ↔ ∃ m ∈ ls, isCloser m := by
  have hnone : lastCloser? ls = none ↔ ∀ m ∈ ls, isCloser m = false := lastCloser?_eq_none_iff
  unfold reach
  cases h : lastCloser? ls with
  | some i => rw [lastCloser?_cons_of_some h]; simpa [h] using hnone
  | none =>
    have hno : ¬ ∃ m ∈ ls, isCloser m := by simpa using hnone.mp h
    rw [lastCloser?_cons_of_none h]
    simp only [hno, iff_false]
    split <;> simp

end Marker

namespace OptionSection

open Marker

/-- The option lines and the marker make a section of the component in front of the lines below. -/
structure Stands (c : Component) (options : List Text) (marker : Text) (below : List Text) : Prop where
  allowed : c.hasOptionSection
  areOptions : ∀ l ∈ options, Setting.isLine l
  known : ∃ l ∈ options, c.knowsLine l
  closes : isCloser marker
  closerBelow : ∃ l ∈ below, isCloser l

/-- The lines of a section open no block. -/
theorem Stands.opener?_eq_none {c : Component} {options below : List Text} {marker l : Text}
    (h : Stands c options marker below) (hl : l ∈ options ++ [marker]) : opener? l = none := by
  rcases List.mem_append.mp hl with hl | hl
  · exact opener?_eq_none_of_isLine (h.areOptions l hl)
  · rw [List.mem_singleton.mp hl]
    exact opener?_eq_none_of_isCloser h.closes

theorem takeWhile_isLine_append {options below : List Text} {marker : Text}
    (ho : ∀ l ∈ options, Setting.isLine l) (hm : Setting.isLine marker = false) :
    (options ++ marker :: below).takeWhile Setting.isLine = options := by
  rw [List.takeWhile_append_of_pos ho, List.takeWhile_cons_of_neg (by simp [hm]), List.append_nil]

theorem stands_of_size?_reach {c : Component} {rest : List Text} {n : Nat}
    (h : size? c (reach rest) rest = .ok (some n)) :
    ∃ options marker below, rest = options ++ marker :: below ∧ options.length = n ∧
      Stands c options marker below := by
  unfold size? at h
  simp only at h
  generalize hrun : rest.takeWhile Setting.isLine = run at h
  split at h
  · next hcond =>
    simp only [Bool.and_eq_true, decide_eq_true_eq] at hcond
    obtain ⟨⟨⟨hallow, -⟩, hlt⟩, hknown⟩ := hcond
    split at h
    · next marker hmarker =>
      simp only [Except.ok.injEq, Option.ite_none_right_eq_some, Option.some.injEq] at h
      obtain ⟨hclose, hn⟩ := h
      obtain ⟨hlen, hget⟩ := List.getElem?_eq_some_iff.mp hmarker
      have hdrop : rest.drop run.length = marker :: rest.drop (run.length + 1) := by
        rw [List.drop_eq_getElem_cons hlen, hget]
      have hsplit : rest = run ++ marker :: rest.drop (run.length + 1) := by
        rw [← hdrop, ← hrun, List.prefix_iff_eq_append.mp (List.takeWhile_prefix _)]
      refine ⟨run, marker, _, hsplit, hn, hallow, ?_, by simpa using hknown, hclose, ?_⟩
      · exact fun l hl => List.mem_takeWhile_imp (hrun ▸ hl)
      · have hr := reach_drop rest run.length
        rw [hdrop] at hr
        exact reach_cons_pos_iff.mp (hr ▸ Nat.sub_pos_of_lt hlt)
    · cases h
  · cases h

theorem Stands.size?_reach {c : Component} {options below : List Text} {marker : Text}
    (h : Stands c options marker below) :
    size? c (reach (options ++ marker :: below)) (options ++ marker :: below) =
      .ok (some options.length) := by
  have hrun : (options ++ marker :: below).takeWhile Setting.isLine = options :=
    takeWhile_isLine_append h.areOptions (isLine_eq_false_of_isCloser h.closes)
  have hne : options ≠ [] := by
    obtain ⟨l, hl, -⟩ := h.known
    exact List.ne_nil_of_mem hl
  have hlt : options.length < reach (options ++ marker :: below) := by
    have hr := reach_drop (options ++ marker :: below) options.length
    rw [List.drop_left] at hr
    have : 0 < reach (marker :: below) := reach_cons_pos_iff.mpr h.closerBelow
    omega
  have hknown : options.any c.knowsLine := by simpa using h.known
  unfold size?
  simp [hrun, hne, hlt, hknown, h.allowed, h.closes]

/-- The lines below an opener start with a section exactly when they can be cut so that one stands. -/
theorem length_reach_eq_succ_iff {c : Component} {rest : List Text} {n : Nat} :
    length c (reach rest) rest = n + 1 ↔
      ∃ options marker below, rest = options ++ marker :: below ∧ options.length = n ∧
        Stands c options marker below := by
  constructor
  · intro h
    unfold length at h
    split at h
    · next m hm =>
      obtain rfl : m = n := by omega
      exact stands_of_size?_reach hm
    · omega
  · rintro ⟨options, marker, below, rfl, rfl, hs⟩
    rw [length, hs.size?_reach]

theorem length_reach_eq_zero_iff {c : Component} {rest : List Text} :
    length c (reach rest) rest = 0 ↔
      ∀ options marker below, rest = options ++ marker :: below → ¬ Stands c options marker below := by
  constructor
  · rintro h options marker below rfl hs
    have := length_reach_eq_succ_iff.mpr ⟨options, marker, below, rfl, rfl, hs⟩
    omega
  · intro h
    by_contra hne
    obtain ⟨n, hn⟩ := Nat.exists_eq_succ_of_ne_zero hne
    obtain ⟨options, marker, below, hrest, -, hs⟩ := length_reach_eq_succ_iff.mp hn
    exact h options marker below hrest hs

end OptionSection

end BlockMarkup
