import BlockMarkup.Proofs.Checked.Access

/-!
# Option sections by position

Where the lines of a text are counted from zero, an option section is a run of option lines from a
position on, one of them with a key of the component, and the marker below the run, which is not the last
closing marker (`OptionSection.EndsAt`). The search for the marker finds it where there is one and nothing
else (`OptionSection.end?_spec`), because no marker is an option line and so the run ends at the first.
-/

namespace BlockMarkup

open Text

namespace Marker

variable {ls : List Text} {k : Nat}

/-- A closing marker stands in line `k`. -/
def CloserAt (ls : List Text) (k : Nat) : Prop := ∃ l, ls[k]? = some l ∧ isCloser l

/-- The last closing marker stands in line `k`. -/
structure LastCloserAt (ls : List Text) (k : Nat) : Prop where
  closes : CloserAt ls k
  last : ∀ i, k < i → ¬ CloserAt ls i

theorem closerAt_succ_iff {l : Text} : CloserAt (l :: ls) (k + 1) ↔ CloserAt ls k := by
  rw [CloserAt, CloserAt, List.getElem?_cons_succ]

theorem not_closerAt_of_lastCloser? (h : lastCloser? ls = none) : ¬ CloserAt ls k := by
  rintro ⟨l, hl, hcloser⟩
  rw [lastCloser?_eq_none_iff.mp h l (List.mem_of_getElem? hl)] at hcloser
  cases hcloser

theorem LastCloserAt.unique {i : Nat} (h : LastCloserAt ls k) (hi : LastCloserAt ls i) : k = i := by
  rcases Nat.lt_trichotomy k i with hlt | heq | hgt
  · exact absurd hi.closes (h.last i hlt)
  · exact heq
  · exact absurd h.closes (hi.last k hgt)

theorem lastCloserAt_of_lastCloser? (h : lastCloser? ls = some k) : LastCloserAt ls k := by
  induction ls generalizing k with
  | nil => cases h
  | cons l ls ih =>
    cases hrest : lastCloser? ls with
    | some i =>
      rw [lastCloser?_cons_of_some hrest] at h
      obtain rfl := Option.some.inj h
      obtain ⟨hcloses, hlast⟩ := ih hrest
      refine ⟨closerAt_succ_iff.mpr hcloses, fun j hj => ?_⟩
      obtain ⟨j, rfl⟩ : ∃ m, j = m + 1 := ⟨j - 1, by omega⟩
      rw [closerAt_succ_iff]
      exact hlast j (by omega)
    | none =>
      rw [lastCloser?_cons_of_none hrest, Option.ite_none_right_eq_some] at h
      obtain ⟨hcloser, heq⟩ := h
      obtain rfl := Option.some.inj heq
      refine ⟨⟨l, rfl, hcloser⟩, fun j hj => ?_⟩
      obtain ⟨j, rfl⟩ : ∃ m, j = m + 1 := ⟨j - 1, by omega⟩
      rw [closerAt_succ_iff]
      exact not_closerAt_of_lastCloser? hrest

theorem lastCloser?_eq_some_iff : lastCloser? ls = some k ↔ LastCloserAt ls k := by
  refine ⟨lastCloserAt_of_lastCloser?, fun h => ?_⟩
  cases hlast : lastCloser? ls with
  | some i => rw [(lastCloserAt_of_lastCloser? hlast).unique h]
  | none => exact absurd h.closes (not_closerAt_of_lastCloser? hlast)

end Marker

namespace OptionSection

open Marker

variable {ls : List Text} {start j : Nat} {c : Component}

/-- The option section of the component that starts in line `start` ends with the marker in line `j`. -/
structure EndsAt (ls : List Text) (start : Nat) (c : Component) (j : Nat) : Prop where
  allowed : c.hasOptionSection
  nonempty : start < j
  areOptions : ∀ i l, start ≤ i → i < j → ls[i]? = some l → Setting.isLine l
  known : ∃ i l s, start ≤ i ∧ i < j ∧ ls[i]? = some l ∧ Setting.ofLine? l = some s ∧ s.1 ∈ c.keys
  closes : CloserAt ls j
  closerBelow : ∃ i, j < i ∧ CloserAt ls i

theorem knowsLine_iff {l : Text} :
    c.knowsLine l ↔ ∃ s, Setting.ofLine? l = some s ∧ s.1 ∈ c.keys := by
  unfold Component.knowsLine
  cases Setting.ofLine? l with
  | none => simp
  | some s => simp

/-- The lines from `start` on, cut around line `j`. -/
structure Cut (ls : List Text) (start j : Nat) (options : List Text) (marker : Text)
    (below : List Text) : Prop where
  lines_eq : ls.drop start = options ++ marker :: below
  length_eq : start + options.length = j

theorem exists_cut (hstart : start ≤ j) {marker : Text} (hmarker : ls[j]? = some marker) :
    ∃ options below, Cut ls start j options marker below := by
  obtain ⟨hlt, hget⟩ := List.getElem?_eq_some_iff.mp hmarker
  refine ⟨(ls.drop start).take (j - start), ls.drop (j + 1), ?_, ?_⟩
  · calc ls.drop start
      _ = (ls.drop start).take (j - start) ++ (ls.drop start).drop (j - start) :=
        (List.take_append_drop _ _).symm
      _ = (ls.drop start).take (j - start) ++ ls.drop j := by
        rw [List.drop_drop, Nat.add_sub_cancel' hstart]
      _ = (ls.drop start).take (j - start) ++ marker :: ls.drop (j + 1) := by
        rw [List.drop_eq_getElem_cons hlt, hget]
  · rw [List.length_take, List.length_drop]
    omega

namespace Cut

variable {options below : List Text} {marker : Text}

theorem getElem?_add (h : Cut ls start j options marker below) (i : Nat) :
    ls[start + i]? = (options ++ marker :: below)[i]? := by
  rw [← h.lines_eq, List.getElem?_drop]

theorem getElem?_options (h : Cut ls start j options marker below) {i : Nat}
    (hi : i < options.length) : ls[start + i]? = options[i]? := by
  rw [h.getElem?_add, List.getElem?_append_left hi]

theorem getElem?_marker (h : Cut ls start j options marker below) : ls[j]? = some marker := by
  rw [← h.length_eq, h.getElem?_add, List.getElem?_append_right le_rfl, Nat.sub_self]
  rfl

theorem getElem?_below (h : Cut ls start j options marker below) (i : Nat) :
    ls[j + 1 + i]? = below[i]? := by
  have hplace : j + 1 + i = start + (options.length + (i + 1)) := by
    rw [← h.length_eq]
    omega
  rw [hplace, h.getElem?_add, List.getElem?_append_right (Nat.le_add_right _ _),
    Nat.add_sub_cancel_left, List.getElem?_cons_succ]

theorem mem_options_iff (h : Cut ls start j options marker below) {l : Text} :
    l ∈ options ↔ ∃ i, start ≤ i ∧ i < j ∧ ls[i]? = some l := by
  have hlength := h.length_eq
  rw [List.mem_iff_getElem?]
  constructor
  · rintro ⟨i, hi⟩
    have hlt := (List.getElem?_eq_some_iff.mp hi).1
    refine ⟨start + i, by omega, by omega, ?_⟩
    rw [h.getElem?_options hlt, hi]
  · rintro ⟨i, hstart, hj, hi⟩
    obtain ⟨i, rfl⟩ := Nat.exists_eq_add_of_le hstart
    exact ⟨i, (h.getElem?_options (by omega)).symm.trans hi⟩

theorem mem_below_iff (h : Cut ls start j options marker below) {l : Text} :
    l ∈ below ↔ ∃ i, j < i ∧ ls[i]? = some l := by
  rw [List.mem_iff_getElem?]
  constructor
  · rintro ⟨i, hi⟩
    exact ⟨j + 1 + i, by omega, (h.getElem?_below i).trans hi⟩
  · rintro ⟨i, hj, hi⟩
    obtain ⟨i, rfl⟩ := Nat.exists_eq_add_of_le hj
    exact ⟨i, (h.getElem?_below i).symm.trans hi⟩

theorem stands_iff (h : Cut ls start j options marker below) :
    Stands c options marker below ↔ EndsAt ls start c j := by
  constructor
  · rintro ⟨allowed, areOptions, ⟨l, hl, hknown⟩, closes, ⟨m, hm, hcloser⟩⟩
    obtain ⟨i, hstart, hi, hli⟩ := h.mem_options_iff.mp hl
    obtain ⟨k, hk, hmk⟩ := h.mem_below_iff.mp hm
    obtain ⟨s, hs, hkey⟩ := knowsLine_iff.mp hknown
    exact ⟨allowed, hstart.trans_lt hi,
      fun i l hstart hi hli => areOptions l (h.mem_options_iff.mpr ⟨i, hstart, hi, hli⟩),
      ⟨i, l, s, hstart, hi, hli, hs, hkey⟩, ⟨marker, h.getElem?_marker, closes⟩,
      ⟨k, hk, m, hmk, hcloser⟩⟩
  · rintro ⟨allowed, -, areOptions, ⟨i, l, s, hstart, hi, hli, hs, hkey⟩, ⟨m, hm, hcloses⟩,
      ⟨k, hk, n, hn, hcloser⟩⟩
    obtain rfl := Option.some.inj (h.getElem?_marker.symm.trans hm)
    constructor
    case allowed => exact allowed
    case areOptions =>
      intro l hl
      obtain ⟨i, hstart, hi, hli⟩ := h.mem_options_iff.mp hl
      exact areOptions i l hstart hi hli
    case known =>
      exact ⟨l, h.mem_options_iff.mpr ⟨i, hstart, hi, hli⟩, knowsLine_iff.mpr ⟨s, hs, hkey⟩⟩
    case closes => exact hcloses
    case closerBelow => exact ⟨n, h.mem_below_iff.mpr ⟨k, hk, hn⟩, hcloser⟩

end Cut

theorem endsAt_iff : EndsAt ls start c j ↔
    ∃ options marker below, Cut ls start j options marker below ∧ Stands c options marker below := by
  constructor
  · intro h
    obtain ⟨marker, hmarker, -⟩ := h.closes
    obtain ⟨options, below, hcut⟩ := exists_cut h.nonempty.le hmarker
    exact ⟨options, marker, below, hcut, hcut.stands_iff.mpr h⟩
  · rintro ⟨options, marker, below, hcut, hstands⟩
    exact hcut.stands_iff.mp hstands

/-! ## The search for the marker -/

theorem size?_reach_eq_some_iff {rest : List Text} {n : Nat} :
    size? c (reach rest) rest = .ok (some n) ↔
      ∃ options marker below, rest = options ++ marker :: below ∧ options.length = n ∧
        Stands c options marker below := by
  refine ⟨stands_of_size?_reach, ?_⟩
  rintro ⟨options, marker, below, rfl, rfl, hs⟩
  exact hs.size?_reach

theorem end?_eq_some_iff : end? ls start c (lastCloser? ls) = .ok (some j) ↔ EndsAt ls start c j := by
  have hreach : (lastCloser? ls).getD 0 - start = reach (ls.drop start) := (reach_drop ls start).symm
  have hend : end? ls start c (lastCloser? ls) = .ok (some j) ↔
      ∃ n, size? c (reach (ls.drop start)) (ls.drop start) = .ok (some n) ∧ start + n = j := by
    rw [end?, hreach]
    rcases size? c (reach (ls.drop start)) (ls.drop start) with e | _ | n
    · simp [Except.map]
    · simp [Except.map]
    · simp [Except.map]
  rw [hend, endsAt_iff]
  constructor
  · rintro ⟨n, hsize, hplace⟩
    obtain ⟨options, marker, below, hlines, rfl, hstands⟩ := size?_reach_eq_some_iff.mp hsize
    exact ⟨options, marker, below, ⟨hlines, hplace⟩, hstands⟩
  · rintro ⟨options, marker, below, ⟨hlines, hplace⟩, hstands⟩
    exact ⟨options.length, size?_reach_eq_some_iff.mpr ⟨options, marker, below, hlines, rfl, hstands⟩,
      hplace⟩

theorem EndsAt.unique {i : Nat} (hi : EndsAt ls start c i) (hj : EndsAt ls start c j) : i = j := by
  have heq := (end?_eq_some_iff.mpr hi).symm.trans (end?_eq_some_iff.mpr hj)
  exact Option.some.inj (Except.ok.inj heq)

/-- The last closing marker ends no section. -/
theorem EndsAt.not_last (h : EndsAt ls start c j) : ¬ LastCloserAt ls j := by
  intro hlast
  obtain ⟨i, hi, hcloser⟩ := h.closerBelow
  exact hlast.last i hi hcloser

theorem end?_spec (ls : List Text) (start : Nat) (c : Component) :
    (∀ k, lastCloser? ls = some k ↔ LastCloserAt ls k) ∧
      ∃ stop, end? ls start c (lastCloser? ls) = .ok stop ∧
        (∀ j, stop = some j ↔ EndsAt ls start c j) ∧
        (∀ i j, EndsAt ls start c i → EndsAt ls start c j → i = j) ∧
        ∀ k, LastCloserAt ls k → stop ≠ some k := by
  obtain ⟨stop, hstop⟩ := Checked.end?_ok ls start c
  have hiff : ∀ j, stop = some j ↔ EndsAt ls start c j := by
    intro j
    rw [← end?_eq_some_iff, hstop, Except.ok.injEq]
  refine ⟨fun k => lastCloser?_eq_some_iff, stop, hstop, hiff, fun i j hi hj => hi.unique hj, ?_⟩
  intro k hlast hk
  exact ((hiff k).mp hk).not_last hlast

end OptionSection

end BlockMarkup
