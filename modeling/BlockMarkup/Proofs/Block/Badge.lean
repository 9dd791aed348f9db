import BlockMarkup.Proofs.Options.Places

/-!
# The option lines of a badge

A badge has its option lines at the head of its body, behind blank lines. They are cut out of the trimmed
body, and their place is counted apart from that: of the blank lines above them only the empty ones are
counted, up to the first that holds a blank. Each line from there on is overlooked (`overlooked`), and by
as many lines is every report on an option line too far up (`Block.badge_reports_placed`).
-/

namespace BlockMarkup

open Text

/-! ## The blank lines above -/

/-- Of the blank lines at the head of a body, those from the first one on that is not empty. -/
def overlooked (body : Text) : Nat :=
  (((lines body).dropWhile (·.isEmpty)).takeWhile (·.all isBlank)).length

theorem length_takeWhile_newline {t : Text} (h : ∃ l ∈ lines t, l ≠ []) :
    (t.takeWhile (· == '\n')).length = ((lines t).takeWhile (·.isEmpty)).length := by
  induction t with
  | nil =>
    obtain ⟨l, hl, hne⟩ := h
    exact absurd (List.mem_singleton.mp hl) hne
  | cons c t ih =>
    by_cases hc : c = '\n'
    · subst hc
      obtain ⟨l, hl, hne⟩ := h
      rw [lines_newline_cons] at hl ⊢
      have hbelow : l ∈ lines t := (List.mem_cons.mp hl).resolve_left hne
      have htake : ('\n' :: t).takeWhile (· == '\n') = '\n' :: t.takeWhile (· == '\n') := rfl
      rw [htake, List.takeWhile_cons_of_pos rfl, List.length_cons, List.length_cons,
        ih ⟨l, hbelow, hne⟩]
    · obtain ⟨p, ps, hps⟩ := List.exists_cons_of_ne_nil (lines_ne_nil t)
      rw [lines_cons hc hps, List.takeWhile_cons_of_neg (by simpa using hc),
        List.takeWhile_cons_of_neg (by simp)]
      rfl

theorem length_takeWhile_add {α : Type} {p q : α → Bool} (h : ∀ a, p a → q a) (as : List α) :
    (as.takeWhile p).length + ((as.dropWhile p).takeWhile q).length = (as.takeWhile q).length := by
  induction as with
  | nil => rfl
  | cons a as ih =>
    by_cases ha : p a
    · rw [List.takeWhile_cons_of_pos ha, List.dropWhile_cons_of_pos ha,
        List.takeWhile_cons_of_pos (h a ha), List.length_cons, List.length_cons, ← ih]
      omega
    · rw [List.takeWhile_cons_of_neg ha, List.dropWhile_cons_of_neg ha, List.length_nil, Nat.zero_add]

/-- The option lines of a badge stand below all blank lines at the head of its body. -/
theorem exists_standBelow_splitBadgeBody (body : Text) (h : (splitBadgeBody body).1 ≠ []) :
    OptionReader.StandBelow ((body.takeWhile (· == '\n')).length + overlooked body)
      (splitBadgeBody body).1 (lines body) := by
  obtain ⟨above, l, below, hbody, hblank, hdrop, hne⟩ := exists_lines_dropWhile body
  obtain ⟨front, r, rest, hfront, htrim⟩ := exists_lines_trimEnd (body.dropWhile isBlank)
  have hoptions : (splitBadgeBody body).1 = front := by
    show (lines (trimEnd (body.dropWhile isBlank))).dropLast = front
    rw [htrim, List.dropLast_concat]
  rw [hoptions] at h ⊢
  rw [hdrop] at hfront
  have hl : l.dropWhile isBlank ≠ [] := by
    refine hne fun hbelow => ?_
    rw [hbelow] at hfront
    cases front with
    | nil => exact h rfl
    | cons u us => simpa using congrArg List.length hfront
  have hself : l.all isBlank = false := by
    rwa [ne_eq, List.dropWhile_eq_nil_iff, ← List.all_eq_true, Bool.not_eq_true] at hl
  have hlength : (body.takeWhile (· == '\n')).length + overlooked body = above.length := by
    have hempty : ∀ m : Text, m.isEmpty → m.all isBlank := by
      rintro (_ | ⟨c, m⟩) hm
      · rfl
      · cases hm
    have hnonempty : l ≠ [] := fun hnil => hl (by rw [hnil]; rfl)
    rw [length_takeWhile_newline ⟨l, by simp [hbody], hnonempty⟩, overlooked,
      length_takeWhile_add hempty, hbody, List.takeWhile_append_of_pos hblank,
      List.takeWhile_cons_of_neg (by simp [hself]), List.append_nil]
  intro i u hu
  have hi : (l.dropWhile isBlank :: below)[i]? = some u := by
    rw [hfront, List.getElem?_append_left (List.getElem?_eq_some_iff.mp hu).1, hu]
  rw [hlength, hbody, List.getElem?_append_right (Nat.le_add_right _ _), Nat.add_sub_cancel_left]
  cases i with
  | zero =>
    obtain rfl : l.dropWhile isBlank = u := by simpa using hi
    exact ⟨l, rfl, (List.dropWhile_eq_self_iff.mpr (List.dropWhile_get_zero_not _ l)).symm⟩
  | succ i => exact ⟨u, by simpa using hi, rfl⟩

/-! ## The reports -/

namespace Block

variable {b : Block} {d : Diagnostic}

theorem settingLines_badge (hb : b.component = .badge) (hline : b.lineno ≠ 0) :
    b.settingLines =
      ((splitBadgeBody b.body).1, b.lineno + 1 + (b.body.takeWhile (· == '\n')).length) := by
  have hheader : b.hasHeaderOption = false := by
    rw [hasHeaderOption, hb]
    rfl
  simp [settingLines, hheader, hb, hline]

/-- A report on an option line of a badge is made at a line of the body that gives cause for it. It has the
number of that line less the lines overlooked. -/
theorem badge_reports_placed (hb : b.component = .badge) (hline : b.lineno ≠ 0) (hd : d ∈ b.reports)
    (hp : d.problem.isOptionLine) :
    ∃ (j : Nat) (l : Text), (lines b.body)[j]? = some l ∧ d.line = trim l ∧
      b.reader.Rejects (lines b.body) j d.problem ∧
      ∃ n : Nat, d.lineno = some (n : Int) ∧ n + overlooked b.body = b.lineno + 1 + j := by
  have hread := mem_read_of_mem_reports hd hp
  obtain ⟨i, u, hu, hreject, hreport⟩ := OptionReader.exists_rejects_of_mem_read hread
  have hne := (of_mem_reports hd).2.1
  rw [settingLines_badge hb hline] at hu hreject hne
  dsimp only at hu hreject hne
  have hflat : ∀ m ∈ (splitBadgeBody b.body).1, '\n' ∉ m := fun m hm =>
    newline_notMem_of_mem_lines ((List.dropLast_sublist _).subset hm)
  have hlines : lines (unlines (splitBadgeBody b.body).1) = (splitBadgeBody b.body).1 := by
    rw [lines_unlines hne, flatMap_lines_eq_self hflat]
  rw [hlines] at hu hreject
  have hbelow := exists_standBelow_splitBadgeBody b.body hne
  obtain ⟨l, hl, hblanks⟩ := hbelow i u hu
  refine ⟨_, l, hl, ?_, hreject.shift hbelow hflat fun m hm => newline_notMem_of_mem_lines hm,
    b.lineno + 1 + (b.body.takeWhile (· == '\n')).length + i, ?_, by omega⟩
  · have htrim : trim u = trim l := congrArg trimEnd hblanks.symm
    rw [hreport, ← htrim]
    rfl
  · rw [hreport, OptionReader.report, reader, settingLines_badge hb hline,
      knownLine_of_ne_zero (by omega)]
    simp

theorem badge_reports_placed_below_blanks :
    let b : Block := ⟨.badge, [], [], " \nno option\nnew", [], 4, 8, 0⟩
    let d : Diagnostic := ⟨"no option", .malformedOption, some 5, some "badge".toList, none⟩
    b.component = .badge ∧ b.lineno ≠ 0 ∧ d ∈ b.reports ∧ d.problem.isOptionLine ∧
      ∃ (j : Nat) (l : Text), (lines b.body)[j]? = some l ∧ d.line = trim l ∧
        b.reader.Rejects (lines b.body) j d.problem ∧
        ∃ n : Nat, d.lineno = some (n : Int) ∧ n + overlooked b.body = b.lineno + 1 + j := by
  intro b d
  have hd : d ∈ b.reports := by decide
  exact ⟨rfl, by decide, hd, rfl, badge_reports_placed rfl (by decide) hd rfl⟩

theorem not_badge_reports_in_place :
    ¬ ∀ (b : Block) (d : Diagnostic), b.component = .badge → b.lineno ≠ 0 → d ∈ b.reports →
      d.problem.isOptionLine →
      ∃ (j : Nat) (l : Text), (lines b.body)[j]? = some l ∧ d.line = trim l ∧
        b.reader.Rejects (lines b.body) j d.problem ∧ d.lineno = some ((b.lineno + 1 + j : Nat) : Int) := by
  intro h
  obtain ⟨j, l, hl, hline, -, hnumber⟩ :=
    h ⟨.badge, [], [], " \nno option\nnew", [], 4, 8, 0⟩
      ⟨"no option", .malformedOption, some 5, some "badge".toList, none⟩
      rfl (by decide) (by decide) rfl
  obtain rfl : j = 0 := by
    have := Option.some.inj hnumber
    simp at this
    omega
  have hfirst : (lines " \nno option\nnew")[0]? = some [' '] := by decide
  obtain rfl : [' '] = l := Option.some.inj (hfirst.symm.trans hl)
  revert hline
  decide

end Block

end BlockMarkup
