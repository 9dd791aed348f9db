import BlockMarkup.Proofs.Document.Layout
import BlockMarkup.Proofs.Document.Shift

/-!
# Joined texts

A closing marker further down may turn the last one of a text into the end of an option section, and
may close a block that the text leaves open. Where neither happens, the forest of two texts, one
below the other, is made of their forests (`Forest.ofText_append`).

1. What stands below some lines changes no option section in them (`Settled`) when it holds no
   closing marker, or when there is one below each opener and no section is `Latent`.
2. Then the tokens are those of both parts (`Token.ofLines_append`).
3. In a text without unterminated blocks, a closing marker stands below each opener
   (`Forest.exists_isCloser`).
-/

namespace BlockMarkup

open Text Marker Layout

/-! ## Sections that what follows would change -/

/-- The last closing marker stands right below an opener and option lines that would be its section
if another closing marker came further down. -/
def Layout.Latent (ls : List Text) : Prop :=
  ∃ j ∈ lastCloser? ls, ∃ i < j, ∃ m ∈ openerAt? ls i, ∃ c ∈ Component.ofKeyword? m.keyword,
    c.hasOptionSection ∧ (∀ x < j, i < x → ls[x]?.any Setting.isLine) ∧
      ∃ x < j, i < x ∧ ls[x]?.any c.knowsLine

instance (ls : List Text) : Decidable (Latent ls) :=
  inferInstanceAs (Decidable (∃ j ∈ lastCloser? ls, ∃ i < j, ∃ m ∈ openerAt? ls i,
    ∃ c ∈ Component.ofKeyword? m.keyword, c.hasOptionSection ∧
      (∀ x < j, i < x → ls[x]?.any Setting.isLine) ∧ ∃ x < j, i < x ∧ ls[x]?.any c.knowsLine))

theorem Marker.lastCloser?_append_cons {marker : Text} {below : List Text} (above : List Text)
    (hmarker : isCloser marker) (hbelow : ∀ l ∈ below, isCloser l = false) :
    lastCloser? (above ++ marker :: below) = some above.length := by
  induction above with
  | nil =>
    rw [List.nil_append, lastCloser?_cons_of_none (lastCloser?_eq_none_iff.mpr hbelow), hmarker]
    rfl
  | cons l above ih => exact lastCloser?_cons_of_some ih

theorem Layout.latent_of_lines {above options below : List Text} {l marker : Text} {m : Opener}
    {c : Component} (ho : opener? l = some m) (hc : Component.ofKeyword? m.keyword = some c)
    (hallowed : c.hasOptionSection) (hoptions : ∀ t ∈ options, Setting.isLine t)
    (hknown : ∃ t ∈ options, c.knowsLine t) (hmarker : isCloser marker)
    (hbelow : ∀ t ∈ below, isCloser t = false) :
    Latent (above ++ l :: (options ++ marker :: below)) := by
  have hsplit : above ++ l :: (options ++ marker :: below) =
      (above ++ l :: options) ++ marker :: below := by simp
  have hoption : ∀ x (hx : x < options.length),
      (above ++ l :: (options ++ marker :: below))[above.length + 1 + x]? = some options[x] := by
    intro x hx
    rw [List.getElem?_append_right (by omega)]
    have hindex : above.length + 1 + x - above.length = x + 1 := by omega
    rw [hindex, List.getElem?_cons_succ, List.getElem?_append_left hx, List.getElem?_eq_getElem hx]
  refine ⟨above.length + 1 + options.length, ?_, above.length, by omega, m, ?_, c, hc, hallowed,
    ?_, ?_⟩
  · rw [hsplit, Option.mem_def, lastCloser?_append_cons _ hmarker hbelow, List.length_append,
      List.length_cons]
    congr 1
    omega
  · rw [Option.mem_def, openerAt?_eq_some_iff]
    exact ⟨l, by simp, ho⟩
  · intro x hx hlt
    obtain ⟨y, rfl⟩ := Nat.exists_eq_add_of_lt hlt
    have hy : y < options.length := by omega
    have hindex : above.length + y + 1 = above.length + 1 + y := by omega
    rw [hindex, hoption y hy, Option.any_some]
    exact hoptions _ (List.getElem_mem hy)
  · obtain ⟨t, ht, hknows⟩ := hknown
    obtain ⟨x, hx, rfl⟩ := List.getElem_of_mem ht
    refine ⟨above.length + 1 + x, by omega, by omega, ?_⟩
    rw [hoption x hx, Option.any_some]
    exact hknows

namespace OptionSection

/-- A marker below options stands in the first part of some lines, if a closing marker stands there
or none stands in the second part. -/
theorem exists_marker_of_append {rest ms options below : List Text} {marker : Text}
    (heq : rest ++ ms = options ++ marker :: below) (hoptions : ∀ l ∈ options, isCloser l = false)
    (hmarker : isCloser marker)
    (h : (∃ l ∈ rest, isCloser l) ∨ ∀ l ∈ ms, isCloser l = false) :
    ∃ behind, rest = options ++ marker :: behind ∧ below = behind ++ ms := by
  -- Otherwise the first part ends in the options, and the marker stands in the second one.
  have hnot : ∀ tail, options = rest ++ tail → marker ∉ ms := by
    intro tail htail hmem
    rcases h with ⟨l, hl, hclose⟩ | h
    · rw [hoptions l (by simp [htail, hl])] at hclose
      cases hclose
    · rw [h marker hmem] at hmarker
      cases hmarker
  rcases List.append_eq_append_iff.mp heq with ⟨tail, htail, hms⟩ | ⟨front, hrest, hfront⟩
  · exact absurd (hms ▸ by simp) (hnot tail htail)
  · cases front with
    | nil =>
      have hms : ms = marker :: below := hfront.symm
      refine absurd (hms ▸ List.mem_cons_self) (hnot [] ?_)
      simpa using hrest.symm
    | cons t front =>
      obtain ⟨rfl, hbelow⟩ := List.cons.inj hfront
      exact ⟨front, hrest, hbelow⟩

/-- What follows leaves a section alone if it stands the same without it. -/
theorem length_reach_append {c : Component} {rest ms : List Text}
    (hseam : (∃ l ∈ rest, isCloser l) ∨ ∀ l ∈ ms, isCloser l = false)
    (h : ∀ options marker behind, rest = options ++ marker :: behind →
      Stands c options marker (behind ++ ms) → ∃ l ∈ behind, isCloser l) :
    length c (reach (rest ++ ms)) (rest ++ ms) = length c (reach rest) rest := by
  have hiff : ∀ n, length c (reach (rest ++ ms)) (rest ++ ms) = n + 1 ↔
      length c (reach rest) rest = n + 1 := by
    intro n
    rw [length_reach_eq_succ_iff, length_reach_eq_succ_iff]
    constructor
    · rintro ⟨options, marker, below, heq, hlen, hs⟩
      have hoptions : ∀ l ∈ options, isCloser l = false := fun l hl =>
        isCloser_eq_false_of_isLine (hs.areOptions l hl)
      obtain ⟨behind, hrest, rfl⟩ := exists_marker_of_append heq hoptions hs.closes hseam
      exact ⟨options, marker, behind, hrest, hlen,
        { hs with closerBelow := h options marker behind hrest hs }⟩
    · rintro ⟨options, marker, behind, rfl, hlen, hs⟩
      obtain ⟨l, hl, hclose⟩ := hs.closerBelow
      refine ⟨options, marker, behind ++ ms, by simp, hlen, ?_⟩
      exact { hs with closerBelow := ⟨l, List.mem_append_left _ hl, hclose⟩ }
  cases hn : length c (reach rest) rest with
  | zero =>
    by_contra hne
    obtain ⟨n, hn'⟩ := Nat.exists_eq_succ_of_ne_zero hne
    rw [(hiff n).mp hn'] at hn
    cases hn
  | succ n => exact (hiff n).mpr hn

/-- Without closing markers, what follows leaves all sections alone. -/
theorem length_reach_append_of_no_closer (c : Component) (rest : List Text) {ms : List Text}
    (h : ∀ l ∈ ms, isCloser l = false) :
    length c (reach (rest ++ ms)) (rest ++ ms) = length c (reach rest) rest := by
  refine length_reach_append (.inr h) fun options marker behind _ hs => ?_
  obtain ⟨t, ht, hclose⟩ := hs.closerBelow
  rcases List.mem_append.mp ht with ht | ht
  · exact ⟨t, ht, hclose⟩
  · rw [h t ht] at hclose
    cases hclose

theorem length_reach_le (c : Component) (rest : List Text) :
    length c (reach rest) rest ≤ rest.length := by
  cases hn : length c (reach rest) rest with
  | zero => exact Nat.zero_le _
  | succ n =>
    obtain ⟨options, marker, below, rfl, rfl, -⟩ := length_reach_eq_succ_iff.mp hn
    simp

theorem opener?_eq_none_of_mem_take {c : Component} {rest : List Text} {l : Text}
    (hl : l ∈ rest.take (length c (reach rest) rest)) : opener? l = none := by
  cases hn : length c (reach rest) rest with
  | zero =>
    rw [hn] at hl
    cases hl
  | succ n =>
    obtain ⟨options, marker, below, hrest, rfl, hs⟩ := length_reach_eq_succ_iff.mp hn
    have htake : rest.take (options.length + 1) = options ++ [marker] := by
      rw [hrest, List.append_cons, List.take_left' (by simp)]
    rw [hn, htake] at hl
    exact hs.opener?_eq_none hl

end OptionSection

/-! ## Tokens of joined lines -/

namespace Token

/-- What stands below `ls` changes no option section in it. -/
def Settled (ls below : List Text) : Prop :=
  ∀ l rest m, l :: rest <:+ ls → opener? l = some m →
    sectionLength m.keyword (reach (rest ++ below)) (rest ++ below) =
      sectionLength m.keyword (reach rest) rest

variable {ls ms : List Text}

theorem settled_of_no_closer (h : ∀ l ∈ ms, isCloser l = false) : Settled ls ms := by
  intro l rest m _ _
  unfold sectionLength
  cases Component.ofKeyword? m.keyword with
  | none => rfl
  | some c => exact OptionSection.length_reach_append_of_no_closer c rest h

theorem settled_of_closers (hclosers : ∀ l rest m, l :: rest <:+ ls → opener? l = some m →
    ∃ t ∈ rest, isCloser t) (hlatent : ¬ Latent ls) : Settled ls ms := by
  intro l rest m hsuffix ho
  unfold sectionLength
  cases hc : Component.ofKeyword? m.keyword with
  | none => rfl
  | some c =>
    refine OptionSection.length_reach_append (.inl (hclosers l rest m hsuffix ho)) ?_
    intro options marker behind hrest hs
    by_contra hno
    obtain ⟨above, rfl⟩ := hsuffix
    rw [hrest] at hlatent
    refine hlatent (latent_of_lines ho hc hs.allowed hs.areOptions hs.known hs.closes ?_)
    simpa using hno

theorem sectionLength_reach_le (keyword : Text) (rest : List Text) :
    sectionLength keyword (reach rest) rest ≤ rest.length := by
  unfold sectionLength
  split
  · exact OptionSection.length_reach_le _ _
  · exact Nat.zero_le _

theorem opener?_eq_none_of_mem_section {keyword l : Text} {rest : List Text}
    (hl : l ∈ rest.take (sectionLength keyword (reach rest) rest)) : opener? l = none := by
  unfold sectionLength at hl
  split at hl
  · exact OptionSection.opener?_eq_none_of_mem_take hl
  · cases hl

theorem Settled.tail {l : Text} (h : Settled (l :: ls) ms) : Settled ls ms :=
  fun t rest m hsuffix => h t rest m (hsuffix.trans (List.suffix_cons l ls))

theorem scan_append (h : Settled ls ms) : ∀ lineno skip, skip ≤ ls.length →
    scan (reach (ls ++ ms)) lineno skip (ls ++ ms) =
      scan (reach ls) lineno skip ls ++ scan (reach ms) (lineno + ls.length) 0 ms := by
  induction ls with
  | nil =>
    intro lineno skip hskip
    obtain rfl : skip = 0 := Nat.le_zero.mp hskip
    rfl
  | cons l rest ih =>
    intro lineno skip hskip
    have hnext : lineno + (l :: rest).length = lineno + 1 + rest.length := by
      rw [List.length_cons]
      omega
    cases skip with
    | succ n =>
      simp only [List.cons_append, scan, reach_cons_sub_one]
      rw [ih h.tail (lineno + 1) n (Nat.le_of_succ_le_succ hskip), hnext]
    | zero =>
      simp only [List.cons_append, scan, reach_cons_sub_one]
      cases ho : opener? l with
      | none =>
        rw [ih h.tail (lineno + 1) 0 (Nat.zero_le _), hnext]
        rfl
      | some m =>
        have hle := sectionLength_reach_le m.keyword rest
        have hsize := h l rest m (List.suffix_refl _) ho
        simp only [hsize]
        rw [ih h.tail (lineno + 1) _ hle, hnext, List.take_append_of_le_length hle, List.cons_append]

theorem ofLines_append (h : Settled ls ms) :
    ofLines (ls ++ ms) = ofLines ls ++ (ofLines ms).map (Token.shift ls.length) := by
  unfold ofLines
  rw [← scan_add]
  exact scan_append h 1 0 (Nat.zero_le _)

theorem isCloser_of_closing_mem_scan {cl : Closing} : ∀ limit lineno skip,
    .closing cl ∈ scan limit lineno skip ls → ∃ l ∈ ls, isCloser l := by
  induction ls with
  | nil =>
    intro limit lineno skip h
    cases h
  | cons l rest ih =>
    intro limit lineno skip h
    have hrest : ∀ limit lineno skip, .closing cl ∈ scan limit lineno skip rest →
        ∃ t ∈ l :: rest, isCloser t := by
      intro limit lineno skip h
      obtain ⟨t, ht, hclose⟩ := ih limit lineno skip h
      exact ⟨t, List.mem_cons_of_mem _ ht, hclose⟩
    cases skip with
    | succ n => exact hrest _ _ _ h
    | zero =>
      cases ho : opener? l with
      | some m =>
        simp only [scan, ho, List.mem_cons, reduceCtorEq, false_or] at h
        exact hrest _ _ _ h
      | none =>
        simp only [scan, ho, List.mem_cons] at h
        by_cases hc : isCloser l
        · exact ⟨l, List.mem_cons_self, hc⟩
        · simp only [hc, Bool.false_eq_true, if_false, reduceCtorEq, false_or] at h
          exact hrest _ _ _ h

end Token

/-! ## Forests of joined texts -/

namespace Forest

variable {ls ms : List Text}

/-- If no block is left open, a closing marker stands below each opener that is not passed over. -/
theorem exists_isCloser_of_scan : ∀ lineno skip, (∀ l ∈ ls.take skip, opener? l = none) →
    ((Token.scan (reach ls) lineno skip ls).foldr Pending.read ⟨nil, []⟩).unclosed = [] →
    ∀ l rest m, l :: rest <:+ ls → opener? l = some m → ∃ t ∈ rest, isCloser t := by
  induction ls with
  | nil =>
    intro lineno skip _ _ l rest m hsuffix
    cases List.suffix_nil.mp hsuffix
  | cons l₀ rest₀ ih =>
    intro lineno skip hskip hclosed l rest m hsuffix ho
    rw [List.suffix_cons_iff] at hsuffix
    cases skip with
    | succ n =>
      rw [List.take_succ_cons, List.forall_mem_cons] at hskip
      rw [Token.scan, reach_cons_sub_one] at hclosed
      rcases hsuffix with heq | hsuffix
      · obtain ⟨rfl, -⟩ := List.cons.inj heq
        rw [hskip.1] at ho
        cases ho
      · exact ih _ n hskip.2 hclosed l rest m hsuffix ho
    | zero =>
      simp only [Token.scan, reach_cons_sub_one] at hclosed
      cases ho₀ : opener? l₀ with
      | none =>
        simp only [ho₀, List.foldr_cons, Pending.unclosed_read, List.append_eq_nil_iff] at hclosed
        rcases hsuffix with heq | hsuffix
        · obtain ⟨rfl, -⟩ := List.cons.inj heq
          rw [ho₀] at ho
          cases ho
        · exact ih _ 0 (by simp) hclosed.2 l rest m hsuffix ho
      | some m₀ =>
        simp only [ho₀, List.foldr_cons, Pending.unclosed_read, List.append_eq_nil_iff] at hclosed
        obtain ⟨hopen, hclosed⟩ := hclosed
        rcases hsuffix with heq | hsuffix
        · obtain ⟨rfl, rfl⟩ := List.cons.inj heq
          -- A token behind the opener closes it, and its line is a closing marker.
          by_contra hno
          rw [Pending.waiting_foldr_read fun c hc =>
            hno (Token.isCloser_of_closing_mem_scan _ _ _ hc)] at hopen
          cases hopen
        · exact ih _ _ (fun t ht => Token.opener?_eq_none_of_mem_section ht) hclosed l rest m
            hsuffix ho

theorem exists_isCloser (h : (ofTokens (Token.ofLines ls)).unclosed = []) :
    ∀ l rest m, l :: rest <:+ ls → opener? l = some m → ∃ t ∈ rest, isCloser t := by
  rw [ofTokens, Pending.unclosed_finish] at h
  exact exists_isCloser_of_scan 1 0 (by simp) h

/-- Lines below which nothing changes: what follows holds no closing marker, or all blocks are closed
and no section is latent. -/
theorem ofTokens_ofLines_append (h : (∀ l ∈ ms, isCloser l = false) ∨
    (ofTokens (Token.ofLines ls)).unclosed = [] ∧ ¬ Latent ls) :
    ofTokens (Token.ofLines (ls ++ ms)) =
      (ofTokens (Token.ofLines ls)).extend ((ofTokens (Token.ofLines ms)).shift ls.length) := by
  rw [← ofTokens_shift]
  rcases h with h | ⟨hclosed, hlatent⟩
  · rw [Token.ofLines_append (Token.settled_of_no_closer h)]
    refine ofTokens_append (.inr fun c hc => ?_)
    obtain ⟨t, ht, heq⟩ := List.mem_map.mp hc
    cases t with
    | closing c =>
      obtain ⟨l, hl, hclose⟩ := Token.isCloser_of_closing_mem_scan _ _ _ ht
      rw [h l hl] at hclose
      cases hclose
    | opening o => cases heq
    | line n t => cases heq
  · rw [Token.ofLines_append (Token.settled_of_closers (exists_isCloser hclosed) hlatent)]
    exact ofTokens_append (.inl hclosed)

theorem ofText_append {a b : Text} (h : (∀ l ∈ lines b, isCloser l = false) ∨
    (ofText a).unclosed = [] ∧ ¬ Latent (lines a)) :
    ofText (a ++ '\n' :: b) = (ofText a).extend ((ofText b).shift (lines a).length) := by
  unfold ofText Token.ofText
  rw [lines_append_newline]
  exact ofTokens_ofLines_append h

end Forest

end BlockMarkup
