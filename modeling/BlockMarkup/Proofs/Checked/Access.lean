import BlockMarkup.Slides
import BlockMarkup.Rendering.Context
import BlockMarkup.Proofs.OptionSection
import BlockMarkup.Proofs.Text.Lines

/-!
# Access that may fail

Some operations have a result for some arguments alone: the first or last element of a list, what is
taken off a stack, the line at an index, the component under a keyword. Here each of them stops with
a fault where it has none, and what is built on it stops with it. The functions of this namespace do
what those of the same name outside do, access by access, and come out the same (`*_eq`).

This module is about single lines, blocks and slides; a document is read and rendered in the modules
that follow.
-/

namespace BlockMarkup

open Text Marker

/-- Why an operation has no result. -/
inductive Fault
  /-- There is no line at the index. -/
  | pastEnd
  /-- There is no component under the keyword. -/
  | unregistered (keyword : Text)
  /-- There is nothing in the list or on the stack. -/
  | empty
  /-- The component takes no number. -/
  | numbered (c : Component)
deriving DecidableEq

namespace Checked

variable {α β : Type}

@[simp] theorem ok_bind (a : α) (f : α → Except Fault β) : (Except.ok a >>= f) = f a := rfl

/-! ## Lists and stacks -/

def first : List α → Except Fault α
  | [] => .error .empty
  | a :: _ => .ok a

def last (as : List α) : Except Fault α :=
  match as.getLast? with
  | some a => .ok a
  | none => .error .empty

/-- The top of a stack and what is below it. -/
def pop : List α → Except Fault (α × List α)
  | [] => .error .empty
  | a :: as => .ok (a, as)

theorem last_eq {as : List α} (h : as ≠ []) (fallback : α) : last as = .ok (as.getLastD fallback) := by
  unfold last
  rw [List.getLast?_eq_some_getLast h, List.getLastD_eq_getLast?, List.getLast?_eq_some_getLast h]
  rfl

/-! ## The registry -/

def component (keyword : Text) : Except Fault Component :=
  match Component.ofKeyword? keyword with
  | some c => .ok c
  | none => .error (.unregistered keyword)

theorem component_eq {keyword : Text} {c : Component} (h : Component.ofKeyword? keyword = some c) :
    component keyword = .ok c := by
  rw [component, h]

/-! ## Option sections -/

/-- How many lines below an opener are its option section, the marker included. -/
def sectionLength (c : Component) (limit : Nat) (rest : List Text) : Except Fault Nat :=
  match OptionSection.size? c limit rest with
  | .ok (some n) => .ok (n + 1)
  | .ok none => .ok 0
  | .error .pastEnd => .error .pastEnd

theorem reach_le (ls : List Text) : reach ls ≤ ls.length := by
  induction ls with
  | nil => exact Nat.zero_le _
  | cons l ls ih =>
    have hrest := reach_cons_sub_one l ls
    rw [List.length_cons]
    omega

/-- A run of option lines that ends above the last closing marker does not end the text. -/
theorem size?_reach_ok (c : Component) (rest : List Text) :
    ∃ size, OptionSection.size? c (reach rest) rest = .ok size := by
  have hle := reach_le rest
  unfold OptionSection.size?
  simp only
  split
  · next hcond =>
    simp only [Bool.and_eq_true, decide_eq_true_eq] at hcond
    obtain ⟨⟨-, hlt⟩, -⟩ := hcond
    rw [List.getElem?_eq_getElem (hlt.trans_le hle)]
    exact ⟨_, rfl⟩
  · exact ⟨none, rfl⟩

theorem sectionLength_eq (c : Component) (rest : List Text) :
    sectionLength c (reach rest) rest = .ok (OptionSection.length c (reach rest) rest) := by
  obtain ⟨size, hsize⟩ := size?_reach_ok c rest
  rw [sectionLength, OptionSection.length, hsize]
  cases size with
  | none => rfl
  | some n => rfl

/-- The end of an option section never lies past the last line, wherever the section starts. -/
theorem end?_ok (ls : List Text) (start : Nat) (c : Component) :
    ∃ stop, OptionSection.end? ls start c (lastCloser? ls) = .ok stop := by
  have hreach : (lastCloser? ls).getD 0 - start = reach (ls.drop start) := (reach_drop ls start).symm
  obtain ⟨size, hsize⟩ := size?_reach_ok c (ls.drop start)
  exact ⟨_, by rw [OptionSection.end?, hreach, hsize]; rfl⟩

/-- With a last closing marker that is not there it does. -/
example : OptionSection.end? ["open: yes"] 0 .accordion (some 2) = .error .pastEnd := by decide

/-! ## Blocks -/

def splitBadgeBody (body : Text) : Except Fault (List Text × Text) := do
  let ls := lines (trim body)
  let label ← last ls
  return (ls.dropLast, trim label)

theorem splitBadgeBody_eq (body : Text) :
    splitBadgeBody body = .ok (BlockMarkup.splitBadgeBody body) := by
  rw [splitBadgeBody, last_eq (lines_ne_nil _) []]
  rfl

def splitLabel (value fallback : Text) : Except Fault (Text × Text) := do
  let label := value.takeWhile (· ≠ '|')
  let modifier ← first (splitWhen (· == '|') (value.drop (label.length + 1)))
  return (trim label, if (trim modifier).isEmpty then fallback else trim modifier)

theorem splitLabel_eq (value fallback : Text) :
    splitLabel value fallback = .ok (BlockMarkup.splitLabel value fallback) := by
  generalize hlabel : value.takeWhile (· ≠ '|') = label
  generalize hrest : value.dropWhile (· ≠ '|') = rest
  have hvalue : value = label ++ rest := by
    rw [← hlabel, ← hrest, List.takeWhile_append_dropWhile]
  have hsingle : splitWhen (· == '|') label = [label] := by
    refine splitWhen_eq_singleton fun c hc => ?_
    have := List.mem_takeWhile_imp (hlabel ▸ hc)
    simpa using this
  cases rest with
  | nil =>
    rw [List.append_nil] at hvalue
    have hdrop : value.drop (label.length + 1) = [] := by
      rw [hvalue]
      exact List.drop_eq_nil_of_le (Nat.le_succ _)
    rw [splitLabel, hlabel, hdrop, BlockMarkup.splitLabel, hvalue, hsingle]
    rfl
  | cons c modifier =>
    have hbar : c = '|' := by
      have hhead := List.head?_dropWhile_not (fun c => decide (c ≠ '|')) value
      rw [hrest] at hhead
      simpa using hhead
    have hdrop : value.drop (label.length + 1) = modifier := by
      rw [hvalue, List.drop_length_add_append]
      rfl
    have hsplit : splitWhen (· == '|') value = label :: splitWhen (· == '|') modifier := by
      rw [hvalue, hbar, splitWhen_append_cons rfl, hsingle]
      rfl
    obtain ⟨m, ms, hm⟩ := List.exists_cons_of_ne_nil (splitWhen_ne_nil (· == '|') modifier)
    rw [splitLabel, hlabel, hdrop, BlockMarkup.splitLabel, hsplit, hm]
    rfl

/-- The badge of a card or a tile. -/
def linkBadge (o : Options) : Except Fault Text :=
  let value := o.textD "badge" []
  if value.isEmpty then .ok []
  else do
    let (label, modifier) ← splitLabel value "info"
    return Html.element "p" [("class", "fr-badge " ++ Html.variant "fr-badge" modifier)] label

theorem linkBadge_eq (o : Options) : linkBadge o = .ok (Link.badge o) := by
  unfold linkBadge Link.badge
  simp only [splitLabel_eq, ok_bind]
  split
  · rfl
  · rfl

/-- The HTML of a block and the reports on its options. -/
def render (pictograms : Text) (number : Nat) (b : Block) : Except Fault (Text × List Diagnostic) := do
  match b.component with
  | .badge =>
    let (optionLines, label) ← splitBadgeBody b.body
    let (o, ds) := b.reader.read (unlines optionLines)
    return (badgeHtml label o, ds ++ b.component.choices.filterMap (b.choiceReport? o))
  | .card | .tile =>
    let _ ← linkBadge b.options
    return (b.html pictograms number, b.reports)
  | .col | .row | .alert | .callout | .accordion =>
    return (b.html pictograms number, b.reports)

theorem render_eq (pictograms : Text) (number : Nat) (b : Block) :
    render pictograms number b = .ok (b.html pictograms number, b.reports) := by
  unfold render
  cases hc : b.component with
  | badge =>
    have hsetting : b.settingLines.1 = (BlockMarkup.splitBadgeBody b.body).1 := by
      simp [Block.settingLines, Block.hasHeaderOption, hc]
    simp only [splitBadgeBody_eq, ok_bind, Block.html, Block.htmlWith, Block.reports, Block.options,
      hc, hsetting]
    rfl
  | card | tile =>
    simp only [linkBadge_eq, ok_bind]
    rfl
  | col | row | alert | callout | accordion => rfl

/-- Renders a block; only accordions take a number. -/
def hand (ctx : Context) (b : Block) (number : Option Nat) : Except Fault (Text × Context) :=
  if number.isSome && b.component != .accordion then .error (.numbered b.component)
  else do
    let (n, ctx) := ctx.numberFor b number
    let (html, ds) ← render ctx.pictograms n b
    return (html,
      { ctx.report ds with handovers := ctx.handovers.map (· ++ [⟨b, number⟩]) })

theorem hand_eq (ctx : Context) {b : Block} {number : Option Nat}
    (h : number.isSome → b.component = .accordion) : hand ctx b number = .ok (ctx.hand b number) := by
  have hnot : (number.isSome && b.component != .accordion) = false := by
    cases number with
    | none => rfl
    | some n => simp [h rfl]
  rw [hand, hnot]
  simp only [render_eq, ok_bind]
  rfl

/-! ## Slides -/

/-- Cuts lines at the separators, onto the segments cut so far, the last one on top. -/
def segments (separator : Text) : List Text → List (List Text) → Except Fault (List (List Text))
  | [], done => .ok done
  | l :: ls, done =>
    if Slides.isSeparator separator l then segments separator ls ([] :: done)
    else do
      let (segment, above) ← pop done
      segments separator ls ((segment ++ [l]) :: above)

theorem segments_eq (separator : Text) {ls segment : List Text} {ps : List (List Text)}
    {p : List Text} (above : List (List Text))
    (h : splitWhen (Slides.isSeparator separator) ls = p :: ps) :
    segments separator ls (segment :: above) = .ok (((segment ++ p) :: ps).reverse ++ above) := by
  induction ls generalizing segment above p ps with
  | nil =>
    obtain ⟨rfl, rfl⟩ := List.cons.inj h
    simp [segments]
  | cons l ls ih =>
    obtain ⟨q, qs, hq⟩ := List.exists_cons_of_ne_nil
      (splitWhen_ne_nil (Slides.isSeparator separator) ls)
    rw [splitWhen_cons, hq, consPiece] at h
    by_cases hl : Slides.isSeparator separator l
    · rw [if_pos hl] at h
      obtain ⟨rfl, rfl⟩ := List.cons.inj h
      rw [segments, if_pos hl, ih _ hq]
      simp
    · rw [if_neg hl] at h
      obtain ⟨rfl, rfl⟩ := List.cons.inj h
      rw [segments, if_neg hl]
      simp only [pop, ok_bind, ih _ hq]
      simp

def slides (separator t : Text) : Except Fault (List Text) := do
  let done ← segments separator (lines t) [[]]
  return (done.reverse.map fun segment => trim (unlines segment)).filter (!·.isEmpty)

theorem slides_eq (separator t : Text) : slides separator t = .ok (Slides.split separator t) := by
  obtain ⟨p, ps, hp⟩ := List.exists_cons_of_ne_nil
    (splitWhen_ne_nil (Slides.isSeparator separator) (lines t))
  rw [slides, segments_eq separator [] hp, ok_bind, Slides.split, hp]
  simp
  rfl

end Checked

end BlockMarkup
