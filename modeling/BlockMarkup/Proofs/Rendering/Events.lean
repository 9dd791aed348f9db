import BlockMarkup.Transpiler
import BlockMarkup.Proofs.Rendering.Recursion

/-!
# The events of a rendering

While a forest is rendered, blocks of unknown components are reported and blocks of known ones
handed over. These events make up all that a rendering adds to its context besides the count of
accordions, and they depend on that count and the place of the pictograms alone (`recursive_eq`).
So does the rendered text, which is also defined for the time when only some components have been
rendered (`Forest.rendered`).
-/

namespace BlockMarkup

open Text

inductive Event
  | unknown (report : Diagnostic)
  | handed (h : Handover)
deriving DecidableEq

namespace Event

def reports : Event → List Diagnostic
  | unknown d => [d]
  | handed h => h.block.reports

def handover? : Event → Option Handover
  | unknown _ => none
  | handed h => some h

end Event

namespace Context

/-- A context after some events, during which so many accordions got their number. -/
def record (ctx : Context) (drawn : Nat) (es : List Event) : Context where
  pictograms := ctx.pictograms
  accordions := ctx.accordions + drawn
  reports := ctx.reports ++ es.flatMap Event.reports
  handovers := ctx.handovers.map (· ++ es.filterMap Event.handover?)

@[simp] theorem record_pictograms (ctx : Context) (drawn : Nat) (es : List Event) :
    (ctx.record drawn es).pictograms = ctx.pictograms := rfl

@[simp] theorem record_accordions (ctx : Context) (drawn : Nat) (es : List Event) :
    (ctx.record drawn es).accordions = ctx.accordions + drawn := rfl

@[simp] theorem record_nil (ctx : Context) : ctx.record 0 [] = ctx := by
  obtain ⟨p, k, ds, hs⟩ := ctx
  cases hs <;> simp [record]

@[simp] theorem record_record (ctx : Context) (j k : Nat) (es fs : List Event) :
    (ctx.record j es).record k fs = ctx.record (j + k) (es ++ fs) := by
  obtain ⟨p, n, ds, hs⟩ := ctx
  cases hs <;> simp [record, Nat.add_assoc]

end Context

/-! ## One block -/

namespace Node

/-- Closed blocks of known components give way to HTML. -/
def isRendered (n : Node) : Bool := n.closing.isSome && n.opening.component?.isSome

/-- Closed accordions draw a number. -/
def draws (n : Node) : Bool := n.closing.isSome && n.opening.component? == some .accordion

/-- How many numbers a block draws. -/
def drawn (n : Node) : Nat := if n.draws then 1 else 0

/-- The number of a block, when so many accordions have one. -/
def number? (n : Node) (k : Nat) : Option Nat := if n.draws then some (k + 1) else none

def announcement (n : Node) : List Event :=
  match n.closing, n.opening.component? with
  | some _, none =>
    [.unknown
      ⟨trim n.opening.line, .unknownComponent n.opening.keyword, some n.opening.lineno, none, none⟩]
  | _, _ => []

def handing (n : Node) (k : Nat) (inside : List Text) : List Event :=
  match n.closing, n.opening.component? with
  | some closing, some c => [.handed ⟨n.block c closing inside, n.number? k⟩]
  | _, _ => []

/-- What stands for a block in a text where the components that are ready have been rendered. -/
def html (ready : Component → Bool) (pictograms : Text) (n : Node) (k : Nat) (inside : List Text) :
    Text :=
  match n.closing, n.opening.component? with
  | some closing, some c =>
    if ready c then (n.block c closing inside).html pictograms ((n.number? k).getD 0)
    else n.around inside
  | _, _ => n.around inside

theorem exists_of_isRendered {n : Node} (h : n.isRendered) :
    ∃ closing c, n.closing = some closing ∧ n.opening.component? = some c := by
  simp only [isRendered, Bool.and_eq_true, Option.isSome_iff_exists] at h
  obtain ⟨⟨closing, hcl⟩, c, hc⟩ := h
  exact ⟨closing, c, hcl, hc⟩

theorem handing_eq {n : Node} {closing : Closing} {c : Component}
    (hcl : n.closing = some closing) (hc : n.opening.component? = some c) (k : Nat)
    (inside : List Text) :
    n.handing k inside = [.handed ⟨n.block c closing inside, n.number? k⟩] := by
  rw [handing, hcl, hc]

theorem handing_of_not_rendered {n : Node} (h : n.isRendered = false) (k : Nat)
    (inside : List Text) : n.handing k inside = [] := by
  unfold handing
  split
  · next closing c hcl hc => simp [isRendered, hcl, hc] at h
  · rfl

theorem html_of_rendered {n : Node} {closing : Closing} {c : Component}
    (hcl : n.closing = some closing) (hc : n.opening.component? = some c) (pictograms : Text) (k : Nat)
    (inside : List Text) :
    n.html (fun _ => true) pictograms k inside =
      (n.block c closing inside).html pictograms ((n.number? k).getD 0) := by
  simp [html, hcl, hc]

theorem html_of_not_rendered {ready : Component → Bool} {pictograms : Text} {n : Node}
    (h : n.isRendered = false) (k : Nat) (inside : List Text) :
    n.html ready pictograms k inside = n.around inside := by
  unfold html
  split
  · next closing c hcl hc => simp [isRendered, hcl, hc] at h
  · rfl

theorem announce_eq (n : Node) (ctx : Context) :
    n.announce ctx = (n.number? ctx.accordions, ctx.record n.drawn n.announcement) := by
  obtain ⟨o, i, c⟩ := n
  obtain ⟨p, k, ds, hs⟩ := ctx
  unfold announce number? drawn draws announcement
  rcases c with _ | cl <;> rcases ho : o.component? with _ | c
  · simp
  · simp
  · cases hs <;> simp [Context.record, Context.report, Event.reports, Event.handover?]
  · cases c <;> simp [Context.record, Context.draw]

theorem close_eq (n : Node) (k : Nat) (inside : List Text) (ctx : Context) :
    n.close (n.number? k) inside ctx =
      (n.html (fun _ => true) ctx.pictograms k inside, ctx.record 0 (n.handing k inside)) := by
  obtain ⟨o, i, c⟩ := n
  unfold close html handing
  rcases c with _ | cl <;> rcases ho : o.component? with _ | c
  · simp
  · simp
  · simp
  · have hnumber : ctx.numberFor (block ⟨o, i, some cl⟩ c cl inside) (number? ⟨o, i, some cl⟩ k) =
        ((number? ⟨o, i, some cl⟩ k).getD 0, ctx) := by
      unfold number? draws
      cases c <;> simp [ho, Context.numberFor, block]
    simp [Context.hand, hnumber, Context.record, Context.report, Event.reports, Event.handover?]

/-- Closed, but of no component. -/
def isUnknown (n : Node) : Bool := n.isClosed && n.opening.component?.isNone

def unknownReport (n : Node) : Diagnostic :=
  ⟨trim n.opening.line, .unknownComponent n.opening.keyword, some n.opening.lineno, none, none⟩

theorem announcement_eq (n : Node) :
    n.announcement = if n.isUnknown then [.unknown n.unknownReport] else [] := by
  obtain ⟨o, i, cl⟩ := n
  unfold announcement isUnknown isClosed
  rcases cl with _ | cl <;> rcases o.component? with _ | c <;> simp [unknownReport]

theorem of_mem_handing {n : Node} {k : Nat} {inside : List Text} {e : Event}
    (he : e ∈ n.handing k inside) :
    ∃ cl c, n.closing = some cl ∧ n.opening.component? = some c ∧
      e = .handed ⟨n.block c cl inside, n.number? k⟩ := by
  unfold handing at he
  split at he
  · next cl c hcl hc => exact ⟨cl, c, hcl, hc, List.mem_singleton.mp he⟩
  · cases he

end Node

/-! ## A forest -/

namespace Forest

/-- How many accordions get a number. -/
def accordions : Forest → Nat
  | nil => 0
  | line _ _ f => f.accordions
  | block o i c f => Node.drawn ⟨o, i, c⟩ + i.accordions + f.accordions

/-- The pieces of a forest when the components that are ready have been rendered; `k` accordions
before it have their numbers. -/
def rendered (ready : Component → Bool) (pictograms : Text) : Forest → Nat → List Text
  | nil, _ => []
  | line _ t f, k => t :: f.rendered ready pictograms k
  | block o i c f, k =>
    Node.html ready pictograms ⟨o, i, c⟩ k
        (i.rendered ready pictograms (k + Node.drawn ⟨o, i, c⟩)) ::
      f.rendered ready pictograms (k + Node.drawn ⟨o, i, c⟩ + i.accordions)

/-- What happens while a forest is rendered. -/
def events (pictograms : Text) : Forest → Nat → List Event
  | nil, _ => []
  | line _ _ f, k => f.events pictograms k
  | block o i c f, k =>
    Node.announcement ⟨o, i, c⟩ ++
      i.events pictograms (k + Node.drawn ⟨o, i, c⟩) ++
      Node.handing ⟨o, i, c⟩ k
        (i.rendered (fun _ => true) pictograms (k + Node.drawn ⟨o, i, c⟩)) ++
      f.events pictograms (k + Node.drawn ⟨o, i, c⟩ + i.accordions)

/-- The blocks that are handed over while a forest is rendered. -/
def handed (pictograms : Text) (f : Forest) (k : Nat) : List Handover :=
  (f.events pictograms k).filterMap Event.handover?

theorem handed_block {pictograms : Text} {o : Opening} {i f : Forest} {c : Option Closing} (k : Nat) :
    (block o i c f).handed pictograms k =
      i.handed pictograms (k + Node.drawn ⟨o, i, c⟩) ++
        (Node.handing ⟨o, i, c⟩ k
          (i.rendered (fun _ => true) pictograms (k + Node.drawn ⟨o, i, c⟩))).filterMap
            Event.handover? ++
        f.handed pictograms (k + Node.drawn ⟨o, i, c⟩ + i.accordions) := by
  have hnone : (Node.announcement ⟨o, i, c⟩).filterMap Event.handover? = [] := by
    unfold Node.announcement
    split <;> rfl
  simp only [handed, events, List.filterMap_append, hnone, List.nil_append]

/-- Every event is that of a block. -/
theorem exists_of_mem_events {pictograms : Text} {f : Forest} {k : Nat} {e : Event}
    (he : e ∈ f.events pictograms k) :
    ∃ n ∈ f.preorder, (n.isUnknown ∧ e = .unknown n.unknownReport) ∨
      ∃ j inside, e ∈ n.handing j inside := by
  induction f generalizing k with
  | nil => cases he
  | line _ _ f ih => exact ih he
  | block o i c f ihi ihf =>
    rw [events, Node.announcement_eq] at he
    rcases List.mem_append.mp he with he | he
    · rcases List.mem_append.mp he with he | he
      · rcases List.mem_append.mp he with he | he
        · split at he
          · next hunknown =>
            exact ⟨_, List.mem_cons_self, .inl ⟨hunknown, List.mem_singleton.mp he⟩⟩
          · cases he
        · obtain ⟨n, hn, h⟩ := ihi he
          exact ⟨n, List.mem_cons_of_mem _ (List.mem_append_left _ hn), h⟩
      · exact ⟨_, List.mem_cons_self, .inr ⟨_, _, he⟩⟩
    · obtain ⟨n, hn, h⟩ := ihf he
      exact ⟨n, List.mem_cons_of_mem _ (List.mem_append_right _ hn), h⟩

end Forest

namespace Rendering

theorem recursive_eq (f : Forest) (ctx : Context) :
    recursive f ctx =
      (f.rendered (fun _ => true) ctx.pictograms ctx.accordions,
        ctx.record f.accordions (f.events ctx.pictograms ctx.accordions)) := by
  induction f generalizing ctx with
  | nil => simp [recursive, Forest.rendered, Forest.accordions, Forest.events]
  | line n t f ih => simp [recursive, ih, Forest.rendered, Forest.accordions, Forest.events]
  | block o i c f ihi ihf =>
    simp only [recursive, Node.announce_eq, ihi, Node.close_eq, ihf]
    simp [Forest.rendered, Forest.accordions, Forest.events, Nat.add_assoc]

theorem nested_eq (t : Text) (ctx : Context) :
    nested t ctx =
      (unlines ((Forest.ofText t).rendered (fun _ => true) ctx.pictograms ctx.accordions),
        (ctx.report (Forest.ofText t).reports).record (Forest.ofText t).accordions
          ((Forest.ofText t).events ctx.pictograms ctx.accordions)) := by
  unfold nested
  simp only [forest_eq_recursive, recursive_eq]
  rfl

end Rendering

/-! ## A nested rendering -/

namespace Transpiler

variable (pictograms separator t : Text)

theorem text_nested :
    (transpile ⟨.nested, pictograms, separator⟩ t).text =
      unlines ((Forest.ofText t).rendered (fun _ => true) pictograms 0) := by
  have hnested := Rendering.nested_eq t (.start pictograms)
  exact congrArg Prod.fst hnested

theorem reports_nested :
    (transpile ⟨.nested, pictograms, separator⟩ t).reports =
      Diagnostic.sort ((Forest.ofText t).reports ++
        ((Forest.ofText t).events pictograms 0).flatMap Event.reports) := by
  simp [transpile, render, Rendering.nested_eq, Context.start, Context.report, Context.record]

theorem handovers_nested :
    handovers ⟨.nested, pictograms, separator⟩ t = (Forest.ofText t).handed pictograms 0 := by
  simp [handovers, render, Rendering.nested_eq, Context.keeping, Context.report, Context.record,
    Forest.handed]

end Transpiler

end BlockMarkup
