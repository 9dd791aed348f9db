import Mathlib.Algebra.GroupWithZero.Nat
import BlockMarkup.Proofs.Block

/-!
# Values outside a choice

A key with a fixed choice of values may be set to another one. That is reported once
(`Block.filter_isUnexpected_reports`), but not every component passes over the value. A card does, for it
asks whether the position is one that it knows. Rows, badges and alerts write any text that they are
given into their markup (`Component.passesOver`); only what is no text, and for rows and badges the empty
text, counts as nothing there. In all other cases the HTML differs from that of the same block without
the key (`Block.choice_reported`).
-/

namespace BlockMarkup

open Text Html

/-! ## Options without a key -/

/-- The text of a value; a switch gives the default. -/
def OptionValue.textD : OptionValue → Text → Text
  | .text t, _ => t
  | .switch _, fallback => fallback

namespace Options

variable {key k : Text}

theorem textD_eq_of_get? {o : Options} {v : OptionValue} (h : o.get? key = some v) (fallback : Text) :
    o.textD key fallback = v.textD fallback := by
  rw [textD, h]
  cases v <;> rfl

@[simp] theorem get?_erase_self (o : Options) (key : Text) : (o.erase key).get? key = none := by
  refine List.lookup_eq_none_iff.mpr fun e he => ?_
  have hkey : e.1 ≠ key := by simpa using (List.mem_filter.mp he).2
  simpa using Ne.symm hkey

theorem get?_erase_of_ne (h : k ≠ key) (o : Options) : (o.erase key).get? k = o.get? k := by
  show (Entries.erase key o.entries).lookup k = o.entries.lookup k
  induction o.entries with
  | nil => rfl
  | cons e es ih =>
    obtain ⟨j, v⟩ := e
    rw [List.lookup_cons, ← ih]
    by_cases hj : j = key
    · subst hj
      rw [beq_eq_false_iff_ne.mpr h]
      simp [Entries.erase]
    · simp only [Entries.erase, List.filter_cons, hj, ne_eq, not_false_eq_true, decide_true, if_true,
        List.lookup_cons]

@[simp] theorem textD_erase_self (o : Options) (key fallback : Text) :
    (o.erase key).textD key fallback = fallback := by
  rw [textD, get?_erase_self]

theorem textD_erase_of_ne (h : k ≠ key) (o : Options) (fallback : Text) :
    (o.erase key).textD k fallback = o.textD k fallback := by
  rw [textD, get?_erase_of_ne h, textD]

theorem isOn_erase_of_ne (h : k ≠ key) (o : Options) : (o.erase key).isOn k = o.isOn k := by
  rw [isOn, get?_erase_of_ne h, isOn]

theorem isOnByDefault_erase_of_ne (h : k ≠ key) (o : Options) :
    (o.erase key).isOnByDefault k = o.isOnByDefault k := by
  rw [isOnByDefault, get?_erase_of_ne h, isOnByDefault]

end Options

/-! ## What tags show -/

namespace Html

theorem element_class_inj {name v w content : Text} :
    element name [("class", v)] content = element name [("class", w)] content ↔ v = w := by
  simp [element, startTag, attributes, Attribute.toText]

theorem element_content_inj {name t u : Text} {as : List Attribute} :
    element name as t = element name as u ↔ t = u := by
  simp [element]

/-- The name stands in both tags of an element, so the length of the whole tells its length. -/
theorem element_name_inj {n m content : Text} {as : List Attribute} :
    element n as content = element m as content ↔ n = m := by
  refine ⟨fun h => ?_, fun h => h ▸ rfl⟩
  have hlength := congrArg List.length h
  simp only [element, startTag, endTag, List.length_append, List.length_cons] at hlength
  simp only [element, startTag, List.cons_append, List.append_assoc, List.cons.injEq, true_and] at h
  exact (List.append_inj h (by omega)).1

/-- How much longer a class list is for a name behind its first one. -/
def classWidth (t : Text) : Nat := if t.isEmpty then 0 else t.length + 1

theorem classWidth_eq_zero_iff {t : Text} : classWidth t = 0 ↔ t = [] := by
  cases t <;> simp [classWidth]

theorem length_classes {n : Text} (hn : n ≠ []) (ns : List Text) :
    (classes (n :: ns)).length = n.length + (ns.map classWidth).sum := by
  have hjoin : ∀ (n : Text) (ns : List Text), (join " " (n :: ns)).length =
      n.length + (ns.map fun t => t.length + 1).sum := by
    intro n ns
    induction ns generalizing n with
    | nil => simp [join]
    | cons m ns ih =>
      have hcons : join " " (n :: m :: ns) = n ++ " " ++ join " " (m :: ns) :=
        List.intercalate_cons_cons
      rw [hcons, List.length_append, List.length_append, ih, List.map_cons, List.sum_cons]
      have hblank : (" " : Text).length = 1 := rfl
      omega
  have hsum : ((ns.filter (!·.isEmpty)).map fun t => t.length + 1).sum = (ns.map classWidth).sum := by
    induction ns with
    | nil => rfl
    | cons m ns ih => cases m <;> simp [classWidth, ih]
  rw [classes, List.filter_cons_of_pos (by simpa using hn), hjoin, hsum]

theorem classWidth_variant?_eq_zero_iff {base t : Text} :
    classWidth (variant? base t) = 0 ↔ t = [] := by
  rw [classWidth_eq_zero_iff]
  cases t <;> simp [variant?, variant]

/-- A variant shows in a class list unless its name is empty. -/
theorem classes_variant?_iff {n base t : Text} (hn : n ≠ []) (ms ns : List Text) :
    classes (n :: (ms ++ variant? base t :: ns)) = classes (n :: (ms ++ variant? base [] :: ns)) ↔
      t = [] := by
  refine ⟨fun h => ?_, fun h => by rw [h]⟩
  have hlength := congrArg List.length h
  have hnone : classWidth (variant? base []) = 0 := rfl
  simp only [length_classes hn, List.map_append, List.map_cons, List.sum_append, List.sum_cons,
    hnone] at hlength
  have hzero : classWidth (variant? base t) = 0 := by omega
  exact classWidth_variant?_eq_zero_iff.mp hzero

end Html

/-! ## The keys with a choice -/

section Markup

variable (title body label : Text) (o : Options)

/-- A position that is none of those a card knows leaves the card as it is without one. -/
theorem cardHtml_erase (h : Component.cardPositions.contains (o.textD "horizontal_pos" []) = false) :
    cardHtml title o body = cardHtml title (o.erase "horizontal_pos") body := by
  have hnone : Component.cardPositions.contains ([] : Text) = false := by decide
  have hpieces : Link.leadingClasses "fr-card" (o.erase "horizontal_pos") =
        Link.leadingClasses "fr-card" o ∧
      Link.trailingClasses "fr-card" (o.erase "horizontal_pos") = Link.trailingClasses "fr-card" o ∧
      Link.badge (o.erase "horizontal_pos") = Link.badge o := by
    simp (disch := decide) only [Link.leadingClasses, Link.trailingClasses, Link.badge,
      Options.textD_erase_of_ne, Options.isOn_erase_of_ne, Options.isOnByDefault_erase_of_ne, and_self]
  obtain ⟨hleading, htrailing, hbadge⟩ := hpieces
  simp (disch := decide) only [cardHtml, cardImage, Link.title, Link.description,
    Link.announcesDownload, Options.windowAttributes, hleading, htrailing, hbadge, h, hnone,
    Options.textD_erase_self, Options.textD_erase_of_ne, Options.isOn_erase_of_ne, Bool.false_eq_true,
    if_false]
  rfl

theorem rowHtml_erase_halign :
    rowHtml title o body = rowHtml title (o.erase "halign") body ↔ o.textD "halign" [] = [] := by
  rw [rowHtml, rowHtml, element_class_inj, Options.textD_erase_self,
    Options.textD_erase_of_ne (by decide)]
  exact classes_variant?_iff (by decide) [trim title] _

theorem rowHtml_erase_valign :
    rowHtml title o body = rowHtml title (o.erase "valign") body ↔ o.textD "valign" [] = [] := by
  rw [rowHtml, rowHtml, element_class_inj, Options.textD_erase_self,
    Options.textD_erase_of_ne (by decide)]
  exact classes_variant?_iff (by decide) [trim title, _] _

theorem badgeHtml_erase_type :
    badgeHtml label o = badgeHtml label (o.erase "type") ↔ o.textD "type" [] = [] := by
  have hnone : (o.erase "type").textD "type" [] = [] := o.textD_erase_self _ _
  rw [badgeHtml, badgeHtml, element_class_inj, hnone, Options.textD_erase_of_ne (by decide)]
  constructor
  · intro h
    have hlength := congrArg List.length h
    simp only [length_classes (n := "fr-badge") (by decide), List.map_cons, List.sum_cons] at hlength
    have hkind : classWidth (variant? "fr-badge" []) = 0 := rfl
    have hicon : classWidth (if (!List.isEmpty ([] : Text) && (o.erase "type").isOnByDefault "icon") = true
        then "fr-badge--icon-left" else []) = 0 := rfl
    have hzero : classWidth (variant? "fr-badge" (o.textD "type" [])) = 0 := by omega
    exact classWidth_variant?_eq_zero_iff.mp hzero
  · intro h
    rw [h]
    rfl

theorem alertHtml_erase_type :
    alertHtml title o body = alertHtml title (o.erase "type") body ↔ o.textD "type" "info" = "info" := by
  rw [alertHtml, alertHtml, Options.textD_erase_self, Options.textD_erase_of_ne (by decide),
    element_class_inj, variant, variant]
  simp

theorem alertHtml_erase_markup :
    alertHtml title o body = alertHtml title (o.erase "markup") body ↔ o.textD "markup" "h5" = "h5" := by
  rw [alertHtml, alertHtml, Options.textD_erase_self, Options.textD_erase_of_ne (by decide),
    element_content_inj, List.append_left_inj, element_name_inj]

end Markup

/-! ## Values outside a choice -/

/-- Whether a component takes a value outside the choice for its key as if the key were not set. -/
def Component.passesOver : Component → OptionValue → Bool
  | .row, .text t | .badge, .text t => t.isEmpty
  | .alert, .text _ => false
  | _, _ => true

namespace Problem

def isUnexpected (key : Text) : Problem → Bool
  | unexpectedValue k _ => k = key
  | malformedOption | unknownOption _ | duplicateOption _ | unterminatedBlock | strayCloser
  | unknownComponent _ => false

theorem isUnexpected_of_isOptionLine {p : Problem} (h : p.isOptionLine) (key : Text) :
    p.isUnexpected key = false := by
  cases p with
  | malformedOption | unknownOption | duplicateOption => rfl
  | unexpectedValue | unterminatedBlock | strayCloser | unknownComponent => cases h

end Problem

namespace Block

variable {b : Block} {key : Text} {allowed : List Text} {v : OptionValue}

theorem filter_choices (hchoice : (key, allowed) ∈ b.component.choices) :
    b.component.choices.filter (fun c => c.1 = key) = [(key, allowed)] := by
  have hall : ∀ c : Component, ∀ e ∈ c.choices, c.choices.filter (fun d => d.1 = e.1) = [e] := by
    intro c
    cases c <;> decide
  exact hall b.component _ hchoice

/-- The report on a choice is on its key. -/
theorem filter_choiceReport? (b : Block) (o : Options) (key : Text) (choice : Text × List Text) :
    (b.choiceReport? o choice).filter (·.problem.isUnexpected key) =
      if choice.1 = key then b.choiceReport? o choice else none := by
  unfold choiceReport?
  split
  · simp
  · split
    · simp
    · by_cases hkey : choice.1 = key <;> simp [Option.filter, Problem.isUnexpected, hkey]

/-- A value outside the choice for its key is reported once. -/
theorem filter_isUnexpected_reports (hchoice : (key, allowed) ∈ b.component.choices)
    (hv : b.options.get? key = some v) (hout : ∀ t ∈ allowed, v ≠ .text t) :
    b.reports.filter (·.problem.isUnexpected key) =
      [⟨key ++ ": " ++ shownValue v, .unexpectedValue key allowed, knownLine b.settingLines.2,
        some b.component.keyword, none⟩] := by
  have hlines : (b.reader.read (unlines b.settingLines.1)).2.filter (·.problem.isUnexpected key) = [] := by
    refine List.filter_eq_nil_iff.mpr fun d hd => ?_
    obtain ⟨j, l, p, -, -, hp, rfl⟩ := b.reader.of_mem_readLines hd
    have hkind : p.isUnexpected key = false := Problem.isUnexpected_of_isOptionLine hp key
    simp [OptionReader.report, hkind]
  have hchoices : (b.component.choices.filterMap (b.choiceReport? b.options)).filter
      (·.problem.isUnexpected key) = [(key, allowed)].filterMap (b.choiceReport? b.options) := by
    rw [List.filter_filterMap, ← filter_choices hchoice, List.filterMap_filter]
    simp only [filter_choiceReport?, decide_eq_true_eq]
  have hnone : allowed.any (fun t => v = .text t) = false := by simpa using hout
  show ((b.reader.read (unlines b.settingLines.1)).2 ++
    b.component.choices.filterMap (b.choiceReport? b.options)).filter _ = _
  rw [List.filter_append, hlines, hchoices]
  simp [choiceReport?, hv, hnone]

/-- What the component passes over leaves no trace in the HTML, and every other text does. -/
theorem htmlWith_erase_iff (hchoice : (key, allowed) ∈ b.component.choices) {o : Options}
    (hv : o.get? key = some v) (hout : ∀ t ∈ allowed, v ≠ .text t) (pictograms : Text) (number : Nat) :
    b.htmlWith pictograms number o = b.htmlWith pictograms number (o.erase key) ↔
      b.component.passesOver v := by
  obtain ⟨c, title, optionLines, body, raw, lineno, endLineno, optionsLineno⟩ := b
  cases c with
  | tile | col | callout | accordion => cases hchoice
  | card =>
    obtain ⟨rfl, rfl⟩ : key = "horizontal_pos" ∧ allowed = Component.cardPositions := by
      simpa [Component.choices] using hchoice
    refine iff_of_true (cardHtml_erase title body o ?_) rfl
    rw [Options.textD_eq_of_get? hv]
    cases v with
    | switch => rfl
    | text t =>
      have hout : t ∉ Component.cardPositions := fun hmem => hout t hmem rfl
      simpa [OptionValue.textD] using hout
  | row =>
    have hempty : v.textD [] = [] ↔ Component.row.passesOver v := by
      cases v <;> simp [OptionValue.textD, Component.passesOver]
    have hkeys : key = "halign" ∨ key = "valign" := by
      simp only [Component.choices, List.mem_cons, Prod.mk.injEq, List.not_mem_nil, or_false] at hchoice
      exact hchoice.imp And.left And.left
    rw [← hempty, ← Options.textD_eq_of_get? hv]
    rcases hkeys with rfl | rfl
    · exact rowHtml_erase_halign _ _ o
    · exact rowHtml_erase_valign _ _ o
  | badge =>
    have hempty : v.textD [] = [] ↔ Component.badge.passesOver v := by
      cases v <;> simp [OptionValue.textD, Component.passesOver]
    obtain rfl : key = "type" := by
      simp only [Component.choices, List.mem_singleton, Prod.mk.injEq] at hchoice
      exact hchoice.1
    rw [← hempty, ← Options.textD_eq_of_get? hv]
    exact badgeHtml_erase_type _ o
  | alert =>
    have hdefault : ∀ t ∈ allowed, (v.textD t = t ↔ Component.alert.passesOver v) := by
      intro t ht
      cases v with
      | switch => simp [OptionValue.textD, Component.passesOver]
      | text u =>
        have hne : u ≠ t := fun h => hout t ht (h ▸ rfl)
        simp [OptionValue.textD, Component.passesOver, hne]
    simp only [Component.choices, List.mem_cons, Prod.mk.injEq, List.not_mem_nil, or_false] at hchoice
    rcases hchoice with ⟨rfl, rfl⟩ | ⟨rfl, rfl⟩
    · rw [← hdefault "info" (by decide), ← Options.textD_eq_of_get? hv]
      exact alertHtml_erase_type title body o
    · rw [← hdefault "h5" (by decide), ← Options.textD_eq_of_get? hv]
      exact alertHtml_erase_markup title body o

/-- A value outside the choice for its key is reported once, whatever the component makes of it. The
block is rendered as without the key if and only if the component passes over the value. -/
theorem choice_reported (hchoice : (key, allowed) ∈ b.component.choices)
    (hv : b.options.get? key = some v) (hout : ∀ t ∈ allowed, v ≠ .text t) (pictograms : Text)
    (number : Nat) :
    (b.html pictograms number = b.htmlWith pictograms number (b.options.erase key) ↔
        b.component.passesOver v) ∧
      b.reports.filter (·.problem.isUnexpected key) =
        [⟨key ++ ": " ++ shownValue v, .unexpectedValue key allowed, knownLine b.settingLines.2,
          some b.component.keyword, none⟩] :=
  ⟨htmlWith_erase_iff hchoice hv hout pictograms number, filter_isUnexpected_reports hchoice hv hout⟩

theorem choice_reported_alert :
    let b : Block := ⟨.alert, "T", ["type: info", "type: danger"], "x", [], 1, 5, 2⟩
    let allowed : List Text := ["info".toList, "success".toList, "warning".toList, "error".toList]
    ("type".toList, allowed) ∈ b.component.choices ∧
      b.options.get? "type" = some (.text "danger") ∧
      (∀ t ∈ allowed, OptionValue.text "danger" ≠ .text t) ∧
      b.html "/p" 0 ≠ b.htmlWith "/p" 0 (b.options.erase "type") ∧
      (b.reports.filter (·.problem.isUnexpected "type")).length = 1 := by
  intro b allowed
  have hchoice : ("type".toList, allowed) ∈ b.component.choices := List.mem_cons_self
  have hv : b.options.get? "type" = some (.text "danger") := by decide
  have hout : ∀ t ∈ allowed, OptionValue.text "danger" ≠ .text t := by decide
  obtain ⟨hhtml, hreports⟩ := choice_reported hchoice hv hout "/p" 0
  refine ⟨hchoice, hv, hout, fun h => ?_, congrArg List.length hreports⟩
  have hpasses : Component.alert.passesOver (.text "danger") := hhtml.mp h
  cases hpasses

theorem not_choice_ignored :
    ¬ ∀ (b : Block) (key : Text) (allowed : List Text) (v : OptionValue),
      (key, allowed) ∈ b.component.choices → b.options.get? key = some v →
      (∀ t ∈ allowed, v ≠ .text t) → ∀ (pictograms : Text) (number : Nat),
        b.html pictograms number = b.htmlWith pictograms number (b.options.erase key) := by
  intro h
  have := h ⟨.alert, "T", ["type: danger"], "x", [], 1, 5, 2⟩ "type" _ (.text "danger")
    List.mem_cons_self (by decide) (by decide) "/p" 0
  revert this
  decide

end Block

end BlockMarkup
