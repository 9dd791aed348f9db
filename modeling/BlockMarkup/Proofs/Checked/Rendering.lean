import BlockMarkup.Transpiler
import BlockMarkup.Proofs.Checked.Document

/-!
# No access fails

The transpiler again, with a fault for every access that has no result, and in each of its two
strategies it comes to its end without one.

1. Frames lie on a stack. Only frames of accordions have a number, so that every component can be
   handed its block (`Rendering.Numbered`); a turn keeps this and takes one step off the stack
   (`turn_last`, `turn_inner`, `turn_line`, `turn_block`), so the loop ends as it does without checks
   (`run_eq`).
2. A pass is made for a keyword and looks up its component; all keywords in the order of the passes
   are registered (`foldlM_pass_eq`).
-/

namespace BlockMarkup

open Text Marker

namespace Checked

/-! ## One frame -/

def isKnown (keyword : Text) : Bool := (Component.ofKeyword? keyword).isSome

/-- Starts a block. The component of a closed block is looked up unless it is unknown. -/
def enter (o : Opening) (inner : Forest) (closing : Option Closing) (ctx : Context) :
    Except Fault (Frame × Context) :=
  if closing.isSome && !isKnown o.keyword then do
    let l ← first o.head
    return (⟨o, closing, none, inner, [], []⟩,
      ctx.report [⟨trim l, .unknownComponent o.keyword, some o.lineno, none, none⟩])
  else if closing.isSome then do
    let c ← component o.keyword
    if c = .accordion then return (⟨o, closing, some ctx.draw.1, inner, [], []⟩, ctx.draw.2)
    else return (⟨o, closing, none, inner, [], []⟩, ctx)
  else return (⟨o, closing, none, inner, [], []⟩, ctx)

/-- Ends a block. -/
def leave (f : Frame) (ctx : Context) : Except Fault (Text × Context) :=
  match f.closing with
  | some closing =>
    if isKnown f.opening.keyword then do
      let c ← component f.opening.keyword
      hand ctx (f.block c closing) f.number
    else return (unlines (f.opening.head ++ f.rendered.reverse ++ f.closer), ctx)
  | none => return (unlines (f.opening.head ++ f.rendered.reverse ++ f.closer), ctx)

theorem enter_eq (o : Opening) (i : Forest) (closing : Option Closing) (ctx : Context) :
    enter o i closing ctx = .ok (Frame.enter o i closing ctx) := by
  unfold enter Frame.enter isKnown Opening.component?
  cases closing with
  | none => rfl
  | some cl =>
    cases hc : Component.ofKeyword? o.keyword with
    | none => rfl
    | some c =>
      simp only [component_eq hc, ok_bind]
      cases c with
      | accordion => rfl
      | card | tile | col | row | alert | callout | badge => rfl

/-- A frame with a number is that of an accordion. -/
def Numbered (f : Frame) : Prop := f.number.isSome → f.opening.component? = some .accordion

theorem leave_eq {f : Frame} (h : Numbered f) (ctx : Context) : leave f ctx = .ok (f.leave ctx) := by
  unfold leave Frame.leave isKnown
  cases hcl : f.closing with
  | none => rfl
  | some cl =>
    cases hc : f.opening.component? with
    | none =>
      have hkey : Component.ofKeyword? f.opening.keyword = none := hc
      simp only [hkey]
      rfl
    | some c =>
      have hkey : Component.ofKeyword? f.opening.keyword = some c := hc
      simp only [hkey, component_eq hkey, ok_bind, Option.isSome_some, if_true]
      refine hand_eq ctx fun hnumber => ?_
      exact Option.some.inj (hc.symm.trans (h hnumber))

theorem numbered_enter (o : Opening) (i : Forest) (closing : Option Closing) (ctx : Context) :
    Numbered (Frame.enter o i closing ctx).1 := by
  unfold Numbered Frame.enter
  split
  · intro h
    cases h
  · next hc => exact fun _ => hc
  · intro h
    cases h

/-! ## The stack of frames -/

/-- One turn of the loop: the frames that are left, or the outcome when none is. -/
def turn (frames : List Frame) (ctx : Context) :
    Except Fault ((List Frame × Context) ⊕ (Text × Context)) := do
  let (top, below) ← pop frames
  match top.pending with
  | .nil =>
    let (html, ctx) ← leave top ctx
    if below.isEmpty then return .inr (html, ctx)
    else
      let (f, fs) ← pop below
      return .inl (f.push html top.source :: fs, ctx)
  | .line _ t rest => return .inl (Frame.push { top with pending := rest } t t :: below, ctx)
  | .block o i c rest =>
    let (inner, ctx) ← enter o i c ctx
    return .inl (inner :: { top with pending := rest } :: below, ctx)

section Turn

variable {top : Frame} (htop : Numbered top) (ctx : Context)

include htop in
theorem turn_last (h : top.pending = .nil) : turn [top] ctx = .ok (.inr (top.leave ctx)) := by
  simp only [turn, pop, ok_bind, h, leave_eq htop]
  rfl

include htop in
theorem turn_inner (h : top.pending = .nil) (f : Frame) (fs : List Frame) :
    turn (top :: f :: fs) ctx =
      .ok (.inl (f.push (top.leave ctx).1 top.source :: fs, (top.leave ctx).2)) := by
  simp only [turn, pop, ok_bind, h, leave_eq htop]
  rfl

theorem turn_line {n : Nat} {t : Text} {rest : Forest} (h : top.pending = .line n t rest)
    (below : List Frame) :
    turn (top :: below) ctx = .ok (.inl (Frame.push { top with pending := rest } t t :: below, ctx)) := by
  simp only [turn, pop, ok_bind, h]
  rfl

theorem turn_block {o : Opening} {i rest : Forest} {c : Option Closing}
    (h : top.pending = .block o i c rest) (below : List Frame) :
    turn (top :: below) ctx = .ok (.inl ((Frame.enter o i c ctx).1 ::
      { top with pending := rest } :: below, (Frame.enter o i c ctx).2)) := by
  simp only [turn, pop, ok_bind, h, enter_eq]
  rfl

end Turn

/-- A turn after which the loop goes on has taken a step off the stack. -/
theorem stackSteps_of_turn {frames : List Frame} {ctx : Context} {s : List Frame × Context}
    (h : turn frames ctx = .ok (.inl s)) :
    Rendering.stackSteps s.1 < Rendering.stackSteps frames := by
  cases frames with
  | nil => cases h
  | cons top below =>
    cases hp : top.pending with
    | nil =>
      simp only [turn, pop, ok_bind, hp] at h
      cases hleave : leave top ctx with
      | error e =>
        rw [hleave] at h
        cases h
      | ok out =>
        rw [hleave] at h
        cases below with
        | nil => cases h
        | cons f fs =>
          cases h
          simp [Rendering.stackSteps_cons, hp, Frame.push]
    | line n t rest =>
      rw [turn_line ctx hp] at h
      cases h
      simp [Rendering.stackSteps_cons, hp, Frame.push, Forest.steps]
    | block o i c rest =>
      rw [turn_block ctx hp] at h
      cases h
      simp [Rendering.stackSteps_cons, hp, Rendering.steps_pending_enter, Forest.steps]
      omega

/-- Renders the block on top of the stack and then those below it, up to the outermost one. -/
def run (frames : List Frame) (ctx : Context) : Except Fault (Text × Context) :=
  match _h : turn frames ctx with
  | .error e => .error e
  | .ok (.inr out) => .ok out
  | .ok (.inl s) => run s.1 s.2
termination_by Rendering.stackSteps frames
decreasing_by exact stackSteps_of_turn _h

theorem run_of_ended {frames : List Frame} {ctx : Context} {out : Text × Context}
    (h : turn frames ctx = .ok (.inr out)) : run frames ctx = .ok out := by
  rw [run]
  split <;> simp_all

theorem run_of_running {frames : List Frame} {ctx : Context} {s : List Frame × Context}
    (h : turn frames ctx = .ok (.inl s)) : run frames ctx = run s.1 s.2 := by
  rw [run]
  split <;> simp_all

theorem run_eq (top : Frame) (below : List Frame) (ctx : Context) (htop : Numbered top)
    (hbelow : ∀ f ∈ below, Numbered f) :
    run (top :: below) ctx = .ok (Rendering.run top below ctx) := by
  fun_induction Rendering.run top below ctx with
  | case1 top ctx h html ctx' hleave =>
    rw [run_of_ended (turn_last htop ctx h), hleave]
  | case2 top ctx h html ctx' hleave f fs ih =>
    obtain ⟨hf, hfs⟩ := List.forall_mem_cons.mp hbelow
    rw [run_of_running (turn_inner htop ctx h f fs), hleave]
    exact ih hf hfs
  | case3 top below ctx n t rest h ih =>
    rw [run_of_running (turn_line ctx h below)]
    exact ih htop hbelow
  | case4 top below ctx o i c rest h ih =>
    rw [run_of_running (turn_block ctx h below)]
    exact ih (numbered_enter o i c ctx) (List.forall_mem_cons.mpr ⟨htop, hbelow⟩)

/-! ## By block structure -/

/-- Renders the lines and blocks of a forest one after the other. -/
def forest : Forest → Context → Except Fault (List Text × Context)
  | .nil, ctx => .ok ([], ctx)
  | .line _ t rest, ctx => do
    let (pieces, ctx) ← forest rest ctx
    return (t :: pieces, ctx)
  | .block o i c rest, ctx => do
    let (f, ctx) ← enter o i c ctx
    let (html, ctx) ← run [f] ctx
    let (pieces, ctx) ← forest rest ctx
    return (html :: pieces, ctx)

theorem forest_eq (f : Forest) (ctx : Context) : forest f ctx = .ok (Rendering.forest f ctx) := by
  induction f generalizing ctx with
  | nil => rfl
  | line n t f ih =>
    rw [forest, ih]
    rfl
  | block o i c f _ ih =>
    rw [forest, enter_eq]
    simp only [ok_bind, run_eq _ [] _ (numbered_enter o i c ctx) (List.forall_mem_nil _), ih]
    rfl

def nested (t : Text) (ctx : Context) : Except Fault (Text × Context) := do
  let (f, reports) ← document t
  let (pieces, ctx) ← forest f (ctx.report reports)
  return (unlines pieces, ctx)

theorem nested_eq (t : Text) (ctx : Context) : nested t ctx = .ok (Rendering.nested t ctx) := by
  rw [nested, document_eq]
  simp only [ok_bind, forest_eq]
  rfl

/-! ## In passes -/

/-- What a pass makes of the lines from a number on. -/
def scan (c : Component) (limit lineno skip : Nat) : List Text → Except Fault (List Piece)
  | [] => .ok []
  | l :: rest =>
    match skip with
    | skip + 1 => scan c (limit - 1) (lineno + 1) skip rest
    | 0 =>
      match (opener? l).filter (·.keyword == c.keyword) with
      | none => do
        let pieces ← scan c (limit - 1) (lineno + 1) 0 rest
        return .line l :: pieces
      | some m => do
        let size ← sectionLength c (limit - 1) rest
        let body := (rest.drop size).takeWhile (!isCloser ·)
        if size + body.length < rest.length then
          let pieces ← scan c (limit - 1) (lineno + 1) (size + body.length + 1) rest
          return .block (Piece.blockAt c m.header lineno l rest size body.length) :: pieces
        else return .openEnd lineno l :: rest.map .line

theorem scan_eq (c : Component) (ls : List Text) : ∀ lineno skip,
    scan c (reach ls) lineno skip ls = .ok (Piece.scan c (reach ls) lineno skip ls) := by
  induction ls with
  | nil =>
    intro lineno skip
    rfl
  | cons l rest ih =>
    intro lineno skip
    cases skip with
    | succ skip =>
      rw [scan, Piece.scan, reach_cons_sub_one]
      exact ih _ _
    | zero =>
      rw [scan, Piece.scan, reach_cons_sub_one]
      cases (opener? l).filter (·.keyword == c.keyword) with
      | none =>
        simp only [ih, ok_bind]
        rfl
      | some m =>
        simp only [sectionLength_eq, ih, ok_bind]
        split
        · rfl
        · rfl

/-- The pieces of a text for the component under a keyword. -/
def findPieces (keyword t : Text) : Except Fault (List Piece) := do
  let c ← component keyword
  let ls := lines t
  scan c ((lastCloser? ls).getD 0) 1 0 ls

/-- Renders the pieces of a pass in order. -/
def pieces : List Piece → Context → Except Fault (List Text × Context)
  | [], ctx => .ok ([], ctx)
  | .line t :: ps, ctx => do
    let (ts, ctx) ← pieces ps ctx
    return (t :: ts, ctx)
  | .openEnd _ l :: ps, ctx => do
    let (ts, ctx) ← pieces ps ctx
    return (l :: ts, ctx)
  | .block b :: ps, ctx => do
    let (html, ctx) ← hand ctx b none
    let (ts, ctx) ← pieces ps ctx
    return (html :: ts, ctx)

theorem pieces_eq (ps : List Piece) (ctx : Context) :
    pieces ps ctx = .ok (Rendering.pieces ps ctx) := by
  induction ps generalizing ctx with
  | nil => rfl
  | cons p ps ih =>
    cases p with
    | line t =>
      rw [pieces, ih]
      rfl
    | openEnd n l =>
      rw [pieces, ih]
      rfl
    | block b =>
      have hnone : (none : Option Nat).isSome → b.component = .accordion := fun h => by cases h
      rw [pieces, hand_eq ctx hnone]
      simp only [ok_bind, ih]
      rfl

/-- The pass for a keyword. -/
def pass (s : Text × Context) (keyword : Text) : Except Fault (Text × Context) := do
  let c ← component keyword
  let found ← findPieces keyword s.1
  let (ts, ctx) ← pieces found (s.2.report (found.filterMap (Piece.report? c)))
  return (unlines ts, ctx)

theorem pass_eq (s : Text × Context) (c : Component) :
    pass s c.keyword = .ok (Rendering.pass s c) := by
  have hc := component_eq (Component.ofKeyword?_keyword c)
  have hfound : findPieces c.keyword s.1 = .ok (Piece.ofText c s.1) := by
    rw [findPieces, hc]
    exact scan_eq c (lines s.1) 1 0
  rw [pass, hc, hfound]
  simp only [ok_bind, pieces_eq]
  rfl

/-- The keywords in the order of the passes. -/
def passOrder : List Text :=
  ["card".toList, "tile".toList, "col".toList, "row".toList, "alert".toList, "callout".toList,
    "accordion".toList, "badge".toList]

theorem map_keyword_all : Component.all.map Component.keyword = passOrder := by decide

theorem foldlM_pass_eq (cs : List Component) (s : Text × Context) :
    (cs.map Component.keyword).foldlM pass s = .ok (cs.foldl Rendering.pass s) := by
  induction cs generalizing s with
  | nil => rfl
  | cons c cs ih => rw [List.map_cons, List.foldlM_cons, pass_eq, ok_bind, ih, List.foldl_cons]

def passes (t : Text) (ctx : Context) : Except Fault (Text × Context) :=
  passOrder.foldlM pass (t, ctx)

theorem passes_eq (t : Text) (ctx : Context) : passes t ctx = .ok (Rendering.passes t ctx) := by
  rw [passes, ← map_keyword_all, foldlM_pass_eq]
  rfl

/-! ## Whole texts and decks -/

def transpile (p : Transpiler) (t : Text) : Except Fault Transpiled := do
  let (text, ctx) ← match p.strategy with
    | .nested => nested t (.start p.pictograms)
    | .passes => passes t (.start p.pictograms)
  return ⟨text, Diagnostic.sort ctx.reports⟩

theorem transpile_eq (p : Transpiler) (t : Text) : transpile p t = .ok (p.transpile t) := by
  unfold transpile Transpiler.transpile Transpiler.render
  cases p.strategy with
  | nested =>
    simp only [nested_eq, ok_bind]
    rfl
  | passes =>
    simp only [passes_eq, ok_bind]
    rfl

def transpileSlides (p : Transpiler) (t : Text) : Except Fault (List Transpiled) := do
  let ts ← slides p.separator t
  ts.mapM (transpile p)

theorem transpileSlides_eq (p : Transpiler) (t : Text) :
    transpileSlides p t = .ok (p.transpileSlides t) := by
  rw [transpileSlides, slides_eq, ok_bind, funext (transpile_eq p)]
  exact List.mapM_pure

end Checked

/-- No access fails: with every one of them checked, each text and each deck comes out as it does
without checks, in both strategies. The end of an option section, in particular, is looked for among
the lines there are, wherever the section starts. -/
theorem Transpiler.transpile_without_fault (p : Transpiler) (t : Text) :
    Checked.transpile p t = .ok (p.transpile t) ∧
      Checked.transpileSlides p t = .ok (p.transpileSlides t) ∧
      ∀ (ls : List Text) (start : Nat) (c : Component),
        ∃ stop, OptionSection.end? ls start c (lastCloser? ls) = .ok stop :=
  ⟨Checked.transpile_eq p t, Checked.transpileSlides_eq p t, Checked.end?_ok⟩

end BlockMarkup
