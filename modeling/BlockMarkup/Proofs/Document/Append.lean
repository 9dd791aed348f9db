import BlockMarkup.Document.Forest
import BlockMarkup.Proofs.Document.Coverage

/-!
# Forests one behind the other

What follows a forest goes behind it, or into the block that is left open at its end
(`Forest.extend`). Reading tokens in front of others comes to that, unless a closing marker among
the others meets an open block (`Forest.ofTokens_append`): the content of both, and the markers that
wait for their openers, are put together piece by piece (`Pending.before`).
-/

namespace BlockMarkup

open Text Marker

namespace Forest

/-! ## Behind a forest -/

@[simp] theorem append_nil (f : Forest) : f.append nil = f := by
  induction f with
  | nil => rfl
  | line n t f ih => rw [append, ih]
  | block o i c f _ ih => rw [append, ih]

theorem append_assoc (f g h : Forest) : (f.append g).append h = f.append (g.append h) := by
  induction f with
  | nil => rfl
  | line n t f ih => simp only [append, ih]
  | block o i c f _ ih => simp only [append, ih]

theorem pieces_append (f g : Forest) : (f.append g).pieces = f.pieces ++ g.pieces := by
  induction f with
  | nil => rfl
  | line n t f ih => simp only [append, pieces, ih, List.cons_append]
  | block o i c f _ ih => simp only [append, pieces, ih, List.cons_append]

theorem preorder_append (f g : Forest) : (f.append g).preorder = f.preorder ++ g.preorder := by
  induction f with
  | nil => rfl
  | line n t f ih => exact ih
  | block o i c f _ ih => simp only [append, preorder, ih, List.cons_append, List.append_assoc]

theorem strays_append (f g : Forest) : (f.append g).strays = f.strays ++ g.strays := by
  induction f with
  | nil => rfl
  | line n t f ih =>
    simp only [append, strays, ih]
    split <;> rfl
  | block o i c f _ ih => exact ih

theorem unclosed_append (f g : Forest) : (f.append g).unclosed = f.unclosed ++ g.unclosed := by
  induction f with
  | nil => rfl
  | line n t f ih => exact ih
  | block o i c f _ ih =>
    cases c with
    | none => simp only [append, unclosed, ih, List.cons_append, List.append_assoc]
    | some c => simp only [append, unclosed, ih, List.append_assoc]

/-! ## Behind or inside -/

/-- Puts a forest behind another one, inside the block that is left open at its end. -/
def extend : Forest → Forest → Forest
  | nil, g => g
  | line n t f, g => line n t (f.extend g)
  | block o i none nil, g => block o (i.extend g) none nil
  | block o i c f, g => block o i c (f.extend g)

theorem extend_closed (o : Opening) (i : Forest) (c : Closing) (f g : Forest) :
    (block o i (some c) f).extend g = block o i (some c) (f.extend g) := by
  rw [extend]
  rintro ⟨⟩

theorem extend_block_of_ne_nil (o : Opening) (i : Forest) (c : Option Closing) {f : Forest}
    (hf : f ≠ nil) (g : Forest) : (block o i c f).extend g = block o i c (f.extend g) := by
  rw [extend]
  exact fun _ => hf

/-- Where no block is open, what follows goes behind. -/
theorem extend_eq_append {f : Forest} (h : f.unclosed = []) (g : Forest) :
    f.extend g = f.append g := by
  induction f with
  | nil => rfl
  | line n t f ih => rw [extend, append, ih h]
  | block o i c f _ ih =>
    cases c with
    | none => cases h
    | some c => rw [extend_closed, append, ih (List.append_eq_nil_iff.mp h).2]

theorem append_ne_nil {f g : Forest} (hg : g ≠ nil) : f.append g ≠ nil := by
  cases f with
  | nil => exact hg
  | line n t f => rintro ⟨⟩
  | block o i c f => rintro ⟨⟩

theorem extend_append {g : Forest} (hg : g ≠ nil) (f h : Forest) :
    (f.append g).extend h = f.append (g.extend h) := by
  induction f with
  | nil => rfl
  | line n t f ih => simp only [append, extend, ih]
  | block o i c f _ ih => rw [append, extend_block_of_ne_nil o i c (append_ne_nil hg), ih, append]

/-! ## Tokens in front of others -/

namespace Pending

/-- What some tokens amount to in front of `q`, if they amount to `content` and `waiting` by
themselves. -/
def before (q : Pending) : Forest → List (Closing × Forest) → Pending
  | content, [] => ⟨content.extend q.content, q.waiting⟩
  | content, (c, behind) :: w => ⟨content, (c, (q.before behind w).content) :: (q.before behind w).waiting⟩

/-- Reading a token keeps what comes later in its place, unless it is an opener that would take a
marker of what comes later. -/
theorem read_before (q : Pending) (t : Token) (content : Forest) (w : List (Closing × Forest))
    (h : (∃ o, t = .opening o) → w ≠ [] ∨ q.waiting = []) :
    (q.before content w).read t =
      q.before (read t ⟨content, w⟩).content (read t ⟨content, w⟩).waiting := by
  cases t with
  | line n l => cases w <;> rfl
  | closing c => cases w <;> rfl
  | opening o =>
    cases w with
    | nil =>
      have hq : q.waiting = [] := (h ⟨o, rfl⟩).resolve_left (fun hne => hne rfl)
      simp only [before, read, hq, extend]
    | cons e w =>
      obtain ⟨c, behind⟩ := e
      cases w with
      | nil => simp only [before, read, extend_closed]
      | cons e w => simp only [before, read]

/-- The openers without a marker, in what is read. -/
def unclosed (p : Pending) : List Opening :=
  p.content.unclosed ++ p.waiting.flatMap (·.2.unclosed)

theorem unclosed_read (t : Token) (p : Pending) :
    (p.read t).unclosed =
      (match t, p.waiting with
        | .opening o, [] => [o]
        | _, _ => []) ++ p.unclosed := by
  obtain ⟨f, w⟩ := p
  cases t with
  | line n l => cases w <;> rfl
  | closing c => cases w <;> rfl
  | opening o =>
    cases w with
    | nil => simp [read, unclosed, Forest.unclosed]
    | cons e w => simp [read, unclosed, Forest.unclosed]

theorem unclosed_finish (content : Forest) (w : List (Closing × Forest)) :
    (finish content w).unclosed = Pending.unclosed ⟨content, w⟩ := by
  induction w generalizing content with
  | nil => simp [finish, Pending.unclosed]
  | cons e w ih => simp [finish, Pending.unclosed, unclosed_append, Forest.unclosed, ih]

theorem foldr_read_before (q : Pending) (ts : List Token)
    (h : (ts.foldr read ⟨nil, []⟩).unclosed = [] ∨ q.waiting = []) :
    ts.foldr read q =
      q.before (ts.foldr read ⟨nil, []⟩).content (ts.foldr read ⟨nil, []⟩).waiting := by
  induction ts with
  | nil => rfl
  | cons t ts ih =>
    rw [List.foldr_cons, unclosed_read] at h
    have hrest : (ts.foldr read ⟨nil, []⟩).unclosed = [] ∨ q.waiting = [] :=
      h.imp_left fun h => (List.append_eq_nil_iff.mp h).2
    rw [List.foldr_cons, ih hrest, List.foldr_cons]
    refine q.read_before t _ _ ?_
    rintro ⟨o, rfl⟩
    refine h.imp_left fun h hw => ?_
    rw [hw] at h
    cases (List.append_eq_nil_iff.mp h).1

theorem finish_before (q : Pending) (content : Forest) (w : List (Closing × Forest))
    (h : Pending.unclosed ⟨content, w⟩ = [] ∨ q.waiting = []) :
    finish (q.before content w).content (q.before content w).waiting =
      (finish content w).extend (finish q.content q.waiting) := by
  induction w generalizing content with
  | nil =>
    rcases h with h | h
    · have hcontent : content.unclosed = [] := by simpa [Pending.unclosed] using h
      simp only [before, finish, extend_eq_append hcontent]
      cases q.waiting with
      | nil => rfl
      | cons e v => simp only [finish, append_assoc]
    · simp only [before, finish, h]
  | cons e w ih =>
    have hrest : Pending.unclosed ⟨e.2, w⟩ = [] ∨ q.waiting = [] :=
      h.imp_left fun h => (List.append_eq_nil_iff.mp h).2
    have hne : line e.1.lineno e.1.line (finish e.2 w) ≠ nil := by rintro ⟨⟩
    simp only [before, finish, ih e.2 hrest, extend_append hne, extend]

theorem waiting_foldr_read {ts : List Token} (h : ∀ c, .closing c ∉ ts) :
    (ts.foldr read ⟨nil, []⟩).waiting = [] := by
  induction ts with
  | nil => rfl
  | cons t ts ih =>
    have hw := ih fun c hc => h c (List.mem_cons_of_mem _ hc)
    cases t with
    | line n l => exact hw
    | closing c => exact absurd List.mem_cons_self (h c)
    | opening o => simp only [List.foldr_cons, read, hw]

end Pending

/-- Tokens in front of others leave no block open for them, or meet no closing marker there. -/
theorem ofTokens_append {ts us : List Token}
    (h : (ofTokens ts).unclosed = [] ∨ ∀ c, .closing c ∉ us) :
    ofTokens (ts ++ us) = (ofTokens ts).extend (ofTokens us) := by
  have hseam : (ts.foldr Pending.read ⟨nil, []⟩).unclosed = [] ∨
      (us.foldr Pending.read ⟨nil, []⟩).waiting = [] := by
    refine h.imp (fun h => ?_) Pending.waiting_foldr_read
    rwa [ofTokens, Pending.unclosed_finish] at h
  have hread := Pending.foldr_read_before (us.foldr Pending.read ⟨nil, []⟩) ts hseam
  unfold ofTokens
  simp only [List.foldr_append, hread]
  exact Pending.finish_before _ _ _ hseam

end Forest

end BlockMarkup
