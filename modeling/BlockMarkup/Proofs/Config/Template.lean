import BlockMarkup.Config.Template
import Mathlib.Data.List.TakeWhile

/-!
# What filling in references does

1. A text without the opening of a reference is taken character by character, whatever follows it but a
   brace (`Config.pieces_literal`).
2. A written reference is read as itself: its name ends where no word goes on, its fallback at the first
   closing brace (`Config.Written.ofText?_inner`).
3. So a text of literals and references in turn is filled in reference by reference
   (`Config.fill_toText`). What is put in is never read, for reading goes on behind the reference.
4. Filling in a value is known by what it leaves at each place of the value (`Value.eq_mapText_iff`).
-/

namespace BlockMarkup

open Text

namespace Config

/-! ## Texts with references -/

/-- A text in which no reference begins. -/
def Literal : Type := { t : Text // ¬ ['$', '{'] <:+: t }

/-- A reference as it can be written, with or without a fallback. -/
structure Written where
  name : Text
  fallback : Option Text
  named : name ≠ []
  word : ∀ c ∈ name, isWordChar c
  closed : ∀ f ∈ fallback, '}' ∉ f

namespace Written

/-- What stands between the braces. -/
def inner (w : Written) : Text :=
  w.name ++ match w.fallback with
    | none => []
    | some f => ':' :: '-' :: f

def toText (w : Written) : Text := '$' :: '{' :: (w.inner ++ ['}'])

/-- The value of the variable if it is set, or else the fallback if there is one. -/
def value (env : Environment) (w : Written) : Text :=
  match env w.name, w.fallback with
  | some v, _ => v
  | none, some f => f
  | none, none => []

end Written

/-- Literals and references in turn, with a literal at either end. -/
structure Alternation where
  first : Literal
  rest : List (Written × Literal)

namespace Alternation

def toText (a : Alternation) : Text := a.first.val ++ a.rest.flatMap fun e => e.1.toText ++ e.2.val

/-- The same literals, with the values of the references between them. -/
def filled (env : Environment) (a : Alternation) : Text :=
  a.first.val ++ a.rest.flatMap fun e => e.1.value env ++ e.2.val

end Alternation

/-! ## Literals -/

theorem pieces_cons {c : Char} {t : Text} (h : ∀ u, c :: t ≠ '$' :: '{' :: u) :
    pieces (c :: t) = .char c :: pieces t := by
  rw [pieces]
  intro u hc ht
  exact h u (by rw [hc, ht])

theorem pieces_literal {l t : Text} (hl : ¬ ['$', '{'] <:+: l) (ht : t.head? ≠ some '{') :
    pieces (l ++ t) = l.map .char ++ pieces t := by
  induction l with
  | nil => rfl
  | cons c l ih =>
    have hstart : ∀ u, c :: (l ++ t) ≠ '$' :: '{' :: u := by
      intro u h
      obtain ⟨rfl, hrest⟩ := List.cons.inj h
      cases l with
      | nil =>
        rw [List.nil_append] at hrest
        rw [hrest] at ht
        exact ht rfl
      | cons d l =>
        obtain ⟨rfl, -⟩ := List.cons.inj hrest
        exact hl ⟨[], l, rfl⟩
    rw [List.cons_append, pieces_cons hstart, ih fun h => hl (List.infix_cons h)]
    rfl

theorem fill_literal {l t : Text} (env : Environment) (hl : ¬ ['$', '{'] <:+: l)
    (ht : t.head? ≠ some '{') : fill env (l ++ t) = l ++ fill env t := by
  rw [fill, pieces_literal hl ht, List.flatMap_append, List.flatMap_map]
  exact congrArg (· ++ fill env t) (List.flatMap_singleton' l)

/-! ## References -/

namespace Written

variable (w : Written) (t : Text)

/-- What follows the name is no part of a word. -/
theorem takeWhile_inner :
    (w.inner ++ '}' :: t).takeWhile isWordChar = w.name ∧
      (w.inner ++ '}' :: t).dropWhile isWordChar =
        (match w.fallback with
          | none => []
          | some f => ':' :: '-' :: f) ++ '}' :: t := by
  have hcolon : isWordChar ':' = false := by decide
  have hbrace : isWordChar '}' = false := by decide
  rw [inner, List.append_assoc, List.takeWhile_append_of_pos w.word, List.dropWhile_append_of_pos w.word]
  cases w.fallback with
  | none => simp [hbrace]
  | some f => simp [hcolon]

theorem ofText?_inner :
    Reference.ofText? (w.inner ++ '}' :: t) = some (⟨w.name, w.fallback.getD []⟩, t) := by
  obtain ⟨hname, hrest⟩ := w.takeWhile_inner t
  have hnamed : w.name.isEmpty = false := by simpa using w.named
  rw [Reference.ofText?, hname, hrest, hnamed]
  cases hf : w.fallback with
  | none => rfl
  | some f =>
    have hopen : ∀ c ∈ f, (c != '}') = true := by
      intro c hc
      rw [bne_iff_ne]
      rintro rfl
      exact w.closed f hf hc
    have htake : (f ++ '}' :: t).takeWhile (· != '}') = f := by
      rw [List.takeWhile_append_of_pos hopen]
      simp
    have hdrop : (f ++ '}' :: t).dropWhile (· != '}') = '}' :: t := by
      rw [List.dropWhile_append_of_pos hopen]
      simp
    simp [Reference.fallback?, htake, hdrop]

theorem pieces_toText :
    pieces (w.toText ++ t) = .reference ⟨w.name, w.fallback.getD []⟩ :: pieces t := by
  have hself := w.ofText?_inner t
  rw [toText, List.cons_append, List.cons_append, List.append_assoc, List.singleton_append, pieces]
  split
  · next r rest h =>
    obtain ⟨rfl, rfl⟩ := Prod.mk.inj (Option.some.inj (h.symm.trans hself))
    rfl
  · next h =>
    rw [hself] at h
    cases h

theorem fill_toText (env : Environment) : fill env (w.toText ++ t) = w.value env ++ fill env t := by
  rw [fill, pieces_toText, List.flatMap_cons]
  congr 1
  rw [Piece.value, Reference.value, value]
  cases env w.name <;> cases w.fallback <;> rfl

end Written

theorem fill_alternation (env : Environment) (a : Alternation) : fill env a.toText = a.filled env := by
  obtain ⟨first, rest⟩ := a
  induction rest generalizing first with
  | nil =>
    have hfirst := fill_literal env first.property (t := []) (by simp)
    simpa [Alternation.toText, Alternation.filled, fill, pieces] using hfirst
  | cons e rest ih =>
    have hopen : (e.1.toText ++ (e.2.val ++ rest.flatMap fun e => e.1.toText ++ e.2.val)).head? ≠
        some '{' := by
      rw [Written.toText]
      simp
    have hrest : fill env (e.2.val ++ rest.flatMap fun e => e.1.toText ++ e.2.val) =
        e.2.val ++ rest.flatMap fun e => e.1.value env ++ e.2.val := ih e.2
    simp only [Alternation.toText, Alternation.filled, List.flatMap_cons, List.append_assoc]
    rw [fill_literal env first.property hopen, Written.fill_toText, hrest]

end Config

/-! ## Values within values -/

namespace Value

/-- What a value is, the values within it aside. -/
inductive Node
  | null
  | bool (b : Bool)
  | int (i : Int)
  | decimal (mantissa : Int) (places : Nat)
  | text (t : Text)
  | list (length : Nat)
  | map (keys : List Key)
  | other (kind shown : Text)
deriving DecidableEq

def node : Value → Node
  | .null => .null
  | .bool b => .bool b
  | .int i => .int i
  | .decimal m p => .decimal m p
  | .text t => .text t
  | .list items => .list items.length
  | .map entries => .map (entries.map Prod.fst)
  | .other kind shown => .other kind shown

/-- The items of a list or the values of a mapping, in order. -/
def inner : Value → List Value
  | .list items => items
  | .map entries => entries.map Prod.snd
  | _ => []

/-- The value at a place: an index for each step inwards. -/
def at? (v : Value) : List Nat → Option Value
  | [] => some v
  | i :: p => v.inner[i]?.bind (·.at? p)

/-- A text changed, and all else as it is. -/
def Node.mapText (f : Text → Text) : Node → Node
  | .text t => .text (f t)
  | n => n

theorem node_mapText (f : Text → Text) (v : Value) : (v.mapText f).node = v.node.mapText f := by
  cases v with
  | list items => simp [mapText, node, Node.mapText, mapTextItems_eq_map]
  | map entries => simp [mapText, node, Node.mapText, keys_mapTextEntries]
  | null | bool | int | decimal | text | other => rfl

theorem inner_mapText (f : Text → Text) (v : Value) : (v.mapText f).inner = v.inner.map (mapText f) := by
  cases v with
  | list items => simp [mapText, inner, mapTextItems_eq_map]
  | map entries => simp [mapText, inner, mapTextEntries_eq_map]
  | null | bool | int | decimal | text | other => rfl

theorem at?_mapText (f : Text → Text) (v : Value) (p : List Nat) :
    (v.mapText f).at? p = (v.at? p).map (mapText f) := by
  induction p generalizing v with
  | nil => rfl
  | cons i p ih =>
    rw [at?, at?, inner_mapText, List.getElem?_map]
    cases v.inner[i]? with
    | none => rfl
    | some u => exact ih u

/-- A value is known by what it is and by the values within it. -/
theorem eq_of_node_of_inner {v w : Value} (hnode : v.node = w.node) (hinner : v.inner = w.inner) :
    v = w := by
  cases v with
  | list items =>
    cases w with
    | list => exact congrArg Value.list hinner
    | null | bool | int | decimal | text | map | other => cases hnode
  | map entries =>
    cases w with
    | map others =>
      have hkeys : entries.map Prod.fst = others.map Prod.fst := Node.map.inj hnode
      have hvalues : entries.map Prod.snd = others.map Prod.snd := hinner
      have hzip : (entries.map Prod.fst).zip (entries.map Prod.snd) =
          (others.map Prod.fst).zip (others.map Prod.snd) := by rw [hkeys, hvalues]
      rw [← List.unzip_fst, ← List.unzip_snd, List.zip_unzip, ← List.unzip_fst, ← List.unzip_snd,
        List.zip_unzip] at hzip
      rw [hzip]
    | null | bool | int | decimal | text | list | other => cases hnode
  | null | bool | int | decimal | text | other =>
    cases w <;> cases hnode
    rfl

theorem sizeOf_lt_of_mem_inner {u v : Value} (h : u ∈ v.inner) : sizeOf u < sizeOf v := by
  cases v with
  | list items =>
    have hlt : sizeOf u < sizeOf items := List.sizeOf_lt_of_mem h
    simp only [list.sizeOf_spec]
    omega
  | map entries =>
    obtain ⟨⟨key, u⟩, he, rfl⟩ := List.mem_map.mp h
    have hlt := List.sizeOf_lt_of_mem he
    simp only [map.sizeOf_spec, Prod.mk.sizeOf_spec] at hlt ⊢
    omega
  | null | bool | int | decimal | text | other => cases h

/-- A value is known by what it is at each of its places. -/
theorem eq_of_nodes (v w : Value) (h : ∀ p, (v.at? p).map node = (w.at? p).map node) : v = w := by
  refine eq_of_node_of_inner (Option.some.inj (h [])) (List.ext_getElem? fun i => ?_)
  have hi := h [i]
  simp only [at?] at hi
  cases hv : v.inner[i]? with
  | none =>
    rw [hv] at hi
    cases hw : w.inner[i]? with
    | none => rfl
    | some u' =>
      rw [hw] at hi
      cases hi
  | some u =>
    rw [hv] at hi
    cases hw : w.inner[i]? with
    | none =>
      rw [hw] at hi
      cases hi
    | some u' =>
      have hsize := sizeOf_lt_of_mem_inner (List.mem_of_getElem? hv)
      refine congrArg some (eq_of_nodes u u' fun p => ?_)
      have hp := h (i :: p)
      rwa [at?, at?, hv, hw] at hp
termination_by v

theorem eq_mapText_iff {f : Text → Text} {v w : Value} :
    w = v.mapText f ↔ ∀ p, (w.at? p).map node = (v.at? p).map fun u => u.node.mapText f := by
  have hself : ∀ p, ((v.mapText f).at? p).map node = (v.at? p).map fun u => u.node.mapText f := by
    intro p
    rw [at?_mapText, Option.map_map]
    exact congrArg (Option.map · (v.at? p)) (funext (node_mapText f))
  constructor
  · rintro rfl
    exact hself
  · exact fun h => eq_of_nodes w (v.mapText f) fun p => (h p).trans (hself p).symm

end Value

namespace Config

/-- A text of literals and references in turn is filled in to the same literals with the values of the
references between them. Filling in a value gives the one value that has the filled in text wherever it has
a text, and at all other places the same kind, the same scalar, the same length and the same keys. -/
theorem references_filled_once (env : Environment) :
    (∀ a : Alternation, fill env a.toText = a.filled env) ∧
      ∀ v w : Value, w = fillValue env v ↔
        ∀ p, (w.at? p).map Value.node = (v.at? p).map fun u => u.node.mapText (fill env) :=
  ⟨fill_alternation env, fun _ _ => Value.eq_mapText_iff⟩

end Config

end BlockMarkup
