import BlockMarkup.Proofs.Document.Append
import BlockMarkup.Proofs.Document.Relabel

/-!
# Forests further down

Lines that stand further down in a text are read to the same forest with larger line numbers
(`Forest.ofTokens_shift`), and the reports on it say the same of those numbers
(`Forest.reports_shift`).
-/

namespace BlockMarkup

open Text Marker

variable {k : Nat}

/-! ## Moving by some lines -/

def Opening.shift (k : Nat) (o : Opening) : Opening := { o with lineno := o.lineno + k }

@[simp] theorem Opening.component?_shift (o : Opening) : (o.shift k).component? = o.component? := rfl

def Closing.shift (k : Nat) (c : Closing) : Closing := { c with lineno := c.lineno + k }

def Token.shift (k : Nat) : Token → Token
  | .opening o => .opening (o.shift k)
  | .closing c => .closing (c.shift k)
  | .line n t => .line (n + k) t

/-- A report without a line number has none further down either. -/
def Diagnostic.shift (k : Nat) (d : Diagnostic) : Diagnostic :=
  { d with lineno := d.lineno.map (· + k) }

namespace Forest

def shift (k : Nat) : Forest → Forest
  | nil => nil
  | line n t f => line (n + k) t (f.shift k)
  | block o i c f => block (o.shift k) (i.shift k) (c.map (·.shift k)) (f.shift k)

end Forest

def Node.shift (k : Nat) (n : Node) : Node :=
  ⟨n.opening.shift k, n.inner.shift k, n.closing.map (·.shift k)⟩

/-- The change of a text that moves down: its lines stay as they are. -/
def Relabeling.shift (k : Nat) : Relabeling := ⟨Opening.shift k, (· + k), id⟩

/-! ## Tokens -/

theorem Token.scan_add (ls : List Text) : ∀ limit lineno skip,
    scan limit (lineno + k) skip ls = (scan limit lineno skip ls).map (shift k) := by
  induction ls with
  | nil => intros; rfl
  | cons l rest ih =>
    intro limit lineno skip
    have hnext : lineno + k + 1 = lineno + 1 + k := Nat.add_right_comm lineno k 1
    cases skip with
    | succ n => rw [scan, hnext, ih, scan]
    | zero =>
      cases ho : opener? l with
      | some m => simp only [scan, ho, hnext, ih]; rfl
      | none =>
        simp only [scan, ho, hnext, ih]
        by_cases hc : isCloser l
        · simp only [hc, if_true]; rfl
        · simp only [hc]; rfl

/-! ## Reading -/

namespace Forest

theorem shift_eq_relabel (f : Forest) : f.shift k = (Relabeling.shift k).forest f := by
  induction f with
  | nil => rfl
  | line n t f ih => rw [shift, ih]; rfl
  | block o i c f ihi ihf => rw [shift, ihi, ihf]; rfl

theorem ofTokens_shift (ts : List Token) :
    ofTokens (ts.map (Token.shift k)) = (ofTokens ts).shift k := by
  have htoken : Token.shift k = (Relabeling.shift k).token := by
    funext t
    cases t <;> rfl
  rw [htoken, Relabeling.ofTokens_map, shift_eq_relabel]

/-! ## What is read -/

variable (f : Forest)

theorem source_shift : (f.shift k).source = f.source := by
  induction f with
  | nil => rfl
  | line n t f ih => rw [shift, source, ih, source]
  | block o i c f ihi ihf =>
    rw [shift, source, ihi, ihf, source, Option.map_map]
    rfl

theorem strays_shift : (f.shift k).strays = f.strays.map (Closing.shift k) := by
  induction f with
  | nil => rfl
  | line n t f ih =>
    by_cases ht : isCloser t
    · simp only [shift, strays, ht, if_true, ih]; rfl
    · simp only [shift, strays, ht, ih]; rfl
  | block o i c f _ ih => exact ih

theorem unclosed_shift : (f.shift k).unclosed = f.unclosed.map (Opening.shift k) := by
  induction f with
  | nil => rfl
  | line n t f ih => exact ih
  | block o i c f ihi ihf =>
    cases c with
    | none => simp only [shift, Option.map_none, unclosed, ihi, ihf, List.map_cons, List.map_append]
    | some c => simp only [shift, Option.map_some, unclosed, ihi, ihf, List.map_append]

theorem reports_shift : (f.shift k).reports = f.reports.map (Diagnostic.shift k) := by
  unfold reports
  rw [strays_shift, unclosed_shift, List.map_append, List.map_map, List.map_map, List.map_map,
    List.map_map]
  rfl

theorem reports_append {f : Forest} (h : f.unclosed = []) (g : Forest) :
    (f.append g).reports = f.reports ++ g.reports := by
  unfold reports
  rw [strays_append, unclosed_append, h, List.map_append]
  simp only [List.nil_append, List.map_nil, List.append_nil, List.append_assoc]

end Forest

end BlockMarkup
