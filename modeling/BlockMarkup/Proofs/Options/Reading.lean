import BlockMarkup.Proofs.Block
import BlockMarkup.Proofs.Entries
import BlockMarkup.Proofs.Options.Setting

/-!
# What is read from option lines

1. Settings written one after the other have their distinct keys in the order in which these first came,
   each with the value that came last (`Options.keys_ofSettings`, `Options.get?_ofSettings`).
2. One line is read with its own settings and reports (`readLines_cons`), so the options read are the
   settings of all option lines, one after the other (`fst_readLines`).
3. Reports of a kind that depends on nothing but the line are found line by line (`filter_readLines`).
   Whether a key came before does depend on the lines above. There each line gives a new key or a
   report (`countP_lineReports`).
-/

namespace BlockMarkup

open Text

/-! ## Settings one after the other -/

namespace Options

theorem ofSettings_append_singleton (es : List Setting) (e : Setting) :
    ofSettings (es ++ [e]) = (ofSettings es).set e.1 e.2 := by
  simp [ofSettings]

theorem keys_ofSettings (es : List Setting) :
    (ofSettings es).keys = (es.map Prod.fst).eraseDups := by
  induction es using List.reverseRecOn with
  | nil => rfl
  | append_singleton es e ih =>
    rw [ofSettings_append_singleton, List.map_append, List.eraseDups_append, ← ih]
    by_cases he : e.1 ∈ (ofSettings es).keys
    · rw [keys_set_of_mem _ he]
      have hold : e.1 ∈ es.map Prod.fst := List.mem_eraseDups.mp (ih ▸ he)
      simp [List.removeAll, hold]
    · rw [keys_set_of_notMem _ he]
      have hnew : e.1 ∉ es.map Prod.fst := fun h => he (ih ▸ List.mem_eraseDups.mpr h)
      simp [List.removeAll, hnew, List.eraseDups_cons]

theorem get?_ofSettings (es : List Setting) (key : Text) :
    (ofSettings es).get? key = es.reverse.lookup key := by
  induction es using List.reverseRecOn with
  | nil => rfl
  | append_singleton es e ih =>
    rw [ofSettings_append_singleton, List.reverse_append, List.reverse_singleton,
      List.singleton_append, List.lookup_cons, ← ih]
    by_cases hkey : key = e.1
    · rw [beq_iff_eq.mpr hkey, hkey]
      exact Entries.lookup_put_self _
    · rw [beq_eq_false_iff_ne.mpr hkey]
      exact Entries.lookup_put_of_ne hkey _

end Options

/-- The settings of those lines that are option lines. -/
def Setting.ofLines (ls : List Text) : List Setting := ls.filterMap ofLine?

/-! ## Line by line -/

namespace Problem

def isMalformed (p : Problem) : Bool := p = .malformedOption

def isUnknown : Problem → Bool
  | unknownOption _ => true
  | malformedOption | duplicateOption _ | unexpectedValue _ _ | unterminatedBlock | strayCloser
  | unknownComponent _ => false

def isDuplicate : Problem → Bool
  | duplicateOption _ => true
  | malformedOption | unknownOption _ | unexpectedValue _ _ | unterminatedBlock | strayCloser
  | unknownComponent _ => false

end Problem

namespace OptionReader

/-- Whether a key is none to report. Without a set of known keys every key is known. -/
def knows (r : OptionReader) (key : Text) : Bool := (r.known.map (·.contains key)).getD true

/-- The options after one more line. -/
def after (above : Options) (l : Text) : Options :=
  match Setting.ofLine? l with
  | none => above
  | some s => above.set s.1 s.2

/-- The reports on one line. -/
def lineReports (r : OptionReader) (offset : Nat) (above : Options) (l : Text) : List Diagnostic :=
  if l.all isBlank then []
  else match Setting.ofLine? l with
    | none => [r.report offset l .malformedOption]
    | some s => r.settingReports offset above l s.1

variable (r : OptionReader) (offset : Nat) (above : Options) (l : Text) (ls : List Text)

theorem settingReports_eq (key : Text) :
    r.settingReports offset above l key =
      (if r.knows key then [] else [r.report offset l (.unknownOption key)]) ++
        if above.contains key then [r.report offset l (.duplicateOption key)] else [] := rfl

theorem readLines_cons :
    r.readLines offset above (l :: ls) =
      ((r.readLines (offset + 1) (after above l) ls).1,
        r.lineReports offset above l ++ (r.readLines (offset + 1) (after above l) ls).2) := by
  rw [readLines, lineReports]
  split
  · next hblank => simp [after, Setting.ofLine?_of_blank hblank]
  · split
    · next h => simp [after, h]
    · next h => simp [after, h]

/-- The options read are those above, and then the settings of the lines. -/
theorem fst_readLines :
    (r.readLines offset above ls).1 =
      (Setting.ofLines ls).foldl (fun o s => o.set s.1 s.2) above := by
  induction ls generalizing offset above with
  | nil => rfl
  | cons l ls ih =>
    rw [readLines_cons, ih]
    cases h : Setting.ofLine? l <;> simp [after, Setting.ofLines, h]

theorem fst_read (t : Text) : (r.read t).1 = Options.ofSettings (Setting.ofLines (lines t)) :=
  r.fst_readLines 0 .empty (lines t)

/-! ## Reports that depend on nothing but the line -/

/-- What is reported on each line alone, whatever was read above, is reported on the lines in order. -/
theorem filter_readLines {p : Diagnostic → Bool} {g : Nat → Text → Option Diagnostic}
    (h : ∀ offset above l, (r.lineReports offset above l).filter p = (g offset l).toList) :
    (r.readLines offset above ls).2.filter p = (ls.zipIdx offset).filterMap fun e => g e.2 e.1 := by
  induction ls generalizing offset above with
  | nil => rfl
  | cons l ls ih =>
    rw [readLines_cons, List.filter_append, h, ih, List.zipIdx_cons]
    cases hg : g offset l <;> simp [hg]

/-- The report on a line that is neither blank nor an option line. -/
def malformedReport? (offset : Nat) (l : Text) : Option Diagnostic :=
  if l.all isBlank || Setting.isLine l then none else some (r.report offset l .malformedOption)

/-- The report on an option line with a key that is not known. -/
def unknownReport? (offset : Nat) (l : Text) : Option Diagnostic :=
  match Setting.ofLine? l with
  | none => none
  | some s => if r.knows s.1 then none else some (r.report offset l (.unknownOption s.1))

theorem filter_isMalformed_lineReports :
    (r.lineReports offset above l).filter (·.problem.isMalformed) =
      (r.malformedReport? offset l).toList := by
  unfold lineReports malformedReport? Setting.isLine
  split
  · next hblank => simp [hblank]
  · next hblank =>
    cases Setting.ofLine? l with
    | none => simp [hblank, report, Problem.isMalformed]
    | some s =>
      simp only [settingReports_eq]
      split <;> split <;> simp [report, Problem.isMalformed]

theorem filter_isUnknown_lineReports :
    (r.lineReports offset above l).filter (·.problem.isUnknown) =
      (r.unknownReport? offset l).toList := by
  unfold lineReports unknownReport?
  split
  · next hblank => simp [Setting.ofLine?_of_blank hblank]
  · cases Setting.ofLine? l with
    | none => simp [report, Problem.isUnknown]
    | some s =>
      simp only [settingReports_eq]
      split <;> split <;> simp_all [report, Problem.isUnknown]

variable {r} in
/-- Blank lines and option lines are not malformed. -/
theorem filter_isMalformed_eq_nil {t : Text}
    (h : ∀ l ∈ lines t, l.all isBlank || Setting.isLine l) :
    (r.read t).2.filter (·.problem.isMalformed) = [] := by
  rw [read, r.filter_readLines _ _ _ r.filter_isMalformed_lineReports, List.filterMap_eq_nil_iff]
  rintro ⟨l, j⟩ hl
  exact if_pos (h l (List.fst_mem_of_mem_zipIdx hl))

/-! ## Keys that came before -/

/-- An option line either adds a key or is reported as a duplicate. -/
theorem countP_settingReports (key : Text) (v : OptionValue) :
    (r.settingReports offset above l key).countP (·.problem.isDuplicate) +
        (above.set key v).keys.length = above.keys.length + 1 := by
  rw [settingReports_eq, List.countP_append]
  have hunknown : List.countP (fun d : Diagnostic => d.problem.isDuplicate)
      (if r.knows key then [] else [r.report offset l (.unknownOption key)]) = 0 := by
    split <;> rfl
  by_cases hkey : key ∈ above.keys
  · have hcontains : above.contains key := by simpa [Options.contains] using hkey
    rw [hunknown, if_pos hcontains, Options.keys_set_of_mem _ hkey, Nat.zero_add, Nat.add_comm]
    rfl
  · have hcontains : ¬ above.contains key := by simpa [Options.contains] using hkey
    rw [hunknown, if_neg hcontains, Options.keys_set_of_notMem _ hkey, List.length_append,
      List.countP_nil, Nat.zero_add, List.length_singleton]

theorem countP_lineReports :
    (r.lineReports offset above l).countP (·.problem.isDuplicate) + (after above l).keys.length =
      above.keys.length + (Setting.ofLines [l]).length := by
  unfold lineReports after Setting.ofLines
  split
  · next hblank => simp [Setting.ofLine?_of_blank hblank]
  · cases h : Setting.ofLine? l with
    | none => simp [h, report, Problem.isDuplicate]
    | some s => simpa [h] using r.countP_settingReports offset above l s.1 s.2

theorem countP_readLines :
    (r.readLines offset above ls).2.countP (·.problem.isDuplicate) +
        (r.readLines offset above ls).1.keys.length =
      above.keys.length + (Setting.ofLines ls).length := by
  induction ls generalizing offset above with
  | nil => exact Nat.zero_add _
  | cons l ls ih =>
    have hline := r.countP_lineReports offset above l
    have hlines := ih (offset + 1) (after above l)
    have hcons : Setting.ofLines (l :: ls) = Setting.ofLines [l] ++ Setting.ofLines ls :=
      List.filterMap_append (l := [l])
    rw [readLines_cons, hcons, List.countP_append, List.length_append]
    dsimp only
    omega

/-! ## Line numbers -/

variable {r offset above l ls}

theorem of_mem_lineReports {d : Diagnostic} (h : d ∈ r.lineReports offset above l) :
    ∃ p, d = r.report offset l p := by
  unfold lineReports at h
  split at h
  · cases h
  · split at h
    · exact ⟨_, List.mem_singleton.mp h⟩
    · obtain ⟨p, -, hp⟩ := r.of_mem_settingReports h
      exact ⟨p, hp⟩

theorem precedes_report {i j : Nat} (h : i ≤ j) (l m : Text) (p q : Problem) :
    (r.report i l p).precedes (r.report j m q) := by
  cases hfirst : r.firstLine with
  | none => simp [Diagnostic.precedes, report, hfirst]
  | some n =>
    simp only [Diagnostic.precedes, report, hfirst, Option.map_some, Option.getD_some,
      decide_eq_true_eq]
    omega

variable (r offset above ls)

theorem sorted_readLines :
    (r.readLines offset above ls).2.Pairwise fun d e => d.precedes e := by
  induction ls generalizing offset above with
  | nil => exact .nil
  | cons l ls ih =>
    rw [readLines_cons]
    refine List.pairwise_append.mpr ⟨?_, ih _ _, ?_⟩
    · refine List.pairwise_of_forall_mem_list fun d hd e he => ?_
      obtain ⟨p, rfl⟩ := of_mem_lineReports hd
      obtain ⟨q, rfl⟩ := of_mem_lineReports he
      exact precedes_report le_rfl ..
    · intro d hd e he
      obtain ⟨p, rfl⟩ := of_mem_lineReports hd
      obtain ⟨j, m, q, -, -, -, rfl⟩ := r.of_mem_readLines he
      exact precedes_report (by omega) ..

/-! ## All lines -/

/-- Options and reports that account for every line: what the lines set, and what is said of them. -/
structure Accounted (r : OptionReader) (ls : List Text) (o : Options) (ds : List Diagnostic) :
    Prop where
  /-- A line is blank, or an option line, or else reported as malformed; no line is two of these. -/
  malformed : ds.filter (·.problem.isMalformed) =
    ls.zipIdx.filterMap fun e => r.malformedReport? e.2 e.1
  blank : ∀ l ∈ ls, l.all isBlank → Setting.ofLine? l = none
  keys : o.keys = ((Setting.ofLines ls).map Prod.fst).eraseDups
  value : ∀ key, o.get? key = (Setting.ofLines ls).reverse.lookup key
  duplicates : ds.countP (·.problem.isDuplicate) + o.keys.length = (Setting.ofLines ls).length
  unknown : ds.filter (·.problem.isUnknown) = ls.zipIdx.filterMap fun e => r.unknownReport? e.2 e.1
  unrestricted : r.known = none → ∀ d ∈ ds, d.problem.isUnknown = false
  /-- A report quotes its line and has the number of it. -/
  quotes : ∀ d ∈ ds, ∃ (j : Nat) (l : Text), ls[j]? = some l ∧ d.line = trim l ∧
    d.lineno = r.firstLine.map (· + (j : Int)) ∧ d.problem.isOptionLine
  sorted : ds.Pairwise fun d e => d.lineno.getD 0 ≤ e.lineno.getD 0

theorem read_accounted (r : OptionReader) (t : Text) :
    r.Accounted (lines t) (r.read t).1 (r.read t).2 := by
  have hunknown : (r.read t).2.filter (·.problem.isUnknown) =
      (lines t).zipIdx.filterMap fun e => r.unknownReport? e.2 e.1 :=
    r.filter_readLines 0 .empty (lines t) r.filter_isUnknown_lineReports
  refine {
    malformed := r.filter_readLines 0 .empty (lines t) r.filter_isMalformed_lineReports
    blank := fun l _ => Setting.ofLine?_of_blank
    keys := by rw [fst_read, Options.keys_ofSettings]
    value := fun key => by rw [fst_read, Options.get?_ofSettings]
    duplicates := (r.countP_readLines 0 .empty (lines t)).trans (Nat.zero_add _)
    unknown := hunknown
    unrestricted := fun hnone d hd => ?_
    quotes := fun d hd => ?_
    sorted := (r.sorted_readLines 0 .empty (lines t)).imp of_decide_eq_true }
  · have hempty : (r.read t).2.filter (·.problem.isUnknown) = [] := by
      rw [hunknown, List.filterMap_eq_nil_iff]
      intro e _
      cases h : Setting.ofLine? e.1 <;> simp [unknownReport?, knows, hnone, h]
    simpa using List.filter_eq_nil_iff.mp hempty d hd
  · obtain ⟨j, l, p, hl, -, hp, rfl⟩ := r.of_mem_readLines hd
    refine ⟨j, l, hl, rfl, ?_, hp⟩
    rw [report, Nat.zero_add]

example :
    let r : OptionReader := ⟨none, none, some 5⟩
    (r.read "a: 1\n\nb: x:y\na: 3\nc").1.entries =
        [("a".toList, .text "3".toList), ("b".toList, .text "x:y".toList)] ∧
      (r.read "a: 1\n\nb: x:y\na: 3\nc").2.map (fun d => (d.problem, d.lineno)) =
        [(.duplicateOption "a", some 8), (.malformedOption, some 9)] := by
  decide

end OptionReader

end BlockMarkup
