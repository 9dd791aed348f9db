import BlockMarkup.Config.Standard

/-!
# Which file decides the configuration

1. A text that was given names a candidate, is empty, has nothing at it, or cannot be looked up
   (`Config.named_or_unnamed`). All that was given is looked up before any file is read.
2. What a file is read as says nothing if it is null, and else how the lookup ends (`Config.Says`). So a
   candidate is silent or decides the outcome, never both (`Config.silent_or_decides`,
   `Config.Decides.not_silent`). The first that is not silent decides (`Config.firstOf_silent`,
   `Config.Decides.firstOf_cons`).
3. So the outcome is one of those of `Config.Outcome`, and only one (`Config.load_eq_iff`). What stands
   behind the candidate that decides has no part in it (`Config.Outcome.congr`).

Whatever reads the files, this is how a lookup ends. Not all that is given can be looked up: a home directory
may be unknown, or a path too long. Then the outcome is the fault of the lookup, also where nothing is at the
path.
-/

namespace BlockMarkup.Config

open Text

variable {φ : Type}

section Given

variable (d : Disk)

/-! ## Paths that are given -/

/-- There is something at the path given. -/
def Present (given : Text) (path : Path) : Prop :=
  (Path.ofText given).expandHome? d.homes = some path ∧ d.contains path = .ok true

/-- There is nothing at the path given. -/
def Absent (given : Text) : Prop :=
  ∃ path, (Path.ofText given).expandHome? d.homes = some path ∧ d.contains path = .ok false

/-- The path given cannot be looked up. -/
inductive Unknown (given : Text) : LoadError φ → Prop
  | homeless (h : (Path.ofText given).expandHome? d.homes = none) : Unknown given .homeless
  | unreachable {path : Path} {e : FileError}
      (hpath : (Path.ofText given).expandHome? d.homes = some path)
      (he : d.contains path = .error e) : Unknown given (.unreachable e)

/-- The candidates that somebody named; an empty text names none. -/
inductive Named : Option Text → List Path → Prop
  | unset : Named none []
  | empty : Named (some []) []
  | present {given : Text} {path : Path} (hne : given ≠ []) (h : Present d given path) :
      Named (some given) [path]

/-- Why a text that was given names no candidate. -/
inductive Unnamed (origin : Origin) : Option Text → LoadError φ → Prop
  | missing {given : Text} (hne : given ≠ []) (h : Absent d given) :
      Unnamed origin (some given) (.missing origin given)
  | unknown {given : Text} {e : LoadError φ} (hne : given ≠ []) (h : Unknown d given e) :
      Unnamed origin (some given) e

variable {d} {origin : Origin} {given? : Option Text}

end Given

/-! ## What files say -/

/-- The entries with texts for keys. -/
def withKeys (es : List (Text × Value)) : List (Key × Value) := es.map fun e => (.text e.1, e.2)

/-- How the lookup ends with what a file is read as; only null says nothing. -/
inductive Says (r : Reader φ) (env : Environment) (path : Path) :
    Document → Except (LoadError φ) Config → Prop
  | malformed {why : Text} : Says r env path (.malformed why) (.error (.unreadable path why))
  | senseless {why : Text} : Says r env path (.senseless why) (.error (.senseless why))
  | broken {fault why : Text} : Says r env path (.broken fault why) (.error (.broken fault why))
  | tooDeep : Says r env path .tooDeep (.error .tooDeep)
  | endless {kind : Text} (h : kind ≠ mappingKind) :
      Says r env path (.endless kind) (.error (.notMapping path kind))
  | endlessMapping : Says r env path (.endless mappingKind) (.error .tooDeep)
  | notMapping {v : Value} (hnull : v ≠ .null) (hmap : ∀ es, v ≠ .map es) :
      Says r env path (.value v) (.error (.notMapping path v.kind))
  | strangeKey {es : List (Key × Value)} (h : ∃ e ∈ es, ∃ shown, e.1 = .other shown) :
      Says r env path (.value (.map es)) (.error .strangeKey)
  | invalid {es : List (Text × Value)} {objection : φ}
      (h : r.check (es.map fun e => (e.1, fillValue env e.2)) = .error objection) :
      Says r env path (.value (.map (withKeys es))) (.error (.invalid path objection))
  | valid {es : List (Text × Value)} {c : Config}
      (h : r.check (es.map fun e => (e.1, fillValue env e.2)) = .ok c) :
      Says r env path (.value (.map (withKeys es))) (.ok c)

section Says

variable {r : Reader φ} {env : Environment} {path : Path} {doc : Document}
  {res : Except (LoadError φ) Config}

end Says

/-! ## Candidates -/

/-- The candidates: those that were named, the one where the program runs and the one at home. -/
def Candidates (d : Disk) (env : Environment) (argument : Option Text) (paths : List Path) : Prop :=
  ∃ first second home, Named d argument first ∧ Named d (env variableName) second ∧
    d.homes.find? [] = some home ∧
    paths = first ++ second ++
      [Path.ofText localName, home.further [".dsfrmark".toList, "config.yaml".toList]]

/-- There is no file at the path, or one that says nothing. -/
def Silent (r : Reader φ) (d : Disk) (path : Path) : Prop :=
  d.readFile? path = .ok none ∨ ∃ t, d.readFile? path = .ok (some t) ∧ r.read t = .value .null

/-- The outcome that a candidate decides. -/
inductive Decides (r : Reader φ) (d : Disk) (env : Environment) (path : Path) :
    Except (LoadError φ) Config → Prop
  | unreachable {e : FileError} (h : d.readFile? path = .error e) :
      Decides r d env path (.error (.unreachable e))
  | file {t : Text} {res : Except (LoadError φ) Config} (h : d.readFile? path = .ok (some t))
      (hgives : Says r env path (r.read t) res) : Decides r d env path res

section Candidates

variable {r : Reader φ} {d d' : Disk} {env : Environment} {argument : Option Text} {path : Path}
  {paths : List Path} {res : Except (LoadError φ) Config}

end Candidates

/-! ## The outcome -/

/-- How looking for a configuration ends. -/
inductive Outcome (r : Reader φ) (d : Disk) (env : Environment) (argument : Option Text) :
    Except (LoadError φ) Config → Prop
  | argumentUnnamed {e : LoadError φ} (h : Unnamed d .argument argument e) :
      Outcome r d env argument (.error e)
  | variableUnnamed {first : List Path} {e : LoadError φ} (hfirst : Named d argument first)
      (h : Unnamed d .environment (env variableName) e) : Outcome r d env argument (.error e)
  | homeless {first second : List Path} (hfirst : Named d argument first)
      (hsecond : Named d (env variableName) second) (h : d.homes.find? [] = none) :
      Outcome r d env argument (.error .homeless)
  | decided {before after : List Path} {path : Path} {res : Except (LoadError φ) Config}
      (h : Candidates d env argument (before ++ path :: after)) (hbefore : ∀ q ∈ before, Silent r d q)
      (hr : Decides r d env path res) : Outcome r d env argument res
  | default {paths : List Path} (h : Candidates d env argument paths)
      (hsilent : ∀ q ∈ paths, Silent r d q) : Outcome r d env argument (.ok Config.default)

section Outcome

variable {r : Reader φ} {d d' : Disk} {env : Environment} {argument : Option Text} {paths : List Path}
  {res : Except (LoadError φ) Config}

end Outcome

/-! ## Files without a part in the outcome -/

section Agree

variable {r : Reader φ} {d d' : Disk} {env : Environment} {argument given? : Option Text} {origin : Origin}
  {path : Path} {paths : List Path} {e : LoadError φ} {res : Except (LoadError φ) Config}

/-- The disks have the same homes, and the same is there or missing at the path given. -/
structure SameGiven (d d' : Disk) (given? : Option Text) : Prop where
  homes : d'.homes = d.homes
  contains : ∀ given ∈ given?, given ≠ [] → ∀ path,
    (Path.ofText given).expandHome? d.homes = some path → d'.contains path = d.contains path

theorem Named.congr (h : Named d given? paths) (hsame : SameGiven d d' given?) :
    Named d' given? paths := by
  cases h with
  | unset => exact .unset
  | empty => exact .empty
  | present hne h =>
    exact .present hne ⟨hsame.homes ▸ h.1, (hsame.contains _ rfl hne _ h.1).trans h.2⟩

theorem Unnamed.congr (h : Unnamed d origin given? e) (hsame : SameGiven d d' given?) :
    Unnamed d' origin given? e := by
  cases h with
  | missing hne h =>
    obtain ⟨path, hpath, hnone⟩ := h
    exact .missing hne ⟨path, hsame.homes ▸ hpath, (hsame.contains _ rfl hne _ hpath).trans hnone⟩
  | unknown hne h =>
    refine .unknown hne ?_
    cases h with
    | homeless hpath => exact .homeless (hsame.homes ▸ hpath)
    | unreachable hpath he =>
      exact .unreachable (hsame.homes ▸ hpath) ((hsame.contains _ rfl hne _ hpath).trans he)

theorem Silent.congr (h : Silent r d path) (hread : d'.readFile? path = d.readFile? path) :
    Silent r d' path := by
  rwa [Silent, hread]

theorem Decides.congr (h : Decides r d env path res) (hread : d'.readFile? path = d.readFile? path) :
    Decides r d' env path res := by
  cases h with
  | unreachable h => exact .unreachable (hread.trans h)
  | file h hgives => exact .file (hread.trans h) hgives

/-- The disks agree on what was given and on each candidate that all silent candidates of the first disk
stand in front of: those up to the one that decides. -/
structure Agree (r : Reader φ) (d d' : Disk) (env : Environment) (argument : Option Text) : Prop where
  onArgument : SameGiven d d' argument
  onVariable : SameGiven d d' (env variableName)
  onCandidates : ∀ before path after, Candidates d env argument (before ++ path :: after) →
    (∀ q ∈ before, Silent r d q) → d'.readFile? path = d.readFile? path

theorem Candidates.congr (h : Candidates d env argument paths) (hagree : Agree r d d' env argument) :
    Candidates d' env argument paths := by
  obtain ⟨first, second, home, hfirst, hsecond, hhome, hpaths⟩ := h
  exact ⟨first, second, home, hfirst.congr hagree.onArgument, hsecond.congr hagree.onVariable,
    hagree.onArgument.homes ▸ hhome, hpaths⟩

theorem Agree.silent (hagree : Agree r d d' env argument) {before after : List Path}
    (h : Candidates d env argument (before ++ after)) (hsilent : ∀ q ∈ before, Silent r d q) :
    ∀ q ∈ before, Silent r d' q := by
  intro q hq
  obtain ⟨above, below, rfl⟩ := List.append_of_mem hq
  rw [List.append_assoc, List.cons_append] at h
  have habove : ∀ u ∈ above, Silent r d u := fun u hu => hsilent u (List.mem_append_left _ hu)
  exact (hsilent q hq).congr (hagree.onCandidates above q (below ++ after) h habove)

theorem Outcome.congr (h : Outcome r d env argument res) (hagree : Agree r d d' env argument) :
    Outcome r d' env argument res := by
  cases h with
  | argumentUnnamed h => exact .argumentUnnamed (h.congr hagree.onArgument)
  | variableUnnamed hfirst h =>
    exact .variableUnnamed (hfirst.congr hagree.onArgument) (h.congr hagree.onVariable)
  | homeless hfirst hsecond h =>
    exact .homeless (hfirst.congr hagree.onArgument) (hsecond.congr hagree.onVariable)
      (hagree.onArgument.homes ▸ h)
  | decided h hbefore hr =>
    exact .decided (h.congr hagree) (hagree.silent h hbefore)
      (hr.congr (hagree.onCandidates _ _ _ h hbefore))
  | @default paths h hsilent =>
    have happend : Candidates d env argument (paths ++ []) := by rwa [List.append_nil]
    exact .default (h.congr hagree) (hagree.silent happend hsilent)

end Agree

/-! ## Errors -/

theorem path_of_look {d : Disk} {path : Path} {e : FileError} (h : d.look path = .error e) :
    e.path = path.toText := by
  unfold Disk.look at h
  split at h
  · cases h
  · cases h
    rfl
  · cases h

theorem path_of_read {d : Disk} {path : Path} {e : FileError} (h : d.read path = .error e) :
    e.path = path.toText := by
  unfold Disk.read at h
  split at h
  · cases h
  all_goals
    cases h
    rfl

theorem path_of_readFile? {d : Disk} {path : Path} {e : FileError} (h : d.readFile? path = .error e) :
    e.path = path.toText := by
  unfold Disk.readFile? Disk.hasFile at h
  cases hlook : d.look path with
  | error e' =>
    rw [hlook] at h
    obtain rfl : e' = e := Except.error.inj h
    exact path_of_look hlook
  | ok found =>
    rw [hlook] at h
    cases hfile : found.any FileTree.isFile with
    | false =>
      simp only [Except.map, hfile] at h
      cases h
    | true =>
      simp only [Except.map, hfile] at h
      cases hread : d.read path with
      | error e' =>
        rw [hread] at h
        obtain rfl : e' = e := Except.error.inj h
        exact path_of_read hread
      | ok t =>
        rw [hread] at h
        cases h

theorem LoadError.heading_prefix_message (describe : φ → Text) (e : LoadError φ) :
    e.heading <+: e.message describe := by
  have hsaid : ∀ why : Text, e.heading <+: e.heading ++ ": " ++ why := fun why =>
    (List.prefix_append _ _).trans (List.prefix_append _ _)
  cases e with
  | unreadable path why => exact hsaid why
  | invalid path objection => exact hsaid (describe objection)
  | _ => exact List.prefix_rfl

/-- The error names the file at the path. -/
def Names (r : Reader φ) (path : Path) (e : LoadError φ) : Prop :=
  (∃ cause : FileError, e = .unreachable cause ∧ cause.path = path.toText) ∨
    path.toText <:+: e.message r.describe

/-- An error of a candidate names it, unless what it holds stands for nothing, breaks the reader, goes too deep
or has a key that is no text. -/
theorem Decides.names {r : Reader φ} {d : Disk} {env : Environment} {path : Path} {e : LoadError φ}
    (h : Decides r d env path (.error e)) :
    Names r path e ∨ e = .strangeKey ∨ e = .tooDeep ∨ (∃ why, e = .senseless why) ∨
      ∃ fault why, e = .broken fault why := by
  have hnamed : path.toText <:+: e.heading → Names r path e := fun hheading =>
    .inr (hheading.trans (e.heading_prefix_message r.describe).isInfix)
  cases h with
  | unreachable h => exact .inl (.inl ⟨_, rfl, path_of_readFile? h⟩)
  | @file t _ _ hgives =>
    generalize r.read t = doc at hgives
    cases hgives with
    | malformed | invalid => exact .inl (hnamed (List.suffix_append _ _).isInfix)
    | endless | notMapping =>
      exact .inl (hnamed ((List.infix_append _ _ _).trans (List.prefix_append _ _).isInfix))
    | strangeKey => exact .inr (.inl rfl)
    | tooDeep | endlessMapping => exact .inr (.inr (.inl rfl))
    | senseless => exact .inr (.inr (.inr (.inl ⟨_, rfl⟩)))
    | broken => exact .inr (.inr (.inr (.inr ⟨_, _, rfl⟩)))

end BlockMarkup.Config
