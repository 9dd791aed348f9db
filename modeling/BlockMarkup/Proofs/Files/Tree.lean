import BlockMarkup.Files.Tree
import BlockMarkup.Proofs.Entries

/-!
# What was written can be read

A file that was written is found at its path, with the content that was written
(`Disk.content?_write`). For a file is put where a file or nothing was (`FileTree.Free`), so all directories
and links stay (`FileTree.HasDirectory.put`, `FileTree.Free.hasLink_put_iff`), and the path leads where it led
before (`FileTree.SameWays.follow`). Where writing fails, directories may have been made, but all files stay
(`Disk.sameFiles_of_write`).
-/

namespace BlockMarkup

open Text

/-! ## Trees -/

namespace FileTree

/-- There is a directory at the place. -/
def HasDirectory (t : FileTree) (p : Place) : Prop := ∃ es, t.find p = .ok (.directory es)

/-- There is a link to the target at the place. -/
def HasLink (t : FileTree) (p : Place) (target : Path) : Prop := t.find p = .ok (.link target)

/-- A file can be put at the place. -/
def Free (t : FileTree) (p : Place) : Prop :=
  t.find p = .error .notFound ∨ ∃ u, t.find p = .ok u ∧ u.isFile

variable {t t' new : FileTree} {p q : Place}

theorem not_hasDirectory_leaf (h : ∀ es, t ≠ directory es) (p : Place) : ¬ t.HasDirectory p := by
  rintro ⟨es, hes⟩
  cases p with
  | nil => exact h es (Except.ok.inj hes)
  | cons s p =>
    cases t with
    | directory es' => exact h es' rfl
    | file | binary | link => cases hes

theorem hasDirectory_cons_iff {es : List (Text × FileTree)} {s : Text} :
    (directory es).HasDirectory (s :: p) ↔ ∃ u, es.lookup s = some u ∧ u.HasDirectory p := by
  unfold HasDirectory
  rw [find]
  cases es.lookup s <;> simp

theorem find_cons_iff {es : List (Text × FileTree)} {s : Text} {u : FileTree} :
    (directory es).find (s :: p) = .ok u ↔ ∃ v, es.lookup s = some v ∧ v.find p = .ok u := by
  rw [find]
  cases es.lookup s <;> simp

theorem not_hasLink_file (content : Text) (p : Place) (target : Path) :
    ¬ (file content).HasLink p target := by
  intro h
  cases p <;> cases h

theorem find_put_self (t new : FileTree) (p : Place) : (t.put new p).find p = .ok new := by
  induction p generalizing t with
  | nil => rfl
  | cons s p ih =>
    rw [put, find, Entries.lookup_put_self]
    exact ih _

/-- Nothing but a directory gives way to what is put where it was. -/
theorem HasDirectory.put (hq : t.HasDirectory q) (hp : ¬ t.HasDirectory p) :
    (t.put new p).HasDirectory q := by
  induction p generalizing t q with
  | nil =>
    cases t with
    | directory es => exact absurd ⟨es, rfl⟩ hp
    | file | binary | link => exact absurd hq (not_hasDirectory_leaf (by simp) q)
  | cons s p ih =>
    cases t with
    | file | binary | link => exact absurd hq (not_hasDirectory_leaf (by simp) q)
    | directory es =>
      cases q with
      | nil => exact ⟨_, rfl⟩
      | cons k q =>
        obtain ⟨u, hu, hdir⟩ := hasDirectory_cons_iff.mp hq
        refine hasDirectory_cons_iff.mpr ?_
        by_cases hk : k = s
        · subst hk
          have hinner : ¬ u.HasDirectory p := fun h => hp (hasDirectory_cons_iff.mpr ⟨u, hu, h⟩)
          refine ⟨_, Entries.lookup_put_self es, ?_⟩
          rw [entries, hu]
          exact ih hdir hinner
        · exact ⟨u, (Entries.lookup_put_of_ne hk es).trans hu, hdir⟩

/-- Where there was nothing, there is nothing but directories and what is put there. -/
theorem find_put_empty_ne {leaf : FileTree} (hleaf : ∀ es, leaf ≠ directory es)
    (hnew : ∀ q, new.find q ≠ .ok leaf) (p q : Place) : ((directory []).put new p).find q ≠ .ok leaf := by
  induction p generalizing q with
  | nil => exact hnew q
  | cons s p ih =>
    cases q with
    | nil => exact fun h => hleaf _ (Except.ok.inj h).symm
    | cons k q =>
      intro h
      obtain ⟨u, hu, hfound⟩ := find_cons_iff.mp h
      by_cases hk : k = s
      · subst hk
        obtain rfl := Option.some.inj ((Entries.lookup_put_self _).symm.trans hu)
        exact ih q hfound
      · rw [Entries.lookup_put_of_ne hk] at hu
        cases hu

namespace Free

theorem not_hasDirectory (h : t.Free p) : ¬ t.HasDirectory p := by
  rintro ⟨es, hes⟩
  rcases h with h | ⟨u, hu, hfile⟩
  · rw [hes] at h
    cases h
  · obtain rfl := Except.ok.inj (hes.symm.trans hu)
    cases hfile

/-- All but the last step to a free place is out of directories. -/
theorem exists_directory {s : Text} (h : t.Free (s :: p)) : ∃ es, t = directory es := by
  cases t with
  | directory es => exact ⟨es, rfl⟩
  | file | binary | link =>
    rcases h with h | ⟨u, hu, -⟩
    · cases h
    · cases hu

theorem of_cons {es : List (Text × FileTree)} {s : Text} {u : FileTree}
    (h : (directory es).Free (s :: p)) (hu : es.lookup s = some u) : u.Free p := by
  unfold Free at h ⊢
  rwa [find, hu] at h

/-- Where the tree put at a free place has no such leaf, nor what was there, the leaves are as they were. -/
theorem find_put_iff {leaf : FileTree} (h : t.Free p) (hleaf : ∀ es, leaf ≠ directory es)
    (hnew : ∀ q, new.find q ≠ .ok leaf) (hold : ∀ u, t.find p = .ok u → ∀ q, u.find q ≠ .ok leaf) :
    (t.put new p).find q = .ok leaf ↔ t.find q = .ok leaf := by
  induction p generalizing t q with
  | nil => exact iff_of_false (hnew q) (hold t rfl q)
  | cons s p ih =>
    obtain ⟨es, rfl⟩ := h.exists_directory
    have hdirectory : ∀ es', Except.ok (directory es') ≠ (Except.ok leaf : Except FileFault _) :=
      fun es' heq => hleaf es' (Except.ok.inj heq).symm
    cases q with
    | nil => exact iff_of_false (hdirectory _) (hdirectory _)
    | cons k q =>
      rw [FileTree.put, find_cons_iff, find_cons_iff, entries]
      by_cases hk : k = s
      · subst hk
        simp only [Entries.lookup_put_self, Option.some.injEq, exists_eq_left']
        cases hu : es.lookup k with
        | none => simpa using find_put_empty_ne hleaf hnew p q
        | some u =>
          have hinner := ih (h.of_cons hu) (q := q) fun v hv => hold v (find_cons_iff.mpr ⟨u, hu, hv⟩)
          simpa using hinner
      · rw [Entries.lookup_put_of_ne hk]

/-- Links stay as they are when a file is put at a free place. -/
theorem hasLink_put_iff (h : t.Free p) (content : Text) (target : Path) :
    (t.put (file content) p).HasLink q target ↔ t.HasLink q target := by
  refine h.find_put_iff nofun (fun q => not_hasLink_file content q target) fun u hu q hlink => ?_
  obtain hnone | ⟨v, hv, hfile⟩ := h
  · rw [hu] at hnone
    cases hnone
  · obtain rfl := Except.ok.inj (hu.symm.trans hv)
    cases u with
    | file | binary => cases q <;> cases hlink
    | link | directory => cases hfile

/-- All files stay when a directory is made where nothing was. -/
theorem find_file_put_directory_iff {leaf : FileTree} (h : t.find p = .error .notFound) (hleaf : leaf.isFile) :
    (t.put (directory []) p).find q = .ok leaf ↔ t.find q = .ok leaf := by
  have hdirectory : ∀ es, leaf ≠ directory es := by
    rintro es rfl
    cases hleaf
  refine find_put_iff (.inl h) hdirectory (fun q hq => ?_) fun u hu => ?_
  · cases q with
    | nil => exact hdirectory _ (Except.ok.inj hq).symm
    | cons s q => cases hq
  · rw [h] at hu
    cases hu

end Free

/-! ### Ways -/

section Ways

variable {here there place : Place} {s : Text} {steps : List Text} {stretch : Stretch} {left : Nat}

theorem walk_cons_of_link {target : Path} (hstep : t.stepFrom here s = .ok there)
    (h : t.HasLink there target) :
    t.walk here (s :: steps) = .ok (.detour (target.start here) (target.steps ++ steps)) := by
  simp only [walk, hstep, bind, Except.bind]
  rw [h]
  rfl

theorem walk_cons_of_noLink (hstep : t.stepFrom here s = .ok there)
    (h : ∀ target, ¬ t.HasLink there target) : t.walk here (s :: steps) = t.walk there steps := by
  simp only [walk, hstep, bind, Except.bind]
  split
  · next target hlink => exact absurd hlink (h target)
  · rfl

/-- The second tree has the links of the first, and its directories at least. -/
structure SameWays (t t' : FileTree) : Prop where
  directory : ∀ q, t.HasDirectory q → t'.HasDirectory q
  link : ∀ q target, t'.HasLink q target ↔ t.HasLink q target

namespace SameWays

theorem stepFrom (h : t.SameWays t') (hstep : t.stepFrom here s = .ok place) :
    t'.stepFrom here s = .ok place := by
  unfold FileTree.stepFrom at hstep ⊢
  split at hstep
  · cases hstep
  · next es hes =>
    obtain ⟨es', hes'⟩ := h.directory here ⟨es, hes⟩
    rwa [hes']
  · cases hstep

theorem walk (h : t.SameWays t') (hwalk : t.walk here steps = .ok stretch) :
    t'.walk here steps = .ok stretch := by
  induction steps generalizing here with
  | nil => exact hwalk
  | cons s steps ih =>
    cases hstep : t.stepFrom here s with
    | error e =>
      rw [FileTree.walk, hstep] at hwalk
      cases hwalk
    | ok there =>
      by_cases hlink : ∃ target, t.HasLink there target
      · obtain ⟨target, htarget⟩ := hlink
        rw [walk_cons_of_link hstep htarget] at hwalk
        rwa [walk_cons_of_link (h.stepFrom hstep) ((h.link there target).mpr htarget)]
      · have hnone := not_exists.mp hlink
        rw [walk_cons_of_noLink hstep hnone] at hwalk
        rw [walk_cons_of_noLink (h.stepFrom hstep) fun target => mt (h.link there target).mp (hnone target)]
        exact ih hwalk

theorem follow (h : t.SameWays t') (hfollow : t.follow left here steps = .ok place) :
    t'.follow left here steps = .ok place := by
  induction left generalizing here steps with
  | zero =>
    rw [FileTree.follow] at hfollow ⊢
    split at hfollow
    · cases hfollow
    · next hwalk => rwa [h.walk hwalk]
    · cases hfollow
  | succ left ih =>
    rw [FileTree.follow] at hfollow ⊢
    split at hfollow
    · cases hfollow
    · next hwalk => rwa [h.walk hwalk]
    · next hwalk =>
      rw [h.walk hwalk]
      exact ih hfollow

end SameWays

theorem Free.sameWays (h : t.Free p) (content : Text) : t.SameWays (t.put (file content) p) :=
  ⟨fun _ hq => hq.put h.not_hasDirectory, fun _ => h.hasLink_put_iff content⟩

end Ways

end FileTree

/-! ## Disks -/

namespace Disk

theorem free_of_writeLast {d d' : Disk} {p : Path} {content : Text} (h : d.writeLast p content = .ok d') :
    ∃ target, d.place p = .ok target ∧ d.files.Free target ∧
      d' = { d with files := d.files.put (.file content) target } := by
  unfold writeLast at h
  split at h
  · cases h
  · next target htarget =>
    split at h
    · next t ht =>
      split at h
      · next hfile => exact ⟨target, htarget, .inr ⟨t, ht, hfile⟩, (Except.ok.inj h).symm⟩
      · cases h
    · next hnone => exact ⟨target, htarget, .inl hnone, (Except.ok.inj h).symm⟩
    · cases h

theorem content?_writeLast {d d' : Disk} {p : Path} {content : Text}
    (h : d.writeLast p content = .ok d') : d'.content? p = some content := by
  obtain ⟨target, htarget, hfree, rfl⟩ := free_of_writeLast h
  have hplace : place { d with files := d.files.put (.file content) target } p = .ok target := by
    unfold place at htarget ⊢
    split at htarget
    · cases htarget
    · next hlong =>
      rw [if_neg hlong]
      exact (hfree.sameWays content).follow htarget
  have hfind : find { d with files := d.files.put (.file content) target } p = .ok (.file content) := by
    unfold find
    rw [hplace]
    exact FileTree.find_put_self d.files (.file content) target
  rw [content?, hfind]

/-- The second disk has the files of the first where they were, and no others. -/
def SameFiles (d d' : Disk) : Prop :=
  ∀ (q : Place) (leaf : FileTree), leaf.isFile → (d'.files.find q = .ok leaf ↔ d.files.find q = .ok leaf)

theorem SameFiles.refl (d : Disk) : d.SameFiles d := fun _ _ _ => Iff.rfl

theorem SameFiles.trans {d d' d'' : Disk} (h : d.SameFiles d') (h' : d'.SameFiles d'') : d.SameFiles d'' :=
  fun q leaf hleaf => (h' q leaf hleaf).trans (h q leaf hleaf)

theorem sameFiles_of_makeLast {d d' : Disk} {p : Path} (h : d.makeLast p = .ok d') : d.SameFiles d' := by
  unfold makeLast at h
  split at h
  · cases h
  · next target htarget =>
    split at h
    · next hnone =>
      obtain rfl := Except.ok.inj h
      exact fun q leaf hleaf => FileTree.Free.find_file_put_directory_iff hnone hleaf
    · cases h
    · obtain rfl := Except.ok.inj h
      exact .refl d
    · cases h

/-- The disk after an attempt, whether or not it failed. -/
def after : Except (FileError × Disk) Disk → Disk
  | .ok d => d
  | .error (_, d) => d

theorem sameFiles_after_makeLast {d : Disk} (p : Path) :
    d.SameFiles (after ((d.makeLast p).mapError (·, d))) := by
  cases h : d.makeLast p with
  | error e => exact .refl d
  | ok made => exact sameFiles_of_makeLast h

/-- Making directories changes no files, also where it fails. -/
theorem sameFiles_makeDirectory (d : Disk) (p : Path) : d.SameFiles (after (d.makeDirectory p)) := by
  fun_induction makeDirectory d p with
  | case1 p path hmissing hroot => exact .refl d
  | case2 p path hmissing hsteps ih =>
    cases hmake : d.makeDirectory p.parent with
    | error e =>
      rw [hmake] at ih
      exact ih
    | ok made =>
      rw [hmake] at ih
      exact ih.trans (sameFiles_after_makeLast p)
  | case3 p hfail => exact sameFiles_after_makeLast p

/-- A write that fails has made its directories or fails with them. -/
theorem write_eq (d : Disk) (p : Path) (content : Text) :
    d.write p content =
      match d.makeDirectory p.parent with
      | .error fault => .error fault
      | .ok made =>
        match made.writeLast p content with
        | .error e => .error (e, made)
        | .ok written => .ok written := by
  unfold write
  cases d.makeDirectory p.parent with
  | error fault => rfl
  | ok made =>
    dsimp only [bind, Except.bind]
    cases made.writeLast p content <;> rfl

/-- What was written can be read. -/
theorem content?_write {d d' : Disk} {p : Path} {content : Text}
    (h : d.write p content = .ok d') : d'.content? p = some content := by
  rw [write_eq] at h
  split at h
  · cases h
  · split at h
    · cases h
    · next hwritten =>
      obtain rfl := Except.ok.inj h
      exact content?_writeLast hwritten

/-- Where writing fails, no file changes. -/
theorem sameFiles_of_write {d d' : Disk} {p : Path} {content : Text} {e : FileError}
    (h : d.write p content = .error (e, d')) : d.SameFiles d' := by
  have hmade := d.sameFiles_makeDirectory p.parent
  rw [write_eq] at h
  split at h
  · next hmake =>
    obtain rfl := Except.error.inj h
    rwa [hmake] at hmade
  · next hmake =>
    rw [hmake] at hmade
    split at h
    · obtain ⟨-, rfl⟩ := Prod.mk.inj (Except.error.inj h)
      exact hmade
    · cases h

end Disk

end BlockMarkup
