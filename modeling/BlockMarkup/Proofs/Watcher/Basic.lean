import BlockMarkup.Proofs.Files.Tree
import BlockMarkup.Proofs.Watcher.Debouncer
import BlockMarkup.Watcher.Threads

/-!
# What a watcher does

The history of a watcher tells what was read and what was published. A render ends in one of two
ways (`Watcher.Ends`, `Watcher.exists_ends`): its publication is in the output, or no file has changed, though
directories may have been made. Nothing else of the watcher changes then but for what is noted
(`Watcher.sameTimes_finish`).
-/

namespace BlockMarkup

open Text

/-! ## Histories -/

namespace Happening

def read? : Happening → Option (Except FileError Text)
  | read content => some content
  | _ => none

def published? : Happening → Option Publication
  | published p => some p
  | _ => none

@[simp] theorem read?_logged (r : Log.Record) : (logged r).read? = none := rfl

@[simp] theorem published?_logged (r : Log.Record) : (logged r).published? = none := rfl

theorem filterMap_published?_logged (rs : List Log.Record) : (rs.map logged).filterMap published? = [] := by
  simp [List.filterMap_eq_nil_iff]

/-- Every event was followed by a read. -/
def Answered (hs : List Happening) : Prop :=
  ∀ (i : Nat) (e : FileEvent), hs[i]? = some (.delivered e) →
    ∃ (j : Nat) (content : Except FileError Text), i < j ∧ hs[j]? = some (.read content)

theorem answered_concat_read (hs : List Happening) (content : Except FileError Text) :
    Answered (hs ++ [.read content]) := by
  intro i e hi
  rcases Nat.lt_or_ge i hs.length with hlt | hle
  · exact ⟨hs.length, content, hlt, List.getElem?_concat_length⟩
  · rw [List.getElem?_append_right hle] at hi
    cases hlast : i - hs.length with
    | zero =>
      rw [hlast] at hi
      cases hi
    | succ k =>
      rw [hlast] at hi
      cases hi

theorem Answered.append {hs gs : List Happening} (h : Answered hs)
    (hgs : ∀ e, Happening.delivered e ∉ gs) : Answered (hs ++ gs) := by
  intro i e hi
  rw [List.getElem?_append] at hi
  split at hi
  · obtain ⟨j, content, hij, hj⟩ := h i e hi
    refine ⟨j, content, hij, ?_⟩
    rw [List.getElem?_append_left (List.getElem?_eq_some_iff.mp hj).1, hj]
  · exact absurd (List.mem_of_getElem? hi) (hgs e)

theorem Answered.of_append {hs gs : List Happening} (h : Answered (hs ++ gs))
    (hgs : ∀ content, Happening.read content ∉ gs) : Answered hs := by
  intro i e hi
  have hlt := (List.getElem?_eq_some_iff.mp hi).1
  obtain ⟨j, content, hij, hj⟩ := h i e ((List.getElem?_append_left hlt).trans hi)
  rcases Nat.lt_or_ge j hs.length with hj' | hj'
  · exact ⟨j, content, hij, (List.getElem?_append_left hj').symm.trans hj⟩
  · rw [List.getElem?_append_right hj'] at hj
    exact absurd (List.mem_of_getElem? hj) (hgs content)

end Happening

/-! ## The end of a render -/

namespace Watcher

variable (w : Watcher)

theorem add_nil : w.add [] = w := by
  rw [add, List.append_nil]

theorem add_add (hs gs : List Happening) : (w.add hs).add gs = w.add (hs ++ gs) := by
  simp only [add, List.append_assoc]

/-- What writing adds: records, and a publication that is in the output then; or records alone, with
all files as they were, and perhaps directories. -/
theorem write_cases (t : Text) :
    (∃ (p : Publication) (disk : Disk) (rs : List Log.Record), w.plan.publish t = .ok p ∧
      w.disk.write w.plan.output p.html = .ok disk ∧
      w.write t = ({ w with disk }.add (rs.map Happening.logged ++ [Happening.published p]),
        (w.plan.listener p).map .listener)) ∨
    ((∀ p, w.plan.publish t = .ok p → (w.disk.write w.plan.output p.html).isOk = false) ∧
      ∃ (disk : Disk) (rs : List Log.Record) (fault : RenderFault), w.disk.SameFiles disk ∧
        w.write t = ({ w with disk }.add (rs.map Happening.logged), some fault)) := by
  unfold write
  cases hpublish : w.plan.publish t with
  | error why =>
    refine .inr ⟨nofun, w.disk, w.plan.config.journal w.plan.render w.plan.form t, .markdown why, .refl _, ?_⟩
    simp only [add, hpublish]
  | ok p =>
    cases hwrite : w.disk.write w.plan.output p.html with
    | error fault =>
      refine .inr ⟨?_, fault.2, w.plan.config.journal w.plan.render w.plan.form t, .file fault.1,
        Disk.sameFiles_of_write hwrite, ?_⟩
      · rintro _ ⟨⟩
        rw [hwrite]
        rfl
      · simp only [add, hpublish, hwrite]
    | ok disk =>
      refine .inl ⟨p, disk, w.plan.config.journal w.plan.render w.plan.form t ++
        [p.writtenRecord w.plan.output], rfl, hwrite, ?_⟩
      simp [add, hpublish, hwrite]

/-- What a render says when it fails. -/
def failure : Log.Record := ⟨.error, .watcher, "Render failed for " ++ w.plan.source.toText⟩

/-- How a render ends: files may have changed and a failure may be noted, and the history tells of its
publication, which is in the output then. Without one all files are as they were, and without anything to
write directories are as well. -/
structure Ends (disk : Disk) (handler : Debouncer (Except FileError Text)) (hs : List Happening) :
    Prop where
  finish_eq : w.finish = { w with disk, handler }.add hs
  handler_eq : handler = w.handler ∨ handler = w.handler.fail
  unread : ∀ content, Happening.read content ∉ hs
  undelivered : ∀ e, Happening.delivered e ∉ hs
  published : hs.filterMap Happening.published? = w.publication?.toList
  shown : ∀ p, w.publication? = some p → disk.content? w.plan.output = some p.html
  sameFiles : w.publication? = none → w.disk.SameFiles disk
  untouched : ∀ since e, w.handler.running = some (since, .error e) → disk = w.disk

theorem publication?_of_running {since : Rat} {t : Text} (h : w.handler.running = some (since, .ok t)) :
    w.publication? =
      (w.plan.publish t).toOption.filter fun p => (w.disk.write w.plan.output p.html).isOk := by
  rw [publication?, h]

variable {w}

/-- A render that writes nothing says why, and notes that it failed. -/
theorem ends_of_failed {disk : Disk} (rs : List Log.Record) (hnone : w.publication? = none)
    (hfiles : w.disk.SameFiles disk)
    (hread : ∀ since e, w.handler.running = some (since, .error e) → disk = w.disk)
    (hfinish : w.finish = { w with disk, handler := w.handler.fail }.add (rs.map Happening.logged)) :
    w.Ends disk w.handler.fail (rs.map Happening.logged) where
  finish_eq := hfinish
  handler_eq := .inr rfl
  unread := by simp
  undelivered := by simp
  published := by
    rw [Happening.filterMap_published?_logged, hnone]
    rfl
  shown := by simp [hnone]
  sameFiles := fun _ => hfiles
  untouched := hread

/-- A render that writes tells of its publication; it may fail after that. -/
theorem ends_of_written {p : Publication} {disk : Disk} {handler : Debouncer (Except FileError Text)}
    (rs gs : List Log.Record) (hsome : w.publication? = some p)
    (hdisk : w.disk.write w.plan.output p.html = .ok disk)
    (hhandler : handler = w.handler ∨ handler = w.handler.fail)
    (hfinish : w.finish = { w with disk, handler }.add
      (rs.map Happening.logged ++ Happening.published p :: gs.map Happening.logged)) :
    w.Ends disk handler (rs.map Happening.logged ++ Happening.published p :: gs.map Happening.logged) where
  finish_eq := hfinish
  handler_eq := hhandler
  unread := by simp
  undelivered := by simp
  published := by
    rw [List.filterMap_append, List.filterMap_cons, Happening.filterMap_published?_logged,
      Happening.filterMap_published?_logged, hsome]
    rfl
  shown := by
    intro q hq
    obtain rfl := Option.some.inj (hsome.symm.trans hq)
    exact Disk.content?_write hdisk
  sameFiles := by simp [hsome]
  untouched := by
    intro since e hrunning
    rw [publication?, hrunning] at hsome
    cases hsome

variable (w)

theorem exists_ends : ∃ disk handler hs, w.Ends disk handler hs := by
  rcases hrunning : w.handler.running with _ | ⟨since, e | t⟩
  · have hnone : w.publication? = none := by rw [publication?, hrunning]
    have hfinish : w.finish = w.add [] := by rw [finish, hrunning, add_nil]
    exact ⟨w.disk, w.handler, [], hfinish, .inl rfl, by simp, by simp, by simp [hnone], by simp [hnone],
      fun _ => .refl _, fun _ _ _ => rfl⟩
  · have hnone : w.publication? = none := by rw [publication?, hrunning]
    have hfinish : w.finish = w.failed := by rw [finish, hrunning]
    exact ⟨_, _, _, ends_of_failed [w.failure] hnone (.refl _) (fun _ _ _ => rfl) hfinish⟩
  · have hpublication := w.publication?_of_running hrunning
    rcases w.write_cases t with ⟨p, disk, rs, hpublish, hdisk, hwrite⟩ |
        ⟨hnone, disk, rs, fault, hfiles, hwrite⟩
    · have hsome : w.publication? = some p := by
        rw [hpublication, hpublish]
        exact Option.filter_some_pos (by rw [hdisk]; rfl)
      cases hlistener : w.plan.listener p with
      | none =>
        refine ⟨_, _, _, ends_of_written rs [] hsome hdisk (.inl rfl) ?_⟩
        simp only [finish, hrunning, hwrite, hlistener, Option.map_none]
        rfl
      | some why =>
        refine ⟨_, _, _, ends_of_written rs [w.failure] hsome hdisk (.inr rfl) ?_⟩
        simp only [finish, hrunning, hwrite, hlistener, Option.map_some]
        simp [failed, tell, add, failure]
    · have hfree : w.publication? = none := by
        rw [hpublication, Option.filter_eq_none_iff]
        intro p hp
        cases hpublish : w.plan.publish t with
        | error why =>
          rw [hpublish] at hp
          cases hp
        | ok q =>
          rw [hpublish] at hp
          obtain rfl : q = p := Option.some.inj hp
          simp [hnone q hpublish]
      have hread : ∀ since' e, w.handler.running = some (since', .error e) → disk = w.disk := by simp [hrunning]
      refine ⟨_, _, _, ends_of_failed (rs ++ [w.failure]) hfree hfiles hread ?_⟩
      simp only [finish, hrunning, hwrite]
      simp [failed, tell, add, failure]

/-- Only files, the marks of the debouncer and history differ when a render ends. -/
structure SameTimes (v w : Watcher) : Prop where
  plan_eq : v.plan = w.plan
  observing_eq : v.observing = w.observing
  handler_eq : v.handler = { w.handler with history := v.handler.history }

theorem sameTimes_finish : w.finish.SameTimes w := by
  obtain ⟨disk, handler, hs, h⟩ := w.exists_ends
  rw [h.finish_eq]
  refine ⟨rfl, rfl, ?_⟩
  show handler = { w.handler with history := handler.history }
  rcases h.handler_eq with rfl | rfl
  · rfl
  · rfl

theorem due_finish : w.finish.handler.due = w.handler.due := by
  rw [w.sameTimes_finish.handler_eq]

theorem waiting_finish : w.finish.handler.waiting = w.handler.waiting := by
  rw [w.sameTimes_finish.handler_eq]

theorem running_finish : w.finish.handler.running = w.handler.running := by
  rw [w.sameTimes_finish.handler_eq]

theorem output?_finish {w : Watcher} {p : Publication} (h : w.publication? = some p) :
    w.finish.output? = some p.html := by
  obtain ⟨disk, handler, hs, hends⟩ := w.exists_ends
  rw [hends.finish_eq]
  exact hends.shown p h

theorem sameFiles_finish {w : Watcher} (h : w.publication? = none) : w.disk.SameFiles w.finish.disk := by
  obtain ⟨disk, handler, hs, hends⟩ := w.exists_ends
  rw [hends.finish_eq]
  exact hends.sameFiles h

theorem disk_finish {w : Watcher} {since : Rat} {e : FileError} (h : w.handler.running = some (since, .error e)) :
    w.finish.disk = w.disk := by
  obtain ⟨disk, handler, hs, hends⟩ := w.exists_ends
  rw [hends.finish_eq]
  exact hends.untouched since e h

theorem filterMap_read?_finish :
    w.finish.history.filterMap Happening.read? = w.history.filterMap Happening.read? := by
  obtain ⟨disk, handler, hs, h⟩ := w.exists_ends
  have hnone : hs.filterMap Happening.read? = [] := by
    refine List.filterMap_eq_nil_iff.mpr fun a ha => ?_
    cases a with
    | read content => exact absurd ha (h.unread content)
    | _ => rfl
  rw [h.finish_eq]
  show (w.history ++ hs).filterMap _ = _
  rw [List.filterMap_append, hnone, List.append_nil]

theorem filterMap_published?_finish :
    w.finish.history.filterMap Happening.published? =
      w.history.filterMap Happening.published? ++ w.publication?.toList := by
  obtain ⟨disk, handler, hs, h⟩ := w.exists_ends
  rw [h.finish_eq]
  show (w.history ++ hs).filterMap _ = _
  rw [List.filterMap_append, h.published]

theorem answered_finish {w : Watcher} (h : Happening.Answered w.history) :
    Happening.Answered w.finish.history := by
  obtain ⟨disk, handler, hs, hends⟩ := w.exists_ends
  rw [hends.finish_eq]
  exact h.append hends.undelivered

theorem deliver_of_concerns {e : FileEvent} (h : w.concerns e) :
    w.deliver e = { w with handler := w.handler.deliver w.disk.resolve? e }.add [.delivered e] :=
  if_pos h

end Watcher

/-! ## What comes of a read -/

/-- What is written after a read, if the write succeeds. -/
def WatchPlan.outcome? (plan : WatchPlan) : Nat × Except FileError Text → Option (Nat × Publication)
  | (i, .ok t) => (plan.publish t).toOption.map (i, ·)
  | (_, .error _) => none

theorem WatchPlan.fst_of_outcome? (plan : WatchPlan) {r : Nat × Except FileError Text}
    {w : Nat × Publication} (h : plan.outcome? r = some w) : r.1 = w.1 := by
  obtain ⟨i, e | t⟩ := r
  · cases h
  · obtain ⟨p, -, rfl⟩ := Option.map_eq_some_iff.mp h
    rfl

/-- What the render that holds the lock writes comes from what it has read. -/
theorem Watcher.sublist_outcome? (w : Watcher) {since : Rat} {content : Except FileError Text}
    (h : w.handler.running = some (since, content)) (i : Nat) :
    (w.publication?.map (i, ·)).toList.Sublist ([(i, content)].filterMap w.plan.outcome?) := by
  cases content with
  | error e =>
    have hnone : w.publication? = none := by rw [publication?, h]
    rw [hnone]
    exact List.nil_sublist _
  | ok t =>
    rw [w.publication?_of_running h]
    show List.Sublist _ (List.filterMap w.plan.outcome? [(i, Except.ok t)])
    rw [List.filterMap_cons, List.filterMap_nil, WatchPlan.outcome?]
    cases (w.plan.publish t).toOption with
    | none => exact List.Sublist.refl _
    | some p =>
      rw [Option.filter_some]
      split
      · exact List.Sublist.refl _
      · exact List.nil_sublist _

end BlockMarkup
