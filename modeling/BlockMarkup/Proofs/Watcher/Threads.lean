import BlockMarkup.Markdown.Paragraphs
import BlockMarkup.Proofs.Watcher.Lock
import Mathlib.Data.List.Nodup

/-!
# No edit is lost

However edits, events, timers and renders interleave, at most one render is between its read and its
write, what is written comes from what was read in the same order, and a render that cannot read
changes no file and lets the lock go. When nothing is left to do, the last event was followed by a
read. So if the source has not been edited since, and what the last read gave was written, the
output shows the source as it is (`Threads.faithful`).

Three invariants carry this through a run, one action at a time.

1. `Threads.Locked`: only one render holds the lock, and what it has read is what the watcher has.
2. `Threads.Logged`: reads and writes are noted as the watcher's history has them, and a render that
   is going to write was the last to read.
3. `Threads.Fresh`: unless a timer is armed or the render of the last one waits, every event was followed
   by a read, and without edits since then, what was read last is in the source and what was written for it
   is in the output.
-/

namespace BlockMarkup

open Text

namespace Threads

variable {s s' : Threads} {i : Nat}

/-! ## Reads and writes -/

/-- Each render reads once and then may write what it has read, before another one reads. -/
structure Logged (s : Threads) : Prop where
  distinct : (s.reads.map Prod.fst).Nodup
  begun : ∀ r ∈ s.reads, ∃ st : Stage, s.renders[r.1]? = some st ∧ st ≠ .waiting
  ordered : s.writes.Sublist (s.reads.filterMap s.watcher.plan.outcome?)
  last : ∀ (i : Nat) (content : Except FileError Text),
    s.renders[i]? = some (.rendering content) → ∃ before, s.reads = before ++ [(i, content)] ∧
      s.writes.Sublist (before.filterMap s.watcher.plan.outcome?)
  reads_eq : s.watcher.history.filterMap Happening.read? = s.reads.map Prod.snd
  writes_eq : s.watcher.history.filterMap Happening.published? = s.writes.map Prod.snd

namespace Logged

/-- What is neither a read nor a write leaves the log as it is. -/
theorem of_same (h : s.Logged) (hplan : s'.watcher.plan = s.watcher.plan)
    (hreads : s'.reads = s.reads) (hwrites : s'.writes = s.writes)
    (hread? : s'.watcher.history.filterMap Happening.read? =
      s.watcher.history.filterMap Happening.read?)
    (hpublished? : s'.watcher.history.filterMap Happening.published? =
      s.watcher.history.filterMap Happening.published?)
    (hbegun : ∀ (i : Nat) (st : Stage), s.renders[i]? = some st → st ≠ .waiting →
      ∃ st' : Stage, s'.renders[i]? = some st' ∧ st' ≠ .waiting)
    (hrendering : ∀ (i : Nat) (content : Except FileError Text),
      s'.renders[i]? = some (.rendering content) → s.renders[i]? = some (.rendering content)) :
    s'.Logged := by
  constructor
  case distinct => rw [hreads]; exact h.distinct
  case begun =>
    intro r hr
    obtain ⟨st, hst, hne⟩ := h.begun r (hreads ▸ hr)
    exact hbegun r.1 st hst hne
  case ordered => rw [hplan, hreads, hwrites]; exact h.ordered
  case last =>
    intro i content hi
    rw [hplan, hreads, hwrites]
    exact h.last i content (hrendering i content hi)
  case reads_eq => rw [hread?, hreads, h.reads_eq]
  case writes_eq => rw [hpublished?, hwrites, h.writes_eq]

theorem exists_read {p : Publication} (h : s.Logged) (hp : (i, p) ∈ s.writes) :
    ∃ content, (i, content) ∈ s.reads ∧ s.watcher.plan.outcome? (i, content) = some (i, p) := by
  obtain ⟨⟨j, content⟩, hr, houtcome⟩ := List.mem_filterMap.mp (h.ordered.subset hp)
  obtain rfl : j = i := s.watcher.plan.fst_of_outcome? houtcome
  exact ⟨content, hr, houtcome⟩

/-- A render writes what comes of its own read. -/
theorem outcome?_of_mem {content : Except FileError Text} {p : Publication} (h : s.Logged)
    (hr : (i, content) ∈ s.reads) (hp : (i, p) ∈ s.writes) :
    s.watcher.plan.outcome? (i, content) = some (i, p) := by
  obtain ⟨content', hr', houtcome⟩ := h.exists_read hp
  rwa [List.inj_on_of_nodup_map h.distinct hr hr' rfl]

/-- A render that waits has written nothing. -/
theorem notMem_writes_of_waiting (h : s.Logged) (hi : s.renders[i]? = some .waiting)
    (p : Publication) : (i, p) ∉ s.writes := by
  intro hp
  obtain ⟨content, hr, -⟩ := h.exists_read hp
  obtain ⟨st, hst, hne⟩ := h.begun _ hr
  exact hne (Option.some.inj (hst.symm.trans hi))

/-- Nor has one that is rendering. -/
theorem notMem_writes_of_rendering {content : Except FileError Text} (h : s.Logged)
    (hi : s.renders[i]? = some (.rendering content)) (p : Publication) : (i, p) ∉ s.writes := by
  intro hp
  obtain ⟨before, hreads, hwrites⟩ := h.last i content hi
  obtain ⟨⟨j, content'⟩, hr, houtcome⟩ := List.mem_filterMap.mp (hwrites.subset hp)
  obtain rfl : j = i := s.watcher.plan.fst_of_outcome? houtcome
  have hdistinct := h.distinct
  rw [hreads, List.map_append, List.nodup_append] at hdistinct
  exact hdistinct.2.2 j (List.mem_map_of_mem hr) j (List.mem_singleton_self j) rfl

/-- What goes on with a render that has read leaves it as one that has. -/
theorem begun_set {old st : Stage} (hi : s.renders[i]? = some old) (hst : st ≠ .waiting) (j : Nat)
    (st' : Stage) (hj : s.renders[j]? = some st') (hst' : st' ≠ .waiting) :
    ∃ st'' : Stage, (s.renders.set i st)[j]? = some st'' ∧ st'' ≠ .waiting := by
  rw [getElem?_set_of_some hi]
  split
  · exact ⟨st, rfl, hst⟩
  · exact ⟨st', hj, hst'⟩

theorem expire (h : s.Logged) : (s.act .expire).Logged := by
  refine h.of_same rfl rfl rfl rfl rfl (fun i st hi hst => ?_) fun i content hi => ?_
  · have hlt := (List.getElem?_eq_some_iff.mp hi).1
    exact ⟨st, (List.getElem?_append_left hlt).trans hi, hst⟩
  · obtain hi | ⟨-, hwaiting⟩ := eq_of_getElem?_concat hi
    · exact hi
    · cases hwaiting

theorem release (h : s.Logged) (hi : s.renders[i]? = some .rendered) :
    (s.act (.release i)).Logged := by
  refine h.of_same rfl rfl rfl rfl rfl (begun_set hi (by simp)) fun j content hj => ?_
  have hset : (s.renders.set i .released)[j]? = some (.rendering content) := hj
  rw [getElem?_set_of_some hi] at hset
  split at hset
  · cases hset
  · exact hset

theorem take (h : s.Logged) (hlock : s.Locked) (hi : s.renders[i]? = some .waiting)
    (hfree : s.watcher.handler.running = none) : (s.act (.take i)).Logged := by
  have hnew : ∀ r ∈ s.reads, r.1 ≠ i := by
    rintro r hr rfl
    obtain ⟨st, hst, hne⟩ := h.begun r hr
    exact hne (Option.some.inj (hst.symm.trans hi))
  constructor
  case distinct =>
    show ((s.reads ++ [_]).map Prod.fst).Nodup
    rw [List.map_append, List.nodup_append]
    refine ⟨h.distinct, List.nodup_singleton _, fun j hj k hk => ?_⟩
    obtain ⟨r, hr, rfl⟩ := List.mem_map.mp hj
    obtain rfl := List.mem_singleton.mp hk
    exact hnew r hr
  case begun =>
    intro r hr
    rcases List.mem_append.mp hr with hr | hr
    · obtain ⟨st, hst, hne⟩ := h.begun r hr
      exact begun_set hi (by simp) r.1 st hst hne
    · obtain rfl := List.mem_singleton.mp hr
      exact ⟨_, (getElem?_set_of_some hi _).trans (if_pos rfl), by simp⟩
  case ordered =>
    show s.writes.Sublist ((s.reads ++ [_]).filterMap _)
    rw [List.filterMap_append]
    exact h.ordered.trans (List.sublist_append_left _ _)
  case last =>
    intro j content hj
    have hset : (s.renders.set i (.rendering s.watcher.readSource))[j]? =
        some (.rendering content) := hj
    rw [getElem?_set_of_some hi] at hset
    split at hset
    · next hij =>
      obtain rfl := hij
      obtain rfl := Stage.rendering.inj (Option.some.inj hset)
      exact ⟨s.reads, rfl, h.ordered⟩
    · have hholds := holds_of_rendering hset
      rw [hlock.free hfree] at hholds
      cases hholds
  case reads_eq =>
    show (s.watcher.history ++ [_]).filterMap _ = (s.reads ++ [_]).map _
    rw [List.filterMap_append, h.reads_eq, List.map_append]
    rfl
  case writes_eq =>
    show (s.watcher.history ++ [_]).filterMap _ = _
    rw [List.filterMap_append, h.writes_eq]
    exact List.append_nil _

theorem finish {content : Except FileError Text} (h : s.Logged) (hlock : s.Locked)
    (hi : s.renders[i]? = some (.rendering content)) : (s.act (.finish i)).Logged := by
  obtain ⟨before, hreads, hwrites⟩ := h.last i content hi
  obtain ⟨since, hrunning⟩ := hlock.pending i content hi
  have hpublication := s.watcher.sublist_outcome? hrunning i
  have hplan : (s.act (.finish i)).watcher.plan = s.watcher.plan := s.watcher.sameTimes_finish.plan_eq
  constructor
  case distinct => exact h.distinct
  case begun =>
    intro r hr
    obtain ⟨st, hst, hne⟩ := h.begun r hr
    exact begun_set hi (by simp) r.1 st hst hne
  case ordered =>
    rw [hplan]
    show (s.writes ++ _).Sublist (s.reads.filterMap _)
    rw [hreads, List.filterMap_append]
    exact hwrites.append hpublication
  case last =>
    intro j content' hj
    have hset : (s.renders.set i .rendered)[j]? = some (.rendering content') := hj
    rw [getElem?_set_of_some hi] at hset
    split at hset
    · cases hset
    · next hne =>
      exact absurd (hlock.exclusive i j (holds_of_rendering hi) (holds_of_rendering hset)) hne
  case reads_eq =>
    show s.watcher.finish.history.filterMap _ = _
    rw [Watcher.filterMap_read?_finish, h.reads_eq]
    rfl
  case writes_eq =>
    show s.watcher.finish.history.filterMap _ = (s.writes ++ _).map _
    rw [Watcher.filterMap_published?_finish, h.writes_eq, List.map_append]
    cases s.watcher.publication? <;> rfl

theorem act (h : s.Logged) (hlock : s.Locked) {a : Action} (ha : s.allows a) :
    (s.act a).Logged := by
  cases a with
  | pass moment =>
    exact h.of_same rfl rfl rfl rfl rfl (fun i st hi hst => ⟨st, hi, hst⟩) fun _ _ hi => hi
  | edit files =>
    exact h.of_same rfl rfl rfl rfl rfl (fun i st hi hst => ⟨st, hi, hst⟩) fun _ _ hi => hi
  | deliver e =>
    rw [act_deliver ha]
    refine h.of_same rfl rfl rfl ?_ ?_ (fun i st hi hst => ⟨st, hi, hst⟩) fun _ _ hi => hi
    · show (s.watcher.history ++ [_]).filterMap _ = _
      rw [List.filterMap_append]
      exact List.append_nil _
    · show (s.watcher.history ++ [_]).filterMap _ = _
      rw [List.filterMap_append]
      exact List.append_nil _
  | expire => exact h.expire
  | take i =>
    obtain ⟨hi, hfree⟩ := allows_take_iff.mp ha
    exact h.take hlock hi hfree
  | finish i =>
    obtain ⟨content, hi⟩ := exists_rendering ha
    exact h.finish hlock hi
  | release i => exact h.release (allows_release_iff.mp ha)

end Logged

/-! ## What is left to do -/

/-- A timer is armed, or the render of the last one waits. -/
def Awaits (s : Threads) : Prop := s.watcher.handler.due.isSome ∨ s.renders.getLast? = some .waiting

/-- Every event was followed by a read. Unless the source has been edited since the last event, it
still reads as it did last, and what was written for that is in the output. -/
structure Settled (s : Threads) : Prop where
  answered : Happening.Answered s.watcher.history
  current : s.edited = false → ∀ (i : Nat) (content : Except FileError Text),
    s.reads.getLast? = some (i, content) → s.watcher.readSource = content
  shown : s.edited = false → ∀ (i : Nat) (content : Except FileError Text) (p : Publication),
    s.reads.getLast? = some (i, content) → (i, p) ∈ s.writes → s.watcher.output? = some p.html

def Fresh (s : Threads) : Prop := s.Awaits ∨ s.Settled

theorem edited_moveTo {w : Watcher} (h : (s.moveTo w).edited = false) :
    s.edited = false ∧ w.readSource = s.watcher.readSource := by
  rw [moveTo, Bool.or_eq_false_iff, bne_eq_false_iff_eq] at h
  exact h

namespace Settled

theorem edit (h : s.Settled) {files : FileTree} (ha : s.allows (.edit files)) :
    (s.act (.edit files)).Settled := by
  constructor
  case answered => exact h.answered
  case current =>
    intro hedited i content hlast
    obtain ⟨hbefore, hsource⟩ := edited_moveTo hedited
    exact hsource.trans (h.current hbefore i content hlast)
  case shown =>
    intro hedited i content p hlast hp
    obtain ⟨hbefore, hsource⟩ := edited_moveTo hedited
    have houtput : (s.act (.edit files)).watcher.output? = s.watcher.output? := by
      rw [allows, Bool.or_eq_true, beq_iff_eq, bne_iff_ne] at ha
      exact ha.resolve_right (not_not_intro hsource)
    exact houtput.trans (h.shown hbefore i content p hlast hp)

theorem release (h : s.Settled) : (s.act (.release i)).Settled :=
  ⟨h.answered, h.current, h.shown⟩

theorem finish {content : Except FileError Text} (h : s.Settled) (hlog : s.Logged)
    (hi : s.renders[i]? = some (.rendering content)) : (s.act (.finish i)).Settled := by
  obtain ⟨before, hreads, hwrites⟩ := hlog.last i content hi
  constructor
  case answered => exact Watcher.answered_finish h.answered
  case current =>
    intro hedited i content hlast
    obtain ⟨hbefore, hsource⟩ := edited_moveTo hedited
    exact hsource.trans (h.current hbefore i content hlast)
  case shown =>
    intro hedited j content' p hlast hp
    have hself : s.reads.getLast? = some (i, content) := by
      rw [hreads]
      exact List.getLast?_concat
    obtain rfl : i = j := congrArg Prod.fst (Option.some.inj (hself.symm.trans hlast))
    rcases List.mem_append.mp hp with hp | hp
    · exact absurd hp (hlog.notMem_writes_of_rendering hi p)
    · obtain ⟨q, hq, heq⟩ := Option.map_eq_some_iff.mp (Option.mem_toList.mp hp)
      obtain rfl : q = p := congrArg Prod.snd heq
      exact Watcher.output?_finish hq

theorem of_take (hlog : s.Logged) (hi : s.renders[i]? = some .waiting) :
    (s.act (.take i)).Settled := by
  have hlast : (s.act (.take i)).reads.getLast? = some (i, s.watcher.readSource) :=
    List.getLast?_concat
  constructor
  case answered => exact Happening.answered_concat_read _ _
  case current =>
    intro hedited j content hj
    rw [hlast] at hj
    exact congrArg Prod.snd (Option.some.inj hj)
  case shown =>
    -- The render that has just read has written nothing.
    intro hedited j content p hj hp
    rw [hlast] at hj
    obtain rfl : i = j := congrArg Prod.fst (Option.some.inj hj)
    exact absurd hp (hlog.notMem_writes_of_waiting hi p)

end Settled

/-- A render that has not come as far as the last one, or has come further, is not the last one. -/
theorem getLast?_set_of_ne {old st last : Stage} (hi : s.renders[i]? = some old) (hold : old ≠ last)
    (h : s.renders.getLast? = some last) : (s.renders.set i st).getLast? = some last := by
  rw [List.getLast?_eq_getElem?] at h ⊢
  rw [List.length_set, getElem?_set_of_some hi, if_neg, h]
  rintro rfl
  exact hold (Option.some.inj (hi.symm.trans h))

theorem Fresh.act (h : s.Fresh) (hlog : s.Logged) (htarget : s.watcher.handler.target = s.watcher.plan.source)
    {a : Action} (ha : s.allows a) : (s.act a).Fresh := by
  cases a with
  | pass moment => exact h.imp id fun hsettled => ⟨hsettled.answered, hsettled.current, hsettled.shown⟩
  | edit files => exact h.imp id fun hsettled => hsettled.edit ha
  | deliver e =>
    refine .inl (.inl ?_)
    have hconcerns : e.concerns s.watcher.disk.resolve? s.watcher.handler.target := by
      rw [htarget]
      exact ha
    rw [act_deliver ha]
    show (s.watcher.handler.deliver _ e).due.isSome
    rw [Debouncer.deliver, if_pos hconcerns]
    rfl
  | expire => exact .inl (.inr List.getLast?_concat)
  | take i => exact .inr (.of_take hlog (allows_take_iff.mp ha).1)
  | finish i =>
    obtain ⟨content, hi⟩ := exists_rendering ha
    refine h.imp (fun hawaits => ?_) fun hsettled => hsettled.finish hlog hi
    refine hawaits.imp (fun hdue => ?_) (getLast?_set_of_ne hi (by simp))
    show s.watcher.finish.handler.due.isSome
    rwa [s.watcher.due_finish]
  | release i =>
    have hi := allows_release_iff.mp ha
    exact h.imp (fun hawaits => hawaits.imp id (getLast?_set_of_ne hi (by simp))) fun hsettled =>
      hsettled.release

/-! ## Runs -/

/-- No timer is armed, and all renders are over. -/
def Quiet (s : Threads) : Prop := s.watcher.handler.due = none ∧ ∀ st ∈ s.renders, st = .released

instance (s : Threads) : Decidable s.Quiet :=
  inferInstanceAs (Decidable (s.watcher.handler.due = none ∧ ∀ st ∈ s.renders, st = .released))

/-- What a render writes is what comes of the text that it has read. -/
theorem publish_of_outcome? {plan : WatchPlan} {t : Text} {p : Publication}
    (h : plan.outcome? (i, .ok t) = some (i, p)) : plan.publish t = .ok p := by
  obtain ⟨q, hq, heq⟩ := Option.map_eq_some_iff.mp h
  obtain rfl : q = p := congrArg Prod.snd heq
  cases hpublish : plan.publish t with
  | error why =>
    rw [hpublish] at hq
    cases hq
  | ok r =>
    rw [hpublish] at hq
    exact congrArg Except.ok (Option.some.inj hq)

structure Sound (plan : WatchPlan) (s : Threads) : Prop where
  plan_eq : s.watcher.plan = plan
  target_eq : s.watcher.handler.target = plan.source
  locked : s.Locked
  logged : s.Logged
  fresh : s.Fresh

namespace Sound

variable {plan : WatchPlan}

theorem start (plan : WatchPlan) (disk : Disk) : (start plan disk).Sound plan where
  plan_eq := rfl
  target_eq := rfl
  locked := ⟨rfl, nofun, nofun, nofun⟩
  logged := ⟨List.nodup_nil, nofun, List.Sublist.refl [], nofun, rfl, rfl⟩
  fresh := .inr ⟨nofun, nofun, nofun⟩

theorem act (h : s.Sound plan) {a : Action} (ha : s.allows a) : (s.act a).Sound plan := by
  have htarget := h.target_eq.trans (congrArg WatchPlan.source h.plan_eq.symm)
  have hlogged := h.logged.act h.locked ha
  have hfresh := h.fresh.act h.logged htarget ha
  have hlocked := h.locked.act ha
  cases a with
  | deliver e =>
    rw [act_deliver ha, s.watcher.handler.deliver_frame] at hlocked hlogged hfresh ⊢
    exact ⟨h.plan_eq, h.target_eq, hlocked, hlogged, hfresh⟩
  | finish i =>
    obtain ⟨hplan, -, hhandler⟩ := s.watcher.sameTimes_finish
    refine ⟨hplan.trans h.plan_eq, ?_, hlocked, hlogged, hfresh⟩
    show s.watcher.finish.handler.target = plan.source
    rw [hhandler]
    exact h.target_eq
  | _ => exact ⟨h.plan_eq, h.target_eq, hlocked, hlogged, hfresh⟩

theorem after (h : s.Sound plan) {as : List Action} (has : s.admits as) :
    (s.after as).Sound plan := by
  induction as generalizing s with
  | nil => exact h
  | cons a as ih =>
    rw [admits, Bool.and_eq_true] at has
    exact ih (h.act has.1) has.2

/-- A render that could not read, or cannot write, can end, which changes no file and lets the lock go. Without a
text it makes no directories either. -/
theorem failing {content : Except FileError Text} (h : s.Sound plan)
    (hi : s.renders[i]? = some (.rendering content))
    (hnothing : ∀ t, content = .ok t → s.watcher.publication? = none) :
    s.admits [.finish i, .release i] ∧
      s.watcher.disk.SameFiles (s.after [.finish i, .release i]).watcher.disk ∧
      (∀ e, content = .error e → (s.after [.finish i, .release i]).watcher.disk = s.watcher.disk) ∧
      (s.after [.finish i, .release i]).watcher.handler.due = s.watcher.handler.due ∧
      (s.after [.finish i, .release i]).writes = s.writes ∧
      ∀ j, s.renders[j]? = some .waiting → (s.after [.finish i, .release i]).allows (.take j) := by
  have hrendered : (s.act (.finish i)).renders[i]? = some .rendered :=
    (getElem?_set_of_some hi i).trans (if_pos rfl)
  have hfinish : s.allows (.finish i) := by
    rw [allows, hi]
    rfl
  obtain ⟨since, hrunning⟩ := h.locked.pending i _ hi
  have hpublication : s.watcher.publication? = none := by
    cases content with
    | error e => rw [Watcher.publication?, hrunning]
    | ok t => exact hnothing t rfl
  refine ⟨?_, Watcher.sameFiles_finish hpublication, ?_, s.watcher.due_finish, ?_,
    fun j hj => allows_take_iff.mpr ⟨?_, rfl⟩⟩
  · rw [admits, hfinish, admits, allows_release_iff.mpr hrendered]
    rfl
  · rintro e rfl
    exact Watcher.disk_finish hrunning
  · show s.writes ++ (s.watcher.publication?.map (i, ·)).toList = s.writes
    rw [hpublication]
    exact List.append_nil _
  · have hne : i ≠ j := by
      rintro rfl
      have hnext : s.renders[i]? = some .waiting := hj
      rw [hi] at hnext
      cases hnext
    have hwaiting : (s.act (.finish i)).renders[j]? = some .waiting :=
      (getElem?_set_of_some hi j).trans ((if_neg hne).trans hj)
    exact (getElem?_set_of_some hrendered j).trans ((if_neg hne).trans hwaiting)

theorem settled (h : s.Sound plan) (hdue : s.watcher.handler.due = none)
    (hlast : s.renders.getLast? ≠ some .waiting) : s.Settled := by
  refine h.fresh.resolve_left ?_
  rintro (harmed | hwaiting)
  · rw [hdue] at harmed
    cases harmed
  · exact hlast hwaiting

/-- If besides the source was not edited, and the last render has read and written, the output shows the source as
it is. -/
theorem shown (h : s.Sound plan) (hsettled : s.Settled) (hedited : s.edited = false) {t : Text}
    {p : Publication} (hlast : s.reads.getLast? = some (i, .ok t)) (hp : (i, p) ∈ s.writes) :
    s.watcher.readSource = .ok t ∧ plan.publish t = .ok p ∧ s.watcher.output? = some p.html := by
  have houtcome := h.logged.outcome?_of_mem (List.mem_of_getLast? hlast) hp
  rw [h.plan_eq] at houtcome
  exact ⟨hsettled.current hedited i _ hlast, publish_of_outcome? houtcome,
    hsettled.shown hedited i _ _ hlast hp⟩

end Sound

theorem Quiet.getLast?_ne_waiting (h : s.Quiet) : s.renders.getLast? ≠ some .waiting := by
  intro hlast
  cases h.2 _ (List.mem_of_getLast? hlast)

/-- What holds of a watcher whenever its renders, its events and the edits of its source have
interleaved. -/
structure Faithful (plan : WatchPlan) (s : Threads) : Prop where
  /-- One render at most is between its read and its write. -/
  exclusive : ∀ (i j : Nat) (content content' : Except FileError Text),
    s.renders[i]? = some (.rendering content) → s.renders[j]? = some (.rendering content') → i = j
  /-- A render reads once. -/
  distinct : (s.reads.map Prod.fst).Nodup
  /-- What was written came from what was read, in the same order. -/
  ordered : s.writes.Sublist (s.reads.filterMap plan.outcome?)
  reads_eq : s.watcher.history.filterMap Happening.read? = s.reads.map Prod.snd
  writes_eq : s.watcher.history.filterMap Happening.published? = s.writes.map Prod.snd
  /-- A render that could not read, or cannot write what it has read, changes no file, sets no timer back
  and leaves the lock to others. One that could not read leaves all as it was. -/
  failing : ∀ (i : Nat) (content : Except FileError Text), s.renders[i]? = some (.rendering content) →
    (∀ t, content = .ok t → s.watcher.publication? = none) →
    s.admits [.finish i, .release i] ∧
      s.watcher.disk.SameFiles (s.after [.finish i, .release i]).watcher.disk ∧
      (∀ e, content = .error e → (s.after [.finish i, .release i]).watcher.disk = s.watcher.disk) ∧
      (s.after [.finish i, .release i]).watcher.handler.due = s.watcher.handler.due ∧
      (s.after [.finish i, .release i]).writes = s.writes ∧
      ∀ j, s.renders[j]? = some .waiting → (s.after [.finish i, .release i]).allows (.take j)
  /-- When nothing is left to do, every event was followed by a read. -/
  answered : s.Quiet → Happening.Answered s.watcher.history
  /-- If besides the source was not edited after the last event, and the last render has read and
  written, the output shows the source as it is. -/
  shown : s.Quiet → s.edited = false → ∀ (i : Nat) (t : Text) (p : Publication),
    s.reads.getLast? = some (i, .ok t) → (i, p) ∈ s.writes →
      s.watcher.readSource = .ok t ∧ plan.publish t = .ok p ∧ s.watcher.output? = some p.html

theorem faithful {plan : WatchPlan} {disk : Disk} {as : List Action}
    (h : (start plan disk).admits as) : ((start plan disk).after as).Faithful plan := by
  have hsound := (Sound.start plan disk).after h
  generalize (start plan disk).after as = s at hsound
  have hordered := hsound.logged.ordered
  rw [hsound.plan_eq] at hordered
  constructor
  case exclusive =>
    intro i j content content' hi hj
    exact hsound.locked.exclusive i j (holds_of_rendering hi) (holds_of_rendering hj)
  case distinct => exact hsound.logged.distinct
  case ordered => exact hordered
  case reads_eq => exact hsound.logged.reads_eq
  case writes_eq => exact hsound.logged.writes_eq
  case failing => exact fun i content hi => hsound.failing hi
  case answered => exact fun hquiet => (hsound.settled hquiet.1 hquiet.getLast?_ne_waiting).answered
  case shown =>
    intro hquiet hedited i t p hlast hp
    exact hsound.shown (hsound.settled hquiet.1 hquiet.getLast?_ne_waiting) hedited hlast hp

/-- A plan for a source with nothing but text in it. -/
def plainPlan (output : Text) (delay : Rat) : WatchPlan where
  config := { Config.default with markdown := ⟨true, .zero, false⟩ }
  render := Markdown.plain
  form := ⟨false, none, false⟩
  source := ["doc.md".toList]
  output := Path.ofText output
  delay := delay
  listener := fun _ => none

theorem faithful_overlapping :
    let plan := plainPlan "doc.html" (1 / 2)
    let disk : Disk := ⟨.directory [("doc.md".toList, .file "draft")], [], ⟨[], []⟩⟩
    let saved : Action := .deliver ⟨.modified, "doc.md", [], false⟩
    let run := [saved, .expire, .take 0, .edit (.directory [("doc.md".toList, .file "final")]),
      saved, .expire, .finish 0, .release 0, .take 1, .finish 1, .release 1]
    let s := (start plan disk).after run
    (start plan disk).admits run ∧ s.Quiet ∧ s.watcher.output? = some "<p>final</p>\n" := by
  intro plan disk saved run s
  have hadmits : (start plan disk).admits run := by decide +kernel
  have hquiet : s.Quiet := by decide +kernel
  have hedited : s.edited = false := by decide +kernel
  have hlast : s.reads.getLast? = some (1, .ok "final") := by decide +kernel
  have hwritten : (1, ⟨"<p>final</p>\n", [], 0⟩) ∈ s.writes := by decide +kernel
  obtain ⟨-, -, hshown⟩ := (faithful hadmits).shown hquiet hedited 1 _ _ hlast hwritten
  exact ⟨hadmits, hquiet, hshown⟩

/-- The last read is not in the output when its write fails, as where the output is a directory. -/
theorem not_shown_of_read :
    ¬ ∀ (plan : WatchPlan) (disk : Disk) (as : List Action), (start plan disk).admits as →
      ((start plan disk).after as).Quiet → ((start plan disk).after as).edited = false →
      ∀ (i : Nat) (t : Text), ((start plan disk).after as).reads.getLast? = some (i, .ok t) →
        ∃ p, plan.publish t = .ok p ∧
          ((start plan disk).after as).watcher.output? = some p.html := by
  intro h
  let plan := plainPlan "dir" (1 / 2)
  let disk : Disk :=
    ⟨.directory [("doc.md".toList, .file "Hello"), ("dir".toList, .directory [])], [], ⟨[], []⟩⟩
  let run : List Action :=
    [.deliver ⟨.modified, "doc.md", [], false⟩, .expire, .take 0, .finish 0, .release 0]
  obtain ⟨p, -, hshown⟩ := h plan disk run (by decide +kernel) (by decide +kernel) (by decide +kernel) 0
    "Hello" (by decide +kernel)
  have hnone : ((start plan disk).after run).watcher.output? = none := by decide +kernel
  rw [hnone] at hshown
  cases hshown

end Threads

end BlockMarkup
