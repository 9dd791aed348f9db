import BlockMarkup.Proofs.Watcher.Progress
import BlockMarkup.Proofs.Watcher.Session

/-!
# What is rendered before stopping ends

Once the observer is over, stopping waits for the timer that was armed last and for its render, but no longer than
`Watcher.patience`.

1. Until then no more is asked for, so renders that are not too long are over by a time that can be told
   beforehand (`Debouncer.finishBy`). If that is within the wait, stopping ends when the last render is over
   (`Session.Waits.finishBy_after`).
2. When it is over, every event was followed by a read (`Threads.Sound.settled`).
3. A timer that is due after the wait stays armed (`Session.Waits.due_after`).
4. Stopping ends in any case (`Session.Waits.exists_leave`).
-/

namespace BlockMarkup

open Text

/-! ## How long renders go on -/

namespace Debouncer

variable {α : Type} {s : Debouncer α} {longest moment : ℚ}

/-- When the lock is free for good at the latest, but for the timer that is armed, if no call lasts longer than
some time. -/
def freeBy (longest : ℚ) (s : Debouncer α) : ℚ :=
  (s.running.elim s.clock fun c => max s.clock (c.1 + longest)) + longest * s.waiting

/-- When all that is asked for is done at the latest. -/
def finishBy (longest : ℚ) (s : Debouncer α) : ℚ :=
  s.due.elim (s.freeBy longest) fun t => max t (s.freeBy longest) + longest

theorem clock_le_freeBy (h : 0 ≤ longest) (s : Debouncer α) : s.clock ≤ s.freeBy longest := by
  have hwaiting : 0 ≤ longest * s.waiting := mul_nonneg h (Nat.cast_nonneg _)
  rw [freeBy]
  cases s.running with
  | none => exact le_add_of_nonneg_right hwaiting
  | some c => exact (le_max_left _ _).trans (le_add_of_nonneg_right hwaiting)

theorem clock_le_finishBy (h : 0 ≤ longest) (s : Debouncer α) : s.clock ≤ s.finishBy longest := by
  have hfree := clock_le_freeBy h s
  rw [finishBy]
  cases s.due with
  | none => exact hfree
  | some t => exact (hfree.trans (le_max_right t _)).trans (le_add_of_nonneg_right h)

theorem finishBy_le (hlongest : 0 ≤ longest) (hnobody : s.waiting = 0) (hfree : s.running = none)
    (hclock : s.clock ≤ moment) (hdue : ∀ t, s.due = some t → t ≤ moment) :
    s.finishBy longest ≤ moment + longest := by
  have hfree : s.freeBy longest = s.clock := by simp [freeBy, hnobody, hfree]
  rw [finishBy, hfree]
  cases hs : s.due with
  | none => exact hclock.trans (le_add_of_nonneg_right hlongest)
  | some t => exact add_le_add_left (max_le (hdue t hs) hclock) longest

theorem finishBy_le_of_freeBy_le {s' : Debouncer α} (hdue : s'.due = s.due)
    (hfree : s'.freeBy longest ≤ s.freeBy longest) : s'.finishBy longest ≤ s.finishBy longest := by
  rw [finishBy, finishBy, hdue]
  cases s.due with
  | none => exact hfree
  | some t => exact add_le_add_left (max_le_max_left t hfree) longest

theorem finishBy_pass_le (hpass : s.mayPass moment) (hlasts : s.lastsWithin longest moment)
    (hbusy : ¬ s.Over) : (s.pass moment).finishBy longest ≤ s.finishBy longest := by
  obtain ⟨hclock, hdue, hfree⟩ := mayPass_iff.mp hpass
  cases hrunning : s.running with
  | some c =>
    have hin : moment ≤ c.1 + longest := by simpa [lastsWithin, hrunning] using hlasts
    refine finishBy_le_of_freeBy_le rfl ?_
    simp only [freeBy, pass, hrunning, Option.elim, max_eq_right hin, max_eq_right (hclock.trans hin)]
    exact le_rfl
  | none =>
    simp only [hrunning, Option.isSome_none, Bool.false_eq_true, false_or] at hfree
    rcases hfree with hnobody | rfl
    · cases hs : s.due with
      | none => exact absurd ⟨hs, hnobody, hrunning⟩ hbusy
      | some t =>
        have hmoment := hdue t hs
        simp [finishBy, freeBy, pass, hrunning, hnobody, hs, max_eq_left hmoment,
          max_eq_left (hclock.trans hmoment)]
    · exact le_rfl

theorem finishBy_expire_le (hdue : s.isDue) : s.expire.finishBy longest ≤ s.finishBy longest := by
  have hfree : s.expire.freeBy longest = s.freeBy longest + longest := by
    show _ + longest * ((s.waiting + 1 : Nat) : ℚ) = _ + longest * (s.waiting : ℚ) + longest
    rw [Nat.cast_succ, mul_add, mul_one, ← add_assoc]
    rfl
  calc s.expire.finishBy longest
    _ = s.freeBy longest + longest := hfree
    _ ≤ max s.clock (s.freeBy longest) + longest := add_le_add_left (le_max_right _ _) longest
    _ = s.finishBy longest := by rw [finishBy, isDue_iff.mp hdue, Option.elim]

theorem finishBy_call_le {about : α} (hlongest : 0 ≤ longest) (hsomebody : 0 < s.waiting)
    (hfree : s.running = none) : (s.call about).finishBy longest ≤ s.finishBy longest := by
  refine finishBy_le_of_freeBy_le rfl ?_
  obtain ⟨n, hn⟩ := Nat.exists_eq_add_of_lt hsomebody
  rw [Nat.zero_add] at hn
  show max s.clock (s.clock + longest) + longest * ((s.waiting - 1 : Nat) : ℚ) ≤ _
  rw [freeBy, hfree, hn, Nat.add_sub_cancel, max_eq_right (le_add_of_nonneg_right hlongest), Option.elim,
    Nat.cast_succ, mul_add, mul_one]
  exact (add_right_comm _ _ _).le.trans (add_assoc _ _ _).le

theorem finishBy_release_le : s.release.finishBy longest ≤ s.finishBy longest := by
  refine finishBy_le_of_freeBy_le rfl (add_le_add_left ?_ _)
  show s.clock ≤ _
  cases s.running with
  | none => exact le_rfl
  | some c => exact le_max_left _ _

end Debouncer

/-! ## Nothing more is asked for -/

namespace Threads

variable {s : Threads} {a : Action} {longest : ℚ}

theorem isIdle_iff :
    s.isIdle ↔ s.watcher.handler.due = none ∧ ∀ st, s.renders.getLast? = some st → st = .released := by
  rw [isIdle, Bool.and_eq_true, Option.isNone_iff_eq_none, Option.all_eq_true]
  simp only [beq_iff_eq]

theorem waiting_pos (hlock : s.Locked) {i : Nat} (hi : s.renders[i]? = some .waiting) :
    0 < s.watcher.handler.waiting := by
  rw [hlock.waiting]
  exact List.count_pos_iff.mpr (List.mem_of_getElem? hi)

theorem isIdle_of_over (hlock : s.Locked) (h : s.watcher.handler.Over) : s.isIdle := by
  obtain ⟨hdue, hnobody, hfree⟩ := h
  refine isIdle_iff.mpr ⟨hdue, fun st hst => ?_⟩
  rw [List.getLast?_eq_getElem?] at hst
  have hfree := hlock.free hfree (s.renders.length - 1)
  rw [holds, hst] at hfree
  cases st with
  | waiting =>
    have hsomebody := waiting_pos hlock hst
    rw [hnobody] at hsomebody
    cases hsomebody
  | released => rfl
  | rendering content => cases hfree
  | rendered => cases hfree

/-- Whatever the watcher does itself, it is done with its last render once it is. -/
theorem isIdle_act (h : s.isIdle) (ha : s.allows a) (hevent : ∀ e, a ≠ .deliver e) : (s.act a).isIdle := by
  obtain ⟨hdue, hlast⟩ := isIdle_iff.mp h
  have hset : ∀ {i : Nat} {old st : Stage}, s.renders[i]? = some old → old ≠ .released →
      ∀ st', (s.renders.set i st).getLast? = some st' → st' = .released := by
    intro i old st hi hold st' hst'
    have hne : s.renders ≠ [] := List.ne_nil_of_mem (List.mem_of_getElem? hi)
    have hend := List.getLast?_eq_some_getLast hne
    rw [hlast _ hend] at hend
    exact Option.some.inj (hst'.symm.trans (getLast?_set_of_ne hi hold hend))
  cases a with
  | pass moment => exact h
  | edit files => exact h
  | deliver e => exact absurd rfl (hevent e)
  | expire =>
    rw [allows, hdue] at ha
    cases ha
  | take i => exact isIdle_iff.mpr ⟨hdue, hset (allows_take_iff.mp ha).1 (by simp)⟩
  | finish i =>
    obtain ⟨content, hi⟩ := exists_rendering ha
    exact isIdle_iff.mpr ⟨s.watcher.due_finish.trans hdue, hset hi (by simp)⟩
  | release i => exact isIdle_iff.mpr ⟨hdue, hset (allows_release_iff.mp ha) (by simp)⟩

theorem finishBy_act_le (hlock : s.Locked) (hlongest : 0 ≤ longest) (ha : s.allows a)
    (hontime : s.isOnTime a) (hevent : ∀ e, a ≠ .deliver e)
    (hlasts : ∀ moment, a = .pass moment → s.watcher.handler.lastsWithin longest moment)
    (hbusy : ¬ s.isIdle) :
    (s.act a).watcher.handler.finishBy longest ≤ s.watcher.handler.finishBy longest := by
  cases a with
  | pass moment =>
    exact Debouncer.finishBy_pass_le hontime (hlasts moment rfl) fun hover =>
      hbusy (isIdle_of_over hlock hover)
  | edit files => exact le_rfl
  | deliver e => exact absurd rfl (hevent e)
  | expire => exact Debouncer.finishBy_expire_le hontime
  | take i =>
    obtain ⟨hi, hfree⟩ := allows_take_iff.mp ha
    exact Debouncer.finishBy_call_le hlongest (waiting_pos hlock hi) hfree
  | finish i =>
    show s.watcher.finish.handler.finishBy longest ≤ _
    rw [s.watcher.sameTimes_finish.handler_eq]
    exact le_rfl
  | release i => exact Debouncer.finishBy_release_le

end Threads

namespace Threads

variable {s : Threads} {a : Action} {t : ℚ}

/-- A timer that is not due yet stays armed. -/
theorem due_act (hdue : s.watcher.handler.due = some t) (hlate : s.clock < t) (hontime : s.isOnTime a)
    (hevent : ∀ e, a ≠ .deliver e) : (s.act a).watcher.handler.due = some t := by
  cases a with
  | deliver e => exact absurd rfl (hevent e)
  | expire =>
    have hnow := hdue.symm.trans (Debouncer.isDue_iff.mp hontime)
    exact absurd (Option.some.inj hnow) hlate.ne'
  | finish i => exact s.watcher.due_finish.trans hdue
  | _ => exact hdue

/-- Nobody renders or waits for the lock. -/
def Unused (s : Threads) : Prop := s.watcher.handler.waiting = 0 ∧ s.watcher.handler.running = none

/-- Then, unless the timer expires, nothing is read or written, nor does anything else happen. -/
theorem unused_act (hlock : s.Locked) (h : s.Unused) (ha : s.allows a) (hexpire : a ≠ .expire)
    (hevent : ∀ e, a ≠ .deliver e) :
    (s.act a).Unused ∧ (s.act a).reads = s.reads ∧ (s.act a).writes = s.writes ∧
      (s.act a).watcher.history = s.watcher.history := by
  have hholds : ∀ i, s.holds i = false := hlock.free h.2
  cases a with
  | pass moment => exact ⟨h, rfl, rfl, rfl⟩
  | edit files => exact ⟨h, rfl, rfl, rfl⟩
  | deliver e => exact absurd rfl (hevent e)
  | expire => exact absurd rfl hexpire
  | take i =>
    have hsomebody := waiting_pos hlock (allows_take_iff.mp ha).1
    rw [h.1] at hsomebody
    cases hsomebody
  | finish i =>
    obtain ⟨content, hi⟩ := exists_rendering ha
    have hi := holds_of_rendering hi
    rw [hholds] at hi
    cases hi
  | release i =>
    have hi : s.holds i := by
      rw [holds, allows_release_iff.mp ha]
      rfl
    rw [hholds] at hi
    cases hi

end Threads

/-! ## The wait -/

namespace Session

variable {s : Session} {ms : List Move} {m : Move} {since longest t : ℚ} {plan : WatchPlan} {disk : Disk}

/-- The wait for the last render has begun and is not longer than it should. -/
structure Waits (since : ℚ) (s : Session) : Prop where
  phase_eq : s.phase = .waiting since
  clock_le : s.clock ≤ since + Watcher.patience

theorem waitsUntil_iff (h : s.phase = .waiting since) {moment : ℚ} :
    s.waitsUntil moment ↔ moment ≤ since + Watcher.patience ∧ (¬ s.threads.isIdle ∨ moment = s.clock) := by
  simp [waitsUntil, h]

theorem allows_leave_iff (h : s.phase = .waiting since) :
    s.allows .leave ↔ s.threads.isIdle ∨ s.clock = since + Watcher.patience := by
  simp [allows, h]

theorem not_admits_of_stopped (h : s.phase = .stopped) : ¬ s.admits (ms ++ [.leave]) := by
  induction ms generalizing s with
  | nil => simp [admits, allows, h]
  | cons m ms ih =>
    rw [List.cons_append, admits, Bool.and_eq_true]
    rintro ⟨hm, hms⟩
    cases m with
    | act a =>
      have hact : (s.act (.act a)).phase = .stopped := h
      exact ih hact hms
    | stop => simp [allows, h] at hm
    | joined => simp [allows, h] at hm
    | leave => exact ih rfl hms

/-- No events are delivered during the wait. -/
theorem Waits.act (h : s.Waits since) {a : Action} (ha : s.allows (.act a)) :
    (∀ e, a ≠ .deliver e) ∧ (s.act (.act a)).Waits since := by
  obtain ⟨hallows, -, hwait, hevent⟩ := allows_act_iff.mp ha
  refine ⟨?_, ⟨h.phase_eq, ?_⟩⟩
  · rintro e rfl
    have hobserves := hevent e rfl
    rw [h.phase_eq] at hobserves
    cases hobserves
  · by_cases hpass : ∃ moment, a = .pass moment
    · obtain ⟨moment, rfl⟩ := hpass
      exact ((waitsUntil_iff h.phase_eq).mp (hwait moment rfl)).1
    · rw [not_exists] at hpass
      exact (s.threads.clock_act hallows hpass).trans_le h.clock_le

/-- Only the watcher acts during the wait. -/
theorem Waits.cons (h : s.Waits since) (hms : s.admits (m :: ms ++ [.leave])) :
    ∃ a, m = .act a ∧ s.allows (.act a) ∧ (∀ e, a ≠ .deliver e) ∧ (s.act (.act a)).Waits since ∧
      (s.act (.act a)).admits (ms ++ [.leave]) := by
  rw [List.cons_append, admits, Bool.and_eq_true] at hms
  obtain ⟨hm, hms⟩ := hms
  cases m with
  | act a =>
    obtain ⟨hevent, hact⟩ := h.act hm
    exact ⟨a, rfl, hm, hevent, hact, hms⟩
  | stop => simp [allows, h.phase_eq] at hm
  | joined => simp [allows, h.phase_eq] at hm
  | leave => exact absurd hms (not_admits_of_stopped rfl)

theorem Waits.after (h : s.Waits since) (hms : s.admits (ms ++ [.leave])) :
    (s.after ms).Waits since ∧ s.clock ≤ (s.after ms).clock := by
  induction ms generalizing s with
  | nil => exact ⟨h, le_rfl⟩
  | cons m ms ih =>
    obtain ⟨a, rfl, ha, -, hact, hms⟩ := h.cons hms
    obtain ⟨hwaits, hle⟩ := ih hact hms
    exact ⟨hwaits, (s.threads.clock_le_act (allows_act_iff.mp ha).1).trans hle⟩

theorem Waits.isIdle_after (h : s.Waits since) (hidle : s.threads.isIdle)
    (hms : s.admits (ms ++ [.leave])) : (s.after ms).threads.isIdle := by
  induction ms generalizing s with
  | nil => exact hidle
  | cons m ms ih =>
    obtain ⟨a, rfl, ha, hevent, hact, hms⟩ := h.cons hms
    exact ih hact (Threads.isIdle_act hidle (allows_act_iff.mp ha).1 hevent) hms

theorem rendersWithin_cons {a : Action} (h : s.rendersWithin longest (.act a :: ms)) :
    (∀ moment, a = .pass moment → s.threads.watcher.handler.lastsWithin longest moment) ∧
      (s.act (.act a)).rendersWithin longest ms := by
  obtain ⟨hfirst, hrest⟩ := Bool.and_eq_true_iff.mp h
  refine ⟨?_, hrest⟩
  rintro moment rfl
  exact hfirst

/-- While renders are not too long, they are not over later than could be told. -/
theorem Waits.finishBy_after (h : s.Waits since) (hsound : s.threads.Sound plan)
    (hlongest : 0 ≤ longest) (hms : s.admits (ms ++ [.leave])) (hwithin : s.rendersWithin longest ms) :
    (s.after ms).threads.isIdle ∨ (s.after ms).threads.watcher.handler.finishBy longest ≤
      s.threads.watcher.handler.finishBy longest := by
  induction ms generalizing s with
  | nil => exact .inr le_rfl
  | cons m ms ih =>
    by_cases hidle : s.threads.isIdle
    · exact .inl (h.isIdle_after hidle hms)
    · obtain ⟨a, rfl, ha, hevent, hact, hms⟩ := h.cons hms
      obtain ⟨hallows, hontime, -⟩ := allows_act_iff.mp ha
      obtain ⟨hlasts, hwithin⟩ := rendersWithin_cons hwithin
      have hstep := Threads.finishBy_act_le hsound.locked hlongest hallows hontime hevent hlasts hidle
      exact (ih hact (hsound.act hallows) hms hwithin).imp id fun hrest => hrest.trans hstep

/-- A timer that is due after the wait is armed all the time. -/
theorem Waits.due_after (h : s.Waits since) (hdue : s.threads.watcher.handler.due = some t)
    (hlate : since + Watcher.patience < t) (hms : s.admits (ms ++ [.leave])) :
    (s.after ms).threads.watcher.handler.due = some t := by
  induction ms generalizing s with
  | nil => exact hdue
  | cons m ms ih =>
    obtain ⟨a, rfl, ha, hevent, hact, hms⟩ := h.cons hms
    obtain ⟨-, hontime, -⟩ := allows_act_iff.mp ha
    exact ih hact (Threads.due_act hdue (h.clock_le.trans_lt hlate) hontime hevent) hms

/-- If nothing else is left to do, nothing is done. -/
theorem Waits.unused_after (h : s.Waits since) (hsound : s.threads.Sound plan) (hunused : s.threads.Unused)
    (hdue : s.threads.watcher.handler.due = some t) (hlate : since + Watcher.patience < t)
    (hms : s.admits (ms ++ [.leave])) :
    (s.after ms).threads.reads = s.threads.reads ∧ (s.after ms).threads.writes = s.threads.writes ∧
      (s.after ms).threads.watcher.history = s.threads.watcher.history := by
  induction ms generalizing s with
  | nil => exact ⟨rfl, rfl, rfl⟩
  | cons m ms ih =>
    obtain ⟨a, rfl, ha, hevent, hact, hms⟩ := h.cons hms
    obtain ⟨hallows, hontime, -⟩ := allows_act_iff.mp ha
    have hclock : s.threads.clock < t := h.clock_le.trans_lt hlate
    have hexpire : a ≠ .expire := by
      rintro rfl
      have hnow := hdue.symm.trans (Debouncer.isDue_iff.mp hontime)
      exact absurd (Option.some.inj hnow) hclock.ne'
    obtain ⟨hunused, hreads, hwrites, hhistory⟩ :=
      Threads.unused_act hsound.locked hunused hallows hexpire hevent
    obtain ⟨hreads', hwrites', hhistory'⟩ := ih hact (hsound.act hallows) hunused
      (Threads.due_act hdue hclock hontime hevent) hms
    exact ⟨hreads'.trans hreads, hwrites'.trans hwrites, hhistory'.trans hhistory⟩

theorem admits_leave (h : s.phase = .waiting since)
    (hend : s.threads.isIdle ∨ s.clock = since + Watcher.patience) : s.admits [.leave] := by
  rw [admits, admits, Bool.and_true]
  exact (allows_leave_iff h).mpr hend

theorem Waits.allows_pass (h : s.Waits since) (hidle : ¬ s.threads.isIdle)
    (hbusy : s.threads.watcher.handler.waiting = 0 ∨ s.threads.watcher.handler.running.isSome)
    {moment : ℚ} (hclock : s.clock ≤ moment) (hle : moment ≤ since + Watcher.patience)
    (hdue : ∀ t, s.threads.watcher.handler.due = some t → moment ≤ t) : s.allows (.act (.pass moment)) := by
  refine allows_act_iff.mpr ⟨decide_eq_true hclock,
    Debouncer.mayPass_iff.mpr ⟨hclock, hdue, hbusy.imp id .inl⟩, ?_, nofun⟩
  rintro _ ⟨⟩
  exact (waitsUntil_iff h.phase_eq).mpr ⟨hle, .inl hidle⟩

/-- Time passes until the timer is due, and it expires. -/
theorem Waits.allows_expire (h : s.Waits since) (hidle : ¬ s.threads.isIdle)
    (hbusy : s.threads.watcher.handler.waiting = 0 ∨ s.threads.watcher.handler.running.isSome)
    (htimely : s.threads.Timely plan) (hdue : s.threads.watcher.handler.due = some t)
    (hle : t ≤ since + Watcher.patience) :
    s.allows (.act (.pass t)) ∧ (s.act (.act (.pass t))).allows (.act .expire) := by
  refine ⟨h.allows_pass hidle hbusy (htimely.punctual t hdue) hle fun u hu =>
    (Option.some.inj (hdue.symm.trans hu)).le, ?_⟩
  refine allows_act_iff.mpr ⟨?_, Debouncer.isDue_iff.mpr hdue, nofun, nofun⟩
  show s.threads.watcher.handler.due.isSome
  rw [hdue]
  rfl

/-- Stopping ends, whatever renders do. -/
theorem Waits.exists_leave (h : s.Waits since) (hlock : s.threads.Locked) (htimely : s.threads.Timely plan) :
    ∃ ms, s.admits (ms ++ [.leave]) := by
  induction hn : s.threads.watcher.handler.toDo using Nat.strong_induction_on generalizing s with
  | _ n ih =>
    have hcons : ∀ {r : Session} {a : Action}, r.Waits since → r.threads.Locked → r.threads.Timely plan →
        r.allows (.act a) → (r.act (.act a)).threads.watcher.handler.toDo < n →
          ∃ ms, r.admits (ms ++ [.leave]) := by
      intro r a hr hlock htimely ha hlt
      obtain ⟨hallows, hontime, -⟩ := allows_act_iff.mp ha
      obtain ⟨ms, hms⟩ := ih _ hlt (hr.act ha).2 (hlock.act hallows) (htimely.act hallows hontime) rfl
      exact ⟨.act a :: ms, Bool.and_eq_true_iff.mpr ⟨ha, hms⟩⟩
    by_cases hidle : s.threads.isIdle
    · exact ⟨[], admits_leave h.phase_eq (.inl hidle)⟩
    by_cases hturn : 0 < s.threads.watcher.handler.waiting ∧ s.threads.watcher.handler.running = none
    · obtain ⟨hsomebody, hfree⟩ := hturn
      rw [hlock.waiting, List.count_pos_iff] at hsomebody
      obtain ⟨i, hi⟩ := List.getElem?_of_mem hsomebody
      have htake : s.allows (.act (.take i)) :=
        allows_act_iff.mpr ⟨Threads.allows_take_iff.mpr ⟨hi, hfree⟩, rfl, nofun, nofun⟩
      exact hcons h hlock htimely htake (hn ▸ Debouncer.toDo_call_lt (Threads.waiting_pos hlock hi) hfree)
    have hbusy := Debouncer.busy_of_not hturn
    by_cases hdue : ∃ t, s.threads.watcher.handler.due = some t ∧ t ≤ since + Watcher.patience
    · obtain ⟨t, hdue, hle⟩ := hdue
      obtain ⟨hpass, hexpire⟩ := h.allows_expire hidle hbusy htimely hdue hle
      obtain ⟨hallows, hontime, -⟩ := allows_act_iff.mp hpass
      obtain ⟨ms, hms⟩ := hcons (h.act hpass).2 (hlock.act hallows) (htimely.act hallows hontime) hexpire
        (hn ▸ Debouncer.toDo_expire_lt (s := s.threads.watcher.handler) hdue)
      exact ⟨_ :: ms, Bool.and_eq_true_iff.mpr ⟨hpass, hms⟩⟩
    · have hpass := h.allows_pass hidle hbusy h.clock_le le_rfl fun t ht =>
        (not_le.mp fun hle => hdue ⟨t, ht, hle⟩).le
      have hleave := admits_leave (s := s.act (.act (.pass (since + Watcher.patience)))) h.phase_eq (.inr rfl)
      exact ⟨[_], Bool.and_eq_true_iff.mpr ⟨hpass, hleave⟩⟩

/-! ## Stopping -/

/-- What holds of a wait that begins in some state, with what happens in it, and of its end. -/
structure RendersOnStop (plan : WatchPlan) (s : Session) (ms : List Move) (e : Session) : Prop where
  /-- The wait is over when the last render is, or after five seconds. -/
  clock_le : s.clock ≤ e.clock ∧ e.clock ≤ s.clock + Watcher.patience
  isIdle_or_late : e.threads.isIdle ∨ e.clock = s.clock + Watcher.patience
  /-- When the last render is over, every event was followed by a read. -/
  answered : e.threads.isIdle → Happening.Answered e.threads.watcher.history
  /-- If the source was not edited after the last event, and the last read was written, it shows. -/
  shown : e.threads.isIdle → e.threads.edited = false → ∀ (i : Nat) (t : Text) (p : Publication),
    e.threads.reads.getLast? = some (i, .ok t) → (i, p) ∈ e.threads.writes →
      e.threads.watcher.readSource = .ok t ∧ plan.publish t = .ok p ∧
        e.threads.watcher.output? = some p.html
  /-- The last render is over if renders are not too long for that. -/
  in_time : ∀ longest, 0 ≤ longest → s.rendersWithin longest ms →
    s.threads.watcher.handler.finishBy longest < s.clock + Watcher.patience → e.threads.isIdle
  in_time_of_unused : ∀ longest, 0 ≤ longest → s.rendersWithin longest ms → s.threads.Unused →
    plan.delay + longest < Watcher.patience → e.threads.isIdle
  /-- A timer that is due later stays armed, and if nothing else is left to do, nothing is read or written. -/
  late : ∀ t, s.threads.watcher.handler.due = some t → s.clock + Watcher.patience < t →
    e.threads.watcher.handler.due = some t ∧ e.clock = s.clock + Watcher.patience ∧
      (s.threads.Unused → e.threads.reads = s.threads.reads ∧ e.threads.writes = s.threads.writes ∧
        (Happening.Answered e.threads.watcher.history → Happening.Answered s.threads.watcher.history))

theorem Waits.rendersOnStop (h : s.Waits since) (hsince : s.clock = since) (hsound : s.threads.Sound plan)
    (htimely : s.threads.Timely plan) (hms : s.admits (ms ++ [.leave])) :
    s.RendersOnStop plan ms (s.after (ms ++ [.leave])) := by
  subst hsince
  have hend : s.after (ms ++ [.leave]) = (s.after ms).act .leave := by
    rw [after_append]
    rfl
  obtain ⟨hwaits, hclock⟩ := h.after hms
  have hsound_end : ((s.after ms).act .leave).threads.Sound plan := hend ▸ sound_after hsound hms
  have hsettled : ((s.after ms).act .leave).threads.isIdle → ((s.after ms).act .leave).threads.Settled := by
    intro hidle
    obtain ⟨hdue, hlast⟩ := Threads.isIdle_iff.mp hidle
    exact hsound_end.settled hdue fun hwaiting => Stage.noConfusion (hlast _ hwaiting)
  have hleave : (s.after ms).threads.isIdle ∨ (s.after ms).clock = s.clock + Watcher.patience := by
    rw [admits_append, Bool.and_eq_true, admits, admits, Bool.and_true] at hms
    exact (allows_leave_iff hwaits.phase_eq).mp hms.2
  have hintime : ∀ longest, 0 ≤ longest → s.rendersWithin longest ms →
      s.threads.watcher.handler.finishBy longest < s.clock + Watcher.patience →
        (s.after ms).threads.isIdle := by
    intro longest hlongest hwithin hfinish
    refine (h.finishBy_after hsound hlongest hms hwithin).elim id fun hle => hleave.resolve_right fun hlate => ?_
    have hclock := Debouncer.clock_le_finishBy hlongest (s.after ms).threads.watcher.handler
    exact absurd (hlate.ge.trans (hclock.trans hle)) (not_le.mpr hfinish)
  rw [hend]
  constructor
  case clock_le => exact ⟨hclock, hwaits.clock_le⟩
  case isIdle_or_late => exact hleave
  case answered => exact fun hidle => (hsettled hidle).answered
  case shown => exact fun hidle hedited i t p => hsound_end.shown (hsettled hidle) hedited
  case in_time => exact hintime
  case in_time_of_unused =>
    intro longest hlongest hwithin hunused hshort
    have hfinish : s.threads.watcher.handler.finishBy longest ≤ s.clock + plan.delay + longest :=
      Debouncer.finishBy_le hlongest hunused.1 hunused.2 (le_add_of_nonneg_right htimely.delay_nonneg)
        htimely.due_le
    refine hintime longest hlongest hwithin (hfinish.trans_lt ?_)
    rw [add_assoc]
    exact add_lt_add_right hshort s.clock
  case late =>
    intro t hdue hlate
    have harmed := h.due_after hdue hlate hms
    refine ⟨harmed, hleave.resolve_left fun hidle => ?_, fun hunused => ?_⟩
    · exact Option.some_ne_none t (harmed.symm.trans (Threads.isIdle_iff.mp hidle).1)
    · obtain ⟨hreads, hwrites, hhistory⟩ := h.unused_after hsound hunused hdue hlate hms
      refine ⟨hreads, hwrites, fun hanswered => ?_⟩
      have hanswered : Happening.Answered ((s.after ms).threads.watcher.history ++ [.logged _]) := hanswered
      rw [← hhistory]
      exact hanswered.of_append (by simp)

theorem stop_renders {plan : WatchPlan} (disk : Disk) (hdelay : 0 ≤ plan.delay) {before : List Move}
    (h : (start plan disk).admits (before ++ [.joined])) :
    let s := (start plan disk).after (before ++ [.joined])
    (∃ ms, s.admits (ms ++ [.leave])) ∧
      ∀ ms, s.admits (ms ++ [.leave]) → s.RendersOnStop plan ms (s.after (ms ++ [.leave])) := by
  intro s
  have hsound : s.threads.Sound plan := sound_after (sound_start plan disk) h
  have htimely : s.threads.Timely plan := timely_after (timely_start disk hdelay) h
  have hphase : s.phase = .waiting s.clock := by
    have hjoined : s = ((start plan disk).after before).act .joined := after_append _ _ _
    rw [hjoined]
    rfl
  have hwaits : s.Waits s.clock := ⟨hphase, le_add_of_nonneg_right (by decide +kernel)⟩
  exact ⟨hwaits.exists_leave hsound.locked htimely, fun ms hms =>
    hwaits.rendersOnStop rfl hsound htimely hms⟩

/-- A watcher is told to stop a second after the last event, and waits for a render that takes half a second. The
text that was saved last is shown then. -/
theorem stop_renders_waiting :
    let plan := Threads.plainPlan "doc.html" 2
    let disk : Disk := ⟨.directory [("doc.md".toList, .file "draft")], [], ⟨[], []⟩⟩
    let saved : Move := .act (.deliver ⟨.modified, "doc.md", [], false⟩)
    let before : List Move := [saved, .act (.edit (.directory [("doc.md".toList, .file "final")])), saved,
      .act (.pass 1), .stop]
    let ms : List Move := [.act (.pass 2), .act .expire, .act (.take 0), .act (.pass (5 / 2)),
      .act (.finish 0), .act (.release 0)]
    let s := (start plan disk).after (before ++ [.joined])
    0 ≤ plan.delay ∧ (start plan disk).admits (before ++ [.joined]) ∧ s.admits (ms ++ [.leave]) ∧
      (s.after (ms ++ [.leave])).threads.isIdle ∧
      (s.after (ms ++ [.leave])).threads.watcher.output? = some "<p>final</p>\n" := by
  intro plan disk saved before ms s
  have hdelay : 0 ≤ plan.delay := by decide +kernel
  have hbefore : (start plan disk).admits (before ++ [.joined]) := by decide +kernel
  have hms : s.admits (ms ++ [.leave]) := by decide +kernel
  have h : s.RendersOnStop plan ms (s.after (ms ++ [.leave])) :=
    (stop_renders disk hdelay hbefore).2 ms hms
  have hidle := h.in_time (1 / 2) (by decide +kernel) (by decide +kernel) (by decide +kernel)
  have hwritten : (0, ⟨"<p>final</p>\n", [], 0⟩) ∈ (s.after (ms ++ [.leave])).threads.writes := by
    decide +kernel
  obtain ⟨-, -, houtput⟩ := h.shown hidle (by decide +kernel) 0 "final" _ (by decide +kernel) hwritten
  exact ⟨hdelay, hbefore, hms, hidle, houtput⟩

/-- A render that is due six seconds later is not made by the end of stopping. -/
theorem not_stop_renders :
    ¬ ∀ (plan : WatchPlan) (disk : Disk) (ms : List Move), 0 ≤ plan.delay →
      (start plan disk).admits (ms ++ [.leave]) →
        Happening.Answered ((start plan disk).after (ms ++ [.leave])).threads.watcher.history := by
  intro h
  let plan := Threads.plainPlan "doc.html" 6
  let disk : Disk := ⟨.directory [("doc.md".toList, .file "Hello")], [], ⟨[], []⟩⟩
  let ms : List Move := [.act (.deliver ⟨.modified, "doc.md", [], false⟩), .stop, .joined, .act (.pass 5)]
  have hanswered := h plan disk ms (by decide +kernel) (by decide +kernel)
  obtain ⟨j, content, -, hread⟩ := hanswered 3 ⟨.modified, "doc.md", [], false⟩ rfl
  have hnone : ((start plan disk).after (ms ++ [.leave])).threads.watcher.history.filterMap
      Happening.read? = [] := rfl
  rw [List.filterMap_eq_nil_iff] at hnone
  exact nomatch hnone _ (List.mem_of_getElem? hread)

end Session

end BlockMarkup
