import BlockMarkup.Proofs.Watcher.Session

/-!
# The clock by steps

Where renders take no time, whatever a watcher does by the clock is part of a session: letting time pass
(`Session.exists_advanceTo`), and stopping (`Session.exists_stop`).
-/

namespace BlockMarkup

open Text

/-! ## A render with nothing in between -/

namespace Watcher

theorem exists_handler_fire (w : Watcher) :
    ∃ history, w.fire.handler = { w.handler with due := none, running := none, history } := by
  let v := w.expire.take
  refine ⟨v.finish.handler.history ++ [(v.handler.clock, .released)], ?_⟩
  show v.finish.handler.release = _
  rw [v.sameTimes_finish.handler_eq]
  rfl

theorem due_fire (w : Watcher) : w.fire.handler.due = none := by
  obtain ⟨history, hhandler⟩ := w.exists_handler_fire
  rw [hhandler]

theorem due_advanceTo (w : Watcher) (moment : ℚ) :
    (w.advanceTo moment).handler.due = w.handler.due.filter (moment < ·) := by
  cases hdue : w.handler.due with
  | none => simp [advanceTo, hdue, pass, Debouncer.pass]
  | some t =>
    rcases lt_or_ge moment t with hlt | hle
    · have hlater : ¬ t ≤ moment := not_le.mpr hlt
      simp [advanceTo, hdue, hlater, pass, Debouncer.pass, Option.filter_some, hlt]
    · have hnot : ¬ moment < t := not_lt.mpr hle
      simp only [advanceTo, hdue, if_pos hle, Option.filter_some, hnot, decide_false]
      exact due_fire _

theorem join_of_due {w : Watcher} {t : ℚ} (hdue : w.handler.due = some t) (seconds : ℚ) :
    w.join (some seconds) = w.advanceTo (min t (w.handler.clock + seconds)) := by
  rw [join, hdue]
  rcases le_or_gt t (w.handler.clock + seconds) with hle | hlt
  · rw [min_eq_left hle]
    exact if_pos hle
  · rw [min_eq_right hlt.le]
    exact if_neg (not_le.mpr hlt)

end Watcher

namespace Threads

variable {s : Threads}

/-- All renders are over, and no timer is overdue. -/
structure Rested (s : Threads) : Prop where
  released : ∀ st ∈ s.renders, st = .released
  waiting : s.watcher.handler.waiting = 0
  running : s.watcher.handler.running = none
  punctual : s.watcher.handler.Punctual

/-- A render from the timer to the release of the lock. -/
def atOnce (s : Threads) : List Action :=
  [.expire, .take s.renders.length, .finish s.renders.length, .release s.renders.length]

theorem watcher_atOnce (s : Threads) : (s.after s.atOnce).watcher = s.watcher.fire := rfl

theorem renders_atOnce (s : Threads) : (s.after s.atOnce).renders = s.renders ++ [.released] := by
  show ((((s.renders ++ [Stage.waiting]).set s.renders.length _).set s.renders.length _).set
    s.renders.length _) = _
  simp

namespace Rested

theorem isIdle (h : s.Rested) (hdue : s.watcher.handler.due = none) : s.isIdle := by
  have hlast : s.renders.getLast?.all (· == .released) := by
    rw [Option.all_eq_true]
    intro st hst
    exact beq_iff_eq.mpr (h.released st (List.mem_of_getLast? hst))
  rw [Threads.isIdle, hdue, hlast]
  rfl

theorem mayPass (h : s.Rested) {moment : ℚ} (hclock : s.clock ≤ moment)
    (hdue : ∀ t, s.watcher.handler.due = some t → moment ≤ t) : s.watcher.handler.mayPass moment :=
  Debouncer.mayPass_iff.mpr ⟨hclock, hdue, .inl h.waiting⟩

theorem pass (h : s.Rested) {moment : ℚ} (hdue : ∀ t, s.watcher.handler.due = some t → moment ≤ t) :
    (s.act (.pass moment)).Rested :=
  ⟨h.released, h.waiting, h.running, hdue⟩

theorem atOnce (h : s.Rested) : (s.after s.atOnce).Rested := by
  obtain ⟨history, hhandler⟩ := s.watcher.exists_handler_fire
  rw [← watcher_atOnce] at hhandler
  constructor
  case released =>
    rw [renders_atOnce, List.forall_mem_append]
    exact ⟨h.released, List.forall_mem_singleton.mpr rfl⟩
  case waiting =>
    rw [hhandler]
    exact h.waiting
  case running => rw [hhandler]
  case punctual =>
    rw [hhandler]
    exact nofun

end Rested

end Threads

namespace Session

variable {s : Session} {moment : ℚ}

theorem after_acts (s : Session) (as : List Action) :
    s.after (as.map .act) = { s with threads := s.threads.after as } := by
  induction as generalizing s with
  | nil => rfl
  | cons a as ih => exact ih _

theorem admits_atOnce (hdue : s.threads.watcher.handler.isDue)
    (hfree : s.threads.watcher.handler.running = none) : s.admits (s.threads.atOnce.map .act) := by
  have harmed := Debouncer.isDue_iff.mp hdue
  simp [Threads.atOnce, admits, allows, Threads.allows, Threads.isOnTime, act, Threads.act, Threads.moveTo,
    Watcher.expire, Debouncer.expire, Debouncer.note, hdue, hfree, harmed, Stage.isRendering]

theorem allows_pass (hpass : s.threads.watcher.handler.mayPass moment) (hwait : s.waitsUntil moment) :
    s.allows (.act (.pass moment)) := by
  refine allows_act_iff.mpr ⟨decide_eq_true (Debouncer.mayPass_iff.mp hpass).1, hpass, ?_, nofun⟩
  rintro _ ⟨⟩
  exact hwait

/-- Time passes until the timer is due, and a render follows at once. -/
theorem exists_expiry (h : s.threads.Rested) {t : ℚ} (hdue : s.threads.watcher.handler.due = some t)
    (hwait : s.waitsUntil t) :
    ∃ as, s.admits (as.map .act) ∧ (s.threads.after as).watcher = (s.threads.watcher.pass t).fire ∧
      (s.threads.after as).Rested ∧ (s.threads.after as).watcher.handler.due = none ∧
      (s.threads.after as).clock = t := by
  have harmed : ∀ u, s.threads.watcher.handler.due = some u → t ≤ u := fun u hu =>
    (Option.some.inj (hdue.symm.trans hu)).le
  let now := s.threads.act (.pass t)
  obtain ⟨history, hhandler⟩ := now.watcher.exists_handler_fire
  refine ⟨.pass t :: now.atOnce, ?_, rfl, (h.pass harmed).atOnce, congrArg Debouncer.due hhandler,
    congrArg Debouncer.clock hhandler⟩
  rw [List.map_cons, admits, Bool.and_eq_true]
  refine ⟨allows_pass (h.mayPass (h.punctual t hdue) harmed) hwait, ?_⟩
  exact admits_atOnce (s := { s with threads := now }) (Debouncer.isDue_iff.mpr hdue) h.running

/-- Nothing happens until a moment. -/
theorem admits_pass (h : s.threads.Rested) (hclock : s.clock ≤ moment)
    (hdue : ∀ t, s.threads.watcher.handler.due = some t → moment ≤ t) (hwait : s.waitsUntil moment) :
    s.admits ([.pass moment].map .act) := by
  show (_ && true) = true
  rw [Bool.and_true]
  exact allows_pass (h.mayPass hclock hdue) hwait

/-- Time passes to a moment for as long as stopping lets it. -/
theorem exists_advanceTo (h : s.threads.Rested) (hclock : s.clock ≤ moment)
    (hwait : ∀ m, m ≤ moment → s.waitsUntil m)
    (hlast : ∀ r : Threads, s.threads.watcher.handler.due = some r.clock → r.clock ≤ moment →
      ({ s with threads := r } : Session).waitsUntil moment) :
    ∃ as, s.admits (as.map .act) ∧ (s.threads.after as).watcher = s.threads.watcher.advanceTo moment ∧
      (s.threads.after as).Rested := by
  have hpass : (∀ t, s.threads.watcher.handler.due = some t → moment < t) →
      s.threads.watcher.advanceTo moment = s.threads.watcher.pass moment →
      ∃ as, s.admits (as.map .act) ∧ (s.threads.after as).watcher = s.threads.watcher.advanceTo moment ∧
        (s.threads.after as).Rested := by
    intro hlater hadvance
    have hdue : ∀ t, s.threads.watcher.handler.due = some t → moment ≤ t := fun t ht => (hlater t ht).le
    exact ⟨[.pass moment], admits_pass h hclock hdue (hwait _ le_rfl), hadvance.symm, h.pass hdue⟩
  cases hdue : s.threads.watcher.handler.due with
  | none => exact hpass (by simp [hdue]) (by simp [Watcher.advanceTo, hdue])
  | some t =>
    rcases lt_or_ge moment t with hlt | hle
    · exact hpass (by simp [hdue, hlt]) (by simp [Watcher.advanceTo, hdue, not_le.mpr hlt])
    · obtain ⟨as, has, hwatcher, hrested, hnone, hnow⟩ := exists_expiry h hdue (hwait t hle)
      have harmed : ∀ u, (s.threads.after as).watcher.handler.due = some u → moment ≤ u := by simp [hnone]
      have hstill := hlast (s.threads.after as) (hdue.trans (congrArg some hnow.symm)) (hnow.trans_le hle)
      refine ⟨as ++ [.pass moment], ?_, ?_, ?_⟩
      · rw [List.map_append, admits_append, has, after_acts]
        exact admits_pass hrested (hnow.trans_le hle) harmed hstill
      · rw [Threads.after, List.foldl_append]
        show (s.threads.after as).watcher.pass moment = _
        rw [hwatcher, Watcher.advanceTo, hdue]
        simp only [if_pos hle]
      · rw [Threads.after, List.foldl_append]
        exact hrested.pass harmed

/-- While directories are observed, time passes to any moment. -/
theorem exists_advanceTo_of_watching (h : s.threads.Rested) (hphase : s.phase = .watching)
    (hclock : s.clock ≤ moment) :
    ∃ as, s.admits (as.map .act) ∧ (s.threads.after as).watcher = s.threads.watcher.advanceTo moment ∧
      (s.threads.after as).Rested :=
  exists_advanceTo h hclock (by simp [waitsUntil, hphase]) (by simp [waitsUntil, hphase])

/-- The wait for a timer that is armed ends after five seconds. -/
theorem exists_join (h : s.threads.Rested) (hphase : s.phase = .waiting s.clock) :
    ∃ as, s.admits (as.map .act) ∧
      (s.threads.after as).watcher = s.threads.watcher.join (some Watcher.patience) ∧
      ((s.threads.after as).isIdle ∨ (s.threads.after as).clock = s.clock + Watcher.patience) := by
  cases hdue : s.threads.watcher.handler.due with
  | none =>
    refine ⟨[], rfl, ?_, .inl (h.isIdle hdue)⟩
    rw [Watcher.join, hdue]
    rfl
  | some t =>
    have hbusy : s.threads.isIdle = false := by simp [Threads.isIdle, hdue]
    have hpatience : s.clock ≤ s.clock + Watcher.patience := le_add_of_nonneg_right (by decide +kernel)
    have hwait : ∀ m, m ≤ min t (s.clock + Watcher.patience) → s.waitsUntil m := by
      intro m hm
      simp [waitsUntil, hphase, hbusy, hm.trans (min_le_right _ _)]
    have hlast : ∀ r : Threads, s.threads.watcher.handler.due = some r.clock →
        r.clock ≤ min t (s.clock + Watcher.patience) →
        ({ s with threads := r } : Session).waitsUntil (min t (s.clock + Watcher.patience)) := by
      intro r hr hle
      obtain rfl : t = r.clock := Option.some.inj (hdue.symm.trans hr)
      have hin : r.clock ≤ s.clock + Watcher.patience := (le_min_iff.mp hle).2
      rw [min_eq_left hin]
      simp only [waitsUntil, hphase, clock, beq_self_eq_true, Bool.or_true, Bool.and_true]
      exact decide_eq_true hin
    obtain ⟨as, has, hwatcher, hrested⟩ :=
      exists_advanceTo h (le_min (h.punctual t hdue) hpatience) hwait hlast
    refine ⟨as, has, hwatcher.trans (Watcher.join_of_due hdue _).symm, ?_⟩
    rcases le_or_gt t (s.clock + Watcher.patience) with hle | hlt
    · refine .inl (hrested.isIdle ?_)
      rw [hwatcher, Watcher.due_advanceTo, hdue, min_eq_left hle, Option.filter_some]
      simp
    · refine .inr ?_
      rw [Threads.clock, hwatcher, min_eq_right hlt.le]
      rfl

/-- Stopping is stopping by the clock, with a run of the watcher between its two waits and its leave. -/
theorem exists_stop (h : s.threads.Rested) (hphase : s.phase = .watching)
    (hobserving : s.threads.watcher.observing) :
    ∃ during : List Action, s.admits (.stop :: .joined :: during.map .act ++ [.leave]) ∧
      (s.after (.stop :: .joined :: during.map .act ++ [.leave])).threads.watcher =
        s.threads.watcher.stop := by
  have hjoined : ((s.act .stop).act .joined).threads.Rested := ⟨h.released, h.waiting, h.running, h.punctual⟩
  obtain ⟨during, hduring, hwatcher, hend⟩ := exists_join hjoined rfl
  have hafter := after_acts ((s.act .stop).act .joined) during
  have hleave : (((s.act .stop).act .joined).after (during.map .act)).allows .leave := by
    rw [hafter]
    show (_ || _ == _) = true
    rw [Bool.or_eq_true, beq_iff_eq]
    exact hend
  have hstop : s.allows .stop := beq_iff_eq.mpr hphase
  refine ⟨during, ?_, ?_⟩
  · rw [List.cons_append, List.cons_append, admits, admits, hstop, admits_append, hduring, admits, hleave]
    rfl
  · rw [List.cons_append, List.cons_append]
    show ((((s.act .stop).act .joined).after (during.map .act ++ [.leave])).threads.watcher) = _
    rw [after_append, hafter, Watcher.stop, if_pos hobserving]
    exact congrArg Watcher.leave hwatcher

end Session

end BlockMarkup
