import BlockMarkup.Files.Tree
import BlockMarkup.Proofs.Watcher.Progress

/-!
# One call for a burst

A run on a schedule goes on until no timer is armed and nobody waits for the lock. Its timers expire when a burst
of events is over and at no other time, and each of them has one call, made at once or as soon as the call before
is over (`Debouncer.debounced`). There is such a run however long each call lasts; where calls are over before the
next timer expires, they are made at the ends of the bursts.
-/

namespace BlockMarkup.Debouncer

open Schedule Text

variable {α : Type} {s : Debouncer α} {σ : Schedule Delivery} {as : List (Step α)}

/-- A run on a schedule, past all timers and all calls that were asked for. -/
structure Run (s : Debouncer α) (σ : Schedule Delivery) (as : List (Step α)) : Prop where
  admits : s.admits as
  deliveries_eq : s.deliveries as = σ
  unarmed : (s.after as).due = none
  unasked : (s.after as).waiting = 0

/-- What holds of what was done when in a run on a schedule. -/
structure Debounced (s : Debouncer α) (σ : Schedule Delivery) (as : List (Step α)) : Prop where
  heeds_iff : ∀ o, heeds s.target o ↔ o.event.Touches o.resolve s.target
  /-- The timer expires a delay after each event that no other follows within the delay, and at no other
  time. -/
  expired_eq : (s.after as).times .expired = burstTimes (heeds s.target) s.delay σ
  /-- Each time one call is made: then, or when the call before is over. -/
  called_eq : ∀ i, ((s.after as).times .called)[i]? =
    turn? ((s.after as).times .expired) ((s.after as).times .released) i
  /-- Calls that are over before the next timer expires delay none. -/
  undisturbed : (∀ i r e, ((s.after as).times .released)[i]? = some r →
      ((s.after as).times .expired)[i + 1]? = some e → r ≤ e) →
    (s.after as).times .called = burstTimes (heeds s.target) s.delay σ
  apart : ((s.after as).times .expired).Pairwise (· + s.delay ≤ ·)
  answered : ∀ o ∈ σ, heeds s.target o.2 → ∃ t ∈ (s.after as).times .called, o.1 + s.delay ≤ t
  /-- Without the events that are not heeded, and without the failures of calls, all the rest is done, and when
  it was. -/
  regardless : s.admits (as.filter (matters s.target)) ∧
    ∀ m, m ≠ .failed → (s.after (as.filter (matters s.target))).times m = (s.after as).times m

theorem debounced_of_run {target : Place} {delay clock : ℚ} (hdelay : 0 ≤ delay) (horder : σ.InOrder)
    (h : (idle target delay clock : Debouncer α).Run σ as) :
    (idle target delay clock : Debouncer α).Debounced σ as := by
  have hexpired : ((idle target delay clock).after as).times .expired =
      burstTimes (heeds target) delay σ := by
    have hexpired := times_expired_after (s := idle target delay clock) hdelay nofun h.admits h.unarmed
    rwa [h.deliveries_eq] at hexpired
  have hturns := (turns_idle target delay clock).after h.admits
  have hcalled := hturns.times_called h.unasked
  obtain ⟨hrest, hsame⟩ := after_filter_matters h.admits
  constructor
  case heeds_iff => exact fun o => heeds_iff
  case expired_eq => exact hexpired
  case called_eq => exact hcalled
  case undisturbed =>
    intro hover
    exact (hturns.times_called_of_over h.unasked hover).trans hexpired
  case apart =>
    rw [hexpired]
    exact pairwise_burstTimes σ
  case answered =>
    intro o ho hheeds
    have hburst : ∃ e ∈ burstTimes (heeds target) delay σ, o.1 + delay ≤ e :=
      exists_mem_burstTimes horder ho hheeds
    rw [← hexpired] at hburst
    obtain ⟨e, he, hle⟩ := hburst
    obtain ⟨i, hi, rfl⟩ := List.getElem_of_mem he
    obtain ⟨t, ht, hlate⟩ := hturns.exists_called h.unasked (List.getElem?_eq_getElem hi)
    exact ⟨t, ht, hle.trans hlate⟩
  case regardless =>
    refine ⟨hrest, fun m hm => ?_⟩
    have hafter := congrArg (·.times m) hsame
    exact hafter.trans (times_withoutFailures _ hm)

theorem debounced [Inhabited α] (target : Place) {delay clock : ℚ} (hdelay : 0 < delay)
    (horder : σ.InOrder) (hclock : ∀ o ∈ σ, clock ≤ o.1) :
    let s : Debouncer α := idle target delay clock
    (∀ lasts : Nat → ℚ, (∀ n, 0 ≤ lasts n) → ∃ as, s.Run σ as ∧ (s.after as).running = none ∧
      ∀ n t, ((s.after as).times .released)[n]? = some t →
        ∃ c, ((s.after as).times .called)[n]? = some c ∧ t = c + lasts n) ∧
      ∀ as, s.Run σ as → s.Debounced σ as := by
  intro s
  refine ⟨fun lasts hlasts => ?_, fun as has => debounced_of_run hdelay.le horder has⟩
  have hstart : s.Ready lasts := Ready.idle target hdelay.le clock
  obtain ⟨as, hadmits, hdeliveries, hend, hunarmed, hunasked, hfree⟩ :=
    exists_run hstart hlasts horder hclock
  exact ⟨as, ⟨hadmits, hdeliveries, hunarmed, hunasked⟩, hfree, hend.paced.ended⟩

/-- The source is modified at 0 and 0.2 seconds and opened in between; the call for that lasts until 1.2 seconds
and fails. The call for a change at 0.7 seconds waits for its end. -/
theorem debounced_slow :
    let target : Place := ["doc.md".toList]
    let here : Path → Option Place := Disk.resolve? ⟨.directory [], [], ⟨[], []⟩⟩
    let on (kind : EventKind) : Delivery := ⟨here, ⟨kind, "doc.md", [], false⟩⟩
    let s : Debouncer Unit := idle target (3 / 10) 0
    let σ : Schedule Delivery :=
      [(0, on .modified), (1 / 10, on .opened), (1 / 5, on .modified), (7 / 10, on .closed)]
    let run : List (Step Unit) := [.deliver (on .modified), .pass (1 / 10), .deliver (on .opened),
      .pass (1 / 5), .deliver (on .modified), .pass (1 / 2), .expire, .call (), .pass (7 / 10),
      .deliver (on .closed), .pass 1, .expire, .pass (6 / 5), .fail, .release, .call (), .release]
    0 < s.delay ∧ σ.InOrder ∧ (∀ o ∈ σ, s.clock ≤ o.1) ∧ s.Run σ run ∧
      (s.after run).times .expired = [1 / 2, 1] ∧ (s.after run).times .called = [1 / 2, 6 / 5] := by
  intro target here on s σ run
  have hdelay : 0 < s.delay := by decide +kernel
  have horder : σ.InOrder := by decide +kernel
  have hclock : ∀ o ∈ σ, s.clock ≤ o.1 := by decide +kernel
  have hrun : s.Run σ run := ⟨by decide +kernel, rfl, by decide +kernel, by decide +kernel⟩
  have h : s.Debounced σ run := (debounced target hdelay horder hclock).2 run hrun
  exact ⟨hdelay, horder, hclock, hrun, h.expired_eq.trans (by decide +kernel), by decide +kernel⟩

/-- Calls are not made at the ends of bursts alone: one that lasts a second delays the next. And an event that
names no destination is not heeded where the target is the current directory, to which the empty path leads. -/
theorem not_called_at_bursts :
    let here : Path → Option Place := Disk.resolve? ⟨.directory [], [], ⟨[], []⟩⟩
    let saved : Delivery := ⟨here, ⟨.modified, "doc.md", [], false⟩⟩
    let s : Debouncer Unit := idle ["doc.md".toList] (3 / 10) 0
    let σ : Schedule Delivery := [(0, saved), (1 / 2, saved)]
    let run : List (Step Unit) := [.deliver saved, .pass (3 / 10), .expire, .call (), .pass (1 / 2),
      .deliver saved, .pass (4 / 5), .expire, .pass (13 / 10), .release, .call ()]
    (s.Run σ run ∧ burstTimes (heeds s.target) s.delay σ = [3 / 10, 4 / 5] ∧
        (s.after run).times .called = [3 / 10, 13 / 10]) ∧
      here (Path.ofText saved.event.destination) = some [] ∧ ¬ heeds [] saved := by
  intro here saved s σ run
  have hrun : s.Run σ run := ⟨by decide +kernel, rfl, by decide +kernel, by decide +kernel⟩
  exact ⟨⟨hrun, by decide +kernel, by decide +kernel⟩, by decide +kernel, by decide +kernel⟩

end BlockMarkup.Debouncer
