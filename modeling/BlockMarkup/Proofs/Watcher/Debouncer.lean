import BlockMarkup.Proofs.Watcher.Schedule

/-!
# From event to call

1. An event is heeded if it may have changed the target (`Debouncer.heeds_iff`).
2. The timer is armed for the end of the delay after the last event that is heeded, and for nothing else. So it
   expires where nothing that is heeded comes before it is due (`Debouncer.times_expired_after`): once for every
   burst of events.
3. Each time it expires a call is made, when the lock is free (`Debouncer.Turns`): at once, unless the call
   before is not over.
4. Events that are not heeded and calls that fail leave no other trace (`Debouncer.after_filter_matters`).
-/

namespace BlockMarkup

theorem eq_of_getElem?_concat {β : Type} {xs : List β} {x y : β} {i : Nat} (h : (xs ++ [x])[i]? = some y) :
    xs[i]? = some y ∨ i = xs.length ∧ x = y := by
  rw [List.getElem?_append] at h
  split at h
  · exact .inl h
  · have hlt := (List.getElem?_eq_some_iff.mp h).1
    rw [List.length_singleton] at hlt
    obtain rfl : i = xs.length := by omega
    rw [Nat.sub_self] at h
    exact .inr ⟨rfl, Option.some.inj h⟩

/-! ## Events that are heeded -/

namespace FileEvent

/-- The event may have changed the file at the target. -/
structure Touches (resolve : Path → Option Place) (target : Place) (e : FileEvent) : Prop where
  onFile : e.onDirectory = false
  changing : e.kind ≠ .opened ∧ e.kind ≠ .closedNoWrite
  leads : (e.source ≠ [] ∧ resolve (Path.ofText e.source) = some target) ∨
    e.destination ≠ [] ∧ resolve (Path.ofText e.destination) = some target ∧
      (e.source = [] ∨ (resolve (Path.ofText e.source)).isSome)

theorem leadsTo_cons_iff {resolve : Path → Option Place} {target : Place} {path : Text}
    {paths : List Text} :
    leadsTo resolve target (path :: paths) ↔
      (path ≠ [] ∧ resolve (Path.ofText path) = some target) ∨
        leadsTo resolve target paths ∧ (path = [] ∨ (resolve (Path.ofText path)).isSome) := by
  rw [leadsTo]
  rcases path with _ | ⟨c, path⟩
  · simp
  · cases resolve (Path.ofText (c :: path)) <;> simp

theorem concerns_iff {resolve : Path → Option Place} {target : Place} {e : FileEvent} :
    e.concerns resolve target ↔ e.Touches resolve target := by
  have hchanging : e.kind.mayChange ↔ e.kind ≠ .opened ∧ e.kind ≠ .closedNoWrite := by
    simp [EventKind.mayChange]
  have hnone : ¬ leadsTo resolve target [] := by simp [leadsTo]
  rw [concerns, Bool.and_eq_true, Bool.and_eq_true, Bool.not_eq_true', hchanging, leadsTo_cons_iff,
    leadsTo_cons_iff]
  constructor
  · rintro ⟨⟨honFile, hchanges⟩, hsource | ⟨⟨hne, hdestination⟩ | ⟨h, -⟩, hseen⟩⟩
    · exact ⟨honFile, hchanges, .inl hsource⟩
    · exact ⟨honFile, hchanges, .inr ⟨hne, hdestination, hseen⟩⟩
    · exact absurd h hnone
  · rintro ⟨honFile, hchanges, hsource | ⟨hne, hdestination, hseen⟩⟩
    · exact ⟨⟨honFile, hchanges⟩, .inl hsource⟩
    · exact ⟨⟨honFile, hchanges⟩, .inr ⟨.inl ⟨hne, hdestination⟩, hseen⟩⟩

end FileEvent

namespace Debouncer

open Schedule

variable {α : Type} {s : Debouncer α} {as : List (Step α)} {m : Mark} {moment : ℚ}

theorem heeds_iff {target : Place} {o : Delivery} :
    heeds target o ↔ o.event.Touches o.resolve target := FileEvent.concerns_iff

/-! ## Steps -/

theorem act_deliver_of_heeds {o : Delivery} (h : heeds s.target o) :
    s.act (.deliver o) = { s with due := some (s.clock + s.delay) } := if_pos h

theorem act_deliver_of_not {o : Delivery} (h : ¬ heeds s.target o) : s.act (.deliver o) = s := if_neg h

theorem times_note (s : Debouncer α) (m n : Mark) :
    (s.note m).times n = s.times n ++ if m = n then [s.clock] else [] := by
  rw [times, note, List.filter_append, List.map_append]
  by_cases h : m = n <;> simp [times, h]

theorem times_expire (s : Debouncer α) (n : Mark) :
    s.expire.times n = s.times n ++ if .expired = n then [s.clock] else [] := times_note _ _ _

theorem times_call (s : Debouncer α) (about : α) (n : Mark) :
    (s.call about).times n = s.times n ++ if .called = n then [s.clock] else [] := times_note _ _ _

theorem times_fail (s : Debouncer α) (n : Mark) :
    s.fail.times n = s.times n ++ if .failed = n then [s.clock] else [] := times_note _ _ _

theorem times_release (s : Debouncer α) (n : Mark) :
    s.release.times n = s.times n ++ if .released = n then [s.clock] else [] := times_note _ _ _

/-- Only the timer may differ after an event. -/
theorem deliver_frame (s : Debouncer α) (resolve : Path → Option Place) (e : FileEvent) :
    s.deliver resolve e = { s with due := (s.deliver resolve e).due } := by
  unfold deliver
  split <;> rfl

theorem due_deliver_cases (s : Debouncer α) (resolve : Path → Option Place) (e : FileEvent) :
    (s.deliver resolve e).due = some (s.clock + s.delay) ∨ (s.deliver resolve e).due = s.due := by
  unfold deliver
  split
  · exact .inl rfl
  · exact .inr rfl

theorem clock_deliver (s : Debouncer α) (o : Delivery) : (s.act (.deliver o)).clock = s.clock := by
  rw [act, deliver_frame]

theorem target_act (s : Debouncer α) (a : Step α) : (s.act a).target = s.target := by
  cases a with
  | deliver o => rw [act, deliver_frame]
  | _ => rfl

theorem delay_act (s : Debouncer α) (a : Step α) : (s.act a).delay = s.delay := by
  cases a with
  | deliver o => rw [act, deliver_frame]
  | _ => rfl

theorem mayPass_iff :
    s.mayPass moment ↔ s.clock ≤ moment ∧ (∀ t, s.due = some t → moment ≤ t) ∧
      (s.waiting = 0 ∨ s.running.isSome ∨ moment = s.clock) := by
  rw [mayPass, Bool.and_eq_true, Bool.and_eq_true, Bool.or_eq_true, Bool.or_eq_true, decide_eq_true_iff,
    Option.all_eq_true, beq_iff_eq, beq_iff_eq, or_assoc, and_assoc]
  simp only [decide_eq_true_iff]

theorem isDue_iff : s.isDue ↔ s.due = some s.clock := beq_iff_eq

theorem allows_call_iff {about : α} : s.allows (.call about) ↔ 0 < s.waiting ∧ s.running = none := by
  rw [allows, Bool.and_eq_true, decide_eq_true_iff, Option.isNone_iff_eq_none]

/-- No timer is overdue. -/
def Punctual (s : Debouncer α) : Prop := ∀ t, s.due = some t → s.clock ≤ t

theorem Punctual.deliver (h : s.Punctual) (hdelay : 0 ≤ s.delay) (o : Delivery) :
    (s.act (.deliver o)).Punctual := by
  intro t ht
  rw [clock_deliver]
  rcases s.due_deliver_cases o.resolve o.event with hset | hsame
  · obtain rfl := Option.some.inj (hset.symm.trans ht)
    exact le_add_of_nonneg_right hdelay
  · exact h t (hsame.symm.trans ht)

theorem Punctual.act (h : s.Punctual) (hdelay : 0 ≤ s.delay) {a : Step α} (ha : s.allows a) :
    (s.act a).Punctual := by
  cases a with
  | pass moment => exact fun t ht => (mayPass_iff.mp ha).2.1 t ht
  | deliver o => exact h.deliver hdelay o
  | expire => exact nofun
  | call about => exact h
  | fail => exact h
  | release => exact h

theorem clock_le_act {a : Step α} (ha : s.allows a) : s.clock ≤ (s.act a).clock := by
  cases a with
  | pass moment => exact (mayPass_iff.mp ha).1
  | deliver o => exact (clock_deliver s o).ge
  | _ => exact le_rfl

theorem clock_le_of_mem_deliveries (has : s.admits as) {o : ℚ × Delivery} (ho : o ∈ s.deliveries as) :
    s.clock ≤ o.1 := by
  induction as generalizing s with
  | nil => cases ho
  | cons a as ih =>
    rw [admits, Bool.and_eq_true] at has
    have hle := clock_le_act has.1
    cases a with
    | deliver p =>
      rcases List.mem_cons.mp ho with rfl | ho
      · exact le_rfl
      · exact hle.trans (ih has.2 ho)
    | _ => exact hle.trans (ih has.2 ho)

/-! ## Timers that expire -/

/-- When timers are still to expire on a schedule: the one that is armed, unless something that is heeded comes
before, and those that end a burst. -/
def toExpire (s : Debouncer α) (σ : Schedule Delivery) : List ℚ :=
  (s.due.filter (CalmUntil (heeds s.target) σ)).toList ++ burstTimes (heeds s.target) s.delay σ

section ToExpire

variable {σ : Schedule Delivery}

theorem toExpire_deliver_of_heeds {o : Delivery} (hs : s.Punctual) (ha : s.allows (.deliver o))
    (h : heeds s.target o) : s.toExpire ((s.clock, o) :: σ) = (s.act (.deliver o)).toExpire σ := by
  have hover : s.due.filter (CalmUntil (heeds s.target) ((s.clock, o) :: σ)) = none := by
    rw [Option.filter_eq_none_iff]
    intro t ht hcalm
    have hle := ((calmUntil_cons_iff _ _ _).mp (of_decide_eq_true hcalm)).1 h
    have hnow : s.isDue := isDue_iff.mpr (ht.trans (congrArg some (le_antisymm hle (hs t ht))))
    have hfree : ¬ s.isDue := by simpa [allows, h] using ha
    exact hfree hnow
  rw [toExpire, hover, burstTimes_cons_of_heeds h, act_deliver_of_heeds h]
  rfl

theorem toExpire_deliver_of_not {o : Delivery} (h : ¬ heeds s.target o) :
    s.toExpire ((s.clock, o) :: σ) = (s.act (.deliver o)).toExpire σ := by
  have hcalm : ∀ t, CalmUntil (heeds s.target) ((s.clock, o) :: σ) t ↔ CalmUntil (heeds s.target) σ t :=
    fun t => (calmUntil_cons_iff _ _ _).trans (and_iff_right fun hheeds => absurd hheeds h)
  rw [act_deliver_of_not h, toExpire, toExpire, burstTimes_cons_of_not h]
  simp only [hcalm]

theorem toExpire_expire (hdue : s.isDue) (h : ∀ o ∈ σ, s.clock ≤ o.1) :
    s.toExpire σ = s.clock :: (s.act .expire).toExpire σ := by
  have hcalm : CalmUntil (heeds s.target) σ s.clock := fun o ho _ => h o ho
  rw [toExpire, isDue_iff.mp hdue, Option.filter_some, if_pos (decide_eq_true hcalm)]
  rfl

end ToExpire

/-- A step leaves when timers expire, by then or later. -/
theorem expired_act {a : Step α} (hs : s.Punctual) (ha : s.allows a) (has : (s.act a).admits as) :
    (s.act a).times .expired ++ (s.act a).toExpire ((s.act a).deliveries as) =
      s.times .expired ++ s.toExpire (s.deliveries (a :: as)) := by
  cases a with
  | pass moment => rfl
  | deliver o =>
    by_cases hheeds : heeds s.target o
    · show _ = _ ++ s.toExpire ((s.clock, o) :: _)
      rw [toExpire_deliver_of_heeds hs ha hheeds, act_deliver_of_heeds hheeds]
      rfl
    · show _ = _ ++ s.toExpire ((s.clock, o) :: _)
      rw [toExpire_deliver_of_not hheeds, act_deliver_of_not hheeds]
  | expire =>
    show (s.expire).times .expired ++ _ = _ ++ s.toExpire ((s.act .expire).deliveries as)
    rw [toExpire_expire ha fun o ho => clock_le_of_mem_deliveries has ho, times_expire, if_pos rfl,
      List.append_assoc]
    rfl
  | call about =>
    show (s.call about).times .expired ++ _ = _
    rw [times_call, if_neg (by decide), List.append_nil]
    rfl
  | fail =>
    show s.fail.times .expired ++ _ = _
    rw [times_fail, if_neg (by decide), List.append_nil]
    rfl
  | release =>
    show s.release.times .expired ++ _ = _
    rw [times_release, if_neg (by decide), List.append_nil]
    rfl

theorem times_expired_after (hdelay : 0 ≤ s.delay) (hs : s.Punctual) (has : s.admits as)
    (hend : (s.after as).due = none) :
    (s.after as).times .expired = s.times .expired ++ s.toExpire (s.deliveries as) := by
  induction as generalizing s with
  | nil =>
    have hdue : s.due = none := hend
    rw [toExpire, hdue]
    exact (List.append_nil _).symm
  | cons a as ih =>
    rw [admits, Bool.and_eq_true] at has
    rw [← expired_act hs has.1 has.2]
    exact ih (by rwa [delay_act]) (hs.act hdelay has.1) has.2 hend

/-! ## Calls -/

/-- When a call is made: once its timer has expired and the call before is over. -/
def turn? (expired released : List ℚ) : Nat → Option ℚ
  | 0 => expired[0]?
  | i + 1 => do return max (← expired[i + 1]?) (← released[i]?)

theorem turn?_succ_eq_some_iff {expired released : List ℚ} {i : Nat} {t : ℚ} :
    turn? expired released (i + 1) = some t ↔
      ∃ e r, expired[i + 1]? = some e ∧ released[i]? = some r ∧ max e r = t := by
  constructor
  · intro h
    obtain ⟨e, he, h⟩ := Option.bind_eq_some_iff.mp h
    obtain ⟨r, hr, h⟩ := Option.bind_eq_some_iff.mp h
    exact ⟨e, r, he, hr, Option.some.inj h⟩
  · rintro ⟨e, r, he, hr, rfl⟩
    rw [turn?, he, hr]
    rfl

theorem turn?_append {expired released : List ℚ} {i : Nat} {t : ℚ} (more later : List ℚ)
    (h : turn? expired released i = some t) : turn? (expired ++ more) (released ++ later) i = some t := by
  have hleft : ∀ {xs ys : List ℚ} {j : Nat} {x : ℚ}, xs[j]? = some x → (xs ++ ys)[j]? = some x :=
    fun hx => (List.getElem?_append_left (List.getElem?_eq_some_iff.mp hx).1).trans hx
  cases i with
  | zero => exact hleft h
  | succ i =>
    obtain ⟨e, r, he, hr, rfl⟩ := turn?_succ_eq_some_iff.mp h
    exact turn?_succ_eq_some_iff.mpr ⟨e, r, hleft he, hleft hr, rfl⟩

/-- The timer that expires last has its turn at once if all calls before are over. -/
theorem turn?_concat_expired {expired released : List ℚ} {now : ℚ} (hlength : expired.length = released.length)
    (hpast : ∀ r ∈ released, r ≤ now) : turn? (expired ++ [now]) released expired.length = some now := by
  have hlast : (expired ++ [now])[expired.length]? = some now := List.getElem?_concat_length
  cases hn : expired.length with
  | zero =>
    rw [hn] at hlast
    exact hlast
  | succ n =>
    have hlt : n < released.length := by omega
    rw [hn] at hlast
    rw [turn?, hlast, List.getElem?_eq_getElem hlt]
    exact congrArg some (max_eq_left (hpast _ (List.getElem_mem hlt)))

/-- When a call is over, it is the turn of the next one whose timer has expired. -/
theorem turn?_concat_released {expired released : List ℚ} {now : ℚ}
    (hlt : released.length + 1 < expired.length) (hpast : ∀ e ∈ expired, e ≤ now) :
    turn? expired (released ++ [now]) (released.length + 1) = some now := by
  rw [turn?, List.getElem?_eq_getElem hlt, List.getElem?_concat_length]
  exact congrArg some (max_eq_right (hpast _ (List.getElem_mem hlt)))

theorem exists_of_turn? {expired released : List ℚ} {i : Nat} {t : ℚ}
    (h : turn? expired released i = some t) : ∃ e, expired[i]? = some e ∧ e ≤ t := by
  cases i with
  | zero => exact ⟨t, h, le_rfl⟩
  | succ i =>
    obtain ⟨e, r, he, -, rfl⟩ := turn?_succ_eq_some_iff.mp h
    exact ⟨e, he, le_max_left e r⟩

/-- Every call was made at its turn, and while the lock is free and somebody waits for it, it is the turn of the
next one. -/
structure Turns (s : Debouncer α) : Prop where
  past : ∀ x ∈ s.history, x.1 ≤ s.clock
  expired_length : (s.times .expired).length = (s.times .called).length + s.waiting
  called_length : (s.times .called).length = (s.times .released).length + s.running.toList.length
  called : ∀ i t, (s.times .called)[i]? = some t →
    turn? (s.times .expired) (s.times .released) i = some t
  next : 0 < s.waiting → s.running = none →
    turn? (s.times .expired) (s.times .released) (s.times .called).length = some s.clock

theorem le_clock_of_mem_times (h : s.Turns) (m : Mark) : ∀ t ∈ s.times m, t ≤ s.clock := by
  intro t ht
  obtain ⟨x, hx, rfl⟩ := List.mem_map.mp ht
  exact h.past x (List.mem_of_mem_filter hx)

namespace Turns

theorem past_note (h : s.Turns) (m : Mark) : ∀ x ∈ (s.note m).history, x.1 ≤ s.clock := by
  intro x hx
  rcases List.mem_append.mp hx with hx | hx
  · exact h.past x hx
  · rw [List.mem_singleton.mp hx]

theorem pass (h : s.Turns) (ha : s.mayPass moment) : (s.pass moment).Turns := by
  obtain ⟨hle, -, hbusy⟩ := mayPass_iff.mp ha
  refine ⟨fun x hx => (h.past x hx).trans hle, h.expired_length, h.called_length, h.called, ?_⟩
  intro hwaiting hfree
  have hnow : moment = s.clock := by
    rcases hbusy with hnobody | hrunning | hnow
    · exact absurd hwaiting (Nat.not_lt.mpr hnobody.le)
    · rw [show s.running = none from hfree] at hrunning
      cases hrunning
    · exact hnow
  subst hnow
  exact h.next hwaiting hfree

theorem expire (h : s.Turns) : s.expire.Turns := by
  have hexpired : s.expire.times .expired = s.times .expired ++ [s.clock] := times_expire _ _
  have hcalled : s.expire.times .called = s.times .called := (times_expire _ _).trans (List.append_nil _)
  have hreleased : s.expire.times .released = s.times .released :=
    (times_expire _ _).trans (List.append_nil _)
  have hkeep : ∀ {i : Nat} {t : ℚ}, turn? (s.times .expired) (s.times .released) i = some t →
      turn? (s.times .expired ++ [s.clock]) (s.times .released) i = some t := fun hturn => by
    simpa using turn?_append [s.clock] [] hturn
  constructor
  case past => exact h.past_note .expired
  case expired_length =>
    rw [hexpired, hcalled, List.length_append, h.expired_length]
    exact Nat.add_assoc _ _ _
  case called_length =>
    rw [hcalled, hreleased]
    exact h.called_length
  case called =>
    rw [hexpired, hcalled, hreleased]
    exact fun i t ht => hkeep (h.called i t ht)
  case next =>
    rw [hexpired, hcalled, hreleased]
    intro _ hfree
    rcases Nat.eq_zero_or_pos s.waiting with hnobody | hsomebody
    · -- Nobody was waiting, so the timer that expires now is the one of the next call.
      have hlength : (s.times .expired).length = (s.times .called).length := by
        rw [h.expired_length, hnobody, Nat.add_zero]
      have hover : (s.times .called).length = (s.times .released).length := by
        rw [h.called_length, show s.running = none from hfree]
        rfl
      rw [← hlength]
      exact turn?_concat_expired (hlength.trans hover) (le_clock_of_mem_times h .released)
    · exact hkeep (h.next hsomebody hfree)

theorem call (h : s.Turns) {about : α} (hsomebody : 0 < s.waiting) (hfree : s.running = none) :
    (s.call about).Turns := by
  have hexpired : (s.call about).times .expired = s.times .expired :=
    (times_call _ _ _).trans (List.append_nil _)
  have hcalled : (s.call about).times .called = s.times .called ++ [s.clock] := times_call _ _ _
  have hreleased : (s.call about).times .released = s.times .released :=
    (times_call _ _ _).trans (List.append_nil _)
  constructor
  case past => exact h.past_note .called
  case expired_length =>
    rw [hexpired, hcalled, List.length_append, h.expired_length]
    show _ = _ + 1 + (s.waiting - 1)
    omega
  case called_length =>
    rw [hcalled, hreleased, List.length_append, h.called_length, hfree]
    rfl
  case called =>
    rw [hexpired, hcalled, hreleased]
    intro i t ht
    obtain ht | ⟨rfl, rfl⟩ := eq_of_getElem?_concat ht
    · exact h.called i t ht
    · exact h.next hsomebody hfree
  case next => exact nofun

theorem fail (h : s.Turns) : s.fail.Turns := by
  have hsame : ∀ n, n ≠ Mark.failed → s.fail.times n = s.times n := fun n hn => by
    rw [times_fail, if_neg hn.symm, List.append_nil]
  constructor
  case past => exact h.past_note .failed
  all_goals
    rw [hsame .called (by decide)]
    try rw [hsame .expired (by decide)]
    try rw [hsame .released (by decide)]
  case expired_length => exact h.expired_length
  case called_length => exact h.called_length
  case called => exact h.called
  case next => exact h.next

theorem release (h : s.Turns) (hrunning : s.running.isSome) : s.release.Turns := by
  have hexpired : s.release.times .expired = s.times .expired :=
    (times_release _ _).trans (List.append_nil _)
  have hcalled : s.release.times .called = s.times .called := (times_release _ _).trans (List.append_nil _)
  have hreleased : s.release.times .released = s.times .released ++ [s.clock] := times_release _ _
  have hone : (s.times .called).length = (s.times .released).length + 1 := by
    obtain ⟨c, hc⟩ := Option.isSome_iff_exists.mp hrunning
    rw [h.called_length, hc]
    rfl
  constructor
  case past => exact h.past_note .released
  case expired_length =>
    rw [hexpired, hcalled]
    exact h.expired_length
  case called_length =>
    rw [hcalled, hreleased, List.length_append, hone]
    rfl
  case called =>
    rw [hexpired, hcalled, hreleased]
    intro i t ht
    simpa using turn?_append [] [s.clock] (h.called i t ht)
  case next =>
    rw [hexpired, hcalled, hreleased, hone]
    intro hsomebody _
    -- The timer of the next call has expired before the lock is let go.
    have hlt : (s.times .released).length + 1 < (s.times .expired).length := by
      have hsomebody : 0 < s.waiting := hsomebody
      rw [h.expired_length, hone]
      omega
    exact turn?_concat_released hlt (le_clock_of_mem_times h .expired)

theorem act (h : s.Turns) {a : Step α} (ha : s.allows a) : (s.act a).Turns := by
  cases a with
  | pass moment => exact h.pass ha
  | deliver o =>
    by_cases hheeds : heeds s.target o
    · rw [act_deliver_of_heeds hheeds]
      exact ⟨h.past, h.expired_length, h.called_length, h.called, h.next⟩
    · rwa [act_deliver_of_not hheeds]
  | expire => exact h.expire
  | call about =>
    obtain ⟨hsomebody, hfree⟩ := allows_call_iff.mp ha
    exact h.call hsomebody hfree
  | fail => exact h.fail
  | release => exact h.release ha

theorem after (h : s.Turns) (has : s.admits as) : (s.after as).Turns := by
  induction as generalizing s with
  | nil => exact h
  | cons a as ih =>
    rw [admits, Bool.and_eq_true] at has
    exact ih (h.act has.1) has.2

/-- When nobody waits, every call was made. -/
theorem times_called (h : s.Turns) (hnobody : s.waiting = 0) (i : Nat) :
    (s.times .called)[i]? = turn? (s.times .expired) (s.times .released) i := by
  cases hi : (s.times .called)[i]? with
  | some t => exact (h.called i t hi).symm
  | none =>
    have hlength := h.expired_length
    rw [hnobody, Nat.add_zero] at hlength
    cases hturn : turn? (s.times .expired) (s.times .released) i with
    | none => rfl
    | some t =>
      obtain ⟨e, he, -⟩ := exists_of_turn? hturn
      have hlt := (List.getElem?_eq_some_iff.mp he).1
      rw [hlength] at hlt
      exact absurd hlt (Nat.not_lt.mpr (List.getElem?_eq_none_iff.mp hi))

/-- When nobody waits, each timer that expired has had its call. -/
theorem exists_called (h : s.Turns) (hnobody : s.waiting = 0) {i : Nat} {e : ℚ}
    (he : (s.times .expired)[i]? = some e) : ∃ t ∈ s.times .called, e ≤ t := by
  have hlt := (List.getElem?_eq_some_iff.mp he).1
  rw [h.expired_length, hnobody, Nat.add_zero] at hlt
  obtain ⟨e', he', hle⟩ := exists_of_turn? (h.called i _ (List.getElem?_eq_getElem hlt))
  obtain rfl := Option.some.inj (he.symm.trans he')
  exact ⟨_, List.getElem_mem hlt, hle⟩

/-- Calls that are over before the next timer expires are made when timers expire. -/
theorem times_called_of_over (h : s.Turns) (hnobody : s.waiting = 0)
    (hover : ∀ i r e, (s.times .released)[i]? = some r → (s.times .expired)[i + 1]? = some e → r ≤ e) :
    s.times .called = s.times .expired := by
  have hlength : (s.times .called).length = (s.times .expired).length := by
    rw [h.expired_length, hnobody, Nat.add_zero]
  refine List.ext_getElem hlength fun i hi hi' => ?_
  have hturn := h.called i _ (List.getElem?_eq_getElem hi)
  cases i with
  | zero => exact (List.getElem?_eq_some_iff.mp hturn).2.symm
  | succ i =>
    obtain ⟨e, r, he, hr, hmax⟩ := turn?_succ_eq_some_iff.mp hturn
    rw [← hmax, max_eq_left (hover i r e hr he)]
    exact (List.getElem?_eq_some_iff.mp he).2.symm

end Turns

theorem turns_idle (target : Place) (delay clock : ℚ) : (idle target delay clock : Debouncer α).Turns where
  past := nofun
  expired_length := rfl
  called_length := rfl
  called := nofun
  next := nofun

/-! ## What makes no difference -/

/-- Whether a step makes a difference to later ones. -/
def matters (target : Place) : Step α → Bool
  | .deliver o => heeds target o
  | .fail => false
  | _ => true

/-- A debouncer that has not noted which calls failed. -/
def withoutFailures (s : Debouncer α) : Debouncer α :=
  { s with history := s.history.filter (·.2 ≠ .failed) }

theorem times_withoutFailures (s : Debouncer α) (hm : m ≠ .failed) : s.withoutFailures.times m = s.times m := by
  rw [times, withoutFailures, List.filter_filter, times]
  refine congrArg _ (List.filter_congr fun x _ => ?_)
  by_cases hx : x.2 = m
  · simp [hx, hm]
  · simp [hx]

theorem withoutFailures_note (s : Debouncer α) (hm : m ≠ .failed) :
    (s.note m).withoutFailures = s.withoutFailures.note m := by
  simp [withoutFailures, note, List.filter_append, hm]

theorem act_withoutFailures {a : Step α} (h : matters s.target a) :
    (s.act a).withoutFailures = s.withoutFailures.act a := by
  cases a with
  | pass moment => rfl
  | deliver o =>
    have hheeds : heeds s.withoutFailures.target o := h
    rw [act_deliver_of_heeds h, act_deliver_of_heeds hheeds]
    rfl
  | expire => exact withoutFailures_note _ (by decide)
  | call about => exact withoutFailures_note _ (by decide)
  | fail => cases h
  | release => exact withoutFailures_note _ (by decide)

theorem withoutFailures_act {a : Step α} (h : ¬ matters s.target a) :
    (s.act a).withoutFailures = s.withoutFailures := by
  cases a with
  | deliver o => rw [act_deliver_of_not h]
  | fail =>
    show (s.note .failed).withoutFailures = _
    simp [withoutFailures, note, List.filter_append]
  | _ => exact absurd rfl h

theorem allows_withoutFailures (s : Debouncer α) (a : Step α) : s.withoutFailures.allows a = s.allows a := by
  cases a <;> rfl

/-- Without the events that are not heeded and the failures, the other steps do the same. -/
theorem after_filter_matters (has : s.admits as) :
    s.withoutFailures.admits (as.filter (matters s.target)) ∧
      s.withoutFailures.after (as.filter (matters s.target)) = (s.after as).withoutFailures := by
  induction as generalizing s with
  | nil => exact ⟨rfl, rfl⟩
  | cons a as ih =>
    rw [admits, Bool.and_eq_true] at has
    have hrest := ih has.2
    rw [target_act] at hrest
    by_cases ha : matters s.target a
    · rw [act_withoutFailures ha] at hrest
      rw [List.filter_cons_of_pos ha, admits, allows_withoutFailures, has.1, Bool.true_and]
      exact hrest
    · rw [withoutFailures_act ha] at hrest
      rwa [List.filter_cons_of_neg ha]

end Debouncer

end BlockMarkup
