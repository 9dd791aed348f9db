import BlockMarkup.Proofs.Watcher.Debouncer

/-!
# Runs on every schedule

Whatever happens next happens at some moment, and time may pass until then (`Debouncer.exists_next`). So time
passes to every moment (`Debouncer.exists_pass`), and in the end nothing is left to do (`Debouncer.exists_end`).
This makes a run on any schedule, however long each call lasts (`Debouncer.exists_run`).
-/

namespace BlockMarkup.Debouncer

variable {α : Type} {s : Debouncer α} {as : List (Step α)} {moment : ℚ} {lasts : Nat → ℚ}

/-- Each call lasts as long as it should; the one that runs is not late. -/
structure Paced (lasts : Nat → ℚ) (s : Debouncer α) : Prop where
  ended : ∀ n t, (s.times .released)[n]? = some t →
    ∃ c, (s.times .called)[n]? = some c ∧ t = c + lasts n
  running : ∀ c, s.running = some c →
    (s.times .called)[(s.times .released).length]? = some c.1 ∧
      s.clock ≤ c.1 + lasts (s.times .released).length

/-- A debouncer in the course of a run. -/
structure Ready (lasts : Nat → ℚ) (s : Debouncer α) : Prop where
  delay_nonneg : 0 ≤ s.delay
  punctual : s.Punctual
  turns : s.Turns
  paced : s.Paced lasts

/-- What is left to do: each timer that expires leaves a call to make, and each call an end. -/
def toDo (s : Debouncer α) : Nat := 3 * s.due.toList.length + 2 * s.waiting + s.running.toList.length

/-- No call is asked for, and none runs. -/
def Over (s : Debouncer α) : Prop := s.due = none ∧ s.waiting = 0 ∧ s.running = none

theorem busy_of_not (h : ¬ (0 < s.waiting ∧ s.running = none)) : s.waiting = 0 ∨ s.running.isSome := by
  rw [Option.isSome_iff_ne_none]
  by_contra hnot
  rw [not_or, not_not] at hnot
  exact h ⟨Nat.pos_of_ne_zero hnot.1, hnot.2⟩

theorem toDo_call_lt {about : α} (hsomebody : 0 < s.waiting) (hfree : s.running = none) :
    (s.call about).toDo < s.toDo := by
  show 3 * s.due.toList.length + 2 * (s.waiting - 1) + 1 < s.toDo
  rw [toDo, hfree]
  simp only [Option.toList_none, List.length_nil]
  omega

theorem toDo_expire_lt {t : ℚ} (hdue : s.due = some t) : s.expire.toDo < s.toDo := by
  show 3 * 0 + 2 * (s.waiting + 1) + s.running.toList.length < s.toDo
  rw [toDo, hdue, Option.toList_some, List.length_singleton]
  omega

theorem toDo_release_lt {c : ℚ × α} (hc : s.running = some c) : s.release.toDo < s.toDo := by
  show 3 * s.due.toList.length + 2 * s.waiting + 0 < s.toDo
  rw [toDo, hc, Option.toList_some, List.length_singleton]
  omega

namespace Ready

theorem idle (target : Place) {delay : ℚ} (hdelay : 0 ≤ delay) (clock : ℚ) :
    (idle target delay clock : Debouncer α).Ready lasts :=
  ⟨hdelay, nofun, turns_idle target delay clock, ⟨nofun, nofun⟩⟩

theorem deliver (h : s.Ready lasts) (o : Delivery) : (s.act (.deliver o)).Ready lasts := by
  have hpunctual := h.punctual.deliver h.delay_nonneg o
  by_cases hheeds : heeds s.target o
  · rw [act_deliver_of_heeds hheeds] at hpunctual ⊢
    exact ⟨h.delay_nonneg, hpunctual, ⟨h.turns.past, h.turns.expired_length, h.turns.called_length,
      h.turns.called, h.turns.next⟩, ⟨h.paced.ended, h.paced.running⟩⟩
  · rwa [act_deliver_of_not hheeds]

theorem pass (h : s.Ready lasts) (hm : s.mayPass moment)
    (hrunning : ∀ c, s.running = some c → moment ≤ c.1 + lasts (s.times .released).length) :
    (s.pass moment).Ready lasts :=
  ⟨h.delay_nonneg, (mayPass_iff.mp hm).2.1, h.turns.pass hm,
    ⟨h.paced.ended, fun c hc => ⟨(h.paced.running c hc).1, hrunning c hc⟩⟩⟩

theorem expire (h : s.Ready lasts) : s.expire.Ready lasts := by
  have hcalled : s.expire.times .called = s.times .called := (times_expire _ _).trans (List.append_nil _)
  have hreleased : s.expire.times .released = s.times .released :=
    (times_expire _ _).trans (List.append_nil _)
  refine ⟨h.delay_nonneg, nofun, h.turns.expire, ?_, ?_⟩
  · rw [hcalled, hreleased]
    exact h.paced.ended
  · rw [hcalled, hreleased]
    exact h.paced.running

theorem call (h : s.Ready lasts) (hlasts : ∀ n, 0 ≤ lasts n) {about : α} (hsomebody : 0 < s.waiting)
    (hfree : s.running = none) : (s.call about).Ready lasts := by
  have hcalled : (s.call about).times .called = s.times .called ++ [s.clock] := times_call _ _ _
  have hreleased : (s.call about).times .released = s.times .released :=
    (times_call _ _ _).trans (List.append_nil _)
  have hlength : (s.times .called).length = (s.times .released).length := by
    rw [h.turns.called_length, hfree]
    rfl
  refine ⟨h.delay_nonneg, h.punctual, h.turns.call hsomebody hfree, ?_, ?_⟩
  · rw [hcalled, hreleased]
    intro n t ht
    obtain ⟨c, hc, rfl⟩ := h.paced.ended n t ht
    exact ⟨c, (List.getElem?_append_left (List.getElem?_eq_some_iff.mp hc).1).trans hc, rfl⟩
  · rw [hcalled, hreleased, ← hlength]
    rintro c ⟨⟩
    exact ⟨List.getElem?_concat_length, le_add_of_nonneg_right (hlasts _)⟩

theorem release (h : s.Ready lasts) {c : ℚ × α} (hc : s.running = some c)
    (hend : s.clock = c.1 + lasts (s.times .released).length) : s.release.Ready lasts := by
  have hcalled : s.release.times .called = s.times .called := (times_release _ _).trans (List.append_nil _)
  have hreleased : s.release.times .released = s.times .released ++ [s.clock] := times_release _ _
  refine ⟨h.delay_nonneg, h.punctual, h.turns.release (by rw [hc]; rfl), ?_, nofun⟩
  rw [hcalled, hreleased]
  intro n t ht
  obtain ht | ⟨rfl, rfl⟩ := eq_of_getElem?_concat ht
  · exact h.paced.ended n t ht
  · exact ⟨c.1, (h.paced.running c hc).1, hend⟩

end Ready

/-- What happens next and when, unless an event comes first. -/
structure Next (lasts : Nat → ℚ) (s : Debouncer α) (t : ℚ) (a : Step α) : Prop where
  le : s.clock ≤ t
  mayPass : ∀ m, s.clock ≤ m → m ≤ t → s.mayPass m ∧ (s.pass m).Ready lasts
  allows : (s.pass t).allows a
  ready : ((s.pass t).act a).Ready lasts
  fewer : ((s.pass t).act a).toDo < s.toDo
  undelivered : ∀ o, a ≠ .deliver o
  due : ∀ m, t ≤ m → ((s.pass t).act a).due.filter (m < ·) = s.due.filter (m < ·)
  later : ∀ u, s.due = some u → t ≤ u
  clock_eq : ((s.pass t).act a).clock = t

/-- A call that is asked for is made when the lock is free. -/
theorem next_call (h : s.Ready lasts) (hlasts : ∀ n, 0 ≤ lasts n) (about : α) (hsomebody : 0 < s.waiting)
    (hfree : s.running = none) : s.Next lasts s.clock (.call about) where
  le := le_rfl
  mayPass := by
    intro m hle hge
    obtain rfl := le_antisymm hge hle
    have hm : s.mayPass s.clock := mayPass_iff.mpr ⟨le_rfl, h.punctual, .inr (.inr rfl)⟩
    refine ⟨hm, h.pass hm ?_⟩
    rw [hfree]
    nofun
  allows := allows_call_iff.mpr ⟨hsomebody, hfree⟩
  ready := h.call hlasts hsomebody hfree
  fewer := toDo_call_lt hsomebody hfree
  undelivered := nofun
  due := fun _ _ => rfl
  later := h.punctual
  clock_eq := rfl

/-- The timer expires, unless the call that runs is over before. -/
theorem next_expire (h : s.Ready lasts) {u : ℚ} (hu : s.due = some u)
    (hbusy : s.waiting = 0 ∨ s.running.isSome)
    (hrunning : ∀ c, s.running = some c → u ≤ c.1 + lasts (s.times .released).length) :
    s.Next lasts u .expire := by
  have hpass : ∀ m, s.clock ≤ m → m ≤ u → s.mayPass m ∧ (s.pass m).Ready lasts := by
    intro m hle hge
    have hm : s.mayPass m := by
      refine mayPass_iff.mpr ⟨hle, ?_, hbusy.imp id .inl⟩
      rintro t ht
      obtain rfl := Option.some.inj (hu.symm.trans ht)
      exact hge
    exact ⟨hm, h.pass hm fun c hc => hge.trans (hrunning c hc)⟩
  have hle := h.punctual u hu
  refine ⟨hle, hpass, isDue_iff.mpr hu, (hpass u hle le_rfl).2.expire,
    toDo_expire_lt hu, nofun, ?_, ?_, rfl⟩
  · intro m hm
    rw [hu, Option.filter_some_neg (by simpa using hm)]
    rfl
  · intro t ht
    exact (Option.some.inj (hu.symm.trans ht)).le

/-- The call that runs is over, unless the timer expires before. -/
theorem next_release (h : s.Ready lasts) {c : ℚ × α} (hc : s.running = some c)
    (hdue : ∀ u, s.due = some u → c.1 + lasts (s.times .released).length ≤ u) :
    s.Next lasts (c.1 + lasts (s.times .released).length) .release := by
  have hpass : ∀ m, s.clock ≤ m → m ≤ c.1 + lasts (s.times .released).length →
      s.mayPass m ∧ (s.pass m).Ready lasts := by
    intro m hle hge
    have hm : s.mayPass m :=
      mayPass_iff.mpr ⟨hle, fun u hu => hge.trans (hdue u hu), .inr (.inl (by rw [hc]; rfl))⟩
    refine ⟨hm, h.pass hm fun c' hc' => ?_⟩
    obtain rfl := Option.some.inj (hc.symm.trans hc')
    exact hge
  have hle := (h.paced.running c hc).2
  refine ⟨hle, hpass, ?_, (hpass _ hle le_rfl).2.release hc rfl, toDo_release_lt hc, nofun,
    fun _ _ => rfl, hdue, rfl⟩
  show s.running.isSome
  rw [hc]
  rfl

theorem exists_next [Inhabited α] (h : s.Ready lasts) (hlasts : ∀ n, 0 ≤ lasts n) (hs : ¬ s.Over) :
    ∃ t a, s.Next lasts t a := by
  by_cases hfree : 0 < s.waiting ∧ s.running = none
  · exact ⟨_, _, next_call h hlasts default hfree.1 hfree.2⟩
  · have hbusy := busy_of_not hfree
    cases hc : s.running with
    | none =>
      cases hu : s.due with
      | none =>
        have hnobody : s.waiting = 0 := hbusy.resolve_right (by simp [hc])
        exact absurd ⟨hu, hnobody, hc⟩ hs
      | some u => exact ⟨_, _, next_expire h hu hbusy (by simp [hc])⟩
    | some c =>
      by_cases hdue : ∀ u, s.due = some u → c.1 + lasts (s.times .released).length ≤ u
      · exact ⟨_, _, next_release h hc hdue⟩
      · simp only [not_forall, not_le] at hdue
        obtain ⟨u, hu, hlt⟩ := hdue
        refine ⟨_, _, next_expire h hu hbusy fun c' hc' => ?_⟩
        obtain rfl := Option.some.inj (hc.symm.trans hc')
        exact hlt.le

/-! ## Runs -/

theorem after_append (s : Debouncer α) (as bs : List (Step α)) :
    s.after (as ++ bs) = (s.after as).after bs := List.foldl_append

theorem admits_append (s : Debouncer α) (as bs : List (Step α)) :
    s.admits (as ++ bs) = (s.admits as && (s.after as).admits bs) := by
  induction as generalizing s with
  | nil => rfl
  | cons a as ih =>
    rw [List.cons_append, admits, admits, ih, Bool.and_assoc]
    rfl

theorem deliveries_append (s : Debouncer α) (as bs : List (Step α)) :
    s.deliveries (as ++ bs) = s.deliveries as ++ (s.after as).deliveries bs := by
  induction as generalizing s with
  | nil => rfl
  | cons a as ih =>
    cases a with
    | deliver o => exact congrArg ((s.clock, o) :: ·) (ih _)
    | _ => exact ih _

/-- What happens next, and then a run without events. -/
theorem Next.run {t : ℚ} {a : Step α} (h : s.Next lasts t a)
    (has : ((s.pass t).act a).admits as) (hnone : ((s.pass t).act a).deliveries as = []) :
    s.admits (.pass t :: a :: as) ∧ s.deliveries (.pass t :: a :: as) = [] := by
  refine ⟨?_, ?_⟩
  · rw [admits, admits, Bool.and_eq_true, Bool.and_eq_true]
    exact ⟨(h.mayPass t h.le le_rfl).1, h.allows, has⟩
  · cases a with
    | deliver o => exact absurd rfl (h.undelivered o)
    | _ => exact hnone

/-- Time passes to any moment. -/
theorem exists_pass [Inhabited α] (h : s.Ready lasts) (hlasts : ∀ n, 0 ≤ lasts n) (hm : s.clock ≤ moment) :
    ∃ as, s.admits as ∧ s.deliveries as = [] ∧ (s.after as).Ready lasts ∧ (s.after as).clock = moment ∧
      (s.after as).due = s.due.filter (moment < ·) := by
  induction hn : s.toDo using Nat.strong_induction_on generalizing s with
  | _ n ih =>
    by_cases hover : s.Over
    · have hpass : s.mayPass moment := mayPass_iff.mpr ⟨hm, by simp [hover.1], .inl hover.2.1⟩
      refine ⟨[.pass moment], ?_, rfl, h.pass hpass (by simp [hover.2.2]), rfl, ?_⟩
      · rw [admits, admits, Bool.and_true]
        exact hpass
      · rw [hover.1]
        exact hover.1
    · obtain ⟨t, a, hnext⟩ := exists_next h hlasts hover
      rcases le_or_gt t moment with hle | hlt
      · obtain ⟨as, has, hnone, hready, hclock, hdue⟩ :=
          ih _ (hn ▸ hnext.fewer) hnext.ready (hnext.clock_eq.trans_le hle) rfl
        obtain ⟨hadmits, hdeliveries⟩ := hnext.run has hnone
        exact ⟨_, hadmits, hdeliveries, hready, hclock, hdue.trans (hnext.due moment hle)⟩
      · obtain ⟨hpass, hready⟩ := hnext.mayPass moment hm hlt.le
        refine ⟨[.pass moment], ?_, rfl, hready, rfl, ?_⟩
        · rw [admits, admits, Bool.and_true]
          exact hpass
        · show s.due = _
          cases hu : s.due with
          | none => rfl
          | some u =>
            have hafter : moment < u := hlt.trans_le (hnext.later u hu)
            rw [Option.filter_some, if_pos (decide_eq_true hafter)]

/-- In the end nothing is left to do. -/
theorem exists_end [Inhabited α] (h : s.Ready lasts) (hlasts : ∀ n, 0 ≤ lasts n) :
    ∃ as, s.admits as ∧ s.deliveries as = [] ∧ (s.after as).Ready lasts ∧ (s.after as).Over := by
  induction hn : s.toDo using Nat.strong_induction_on generalizing s with
  | _ n ih =>
    by_cases hover : s.Over
    · exact ⟨[], rfl, rfl, h, hover⟩
    · obtain ⟨t, a, hnext⟩ := exists_next h hlasts hover
      obtain ⟨as, has, hnone, hready, hend⟩ := ih _ (hn ▸ hnext.fewer) hnext.ready rfl
      obtain ⟨hadmits, hdeliveries⟩ := hnext.run has hnone
      exact ⟨_, hadmits, hdeliveries, hready, hend⟩

/-- On every schedule there is a run to an end, however long the calls last. -/
theorem exists_run [Inhabited α] (h : s.Ready lasts) (hlasts : ∀ n, 0 ≤ lasts n) {σ : Schedule Delivery}
    (horder : σ.InOrder) (hclock : ∀ o ∈ σ, s.clock ≤ o.1) :
    ∃ as, s.admits as ∧ s.deliveries as = σ ∧ (s.after as).Ready lasts ∧ (s.after as).Over := by
  induction σ generalizing s with
  | nil => exact exists_end h hlasts
  | cons o σ ih =>
    obtain ⟨hfirst, hrest⟩ := List.pairwise_cons.mp horder
    obtain ⟨before, hbefore, hnone, hready, hnow, hdue⟩ :=
      exists_pass h hlasts (hclock o List.mem_cons_self)
    have hallows : (s.after before).allows (.deliver o.2) := by
      have hfree : ¬ (s.after before).isDue := by
        rw [isDue_iff, hdue, hnow]
        intro hfilter
        have hlt := (Option.filter_eq_some_iff.mp hfilter).2
        simp at hlt
      simp [allows, hfree]
    have hstill : ((s.after before).act (.deliver o.2)).clock = o.1 := (clock_deliver _ _).trans hnow
    obtain ⟨as, has, hdeliveries, hready', hover⟩ := ih (hready.deliver o.2) hrest
      (fun p hp => hstill.trans_le (hfirst p hp))
    refine ⟨before ++ .deliver o.2 :: as, ?_, ?_, ?_, ?_⟩
    · rw [admits_append, hbefore, admits, hallows, has]
      rfl
    · rw [deliveries_append, hnone]
      show ((s.after before).clock, o.2) :: _ = _
      rw [hnow, hdeliveries]
    · rw [after_append]
      exact hready'
    · rw [after_append]
      exact hover

end BlockMarkup.Debouncer
