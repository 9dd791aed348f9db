import BlockMarkup.Watcher.Schedule
import Mathlib.Algebra.Order.Field.Rat
import Mathlib.Tactic.Linarith

/-!
# Bursts

The ends of bursts from one occurrence to the next (`Schedule.burstTimes_cons`): an occurrence that is heeded
ends a burst if there is calm for the delay after it, and what is not heeded makes no difference. Whatever is
heeded belongs to a burst (`Schedule.exists_mem_burstTimes`).
-/

namespace BlockMarkup.Schedule

variable {β : Type} (heeds : β → Bool) (delay : ℚ)

/-- Nothing that is heeded comes before a time. -/
def CalmUntil (s : Schedule β) (t : ℚ) : Prop := ∀ o ∈ s, heeds o.2 → t ≤ o.1

instance (s : Schedule β) : DecidablePred (CalmUntil heeds s) := fun t =>
  inferInstanceAs (Decidable (∀ o ∈ s, heeds o.2 → t ≤ o.1))

variable (o : ℚ × β) (s : Schedule β)

theorem calmUntil_cons_iff {t : ℚ} :
    CalmUntil heeds (o :: s) t ↔ (heeds o.2 → t ≤ o.1) ∧ CalmUntil heeds s t :=
  List.forall_mem_cons

theorem endsBurst_zero_iff :
    EndsBurst heeds delay (o :: s) ⟨0, Nat.succ_pos _⟩ ↔
      heeds o.2 ∧ CalmUntil heeds s (o.1 + delay) := by
  refine and_congr_right fun _ => ?_
  constructor
  · intro h p hp hheeds
    obtain ⟨j, hj, rfl⟩ := List.getElem_of_mem hp
    exact not_lt.mp (h ⟨j + 1, Nat.succ_lt_succ hj⟩ (Fin.mk_lt_mk.mpr (Nat.succ_pos j)) hheeds)
  · rintro h ⟨j, hj⟩ hlt hheeds
    cases j with
    | zero => exact absurd hlt (lt_irrefl _)
    | succ j => exact not_lt.mpr (h _ (List.getElem_mem (Nat.lt_of_succ_lt_succ hj)) hheeds)

theorem endsBurst_succ_iff (k : Fin s.length) :
    EndsBurst heeds delay (o :: s) k.succ ↔ EndsBurst heeds delay s k := by
  refine and_congr_right fun _ => ?_
  constructor
  · intro h j hlt hheeds
    exact h j.succ (Fin.succ_lt_succ_iff.mpr hlt) hheeds
  · rintro h ⟨j, hj⟩ hlt hheeds
    cases j with
    | zero => exact absurd hlt (Nat.not_lt_zero _)
    | succ j => exact h ⟨j, Nat.lt_of_succ_lt_succ hj⟩ (Nat.lt_of_succ_lt_succ hlt) hheeds

theorem burstTimes_cons :
    burstTimes heeds delay (o :: s) =
      (if heeds o.2 ∧ CalmUntil heeds s (o.1 + delay) then [o.1 + delay] else []) ++
        burstTimes heeds delay s := by
  have hplaces : List.finRange (o :: s).length =
      ⟨0, Nat.succ_pos _⟩ :: (List.finRange s.length).map Fin.succ := List.finRange_succ
  have hrest : (((List.finRange s.length).map Fin.succ).filter
      (fun k => decide (EndsBurst heeds delay (o :: s) k))).map (fun k => (o :: s)[k].1 + delay) =
        burstTimes heeds delay s := by
    rw [List.filter_map, List.map_map, burstTimes]
    congr 1
    exact List.filter_congr fun k _ => decide_eq_decide.mpr (endsBurst_succ_iff heeds delay o s k)
  rw [burstTimes, hplaces, List.filter_cons]
  by_cases hends : EndsBurst heeds delay (o :: s) ⟨0, Nat.succ_pos _⟩
  · rw [if_pos (decide_eq_true hends), if_pos ((endsBurst_zero_iff heeds delay o s).mp hends),
      List.map_cons, hrest]
    rfl
  · rw [if_neg (mt of_decide_eq_true hends), if_neg (mt (endsBurst_zero_iff heeds delay o s).mpr hends),
      hrest]
    rfl

variable {heeds delay o s}

theorem burstTimes_cons_of_not (h : ¬ heeds o.2) :
    burstTimes heeds delay (o :: s) = burstTimes heeds delay s := by
  rw [burstTimes_cons, if_neg fun hends => h hends.1]
  rfl

/-- A timer that is set for the end of the delay expires in calm. -/
theorem burstTimes_cons_of_heeds (h : heeds o.2) :
    burstTimes heeds delay (o :: s) =
      ((some (o.1 + delay)).filter (CalmUntil heeds s)).toList ++ burstTimes heeds delay s := by
  rw [burstTimes_cons]
  by_cases hcalm : CalmUntil heeds s (o.1 + delay) <;> simp [h, hcalm, Option.filter_some]

theorem exists_of_mem_burstTimes {t : ℚ} (h : t ∈ burstTimes heeds delay s) :
    ∃ o ∈ s, heeds o.2 ∧ o.1 + delay = t := by
  obtain ⟨k, hk, rfl⟩ := List.mem_map.mp h
  have hends := of_decide_eq_true (List.mem_filter.mp hk).2
  exact ⟨s[k], List.getElem_mem k.2, hends.1, rfl⟩

/-- Between the ends of two bursts is at least the delay. -/
theorem pairwise_burstTimes (s : Schedule β) :
    (burstTimes heeds delay s).Pairwise (· + delay ≤ ·) := by
  induction s with
  | nil => exact List.Pairwise.nil
  | cons o s ih =>
    rw [burstTimes_cons]
    split
    · next hends =>
      refine List.pairwise_cons.mpr ⟨fun t ht => ?_, ih⟩
      obtain ⟨p, hp, hheeds, rfl⟩ := exists_of_mem_burstTimes ht
      have hcalm := hends.2 p hp hheeds
      linarith
    · exact ih

/-- Whatever is heeded belongs to a burst. -/
theorem exists_mem_burstTimes (hs : s.InOrder) (ho : o ∈ s) (hheeds : heeds o.2) :
    ∃ t ∈ burstTimes heeds delay s, o.1 + delay ≤ t := by
  induction s generalizing o with
  | nil => cases ho
  | cons p s ih =>
    obtain ⟨hp, hs⟩ := List.pairwise_cons.mp hs
    rw [burstTimes_cons]
    have hlater : ∀ q ∈ s, heeds q.2 →
        ∃ t ∈ (if heeds p.2 ∧ CalmUntil heeds s (p.1 + delay) then [p.1 + delay] else []) ++
          burstTimes heeds delay s, q.1 + delay ≤ t := by
      intro q hq hheeds
      obtain ⟨t, ht, hle⟩ := ih hs hq hheeds
      exact ⟨t, List.mem_append_right _ ht, hle⟩
    rcases List.mem_cons.mp ho with rfl | ho
    · by_cases hcalm : CalmUntil heeds s (o.1 + delay)
      · rw [if_pos ⟨hheeds, hcalm⟩]
        exact ⟨_, List.mem_cons_self, le_rfl⟩
      · simp only [CalmUntil, not_forall, not_le] at hcalm
        obtain ⟨q, hq, hnext, -⟩ := hcalm
        obtain ⟨t, ht, hle⟩ := hlater q hq hnext
        have hlast := hp q hq
        exact ⟨t, ht, by linarith⟩
    · exact hlater o ho hheeds

end BlockMarkup.Schedule
