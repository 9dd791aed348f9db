import BlockMarkup.Proofs.Watcher.Basic
import Mathlib.Data.List.Basic

/-!
# The lock

In every run one render holds the lock at most, and while one does, what the watcher says it has
read is what that render has read (`Threads.Locked`). So no render reads while another one has read
and not yet written.
-/

namespace BlockMarkup

open Text

namespace Threads

/-- Whether a render holds the lock. -/
def holds (s : Threads) (i : Nat) : Bool := s.renders[i]?.any Stage.holdsLock

variable {s s' : Threads} {i : Nat}

theorem act_deliver {e : FileEvent} (h : s.allows (.deliver e)) :
    s.act (.deliver e) =
      { s with
        watcher := { s.watcher with
          handler := s.watcher.handler.deliver s.watcher.disk.resolve? e }.add [.delivered e]
        edited := false } := by
  rw [act, s.watcher.deliver_of_concerns h]

theorem holds_of_rendering {content : Except FileError Text}
    (h : s.renders[i]? = some (.rendering content)) : s.holds i := by
  rw [holds, h]
  rfl

theorem exists_rendering (h : s.allows (.finish i)) :
    ∃ content, s.renders[i]? = some (.rendering content) := by
  obtain ⟨st, hst, hrendering⟩ := (Option.any_eq_true _ _).mp h
  cases st with
  | rendering content => exact ⟨content, hst⟩
  | _ => cases hrendering

theorem allows_take_iff :
    s.allows (.take i) ↔ s.renders[i]? = some .waiting ∧ s.watcher.handler.running = none := by
  rw [allows, Bool.and_eq_true, beq_iff_eq, Option.isNone_iff_eq_none]

theorem allows_release_iff : s.allows (.release i) ↔ s.renders[i]? = some .rendered := by
  rw [allows, beq_iff_eq]

theorem getElem?_set_of_some {old st : Stage} (h : s.renders[i]? = some old) (j : Nat) :
    (s.renders.set i st)[j]? = if i = j then some st else s.renders[j]? := by
  rw [List.getElem?_set, if_pos (List.getElem?_eq_some_iff.mp h).1]

theorem holds_set {old st : Stage} (h : s.renders[i]? = some old)
    (hs' : s'.renders = s.renders.set i st) (j : Nat) :
    s'.holds j = if i = j then st.holdsLock else s.holds j := by
  rw [holds, hs', getElem?_set_of_some h]
  split <;> rfl

theorem count_set_of_waiting {st : Stage} (h : s.renders[i]? = some .waiting)
    (hst : st ≠ .waiting) :
    (s.renders.set i st).count .waiting = s.renders.count .waiting - 1 := by
  obtain ⟨hlt, hget⟩ := List.getElem?_eq_some_iff.mp h
  rw [List.count_set hlt, hget, if_pos (beq_self_eq_true _), if_neg (by simpa using hst)]
  rfl

theorem count_set_of_ne {old st : Stage} (h : s.renders[i]? = some old) (hold : old ≠ .waiting)
    (hst : st ≠ .waiting) : (s.renders.set i st).count .waiting = s.renders.count .waiting := by
  obtain ⟨hlt, hget⟩ := List.getElem?_eq_some_iff.mp h
  rw [List.count_set hlt, hget, if_neg (by simpa using hold), if_neg (by simpa using hst)]
  rfl

/-- One render holds the lock at most, and the watcher has what that one has read. -/
structure Locked (s : Threads) : Prop where
  waiting : s.watcher.handler.waiting = s.renders.count .waiting
  busy : ∀ i, s.holds i → s.watcher.handler.running.isSome
  exclusive : ∀ i j, s.holds i → s.holds j → i = j
  pending : ∀ (i : Nat) (content : Except FileError Text),
    s.renders[i]? = some (.rendering content) →
      ∃ since, s.watcher.handler.running = some (since, content)

namespace Locked

theorem of_same (h : s.Locked) (hrenders : s'.renders = s.renders)
    (hwaiting : s'.watcher.handler.waiting = s.watcher.handler.waiting)
    (hrunning : s'.watcher.handler.running = s.watcher.handler.running) : s'.Locked := by
  have hholds : ∀ i, s'.holds i = s.holds i := by
    intro i
    rw [holds, holds, hrenders]
  constructor
  case waiting => rw [hwaiting, hrenders, h.waiting]
  case busy =>
    intro i hi
    rw [hrunning]
    exact h.busy i (hholds i ▸ hi)
  case exclusive =>
    intro i j hi hj
    exact h.exclusive i j (hholds i ▸ hi) (hholds j ▸ hj)
  case pending =>
    intro i content hi
    rw [hrunning]
    exact h.pending i content (hrenders ▸ hi)

theorem expire (h : s.Locked) : (s.act .expire).Locked := by
  have hholds : ∀ i, (s.act .expire).holds i → s.holds i := by
    intro i hi
    obtain ⟨st, hst, hlock⟩ := (Option.any_eq_true _ _).mp hi
    obtain hst | ⟨-, rfl⟩ := eq_of_getElem?_concat hst
    · rwa [holds, hst]
    · cases hlock
  constructor
  case waiting =>
    show s.watcher.handler.waiting + 1 = (s.renders ++ [Stage.waiting]).count .waiting
    rw [List.count_append, h.waiting, List.count_singleton_self]
  case busy => exact fun i hi => h.busy i (hholds i hi)
  case exclusive => exact fun i j hi hj => h.exclusive i j (hholds i hi) (hholds j hj)
  case pending =>
    intro i content hi
    obtain hi | ⟨-, hwaiting⟩ := eq_of_getElem?_concat hi
    · exact h.pending i content hi
    · cases hwaiting

/-- Nobody holds the lock while it is free. -/
theorem free (h : s.Locked) (hfree : s.watcher.handler.running = none) (i : Nat) : s.holds i = false := by
  by_contra hi
  have hbusy := h.busy i (by simpa using hi)
  rw [hfree] at hbusy
  cases hbusy

theorem take (h : s.Locked) (hi : s.renders[i]? = some .waiting)
    (hfree : s.watcher.handler.running = none) : (s.act (.take i)).Locked := by
  have hholds : ∀ j, (s.act (.take i)).holds j → i = j := by
    intro j hj
    rw [holds_set hi rfl] at hj
    by_contra hne
    rw [if_neg hne, h.free hfree] at hj
    cases hj
  constructor
  case waiting =>
    show s.watcher.handler.waiting - 1 = (s.renders.set i _).count .waiting
    rw [count_set_of_waiting hi (by simp), h.waiting]
  case busy => exact fun _ _ => rfl
  case exclusive => exact fun j k hj hk => (hholds j hj).symm.trans (hholds k hk)
  case pending =>
    intro j content hj
    have hij := hholds j (holds_of_rendering hj)
    have hset : (s.renders.set i (.rendering s.watcher.readSource))[j]? =
        some (.rendering content) := hj
    rw [getElem?_set_of_some hi, if_pos hij] at hset
    obtain rfl := Stage.rendering.inj (Option.some.inj hset)
    exact ⟨s.watcher.handler.clock, rfl⟩

theorem finish {content : Except FileError Text} (h : s.Locked)
    (hi : s.renders[i]? = some (.rendering content)) : (s.act (.finish i)).Locked := by
  have hholds : ∀ j, (s.act (.finish i)).holds j → s.holds j := by
    intro j hj
    rw [holds_set hi rfl] at hj
    split at hj
    · next hij => exact hij ▸ holds_of_rendering hi
    · exact hj
  constructor
  case waiting =>
    show s.watcher.finish.handler.waiting = (s.renders.set i .rendered).count .waiting
    rw [count_set_of_ne hi (by simp) (by simp), s.watcher.waiting_finish, h.waiting]
  case busy =>
    intro j hj
    show s.watcher.finish.handler.running.isSome
    rw [s.watcher.running_finish]
    exact h.busy j (hholds j hj)
  case exclusive => exact fun j k hj hk => h.exclusive j k (hholds j hj) (hholds k hk)
  case pending =>
    intro j content' hj
    have hset : (s.renders.set i .rendered)[j]? = some (.rendering content') := hj
    rw [getElem?_set_of_some hi] at hset
    split at hset
    · cases hset
    · obtain ⟨since, hrunning⟩ := h.pending j content' hset
      exact ⟨since, s.watcher.running_finish.trans hrunning⟩

theorem release (h : s.Locked) (hi : s.renders[i]? = some .rendered) :
    (s.act (.release i)).Locked := by
  have hself : s.holds i := by
    rw [holds, hi]
    rfl
  have hnone : ∀ j, (s.act (.release i)).holds j = false := by
    intro j
    rw [holds_set hi rfl]
    split
    · rfl
    · next hne =>
      by_contra hj
      exact hne (h.exclusive i j hself (by simpa using hj))
  constructor
  case waiting =>
    show s.watcher.handler.waiting = (s.renders.set i .released).count .waiting
    rw [count_set_of_ne hi (by simp) (by simp), h.waiting]
  case busy =>
    intro j hj
    rw [hnone j] at hj
    cases hj
  case exclusive =>
    intro j k hj
    rw [hnone j] at hj
    cases hj
  case pending =>
    intro j content hj
    have hholds := holds_of_rendering hj
    rw [hnone j] at hholds
    cases hholds

theorem act (h : s.Locked) {a : Action} (ha : s.allows a) : (s.act a).Locked := by
  cases a with
  | pass moment => exact h.of_same rfl rfl rfl
  | edit files => exact h.of_same rfl rfl rfl
  | deliver e =>
    rw [act_deliver ha, s.watcher.handler.deliver_frame]
    exact h.of_same rfl rfl rfl
  | expire => exact h.expire
  | take i =>
    obtain ⟨hi, hfree⟩ := allows_take_iff.mp ha
    exact h.take hi hfree
  | finish i =>
    obtain ⟨content, hi⟩ := exists_rendering ha
    exact h.finish hi
  | release i => exact h.release (allows_release_iff.mp ha)

end Locked

end Threads

end BlockMarkup
