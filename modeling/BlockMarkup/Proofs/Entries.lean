import BlockMarkup.Entries

/-!
# Lookups after an entry was put

The key that was put has its new value, every other key the one it had, and no further entry appears.
A key that was not there goes to the end with its value.
-/

namespace BlockMarkup.Entries

variable {α : Type} {key k : Text} {v : α}

theorem lookup_put_self (es : List (Text × α)) : (put key v es).lookup key = some v := by
  induction es with
  | nil => exact List.lookup_cons_self
  | cons e es ih =>
    obtain ⟨k, x⟩ := e
    by_cases he : k = key
    · rw [put, if_pos he]
      exact List.lookup_cons_self
    · rw [put, if_neg he, List.lookup_cons, beq_eq_false_iff_ne.mpr (Ne.symm he)]
      exact ih

theorem lookup_put_of_ne (hne : k ≠ key) (es : List (Text × α)) :
    (put key v es).lookup k = es.lookup k := by
  induction es with
  | nil => rw [put, List.lookup_cons, beq_eq_false_iff_ne.mpr hne]
  | cons e es ih =>
    obtain ⟨j, x⟩ := e
    by_cases he : j = key
    · subst he
      rw [put, if_pos rfl, List.lookup_cons, List.lookup_cons, beq_eq_false_iff_ne.mpr hne]
    · rw [put, if_neg he, List.lookup_cons, List.lookup_cons, ih]

theorem mem_put {es : List (Text × α)} {e : Text × α} (h : e ∈ put key v es) :
    e = (key, v) ∨ e ∈ es := by
  induction es with
  | nil => exact .inl (List.mem_singleton.mp h)
  | cons d es ih =>
    rw [put] at h
    split at h
    · exact (List.mem_cons.mp h).imp_right (List.mem_cons_of_mem _)
    · rcases List.mem_cons.mp h with rfl | h
      · exact .inr List.mem_cons_self
      · exact (ih h).imp_right (List.mem_cons_of_mem _)

theorem put_of_notMem {es : List (Text × α)} (h : key ∉ keys es) : put key v es = es ++ [(key, v)] := by
  induction es with
  | nil => rfl
  | cons e es ih =>
    obtain ⟨he, hes⟩ := not_or.mp (mt List.mem_cons.mpr h)
    rw [put, if_neg (Ne.symm he), ih hes, List.cons_append]

end BlockMarkup.Entries
