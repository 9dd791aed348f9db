import BlockMarkup.Text.Basic

/-!
# Entries

Keys with values, in the order in which the keys first came. Giving a key a new value changes neither
its place nor the places of others (`keys_put_of_mem`); a new key goes to the end
(`keys_put_of_notMem`).
-/

namespace BlockMarkup.Entries

variable {α : Type}

def keys (es : List (Text × α)) : List Text := es.map Prod.fst

/-- Gives a key its value, in place or at the end. -/
def put (key : Text) (v : α) : List (Text × α) → List (Text × α)
  | [] => [(key, v)]
  | e :: es => if e.1 = key then (key, v) :: es else e :: put key v es

/-- The entries without those of one key. -/
def erase (key : Text) (es : List (Text × α)) : List (Text × α) := es.filter (·.1 ≠ key)

theorem keys_put_of_mem {key : Text} (v : α) {es : List (Text × α)} (h : key ∈ keys es) :
    keys (put key v es) = keys es := by
  induction es with
  | nil => simp [keys] at h
  | cons e es ih =>
    by_cases he : e.1 = key
    · simp [put, keys, he]
    · have : key ∈ keys es := (List.mem_cons.mp h).resolve_left (Ne.symm he)
      simpa [put, keys, he] using ih this

theorem keys_put_of_notMem {key : Text} (v : α) {es : List (Text × α)} (h : key ∉ keys es) :
    keys (put key v es) = keys es ++ [key] := by
  induction es with
  | nil => rfl
  | cons e es ih =>
    simp only [keys, List.map_cons, List.mem_cons, not_or] at h
    simpa [put, keys, Ne.symm h.1] using ih h.2

theorem nodup_keys_put (key : Text) (v : α) {es : List (Text × α)} (h : (keys es).Nodup) :
    (keys (put key v es)).Nodup := by
  by_cases hk : key ∈ keys es
  · rw [keys_put_of_mem v hk]; exact h
  · rw [keys_put_of_notMem v hk, List.nodup_append]
    refine ⟨h, by simp, ?_⟩
    rintro a ha b hb rfl
    simp only [List.mem_singleton] at hb
    exact hk (hb ▸ ha)

theorem nodup_keys_erase (key : Text) {es : List (Text × α)} (h : (keys es).Nodup) :
    (keys (erase key es)).Nodup := h.sublist (List.filter_sublist.map _)

end BlockMarkup.Entries
