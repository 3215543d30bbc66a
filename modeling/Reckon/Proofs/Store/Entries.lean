/-
What one change does to a store.

A store is seen from outside by what it answers for a name and by the names that it lists.  Every
change is told by these two, and nothing later opens the list of entries.
-/
import Mathlib.Logic.Function.Basic
import Reckon.Store

namespace Reckon.Store

/-! ### Storing one more value -/

theorem find?_insertEntry (name other : Text) (v : Value) (entries : List (Text × Value)) :
    ((insertEntry name v entries).find? fun (n, _) => n == other) =
      if other = name then some (name, v) else entries.find? fun (n, _) => n == other := by
  induction entries with
  | nil =>
      by_cases hother : other = name
      · simp [insertEntry, hother]
      · simp [insertEntry, hother, Ne.symm hother]
  | cons entry rest ih =>
      obtain ⟨n, old⟩ := entry
      by_cases hn : n = name
      · subst hn
        by_cases hother : other = n
        · simp [insertEntry, hother]
        · simp [insertEntry, hother, Ne.symm hother]
      · by_cases hother : n = other
        · subst hother
          simp [insertEntry, hn]
        · simp [insertEntry, hn, hother, ih]

/-- What is stored under a name is found there, and nothing else changes. -/
theorem get?_insert (s : Store) (name : Text) (v : Value) :
    (s.insert name v).get? = Function.update s.get? name (some v) := by
  funext other
  unfold get? insert
  rw [find?_insertEntry]
  by_cases hother : other = name
  · subst hother
    rw [if_pos rfl, Function.update_self, Option.map_some]
  · rw [if_neg hother, Function.update_of_ne hother]

theorem map_fst_insertEntry (name : Text) (v : Value) (entries : List (Text × Value)) :
    (insertEntry name v entries).map (·.1) =
      if name ∈ entries.map (·.1) then entries.map (·.1) else entries.map (·.1) ++ [name] := by
  induction entries with
  | nil => rfl
  | cons entry rest ih =>
      obtain ⟨n, old⟩ := entry
      by_cases hn : n = name
      · simp [insertEntry, hn]
      · have hne : (n == name) = false := beq_eq_false_iff_ne.mpr hn
        rw [insertEntry, hne, if_neg Bool.false_ne_true, List.map_cons, ih, List.map_cons]
        simp only [List.mem_cons, Ne.symm hn, false_or]
        split <;> rfl

/-- A name that is listed keeps its place, a new one is listed at the end. -/
theorem names_insert (s : Store) (name : Text) (v : Value) :
    (s.insert name v).names = if name ∈ s.names then s.names else s.names ++ [name] :=
  map_fst_insertEntry name v s.entries

/-! ### Forgetting -/

/-- A name that is forgotten is not found, and nothing else changes. -/
theorem get?_erase (s : Store) (name : Text) :
    (s.erase name).get? = Function.update s.get? name none := by
  funext other
  unfold get? erase
  rw [List.find?_filter]
  by_cases hother : other = name
  · subst hother
    rw [Function.update_self, Option.map_eq_none_iff, List.find?_eq_none]
    simp
  · rw [Function.update_of_ne hother]
    congr 2
    funext entry
    by_cases hentry : entry.1 = other
    · simp [hentry, hother]
    · simp [hentry]

/-- The other names keep their order. -/
theorem names_erase (s : Store) (name : Text) :
    (s.erase name).names = s.names.filter (· != name) := by
  unfold names erase
  rw [List.filter_map]
  rfl

/-! ### What is listed -/

/-- The names that are listed are those for which there is an answer. -/
theorem mem_names {s : Store} {name : Text} : name ∈ s.names ↔ ∃ v, s.get? name = some v := by
  unfold names get?
  rw [← Option.isSome_iff_exists, Option.isSome_map, List.find?_isSome, List.mem_map]
  simp

theorem contains_iff {s : Store} {name : Text} : s.contains name = true ↔ name ∈ s.names := by
  unfold contains names
  rw [List.any_eq_true, List.mem_map]
  simp

theorem size_eq_length_names (s : Store) : s.size = s.names.length :=
  (List.length_map _).symm

end Reckon.Store
