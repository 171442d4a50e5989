import Mathlib.Data.List.Basic

set_option autoImplicit false

/- Dictionaries that keep the order of insertion, as lists of keys with their values. -/
namespace Assoc

variable {κ ν : Type} [DecidableEq κ]

/-- Store a value: a key that is there keeps its place, a new one comes last. -/
def set (dict : List (κ × ν)) (key : κ) (value : ν) : List (κ × ν) :=
  if (dict.lookup key).isSome then
    dict.map fun field => if field.1 = key then (key, value) else field
  else dict ++ [(key, value)]

/-- Drop a key, if it is there. -/
def pop (dict : List (κ × ν)) (key : κ) : List (κ × ν) :=
  dict.filter fun field => decide (field.1 ≠ key)

theorem lookup_overwrite (dict : List (κ × ν)) (key other : κ) (value : ν) :
    (dict.map fun field => if field.1 = key then (key, value) else field).lookup other =
      if other = key then (dict.lookup key).map fun _ => value else dict.lookup other := by
  induction dict with
  | nil => simp
  | cons field rest ih =>
      obtain ⟨name, stored⟩ := field
      simp only [List.map_cons] at ih ⊢
      by_cases here : name = key
      · rw [if_pos here, List.lookup_cons, List.lookup_cons, List.lookup_cons, ih, here]
        by_cases same : other = key
        · simp [same]
        · have missed : (other == key) = false := beq_eq_false_iff_ne.mpr same
          simp [same, missed]
      · have apart : (key == name) = false := beq_eq_false_iff_ne.mpr fun clash => here clash.symm
        rw [if_neg here, List.lookup_cons, List.lookup_cons, List.lookup_cons, ih, apart]
        by_cases same : other = key
        · simp [same, apart]
        · simp [same]

theorem lookup_set_other {key other : κ} (apart : other ≠ key) (dict : List (κ × ν)) (value : ν) :
    (set dict key value).lookup other = dict.lookup other := by
  unfold set
  split
  · rw [lookup_overwrite, if_neg apart]
  · have missed : (other == key) = false := beq_eq_false_iff_ne.mpr apart
    rw [List.lookup_append]
    simp [List.lookup_cons, missed]

theorem lookup_set_same (dict : List (κ × ν)) (key : κ) (value : ν) :
    (set dict key value).lookup key = some value := by
  unfold set
  split
  · rename_i present
    obtain ⟨old, stored⟩ := Option.isSome_iff_exists.mp present
    rw [lookup_overwrite, if_pos rfl, stored, Option.map_some]
  · rename_i absent
    rw [Bool.not_eq_true, Option.isSome_eq_false_iff, Option.isNone_iff_eq_none] at absent
    rw [List.lookup_append, absent]
    simp

theorem lookup_pop (dict : List (κ × ν)) (key other : κ) :
    (pop dict key).lookup other = if other = key then none else dict.lookup other := by
  unfold pop
  induction dict with
  | nil => simp
  | cons field rest ih =>
      obtain ⟨name, stored⟩ := field
      rw [List.filter_cons, List.lookup_cons]
      by_cases here : name = key
      · rw [if_neg (by simp [here]), ih, here]
        by_cases same : other = key
        · simp [same]
        · have missed : (other == key) = false := beq_eq_false_iff_ne.mpr same
          simp [same, missed]
      · rw [if_pos (by simp [here]), List.lookup_cons, ih]
        by_cases same : other = key
        · have apart : (key == name) = false := beq_eq_false_iff_ne.mpr fun clash => here clash.symm
          simp [same, apart]
        · simp [same]

/-- Dropping a key brings no entry about. -/
theorem lookup_of_pop {dict : List (κ × ν)} {key other : κ} {value : ν}
    (found : (pop dict key).lookup other = some value) : dict.lookup other = some value := by
  rw [lookup_pop] at found
  split at found
  · cases found
  · exact found

theorem length_set_le (dict : List (κ × ν)) (key : κ) (value : ν) :
    (set dict key value).length ≤ dict.length + 1 := by
  unfold set
  split
  · simp
  · simp

theorem length_pop_le (dict : List (κ × ν)) (key : κ) : (pop dict key).length ≤ dict.length :=
  List.length_filter_le _ _

theorem length_pop_lt {dict : List (κ × ν)} {field : κ × ν} (member : field ∈ dict) :
    (pop dict field.1).length < dict.length := by
  apply List.length_filter_lt_length_iff_exists.mpr
  exact ⟨field, member, by simp⟩

end Assoc
