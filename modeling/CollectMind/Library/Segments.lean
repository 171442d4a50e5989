import Mathlib.Data.List.Basic

set_option autoImplicit false

/- Text cut at a separator, and put together again. -/
namespace Segments

variable {α : Type} (separator : α)

theorem intercalate_append_cons {front : List (List α)} (segment : List α) (rest : List (List α))
    (nonempty : front ≠ []) :
    [separator].intercalate (front ++ segment :: rest) =
      [separator].intercalate front ++ separator :: [separator].intercalate (segment :: rest) := by
  induction front with
  | nil => exact absurd rfl nonempty
  | cons first others ih =>
      cases others with
      | nil => simp
      | cons second others =>
          have inner := ih (by simp)
          simp only [List.cons_append] at inner ⊢
          rw [List.intercalate_cons_cons, inner, List.intercalate_cons_cons]
          simp

/-- After the first segment every segment brings its separator. -/
theorem intercalate_cons (first : List α) (rest : List (List α)) :
    [separator].intercalate (first :: rest) = first ++ rest.flatMap (separator :: ·) := by
  induction rest generalizing first with
  | nil => simp
  | cons second rest ih =>
      rw [List.intercalate_cons_cons, ih, List.flatMap_cons, List.append_assoc,
        List.singleton_append, List.cons_append]

/-- Text up to a first separator, and what follows it. -/
theorem append_separator_inj {first second rest others : List α}
    (plain : separator ∉ first) (alsoPlain : separator ∉ second)
    (same : first ++ separator :: rest = second ++ separator :: others) :
    first = second ∧ rest = others := by
  induction first generalizing second with
  | nil =>
      cases second with
      | nil => exact ⟨rfl, List.tail_eq_of_cons_eq same⟩
      | cons item tail =>
          have clash : separator = item := List.head_eq_of_cons_eq same
          exact absurd (by simp [clash]) alsoPlain
  | cons head tail ih =>
      cases second with
      | nil =>
          have clash : head = separator := List.head_eq_of_cons_eq same
          exact absurd (by simp [clash]) plain
      | cons item others =>
          have heads : head = item := List.head_eq_of_cons_eq same
          have tails := ih (fun inside => plain (by simp [inside]))
            (fun inside => alsoPlain (by simp [inside])) (List.tail_eq_of_cons_eq same)
          exact ⟨by rw [heads, tails.1], tails.2⟩

variable [BEq α] [LawfulBEq α]

/-- A text that puts a separator before each segment splits into an empty one and these. -/
theorem splitOn_flatMap {segments : List (List α)} (plain : ∀ segment ∈ segments, separator ∉ segment) :
    (segments.flatMap (separator :: ·)).splitOn separator = [] :: segments := by
  have joined : segments.flatMap (separator :: ·) = [separator].intercalate ([] :: segments) := by
    rw [intercalate_cons, List.nil_append]
  rw [joined]
  apply List.splitOn_intercalate separator _ (List.cons_ne_nil _ _)
  exact List.forall_mem_cons.mpr ⟨List.not_mem_nil, plain⟩

theorem splitOn_injective {left right : List α}
    (same : left.splitOn separator = right.splitOn separator) : left = right := by
  calc left = [separator].intercalate (left.splitOn separator) :=
        (List.intercalate_splitOn separator).symm
    _ = [separator].intercalate (right.splitOn separator) := by rw [same]
    _ = right := List.intercalate_splitOn separator

/-- The segments of one text start those of another exactly if the texts are the same or the
other goes on with a separator. -/
theorem splitOn_prefix_iff (front text : List α) :
    front.splitOn separator <+: text.splitOn separator ↔
      text = front ∨ front ++ [separator] <+: text := by
  constructor
  · rintro ⟨rest, same⟩
    cases rest with
    | nil =>
        left
        apply splitOn_injective separator
        simpa using same.symm
    | cons segment rest =>
        right
        have nonempty : front.splitOn separator ≠ [] := List.splitOnP_ne_nil _ front
        have joined := congrArg ([separator].intercalate) same
        rw [intercalate_append_cons separator segment rest nonempty,
          List.intercalate_splitOn, List.intercalate_splitOn] at joined
        exact ⟨[separator].intercalate (segment :: rest), by simpa using joined⟩
  · intro alike
    rcases alike with same | ⟨rest, longer⟩
    · subst same
      exact List.prefix_rfl
    · rw [← longer, List.append_assoc, List.singleton_append, List.splitOn_append_cons_self]
      exact List.prefix_append _ _

end Segments
