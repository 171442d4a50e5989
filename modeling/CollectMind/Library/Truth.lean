import Mathlib.Logic.Basic

set_option autoImplicit false

/- SQL's three-valued logic. `none` is NULL; a condition admits a row only when
it is true, so unknown and false are treated alike at the end. -/
namespace Sql

abbrev Truth := Option Bool

def Truth.and : Truth → Truth → Truth
  | some false, _ => some false
  | _, some false => some false
  | some true, some true => some true
  | _, _ => none

def Truth.or : Truth → Truth → Truth
  | some true, _ => some true
  | _, some true => some true
  | some false, some false => some false
  | _, _ => none

/-- A comparison with NULL on either side is NULL. -/
def eq {α : Type} [DecidableEq α] : Option α → Option α → Truth
  | some left, some right => some (decide (left = right))
  | _, _ => none

def ne {α : Type} [DecidableEq α] : Option α → Option α → Truth
  | some left, some right => some (decide (left ≠ right))
  | _, _ => none

/-- `IS NOT NULL` is never NULL itself. -/
def isNotNull {α : Type} (value : Option α) : Truth := some value.isSome

/-- Whether a `WHERE` clause, a policy or an `IF` accepts this truth value. -/
def Truth.holds (truth : Truth) : Bool := truth == some true

@[simp] theorem holds_iff (truth : Truth) : truth.holds = true ↔ truth = some true := by
  simp [Truth.holds]

@[simp] theorem and_eq_true (left right : Truth) :
    left.and right = some true ↔ left = some true ∧ right = some true := by
  cases left with
  | none => cases right with
    | none => simp [Truth.and]
    | some value => cases value <;> simp [Truth.and]
  | some flag => cases flag <;> cases right with
    | none => simp [Truth.and]
    | some value => cases value <;> simp [Truth.and]

@[simp] theorem or_eq_true (left right : Truth) :
    left.or right = some true ↔ left = some true ∨ right = some true := by
  cases left with
  | none => cases right with
    | none => simp [Truth.or]
    | some value => cases value <;> simp [Truth.or]
  | some flag => cases flag <;> cases right with
    | none => simp [Truth.or]
    | some value => cases value <;> simp [Truth.or]

@[simp] theorem eq_eq_true {α : Type} [DecidableEq α] (left right : Option α) :
    eq left right = some true ↔ ∃ value, left = some value ∧ right = some value := by
  cases left <;> cases right <;> simp [eq]
  exact ⟨fun same => same.symm, fun same => same.symm⟩

theorem eq_value_iff {α : Type} [DecidableEq α] (left : Option α) (right : α) :
    eq left (some right) = some true ↔ left = some right := by
  cases left <;> simp [eq]

@[simp] theorem ne_eq_true {α : Type} [DecidableEq α] (left right : Option α) :
    ne left right = some true ↔ ∃ a b, left = some a ∧ right = some b ∧ a ≠ b := by
  cases left <;> cases right <;> simp [ne]

@[simp] theorem isNotNull_eq_true {α : Type} (value : Option α) :
    isNotNull value = some true ↔ ∃ content, value = some content := by
  simp [isNotNull, Option.isSome_iff_exists]

end Sql
