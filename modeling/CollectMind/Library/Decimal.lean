import Mathlib.Data.Rat.Floor
import Mathlib.Tactic.Linarith
import Mathlib.Tactic.Positivity

set_option autoImplicit false

/- Numbers kept to a fixed number of decimals, as a database's exact numeric type keeps them. -/
namespace Decimal

/-- The nearest integer; a half goes away from zero. -/
def roundHalfAway (value : Rat) : Int :=
  if 0 ≤ value then ⌊value + 1 / 2⌋ else -⌊1 / 2 - value⌋

/-- The number with `scale` decimals. -/
def toScale (scale : Nat) (value : Rat) : Rat := roundHalfAway (10 ^ scale * value) / 10 ^ scale

theorem roundHalfAway_near (value : Rat) :
    value - 1 / 2 ≤ roundHalfAway value ∧ (roundHalfAway value : Rat) ≤ value + 1 / 2 := by
  unfold roundHalfAway
  by_cases sign : 0 ≤ value
  · rw [if_pos sign]
    have below := Int.floor_le (value + 1 / 2)
    have above := Int.lt_floor_add_one (value + 1 / 2)
    constructor
    · linarith
    · linarith
  · rw [if_neg sign, Int.cast_neg]
    have below := Int.floor_le (1 / 2 - value)
    have above := Int.lt_floor_add_one (1 / 2 - value)
    constructor
    · linarith
    · linarith

/-- Rounding does not pass an integer from above. -/
theorem le_roundHalfAway {bound : Int} {value : Rat} (reached : (bound : Rat) ≤ value) :
    bound ≤ roundHalfAway value := by
  have near := (roundHalfAway_near value).1
  have close : (bound : Rat) < roundHalfAway value + 1 := by linarith
  exact Int.lt_add_one_iff.mp (by exact_mod_cast close)

/-- Rounding does not pass an integer from below. -/
theorem roundHalfAway_le {bound : Int} {value : Rat} (within : value ≤ bound) :
    roundHalfAway value ≤ bound := by
  have near := (roundHalfAway_near value).2
  have close : (roundHalfAway value : Rat) < bound + 1 := by linarith
  exact Int.lt_add_one_iff.mp (by exact_mod_cast close)

variable (scale : Nat)

theorem le_toScale (bound : Int) {value : Rat} (reached : (bound : Rat) / 10 ^ scale ≤ value) :
    (bound : Rat) / 10 ^ scale ≤ toScale scale value := by
  have unit : (0 : Rat) < 10 ^ scale := by positivity
  rw [div_le_iff₀' unit] at reached
  have kept : (bound : Rat) ≤ roundHalfAway (10 ^ scale * value) := by
    exact_mod_cast le_roundHalfAway reached
  exact div_le_div_of_nonneg_right kept unit.le

theorem toScale_le (bound : Int) {value : Rat} (within : value ≤ (bound : Rat) / 10 ^ scale) :
    toScale scale value ≤ (bound : Rat) / 10 ^ scale := by
  have unit : (0 : Rat) < 10 ^ scale := by positivity
  rw [le_div_iff₀' unit] at within
  have kept : (roundHalfAway (10 ^ scale * value) : Rat) ≤ bound := by
    exact_mod_cast roundHalfAway_le within
  exact div_le_div_of_nonneg_right kept unit.le

/-- The rounded number is within half a unit of the last decimal. -/
theorem toScale_near (value : Rat) :
    value - 1 / (2 * 10 ^ scale) ≤ toScale scale value ∧
      toScale scale value ≤ value + 1 / (2 * 10 ^ scale) := by
  have unit : (0 : Rat) < 10 ^ scale := by positivity
  have near := roundHalfAway_near (10 ^ scale * value)
  have half : (1 : Rat) / (2 * 10 ^ scale) = 1 / 2 / 10 ^ scale := by rw [div_div]
  have whole : value = 10 ^ scale * value / 10 ^ scale := by rw [mul_div_cancel_left₀ _ unit.ne']
  rw [toScale, half]
  constructor
  · calc value - 1 / 2 / 10 ^ scale = (10 ^ scale * value - 1 / 2) / 10 ^ scale := by
          rw [sub_div, ← whole]
      _ ≤ _ := div_le_div_of_nonneg_right near.1 unit.le
  · calc (roundHalfAway (10 ^ scale * value) : Rat) / 10 ^ scale
        ≤ (10 ^ scale * value + 1 / 2) / 10 ^ scale := div_le_div_of_nonneg_right near.2 unit.le
      _ = value + 1 / 2 / 10 ^ scale := by rw [add_div, ← whole]

end Decimal
