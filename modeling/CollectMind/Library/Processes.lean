import Mathlib.Algebra.BigOperators.Group.Finset.Basic
import Mathlib.Algebra.BigOperators.Group.Finset.Piecewise
import Mathlib.Data.Fintype.Basic
import CollectMind.Library.Runs

set_option autoImplicit false

/- Processes that take turns over one store, in any order. What a process holds between two of
its turns is accounted for by what it gains and what it gives up. -/
namespace Processes

variable {σ π ι ο : Type} {n : Nat}

/-- `n` processes over one store. -/
structure System (σ π : Type) (n : Nat) where
  store : σ
  process : Fin n → π

/-- One process takes a turn. -/
def step (act : σ → π → ι → σ × π × ο) (system : System σ π n) (turn : Fin n × ι) :
    System σ π n × ο :=
  let acted := act system.store (system.process turn.1) turn.2
  (⟨acted.1, Function.update system.process turn.1 acted.2.1⟩, acted.2.2)

/-- How many processes have a property. -/
def count (flag : π → Bool) (process : Fin n → π) : Nat :=
  (Finset.univ.filter fun i => flag (process i) = true).card

/-- Changing one process changes a count by what that process contributes. -/
theorem count_update (flag : π → Bool) (process : Fin n → π) (i : Fin n) (next : π) :
    count flag (Function.update process i next) + (flag (process i)).toNat =
      count flag process + (flag next).toNat := by
  unfold count
  simp only [Finset.card_filter, ← Finset.add_sum_erase Finset.univ _ (Finset.mem_univ i),
    Function.update_self]
  have others : ∀ j ∈ Finset.univ.erase i,
      (if flag (Function.update process i next j) = true then 1 else 0) =
        if flag (process j) = true then 1 else 0 := by
    intro j member
    rw [Function.update_of_ne (Finset.ne_of_mem_erase member)]
  rw [Finset.sum_congr rfl others]
  cases flag next <;> cases flag (process i) <;> simp <;> omega

theorem count_eq_zero {flag : π → Bool} {process : Fin n → π}
    (nobody : ∀ i, flag (process i) = false) : count flag process = 0 := by
  unfold count
  rw [Finset.card_eq_zero, Finset.filter_eq_empty_iff]
  intro i _
  simp [nobody i]

theorem countP_cons_toNat (flag : ο → Bool) (answer : ο) (rest : List ο) :
    (answer :: rest).countP flag = (flag answer).toNat + rest.countP flag := by
  rw [List.countP_cons, Nat.add_comm]
  cases flag answer <;> rfl

/-- If in every turn what is gained and held before equals what is given up and held after, then
so it does over any run. -/
theorem balance (act : σ → π → ι → σ × π × ο) (held : π → Bool) (gained lost : ο → Bool)
    (each : ∀ store process input,
      (gained (act store process input).2.2).toNat + (held process).toNat =
        (lost (act store process input).2.2).toNat + (held (act store process input).2.1).toNat)
    (turns : List (Fin n × ι)) (system : System σ π n) :
    (Runs.outputs (step act) system turns).countP gained + count held system.process =
      (Runs.outputs (step act) system turns).countP lost +
        count held (Runs.final (step act) system turns).process := by
  induction turns generalizing system with
  | nil => simp
  | cons turn rest ih =>
      have later := ih (step act system turn).1
      have here := each system.store (system.process turn.1) turn.2
      have moved := count_update held system.process turn.1
        (act system.store (system.process turn.1) turn.2).2.1
      change (gained (step act system turn).2).toNat + _ = (lost (step act system turn).2).toNat + _
        at here
      change count held (step act system turn).1.process + _ = _ at moved
      rw [Runs.outputs_cons, Runs.final_cons, countP_cons_toNat, countP_cons_toNat]
      omega

end Processes
