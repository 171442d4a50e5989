import Mathlib.Tactic.ByContra

set_option autoImplicit false

/- Runs without end: a machine that is given one input after the other, and what holds from some
point on or is reached again. -/
namespace Forever

variable {σ ι : Type} (step : σ → ι → σ) (start : σ) (inputs : Nat → ι)

/-- The state before the input with this number. -/
def stateAt : Nat → σ
  | 0 => start
  | n + 1 => step (stateAt n) (inputs n)

theorem stateAt_succ (n : Nat) :
    stateAt step start inputs (n + 1) = step (stateAt step start inputs n) (inputs n) := rfl

/-- What every input from a point on keeps, holds from that point on. -/
theorem stays (holds : σ → Prop) {n : Nat}
    (kept : ∀ m, n ≤ m → holds (stateAt step start inputs m) →
      holds (stateAt step start inputs (m + 1)))
    (now : holds (stateAt step start inputs n)) {m : Nat} (later : n ≤ m) :
    holds (stateAt step start inputs m) := by
  induction later with
  | refl => exact now
  | @step m later ih => exact kept m later ih

/-- Between a state without a property and a later one with it there is a step that brings it. -/
theorem crosses (holds : σ → Prop) {n m : Nat} (later : n ≤ m)
    (before : ¬ holds (stateAt step start inputs n)) (after : holds (stateAt step start inputs m)) :
    ∃ k, n ≤ k ∧ k < m ∧ ¬ holds (stateAt step start inputs k) ∧
      holds (stateAt step start inputs (k + 1)) := by
  induction later with
  | refl => exact absurd after before
  | @step m later ih =>
      by_cases already : holds (stateAt step start inputs m)
      · obtain ⟨k, reached, early, brings⟩ := ih already
        exact ⟨k, reached, by omega, brings⟩
      · exact ⟨m, later, by omega, already, after⟩

/-- Leads-to. Unless the goal is reached no input raises the rank, and the fair ones, which come
again and again, lower it. -/
theorem reaches (goal : σ → Prop) (rank : σ → Nat) (fair : ι → Prop)
    (recurs : ∀ m, ∃ k, m ≤ k ∧ fair (inputs k)) (n : Nat)
    (level : ∀ m, n ≤ m → ¬ goal (stateAt step start inputs m) →
      goal (stateAt step start inputs (m + 1)) ∨
        rank (stateAt step start inputs (m + 1)) ≤ rank (stateAt step start inputs m))
    (lowers : ∀ m, n ≤ m → ¬ goal (stateAt step start inputs m) → fair (inputs m) →
      goal (stateAt step start inputs (m + 1)) ∨
        rank (stateAt step start inputs (m + 1)) < rank (stateAt step start inputs m)) :
    ∃ k, n ≤ k ∧ goal (stateAt step start inputs k) := by
  induction bound : rank (stateAt step start inputs n) using Nat.strongRecOn generalizing n with
  | ind bound ih =>
      by_contra never
      have missed : ∀ k, n ≤ k → ¬ goal (stateAt step start inputs k) :=
        fun k reached hit => never ⟨k, reached, hit⟩
      obtain ⟨k, reached, due⟩ := recurs n
      have held : rank (stateAt step start inputs k) ≤ rank (stateAt step start inputs n) := by
        apply stays step start inputs
          (fun state => rank state ≤ rank (stateAt step start inputs n)) _ (Nat.le_refl _) reached
        intro m later below
        rcases level m later (missed m later) with hit | kept
        · exact absurd hit (missed (m + 1) (by omega))
        · exact Nat.le_trans kept below
      rcases lowers k reached (missed k reached) due with hit | lower
      · exact missed (k + 1) (by omega) hit
      · obtain ⟨last, later, hit⟩ := ih (rank (stateAt step start inputs (k + 1))) (by omega) (k + 1)
          (fun m later => level m (by omega)) (fun m later => lowers m (by omega)) rfl
        exact missed last (by omega) hit

end Forever
