import Mathlib.Data.List.Chain

set_option autoImplicit false

/- The log of a register that is unset at first: one entry for each change, with the value
before it and the value after it. -/
namespace ChangeLog

variable {α : Type}

/-- The entries lead from one value to another, and each of them is a change. -/
def Path : Option α → List (Option α × α) → Option α → Prop
  | start, [], final => start = final
  | start, entry :: rest, final =>
    entry.1 = start ∧ entry.1 ≠ some entry.2 ∧ Path (some entry.2) rest final

theorem Path.change {start middle : Option α} {log : List (Option α × α)} {new : α}
    (path : Path start log middle) (differs : middle ≠ some new) :
    Path start (log ++ [(middle, new)]) (some new) := by
  induction log generalizing start with
  | nil =>
      rw [Path] at path
      exact ⟨path.symm, differs, rfl⟩
  | cons entry rest ih =>
      obtain ⟨before, changes, after⟩ := path
      exact ⟨before, changes, ih after⟩

theorem Path.head {start final : Option α} {log : List (Option α × α)} (path : Path start log final)
    {entry : Option α × α} (first : log.head? = some entry) : entry.1 = start := by
  cases log with
  | nil => cases first
  | cons other rest =>
      cases first
      exact path.1

/-- Each entry starts from the value its predecessor has left. -/
theorem Path.linked {start final : Option α} {log : List (Option α × α)}
    (path : Path start log final) :
    log.IsChain fun earlier later => later.1 = some earlier.2 ∧ later.1 ≠ some later.2 := by
  induction log generalizing start with
  | nil => exact List.isChain_nil
  | cons entry rest ih =>
      have after := path.2.2
      cases rest with
      | nil => exact List.isChain_singleton _
      | cons next rest => exact List.isChain_cons_cons.mpr ⟨⟨after.1, after.2.1⟩, ih after⟩

theorem Path.final_eq {start final : Option α} {log : List (Option α × α)}
    (path : Path start log final) : final = (log.getLast?.map Prod.snd).or start := by
  induction log generalizing start with
  | nil => exact path.symm
  | cons entry rest ih =>
      have after := ih path.2.2
      cases rest with
      | nil => exact after
      | cons next rest =>
          rw [List.getLast?_cons_cons, after, List.getLast?_eq_some_getLast (by simp)]
          rfl

/-- The entries lead from one value to another, each from where the one before it has ended. -/
def Trail : α → List (α × α) → α → Prop
  | start, [], final => start = final
  | start, entry :: rest, final => entry.1 = start ∧ Trail entry.2 rest final

theorem Trail.append_iff {start final : α} {log more : List (α × α)} :
    Trail start (log ++ more) final ↔ ∃ middle, Trail start log middle ∧ Trail middle more final := by
  induction log generalizing start with
  | nil => simp [Trail]
  | cons entry rest ih =>
      simp only [List.cons_append, Trail, ih]
      constructor
      · rintro ⟨before, middle, first, second⟩
        exact ⟨middle, ⟨before, first⟩, second⟩
      · rintro ⟨middle, ⟨before, first⟩, second⟩
        exact ⟨before, middle, first, second⟩

/-- Where a trail ends is determined by where it starts. -/
theorem Trail.unique {start final other : α} {log : List (α × α)} (trail : Trail start log final)
    (second : Trail start log other) : final = other := by
  induction log generalizing start with
  | nil => exact trail.symm.trans second
  | cons entry rest ih => exact ih trail.2 second.2

end ChangeLog
