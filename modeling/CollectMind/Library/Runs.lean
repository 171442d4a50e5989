import Mathlib.Data.List.Chain
import Mathlib.Tactic.Linarith

set_option autoImplicit false

/- Runs of a deterministic machine that answers every input. Nothing here is
about a particular machine: the step function is a parameter throughout. -/
namespace Runs

variable {σ ι ο : Type}

/-- The state after a list of inputs. -/
def final (step : σ → ι → σ × ο) : σ → List ι → σ
  | state, [] => state
  | state, input :: rest => final step (step state input).1 rest

/-- The answers given along a list of inputs, one for each input. -/
def outputs (step : σ → ι → σ × ο) : σ → List ι → List ο
  | _, [] => []
  | state, input :: rest => (step state input).2 :: outputs step (step state input).1 rest

variable (step : σ → ι → σ × ο)

@[simp] theorem final_nil (state : σ) : final step state [] = state := rfl

@[simp] theorem final_cons (state : σ) (input : ι) (rest : List ι) :
    final step state (input :: rest) = final step (step state input).1 rest := rfl

@[simp] theorem outputs_nil (state : σ) : outputs step state [] = [] := rfl

@[simp] theorem outputs_cons (state : σ) (input : ι) (rest : List ι) :
    outputs step state (input :: rest) =
      (step state input).2 :: outputs step (step state input).1 rest := rfl

theorem final_append (state : σ) (first second : List ι) :
    final step state (first ++ second) = final step (final step state first) second := by
  induction first generalizing state with
  | nil => rfl
  | cons input rest ih => exact ih (step state input).1

theorem outputs_append (state : σ) (first second : List ι) :
    outputs step state (first ++ second) =
      outputs step state first ++ outputs step (final step state first) second := by
  induction first generalizing state with
  | nil => rfl
  | cons input rest ih => simp only [List.cons_append, outputs_cons, final_cons, ih]

@[simp] theorem outputs_length (state : σ) (inputs : List ι) :
    (outputs step state inputs).length = inputs.length := by
  induction inputs generalizing state with
  | nil => rfl
  | cons input rest ih => simp only [outputs_cons, List.length_cons, ih]

/-- The answers inside a window of a run are those of a run of the window alone,
started where the inputs before the window end. -/
theorem outputs_window (state : σ) (before window after : List ι) :
    ((outputs step state (before ++ window ++ after)).drop before.length).take window.length =
      outputs step (final step state before) window := by
  rw [List.append_assoc, outputs_append, outputs_append,
    List.drop_left' (outputs_length step state before),
    List.take_left' (outputs_length step _ window)]

/-- Whatever a step preserves, a run preserves; `admissible` restricts the inputs. -/
theorem final_invariant (invariant : σ → Prop) (admissible : ι → Prop)
    (preserved : ∀ state input, admissible input → invariant state →
      invariant (step state input).1)
    (inputs : List ι) (state : σ) (start : invariant state)
    (inside : ∀ input ∈ inputs, admissible input) :
    invariant (final step state inputs) := by
  induction inputs generalizing state with
  | nil => exact start
  | cons input rest ih =>
      have head := preserved state input (inside input (by simp)) start
      exact ih (step state input).1 head (fun other member => inside other (by simp [member]))

/-- A view of the state that determines its own next value and the answers
yields the same answers along every run. -/
theorem outputs_view {τ : Type} (view : σ → τ) (viewStep : τ → ι → τ × ο)
    (agrees : ∀ state input,
      (view (step state input).1, (step state input).2) = viewStep (view state) input)
    (inputs : List ι) (state : σ) :
    outputs step state inputs = outputs viewStep (view state) inputs := by
  induction inputs generalizing state with
  | nil => rfl
  | cons input rest ih =>
      simp only [outputs_cons, ← agrees, ih]

theorem final_view {τ : Type} (view : σ → τ) (viewStep : τ → ι → τ × ο)
    (agrees : ∀ state input,
      (view (step state input).1, (step state input).2) = viewStep (view state) input)
    (inputs : List ι) (state : σ) :
    view (final step state inputs) = final viewStep (view state) inputs := by
  induction inputs generalizing state with
  | nil => rfl
  | cons input rest ih =>
      simp only [final_cons, ← agrees, ih]

/-- The answers given to the inputs that are `mine`. -/
def answersTo (mine : ι → Bool) (state : σ) (inputs : List ι) : List ο :=
  ((inputs.zip (outputs step state inputs)).filter fun pair => mine pair.1).map Prod.snd

theorem answersTo_cons (mine : ι → Bool) (state : σ) (input : ι) (rest : List ι) :
    answersTo step mine state (input :: rest) =
      if mine input then (step state input).2 :: answersTo step mine (step state input).1 rest
      else answersTo step mine (step state input).1 rest := by
  simp only [answersTo, outputs_cons, List.zip_cons_cons, List.filter_cons]
  split
  · rfl
  · rfl

/-- Unwinding. If two states that agree answer my inputs alike and still agree after them, and
the inputs of others leave them in agreement, then I cannot tell whether the others are there. -/
theorem answersTo_alone (mine : ι → Bool) (agree : σ → σ → Prop)
    (own : ∀ state other input, mine input = true → agree state other →
      (step state input).2 = (step other input).2 ∧ agree (step state input).1 (step other input).1)
    (foreign : ∀ state other input, mine input = false → agree state other →
      agree (step state input).1 other)
    (inputs : List ι) (state other : σ) (start : agree state other) :
    answersTo step mine state inputs = outputs step other (inputs.filter mine) := by
  induction inputs generalizing state other with
  | nil => rfl
  | cons input rest ih =>
      rw [answersTo_cons, List.filter_cons]
      by_cases owned : mine input = true
      · have same := own state other input owned start
        rw [if_pos owned, if_pos owned, outputs_cons, same.1, ih _ _ same.2]
      · have others : mine input = false := by simpa using owned
        rw [if_neg owned, if_neg owned, ih _ _ (foreign state other input others start)]

theorem outputs_take (state : σ) (inputs : List ι) (count : Nat) :
    (outputs step state inputs).take count = outputs step state (inputs.take count) := by
  induction inputs generalizing state count with
  | nil => simp
  | cons input rest ih =>
      cases count with
      | zero => rfl
      | succ count =>
          simp only [outputs_cons, List.take_succ_cons, ih]

/-- Each answer of a run is given at some place of it, in the state after the inputs before. -/
theorem mem_outputs_iff {inputs : List ι} {state : σ} {output : ο} :
    output ∈ outputs step state inputs ↔
      ∃ earlier input later, inputs = earlier ++ input :: later ∧
        (step (final step state earlier) input).2 = output := by
  constructor
  · intro given
    induction inputs generalizing state with
    | nil => cases given
    | cons first rest ih =>
        rcases List.mem_cons.mp given with here | onward
        · exact ⟨[], first, rest, rfl, here.symm⟩
        · obtain ⟨earlier, input, later, split, answers⟩ := ih onward
          exact ⟨first :: earlier, input, later, congrArg _ split, answers⟩
  · rintro ⟨earlier, input, later, rfl, rfl⟩
    rw [outputs_append, outputs_cons]
    exact List.mem_append_right _ List.mem_cons_self

/-- If each answer tells what the machine adds to its log, then the answers of a run do. -/
theorem final_log {ρ : Type} (log : σ → List ρ) (row : ο → Option ρ)
    (adds : ∀ state input, log (step state input).1 = log state ++ (row (step state input).2).toList)
    (inputs : List ι) (state : σ) :
    log (final step state inputs) = log state ++ (outputs step state inputs).filterMap row := by
  induction inputs generalizing state with
  | nil => simp
  | cons input rest ih =>
      rw [final_cons, ih, adds, outputs_cons]
      cases added : row (step state input).2 with
      | none => simp [added]
      | some row => simp [added]

/-- What relates a state to the next, with the marks that the step leaves, relates the ends of a
run with all its marks. -/
theorem final_related {ρ : Type} (mark : ο → Option ρ) (relation : List ρ → σ → σ → Prop)
    (refl : ∀ state, relation [] state state)
    (trans : ∀ first second early middle late, relation first early middle →
      relation second middle late → relation (first ++ second) early late)
    (each : ∀ state input, relation (mark (step state input).2).toList state (step state input).1)
    (inputs : List ι) (state : σ) :
    relation ((outputs step state inputs).filterMap mark) state (final step state inputs) := by
  induction inputs generalizing state with
  | nil => exact refl state
  | cons input rest ih =>
      have whole := trans _ _ _ _ _ (each state input) (ih (step state input).1)
      rw [outputs_cons, final_cons, List.filterMap_cons]
      cases marked : mark (step state input).2 with
      | none =>
          rw [marked] at whole
          exact whole
      | some row =>
          rw [marked] at whole
          exact whole

/-- What holds at every place of a list holds at its head and at every place of its tail. -/
theorem forall_split_cons (holds : List ι → ι → Prop) {first : ι} {rest : List ι} :
    (∀ earlier input later, first :: rest = earlier ++ input :: later → holds earlier input) ↔
      holds [] first ∧
        ∀ earlier input later, rest = earlier ++ input :: later → holds (first :: earlier) input := by
  constructor
  · intro all
    refine ⟨all [] first rest rfl, ?_⟩
    intro earlier input later same
    exact all (first :: earlier) input later (by rw [same]; rfl)
  · rintro ⟨head, tail⟩ earlier input later same
    cases earlier with
    | nil =>
        cases same
        exact head
    | cons other earlier =>
        rw [List.cons_append, List.cons.injEq] at same
        obtain ⟨rfl, same⟩ := same
        exact tail earlier input later same

/-- Two machines on the same inputs. `lead` is how much more the first has accepted than the
second; the relation between the states keeps it from going below zero. -/
theorem accepted_ge_of_lead {τ π : Type} {next : ι → ι → Prop} (other : τ → ι → τ × π)
    (accepts : ο → Bool) (otherAccepts : π → Bool) (related : ι → σ → τ → Int → Prop)
    (nonneg : ∀ last state otherState lead, related last state otherState lead → 0 ≤ lead)
    (keeps : ∀ last input state otherState lead, next last input →
      related last state otherState lead →
      related input (step state input).1 (other otherState input).1
        (lead + (if accepts (step state input).2 then 1 else 0) -
          (if otherAccepts (other otherState input).2 then 1 else 0)))
    (inputs : List ι) (last : ι) (state : σ) (otherState : τ) (lead : Int)
    (start : related last state otherState lead) (chain : List.IsChain next (last :: inputs)) :
    ((outputs other otherState inputs).countP otherAccepts : Int) ≤
      lead + (outputs step state inputs).countP accepts := by
  induction inputs generalizing last state otherState lead with
  | nil => simpa using nonneg last state otherState lead start
  | cons input rest ih =>
      obtain ⟨ordered, chain⟩ := List.isChain_cons_cons.mp chain
      have rest_le := ih input _ _ _ (keeps last input state otherState lead ordered start) chain
      simp only [outputs_cons, List.countP_cons, Nat.cast_add, Nat.cast_ite, Nat.cast_one,
        Nat.cast_zero]
      linarith

/-- Amortised counting. `invariant i` holds after input `i`; along inputs that
step through `next`, every accepted answer is paid for out of the potential. -/
theorem accepted_le_potential {next : ι → ι → Prop} (invariant : ι → σ → Prop)
    (potential : σ → Int) (price : Int) (accepts : ο → Bool)
    (pays : ∀ last input state, next last input → invariant last state →
      invariant input (step state input).1 ∧
      potential (step state input).1 + (if accepts (step state input).2 then price else 0) ≤
        potential state)
    (inputs : List ι) (last : ι) (state : σ) (holds : invariant last state)
    (chain : List.IsChain next (last :: inputs)) :
    invariant ((last :: inputs).getLast (by simp)) (final step state inputs) ∧
      potential (final step state inputs) +
        price * ((outputs step state inputs).countP accepts : Nat) ≤ potential state := by
  induction inputs generalizing last state with
  | nil => simpa using holds
  | cons input rest ih =>
      obtain ⟨related, chain⟩ := List.isChain_cons_cons.mp chain
      obtain ⟨kept, paid⟩ := pays last input state related holds
      obtain ⟨finally_, bound⟩ := ih input (step state input).1 kept chain
      refine ⟨by simpa using finally_, ?_⟩
      rw [final_cons, outputs_cons, List.countP_cons]
      split at paid
      · rename_i accepted
        simp only [accepted, ↓reduceIte, Nat.cast_add, Nat.cast_one, mul_add, mul_one]
        linarith
      · rename_i refused
        simp only [refused, Bool.false_eq_true, ↓reduceIte, Nat.add_zero]
        linarith

end Runs
