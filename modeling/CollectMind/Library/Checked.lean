import Mathlib.Data.List.Forall2

set_option autoImplicit false

/- Computations that stop at their first error: what a success says about the parts. -/
namespace Checked

variable {ε α β : Type}

theorem bind_ok_iff (first : Except ε α) (next : α → Except ε β) (result : β) :
    first >>= next = .ok result ↔ ∃ value, first = .ok value ∧ next value = .ok result := by
  cases first with
  | error reason =>
      constructor
      · intro failed
        cases failed
      · rintro ⟨value, success, _⟩
        cases success
  | ok value =>
      constructor
      · intro success
        exact ⟨value, rfl, success⟩
      · rintro ⟨other, same, success⟩
        cases same
        exact success

theorem mapError_ok {δ : Type} {result : Except ε α} {render : ε → δ} {value : α}
    (success : result.mapError render = .ok value) : result = .ok value := by
  cases result with
  | error failure => cases success
  | ok other =>
      cases success
      rfl

/-- The value of a computation that is known to succeed. -/
theorem eq_ok_get {result : Except ε α} (succeeds : result.toOption.isSome = true) :
    result = .ok (result.toOption.get succeeds) := by
  cases result with
  | error failure => cases succeeds
  | ok value => rfl

/-- A result behind a check. -/
theorem guard_ok_iff {refused : Prop} [Decidable refused] {failure : ε} {value result : α} :
    (if refused then Except.error failure else .ok value) = .ok result ↔
      ¬ refused ∧ value = result := by
  by_cases stops : refused
  · simp [stops]
  · simp [stops]

/-- A checked traversal succeeds when it succeeds at every place. -/
theorem mapM_ok_iff (check : α → Except ε β) (inputs : List α) (results : List β) :
    inputs.mapM check = .ok results ↔
      List.Forall₂ (fun input result => check input = .ok result) inputs results := by
  induction inputs generalizing results with
  | nil =>
      rw [List.mapM_nil, List.forall₂_nil_left_iff]
      constructor
      · intro same
        cases same
        rfl
      · rintro rfl
        rfl
  | cons input rest ih =>
      rw [List.mapM_cons, List.forall₂_cons_left_iff, bind_ok_iff]
      constructor
      · rintro ⟨result, here, there⟩
        obtain ⟨others, success, same⟩ := (bind_ok_iff _ _ _).mp there
        cases same
        exact ⟨result, others, here, (ih others).mp success, rfl⟩
      · rintro ⟨result, others, here, there, rfl⟩
        exact ⟨result, here, (bind_ok_iff _ _ _).mpr ⟨others, (ih others).mpr there, rfl⟩⟩

theorem mapM_map_ok {γ : Type} {check : β → Except ε γ} {arrange : α → β} {result : α → γ}
    {inputs : List α} (each : ∀ input ∈ inputs, check (arrange input) = .ok (result input)) :
    (inputs.map arrange).mapM check = .ok (inputs.map result) := by
  rw [mapM_ok_iff, List.forall₂_map_left_iff, List.forall₂_map_right_iff, List.forall₂_same]
  exact each

/-- A traversal that fails without a reason succeeds the same way. -/
theorem mapM_some_iff (check : α → Option β) (inputs : List α) (results : List β) :
    inputs.mapM check = some results ↔
      List.Forall₂ (fun input result => check input = some result) inputs results := by
  induction inputs generalizing results with
  | nil =>
      rw [List.mapM_nil, List.forall₂_nil_left_iff]
      exact ⟨fun same => (Option.some.inj same).symm, fun same => congrArg some same.symm⟩
  | cons input rest ih =>
      rw [List.mapM_cons, List.forall₂_cons_left_iff]
      constructor
      · intro success
        obtain ⟨result, here, success⟩ := Option.bind_eq_some_iff.mp success
        obtain ⟨others, there, same⟩ := Option.bind_eq_some_iff.mp success
        cases same
        exact ⟨result, others, here, (ih others).mp there, rfl⟩
      · rintro ⟨result, others, here, there, rfl⟩
        simp [here, (ih others).mpr there]

theorem forall₂_exists {relation : α → β → Prop} {inputs : List α} {results : List β}
    (pointwise : List.Forall₂ relation inputs results) {input : α} (member : input ∈ inputs) :
    ∃ result ∈ results, relation input result := by
  induction pointwise with
  | nil => cases member
  | cons here _ ih =>
      rcases List.mem_cons.mp member with rfl | inside
      · exact ⟨_, by simp, here⟩
      · obtain ⟨result, found, related⟩ := ih inside
        exact ⟨result, by simp [found], related⟩

/-- A checked fold keeps whatever each successful step keeps. -/
theorem foldlM_ok_invariant (check : β → α → Except ε β) (invariant : β → Prop)
    (inputs : List α)
    (preserved : ∀ state input next, input ∈ inputs → check state input = .ok next →
      invariant state → invariant next)
    (state result : β) (start : invariant state)
    (success : inputs.foldlM check state = .ok result) : invariant result := by
  induction inputs generalizing state with
  | nil =>
      cases success
      exact start
  | cons input rest ih =>
      rw [List.foldlM_cons, bind_ok_iff] at success
      obtain ⟨next, here, there⟩ := success
      exact ih (fun state input next member => preserved state input next (by simp [member]))
        next (preserved state input next (by simp) here start) there

/-- A checked fold that has succeeded has accepted each of its inputs in some state. -/
theorem foldlM_ok_each (check : β → α → Except ε β) (inputs : List α) (state result : β)
    (success : inputs.foldlM check state = .ok result) :
    ∀ input ∈ inputs, ∃ before after, check before input = .ok after := by
  induction inputs generalizing state with
  | nil =>
      intro input member
      cases member
  | cons head rest ih =>
      rw [List.foldlM_cons, bind_ok_iff] at success
      obtain ⟨next, here, there⟩ := success
      intro input member
      rcases List.mem_cons.mp member with rfl | member
      · exact ⟨state, next, here⟩
      · exact ih next there input member

end Checked
