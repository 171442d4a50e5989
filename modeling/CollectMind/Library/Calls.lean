import CollectMind.Library.Checked

set_option autoImplicit false

/- A sequence of calls to a store, each a transaction of its own, made until one raises.
Besides what the call itself raises, the connection may fail: before the commit, or
after it, when the caller sees an error although the store has changed. -/
namespace Calls

variable {σ ε : Type}

/-- What the connection does to one call. -/
inductive Fate (ε : Type) where
  | runs
  | rollsBack (failure : ε)
  | commitsThenRaises (failure : ε)

/-- One call: the store after it, and what the caller sees raised. -/
def call (fate : Fate ε) (operation : σ → Except ε σ) (store : σ) : σ × Option ε :=
  match fate, operation store with
  | .rollsBack failure, _ => (store, some failure)
  | _, .error failure => (store, some failure)
  | .runs, .ok next => (next, none)
  | .commitsThenRaises failure, .ok next => (next, some failure)

/-- The same fate, with its failure told in other words. -/
def Fate.map {δ : Type} (render : ε → δ) : Fate ε → Fate δ
  | .runs => .runs
  | .rollsBack failure => .rollsBack (render failure)
  | .commitsThenRaises failure => .commitsThenRaises (render failure)

theorem call_mapError {δ : Type} (render : ε → δ) (fate : Fate ε) (operation : σ → Except ε σ)
    (store : σ) :
    call (fate.map render) (fun store => (operation store).mapError render) store =
      ((call fate operation store).1, (call fate operation store).2.map render) := by
  cases effect : operation store with
  | error failure => cases fate <;> simp [call, Fate.map, effect, Except.mapError]
  | ok next => cases fate <;> simp [call, Fate.map, effect, Except.mapError]

/-- The calls in turn, the first of them under `fates k`. -/
def sequence (fates : Nat → Fate ε) : Nat → List (σ → Except ε σ) → σ → σ × Option ε
  | _, [], store => (store, none)
  | k, operation :: rest, store =>
    match call (fates k) operation store with
    | (next, none) => sequence fates (k + 1) rest next
    | (next, some failure) => (next, some failure)

/-- The stores that the first few operations lead to, each taking effect. -/
def Reaches : List (σ → Except ε σ) → σ → σ → Prop
  | [], store, final => final = store
  | operation :: rest, store, final =>
    final = store ∨ ∃ next, operation store = .ok next ∧ Reaches rest next final

theorem Reaches.refl (operations : List (σ → Except ε σ)) (store : σ) :
    Reaches operations store store := by
  cases operations with
  | nil => rfl
  | cons operation rest => exact Or.inl rfl

/-- What each operation does to the store, up to repetition, is what the first few do. -/
theorem Reaches.related {relation : σ → σ → Prop} (refl : ∀ store, relation store store)
    (trans : ∀ first second third, relation first second → relation second third →
      relation first third)
    {operations : List (σ → Except ε σ)} {store final : σ}
    (each : ∀ operation ∈ operations, ∀ before after, operation before = .ok after →
      relation before after)
    (reached : Reaches operations store final) : relation store final := by
  induction operations generalizing store with
  | nil =>
      rw [show final = store from reached]
      exact refl store
  | cons operation rest ih =>
      rcases reached with kept | ⟨next, effect, onwards⟩
      · rw [kept]
        exact refl store
      · have first := each operation List.mem_cons_self store next effect
        apply trans store next final first
        exact ih (fun other member => each other (List.mem_cons_of_mem _ member)) onwards

/-- A call leaves the store alone or has the effect of its operation. -/
theorem call_cases (fate : Fate ε) (operation : σ → Except ε σ) (store : σ) :
    (∃ failure, call fate operation store = (store, some failure)) ∨
      ∃ next raised, operation store = .ok next ∧ call fate operation store = (next, raised) := by
  unfold call
  split
  · exact Or.inl ⟨_, rfl⟩
  · exact Or.inl ⟨_, rfl⟩
  · rename_i effect
    exact Or.inr ⟨_, _, effect, rfl⟩
  · rename_i effect
    exact Or.inr ⟨_, _, effect, rfl⟩

theorem call_store (fate : Fate ε) (operation : σ → Except ε σ) (store : σ) :
    (call fate operation store).1 = store ∨
      operation store = .ok (call fate operation store).1 := by
  rcases call_cases fate operation store with ⟨failure, kept⟩ | ⟨next, raised, effect, outcome⟩
  · left
    rw [kept]
  · right
    rw [outcome]
    exact effect

/-- A call that returns has had the effect of its operation. -/
theorem call_returns {fate : Fate ε} {operation : σ → Except ε σ} {store : σ}
    (quiet : (call fate operation store).2 = none) :
    operation store = .ok (call fate operation store).1 := by
  rcases call_cases fate operation store with ⟨failure, raised⟩ | ⟨next, raised, effect, outcome⟩
  · rw [raised] at quiet
    cases quiet
  · rw [effect, outcome]

/-- A call returns with a store exactly if the connection holds and its operation leads there. -/
theorem call_returns_iff {fate : Fate ε} {operation : σ → Except ε σ} {store next : σ} :
    call fate operation store = (next, none) ↔ fate = .runs ∧ operation store = .ok next := by
  cases effect : operation store with
  | error failure => cases fate <;> simp [call, effect]
  | ok other => cases fate <;> simp [call, effect]

theorem sequence_runs {fates : Nat → Fate ε} {k : Nat} {operation : σ → Except ε σ}
    {store next : σ} (rest : List (σ → Except ε σ)) (runs : fates k = .runs)
    (effect : operation store = .ok next) :
    sequence fates k (operation :: rest) store = sequence fates (k + 1) rest next := by
  rw [sequence, call_returns_iff.mpr ⟨runs, effect⟩]

/-- However the calls fail, the store is as if the first few had been made and no other. -/
theorem sequence_reaches (fates : Nat → Fate ε) (k : Nat) (operations : List (σ → Except ε σ))
    (store : σ) : Reaches operations store (sequence fates k operations store).1 := by
  induction operations generalizing k store with
  | nil => rfl
  | cons operation rest ih =>
      rw [sequence]
      rcases call_cases (fates k) operation store with
        ⟨failure, raised⟩ | ⟨next, raised, effect, outcome⟩
      · rw [raised]
        exact Or.inl rfl
      · rw [outcome]
        refine Or.inr ⟨next, effect, ?_⟩
        cases raised with
        | none => exact ih (k + 1) next
        | some failure => exact Reaches.refl rest next

/-- Calls that all return have had the effects of their operations in turn. -/
theorem sequence_returns (fates : Nat → Fate ε) (k : Nat) (operations : List (σ → Except ε σ))
    (store : σ) (quiet : (sequence fates k operations store).2 = none) :
    operations.foldlM (fun store operation => operation store) store =
      .ok (sequence fates k operations store).1 := by
  induction operations generalizing k store with
  | nil => rfl
  | cons operation rest ih =>
      rw [sequence] at quiet ⊢
      rw [List.foldlM_cons, Checked.bind_ok_iff]
      rcases call_cases (fates k) operation store with
        ⟨failure, failed⟩ | ⟨next, raised, effect, outcome⟩
      · rw [failed] at quiet
        cases quiet
      · rw [outcome] at quiet ⊢
        cases raised with
        | none => exact ⟨next, effect, ih (k + 1) next quiet⟩
        | some failure => cases quiet

section FailurePoints

variable {τ υ : Type}

def Fate.commits : Fate ε → Bool
  | .rollsBack _ => false
  | .runs | .commitsThenRaises _ => true

/-- The call at a position is made, since those before it return, and it commits. -/
def CommitsAt (fates : Nat → Fate ε) : Nat → List (σ → Except ε σ) → Nat → σ → Prop
  | _, [], _, _ => False
  | k, operation :: _, 0, store =>
    (∃ next, operation store = .ok next) ∧ (fates k).commits = true
  | k, operation :: rest, position + 1, store =>
    ∃ next, call (fates k) operation store = (next, none) ∧
      CommitsAt fates (k + 1) rest position next

/-- A call is made and commits exactly if the connection holds until then and commits, and all
operations up to its own can take effect. -/
theorem commitsAt_iff (fates : Nat → Fate ε) (before : List (σ → Except ε σ))
    (operation : σ → Except ε σ) (after : List (σ → Except ε σ)) (k : Nat) (store : σ) :
    CommitsAt fates k (before ++ operation :: after) before.length store ↔
      (∀ i < before.length, fates (k + i) = .runs) ∧
        (∃ mid next, before.foldlM (fun store operation => operation store) store = .ok mid ∧
          operation mid = .ok next) ∧
        (fates (k + before.length)).commits = true := by
  induction before generalizing k store with
  | nil =>
      constructor
      · rintro ⟨⟨next, effect⟩, commits⟩
        exact ⟨fun i below => absurd below (Nat.not_lt_zero i), ⟨store, next, rfl, effect⟩, commits⟩
      · rintro ⟨_, ⟨mid, next, same, effect⟩, commits⟩
        cases same
        exact ⟨⟨next, effect⟩, commits⟩
  | cons first before ih =>
      have shift : k + 1 + before.length = k + (before.length + 1) := by omega
      simp only [List.cons_append, List.length_cons, CommitsAt, call_returns_iff, ih, shift,
        List.foldlM_cons, Checked.bind_ok_iff]
      constructor
      · rintro ⟨next, ⟨now, effect⟩, later, ⟨mid, final, onwards, last⟩, commits⟩
        refine ⟨?_, ⟨mid, final, ⟨next, effect, onwards⟩, last⟩, commits⟩
        intro i below
        cases i with
        | zero => exact now
        | succ i =>
            have runs := later i (Nat.lt_of_succ_lt_succ below)
            rwa [Nat.add_assoc, Nat.add_comm 1] at runs
      · rintro ⟨runs, ⟨mid, final, ⟨next, effect, onwards⟩, last⟩, commits⟩
        refine ⟨next, ⟨runs 0 (Nat.succ_pos _), effect⟩, ?_, ⟨mid, final, onwards, last⟩, commits⟩
        intro i below
        rw [Nat.add_assoc, Nat.add_comm 1]
        exact runs (i + 1) (Nat.succ_lt_succ below)

/-- What is seen of the store through `view` does not change in the operation. -/
def Keeps (view : σ → τ) (operation : σ → Except ε σ) : Prop :=
  ∀ store next, operation store = .ok next → view next = view store

theorem Keeps.map {view : σ → τ} {operation : σ → Except ε σ} (keeps : Keeps view operation)
    (further : τ → υ) : Keeps (fun store => further (view store)) operation := by
  intro store next effect
  exact congrArg further (keeps store next effect)

/-- A call that commits has the effect of its operation. -/
theorem call_commits {fate : Fate ε} {operation : σ → Except ε σ} {store next : σ}
    (effect : operation store = .ok next) (commits : fate.commits = true) :
    (call fate operation store).1 = next := by
  cases fate with
  | runs => simp only [call, effect]
  | rollsBack failure => cases commits
  | commitsThenRaises failure => simp only [call, effect]

/-- A call that does not commit leaves the store alone and raises. -/
theorem call_not_commits {fate : Fate ε} {operation : σ → Except ε σ} {store : σ}
    (refused : ¬ ((∃ next, operation store = .ok next) ∧ fate.commits = true)) :
    ∃ failure, call fate operation store = (store, some failure) := by
  cases fate with
  | rollsBack failure => exact ⟨failure, rfl⟩
  | runs =>
      cases effect : operation store with
      | error failure => exact ⟨failure, by simp only [call, effect]⟩
      | ok next => exact absurd ⟨⟨next, effect⟩, rfl⟩ refused
  | commitsThenRaises failure =>
      cases effect : operation store with
      | error raised => exact ⟨raised, by simp only [call, effect]⟩
      | ok next => exact absurd ⟨⟨next, effect⟩, rfl⟩ refused

theorem Keeps.call {view : σ → τ} {operation : σ → Except ε σ} (keeps : Keeps view operation)
    (fate : Fate ε) (store : σ) : view (call fate operation store).1 = view store := by
  rcases call_store fate operation store with kept | effect
  · rw [kept]
  · exact keeps store _ effect

theorem sequence_keeps (view : σ → τ) (fates : Nat → Fate ε) (k : Nat)
    (operations : List (σ → Except ε σ)) (keep : ∀ operation ∈ operations, Keeps view operation)
    (store : σ) : view (sequence fates k operations store).1 = view store := by
  induction operations generalizing k store with
  | nil => rfl
  | cons operation rest ih =>
      have first := (keep operation List.mem_cons_self).call (fates k) store
      have others := ih (k + 1) fun other member => keep other (List.mem_cons_of_mem _ member)
      rw [sequence]
      split
      · rename_i next outcome
        rw [outcome] at first
        exact (others next).trans first
      · rename_i next failure outcome
        rw [outcome] at first
        exact first

/-- When one operation alone bears on a property, and establishes it, the property holds in the
end if it held before or that call commits. -/
theorem sequence_establishes (holds : σ → Prop) (fates : Nat → Fate ε) (k : Nat)
    (before : List (σ → Except ε σ)) (operation : σ → Except ε σ) (after : List (σ → Except ε σ))
    (keepBefore : ∀ other ∈ before, Keeps holds other)
    (keepAfter : ∀ other ∈ after, Keeps holds other)
    (establishes : ∀ store next, operation store = .ok next → holds next) (store : σ) :
    holds (sequence fates k (before ++ operation :: after) store).1 ↔
      holds store ∨ CommitsAt fates k (before ++ operation :: after) before.length store := by
  induction before generalizing k store with
  | nil =>
      rw [List.nil_append, sequence]
      by_cases commits : (∃ next, operation store = .ok next) ∧ (fates k).commits = true
      · obtain ⟨next, effect⟩ := commits.1
        have reached := call_commits effect commits.2
        have established := establishes store next effect
        rw [← reached] at established
        refine iff_of_true ?_ (Or.inr commits)
        split
        · rename_i final outcome
          rw [outcome] at established
          exact (sequence_keeps holds fates (k + 1) after keepAfter final).mpr established
        · rename_i final failure outcome
          rw [outcome] at established
          exact established
      · obtain ⟨failure, raised⟩ := call_not_commits commits
        rw [raised]
        exact ⟨Or.inl, fun either => either.resolve_right commits⟩
  | cons first before ih =>
      have kept := (keepBefore first List.mem_cons_self).call (fates k) store
      have others := ih (k + 1) fun other member => keepBefore other (List.mem_cons_of_mem _ member)
      rw [List.cons_append, sequence, List.length_cons, CommitsAt]
      cases outcome : call (fates k) first store with
      | mk next raised =>
          rw [outcome] at kept
          cases raised with
          | some failure =>
              have stopped : ¬ ∃ other, (next, some failure) = (other, none) ∧
                  CommitsAt fates (k + 1) (before ++ operation :: after) before.length other := by
                rintro ⟨other, returned, _⟩
                cases returned
              rw [← kept]
              exact ⟨Or.inl, fun either => either.resolve_right stopped⟩
          | none =>
              have goes : (∃ other, (next, (none : Option ε)) = (other, none) ∧
                  CommitsAt fates (k + 1) (before ++ operation :: after) before.length other) ↔
                  CommitsAt fates (k + 1) (before ++ operation :: after) before.length next := by
                simp only [Prod.mk.injEq, and_true, exists_eq_left']
              rw [goes, ← kept]
              exact others next

end FailurePoints

end Calls
