import Mathlib.Order.Basic
import CollectMind.Library.Forever

set_option autoImplicit false

/- Read-through caches whose entries expire. Calls run at once; each looks into the cache, reads
the store if it finds nothing, may write back what it read, and returns it. What a call returns
was in the store at some instant, and no longer ago than the cache keeps its entries. -/
namespace ReadThrough

open Forever

/-- Where a call stands. -/
inductive Stage (ν : Type) where
  | idle
  | asked
  | holding (value : ν)
  | done (value : ν)
  | failed

/-- What matters of a state: the clock, the store, the cache with the deadlines of its entries,
and the calls. -/
structure View (σ κ ν τ : Type) where
  clock : σ → τ
  stored : σ → κ → ν
  cached : σ → κ → Option (τ × ν)
  stage : σ → Nat → Stage ν

variable {σ ι κ ν τ : Type} [Preorder τ]

/-- What one input can make of a call for the key. -/
inductive Moves (view : View σ κ ν τ) (state : σ) (key : κ) : Stage ν → Stage ν → Prop where
  | stays (stage : Stage ν) : Moves view state key stage stage
  | hits {deadline : τ} {value : ν} (cached : view.cached state key = some (deadline, value))
      (live : view.clock state ≤ deadline) : Moves view state key .idle (.done value)
  | misses : Moves view state key .idle .asked
  | reads : Moves view state key .asked (.holding (view.stored state key))
  | answers : Moves view state key .asked (.done (view.stored state key))
  | returns (value : ν) : Moves view state key (.holding value) (.done value)
  | fails (stage : Stage ν) : Moves view state key stage .failed

section Inversion

variable {view : View σ κ ν τ} {state : σ} {key : κ} {stage : Stage ν} {value : ν}

theorem Moves.to_idle (moves : Moves view state key stage .idle) : stage = .idle := by
  cases moves
  rfl

theorem Moves.to_holding (moves : Moves view state key stage (.holding value)) :
    stage = .holding value ∨ stage = .asked ∧ view.stored state key = value := by
  cases moves with
  | stays => exact Or.inl rfl
  | reads => exact Or.inr ⟨rfl, rfl⟩

theorem Moves.to_done (moves : Moves view state key stage (.done value)) :
    stage = .done value ∨ stage = .holding value ∨
      (stage = .asked ∧ view.stored state key = value) ∨
      (stage = .idle ∧ ∃ deadline, view.cached state key = some (deadline, value) ∧
        view.clock state ≤ deadline) := by
  cases moves with
  | stays => exact Or.inl rfl
  | returns => exact Or.inr (Or.inl rfl)
  | answers => exact Or.inr (Or.inr (Or.inl ⟨rfl, rfl⟩))
  | hits cached live => exact Or.inr (Or.inr (Or.inr ⟨rfl, _, cached, live⟩))

end Inversion

variable [Add τ]

/-- A machine that is a read-through cache: time does not go back, a call moves as it may, and an
entry of the cache is an older one or one that a call writes back. -/
structure Rules (view : View σ κ ν τ) (step : σ → ι → σ) (asks : Nat → κ) (ttl : τ) : Prop where
  clock : ∀ state input, view.clock state ≤ view.clock (step state input)
  stage : ∀ state input call, Moves view state (asks call) (view.stage state call)
    (view.stage (step state input) call)
  cached : ∀ state input key deadline value,
    view.cached (step state input) key = some (deadline, value) →
    view.cached state key = some (deadline, value) ∨
      ∃ call, asks call = key ∧ view.stage state call = .holding value ∧
        view.stage (step state input) call = .done value ∧ deadline = view.clock state + ttl

section Runs

variable (view : View σ κ ν τ) (step : σ → ι → σ) (asks : Nat → κ) (ttl : τ) (start : σ)
  (inputs : Nat → ι)

/-- The call reads the value from the store, to return it later. -/
structure Reads (n call : Nat) (value : ν) : Prop where
  asked : view.stage (stateAt step start inputs n) call = .asked
  stored : view.stored (stateAt step start inputs n) (asks call) = value
  holds : view.stage (stateAt step start inputs (n + 1)) call = .holding value

/-- The call reads the value from the store and returns it at once. -/
structure Answers (n call : Nat) (value : ν) : Prop where
  asked : view.stage (stateAt step start inputs n) call = .asked
  stored : view.stored (stateAt step start inputs n) (asks call) = value
  returned : view.stage (stateAt step start inputs (n + 1)) call = .done value

/-- The call returns the value that it has read before. -/
structure Returns (n call : Nat) (value : ν) : Prop where
  held : view.stage (stateAt step start inputs n) call = .holding value
  returned : view.stage (stateAt step start inputs (n + 1)) call = .done value

/-- The call writes the value to the cache and returns it. -/
structure Writes (n call : Nat) (value : ν) : Prop extends
    Returns view step start inputs n call value where
  cached : view.cached (stateAt step start inputs (n + 1)) (asks call) =
    some (view.clock (stateAt step start inputs n) + ttl, value)

/-- Where the answer of a call comes from: from its own reading of the store, or from that of a
call for the same key whose entry had not expired when this call was made. -/
inductive Source (called finish call : Nat) (value : ν) : Prop where
  | direct (read : Nat) (after : called ≤ read) (before : read < finish)
      (answers : Answers view step asks start inputs read call value)
  | own (read last : Nat) (after : called ≤ read) (ordered : read < last) (before : last < finish)
      (reads : Reads view step asks start inputs read call value)
      (returns : Returns view step start inputs last call value)
  | kept (producer read write : Nat) (same : asks producer = asks call) (ordered : read < write)
      (before : write < finish) (reads : Reads view step asks start inputs read producer value)
      (writes : Writes view step asks ttl start inputs write producer value)
      (live : view.clock (stateAt step start inputs called) ≤
        view.clock (stateAt step start inputs write) + ttl)

/-- No call has begun and nothing is cached. -/
structure Fresh : Prop where
  idle : ∀ call, view.stage start call = .idle
  empty : ∀ key, view.cached start key = none

variable {view step asks ttl start inputs}

theorem clock_mono (rules : Rules view step asks ttl) {n m : Nat} (later : n ≤ m) :
    view.clock (stateAt step start inputs n) ≤ view.clock (stateAt step start inputs m) := by
  induction later with
  | refl => exact le_refl _
  | @step m later ih => exact le_trans ih (rules.clock _ (inputs m))

/-- A call that has not begun had not begun before. -/
theorem idle_before (rules : Rules view step asks ttl) {n m call : Nat} (earlier : n ≤ m)
    (idle : view.stage (stateAt step start inputs m) call = .idle) :
    view.stage (stateAt step start inputs n) call = .idle := by
  induction earlier with
  | refl => exact idle
  | @step m earlier ih =>
      apply ih
      have moves := rules.stage (stateAt step start inputs m) (inputs m) call
      rw [← stateAt_succ step, idle] at moves
      exact moves.to_idle

/-- A call that has begun has not begun later. -/
theorem called_le (rules : Rules view step asks ttl) {called n call : Nat}
    (idle : view.stage (stateAt step start inputs called) call = .idle)
    (begun : view.stage (stateAt step start inputs n) call ≠ .idle) : called ≤ n := by
  by_contra early
  exact begun (idle_before rules (by omega : n ≤ called) idle)

/-- What a call holds it has read. -/
theorem holding_read (rules : Rules view step asks ttl) (fresh : Fresh view start) {n call : Nat}
    {value : ν} (holds : view.stage (stateAt step start inputs n) call = .holding value) :
    ∃ read, read < n ∧ Reads view step asks start inputs read call value := by
  induction n with
  | zero =>
      rw [stateAt, fresh.idle call] at holds
      cases holds
  | succ n ih =>
      have moves := rules.stage (stateAt step start inputs n) (inputs n) call
      rw [← stateAt_succ step, holds] at moves
      rcases moves.to_holding with held | ⟨asked, stored⟩
      · obtain ⟨read, earlier, reads⟩ := ih held
        exact ⟨read, by omega, reads⟩
      · exact ⟨n, by omega, asked, stored, holds⟩

/-- What is cached a call has read and then written. -/
theorem cached_written (rules : Rules view step asks ttl) (fresh : Fresh view start) {n : Nat}
    {key : κ} {deadline : τ} {value : ν}
    (cached : view.cached (stateAt step start inputs n) key = some (deadline, value)) :
    ∃ producer read write, asks producer = key ∧ read < write ∧ write < n ∧
      Reads view step asks start inputs read producer value ∧
      Writes view step asks ttl start inputs write producer value ∧
      deadline = view.clock (stateAt step start inputs write) + ttl := by
  induction n with
  | zero =>
      rw [stateAt, fresh.empty key] at cached
      cases cached
  | succ n ih =>
      rcases rules.cached (stateAt step start inputs n) (inputs n) key deadline value cached with
        older | ⟨producer, same, held, returned, expiry⟩
      · obtain ⟨producer, read, write, same, ordered, before, rest⟩ := ih older
        exact ⟨producer, read, write, same, ordered, by omega, rest⟩
      · obtain ⟨read, ordered, reads⟩ := holding_read rules fresh held
        refine ⟨producer, read, n, same, ordered, by omega, reads, ⟨⟨held, returned⟩, ?_⟩, expiry⟩
        rw [same, cached, expiry]

/-- What a call returns was in the store while it ran, or was written to the cache no longer than
`ttl` before the call was made. -/
theorem source_of_done (rules : Rules view step asks ttl) (fresh : Fresh view start)
    {called finish call : Nat} {value : ν}
    (idle : view.stage (stateAt step start inputs called) call = .idle)
    (done : view.stage (stateAt step start inputs finish) call = .done value) :
    Source view step asks ttl start inputs called finish call value := by
  have order : called ≤ finish := called_le rules idle (by rw [done]; simp)
  have unanswered : view.stage (stateAt step start inputs called) call ≠ .done value := by
    rw [idle]
    simp
  -- the input that brings the answer
  obtain ⟨n, after, before, pending, returned⟩ := crosses step start inputs
    (fun state => view.stage state call = .done value) order unanswered done
  have moves := rules.stage (stateAt step start inputs n) (inputs n) call
  rw [← stateAt_succ step, returned] at moves
  rcases moves.to_done with already | held | ⟨asked, stored⟩ | ⟨unbegun, deadline, cached, live⟩
  · exact absurd already pending
  · obtain ⟨read, earlier, reads⟩ := holding_read rules fresh held
    have begun : called ≤ read := called_le rules idle (by rw [reads.asked]; simp)
    exact .own read n begun earlier before reads ⟨held, returned⟩
  · exact .direct n after before ⟨asked, stored, returned⟩
  · obtain ⟨producer, read, write, same, ordered, earlier, reads, writes, expiry⟩ :=
      cached_written rules fresh cached
    apply Source.kept producer read write same ordered (by omega) reads writes
    rw [← expiry]
    exact le_trans (clock_mono rules after) live

end Runs

end ReadThrough
