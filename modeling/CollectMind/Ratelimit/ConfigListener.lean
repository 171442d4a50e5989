import CollectMind.Library.Forever

set_option autoImplicit false

/- `TenantConfigCacheConsumer` of ratelimit/config_cache.py: the task that keeps a connection
listening for configuration changes, cut at its awaits. A dropped connection is closed and
delivers nothing more, and is noticed only by an operation on it. -/
namespace CollectMind.ConfigListener

open Forever

/-- An `asyncpg` connection, and whether the listener is registered on it. -/
structure Connection where
  closed : Bool
  listening : Bool
  deriving DecidableEq, Repr

/-- The await at which the task stands. -/
inductive Control where
  | connecting
  | registering
  | parked
  | closing
  | sleeping
  | ended
  deriving DecidableEq, Repr

structure Consumer where
  control : Control
  conn : Option Connection
  backoffSeconds : Nat
  stopping : Bool
  deriving DecidableEq, Repr

inductive Event where
  | completes (succeeds : Bool)
  | lost
  | stop
  deriving DecidableEq, Repr

def Event.isCompletion : Event → Bool
  | .completes _ => true
  | .lost | .stop => false

/-- The task after `start()`: the first connection is on its way. -/
def started : Consumer := ⟨.connecting, none, 1, false⟩

def Consumer.isOpen (consumer : Consumer) : Bool :=
  consumer.conn.any fun conn => !conn.closed

/-- The `except` branch: an open connection is closed first, then the task sleeps. -/
def raised (consumer : Consumer) : Consumer :=
  { consumer with control := if consumer.isOpen then .closing else .sleeping }

/-- The head of the loop. -/
def loop (consumer : Consumer) : Consumer :=
  { consumer with control := if consumer.stopping then .ended else .connecting }

/-- The await ends, with a result or an exception. `Event().wait()` does not end. -/
def completes (consumer : Consumer) (succeeds : Bool) : Consumer :=
  match consumer.control with
  | .connecting =>
    if succeeds then { consumer with control := .registering, conn := some ⟨false, false⟩ }
    else raised consumer
  | .registering =>
    -- on a closed connection `add_listener` raises whatever the server does
    if succeeds && consumer.isOpen then
      { consumer with control := .parked, conn := some ⟨false, true⟩, backoffSeconds := 1 }
    else raised consumer
  | .closing => { consumer with control := .sleeping, conn := none }
  | .sleeping => loop { consumer with backoffSeconds := min (consumer.backoffSeconds * 2) 30 }
  | .parked | .ended => consumer

def drop (conn : Connection) : Connection := { conn with closed := true, listening := false }

def step (consumer : Consumer) : Event → Consumer
  | .completes succeeds => completes consumer succeeds
  | .lost => { consumer with conn := consumer.conn.map drop }
  | .stop =>
    -- the task is cancelled at its await, then an open connection is closed
    { consumer with
      control := .ended
      stopping := true
      conn := if consumer.isOpen then none else consumer.conn }

/-- The consumer holds an open connection with the listener registered. -/
def Consumer.healthy (consumer : Consumer) : Bool :=
  consumer.conn.any fun conn => !conn.closed && conn.listening

section Schedules

variable (schedule : Nat → Event)

/-- The consumer before the event with this number. -/
def consumerAt (n : Nat) : Consumer := stateAt step started schedule n

/-- An open connection is lost. -/
def Loses (n : Nat) : Prop := schedule n = .lost ∧ (consumerAt schedule n).isOpen = true

/-- After each loss there comes a time with a listening connection. -/
def Recovers : Prop :=
  ∀ n, Loses schedule n → ∃ m, n < m ∧ (consumerAt schedule m).healthy = true

/-- `stop()` is not called, and no operation hangs for ever. -/
structure Running : Prop where
  unstopped : ∀ n, schedule n ≠ .stop
  progress : ∀ n, ∃ m, n ≤ m ∧ (schedule m).isCompletion = true

/-- If the consumer keeps trying, some later attempt succeeds: it connects and registers. -/
def AttemptsSucceed : Prop :=
  (∀ n, ∃ m, n ≤ m ∧ (consumerAt schedule m).control = .connecting) →
    ∀ n, ∃ m, n ≤ m ∧ (consumerAt schedule m).control = .connecting ∧
      schedule m = .completes true ∧ schedule (m + 1) = .completes true

end Schedules

section Steps

variable {consumer : Consumer}

/-- What the end of an await makes of the consumer. -/
inductive Moves (consumer : Consumer) : Consumer → Prop where
  | connected (connecting : consumer.control = .connecting) :
      Moves consumer { consumer with control := .registering, conn := some ⟨false, false⟩ }
  | registered (registering : consumer.control = .registering) :
      Moves consumer { consumer with
        control := .parked, conn := some ⟨false, true⟩, backoffSeconds := 1 }
  | failed (trying : consumer.control = .connecting ∨ consumer.control = .registering) :
      Moves consumer (raised consumer)
  | closed (closing : consumer.control = .closing) :
      Moves consumer { consumer with control := .sleeping, conn := none }
  | slept (sleeping : consumer.control = .sleeping) :
      Moves consumer (loop { consumer with
        backoffSeconds := min (consumer.backoffSeconds * 2) 30 })
  | waits (waiting : consumer.control = .parked ∨ consumer.control = .ended) :
      Moves consumer consumer

theorem completes_moves (consumer : Consumer) (succeeds : Bool) :
    Moves consumer (completes consumer succeeds) := by
  unfold completes
  split
  · rename_i connecting
    split
    · exact .connected connecting
    · exact .failed (Or.inl connecting)
  · rename_i registering
    split
    · exact .registered registering
    · exact .failed (Or.inr registering)
  · rename_i closing
    exact .closed closing
  · rename_i sleeping
    exact .slept sleeping
  · rename_i parked
    exact .waits (Or.inl parked)
  · rename_i ended
    exact .waits (Or.inr ended)

theorem raised_control (consumer : Consumer) :
    (raised consumer).control = .closing ∨ (raised consumer).control = .sleeping := by
  unfold raised
  dsimp only
  split
  · exact Or.inl rfl
  · exact Or.inr rfl

theorem loop_control (consumer : Consumer) :
    (loop consumer).control = if consumer.stopping then .ended else .connecting := rfl

/-- The consumer comes to park only with a connection that it has just registered on. -/
theorem healthy_of_parks {event : Event} (before : consumer.control ≠ .parked)
    (after : (step consumer event).control = .parked) : (step consumer event).healthy = true := by
  cases event with
  | lost => exact absurd after before
  | stop => simp [step] at after
  | completes succeeds =>
      have moves := completes_moves consumer succeeds
      unfold step at after ⊢
      dsimp only at after ⊢
      generalize completes consumer succeeds = next at moves after ⊢
      cases moves with
      | connected => simp at after
      | registered => rfl
      | failed =>
          rcases raised_control consumer with closing | sleeping
          · simp [closing] at after
          · simp [sleeping] at after
      | closed => simp at after
      | slept =>
          rw [loop_control] at after
          split at after <;> simp at after
      | waits => exact absurd after before

/-- Without `stop()` the task goes on. -/
theorem step_goes_on {event : Event} (unstopped : event ≠ .stop)
    (running : consumer.stopping = false) (alive : consumer.control ≠ .ended) :
    (step consumer event).stopping = false ∧ (step consumer event).control ≠ .ended := by
  cases event with
  | lost => exact ⟨running, alive⟩
  | stop => exact absurd rfl unstopped
  | completes succeeds =>
      have moves := completes_moves consumer succeeds
      unfold step
      dsimp only
      generalize completes consumer succeeds = next at moves ⊢
      cases moves with
      | connected => exact ⟨running, by simp⟩
      | registered => exact ⟨running, by simp⟩
      | failed =>
          refine ⟨running, ?_⟩
          rcases raised_control consumer with closing | sleeping
          · simp [closing]
          · simp [sleeping]
      | closed => exact ⟨running, by simp⟩
      | slept => exact ⟨running, by simp [loop_control, running]⟩
      | waits => exact ⟨running, alive⟩

/-- How many awaits a consumer that is not parked has before its next attempt. -/
def rank (consumer : Consumer) : Nat :=
  match consumer.control with
  | .connecting => 0
  | .sleeping => 1
  | .closing => 2
  | .registering | .parked | .ended => 3

theorem completes_lowers (running : consumer.stopping = false) (alive : consumer.control ≠ .ended)
    (idle : consumer.control ≠ .connecting) (unparked : consumer.control ≠ .parked)
    {succeeds : Bool} (parksNot : (completes consumer succeeds).control ≠ .parked) :
    rank (completes consumer succeeds) < rank consumer := by
  have moves := completes_moves consumer succeeds
  generalize completes consumer succeeds = next at moves parksNot ⊢
  cases moves with
  | connected connecting => exact absurd connecting idle
  | registered => simp at parksNot
  | failed trying =>
      have registering := trying.resolve_left idle
      rcases raised_control consumer with closing | sleeping
      · simp [rank, closing, registering]
      · simp [rank, sleeping, registering]
  | closed closing => simp [rank, closing]
  | slept sleeping => simp [rank, loop_control, running, sleeping]
  | waits waiting =>
      rcases waiting with parked | ended
      · exact absurd parked unparked
      · exact absurd ended alive

theorem lost_deaf (consumer : Consumer) : (step consumer .lost).isOpen = false := by
  unfold step Consumer.isOpen
  cases consumer.conn with
  | none => rfl
  | some conn => rfl

/-- Only `stop()` ends the wait of a parked consumer: no operation is left to fail. -/
theorem step_parked {event : Event} (unstopped : event ≠ .stop)
    (parked : consumer.control = .parked) : (step consumer event).control = .parked := by
  cases event with
  | stop => exact absurd rfl unstopped
  | lost => exact parked
  | completes succeeds =>
      unfold step completes
      rw [parked]
      exact parked

theorem step_parked_deaf {event : Event} (unstopped : event ≠ .stop)
    (parked : consumer.control = .parked) (deaf : consumer.isOpen = false) :
    (step consumer event).isOpen = false := by
  cases event with
  | stop => exact absurd rfl unstopped
  | lost => exact lost_deaf consumer
  | completes succeeds =>
      unfold step completes
      rw [parked]
      exact deaf

theorem not_healthy_of_deaf (deaf : consumer.isOpen = false) : consumer.healthy = false := by
  unfold Consumer.isOpen at deaf
  unfold Consumer.healthy
  cases held : consumer.conn with
  | none => rfl
  | some conn =>
      rw [held] at deaf
      simp only [Option.any_some] at deaf ⊢
      simp [deaf]

end Steps

section Runs

variable {schedule : Nat → Event}

theorem consumerAt_succ (schedule : Nat → Event) (n : Nat) :
    consumerAt schedule (n + 1) = step (consumerAt schedule n) (schedule n) := rfl

theorem consumerAt_goes_on (unstopped : ∀ n, schedule n ≠ .stop) (n : Nat) :
    (consumerAt schedule n).stopping = false ∧ (consumerAt schedule n).control ≠ .ended := by
  induction n with
  | zero => exact ⟨rfl, by simp [consumerAt, stateAt, started]⟩
  | succ n ih => exact step_goes_on (unstopped n) ih.1 ih.2

/-- A consumer that does not park comes back to `connect`. -/
theorem tries_again (running : Running schedule) {n : Nat}
    (unparked : ∀ m, n ≤ m → (consumerAt schedule m).control ≠ .parked) :
    ∃ m, n ≤ m ∧ (consumerAt schedule m).control = .connecting := by
  have lowers : ∀ m, n ≤ m → (consumerAt schedule m).control ≠ .connecting →
      (schedule m).isCompletion = true →
      rank (consumerAt schedule (m + 1)) < rank (consumerAt schedule m) := by
    intro m later idle completion
    have going := consumerAt_goes_on running.unstopped m
    have parksNot := unparked (m + 1) (by omega)
    rw [consumerAt_succ] at parksNot ⊢
    cases event : schedule m with
    | lost => simp [event, Event.isCompletion] at completion
    | stop => simp [event, Event.isCompletion] at completion
    | completes succeeds =>
        rw [event] at parksNot
        exact completes_lowers going.1 going.2 idle (unparked m later) parksNot
  apply reaches step started schedule (fun consumer => consumer.control = .connecting) rank
    (fun event => event.isCompletion = true) running.progress n
  · intro m later idle
    right
    cases event : schedule m with
    | lost => rw [stateAt_succ, event]; exact Nat.le_refl _
    | stop => exact absurd event (running.unstopped m)
    | completes succeeds =>
        exact Nat.le_of_lt (lowers m later idle (by rw [event]; rfl))
  · intro m later idle completion
    exact Or.inr (lowers m later idle completion)

theorem attemptsSucceed_of_parked (unstopped : ∀ n, schedule n ≠ .stop) {n : Nat}
    (parked : (consumerAt schedule n).control = .parked) : AttemptsSucceed schedule := by
  intro tries
  obtain ⟨m, later, connecting⟩ := tries n
  have still := stays step started schedule (fun consumer => consumer.control = .parked)
    (fun m _ held => step_parked (unstopped m) held) parked later
  rw [consumerAt, still] at connecting
  cases connecting

/-- From any point on the consumer parks again, since it tries until an attempt succeeds. -/
theorem parks_again (running : Running schedule) (succeed : AttemptsSucceed schedule) (n : Nat) :
    ∃ m, n ≤ m ∧ (consumerAt schedule m).control = .parked := by
  by_contra never
  have unparked : ∀ m, n ≤ m → (consumerAt schedule m).control ≠ .parked :=
    fun m later parked => never ⟨m, later, parked⟩
  have tries : ∀ bound, ∃ m, bound ≤ m ∧ (consumerAt schedule m).control = .connecting := by
    intro bound
    obtain ⟨m, later, connecting⟩ := tries_again running (n := max n bound)
      (fun m later => unparked m (by omega))
    exact ⟨m, by omega, connecting⟩
  obtain ⟨m, later, connecting, connects, registers⟩ := succeed tries n
  have registering : consumerAt schedule (m + 1) =
      { consumerAt schedule m with control := .registering, conn := some ⟨false, false⟩ } := by
    rw [consumerAt_succ, connects]
    unfold step completes
    rw [connecting]
    rfl
  apply unparked (m + 2) (by omega)
  rw [consumerAt_succ, registers, registering]
  rfl

/-- A loss that is not met while parked is recovered from. -/
theorem recovers_of_not_parked (running : Running schedule) (succeed : AttemptsSucceed schedule)
    {n : Nat} (loses : Loses schedule n) (unparked : (consumerAt schedule n).control ≠ .parked) :
    ∃ m, n < m ∧ (consumerAt schedule m).healthy = true := by
  have still : (consumerAt schedule (n + 1)).control ≠ .parked := by
    rw [consumerAt_succ, loses.1]
    exact unparked
  obtain ⟨m, later, parked⟩ := parks_again running succeed (n + 1)
  obtain ⟨k, reached, _, before, after⟩ := crosses step started schedule
    (fun consumer => consumer.control = .parked) later still parked
  exact ⟨k + 1, by omega, healthy_of_parks before after⟩

/-- A loss met while parked is never noticed. -/
theorem deaf_of_parked (unstopped : ∀ n, schedule n ≠ .stop) {n : Nat} (loses : Loses schedule n)
    (parked : (consumerAt schedule n).control = .parked) {m : Nat} (later : n < m) :
    (consumerAt schedule m).healthy = false := by
  have now : (consumerAt schedule (n + 1)).control = .parked ∧
      (consumerAt schedule (n + 1)).isOpen = false := by
    rw [consumerAt_succ, loses.1]
    exact ⟨parked, lost_deaf _⟩
  have ever := stays step started schedule
    (fun consumer => consumer.control = .parked ∧ consumer.isOpen = false)
    (fun m _ held => ⟨step_parked (unstopped m) held.1, step_parked_deaf (unstopped m) held.1 held.2⟩)
    now later
  exact not_healthy_of_deaf ever.2

/-- While operations end and attempts succeed again and again, the consumer recovers from every
loss exactly if none is met while it is parked. -/
theorem recovers_iff_never_parked (running : Running schedule)
    (succeed : AttemptsSucceed schedule) :
    Recovers schedule ↔
      ∀ n, Loses schedule n → (consumerAt schedule n).control ≠ .parked := by
  constructor
  · intro recovers n loses parked
    obtain ⟨m, later, healthy⟩ := recovers n loses
    rw [deaf_of_parked running.unstopped loses parked later] at healthy
    cases healthy
  · intro unparked n loses
    exact recovers_of_not_parked running succeed loses (unparked n loses)

end Runs

/-- Every operation succeeds, but for one loss. -/
def lossAt (loss n : Nat) : Event :=
  if n = loss then .lost else .completes true

theorem lossAt_running (loss : Nat) : Running (lossAt loss) where
  unstopped n := by
    unfold lossAt
    split <;> simp
  progress n := by
    refine ⟨n + loss + 1, by omega, ?_⟩
    rw [lossAt, if_neg (by omega)]
    rfl

theorem eq_of_lossAt {loss n : Nat} (loses : Loses (lossAt loss) n) : n = loss := by
  have lost := loses.1
  unfold lossAt at lost
  split at lost
  · assumption
  · cases lost

/-- The connection is lost before the listener is registered. -/
theorem recovers_iff_never_parked_registering :
    Loses (lossAt 1) 1 ∧ Recovers (lossAt 1) := by
  have running := lossAt_running 1
  have parked : (consumerAt (lossAt 1) 6).control = .parked := by decide
  refine ⟨⟨rfl, by decide⟩, ?_⟩
  apply (recovers_iff_never_parked running
    (attemptsSucceed_of_parked running.unstopped parked)).mpr
  intro n loses
  rw [eq_of_lossAt loses]
  decide

/-- The connection is lost after the listener is registered. -/
theorem recovers_fails_when_parked :
    Running (lossAt 2) ∧ AttemptsSucceed (lossAt 2) ∧ Loses (lossAt 2) 2 ∧
      (∀ m, 2 < m → (consumerAt (lossAt 2) m).healthy = false) ∧ ¬ Recovers (lossAt 2) := by
  have running := lossAt_running 2
  have parked : (consumerAt (lossAt 2) 2).control = .parked := by decide
  have loses : Loses (lossAt 2) 2 := ⟨rfl, by decide⟩
  have deaf : ∀ m, 2 < m → (consumerAt (lossAt 2) m).healthy = false :=
    fun m later => deaf_of_parked running.unstopped loses parked later
  refine ⟨running, attemptsSucceed_of_parked running.unstopped parked, loses, deaf, ?_⟩
  intro recovers
  obtain ⟨m, later, healthy⟩ := recovers 2 loses
  rw [deaf m later] at healthy
  cases healthy

end CollectMind.ConfigListener
