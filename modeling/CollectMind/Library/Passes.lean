import CollectMind.Library.Calls
import CollectMind.Library.Processes

set_option autoImplicit false

/- Workers that poll a shared list of jobs and go through what they found, each job in a fixed
number of transactions. Nothing reserves a job: one that two workers have listed is worked on
twice. All that happens here is decided by the list, the order of the turns and their fates. -/
namespace Passes

open Calls (Fate)

variable {κ τ α ε : Type} {n : Nat}

/-- `poll` lists the jobs at a time, given the keys that have been closed; the transaction at
`closing` of a pass closes its key. -/
structure Queue (κ τ α : Type) where
  poll : List κ → τ → List α
  key : α → κ
  length : α → Nat
  closing : α → Nat

/-- A worker between two polls, or at a transaction of a pass over a job, with the rest of its
list to come. -/
inductive Worker (α : Type) where
  | idle
  | busy (job : α) (position : Nat) (rest : List α)

def Worker.next : List α → Worker α
  | [] => .idle
  | job :: rest => .busy job 0 rest

/-- A transaction of a pass. Those before it ran. -/
structure Turn (α ε : Type) where
  job : α
  position : Nat
  fate : Fate ε

def Worker.after (queue : Queue κ τ α) (job : α) (position : Nat) (rest : List α) :
    Fate ε → Worker α
  | .runs =>
    if position + 1 = queue.length job then .next rest else .busy job (position + 1) rest
  | _ => .idle

/-- The next turn of a worker. A pass that fails ends its worker's round. -/
def act (queue : Queue κ τ α) (closed : List κ) (worker : Worker α) (input : Fate ε × τ) :
    List κ × Worker α × Option (Turn α ε) :=
  match worker with
  | .idle =>
    match input.1 with
    | .runs => (closed, .next (queue.poll closed input.2), none)
    | _ => (closed, .idle, none)
  | .busy job position rest =>
    (if input.1.commits && position == queue.closing job then closed ++ [queue.key job] else closed,
      Worker.after queue job position rest input.1, some ⟨job, position, input.1⟩)

abbrev System (κ α : Type) (n : Nat) := Processes.System (List κ) (Worker α) n

def System.start (κ α : Type) (n : Nat) : System κ α n := ⟨[], fun _ => .idle⟩

/-- What the turns of a schedule are. -/
def turns (queue : Queue κ τ α) (schedule : List (Fin n × (Fate ε × τ))) :
    List (Option (Turn α ε)) :=
  Runs.outputs (Processes.step (act queue)) (System.start κ α n) schedule

def after (queue : Queue κ τ α) (schedule : List (Fin n × (Fate ε × τ))) : System κ α n :=
  Runs.final (Processes.step (act queue)) (System.start κ α n) schedule

/-- The turn is the last of its pass. -/
def Turn.isLast (queue : Queue κ τ α) (turn : Turn α ε) : Bool :=
  match turn.fate with
  | .runs => turn.position + 1 == queue.length turn.job
  | _ => true

/-- The transaction at a position is behind the turn, or it is the turn's own and commits. -/
def Turn.commits (position : Nat) (turn : Turn α ε) : Bool :=
  decide (position < turn.position) || (turn.position == position && turn.fate.commits)

/-- The passes of a schedule that have ended, each with its last turn. -/
def passes (queue : Queue κ τ α) (schedule : List (Fin n × (Fate ε × τ))) : List (Turn α ε) :=
  (turns queue schedule).filterMap fun turn => turn.filter (Turn.isLast queue)

/-- The turn is at a position of a pass over such a job, and commits. -/
def commitsAt (job : α → Bool) (position : Nat) (turn : Option (Turn α ε)) : Bool :=
  turn.any fun turn => job turn.job && (turn.position == position && turn.fate.commits)

/-- The turn ends a pass over such a job that has committed the transaction at a position. -/
def endsWith (queue : Queue κ τ α) (job : α → Bool) (position : Nat) (turn : Option (Turn α ε)) :
    Bool :=
  (turn.filter (Turn.isLast queue)).any fun turn => job turn.job && turn.commits position

/-- A worker is in a pass over such a job, beyond the position. -/
def Worker.beyond (job : α → Bool) (position : Nat) : Worker α → Bool
  | .idle => false
  | .busy own reached _ => job own && decide (position < reached)

theorem busy_beyond (job : α → Bool) (position : Nat) (own : α) (reached : Nat) (rest : List α) :
    (Worker.busy own reached rest).beyond job position = (job own && decide (position < reached)) :=
  rfl

theorem next_beyond (job : α → Bool) (position : Nat) (rest : List α) :
    (Worker.next rest).beyond job position = false := by
  cases rest with
  | nil => rfl
  | cons first others => simp [Worker.next, Worker.beyond]

/-- A turn ends its pass, or it runs and the pass goes on. -/
theorem after_cases (queue : Queue κ τ α) (own : α) (reached : Nat) (rest : List α)
    (fate : Fate ε) :
    ((⟨own, reached, fate⟩ : Turn α ε).isLast queue = true ∧ ∀ (job : α → Bool) (position : Nat),
        (Worker.after queue own reached rest fate).beyond job position = false) ∨
      ((⟨own, reached, fate⟩ : Turn α ε).isLast queue = false ∧ fate = .runs ∧
        Worker.after queue own reached rest fate = .busy own (reached + 1) rest) := by
  cases fate with
  | rollsBack failure => exact Or.inl ⟨rfl, fun _ _ => rfl⟩
  | commitsThenRaises failure => exact Or.inl ⟨rfl, fun _ _ => rfl⟩
  | runs =>
      by_cases last : reached + 1 = queue.length own
      · refine Or.inl ⟨by simp [Turn.isLast, last], fun job position => ?_⟩
        rw [Worker.after, if_pos last]
        exact next_beyond job position rest
      · refine Or.inr ⟨by simp [Turn.isLast, last], rfl, ?_⟩
        rw [Worker.after, if_neg last]

/-- A pass that has committed a transaction is beyond it, or has ended. -/
theorem act_balance (queue : Queue κ τ α) (job : α → Bool) (position : Nat) (closed : List κ)
    (worker : Worker α) (input : Fate ε × τ) :
    (commitsAt job position (act queue closed worker input).2.2).toNat +
        (worker.beyond job position).toNat =
      (endsWith queue job position (act queue closed worker input).2.2).toNat +
        ((act queue closed worker input).2.1.beyond job position).toNat := by
  cases worker with
  | idle =>
      unfold act
      dsimp only
      split
      · rw [next_beyond]
        rfl
      · rfl
  | busy own reached rest =>
      simp only [act, commitsAt, endsWith, Option.any_some, busy_beyond]
      rcases after_cases queue own reached rest input.1 with
        ⟨last, nobody⟩ | ⟨goesOn, runs, onwards⟩
      · -- The pass ends here: it was beyond the position, or is there and commits, or neither.
        rw [nobody, Option.filter_some, if_pos last, Option.any_some, Turn.commits]
        cases chosen : job own with
        | false => rfl
        | true =>
            by_cases here : reached = position
            · simp [here]
            · rw [beq_eq_false_iff_ne.mpr here]
              simp
      · have behind : position < reached + 1 ↔ reached = position ∨ position < reached := by omega
        rw [onwards, busy_beyond, Option.filter_some, if_neg (by simp [goesOn]), runs]
        cases chosen : job own with
        | false => rfl
        | true =>
            by_cases here : reached = position
            · simp [here, Fate.commits]
            · simp [here, behind]

theorem countP_endsWith (queue : Queue κ τ α) (schedule : List (Fin n × (Fate ε × τ)))
    (job : α → Bool) (position : Nat) :
    (turns queue schedule).countP (endsWith queue job position) =
      (passes queue schedule).countP fun turn => job turn.job && turn.commits position := by
  rw [passes, List.countP_filterMap]
  apply List.countP_congr
  intro turn _
  rw [endsWith]
  cases turn.filter (Turn.isLast queue) <;> rfl

/-- Once nobody is beyond a position of a pass over such a job, the transactions there that have
committed are those of the passes that have ended. -/
theorem commits_eq_passes (queue : Queue κ τ α) (schedule : List (Fin n × (Fate ε × τ)))
    (job : α → Bool) (position : Nat)
    (free : ∀ i, ((after queue schedule).process i).beyond job position = false) :
    (turns queue schedule).countP (commitsAt job position) =
      (passes queue schedule).countP fun turn => job turn.job && turn.commits position := by
  have balance := Processes.balance (act queue) (Worker.beyond job position)
    (commitsAt job position) (endsWith queue job position) (act_balance queue job position) schedule
    (System.start κ α n)
  have before : Processes.count (Worker.beyond job position) (System.start κ α n).process = 0 :=
    Processes.count_eq_zero fun _ => rfl
  have nobody : Processes.count (Worker.beyond job position) (after queue schedule).process = 0 :=
    Processes.count_eq_zero free
  rw [← countP_endsWith]
  unfold after at nobody
  unfold turns
  omega

theorem Turn.commits_of_later {turn : Turn α ε} {early late : Nat} (ordered : early < late)
    (committed : turn.commits late = true) : turn.commits early = true := by
  simp only [Turn.commits, Bool.or_eq_true, decide_eq_true_eq, Bool.and_eq_true,
    beq_iff_eq] at committed ⊢
  rcases committed with behind | ⟨here, _⟩
  · exact Or.inl (Nat.lt_trans ordered behind)
  · rw [here]
    exact Or.inl ordered

end Passes
