import CollectMind.Ingest.PostFinding
import CollectMind.Library.Processes

set_option autoImplicit false

/- Concurrent requests for one finding: any number of them, their transactions
interleaved in any order. -/
namespace CollectMind.Ingest

open Registry

variable {n : Nat}

/-- `n` requests in flight over one database. -/
abbrev Server (n : Nat) := Processes.System World Stage n

def Server.start (n : Nat) (world : World) : Server n := ⟨world, fun _ => .received⟩

/-- A turn of a request is its next transaction. -/
def act (world : World) (stage : Stage) (request : Request) : World × Stage × Unit :=
  let moved := advance request world stage
  (moved.1, moved.2, ())

/-- Request `i` takes its next transaction. -/
def step (requests : Fin n → Request) (server : Server n) (i : Fin n) : Server n :=
  (Processes.step act server (i, requests i)).1

def run (requests : Fin n → Request) (server : Server n) (schedule : List (Fin n)) : Server n :=
  Runs.final (Processes.step act) server (schedule.map fun i => (i, requests i))

/-- What every turn of a schedule keeps, the run keeps. -/
theorem run_invariant {requests : Fin n → Request} (invariant : Server n → Prop)
    {schedule : List (Fin n)} (preserved : ∀ i ∈ schedule, ∀ server, invariant server →
      invariant (step requests server i)) {server : Server n} (start : invariant server) :
    invariant (run requests server schedule) := by
  apply Runs.final_invariant (Processes.step act) invariant
    (fun turn => ∃ i ∈ schedule, (i, requests i) = turn) ?_ _ server start
  · intro turn listed
    exact List.mem_map.mp listed
  · rintro current turn ⟨i, member, rfl⟩ held
    exact preserved i member current held

/-- The request found no row when it checked, so it goes on to start a session. -/
def Stage.first : Stage → Bool
  | .checked | .persisted | .audited => true
  | .answered content => !content.idempotentReplay
  | _ => false

/-- ... and has written the row since. -/
def Stage.stored : Stage → Bool
  | .persisted | .audited => true
  | .answered content => !content.idempotentReplay
  | _ => false

def Stage.answeredFirst : Stage → Bool
  | .answered content => !content.idempotentReplay
  | _ => false

def Stage.isAnswered : Stage → Bool
  | .answered _ => true
  | _ => false

/-- All requests have been answered 202. -/
def Complete (server : Server n) : Prop := ∀ i, (server.process i).isAnswered = true

instance (server : Server n) : Decidable (Complete server) :=
  inferInstanceAs (Decidable (∀ i, (server.process i).isAnswered = true))

/-- At most one session, and exactly one answer that does not report a replay. -/
def ExactlyOnce (server : Server n) : Prop :=
  server.store.started.length ≤ 1 ∧ ∃! i, (server.process i).answeredFirst = true

/-- No request checks while another one stands between its check and its insert. -/
def ChecksAlone (requests : Fin n → Request) : Server n → List (Fin n) → Prop
  | _, [] => True
  | server, i :: rest =>
    (server.process i = .received → ∀ j, server.process j ≠ .checked) ∧
      ChecksAlone requests (step requests server i) rest

instance checksAloneDecidable (requests : Fin n → Request) :
    (server : Server n) → (schedule : List (Fin n)) → Decidable (ChecksAlone requests server schedule)
  | _, [] => inferInstanceAs (Decidable True)
  | server, i :: rest =>
    have := checksAloneDecidable requests (step requests server i) rest
    inferInstanceAs (Decidable ((_ → ∀ j, server.process j ≠ .checked) ∧ _))

/-- What every reachable state of requests for the one key satisfies. -/
structure Consistent (key : String × String) (server : Server n) : Prop where
  unfailed : ∀ i, server.process i ≠ .failed
  stored_seen : ∀ i, (server.process i).stored = true → Seen server.store.findings key
  seen_stored : Seen server.store.findings key → ∃ i, (server.process i).stored = true
  replay_seen : ∀ i content, server.process i = .answered content → content.idempotentReplay = true →
    Seen server.store.findings key
  sessions : server.store.started.length = Processes.count Stage.answeredFirst server.process

theorem start_consistent {key : String × String} {world : World}
    (absent : ¬ Seen world.findings key) (idle : world.started = []) :
    Consistent key (Server.start n world) := by
  constructor
  case unfailed =>
    intro i failed
    cases failed
  case stored_seen =>
    intro i stored
    cases stored
  case seen_stored => exact fun seen => absurd seen absent
  case replay_seen =>
    intro i content answered
    cases answered
  case sessions =>
    have nobody : Processes.count Stage.answeredFirst (Server.start n world).process = 0 :=
      Processes.count_eq_zero fun _ => rfl
    rw [nobody]
    exact congrArg List.length idle

theorem Consistent.update {key : String × String} {server : Server n}
    (consistent : Consistent key server) {i : Fin n} {world : World} {next : Stage}
    (unfailed : next ≠ .failed)
    (grows : Seen server.store.findings key → Seen world.findings key)
    (stored : next.stored = true → Seen world.findings key)
    (cause : Seen world.findings key → Seen server.store.findings key ∨ next.stored = true)
    (keeps : (server.process i).stored = true → next.stored = true)
    (replay : ∀ content, next = .answered content → content.idempotentReplay = true →
      Seen world.findings key)
    (sessions : world.started.length + (server.process i).answeredFirst.toNat =
      server.store.started.length + next.answeredFirst.toNat) :
    Consistent key ⟨world, Function.update server.process i next⟩ := by
  constructor
  case unfailed =>
    apply (Function.forall_update_iff server.process fun _ stage => stage ≠ .failed).mpr
    exact ⟨unfailed, fun j _ => consistent.unfailed j⟩
  case stored_seen =>
    apply (Function.forall_update_iff server.process fun _ stage =>
      stage.stored = true → Seen world.findings key).mpr
    exact ⟨stored, fun j _ past => grows (consistent.stored_seen j past)⟩
  case seen_stored =>
    intro seen
    apply (Function.exists_update_iff server.process fun _ stage => stage.stored = true).mpr
    rcases cause seen with before | now
    · obtain ⟨j, past⟩ := consistent.seen_stored before
      by_cases own : j = i
      · exact Or.inl (keeps (own ▸ past))
      · exact Or.inr ⟨j, own, past⟩
    · exact Or.inl now
  case replay_seen =>
    apply (Function.forall_update_iff server.process fun _ stage => ∀ content,
      stage = .answered content → content.idempotentReplay = true → Seen world.findings key).mpr
    exact ⟨replay, fun j _ content answered again =>
      grows (consistent.replay_seen j content answered again)⟩
  case sessions =>
    dsimp only
    have counted := Processes.count_update Stage.answeredFirst server.process i next
    have before := consistent.sessions
    omega

theorem step_eq {requests : Fin n → Request} {server : Server n} {i : Fin n} {world : World}
    {stage next : Stage} (standing : server.process i = stage)
    (moved : advance (requests i) server.store stage = (world, next)) :
    step requests server i = ⟨world, Function.update server.process i next⟩ := by
  simp only [step, Processes.step, act, standing, moved]

theorem step_consistent {key : String × String} {requests : Fin n → Request}
    (same : ∀ i, (requests i).key = key) {server : Server n} (consistent : Consistent key server)
    (i : Fin n) (alive : (step requests server i).process i ≠ .failed) :
    Consistent key (step requests server i) := by
  have own := same i
  cases standing : server.process i with
  | received =>
      rcases advance_received (requests i) server.store with ⟨moved, seen⟩ | ⟨moved, unseen⟩
      · rw [step_eq standing moved]
        rw [own] at seen
        apply consistent.update <;> simp [standing, Stage.stored, Stage.answeredFirst,
          Request.acceptance, seen]
      · rw [step_eq standing moved]
        apply consistent.update <;> simp [standing, Stage.stored, Stage.answeredFirst]
  | checked =>
      rcases settleStage_cases server.store .persisted (insertFinding server.store (requests i)) with
        ⟨world, moved, inserted⟩ | moved
      · rw [step_eq standing moved]
        obtain ⟨seen, findings, rfl⟩ := insertFinding_ok inserted
        rw [own] at seen
        apply consistent.update <;> simp [standing, Stage.stored, Stage.answeredFirst, seen]
      · rw [step_eq standing moved] at alive
        simp at alive
  | persisted =>
      rcases settleStage_cases server.store .audited (auditAccepted server.store (requests i)) with
        ⟨world, moved, written⟩ | moved
      · rw [step_eq standing moved]
        obtain ⟨audits, rfl⟩ := auditAccepted_ok written
        have seen := consistent.stored_seen i (by rw [standing]; rfl)
        apply consistent.update <;> simp [standing, Stage.stored, Stage.answeredFirst, seen]
      · rw [step_eq standing moved] at alive
        simp at alive
  | audited =>
      have seen := consistent.stored_seen i (by rw [standing]; rfl)
      rw [step_eq standing rfl]
      apply consistent.update <;> simp [standing, Stage.stored, Stage.answeredFirst, enqueue,
        Request.acceptance, seen]
  | answered content =>
      rw [step_eq standing rfl, ← standing, Function.update_eq_self]
      exact consistent
  | failed => exact absurd standing (consistent.unfailed i)

theorem step_own {requests : Fin n → Request} {server : Server n} {i : Fin n} {world : World}
    {stage next : Stage} (standing : server.process i = stage)
    (moved : advance (requests i) server.store stage = (world, next)) :
    (step requests server i).process i = next := by
  rw [step_eq standing moved]
  exact Function.update_self _ _ _

theorem step_other (requests : Fin n → Request) (server : Server n) {i j : Fin n} (apart : j ≠ i) :
    (step requests server i).process j = server.process j := Function.update_of_ne apart _ _

theorem run_failed (requests : Fin n → Request) (schedule : List (Fin n)) (server : Server n)
    {j : Fin n} (failed : server.process j = .failed) :
    (run requests server schedule).process j = .failed := by
  apply run_invariant (fun server => server.process j = .failed) ?_ failed
  intro i _ server failed
  by_cases own : j = i
  · rw [← own]
    exact step_own failed rfl
  · rw [step_other requests server own]
    exact failed

theorem Complete.answered {server : Server n} (complete : Complete server) (i : Fin n) :
    ∃ content, server.process i = .answered content := by
  have answered := complete i
  cases standing : server.process i with
  | answered content => exact ⟨content, rfl⟩
  | _ =>
      rw [standing] at answered
      cases answered

/-- A request that ends up answered has not failed on the way. -/
theorem Complete.alive {requests : Fin n → Request} {schedule : List (Fin n)} {server : Server n}
    (complete : Complete (run requests server schedule)) (j : Fin n) : server.process j ≠ .failed := by
  intro failed
  obtain ⟨content, answered⟩ := complete.answered j
  rw [run_failed requests schedule server failed] at answered
  cases answered

theorem run_consistent {key : String × String} {requests : Fin n → Request}
    (same : ∀ i, (requests i).key = key) (schedule : List (Fin n)) {server : Server n}
    (consistent : Consistent key server) (complete : Complete (run requests server schedule)) :
    Consistent key (run requests server schedule) := by
  induction schedule generalizing server with
  | nil => exact consistent
  | cons i rest ih =>
      have rest_complete : Complete (run requests (step requests server i) rest) := complete
      exact ih (step_consistent same consistent i (rest_complete.alive i)) rest_complete

/-- A request past its check goes on to answer as the first. -/
theorem step_first {requests : Fin n → Request} {server : Server n} {i j : Fin n}
    (first : (server.process j).first = true) (alive : (step requests server i).process j ≠ .failed) :
    ((step requests server i).process j).first = true := by
  by_cases own : j = i
  · subst own
    cases standing : server.process j with
    | received => simp [standing, Stage.first] at first
    | failed => simp [standing, Stage.first] at first
    | checked =>
        rcases settleStage_cases server.store .persisted
          (insertFinding server.store (requests j)) with ⟨world, moved, _⟩ | moved
        · rw [step_own standing moved]
          rfl
        · exact absurd (step_own standing moved) alive
    | persisted =>
        rcases settleStage_cases server.store .audited
          (auditAccepted server.store (requests j)) with ⟨world, moved, _⟩ | moved
        · rw [step_own standing moved]
          rfl
        · exact absurd (step_own standing moved) alive
    | audited =>
        rw [step_own standing rfl]
        rfl
    | answered content =>
        rw [step_own standing rfl, ← standing]
        exact first
  · rw [step_other requests server own]
    exact first

theorem run_first {requests : Fin n → Request} (schedule : List (Fin n)) {server : Server n}
    (complete : Complete (run requests server schedule)) {j : Fin n}
    (first : (server.process j).first = true) :
    ((run requests server schedule).process j).first = true := by
  induction schedule generalizing server with
  | nil => exact first
  | cons i rest ih =>
      have rest_complete : Complete (run requests (step requests server i) rest) := complete
      exact ih rest_complete (step_first first (rest_complete.alive j))

/-- At most one request found no row. -/
def OneFirst (server : Server n) : Prop :=
  ∀ i j, (server.process i).first = true → (server.process j).first = true → i = j

theorem stored_first {stage : Stage} (stored : stage.stored = true) : stage.first = true := by
  cases stage <;> first | exact stored | cases stored

/-- Only a check lets a request through. -/
theorem first_of_step {requests : Fin n → Request} {server : Server n} {i j : Fin n}
    (past : server.process i ≠ .received) (first : ((step requests server i).process j).first = true) :
    (server.process j).first = true := by
  by_cases own : j = i
  · subst own
    cases standing : server.process j with
    | received => exact absurd standing past
    | failed =>
        rw [step_own standing rfl] at first
        exact first
    | answered content =>
        rw [step_own standing rfl] at first
        exact first
    | _ => rfl
  · rw [step_other requests server own] at first
    exact first

/-- A check with nobody between check and insert lets at most one request through. -/
theorem step_oneFirst {key : String × String} {requests : Fin n → Request}
    (same : ∀ i, (requests i).key = key) {server : Server n} (consistent : Consistent key server)
    (one : OneFirst server) {i : Fin n}
    (alone : server.process i = .received → ∀ j, server.process j ≠ .checked) :
    OneFirst (step requests server i) := by
  by_cases waiting : server.process i = .received
  · rcases advance_received (requests i) server.store with ⟨moved, _⟩ | ⟨_, unseen⟩
    · have replayed : ((step requests server i).process i).first = false := by
        rw [step_own waiting moved]
        rfl
      have others : ∀ j, ((step requests server i).process j).first = true →
          (server.process j).first = true := by
        intro j first
        have apart : j ≠ i := by
          intro own
          rw [own, replayed] at first
          cases first
        rw [step_other requests server apart] at first
        exact first
      exact fun j k firstJ firstK => one j k (others j firstJ) (others k firstK)
    · rw [same i] at unseen
      have nobody : ∀ j, (server.process j).first = false := by
        intro j
        by_contra first
        rw [Bool.not_eq_false] at first
        cases standing : server.process j with
        | checked => exact alone waiting j standing
        | received => simp [standing, Stage.first] at first
        | failed => simp [standing, Stage.first] at first
        | _ =>
            rw [standing] at first
            exact unseen (consistent.stored_seen j (by rw [standing]; exact first))
      have only : ∀ j, ((step requests server i).process j).first = true → j = i := by
        intro j first
        by_contra apart
        rw [step_other requests server apart, nobody j] at first
        cases first
      exact fun j k firstJ firstK => (only j firstJ).trans (only k firstK).symm
  · exact fun j k firstJ firstK =>
      one j k (first_of_step waiting firstJ) (first_of_step waiting firstK)

/-- A check that overlaps the only request let through so far lets a second one through. -/
theorem step_overlap {key : String × String} {requests : Fin n → Request}
    (same : ∀ i, (requests i).key = key) {server : Server n} (consistent : Consistent key server)
    (one : OneFirst server) {i j : Fin n} (waiting : server.process i = .received)
    (between : server.process j = .checked) : ¬ OneFirst (step requests server i) := by
  have unseen : ¬ Seen server.store.findings (requests i).key := by
    intro seen
    rw [same i] at seen
    obtain ⟨k, stored⟩ := consistent.seen_stored seen
    have single := one j k (by rw [between]; rfl) (stored_first stored)
    rw [← single, between] at stored
    cases stored
  intro single
  rcases advance_received (requests i) server.store with ⟨_, seen⟩ | ⟨moved, _⟩
  · exact unseen seen
  · have apart : j ≠ i := by
      intro own
      rw [own, waiting] at between
      cases between
    apply apart
    apply single
    · rw [step_other requests server apart, between]
      rfl
    · rw [step_own waiting moved]
      rfl

theorem run_oneFirst_iff {key : String × String} {requests : Fin n → Request}
    (same : ∀ i, (requests i).key = key) (schedule : List (Fin n)) {server : Server n}
    (consistent : Consistent key server) (one : OneFirst server)
    (complete : Complete (run requests server schedule)) :
    OneFirst (run requests server schedule) ↔ ChecksAlone requests server schedule := by
  induction schedule generalizing server with
  | nil => exact ⟨fun _ => trivial, fun _ => one⟩
  | cons i rest ih =>
      have rest_complete : Complete (run requests (step requests server i) rest) := complete
      have next := step_consistent same consistent i (rest_complete.alive i)
      by_cases alone : server.process i = .received → ∀ j, server.process j ≠ .checked
      · have continued := ih next (step_oneFirst same consistent one alone) rest_complete
        exact continued.trans ⟨fun later => ⟨alone, later⟩, fun checks => checks.2⟩
      · have broken : ¬ ChecksAlone requests server (i :: rest) := fun checks => alone checks.1
        simp only [not_forall, not_not] at alone
        obtain ⟨waiting, j, between⟩ := alone
        have second := step_overlap same consistent one waiting between
        have final : ¬ OneFirst (run requests server (i :: rest)) := by
          intro single
          apply second
          intro k l firstK firstL
          exact single k l (run_first rest rest_complete firstK)
            (run_first rest rest_complete firstL)
        exact iff_of_false final broken

theorem answered_first {server : Server n} (complete : Complete server) (i : Fin n) :
    (server.process i).answeredFirst = (server.process i).first := by
  obtain ⟨content, answered⟩ := complete.answered i
  rw [answered]
  rfl

theorem exactlyOnce_iff_oneFirst {key : String × String} {server : Server n} (some_request : 0 < n)
    (consistent : Consistent key server) (complete : Complete server) :
    ExactlyOnce server ↔ OneFirst server := by
  constructor
  · rintro ⟨_, i, _, unique⟩ j k firstJ firstK
    rw [← answered_first complete] at firstJ firstK
    exact (unique j firstJ).trans (unique k firstK).symm
  · intro one
    have exists_first : ∃ i, (server.process i).first = true := by
      obtain ⟨content, answered⟩ := complete.answered ⟨0, some_request⟩
      cases replay : content.idempotentReplay with
      | false => exact ⟨_, by rw [answered]; simp [Stage.first, replay]⟩
      | true =>
          obtain ⟨i, stored⟩ :=
            consistent.seen_stored (consistent.replay_seen _ content answered replay)
          exact ⟨i, stored_first stored⟩
    obtain ⟨i, first⟩ := exists_first
    refine ⟨?_, i, (answered_first complete i).trans first, fun j firstJ => ?_⟩
    · rw [consistent.sessions, Processes.count, Finset.card_le_one]
      intro j memberJ k memberK
      simp only [Finset.mem_filter, Finset.mem_univ, true_and, answered_first complete]
        at memberJ memberK
      exact one j k memberJ memberK
    · dsimp only at firstJ
      rw [answered_first complete] at firstJ
      exact one j i firstJ first

/-- Duplicates are processed exactly once in exactly those interleavings in which no request
checks for the finding while another stands between its own check and its insert. -/
theorem exactlyOnce_iff_checksAlone (some_request : 0 < n) (requests : Fin n → Request)
    (key : String × String) (same : ∀ i, (requests i).key = key) (world : World)
    (absent : ∀ row ∈ world.findings, row.key ≠ key) (idle : world.started = [])
    (schedule : List (Fin n)) (complete : Complete (run requests (Server.start n world) schedule)) :
    ExactlyOnce (run requests (Server.start n world) schedule) ↔
      ChecksAlone requests (Server.start n world) schedule := by
  have unseen : ¬ Seen world.findings key := by
    rintro ⟨_, row, member, found⟩
    exact absent row member found
  have consistent : Consistent key (Server.start n world) := start_consistent unseen idle
  have one : OneFirst (Server.start n world) := by
    intro i j first
    cases first
  rw [exactlyOnce_iff_oneFirst some_request (run_consistent same schedule consistent complete)
    complete]
  exact run_oneFirst_iff same schedule consistent one complete

/-- One request after the other: the second one is told of the replay. -/
theorem exactlyOnce_sequential :
    ExactlyOnce (run duplicateRequests (Server.start 2 sampleWorld) [0, 0, 0, 0, 1]) :=
  (exactlyOnce_iff_checksAlone (by decide) duplicateRequests ("tenant-a", "finding-1")
    (by decide) sampleWorld (by decide) rfl [0, 0, 0, 0, 1] (by decide)).mpr (by decide)

/-- Two requests that check before either inserts: two sessions, and both answers deny a
replay. -/
theorem exactlyOnce_fails_interleaved :
    let server := run duplicateRequests (Server.start 2 sampleWorld) [0, 1, 0, 1, 0, 1, 0, 1]
    Complete server ∧ server.store.findings.length = 1 ∧ server.store.started.length = 2 ∧
      (server.process 0).answeredFirst = true ∧ (server.process 1).answeredFirst = true ∧
      ¬ ExactlyOnce server := by
  refine ⟨by decide, by decide, by decide, by decide, by decide, ?_⟩
  rintro ⟨few, _⟩
  exact absurd few (by decide)

end CollectMind.Ingest
