import CollectMind.Ingest.PostFinding

set_option autoImplicit false

/- One client and one finding: requests one after the other, each of whose transactions may
raise, retried at will. -/
namespace CollectMind.Ingest

open RowSecurity Registry CollectMind.Graph

/-- The transactions of one request that raise and roll back. -/
structure Faults where
  check : Bool := false
  insert : Bool := false
  audit : Bool := false

structure Attempt where
  request : Request
  faults : Faults := {}

inductive Response where
  | accepted (content : Acceptance)
  | serverError
  deriving DecidableEq, Repr

def Response.isAccepted : Response → Bool
  | .accepted _ => true
  | .serverError => false

def Attempt.insert (attempt : Attempt) (world : World) : Except Fault World :=
  if attempt.faults.insert then .error .aborted else insertFinding world attempt.request

def Attempt.audit (attempt : Attempt) (world : World) : Except AuditError World :=
  if attempt.faults.audit then .error (.database .aborted) else auditAccepted world attempt.request

/-- `post_finding`, from the idempotency check to the response. -/
def postFinding (world : World) (attempt : Attempt) : World × Response :=
  let request := attempt.request
  if attempt.faults.check then (world, .serverError)
  else if (checkOrRecord world.findings request.principal.tenantId request.finding.findingId.val
      request.payloadSha).firstSeen then
    match attempt.insert world with
    | .error _ => (world, .serverError)
    | .ok persisted =>
      match attempt.audit persisted with
      | .error _ => (persisted, .serverError)
      | .ok audited => (enqueue audited request, .accepted (request.acceptance false))
  else (world, .accepted (request.acceptance true))

def Stage.response : Stage → Response
  | .answered content => .accepted content
  | _ => .serverError

/-- Everything an attempt can do. -/
theorem postFinding_cases (world : World) (attempt : Attempt) :
    (attempt.faults.check = true ∧ postFinding world attempt = (world, .serverError)) ∨
    attempt.faults.check = false ∧
      (Seen world.findings attempt.request.key ∧
          postFinding world attempt = (world, .accepted (attempt.request.acceptance true)) ∨
        ¬ Seen world.findings attempt.request.key ∧
          ((∃ fault, attempt.insert world = .error fault ∧
              postFinding world attempt = (world, .serverError)) ∨
            ∃ persisted, attempt.insert world = .ok persisted ∧
              ((∃ failure, attempt.audit persisted = .error failure ∧
                  postFinding world attempt = (persisted, .serverError)) ∨
                ∃ audited, attempt.audit persisted = .ok audited ∧
                  postFinding world attempt = (enqueue audited attempt.request,
                    .accepted (attempt.request.acceptance false))))) := by
  have decision := checkOrRecord_firstSeen world.findings attempt.request.principal.tenantId
    attempt.request.finding.findingId.val attempt.request.payloadSha
  unfold postFinding
  cases checked : attempt.faults.check with
  | true => exact Or.inl ⟨rfl, rfl⟩
  | false =>
      refine Or.inr ⟨rfl, ?_⟩
      dsimp only
      rw [if_neg (by simp)]
      by_cases seen : Seen world.findings attempt.request.key
      · rw [if_neg (by simp [decision.mpr seen])]
        exact Or.inl ⟨seen, rfl⟩
      · have first : (checkOrRecord world.findings attempt.request.principal.tenantId
            attempt.request.finding.findingId.val attempt.request.payloadSha).firstSeen = true := by
          rw [← Bool.not_eq_false]
          exact fun known => seen (decision.mp known)
        rw [if_pos first]
        refine Or.inr ⟨seen, ?_⟩
        cases inserted : attempt.insert world with
        | error fault => exact Or.inl ⟨fault, rfl, rfl⟩
        | ok persisted =>
            refine Or.inr ⟨persisted, rfl, ?_⟩
            cases written : attempt.audit persisted with
            | error failure => exact Or.inl ⟨failure, rfl, by simp only [written]⟩
            | ok audited => exact Or.inr ⟨audited, rfl, by simp only [written]⟩

/-- Without injected faults the handler is its four transactions in a row. -/
theorem postFinding_eq_advance (world : World) (request : Request) :
    postFinding world ⟨request, {}⟩ =
      let done := (fun state : World × Stage => advance request state.1 state.2)^[4] (world, .received)
      (done.1, done.2.response) := by
  simp only [Function.iterate_succ, Function.iterate_zero, Function.comp_apply, id_eq]
  rcases postFinding_cases world ⟨request, {}⟩ with ⟨faulty, _⟩ | ⟨_, ⟨seen, posted⟩ | ⟨unseen, outcome⟩⟩
  · cases faulty
  · rcases advance_received request world with ⟨moved, _⟩ | ⟨_, unseen⟩
    · rw [posted, moved]
      rfl
    · exact absurd seen unseen
  · rcases advance_received request world with ⟨_, seen⟩ | ⟨moved, _⟩
    · exact absurd seen unseen
    · rw [moved]
      rcases outcome with ⟨fault, inserted, posted⟩ | ⟨persisted, inserted, outcome⟩
      · have stopped : insertFinding world request = .error fault := inserted
        simp only [posted, advance, stopped, settleStage, Stage.response]
      · have stored : insertFinding world request = .ok persisted := inserted
        rcases outcome with ⟨failure, written, posted⟩ | ⟨audited, written, posted⟩
        · have stopped : auditAccepted persisted request = .error failure := written
          simp only [posted, advance, stored, stopped, settleStage, Stage.response]
        · have recorded : auditAccepted persisted request = .ok audited := written
          simp only [posted, advance, stored, recorded, settleStage, Stage.response]

/-- A session for the finding of `key` has been handed to the runner. -/
def hasSession (key : String × String) (session : PolicyGenerationSession) : Bool :=
  session.tenantId == key.1 &&
    match session.originatingFinding.get "finding_id" with
    | some (.str findingId) => findingId == key.2
    | _ => false

def World.hasStarted (world : World) (key : String × String) : Bool :=
  world.started.any (hasSession key)

/-- Whenever an attempt is answered 202, a session has been started by then. -/
def NothingLost (key : String × String) : World → List Attempt → Prop
  | _, [] => True
  | world, attempt :: rest =>
    ((postFinding world attempt).2.isAccepted = true →
      (postFinding world attempt).1.hasStarted key = true) ∧
    NothingLost key (postFinding world attempt).1 rest

/-- The first attempt that gets the row committed also gets its audit row written, or no
later attempt gets as far as a check. -/
def Recovers (world : World) : List Attempt → Prop
  | [] => True
  | attempt :: rest =>
    if attempt.faults.check then Recovers world rest
    else
      match attempt.insert world with
      | .error _ => Recovers world rest
      | .ok persisted => (attempt.audit persisted).isOk = true ∨
        ∀ later ∈ rest, later.faults.check = true

theorem Request.session_hasSession (request : Request) :
    hasSession request.key request.session = true := by
  have named : request.session.originatingFinding.get "finding_id" =
      some (.str request.finding.findingId.val) := rfl
  have owner : request.session.tenantId = request.key.1 := rfl
  simp only [hasSession, named, owner, beq_self_eq_true, Bool.true_and]
  exact beq_self_eq_true _

theorem Attempt.insert_ok {attempt : Attempt} {world persisted : World}
    (success : attempt.insert world = .ok persisted) :
    Seen persisted.findings attempt.request.key ∧ persisted.started = world.started := by
  unfold Attempt.insert at success
  split at success
  · cases success
  · obtain ⟨seen, findings, rfl⟩ := insertFinding_ok success
    exact ⟨seen, rfl⟩

theorem Attempt.audit_ok {attempt : Attempt} {world audited : World}
    (success : attempt.audit world = .ok audited) : audited.started = world.started := by
  unfold Attempt.audit at success
  split at success
  · cases success
  · obtain ⟨audits, rfl⟩ := auditAccepted_ok success
    rfl

/-- Sessions are never taken back. -/
theorem postFinding_started (world : World) (attempt : Attempt) :
    (postFinding world attempt).1.started = world.started ∨
      (postFinding world attempt).1.started = world.started ++ [attempt.request.session] := by
  rcases postFinding_cases world attempt with ⟨_, posted⟩ | ⟨_, ⟨_, posted⟩ | ⟨_, outcome⟩⟩
  · exact Or.inl (by rw [posted])
  · exact Or.inl (by rw [posted])
  · rcases outcome with ⟨_, _, posted⟩ | ⟨persisted, inserted, outcome⟩
    · exact Or.inl (by rw [posted])
    · have stored := (Attempt.insert_ok inserted).2
      rcases outcome with ⟨_, _, posted⟩ | ⟨audited, written, posted⟩
      · exact Or.inl (by rw [posted, stored])
      · exact Or.inr (by rw [posted, enqueue, Attempt.audit_ok written, stored])

/-- Once a session runs, nothing is lost any more. -/
theorem nothingLost_of_started {key : String × String} (attempts : List Attempt) {world : World}
    (started : world.hasStarted key = true) : NothingLost key world attempts := by
  induction attempts generalizing world with
  | nil => trivial
  | cons attempt rest ih =>
      have kept : (postFinding world attempt).1.hasStarted key = true := by
        unfold World.hasStarted at started ⊢
        rcases postFinding_started world attempt with same | longer
        · rw [same]
          exact started
        · rw [longer, List.any_append, started, Bool.true_or]
      exact ⟨fun _ => kept, ih kept⟩

/-- A committed row without a session: from here on every attempt that gets to check is
answered as a replay of nothing. -/
theorem nothingLost_stranded {key : String × String} (attempts : List Attempt) {world : World}
    (same : ∀ attempt ∈ attempts, attempt.request.key = key) (seen : Seen world.findings key)
    (unstarted : world.hasStarted key = false) :
    NothingLost key world attempts ↔ ∀ attempt ∈ attempts, attempt.faults.check = true := by
  induction attempts with
  | nil => simp [NothingLost]
  | cons attempt rest ih =>
      have own := same attempt (by simp)
      have continued := ih fun later member => same later (by simp [member])
      rw [NothingLost, List.forall_mem_cons]
      rcases postFinding_cases world attempt with
        ⟨faulty, posted⟩ | ⟨sound, ⟨_, posted⟩ | ⟨unseen, _⟩⟩
      · rw [posted, faulty, continued]
        simp [Response.isAccepted]
      · rw [posted, sound]
        simp [Response.isAccepted, unstarted]
      · exact absurd (own ▸ seen) unseen

theorem nothingLost_iff_recovers_of_unseen {key : String × String} (attempts : List Attempt)
    {world : World} (same : ∀ attempt ∈ attempts, attempt.request.key = key)
    (unseen : ¬ Seen world.findings key) (unstarted : world.hasStarted key = false) :
    NothingLost key world attempts ↔ Recovers world attempts := by
  induction attempts with
  | nil => exact Iff.rfl
  | cons attempt rest ih =>
      have own := same attempt (by simp)
      have rest_same : ∀ later ∈ rest, later.request.key = key :=
        fun later member => same later (by simp [member])
      rw [NothingLost, Recovers]
      rcases postFinding_cases world attempt with
        ⟨faulty, posted⟩ | ⟨sound, ⟨seen, _⟩ | ⟨_, outcome⟩⟩
      · rw [posted, if_pos faulty, ih rest_same]
        simp [Response.isAccepted]
      · exact absurd (own ▸ seen) unseen
      · rw [if_neg (by simp [sound])]
        rcases outcome with ⟨fault, stopped, posted⟩ | ⟨persisted, inserted, outcome⟩
        · rw [posted, stopped, ih rest_same]
          simp [Response.isAccepted]
        · obtain ⟨stored, quiet⟩ := Attempt.insert_ok inserted
          rw [inserted]
          dsimp only
          rcases outcome with ⟨failure, stopped, posted⟩ | ⟨audited, written, posted⟩
          · -- The row is there, its session is not: the later attempts decide.
            have stranded := nothingLost_stranded rest rest_same (own ▸ stored)
              (show persisted.hasStarted key = false by rw [World.hasStarted, quiet]; exact unstarted)
            rw [posted, stopped, stranded]
            simp [Response.isAccepted, Except.isOk, Except.toBool]
          · have started : (enqueue audited attempt.request).hasStarted key = true := by
              simp only [World.hasStarted, enqueue, List.any_append, List.any_cons, List.any_nil,
                ← own, Request.session_hasSession, Bool.true_or, Bool.or_true]
            rw [posted, written]
            simp [Except.isOk, Except.toBool, started, nothingLost_of_started rest started]

/-- No acknowledged finding is lost exactly when the attempt that commits the row also gets
its audit row written, or nobody gets to check after it. -/
theorem nothingLost_iff_recovers (key : String × String) (world : World) (attempts : List Attempt)
    (same : ∀ attempt ∈ attempts, attempt.request.key = key)
    (absent : ∀ row ∈ world.findings, row.key ≠ key) (unstarted : world.hasStarted key = false) :
    NothingLost key world attempts ↔ Recovers world attempts := by
  apply nothingLost_iff_recovers_of_unseen attempts same _ unstarted
  rintro ⟨_, row, member, found⟩
  exact absent row member found

/-- A failed check, a failed insert, a success and a replay. -/
theorem nothingLost_after_failed_insert :
    NothingLost ("tenant-a", "finding-1") sampleWorld
      [⟨duplicateRequests 0, { check := true }⟩, ⟨duplicateRequests 0, { insert := true }⟩,
        ⟨duplicateRequests 0, {}⟩, ⟨duplicateRequests 1, {}⟩] :=
  (nothingLost_iff_recovers ("tenant-a", "finding-1") sampleWorld _ (by simp; decide) (by decide)
    rfl).mpr (Or.inl rfl)

/-- The audit write of the first attempt fails; the retry is answered 202 as a replay, and no
session ever runs. -/
theorem nothingLost_fails_after_failed_audit :
    let attempts : List Attempt :=
      [⟨duplicateRequests 0, { audit := true }⟩, ⟨duplicateRequests 1, {}⟩]
    let first := postFinding sampleWorld ⟨duplicateRequests 0, { audit := true }⟩
    let second := postFinding first.1 ⟨duplicateRequests 1, {}⟩
    first.2 = .serverError ∧
      second.2 = .accepted ((duplicateRequests 1).acceptance true) ∧
      second.1.started = [] ∧
      ¬ NothingLost ("tenant-a", "finding-1") sampleWorld attempts := by
  refine ⟨rfl, rfl, rfl, ?_⟩
  rintro ⟨_, kept, _⟩
  exact absurd (kept rfl) (by decide)

end CollectMind.Ingest
