import CollectMind.Ingest.TenantView

set_option autoImplicit false

/- Two histories of requests that contain the same requests of one tenant, in the same order,
and differ in those of the others. The transactions of the requests may be interleaved. -/
namespace CollectMind.Ingest

open Registry

variable {n : Nat}

/-- What the client has been told. -/
def Stage.status : Stage → Option Nat
  | .answered _ => some 202
  | .failed => some 500
  | _ => none

def owns (tenantId : String) (requests : Fin n → Request) (i : Fin n) : Bool :=
  (requests i).principal.tenantId == tenantId

/-- Event ids as the server generates them: each new, and no two alike. -/
structure FreshIds (requests : Fin n → Request) (world : World) : Prop where
  named : ∀ i, (requests i).eventId ≠ ""
  unused : ∀ i, ∀ row ∈ world.audits, row.eventId ≠ (requests i).eventId
  distinct : ∀ i j, (requests i).eventId = (requests j).eventId → i = j

/-- The requests of the tenant are the same ones. -/
structure SameRequests (tenantId : String) (requests others : Fin n → Request) : Prop where
  owner : ∀ i, owns tenantId others i = owns tenantId requests i
  submission : ∀ i, owns tenantId requests i = true → SameSubmission (requests i) (others i)

/-- The tenant's requests are answered alike, and leave the same audit rows and sessions. -/
structure SameFor (tenantId : String) (requests : Fin n → Request) (server other : Server n) :
    Prop where
  statuses : ∀ i, owns tenantId requests i = true →
    (server.process i).status = (other.process i).status
  audits : tenantAudits tenantId server.store = tenantAudits tenantId other.store
  sessions : tenantSessions tenantId server.store = tenantSessions tenantId other.store

/-- For each transaction of the tenant, in their order: is it an audit write that another
tenant's row stops? -/
def hits (tenantId : String) (requests : Fin n → Request) : Server n → List (Fin n) → List Bool
  | _, [] => []
  | server, i :: rest =>
    if owns tenantId requests i then
      blocked (requests i) server.store (server.process i) ::
        hits tenantId requests (step requests server i) rest
    else hits tenantId requests (step requests server i) rest

/-- The two servers look the same to the tenant. -/
structure Agree (tenantId : String) (requests : Fin n → Request) (server other : Server n) :
    Prop where
  stages : ∀ i, owns tenantId requests i = true → Alike (server.process i) (other.process i)
  view : SameView tenantId server.store other.store

def Stage.unwritten : Stage → Bool
  | .received | .checked | .persisted => true
  | _ => false

/-- No row has the event id of a request that is still to write its own. -/
def Unwritten (requests : Fin n → Request) (server : Server n) : Prop :=
  ∀ i, (server.process i).unwritten = true →
    ∀ row ∈ server.store.audits, row.eventId ≠ (requests i).eventId

theorem Alike.status {stage other : Stage} (alike : Alike stage other) :
    stage.status = other.status := by
  cases alike <;> rfl

theorem Alike.symm {stage other : Stage} (alike : Alike stage other) : Alike other stage := by
  cases alike <;> constructor

theorem SameRequests.symm {tenantId : String} {requests others : Fin n → Request}
    (same : SameRequests tenantId requests others) : SameRequests tenantId others requests where
  owner i := (same.owner i).symm
  submission i own := (same.submission i (same.owner i ▸ own)).symm

/-- The one transaction that writes an audit row is the last before the session starts. -/
theorem advance_audits (request : Request) (world : World) (stage : Stage) :
    (advance request world stage).1.audits = world.audits ∨
      (advance request world stage).2 = .audited ∧
        (advance request world stage).1.audits = world.audits ++ [request.acceptedRow] := by
  cases stage with
  | received =>
      rcases advance_received request world with ⟨moved, _⟩ | ⟨moved, _⟩
      · rw [moved]
        exact Or.inl rfl
      · rw [moved]
        exact Or.inl rfl
  | checked =>
      rw [advance]
      rcases settleStage_cases world .persisted (insertFinding world request) with
        ⟨committed, moved, success⟩ | moved
      · obtain ⟨_, findings, stored⟩ := insertFinding_ok success
        rw [moved, stored]
        exact Or.inl rfl
      · rw [moved]
        exact Or.inl rfl
  | persisted =>
      rcases advance_persisted request world with same | appended
      · rw [same]
        exact Or.inl rfl
      · rw [appended]
        exact Or.inr ⟨rfl, rfl⟩
  | audited => exact Or.inl rfl
  | answered content => exact Or.inl rfl
  | failed => exact Or.inl rfl

theorem advance_unwritten {request : Request} {world : World} {stage : Stage}
    (pending : (advance request world stage).2.unwritten = true) : stage.unwritten = true := by
  cases stage with
  | received => rfl
  | checked => rfl
  | persisted => rfl
  | audited => cases pending
  | answered content => cases pending
  | failed => cases pending

theorem step_self (requests : Fin n → Request) (server : Server n) (i : Fin n) :
    (step requests server i).process i = (advance (requests i) server.store (server.process i)).2 :=
  Function.update_self _ _ _

theorem step_unwritten {requests : Fin n → Request} {world : World} (fresh : FreshIds requests world)
    {server : Server n} (unwritten : Unwritten requests server) (i : Fin n) :
    Unwritten requests (step requests server i) := by
  intro j pending row member
  have audits := advance_audits (requests i) server.store (server.process i)
  by_cases own : j = i
  · rw [own] at pending ⊢
    rw [step_self] at pending
    rcases audits with same | ⟨written, _⟩
    · apply unwritten i (advance_unwritten pending) row
      rw [← same]
      exact member
    · rw [written] at pending
      cases pending
  · rw [step_other requests server own] at pending
    rcases audits with same | ⟨_, appended⟩
    · apply unwritten j pending row
      rw [← same]
      exact member
    · have inside : row ∈ server.store.audits ++ [(requests i).acceptedRow] := appended ▸ member
      rcases List.mem_append.mp inside with old | new
      · exact unwritten j pending row old
      · rw [List.mem_singleton.mp new]
        exact fun clash => own (fresh.distinct j i clash.symm)

theorem Unwritten.persisted {requests : Fin n → Request} {server : Server n}
    (unwritten : Unwritten requests server) (i : Fin n) (standing : server.process i = .persisted) :
    ∀ row ∈ server.store.audits, row.eventId ≠ (requests i).eventId :=
  unwritten i (by rw [standing]; rfl)

/-- The row has been written, so the request is not going to fail. -/
def Stage.recorded : Stage → Bool
  | .audited | .answered _ => true
  | _ => false

theorem step_recorded (requests : Fin n → Request) (server : Server n) (i : Fin n) {j : Fin n}
    (recorded : (server.process j).recorded = true) :
    ((step requests server i).process j).recorded = true := by
  by_cases own : j = i
  · rw [← own, step_self]
    cases standing : server.process j with
    | audited => rfl
    | answered content => rfl
    | received => simp [standing, Stage.recorded] at recorded
    | checked => simp [standing, Stage.recorded] at recorded
    | persisted => simp [standing, Stage.recorded] at recorded
    | failed => simp [standing, Stage.recorded] at recorded
  · rw [step_other requests server own]
    exact recorded

theorem run_recorded (requests : Fin n → Request) (schedule : List (Fin n)) (server : Server n)
    {j : Fin n} (recorded : (server.process j).recorded = true) :
    ((run requests server schedule).process j).recorded = true :=
  run_invariant (fun server => (server.process j).recorded = true)
    (fun i _ server => step_recorded requests server i) recorded

theorem recorded_status {stage : Stage} (recorded : stage.recorded = true) :
    stage.status ≠ some 500 := by
  cases stage with
  | audited => simp [Stage.status]
  | answered content => simp [Stage.status]
  | received => simp [Stage.status]
  | checked => simp [Stage.status]
  | persisted => simp [Stage.status]
  | failed => cases recorded

section TwoRuns

variable {tenantId : String} {requests others : Fin n → Request} {world : World}

theorem Agree.symm {server other : Server n} (same : SameRequests tenantId requests others)
    (agree : Agree tenantId requests server other) : Agree tenantId others other server where
  stages := by
    intro i own
    rw [same.owner] at own
    exact (agree.stages i own).symm
  view := agree.view.symm

/-- A step for another tenant is not noticed. -/
theorem Agree.foreign {server other : Server n} (agree : Agree tenantId requests server other)
    {i : Fin n} (foreign : owns tenantId requests i = false) :
    Agree tenantId requests (step requests server i) other where
  stages := by
    intro j own
    have apart : j ≠ i := by
      intro same
      rw [same, foreign] at own
      cases own
    rw [step_other requests server apart]
    exact agree.stages j own
  view := (advance_foreign (ne_of_beq_false foreign) server.store (server.process i)).trans agree.view

/-- A step for the tenant itself does the same to both, unless it is stopped in one of them. -/
theorem Agree.own {server other : Server n} (agree : Agree tenantId requests server other)
    (same : SameRequests tenantId requests others) (fresh : FreshIds requests world)
    (otherFresh : FreshIds others world) (unwritten : Unwritten requests server)
    (otherUnwritten : Unwritten others other) {i : Fin n} (own : owns tenantId requests i = true)
    (hit : blocked (requests i) server.store (server.process i) =
      blocked (others i) other.store (other.process i)) :
    Agree tenantId requests (step requests server i) (step others other i) := by
  have moved := advance_own (same.submission i own) (beq_iff_eq.mp own) agree.view (fresh.named i)
    (otherFresh.named i) (unwritten.persisted i) (otherUnwritten.persisted i) (agree.stages i own) hit
  refine ⟨?_, moved.2⟩
  intro j mine
  by_cases self : j = i
  · rw [self, step_self, step_self]
    exact moved.1
  · rw [step_other requests server self, step_other others other self]
    exact agree.stages j mine

/-- If a write of the tenant is stopped in one history only, its client is told so there, and
not in the other. -/
theorem statuses_apart {server other : Server n} (agree : Agree tenantId requests server other)
    (same : SameRequests tenantId requests others) (fresh : FreshIds requests world)
    (otherFresh : FreshIds others world) (otherUnwritten : Unwritten others other) {i : Fin n}
    (own : owns tenantId requests i = true)
    (hit : blocked (requests i) server.store (server.process i) = true)
    (miss : blocked (others i) other.store (other.process i) = false)
    (schedule otherSchedule : List (Fin n)) :
    ((run requests (step requests server i) schedule).process i).status ≠
      ((run others (step others other i) otherSchedule).process i).status := by
  have failed : (step requests server i).process i = .failed := by
    rw [step_self, advance_blocked hit]
  have audited : (step others other i).process i = .audited := by
    rw [step_self]
    exact advance_unblocked (same.submission i own) (beq_iff_eq.mp own) agree.view (fresh.named i)
      (otherFresh.named i) (otherUnwritten.persisted i) (agree.stages i own) hit miss
  rw [run_failed requests schedule _ failed]
  intro told
  apply recorded_status (run_recorded others otherSchedule (step others other i) (j := i) ?_) told.symm
  rw [audited]
  rfl

theorem Agree.sameFor {server other : Server n} (agree : Agree tenantId requests server other) :
    SameFor tenantId requests server other :=
  ⟨fun i own => (agree.stages i own).status, agree.view.audits, agree.view.sessions⟩

/-- Steps for other tenants only. -/
theorem Agree.idle {server other : Server n} (agree : Agree tenantId requests server other)
    (schedule : List (Fin n)) (foreign : ∀ i ∈ schedule, owns tenantId requests i = false) :
    Agree tenantId requests (run requests server schedule) other :=
  run_invariant (fun server => Agree tenantId requests server other)
    (fun i member _ agree => agree.foreign (foreign i member)) agree

theorem hits_idle (server : Server n) (idle rest : List (Fin n))
    (foreign : ∀ i ∈ idle, owns tenantId requests i = false) :
    hits tenantId requests server (idle ++ rest) =
      hits tenantId requests (run requests server idle) rest := by
  induction idle generalizing server with
  | nil => rfl
  | cons i idle ih =>
      have first : ¬ owns tenantId requests i = true := by simp [foreign i (by simp)]
      rw [List.cons_append, hits, if_neg first, ih _ (fun j member => foreign j (by simp [member]))]
      rfl

theorem run_unwritten (fresh : FreshIds requests world) (schedule : List (Fin n))
    {server : Server n} (unwritten : Unwritten requests server) :
    Unwritten requests (run requests server schedule) :=
  run_invariant (Unwritten requests) (fun i _ _ unwritten => step_unwritten fresh unwritten i)
    unwritten

theorem run_append (requests : Fin n → Request) (server : Server n) (first second : List (Fin n)) :
    run requests server (first ++ second) = run requests (run requests server first) second := by
  rw [run, List.map_append, Runs.final_append]
  rfl

theorem sameFor_iff_of_agree (same : SameRequests tenantId requests others)
    (fresh : FreshIds requests world) (otherFresh : FreshIds others world)
    (schedule : List (Fin n)) : ∀ (otherSchedule : List (Fin n)) (server other : Server n),
    Agree tenantId requests server other → Unwritten requests server → Unwritten others other →
    schedule.filter (owns tenantId requests) = otherSchedule.filter (owns tenantId others) →
    (SameFor tenantId requests (run requests server schedule) (run others other otherSchedule) ↔
      hits tenantId requests server schedule = hits tenantId others other otherSchedule) := by
  induction schedule with
  | nil =>
      intro otherSchedule server other agree unwritten otherUnwritten order
      have foreign : ∀ i ∈ otherSchedule, owns tenantId others i = false := by
        intro i member
        have none_left := List.filter_eq_nil_iff.mp order.symm i member
        simpa using none_left
      have after := (agree.symm same).idle otherSchedule foreign
      have silent := hits_idle other otherSchedule [] foreign
      rw [List.append_nil] at silent
      constructor
      · intro _
        rw [silent]
        rfl
      · intro _
        exact (after.symm same.symm).sameFor
  | cons i rest ih =>
      intro otherSchedule server other agree unwritten otherUnwritten order
      by_cases own : owns tenantId requests i = true
      · -- the other history takes the same step, after some that the tenant does not notice
        rw [List.filter_cons_of_pos own] at order
        obtain ⟨idle, later, shape, foreign, _, remaining⟩ := List.filter_eq_cons_iff.mp order.symm
        have unnoticed : ∀ j ∈ idle, owns tenantId others j = false := by
          intro j member
          simpa using foreign j member
        have meets := ((agree.symm same).idle idle unnoticed).symm same.symm
        have still := run_unwritten otherFresh idle otherUnwritten
        have otherOwn : owns tenantId others i = true := (same.owner i).trans own
        rw [shape, run_append, hits_idle other idle _ unnoticed, hits, hits, if_pos own,
          if_pos otherOwn, List.cons.injEq]
        by_cases hit : blocked (requests i) server.store (server.process i) =
            blocked (others i) (run others other idle).store ((run others other idle).process i)
        · have next := meets.own same fresh otherFresh unwritten still own hit
          have tail := ih later _ _ next (step_unwritten fresh unwritten i)
            (step_unwritten otherFresh still i) remaining.symm
          constructor
          · exact fun alike => ⟨hit, tail.mp alike⟩
          · exact fun equal => tail.mpr equal.2
        · constructor
          · intro alike
            have told := alike.statuses i own
            cases mine : blocked (requests i) server.store (server.process i) with
            | true =>
                rw [mine] at hit
                have missed := (Bool.eq_false_iff.mpr (Ne.symm hit))
                exact absurd told (statuses_apart meets same fresh otherFresh still own mine missed
                  rest later)
            | false =>
                rw [mine] at hit
                have stopped := Bool.eq_true_of_not_eq_false (Ne.symm hit)
                exact absurd told.symm (statuses_apart (meets.symm same) same.symm otherFresh fresh
                  unwritten otherOwn stopped mine later rest)
          · exact fun equal => absurd equal.1 hit
      · have foreign : owns tenantId requests i = false := by simpa using own
        rw [List.filter_cons_of_neg own] at order
        rw [hits, if_neg own]
        exact ih otherSchedule _ other (agree.foreign foreign) (step_unwritten fresh unwritten i)
          otherUnwritten order

end TwoRuns

/-- The tenant is left alone by the others exactly if each of its audit writes is stopped by
another tenant's row in both histories or in neither. -/
theorem sameFor_iff_hits (tenantId : String) (requests others : Fin n → Request)
    (schedule otherSchedule : List (Fin n)) (world : World)
    (same : SameRequests tenantId requests others)
    (order : schedule.filter (owns tenantId requests) = otherSchedule.filter (owns tenantId others))
    (fresh : FreshIds requests world) (otherFresh : FreshIds others world) :
    SameFor tenantId requests (run requests (Server.start n world) schedule)
        (run others (Server.start n world) otherSchedule) ↔
      hits tenantId requests (Server.start n world) schedule =
        hits tenantId others (Server.start n world) otherSchedule := by
  apply sameFor_iff_of_agree same fresh otherFresh schedule otherSchedule
  · exact ⟨fun _ _ => .received, .refl tenantId world⟩
  · exact fun i _ => fresh.unused i
  · exact fun i _ => otherFresh.unused i
  · exact order

/-- A request of tenant-a and one of tenant-b under one correlation id. -/
def sharedCorrelation : Fin 2 → Request
  | 0 => sampleRequest "correlation-1" "event-1" "session-1"
  | 1 => { sampleRequest "correlation-1" "event-2" "session-2" with
      principal := ⟨"tenant-b", "client-b"⟩ }

theorem sharedCorrelation_fresh : FreshIds sharedCorrelation sampleWorld where
  named := by decide
  unused := by
    intro i row member
    cases member
  distinct := by decide

theorem sharedCorrelation_same : SameRequests "tenant-b" sharedCorrelation sharedCorrelation where
  owner _ := rfl
  submission _ _ := ⟨rfl, rfl, rfl, rfl⟩

/-- Alone, or after a request of tenant-a that has not got to its audit row, tenant-b is
accepted. -/
theorem sameFor_iff_hits_unaudited :
    hits "tenant-b" sharedCorrelation (Server.start 2 sampleWorld) [1, 1, 1, 1] =
        hits "tenant-b" sharedCorrelation (Server.start 2 sampleWorld) [0, 0, 1, 1, 1, 1] ∧
    SameFor "tenant-b" sharedCorrelation
      (run sharedCorrelation (Server.start 2 sampleWorld) [1, 1, 1, 1])
      (run sharedCorrelation (Server.start 2 sampleWorld) [0, 0, 1, 1, 1, 1]) := by
  have untouched : hits "tenant-b" sharedCorrelation (Server.start 2 sampleWorld) [1, 1, 1, 1] =
      hits "tenant-b" sharedCorrelation (Server.start 2 sampleWorld) [0, 0, 1, 1, 1, 1] := by
    decide +kernel
  exact ⟨untouched, (sameFor_iff_hits "tenant-b" _ _ _ _ _ sharedCorrelation_same (by decide)
    sharedCorrelation_fresh sharedCorrelation_fresh).mpr untouched⟩

/-- Once the request of tenant-a has written its row, tenant-b is refused. -/
theorem sameFor_fails_after_shared_correlation :
    SameRequests "tenant-b" sharedCorrelation sharedCorrelation ∧
    FreshIds sharedCorrelation sampleWorld ∧
    [1, 1, 1, 1].filter (owns "tenant-b" sharedCorrelation) =
      [0, 0, 0, 0, 1, 1, 1, 1].filter (owns "tenant-b" sharedCorrelation) ∧
    ¬ SameFor "tenant-b" sharedCorrelation
      (run sharedCorrelation (Server.start 2 sampleWorld) [1, 1, 1, 1])
      (run sharedCorrelation (Server.start 2 sampleWorld) [0, 0, 0, 0, 1, 1, 1, 1]) := by
  refine ⟨sharedCorrelation_same, sharedCorrelation_fresh, by decide, ?_⟩
  intro same
  have told := same.statuses 1 (by decide)
  revert told
  decide +kernel

end CollectMind.Ingest
