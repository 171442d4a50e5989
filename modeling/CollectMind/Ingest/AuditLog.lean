import CollectMind.Library.Runs
import CollectMind.Ingest.Retry
import CollectMind.Ingest.TenantView

set_option autoImplicit false

/- Requests one after the other, nothing failing: which of the findings that are accepted have
a row in the audit log. -/
namespace CollectMind.Ingest

open Registry

def serve (world : World) (request : Request) : World × Response := postFinding world ⟨request, {}⟩

/-- An `accepted` row for the finding of `key`. -/
def Names (row : AuditRow) (key : String × String) : Prop :=
  row.kind = .accepted ∧ ∃ finding, row.originatingFinding = some finding ∧
    finding.get "tenant_id" = some (.str key.1) ∧ finding.get "finding_id" = some (.str key.2)

def Recorded (rows : List AuditRow) (key : String × String) : Prop := ∃ row ∈ rows, Names row key

/-- An `accepted` row stands under the correlation id. -/
def Claimed (rows : List AuditRow) (correlationId : String) : Prop :=
  ∃ row ∈ rows, row.correlationId = correlationId ∧ row.kind = .accepted

/-- The request is answered 202, and not as a replay. -/
def AnsweredNew (world : World) (request : Request) : Prop :=
  ∃ content, (serve world request).2 = .accepted content ∧ content.idempotentReplay = false

section Runs

variable (world : World)

/-- The world just before a request, after those before it. -/
def worldBefore (earlier : List Request) : World := Runs.final serve world earlier

/-- After each request answered 202 as new, the log has a row for its finding. -/
def EveryAcceptedRecorded (requests : List Request) : Prop :=
  ∀ earlier request later, requests = earlier ++ request :: later →
    AnsweredNew (worldBefore world earlier) request →
    Recorded (worldBefore world (earlier ++ [request])).audits request.key

/-- Another request, answered as new before this one, used its correlation id. -/
def UsedBefore (earlier : List Request) (correlationId : String) : Prop :=
  ∃ before request after, earlier = before ++ request :: after ∧
    AnsweredNew (worldBefore world before) request ∧ request.correlationId = correlationId

/-- The requests answered as new have correlation ids of their own: no two share one, and none is
that of an `accepted` row that was there at the start. A finding whose row was there at the start
does not need one. -/
def OwnCorrelationIds (requests : List Request) : Prop :=
  ∀ earlier request later, requests = earlier ++ request :: later →
    AnsweredNew (worldBefore world earlier) request →
    (¬ Claimed world.audits request.correlationId ∧
        ¬ UsedBefore world earlier request.correlationId) ∨
      Recorded world.audits request.key

end Runs

/-- What a request does to the rest of the world, as far as the log is concerned. -/
inductive Served (world : World) (request : Request) : Prop where
  | unchanged (old : ¬ AnsweredNew world request)
      (audits : (serve world request).1.audits = world.audits)
      (findings : ∀ key, Seen world.findings key → Seen (serve world request).1.findings key)
  | coalesced (new : AnsweredNew world request) (claimed : Claimed world.audits request.correlationId)
      (first : ¬ Seen world.findings request.key)
      (audits : (serve world request).1.audits = world.audits)
      (findings : ∀ key, Seen world.findings key ∨ key = request.key →
        Seen (serve world request).1.findings key)
  | recorded (new : AnsweredNew world request)
      (unclaimed : ¬ Claimed world.audits request.correlationId)
      (first : ¬ Seen world.findings request.key)
      (audits : (serve world request).1.audits = world.audits ++ [request.acceptedRow])
      (findings : ∀ key, Seen world.findings key ∨ key = request.key →
        Seen (serve world request).1.findings key)

theorem claimed_iff {rows : List AuditRow} {request : Request} :
    Claimed rows request.correlationId ↔ rows.any (sameEvent request.acceptedRow) = true := by
  simp only [Claimed, List.any_eq_true, sameEvent_iff]
  rfl

theorem insertFinding_seen {world persisted : World} {request : Request}
    (success : insertFinding world request = .ok persisted) :
    persisted.audits = world.audits ∧
      ∀ key, Seen world.findings key ∨ key = request.key → Seen persisted.findings key := by
  have own := (insertFinding_ok success).1
  have goes : insertable world request = true := by
    by_contra stops
    obtain ⟨fault, failed⟩ := insertFinding_refused (Bool.eq_false_iff.mpr stops)
    rw [success] at failed
    cases failed
  rw [insertFinding_stored goes] at success
  have stored : persisted = storeFinding world request := (Except.ok.inj success).symm
  have kept : persisted.audits = world.audits ∧ ∀ row ∈ world.findings, row ∈ persisted.findings := by
    rw [stored, storeFinding]
    split
    · exact ⟨rfl, fun row member => member⟩
    · exact ⟨rfl, fun row member => List.mem_append_left _ member⟩
  refine ⟨kept.1, ?_⟩
  intro key either
  rcases either with ⟨named, row, member, same⟩ | same
  · exact ⟨named, row, kept.2 row member, same⟩
  · rw [same]
    exact own

theorem not_answeredNew_of_error {world : World} {request : Request}
    (posted : (serve world request).2 = .serverError) : ¬ AnsweredNew world request := by
  rintro ⟨content, answer, _⟩
  rw [posted] at answer
  cases answer

/-- Every request is served in one of the three ways. -/
theorem serve_served (world : World) (request : Request) : Served world request := by
  rcases postFinding_cases world ⟨request, {}⟩ with ⟨faulty, _⟩ | ⟨_, ⟨seen, posted⟩ | ⟨unseen, outcome⟩⟩
  · cases faulty
  · have served : serve world request = (world, .accepted (request.acceptance true)) := posted
    apply Served.unchanged
    · rintro ⟨content, answer, new⟩
      rw [served] at answer
      cases answer
      cases new
    · rw [served]
    · intro key known
      rw [served]
      exact known
  · rcases outcome with ⟨fault, _, posted⟩ | ⟨persisted, inserted, outcome⟩
    · have served : serve world request = (world, .serverError) := posted
      apply Served.unchanged
      · exact not_answeredNew_of_error (by rw [served])
      · rw [served]
      · intro key known
        rw [served]
        exact known
    · have stored : insertFinding world request = .ok persisted := inserted
      obtain ⟨audits, findings⟩ := insertFinding_seen stored
      rcases outcome with ⟨failure, _, posted⟩ | ⟨audited, written, posted⟩
      · have served : serve world request = (persisted, .serverError) := posted
        apply Served.unchanged
        · exact not_answeredNew_of_error (by rw [served])
        · rw [served]
          exact audits
        · intro key known
          rw [served]
          exact findings key (Or.inl known)
      · have served : serve world request =
            (enqueue audited request, .accepted (request.acceptance false)) := posted
        have success : auditAccepted persisted request = .ok audited := written
        have new : AnsweredNew world request := ⟨request.acceptance false, by rw [served], rfl⟩
        obtain ⟨tenant, checked, result⟩ := auditAccepted_cases success
        by_cases claimed : Claimed world.audits request.correlationId
        · -- the row under the id is the tenant's own, or the write would have failed
          have clash : persisted.audits.any (sameEvent request.acceptedRow) = true := by
            rw [audits]
            exact claimed_iff.mp claimed
          have own : OwnClaim persisted request := by
            by_contra unowned
            rcases result with ⟨own, _⟩ | ⟨_, free, _⟩
            · exact unowned own
            · rw [hidden_iff.mpr ⟨clash, unowned⟩] at free
              cases free
          rw [auditAccepted_coalesced tenant checked own] at success
          have same : persisted = audited := Except.ok.inj success
          apply Served.coalesced new claimed unseen
          · rw [served, enqueue, ← same]
            exact audits
          · rw [served, enqueue, ← same]
            exact findings
        · have unowned : ¬ OwnClaim persisted request := by
            intro own
            obtain ⟨existing, member, same, _⟩ := ownClaim_iff.mp own
            apply claimed
            rw [claimed_iff, ← audits]
            exact List.any_eq_true.mpr ⟨existing, member, same⟩
          rcases result with ⟨own, _⟩ | ⟨_, _, appended⟩
          · exact absurd own unowned
          · apply Served.recorded new claimed unseen
            · rw [served, enqueue, appended, audits]
            · rw [served, enqueue, appended]
              exact findings

theorem acceptedRow_names (request : Request) : Names request.acceptedRow request.key :=
  ⟨rfl, _, rfl, rfl, rfl⟩

theorem names_acceptedRow {request : Request} {key : String × String}
    (named : Names request.acceptedRow key) : key = request.key := by
  obtain ⟨_, finding, shown, tenant, findingId⟩ := named
  have shape : finding = [("tenant_id", .str request.principal.tenantId),
    ("finding_id", .str request.finding.findingId.val)] := (Option.some.inj shown).symm
  rw [shape] at tenant findingId
  have first : request.principal.tenantId = key.1 := Python.Json.str.inj (Option.some.inj tenant)
  have second : request.finding.findingId.val = key.2 := Python.Json.str.inj (Option.some.inj findingId)
  rw [Request.key, first, second]

theorem Recorded.append {rows : List AuditRow} {request : Request} {key : String × String} :
    Recorded (rows ++ [request.acceptedRow]) key ↔ Recorded rows key ∨ key = request.key := by
  constructor
  · rintro ⟨row, member, named⟩
    rcases List.mem_append.mp member with old | new
    · exact Or.inl ⟨row, old, named⟩
    · rw [List.mem_singleton.mp new] at named
      exact Or.inr (names_acceptedRow named)
  · rintro (⟨row, member, named⟩ | same)
    · exact ⟨row, List.mem_append_left _ member, named⟩
    · rw [same]
      exact ⟨request.acceptedRow, by simp, acceptedRow_names request⟩

section Runs

variable {world : World}

theorem worldBefore_snoc (earlier : List Request) (request : Request) :
    worldBefore world (earlier ++ [request]) = (serve (worldBefore world earlier) request).1 :=
  Runs.final_append serve world earlier [request]

/-- A row that names a finding was there at the start, or the finding has been stored. -/
theorem recorded_before (earlier : List Request) (key : String × String)
    (recorded : Recorded (worldBefore world earlier).audits key) :
    Recorded world.audits key ∨ Seen (worldBefore world earlier).findings key := by
  induction earlier using List.reverseRecOn with
  | nil => exact Or.inl recorded
  | append_singleton earlier request ih =>
      rw [worldBefore_snoc] at recorded ⊢
      cases serve_served (worldBefore world earlier) request with
      | unchanged _ audits findings =>
          rw [audits] at recorded
          exact (ih recorded).imp id (findings key)
      | coalesced _ _ _ audits findings =>
          rw [audits] at recorded
          exact (ih recorded).imp id fun seen => findings key (Or.inl seen)
      | recorded _ _ _ audits findings =>
          rw [audits] at recorded
          rcases Recorded.append.mp recorded with old | same
          · exact (ih old).imp id fun seen => findings key (Or.inl seen)
          · exact Or.inr (findings key (Or.inr same))

/-- Rows stay. -/
theorem recorded_kept (earlier : List Request) {key : String × String}
    (recorded : Recorded world.audits key) : Recorded (worldBefore world earlier).audits key := by
  induction earlier using List.reverseRecOn with
  | nil => exact recorded
  | append_singleton earlier request ih =>
      rw [worldBefore_snoc]
      cases serve_served (worldBefore world earlier) request with
      | unchanged _ audits _ =>
          rw [audits]
          exact ih
      | coalesced _ _ _ audits _ =>
          rw [audits]
          exact ih
      | recorded _ _ _ audits _ =>
          rw [audits]
          exact Recorded.append.mpr (Or.inl ih)

theorem usedBefore_snoc {earlier : List Request} {request : Request} {correlationId : String} :
    UsedBefore world (earlier ++ [request]) correlationId ↔
      UsedBefore world earlier correlationId ∨
        AnsweredNew (worldBefore world earlier) request ∧ request.correlationId = correlationId := by
  constructor
  · rintro ⟨before, user, after, shape, new, same⟩
    rcases List.eq_nil_or_concat after with none_after | ⟨rest, last, longer⟩
    · rw [none_after] at shape
      obtain ⟨prior, only⟩ := List.append_inj' shape rfl
      have exact_request : request = user := List.singleton_inj.mp only
      rw [prior, exact_request]
      exact Or.inr ⟨new, same⟩
    · rw [longer, List.concat_eq_append, ← List.cons_append, ← List.append_assoc] at shape
      exact Or.inl ⟨before, user, rest, (List.append_inj' shape rfl).1, new, same⟩
  · rintro (⟨before, user, after, shape, new, same⟩ | ⟨new, same⟩)
    · refine ⟨before, user, after ++ [request], ?_, new, same⟩
      rw [shape]
      simp
    · exact ⟨earlier, request, [], rfl, new, same⟩

/-- The correlation ids that are taken: those of the start, and those of the requests answered as
new since. -/
theorem claimed_before (earlier : List Request) (correlationId : String) :
    Claimed (worldBefore world earlier).audits correlationId ↔
      Claimed world.audits correlationId ∨ UsedBefore world earlier correlationId := by
  induction earlier using List.reverseRecOn with
  | nil =>
      have unused : ¬ UsedBefore world [] correlationId := by
        rintro ⟨before, request, after, shape, _⟩
        have length := congrArg List.length shape
        simp at length
      constructor
      · exact Or.inl
      · exact fun either => either.resolve_right unused
  | append_singleton earlier request ih =>
      rw [worldBefore_snoc, usedBefore_snoc, ← or_assoc, ← ih]
      cases serve_served (worldBefore world earlier) request with
      | unchanged old audits _ =>
          rw [audits]
          constructor
          · exact Or.inl
          · exact fun either => either.resolve_right fun new => old new.1
      | coalesced _ claimed _ audits _ =>
          rw [audits]
          constructor
          · exact Or.inl
          · rintro (taken | ⟨_, same⟩)
            · exact taken
            · exact same ▸ claimed
      | recorded new _ _ audits _ =>
          rw [audits]
          constructor
          · rintro ⟨row, member, same, kind⟩
            rcases List.mem_append.mp member with old | last
            · exact Or.inl ⟨row, old, same, kind⟩
            · rw [List.mem_singleton.mp last] at same
              exact Or.inr ⟨new, same⟩
          · rintro (⟨row, member, same, kind⟩ | ⟨_, same⟩)
            · exact ⟨row, List.mem_append_left _ member, same, kind⟩
            · exact ⟨request.acceptedRow, by simp, same, rfl⟩

/-- A new finding gets its row exactly if its correlation id was free. -/
theorem recorded_iff_unclaimed {earlier : List Request} {request : Request}
    (new : AnsweredNew (worldBefore world earlier) request) :
    Recorded (worldBefore world (earlier ++ [request])).audits request.key ↔
      ¬ Claimed (worldBefore world earlier).audits request.correlationId ∨
        Recorded world.audits request.key := by
  rw [worldBefore_snoc]
  cases serve_served (worldBefore world earlier) request with
  | unchanged old _ _ => exact absurd new old
  | coalesced _ claimed first audits _ =>
      rw [audits]
      constructor
      · intro recorded
        exact Or.inr ((recorded_before earlier request.key recorded).resolve_right first)
      · intro either
        exact recorded_kept earlier (either.resolve_left fun unclaimed => unclaimed claimed)
  | recorded _ unclaimed _ audits _ =>
      rw [audits]
      constructor
      · exact fun _ => Or.inl unclaimed
      · exact fun _ => Recorded.append.mpr (Or.inr rfl)

end Runs

/-- Every accepted finding is in the log exactly if the requests that are answered as new have
correlation ids of their own. -/
theorem everyAcceptedRecorded_iff_ownCorrelationIds (world : World) (requests : List Request) :
    EveryAcceptedRecorded world requests ↔ OwnCorrelationIds world requests := by
  have place : ∀ earlier request, AnsweredNew (worldBefore world earlier) request →
      (Recorded (worldBefore world (earlier ++ [request])).audits request.key ↔
        (¬ Claimed world.audits request.correlationId ∧
          ¬ UsedBefore world earlier request.correlationId) ∨ Recorded world.audits request.key) := by
    intro earlier request new
    rw [recorded_iff_unclaimed new, claimed_before, not_or]
  constructor
  · intro holds earlier request later shape new
    exact (place earlier request new).mp (holds earlier request later shape new)
  · intro holds earlier request later shape new
    exact (place earlier request new).mpr (holds earlier request later shape new)

def firstFinding : Request := sampleRequest "correlation-1" "event-1" "session-1"

/-- A second finding of tenant-a, under the correlation id of the first. -/
def secondFinding : Request :=
  { sampleRequest "correlation-1" "event-2" "session-2" with
    finding := { sampleFinding with findingId := ⟨"finding-2", by decide⟩ } }

/-- Both are answered 202 as new, and the second is not in the log. -/
theorem everyAcceptedRecorded_fails_for_shared_id :
    Runs.outputs serve sampleWorld [firstFinding, secondFinding] =
      [.accepted (firstFinding.acceptance false), .accepted (secondFinding.acceptance false)] ∧
    ¬ EveryAcceptedRecorded sampleWorld [firstFinding, secondFinding] := by
  have answers : Runs.outputs serve sampleWorld [firstFinding, secondFinding] =
      [.accepted (firstFinding.acceptance false), .accepted (secondFinding.acceptance false)] := rfl
  refine ⟨answers, ?_⟩
  intro holds
  have log : (worldBefore sampleWorld [firstFinding, secondFinding]).audits =
      [firstFinding.acceptedRow] := rfl
  have new : AnsweredNew (worldBefore sampleWorld [firstFinding]) secondFinding :=
    ⟨secondFinding.acceptance false, rfl, rfl⟩
  have recorded : Recorded (worldBefore sampleWorld [firstFinding, secondFinding]).audits
      secondFinding.key := holds [firstFinding] secondFinding [] rfl new
  rw [log] at recorded
  obtain ⟨row, member, named⟩ := recorded
  rw [List.mem_singleton.mp member] at named
  have clash := names_acceptedRow named
  revert clash
  decide

end CollectMind.Ingest
