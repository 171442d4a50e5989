import CollectMind.Query.AuditEvents

set_option autoImplicit false

/- The audit trail of `tenant_config`: whether the rows that its trigger has filed tell how every
tenant's configuration came to be what it is. -/
namespace CollectMind.Query

open Python Registry AuditAdmin ChangeLog

/-- The row says that the tenant's configuration has changed. -/
def changesConfig (tenantId : String) (row : AuditRow) : Bool :=
  row.kind == .tenantConfigChange &&
    match row.field "target_tenant_id" with
    | some (.str name) => name == tenantId
    | _ => false

/-- The values before and after a change, as the row has them. -/
def configChange (row : AuditRow) : Json × Json :=
  ((row.field "prior_values").getD .null, (row.field "new_values").getD .null)

/-- The changes that the log tells of a tenant, in the order in which they were filed. -/
def configTrail (audits : List AuditRow) (tenantId : String) : List (Json × Json) :=
  (audits.filter (changesConfig tenantId)).map configChange

/-- The values of the tenant's row, or null without one. -/
def configValues (configs : List ConfigRow) (tenantId : String) : Json :=
  (findConfig tenantId configs).elim .null ConfigRow.values

/-- The log leads from no row, without a gap, to the row that the tenant has. -/
def Tells (world : World) (tenantId : String) : Prop :=
  Trail .null (configTrail world.audits tenantId) (configValues world.configs tenantId)

/-- The operation is an `UPDATE` that takes effect and gives the row to another tenant. -/
def MovesRow (world : World) (operation : Operation) : Prop :=
  ∃ setting tenantId row draws next, operation = .configure setting (.update tenantId row) draws ∧
    row.tenantId ≠ tenantId ∧ (findConfig tenantId world.configs).isSome = true ∧
    configStatement world.fleet.tenants setting draws world.configs world.audits
      (.update tenantId row) = .ok next

/-- The writer is not asked to write such a row itself. -/
def Operation.plain : Operation → Bool
  | .write event _ _ => event.kind != .tenantConfigChange
  | _ => true

section Trails

variable {audits : List AuditRow} {tenantId : String} {row : AuditRow}

theorem configTrail_append (audits : List AuditRow) (row : AuditRow) (tenantId : String) :
    configTrail (audits ++ [row]) tenantId =
      configTrail audits tenantId ++ if changesConfig tenantId row then [configChange row] else [] := by
  rw [configTrail, filter_append_named, List.map_append]
  split
  · rfl
  · rfl

theorem changesConfig_kind (other : row.kind ≠ .tenantConfigChange) :
    changesConfig tenantId row = false := by
  rw [changesConfig, beq_eq_false_iff_ne.mpr other, Bool.false_and]

theorem changesConfig_audit (setting : Option String) (draws : Draws) (affected : ConfigRow)
    (old new : Option ConfigRow) :
    changesConfig tenantId (configAudit setting draws affected old new) =
      (affected.tenantId == tenantId) := rfl

theorem configChange_audit (setting : Option String) (draws : Draws) (affected : ConfigRow)
    (old new : Option ConfigRow) :
    configChange (configAudit setting draws affected old new) =
      (old.elim .null ConfigRow.values, new.elim .null ConfigRow.values) := rfl

end Trails

section Tables

variable {configs : List ConfigRow} {tenantId other : String} {row : ConfigRow}

theorem findConfig_tenant (found : findConfig tenantId configs = some row) :
    row.tenantId = tenantId := by
  have matched := List.find?_some found
  exact beq_iff_eq.mp matched

theorem configValues_insert (absent : findConfig row.tenantId configs = none) (tenantId : String) :
    configValues (configs ++ [row]) tenantId =
      if row.tenantId = tenantId then row.values else configValues configs tenantId := by
  rw [configValues, configValues, findConfig, List.find?_append]
  by_cases same : row.tenantId = tenantId
  · rw [if_pos same, ← same]
    rw [findConfig] at absent
    simp [absent]
  · rw [if_neg same]
    simp [findConfig, same]

theorem findConfig_update (configs : List ConfigRow) (row : ConfigRow) (tenantId : String) :
    findConfig tenantId
        (configs.map fun other => if other.tenantId = row.tenantId then row else other) =
      (findConfig tenantId configs).map
        fun other => if other.tenantId = row.tenantId then row else other := by
  rw [findConfig, List.find?_map, findConfig]
  congr 1
  congr 1
  funext other
  simp only [Function.comp_apply]
  by_cases same : other.tenantId = row.tenantId
  · rw [if_pos same, same]
  · rw [if_neg same]

theorem configValues_update (present : (findConfig row.tenantId configs).isSome = true)
    (tenantId : String) :
    configValues (configs.map fun other => if other.tenantId = row.tenantId then row else other)
        tenantId =
      if row.tenantId = tenantId then row.values else configValues configs tenantId := by
  rw [configValues, findConfig_update, configValues]
  by_cases same : row.tenantId = tenantId
  · obtain ⟨old, found⟩ := Option.isSome_iff_exists.mp present
    rw [if_pos same, ← same, found, Option.map_some, if_pos (findConfig_tenant found)]
    rfl
  · rw [if_neg same]
    cases found : findConfig tenantId configs with
    | none => rfl
    | some old =>
        have apart : old.tenantId ≠ row.tenantId := by
          rw [findConfig_tenant found]
          exact Ne.symm same
        rw [Option.map_some, if_neg apart]

theorem configValues_delete (configs : List ConfigRow) (gone tenantId : String) :
    configValues (configs.filter fun other => other.tenantId != gone) tenantId =
      if gone = tenantId then .null else configValues configs tenantId := by
  rw [configValues, findConfig, List.find?_filter, configValues, findConfig]
  by_cases same : gone = tenantId
  · rw [if_pos same, same]
    have none : configs.find? (fun row => decide ((row.tenantId != tenantId) = true ∧
        (row.tenantId == tenantId) = true)) = none := by
      rw [List.find?_eq_none]
      simp
    rw [none]
    rfl
  · rw [if_neg same]
    congr 2
    funext row
    by_cases own : row.tenantId = tenantId
    · simp [own, Ne.symm same]
    · simp [own]

end Tables

section Steps

variable {world : World} {tenantId : String}

/-- A row of another kind changes nothing in the story, and neither does a row for another
tenant. -/
theorem Tells.append {next : World} {row : AuditRow} (tells : Tells world tenantId)
    (audits : next.audits = world.audits ++ [row])
    (kept : changesConfig tenantId row = false)
    (values : configValues next.configs tenantId = configValues world.configs tenantId) :
    Tells next tenantId := by
  rw [Tells, audits, configTrail_append, kept, values, if_neg Bool.false_ne_true, List.append_nil]
  exact tells

/-- The row that the trigger files goes on from the values that the table had. -/
theorem Tells.change {next : World} {setting : Option String} {draws : Draws} {affected : ConfigRow}
    {old new : Option ConfigRow} (tells : Tells world tenantId)
    (audits : next.audits = world.audits ++ [configAudit setting draws affected old new])
    (prior : affected.tenantId = tenantId →
      old.elim .null ConfigRow.values = configValues world.configs tenantId)
    (values : configValues next.configs tenantId =
      if affected.tenantId = tenantId then new.elim .null ConfigRow.values
      else configValues world.configs tenantId) : Tells next tenantId := by
  by_cases own : affected.tenantId = tenantId
  · rw [Tells, audits, configTrail_append, changesConfig_audit, configChange_audit, prior own,
      values, if_pos own, beq_iff_eq.mpr own, Trail.append_iff]
    exact ⟨_, tells, rfl, rfl⟩
  · rw [if_neg own] at values
    refine tells.append audits ?_ values
    rw [changesConfig_audit]
    exact beq_eq_false_iff_ne.mpr own

/-- All that a statement against `tenant_config` can do when it goes through. -/
inductive ConfigEffect (setting : Option String) (draws : Draws) (configs : List ConfigRow)
    (audits : List AuditRow) : ConfigWrite → List ConfigRow → List AuditRow → Prop
  | misses {write : ConfigWrite}
      (absent : ∀ tenantId row, write = .update tenantId row → findConfig tenantId configs = none) :
      ConfigEffect setting draws configs audits write configs audits
  | inserts {row : ConfigRow} (absent : findConfig row.tenantId configs = none) :
      ConfigEffect setting draws configs audits (.insert row) (configs ++ [row])
        (audits ++ [configAudit setting draws row none (some row)])
  | updates {tenantId : String} {row old : ConfigRow} (found : findConfig tenantId configs = some old)
      (free : row.tenantId ≠ tenantId → findConfig row.tenantId configs = none) :
      ConfigEffect setting draws configs audits (.update tenantId row)
        (configs.map fun other => if other.tenantId = tenantId then row else other)
        (audits ++ [configAudit setting draws row (some old) (some row)])
  | deletes {tenantId : String} {old : ConfigRow} (found : findConfig tenantId configs = some old) :
      ConfigEffect setting draws configs audits (.delete tenantId)
        (configs.filter fun other => other.tenantId != tenantId)
        (audits ++ [configAudit setting draws old (some old) none])

theorem configStatement_effect {tenants : List String} {setting : Option String} {draws : Draws}
    {configs nextConfigs : List ConfigRow} {audits nextAudits : List AuditRow} {write : ConfigWrite}
    (success : configStatement tenants setting draws configs audits write =
      .ok (nextConfigs, nextAudits)) :
    ConfigEffect setting draws configs audits write nextConfigs nextAudits := by
  cases write with
  | insert row =>
      rw [configStatement] at success
      split at success
      · cases success
      · rename_i valid
        obtain ⟨filed, appended, same⟩ := (Checked.bind_ok_iff _ _ _).mp success
        cases same
        rw [(appendAudit_ok appended).1]
        refine .inserts ?_
        simp only [Bool.or_eq_true, not_or] at valid
        exact Option.not_isSome_iff_eq_none.mp valid.2
  | update tenantId row =>
      simp only [configStatement] at success
      split at success
      · rename_i absent
        cases success
        refine .misses ?_
        rintro _ _ ⟨⟩
        exact absent
      · rename_i old found
        split at success
        · cases success
        · rename_i valid
          obtain ⟨filed, appended, same⟩ := (Checked.bind_ok_iff _ _ _).mp success
          cases same
          rw [(appendAudit_ok appended).1]
          refine .updates found ?_
          intro moves
          simp only [Bool.or_eq_true, not_or, Bool.and_eq_true, not_and] at valid
          exact Option.not_isSome_iff_eq_none.mp (valid.2 (bne_iff_ne.mpr moves))
  | delete tenantId =>
      simp only [configStatement] at success
      split at success
      · cases success
        refine .misses ?_
        rintro _ _ ⟨⟩
      · rename_i old found
        obtain ⟨filed, appended, same⟩ := (Checked.bind_ok_iff _ _ _).mp success
        cases same
        rw [(appendAudit_ok appended).1]
        exact .deletes found

/-- A statement that leaves the row with its tenant is told rightly to every tenant. -/
theorem ConfigEffect.tells {setting : Option String} {draws : Draws} {write : ConfigWrite}
    {next : World} (effect : ConfigEffect setting draws world.configs world.audits write next.configs
      next.audits)
    (stays : ∀ tenantId row, write = .update tenantId row →
      (findConfig tenantId world.configs).isSome = true → row.tenantId = tenantId)
    (tells : Tells world tenantId) : Tells next tenantId := by
  generalize configsEq : next.configs = configs at effect
  generalize auditsEq : next.audits = audits at effect
  cases effect with
  | misses =>
      rw [Tells, configsEq, auditsEq]
      exact tells
  | @inserts row absent =>
      refine tells.change auditsEq ?_ ?_
      · intro own
        rw [configValues, ← own, absent]
      · rw [configsEq, configValues_insert absent]
        rfl
  | @updates updated row old found free =>
      have present : (findConfig updated world.configs).isSome = true := by rw [found]; rfl
      have own := stays updated row rfl present
      rw [← own] at configsEq found present
      refine tells.change auditsEq ?_ ?_
      · intro same
        rw [configValues, ← same, found]
      · rw [configsEq, configValues_update present]
        rfl
  | @deletes gone old found =>
      have named := findConfig_tenant found
      refine tells.change auditsEq ?_ ?_
      · intro same
        rw [configValues, ← same, named, found]
      · rw [configsEq, configValues_delete, named]
        rfl

/-- An operation other than a statement against the table leaves it alone and sends no row of its
kind. -/
theorem perform_other (world : World) {operation : Operation} (plain : operation.plain = true)
    (other : ∀ setting write draws, operation ≠ .configure setting write draws) :
    (perform world operation).configs = world.configs ∧
      ∀ row, operation.sent world = some row → row.kind ≠ .tenantConfigChange := by
  cases operation with
  | write event eventId now =>
      have kind : event.kind ≠ .tenantConfigChange := bne_iff_ne.mp plain
      constructor
      · rw [perform]
        cases Registry.write world.fleet.tenants world.audits event eventId now with
        | error error => rfl
        | ok result => rfl
      · intro row sent
        obtain ⟨_, same⟩ := Option.ite_none_right_eq_some.mp sent
        cases same
        exact kind
  | breakGlass invocation =>
      refine ⟨rfl, fun row sent => ?_⟩
      cases sent
      exact AuditKind.noConfusion
  | configure setting write draws => exact absurd rfl (other setting write draws)
  | assign call =>
      refine ⟨rfl, fun row sent => ?_⟩
      obtain ⟨_, same⟩ := Option.ite_none_right_eq_some.mp sent
      cases same
      exact AuditKind.noConfusion
  | scopeCheck gate policy tenantId correlationId =>
      refine ⟨rfl, fun row sent => ?_⟩
      obtain ⟨vehicle, _, rejected⟩ := Option.bind_eq_some_iff.mp sent
      obtain ⟨_, same⟩ := Option.ite_none_right_eq_some.mp rejected
      cases same
      exact AuditKind.noConfusion

theorem perform_tells {operation : Operation} (plain : operation.plain = true)
    (stays : ¬ MovesRow world operation) (tells : ∀ tenantId, Tells world tenantId)
    (tenantId : String) : Tells (perform world operation) tenantId := by
  by_cases configures : ∃ setting write draws, operation = .configure setting write draws
  · obtain ⟨setting, write, draws, rfl⟩ := configures
    simp only [perform]
    split
    · rename_i configs audits written
      refine ConfigEffect.tells (configStatement_effect written) ?_ (tells tenantId)
      rintro updated row rfl present
      by_contra moves
      exact stays ⟨setting, updated, row, draws, _, rfl, moves, present, written⟩
    · exact tells tenantId
  · push Not at configures
    obtain ⟨configs, other⟩ := perform_other world plain configures
    have audits := perform_audits world operation
    cases found : filed world.fleet.tenants world.audits (operation.sent world) with
    | none =>
        rw [found, Option.toList_none, List.append_nil] at audits
        rw [Tells, audits, configs]
        exact tells tenantId
    | some row =>
        rw [found] at audits
        have kind := other row (filed_eq_some.mp found).1
        refine (tells tenantId).append audits (changesConfig_kind kind) ?_
        rw [configs]

/-- A moved row is told of the new tenant as if it had been the tenant's own before. -/
theorem MovesRow.untold {operation : Operation} (moves : MovesRow world operation)
    (tells : ∀ tenantId, Tells world tenantId) :
    ∃ tenantId, ∀ more final,
      ¬ Trail .null (configTrail (perform world operation).audits tenantId ++ more) final := by
  obtain ⟨setting, tenantId, row, draws, ⟨configs, audits⟩, rfl, differs, present, written⟩ := moves
  refine ⟨row.tenantId, fun more final trail => ?_⟩
  have performed : (perform world (.configure setting (.update tenantId row) draws)).audits =
      audits := by
    simp only [perform, written]
    rfl
  rw [performed] at trail
  cases configStatement_effect written with
  | misses absent =>
      rw [absent tenantId row rfl] at present
      cases present
  | @updates _ _ old found free =>
      rw [configTrail_append, changesConfig_audit, configChange_audit, beq_self_eq_true, if_pos rfl,
        List.append_assoc, Trail.append_iff] at trail
      obtain ⟨middle, before, link, _⟩ := trail
      have none := (tells row.tenantId).unique before
      rw [configValues, free differs] at none
      rw [← none] at link
      cases link

end Steps

section Runs

variable {world : World}

theorem final_audits (operations : List Operation) (world : World) :
    ∃ more, (Runs.final step world operations).audits = world.audits ++ more :=
  ⟨_, Runs.final_log step World.audits id step_appends operations world⟩

theorem configTrail_more (audits more : List AuditRow) (tenantId : String) :
    configTrail (audits ++ more) tenantId = configTrail audits tenantId ++ configTrail more tenantId := by
  rw [configTrail, List.filter_append, List.map_append]
  rfl

theorem tells_iff_stays (operations : List Operation)
    (plain : ∀ operation ∈ operations, operation.plain = true) (world : World)
    (tells : ∀ tenantId, Tells world tenantId) :
    (∀ tenantId, Tells (Runs.final step world operations) tenantId) ↔
      ∀ earlier operation later, operations = earlier ++ operation :: later →
        ¬ MovesRow (Runs.final step world earlier) operation := by
  induction operations generalizing world with
  | nil => simp [tells]
  | cons operation rest ih =>
      rw [List.forall_mem_cons] at plain
      rw [Runs.forall_split_cons fun earlier other => ¬ MovesRow (Runs.final step world earlier) other]
      by_cases moves : MovesRow world operation
      · refine iff_of_false ?_ (fun both => both.1 moves)
        intro told
        obtain ⟨tenantId, untold⟩ := moves.untold tells
        obtain ⟨more, audits⟩ := final_audits rest (perform world operation)
        have trail := told tenantId
        rw [Tells, Runs.final_cons, show (step world operation).1 = perform world operation from rfl,
          audits, configTrail_more] at trail
        exact untold _ _ trail
      · have onward := ih plain.2 (step world operation).1 (perform_tells plain.1 moves tells)
        rw [Runs.final_cons, onward]
        exact (and_iff_right moves).symm

end Runs

/-- In every run of the writers of audit events, from a database without configurations, the log
tells every tenant how its configuration came about, exactly when no `UPDATE` of the run has given
a row to another tenant. -/
theorem configTrail_tells_iff (tenants : List String) (nextHistoryId : Nat)
    (operations : List Operation) (plain : ∀ operation ∈ operations, operation.plain = true) :
    (∀ tenantId, Trail .null
        (configTrail (Runs.final step (World.start tenants nextHistoryId) operations).audits tenantId)
        (configValues (Runs.final step (World.start tenants nextHistoryId) operations).configs
          tenantId)) ↔
      ∀ earlier operation later, operations = earlier ++ operation :: later →
        ¬ MovesRow (Runs.final step (World.start tenants nextHistoryId) earlier) operation :=
  tells_iff_stays operations plain _ (fun _ => rfl)

/-- A configuration with one rate for all. -/
def sampleConfig (tenantId : String) (rps : Int) : ConfigRow where
  tenantId := tenantId
  inboundSustainedRps := rps
  inboundBurstCapacity := rps
  querySustainedRps := rps
  queryBurstCapacity := rps
  updatedBySubject := "operator"

/-- A configuration is set, and then its row is given to another tenant. -/
def movedConfig : List Operation :=
  [.configure none (.insert (sampleConfig "tenant-a" 10)) ⟨"event-1", "suffix", 1⟩,
    .configure none (.update "tenant-a" (sampleConfig "tenant-b" 10)) ⟨"event-2", "suffix", 2⟩]

theorem configTrail_untold_after_move :
    ¬ ∀ tenantId, Trail .null
      (configTrail (Runs.final step (World.start ["tenant-a", "tenant-b"] 1) movedConfig).audits
        tenantId)
      (configValues (Runs.final step (World.start ["tenant-a", "tenant-b"] 1) movedConfig).configs
        tenantId) := by
  rw [configTrail_tells_iff ["tenant-a", "tenant-b"] 1 movedConfig
    (List.forall_mem_cons.mpr ⟨rfl, List.forall_mem_singleton.mpr rfl⟩)]
  intro stays
  exact stays [_] _ [] rfl ⟨none, "tenant-a", sampleConfig "tenant-b" 10, ⟨"event-2", "suffix", 2⟩, _,
    rfl, by decide, rfl, rfl⟩

end CollectMind.Query
