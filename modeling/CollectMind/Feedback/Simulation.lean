import Mathlib.Algebra.Group.Action.Defs
import CollectMind.Feedback.Evaluator
import CollectMind.Graph.Run

set_option autoImplicit false

/- `TelemetryGenerator.simulate` of simulators/telemetry_generator.py, from the directive of a
finding to the verdict of the feedback worker on what was simulated. -/
namespace CollectMind.Feedback

open Python RowSecurity Registry Validator

/-- What the simulator is given: the conversions it makes and the texts of what they raise, its
clock in seconds, and its `k`-th draw. -/
structure Simulator where
  converters : Converters
  notIterable : Json → String
  notSubscriptable : Json → String
  driver : Fault → String
  uniform : Nat → Rat
  now : Nat

/-- `policy.get(key, [])`, iterated. -/
def Simulator.listed (simulator : Simulator) (policy : Dict) (key : String) :
    Except String (List Json) :=
  let value := (policy.get key).getD (.arr [])
  match value.toList with
  | some items => .ok items
  | none => .error (simulator.notIterable value)

/-- `signal["vss_name"]`. -/
def Simulator.vssName (simulator : Simulator) : Json → Except String Json
  | .obj fields => Dict.item fields "vss_name"
  | value => .error (simulator.notSubscriptable value)

/-- The sum of a float and a draw. -/
def shifted : PyFloat → Rat → PyFloat
  | .finite value, draw => .finite (value + draw)
  | value, _ => value

/-- `max(0.0, value)`; NaN is not above 0. -/
def atLeastZero : PyFloat → PyFloat
  | .finite value => .finite (max 0 value)
  | .posInf => .posInf
  | _ => .finite 0

/-- `min(1.0, value)`; NaN is not below 1. -/
def atMostOne : PyFloat → PyFloat
  | .finite value => .finite (min 1 value)
  | .negInf => .negInf
  | _ => .finite 1

/-- The two bodies of `generator`. -/
def generator (directive : Option String) (threshold : PyFloat) (draw : Rat) : PyFloat :=
  if directive = some "rule_out" then atLeastZero (shifted threshold (-draw))
  else atMostOne (shifted threshold draw)

/-- The interval that `generator` draws from. -/
def Drawn (directive : Option String) (draw : Rat) : Prop :=
  if directive = some "rule_out" then 1 / 5 ≤ draw ∧ draw ≤ 1 / 2
  else 1 / 20 ≤ draw ∧ draw ≤ 3 / 10

/-- The three loops: a second, a vehicle and a signal. -/
def grid {α β : Type} (scope : List α) (signals : List β) : List (Nat × α × β) :=
  (List.range 20).flatMap fun i => scope.flatMap fun vehicle =>
    signals.map fun signal => (i, vehicle, signal)

def observedPolicy (tenantId : String) (policy : Dict) : Json :=
  .obj [("tenant_id", .str tenantId), ("policy_id", (policy.get "policy_id").getD (.str "")),
    ("version", (policy.get "version").getD (.str "1.0.0"))]

/-- The `k`-th row, with its signal name, which no modelled statement reads back. -/
def Simulator.row (simulator : Simulator) (tenantId : String) (policy : Dict)
    (directive : Option String) (threshold : PyFloat) (cell : (Nat × String × String) × Nat) :
    ObservationRow × String :=
  ({ tenantId := tenantId
     vehicleId := cell.1.2.1
     value := generator directive threshold (simulator.uniform cell.2)
     observedAt := simulator.now + cell.1.1
     policyRef := some (observedPolicy tenantId policy) }, cell.1.2.2)

/-- The row as the driver binds it: a vehicle or a signal that is no text is refused. -/
def Simulator.bound (simulator : Simulator) (tenantId : String) (policy : Dict)
    (directive : Option String) (threshold : PyFloat) (cell : (Nat × Json × Json) × Nat) :
    Except String (ObservationRow × String) := do
  let vehicle ← simulator.converters.text cell.1.2.1
  let signal ← simulator.converters.text cell.1.2.2
  return simulator.row tenantId policy directive threshold ((cell.1.1, vehicle, signal), cell.2)

/-- The `INSERT` of a row, with the constraints of migration 009. -/
def insertObservation (tenants : List String) (telemetry : List ObservationRow)
    (new : ObservationRow × String) : Except Fault (List ObservationRow) := do
  let next ← insertRow observationTable (tenantAccess new.1.tenantId) .fail telemetry new.1
  if new.1.vehicleId = "" ∨ new.2 = "" ∨ new.1.tenantId ∉ tenants then .error .constraint
  else .ok next

/-- `TelemetryGenerator.simulate`: the table it leaves, and the number it returns. -/
def simulate (simulator : Simulator) (tenants : List String) (telemetry : List ObservationRow)
    (tenantId : String) (policy : Dict) (directive : Option String) :
    Except String (List ObservationRow × Nat) := do
  let scope ← simulator.listed policy "vehicle_scope"
  let items ← simulator.listed policy "signals"
  let signals ← items.mapM simulator.vssName
  if scope = [] ∨ signals = [] ∨ directive = some "starve" then return (telemetry, 0)
  else
    let threshold ← simulator.converters.toFloat
      ((policy.get "confidence_threshold").getD (.float (.finite (1 / 2))))
    let rows ← (grid scope signals).zipIdx.mapM
      (simulator.bound tenantId policy directive threshold)
    -- One transaction: a row that is refused takes the others with it.
    let next ← (rows.foldlM (insertObservation tenants) telemetry).mapError simulator.driver
    return (next, rows.length)

section Grid

variable {α β : Type}

theorem length_grid (scope : List α) (signals : List β) :
    (grid scope signals).length = 20 * (scope.length * signals.length) := by
  simp only [grid, List.length_flatMap, List.length_map, List.map_const', List.sum_replicate,
    List.length_range, smul_eq_mul]

theorem grid_map {γ δ : Type} (vehicle : α → γ) (signal : β → δ) (scope : List α)
    (signals : List β) :
    grid (scope.map vehicle) (signals.map signal) =
      (grid scope signals).map fun cell => (cell.1, vehicle cell.2.1, signal cell.2.2) := by
  simp [grid, List.map_flatMap, List.flatMap_map, Function.comp_def]

theorem mem_grid {scope : List α} {signals : List β} {cell : Nat × α × β}
    (member : cell ∈ grid scope signals) : cell.2.1 ∈ scope ∧ cell.2.2 ∈ signals := by
  simp only [grid, List.mem_flatMap, List.mem_map] at member
  obtain ⟨i, _, vehicle, inScope, signal, inSignals, rfl⟩ := member
  exact ⟨inScope, inSignals⟩

end Grid

/-- The rows that a simulation of a well-formed policy sends. -/
def Simulator.rows (simulator : Simulator) (tenantId : String) (policy : Dict)
    (directive : Option String) (threshold : PyFloat) (vehicles signals : List String) :
    List (ObservationRow × String) :=
  (grid vehicles signals).zipIdx.map (simulator.row tenantId policy directive threshold)

section Rows

variable {simulator : Simulator} {tenantId : String} {policy : Dict} {directive : Option String}
  {threshold : PyFloat} {vehicles signals : List String}

theorem bound_rows :
    (grid (vehicles.map Json.str) (signals.map Json.str)).zipIdx.mapM
        (simulator.bound tenantId policy directive threshold) =
      .ok (simulator.rows tenantId policy directive threshold vehicles signals) := by
  rw [grid_map, List.zipIdx_map]
  apply Checked.mapM_map_ok
  intro cell _
  rfl

theorem length_rows :
    (simulator.rows tenantId policy directive threshold vehicles signals).length =
      20 * (vehicles.length * signals.length) := by
  rw [Simulator.rows, List.length_map, List.length_zipIdx, length_grid]

/-- Every row that is sent has a vehicle and a signal of the policy, and a value drawn for it. -/
theorem mem_rows {new : ObservationRow × String}
    (member : new ∈ simulator.rows tenantId policy directive threshold vehicles signals) :
    new.1.tenantId = tenantId ∧ new.1.vehicleId ∈ vehicles ∧ new.2 ∈ signals ∧
      new.1.policyRef = some (observedPolicy tenantId policy) ∧
      ∃ k, new.1.value = generator directive threshold (simulator.uniform k) := by
  rw [Simulator.rows, List.mem_map] at member
  obtain ⟨cell, listed, rfl⟩ := member
  have place := mem_grid (List.fst_mem_of_mem_zipIdx listed)
  exact ⟨rfl, place.1, place.2, rfl, cell.2, rfl⟩

end Rows

theorem insertObservation_ok {tenants : List String} {telemetry : List ObservationRow}
    {new : ObservationRow × String} (named : new.1.tenantId ≠ "") (known : new.1.tenantId ∈ tenants)
    (vehicle : new.1.vehicleId ≠ "") (signal : new.2 ≠ "") :
    insertObservation tenants telemetry new = .ok (telemetry ++ [new.1]) := by
  have admitted : admitsCheck observationTable.policies .insert
      (tenantAccess new.1.tenantId).context new.1 = true := by
    rw [observationTable, admitsCheck_iff (by decide) (tenantAccess_tenant _)]
    exact ⟨named, rfl⟩
  rw [insertObservation, insertRow_fail admitted]
  exact if_neg (by simp [vehicle, signal, known])

theorem insertObservations_ok {tenants : List String} {telemetry : List ObservationRow}
    {rows : List (ObservationRow × String)}
    (each : ∀ new ∈ rows, new.1.tenantId ≠ "" ∧ new.1.tenantId ∈ tenants ∧
      new.1.vehicleId ≠ "" ∧ new.2 ≠ "") :
    rows.foldlM (insertObservation tenants) telemetry = .ok (telemetry ++ rows.map Prod.fst) := by
  induction rows generalizing telemetry with
  | nil => simp [pure, Except.pure]
  | cons new rest ih =>
      obtain ⟨named, known, vehicle, signal⟩ := each new (by simp)
      rw [List.foldlM_cons, insertObservation_ok named known vehicle signal]
      refine (ih fun later member => each later (by simp [member])).trans ?_
      rw [List.map_cons, List.append_assoc, List.singleton_append]

/-- The rows that a simulation sends: none when the directive starves the hypothesis. -/
def Simulator.sent (simulator : Simulator) (tenantId : String) (spec : CollectionPolicySpec)
    (policy : Dict) (directive : Option String) (threshold : PyFloat) :
    List (ObservationRow × String) :=
  if directive = some "starve" then []
  else simulator.rows tenantId policy directive threshold spec.vehicleIds spec.signalNames

section Accepted

variable {simulator : Simulator} {parsers : Parsers} {policy : Dict} {spec : CollectionPolicySpec}

theorem listed_scope (valid : CollectionPolicySpec.modelValidate parsers policy = some spec) :
    simulator.listed policy "vehicle_scope" = .ok (spec.vehicleIds.map Json.str) := by
  rw [Simulator.listed, (modelValidate_accepts valid).vehicleScope,
    CollectionPolicySpec.vehicleIds, List.map_map]
  rfl

theorem listed_signals (valid : CollectionPolicySpec.modelValidate parsers policy = some spec) :
    ∃ items, simulator.listed policy "signals" = .ok items ∧
      items.mapM simulator.vssName = .ok (spec.signalNames.map Json.str) := by
  obtain ⟨items, found, each⟩ := modelValidate_signals valid
  refine ⟨items, ?_, ?_⟩
  · rw [Simulator.listed, found]
    rfl
  · rw [CollectionPolicySpec.signalNames, List.map_map, Checked.mapM_ok_iff,
      List.forall₂_map_right_iff]
    refine each.imp ?_
    rintro item signal ⟨fields, rfl, named⟩
    simp only [Simulator.vssName, Dict.item, named, Function.comp_apply]

/-- A well-formed policy is simulated without an error. -/
theorem simulate_ok {tenants : List String} {telemetry : List ObservationRow} {tenantId : String}
    {directive : Option String} {value : Json} {threshold : PyFloat}
    (valid : CollectionPolicySpec.modelValidate parsers policy = some spec)
    (number : policy.get "confidence_threshold" = some value)
    (converted : simulator.converters.toFloat value = .ok threshold)
    (named : tenantId ≠ "") (known : tenantId ∈ tenants) :
    simulate simulator tenants telemetry tenantId policy directive =
      .ok (telemetry ++ (simulator.sent tenantId spec policy directive threshold).map Prod.fst,
        (simulator.sent tenantId spec policy directive threshold).length) := by
  obtain ⟨items, found, names⟩ : ∃ items, simulator.listed policy "signals" = .ok items ∧
    items.mapM simulator.vssName = .ok (spec.signalNames.map Json.str) := listed_signals valid
  have vehicles : spec.vehicleIds.map Json.str ≠ [] :=
    mt List.map_eq_nil_iff.mp (mt List.map_eq_nil_iff.mp spec.vehicleScope.property)
  have signals : spec.signalNames.map Json.str ≠ [] :=
    mt List.map_eq_nil_iff.mp (mt List.map_eq_nil_iff.mp spec.signals.property)
  simp only [simulate, listed_scope valid, found, names, bind, Except.bind]
  by_cases starved : directive = some "starve"
  · rw [if_pos (Or.inr (Or.inr starved)), Simulator.sent, if_pos starved]
    simp [pure, Except.pure]
  · rw [if_neg (by simp [vehicles, signals, starved]), Simulator.sent, if_neg starved, number,
      Option.getD_some, converted]
    have inserted : (simulator.rows tenantId policy directive threshold spec.vehicleIds
        spec.signalNames).foldlM (insertObservation tenants) telemetry = .ok (telemetry ++
          (simulator.rows tenantId policy directive threshold spec.vehicleIds
            spec.signalNames).map Prod.fst) := by
      apply insertObservations_ok
      intro new member
      obtain ⟨tenant, vehicle, signal, _⟩ := mem_rows member
      rw [CollectionPolicySpec.vehicleIds, List.mem_map] at vehicle
      rw [CollectionPolicySpec.signalNames, List.mem_map] at signal
      obtain ⟨vehicle, _, sameVehicle⟩ := vehicle
      obtain ⟨signal, _, sameSignal⟩ := signal
      rw [tenant, ← sameVehicle, ← sameSignal]
      exact ⟨named, known, vehicle.ne_empty, signal.vssName.ne_empty⟩
    simp only [bound_rows, inserted, Except.mapError, pure, Except.pure]

end Accepted

/-- Every value of a simulation falls on the side of the stored threshold that the directive
asks for. -/
theorem atLeast_generator {directive : Option String} {threshold draw : Rat}
    (low : 1 / 1000 ≤ threshold) (high : threshold ≤ 1) (drawn : Drawn directive draw) :
    atLeast (generator directive (.finite threshold) draw) (numeric43 (.finite threshold)) =
      decide (directive ≠ some "rule_out") := by
  have near := Decimal.toScale_near 3 threshold
  have least : (1 : Int) / 10 ^ 3 ≤ Decimal.toScale 3 threshold :=
    Decimal.le_toScale 3 1 (by norm_num; linarith)
  have most : Decimal.toScale 3 threshold ≤ (1000 : Int) / 10 ^ 3 :=
    Decimal.toScale_le 3 1000 (by norm_num; linarith)
  norm_num at near least most
  by_cases ruling : directive = some "rule_out"
  · rw [Drawn, if_pos ruling] at drawn
    simp only [generator, ruling, if_true, shifted, atLeastZero, numeric43, atLeast]
    have below : max 0 (threshold + -draw) < Decimal.toScale 3 threshold :=
      max_lt (by linarith) (by linarith)
    simp only [not_le.mpr below, decide_false, ne_eq, not_true]
  · rw [Drawn, if_neg ruling] at drawn
    simp only [generator, ruling, if_false, shifted, atMostOne, numeric43, atLeast]
    have reached : Decimal.toScale 3 threshold ≤ min 1 (threshold + draw) :=
      le_min (by linarith) (by linarith)
    simp only [reached, decide_true, ne_eq, ruling, not_false_eq_true]

/-- A row of telemetry that the worker counts for a deployment's policy version. -/
def Refers (tenantId policyId version : String) (row : ObservationRow) : Prop :=
  row.tenantId = tenantId ∧ refersTo policyId version row.policyRef = true

/-- The worker reads what refers to the policy version, up to its limit, and nothing else. -/
theorem collectTelemetry_ok {env : Env} {tables : Tables} {deployment : DeploymentRow}
    {vehicles : List String} {quiet rows : List ObservationRow}
    (scope : deployment.vehicleScope = vehicles.map Json.str) (named : deployment.tenantId ≠ "")
    (stored : tables.telemetry.Perm (quiet ++ rows))
    (apart : ∀ row ∈ quiet, ¬ Refers deployment.tenantId deployment.policyId deployment.version row)
    (mine : ∀ row ∈ rows, Refers deployment.tenantId deployment.policyId deployment.version row ∧
      row.vehicleId ∈ vehicles) :
    ∃ values, collectTelemetry env tables deployment = .ok values ∧
      values.length = min 1000 rows.length ∧ ∀ value ∈ values, ∃ row ∈ rows, row.value = value := by
  have texts : deployment.vehicleScope.mapM env.converters.text = .ok vehicles := by
    rw [scope]
    have each : (vehicles.map Json.str).mapM env.converters.text = .ok (vehicles.map id) :=
      Checked.mapM_map_ok fun _ _ => rfl
    rwa [List.map_id] at each
  let chosen := fun telemetry : List ObservationRow =>
    (visible observationTable (tenantAccess deployment.tenantId) telemetry).filter
      fun row => row.tenantId == deployment.tenantId && vehicles.contains row.vehicleId &&
        refersTo deployment.policyId deployment.version row.policyRef
  have silent : chosen quiet = [] := by
    rw [List.filter_eq_nil_iff]
    intro row member counted
    simp only [Bool.and_eq_true, beq_iff_eq] at counted
    exact apart row (List.mem_of_mem_filter member) ⟨counted.1.1, counted.2⟩
  have whole : chosen rows = rows := by
    have seen : visible observationTable (tenantAccess deployment.tenantId) rows = rows := by
      rw [visible, List.filter_eq_self]
      intro row member
      have shown : row ∈ visible observationTable (tenantAccess deployment.tenantId) rows := by
        rw [observationTable, mem_visible_tenantAccess _ (by decide)]
        exact ⟨member, named, congrArg some (mine row member).1.1⟩
      exact (List.mem_filter.mp shown).2
    change List.filter _ (visible _ _ rows) = rows
    rw [seen, List.filter_eq_self]
    intro row member
    obtain ⟨⟨tenant, refers⟩, vehicle⟩ := mine row member
    simp [tenant, refers, vehicle]
  have selected : (chosen tables.telemetry).Perm rows := by
    have split : chosen (quiet ++ rows) = chosen quiet ++ chosen rows := by
      simp only [chosen, visible, List.filter_append]
    have same : (chosen tables.telemetry).Perm (chosen (quiet ++ rows)) :=
      (stored.filter _).filter _
    rwa [split, silent, whole, List.nil_append] at same
  refine ⟨((((chosen tables.telemetry).insertionSort fun first second =>
    second.observedAt ≤ first.observedAt).take 1000).map ObservationRow.value), ?_, ?_, ?_⟩
  · rw [collectTelemetry, texts]
    rfl
  · rw [List.length_map, List.length_take, List.length_insertionSort, selected.length_eq]
  · intro value member
    obtain ⟨row, latest, same⟩ := List.mem_map.mp member
    have listed := (List.perm_insertionSort _ _).mem_iff.mp (List.mem_of_mem_take latest)
    exact ⟨row, selected.mem_iff.mp listed, same⟩

/-- The state that a directive asks for. -/
def directedState (directive : Option String) : String :=
  if directive = some "starve" then "no_data"
  else if directive = some "rule_out" then "ruled_out"
  else "confirmed"

/-- The number of observations that a simulation under a directive gives the worker. -/
def directedCount (directive : Option String) (spec : CollectionPolicySpec) : Nat :=
  if directive = some "starve" then 0
  else min 1000 (20 * spec.vehicleScope.val.length * spec.signals.val.length)

/-- The worker evaluates a deployment to a state on a number of observations, and writes that
down if nothing stops it. -/
structure Decides (env : Env) (tables : Tables) (deployment : DeploymentRow) (state : String)
    (count : Nat) : Prop where
  evaluated : ∃ policy observations,
    getPolicy tables.rows deployment.tenantId deployment.policyId deployment.version = some policy ∧
    collectTelemetry env tables deployment = .ok observations ∧
    (evaluate observations policy.confidenceThreshold).hypothesisState = state ∧
    (evaluate observations policy.confidenceThreshold).signalsCollectedCount = count
  recorded : ∀ k next, process env k tables deployment = (next, none) →
    ∃ outcome, next.outcomes = tables.outcomes ++ [outcome] ∧
      outcome.policyKey = deployment.policyKey ∧ outcome.hypothesisState = state ∧
      outcome.signalsCollectedCount = count

theorem decides_of_evaluated {env : Env} {tables : Tables} {deployment : DeploymentRow}
    {policy : PolicyRow} {observations : List PyFloat} {state : String} {count : Nat}
    (found : getPolicy tables.rows deployment.tenantId deployment.policyId deployment.version =
      some policy)
    (collected : collectTelemetry env tables deployment = .ok observations)
    (verdict : (evaluate observations policy.confidenceThreshold).hypothesisState = state)
    (counted : observations.length = count) : Decides env tables deployment state count := by
  rw [← evaluate_count policy.confidenceThreshold] at counted
  refine ⟨⟨policy, observations, found, collected, verdict, counted⟩, ?_⟩
  intro k next quiet
  obtain ⟨read, again, appended, _⟩ := process_quiet found quiet
  rw [collected] at again
  cases again
  exact ⟨_, appended, rfl, verdict, counted⟩

/-- The rows of a simulation refer to the policy as it is stored. -/
theorem sent_refers {simulator : Simulator} {tenantId : String} {spec : CollectionPolicySpec}
    {policy : Dict} {directive : Option String} {threshold : PyFloat} {policyId version : String}
    (identified : policy.get "policy_id" = some (.str policyId))
    (versioned : policy.get "version" = some (.str version)) {row : ObservationRow}
    (member : row ∈ (simulator.sent tenantId spec policy directive threshold).map Prod.fst) :
    (Refers tenantId policyId version row ∧ row.vehicleId ∈ spec.vehicleIds) ∧
      ∃ k, row.value = generator directive threshold (simulator.uniform k) := by
  obtain ⟨new, listed, rfl⟩ := List.mem_map.mp member
  rw [Simulator.sent] at listed
  split at listed
  · cases listed
  · obtain ⟨tenant, vehicle, _, reference, value⟩ := mem_rows listed
    refine ⟨⟨⟨tenant, ?_⟩, vehicle⟩, value⟩
    rw [reference, observedPolicy, identified, versioned]
    change (some policyId == some policyId && some version == some version) = true
    rw [beq_self_eq_true, beq_self_eq_true, Bool.and_self]

theorem length_sent (simulator : Simulator) (tenantId : String) (spec : CollectionPolicySpec)
    (policy : Dict) (directive : Option String) (threshold : PyFloat) :
    min 1000 (simulator.sent tenantId spec policy directive threshold).length =
      directedCount directive spec := by
  rw [Simulator.sent, directedCount]
  split
  · rfl
  · rw [length_rows, CollectionPolicySpec.vehicleIds, CollectionPolicySpec.signalNames,
      List.length_map, List.length_map, Nat.mul_assoc]

theorem directedCount_eq_zero {directive : Option String} {spec : CollectionPolicySpec} :
    directedCount directive spec = 0 ↔ directive = some "starve" := by
  have vehicles := List.length_pos_of_ne_nil spec.vehicleScope.property
  have signals := List.length_pos_of_ne_nil spec.signals.property
  have cells := Nat.mul_pos (Nat.mul_pos (by decide : 0 < 20) vehicles) signals
  rw [directedCount]
  split
  · rename_i starved
    exact ⟨fun _ => starved, fun _ => rfl⟩
  · rename_i fed
    refine ⟨fun nothing => ?_, fun starved => absurd starved fed⟩
    omega

/-- The verdict on values that were all drawn under one directive. -/
theorem evaluate_drawn {directive : Option String} {threshold : Rat} {observations : List PyFloat}
    (low : 1 / 1000 ≤ threshold) (high : threshold ≤ 1)
    (none_iff : observations = [] ↔ directive = some "starve")
    (drawn : ∀ value ∈ observations, ∃ draw, Drawn directive draw ∧
      value = generator directive (.finite threshold) draw) :
    (evaluate observations (numeric43 (.finite threshold))).hypothesisState =
      directedState directive := by
  rw [directedState]
  by_cases starved : directive = some "starve"
  · rw [if_pos starved, none_iff.mpr starved]
    rfl
  · have observed : observations ≠ [] := fun nothing => starved (none_iff.mp nothing)
    rw [if_neg starved]
    by_cases ruling : directive = some "rule_out"
    · rw [if_pos ruling]
      apply evaluate_ruledOut observed
      intro value member
      obtain ⟨draw, range, same⟩ := drawn value member
      rw [same, atLeast_generator low high range]
      simp [ruling]
    · rw [if_neg ruling]
      apply evaluate_confirmed observed
      intro value member
      obtain ⟨draw, range, same⟩ := drawn value member
      rw [same, atLeast_generator low high range]
      simp [ruling]

/-- For every policy that is stored and simulated once, the directive alone decides what the
worker finds, whatever is drawn and whatever else the tables hold. -/
theorem simulate_decides (simulator : Simulator) (parsers : Parsers) (tenantId : String)
    (policy : Dict) (spec : CollectionPolicySpec) (auditMeta : AuditMeta) (createdAt : Nat)
    (sent : PolicyRow) (before after : Rows) (threshold : Rat) (directive : Option String)
    (telemetry : List ObservationRow)
    (valid : CollectionPolicySpec.modelValidate parsers policy = some spec)
    (built : policyRow simulator.converters tenantId policy auditMeta createdAt = .ok sent)
    (stored : insertPolicyRow before sent = .ok after)
    (number : sent.confidenceThreshold = .finite threshold)
    (low : 1 / 1000 ≤ threshold) (high : threshold ≤ 1)
    (drawn : ∀ k, Drawn directive (simulator.uniform k)) :
    ∃ next count, simulate simulator before.tenants telemetry tenantId policy directive =
        .ok (next, count) ∧
      ∀ (env : Env) (tables : Tables) (deployment : DeploymentRow) (others : List ObservationRow)
        (later : List PolicyRow),
        (∀ row ∈ telemetry ++ others, ¬ Refers tenantId sent.policyId sent.version row) →
        tables.telemetry.Perm (next ++ others) →
        tables.rows.policies = after.policies ++ later →
        deployment.policyKey = sent.key →
        ((policy.get "vehicle_scope").getD (.arr [])).toList = some deployment.vehicleScope →
        Decides env tables deployment (directedState directive) (directedCount directive spec) := by
  have columns := policyRow_ok built
  have owner := columns.tenantId
  obtain ⟨value, found, converted⟩ := columns.threshold
  obtain ⟨named, known, _⟩ := insertPolicyRow_checked stored
  rw [number] at converted
  rw [owner] at named known
  refine ⟨_, _, simulate_ok valid found converted named known, ?_⟩
  intro env tables deployment others later apart shuffled kept target scope
  have tenant : deployment.tenantId = tenantId := (congrArg Prod.fst target).trans owner
  have policyId : deployment.policyId = sent.policyId :=
    congrArg (fun key : String × String × String => key.2.1) target
  have version : deployment.version = sent.version :=
    congrArg (fun key : String × String × String => key.2.2) target
  rw [(modelValidate_accepts valid).vehicleScope, Option.getD_some] at scope
  have vehicles : deployment.vehicleScope = spec.vehicleIds.map Json.str := by
    rw [CollectionPolicySpec.vehicleIds, List.map_map]
    exact (Option.some.inj scope).symm
  let new := (simulator.sent tenantId spec policy directive (.finite threshold)).map Prod.fst
  have rows : ∀ row ∈ new, (Refers tenantId sent.policyId sent.version row ∧
      row.vehicleId ∈ spec.vehicleIds) ∧
        ∃ k, row.value = generator directive (.finite threshold) (simulator.uniform k) :=
    fun row member => sent_refers columns.policyId columns.version member
  have rearranged : tables.telemetry.Perm ((telemetry ++ others) ++ new) := by
    refine shuffled.trans ?_
    rw [List.append_assoc, List.append_assoc]
    exact List.perm_append_comm.append_left telemetry
  obtain ⟨observations, collected, counted, values⟩ : ∃ values,
      collectTelemetry env tables deployment = .ok values ∧ values.length = min 1000 new.length ∧
      ∀ value ∈ values, ∃ row ∈ new, row.value = value := by
    apply collectTelemetry_ok vehicles _ rearranged
    · rw [tenant, policyId, version]
      exact apart
    · rw [tenant, policyId, version]
      exact fun row member => (rows row member).1
    · rw [tenant]
      exact named
  rw [List.length_map, length_sent] at counted
  apply decides_of_evaluated _ collected _ counted
  · exact sent.stored
  · rw [tenant, policyId, version, ← owner]
    exact getPolicy_inserted stored kept
  · change (evaluate observations (numeric43 sent.confidenceThreshold)).hypothesisState = _
    rw [number]
    apply evaluate_drawn low high
    · rw [← List.length_eq_zero_iff, counted]
      exact directedCount_eq_zero
    · intro value member
      obtain ⟨row, sentRow, same⟩ := values value member
      obtain ⟨k, source⟩ := (rows row sentRow).2
      exact ⟨simulator.uniform k, drawn k, same.symm.trans source⟩

/-- A simulator that always draws the same number. -/
def sampleSimulator (draw : Rat) : Simulator where
  converters := ⟨fun _ => none, fun _ => none, fun _ => "", fun _ => "", fun _ => "expected str"⟩
  notIterable _ := "not iterable"
  notSubscriptable _ := "not subscriptable"
  driver _ := "constraint"
  uniform _ := draw
  now := 0

def sampleMeta : AuditMeta where
  promptTemplateVersion := "1.0.0"
  slmRepo := .str "repo"
  slmRevisionSha := .str "0123456789012345678901234567890123456789"
  slmRuntime := .str "stub"
  slmRuntimeVersion := .str "1"
  slmQuantization := .str "none"
  slmDecodingSeed := 0
  payloadSignature := "signature"
  signatureKeyId := "key"

theorem simulate_decides_sample :
    ∃ spec next count tables deployment,
      simulate (sampleSimulator (1 / 5)) ["tenant-a"] [] "tenant-a"
          (Graph.samplePolicy "vehicle-1" "tenant-a" "finding-1" "session-1") (some "rule_out") =
        .ok (next, count) ∧ tables.telemetry = next ∧
      Decides sampleWorker tables deployment "ruled_out"
        (directedCount (some "rule_out") spec) := by
  let policy := Graph.samplePolicy "vehicle-1" "tenant-a" "finding-1" "session-1"
  have valid : (CollectionPolicySpec.modelValidate (Graph.sampleEnv policy).parsers policy).isSome =
      true := by decide +kernel
  obtain ⟨spec, valid⟩ := Option.isSome_iff_exists.mp valid
  obtain ⟨sent, built, number, accepted⟩ : ∃ sent,
      policyRow (sampleSimulator (1 / 5)).converters "tenant-a" policy sampleMeta 0 = .ok sent ∧
      sent.confidenceThreshold = .finite 1 ∧
      (insertPolicyRow ⟨["tenant-a"], [], [], []⟩ sent).toOption.isSome = true :=
    ⟨_, rfl, rfl, by decide +kernel⟩
  obtain ⟨after, stored⟩ : ∃ after, insertPolicyRow ⟨["tenant-a"], [], [], []⟩ sent = .ok after :=
    ⟨_, Checked.eq_ok_get accepted⟩
  obtain ⟨next, count, ran, decides⟩ := simulate_decides (sampleSimulator (1 / 5))
    (Graph.sampleEnv policy).parsers "tenant-a" policy spec sampleMeta 0 sent
    ⟨["tenant-a"], [], [], []⟩ after 1 (some "rule_out") [] valid built stored number (by norm_num)
    (by norm_num) (fun k => by norm_num [Drawn, sampleSimulator])
  let deployment : DeploymentRow :=
    { deploymentId := "deployment-1"
      tenantId := sent.tenantId
      policyId := sent.policyId
      version := sent.version
      environment := "dev"
      vehicleScope := [.str "vehicle-1"]
      status := "accepted"
      downstreamResponse := .null
      requestedAt := 0
      acceptedAt := some 0
      expiresAt := some 5 }
  refine ⟨spec, next, count, ⟨after, [], next⟩, deployment, ran, rfl, ?_⟩
  exact decides sampleWorker ⟨after, [], next⟩ deployment [] [] (by simp)
    (by rw [List.append_nil]) (List.append_nil _).symm rfl rfl

end CollectMind.Feedback
