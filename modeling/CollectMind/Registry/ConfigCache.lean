import Mathlib.Data.List.MinMax
import Mathlib.Data.List.Nodup
import CollectMind.Library.Assoc
import CollectMind.Library.ReadThrough
import CollectMind.Ratelimit.Middleware
import CollectMind.Registry.Isolation
import CollectMind.Registry.TenantConfig

set_option autoImplicit false

/- `TenantConfigRepository` of registry/tenant_config.py with its `_TTLCache`. Calls of
`get_for_tenant` run at once, cut at their awaits; between them the table changes and entries of
the cache are invalidated. Time is the reading of `time.monotonic()`, in seconds. -/
namespace CollectMind.ConfigCache

open RowSecurity Registry Forever

inductive ConfigSource where
  | default
  | override
  deriving DecidableEq, Repr

structure TenantConfig extends Ratelimit.TenantConfig where
  tenantId : String
  source : ConfigSource
  updatedAt : Option String

def defaultInboundSustainedRps : Int := 2000
def defaultInboundBurst : Int := 4000
def defaultQuerySustainedRps : Int := 200
def defaultQueryBurst : Int := 400

def defaultConfig (tenantId : String) : TenantConfig where
  tenantId := tenantId
  inbound := ⟨defaultInboundSustainedRps, defaultInboundBurst⟩
  query := ⟨defaultQuerySustainedRps, defaultQueryBurst⟩
  source := .default
  updatedAt := none

/-- A row of `tenant_config` with its `updated_at`, written as `isoformat()` writes it. -/
structure StoredConfig extends ConfigRow where
  updatedAt : Option String

/-- The contents of `tenant_config`: `tenant_id` is the key and refers to a tenant, whose name is
not empty. -/
structure ConfigTable where
  rows : List StoredConfig
  keyed : (rows.map (·.tenantId)).Nodup
  named : ∀ row ∈ rows, row.tenantId ≠ ""

/-- `_TTLCache._data`: tenants with `expires_at` and the configuration. -/
abbrev Data := List (String × ℚ × TenantConfig)

/-- `_TTLCache.get`. -/
def get (data : Data) (now : ℚ) (tenantId : String) : Data × Option TenantConfig :=
  match data.lookup tenantId with
  | none => (data, none)
  | some (expiresAt, value) =>
    if now > expiresAt then (Assoc.pop data tenantId, none) else (data, some value)

/-- The key whose entry expires first; of several the first in the dictionary. -/
def oldestKey (data : Data) : Option String :=
  (data.argmin fun entry => entry.2.1).map (·.1)

/-- The eviction of `_TTLCache.put`. -/
def evict (capacity : Nat) (data : Data) : Data :=
  if data.length ≥ capacity then
    match oldestKey data with
    | some key => Assoc.pop data key
    | none => data
  else data

/-- `_TTLCache.put`. -/
def put (ttl : ℚ) (capacity : Nat) (data : Data) (now : ℚ) (tenantId : String)
    (config : TenantConfig) : Data :=
  Assoc.set (evict capacity data) tenantId (now + ttl, config)

/-- `_TTLCache.invalidate`. -/
def invalidate (data : Data) (tenantId : String) : Data := Assoc.pop data tenantId

/-- `_on_notify` of the listener in ratelimit/config_cache.py. -/
def onNotify (data : Data) (payload : String) : Data :=
  if payload = "" then data else invalidate data payload

def configColumns : Columns StoredConfig where
  tenantId row := some row.tenantId
  prevTenantId _ := none
  newTenantId _ := none

/-- The `SELECT` of `get_for_tenant`, under the tenant's row security. -/
def fetchrow (tenantId : String) (stored : ConfigTable) : Option StoredConfig :=
  (visible (table configColumns .tenantConfig) (tenantAccess tenantId) stored.rows).find? fun row =>
    row.tenantId == tenantId

def StoredConfig.config (row : StoredConfig) : TenantConfig where
  tenantId := row.tenantId
  inbound := ⟨row.inboundSustainedRps, row.inboundBurstCapacity⟩
  query := ⟨row.querySustainedRps, row.queryBurstCapacity⟩
  source := .override
  updatedAt := row.updatedAt

def configOf (tenantId : String) : Option StoredConfig → TenantConfig
  | none => defaultConfig tenantId
  | some row => row.config

/-- Where a call of `get_for_tenant` stands. -/
inductive Call where
  | idle
  | missed
  | fetched (config : TenantConfig)
  | returned (config : TenantConfig)
  | raised

structure System where
  clock : ℚ
  data : Data
  stored : ConfigTable
  call : Nat → Call

inductive Event where
  | getForTenant (call : Nat) (succeeds : Bool)
  | invalidate (tenantId : String)
  | notify (payload : String)
  | commit (stored : ConfigTable)
  | tick (now : ℚ)

/-- `_TTLCache(ttl_seconds, capacity)`, and the tenant that each call asks for. -/
structure Setup where
  ttl : ℚ
  capacity : Nat
  asks : Nat → String

/-- The next step of a call. The cache is asked before the first await; the connection may raise
when it is acquired or used, and when it is given back. -/
def advance (setup : Setup) (tenantId : String) (system : System) (succeeds : Bool) :
    Call → Data × Call
  | .idle =>
    match get system.data system.clock tenantId with
    | (data, some cached) => (data, .returned cached)
    | (data, none) => (data, .missed)
  | .missed =>
    if succeeds then (system.data, .fetched (configOf tenantId (fetchrow tenantId system.stored)))
    else (system.data, .raised)
  | .fetched config =>
    if succeeds then
      (put setup.ttl setup.capacity system.data system.clock tenantId config, .returned config)
    else (system.data, .raised)
  | .returned config => (system.data, .returned config)
  | .raised => (system.data, .raised)

def step (setup : Setup) (system : System) : Event → System
  | .getForTenant call succeeds =>
    let (data, next) := advance setup (setup.asks call) system succeeds (system.call call)
    { system with data := data, call := Function.update system.call call next }
  | .invalidate tenantId => { system with data := invalidate system.data tenantId }
  | .notify payload => { system with data := onNotify system.data payload }
  | .commit stored => { system with stored := stored }
  | .tick now => { system with clock := max system.clock now }

/-- A new repository. -/
def created (clock : ℚ) (stored : ConfigTable) : System := ⟨clock, [], stored, fun _ => .idle⟩

section Cache

variable {data : Data} {tenantId other : String} {now : ℚ}

theorem get_cases (data : Data) (now : ℚ) (tenantId : String) :
    (∃ expiresAt value, data.lookup tenantId = some (expiresAt, value) ∧ now ≤ expiresAt ∧
        get data now tenantId = (data, some value)) ∨
      get data now tenantId = (data, none) ∨
      get data now tenantId = (Assoc.pop data tenantId, none) := by
  unfold get
  split
  · exact Or.inr (Or.inl rfl)
  · rename_i expiresAt value found
    split
    · exact Or.inr (Or.inr rfl)
    · rename_i live
      exact Or.inl ⟨expiresAt, value, found, not_lt.mp live, rfl⟩

theorem evict_data (capacity : Nat) (data : Data) :
    evict capacity data = data ∨ ∃ key, evict capacity data = Assoc.pop data key := by
  unfold evict
  split
  · split
    · rename_i key _
      exact Or.inr ⟨key, rfl⟩
    · exact Or.inl rfl
  · exact Or.inl rfl

/-- Eviction makes room for one more entry. -/
theorem length_evict_lt {capacity : Nat} (room : 1 ≤ capacity) (fits : data.length ≤ capacity) :
    (evict capacity data).length < capacity := by
  unfold evict
  split
  · rename_i full
    cases oldest : data.argmin (fun entry => entry.2.1) with
    | none =>
        rw [List.argmin_eq_none] at oldest
        rw [oldest, List.length_nil] at full
        omega
    | some entry =>
        have member : entry ∈ data := List.argmin_mem oldest
        have fewer := Assoc.length_pop_lt member
        simp only [oldestKey, oldest, Option.map_some]
        omega
  · omega

theorem length_put_le {capacity : Nat} (room : 1 ≤ capacity) (fits : data.length ≤ capacity)
    (ttl now : ℚ) (tenantId : String) (config : TenantConfig) :
    (put ttl capacity data now tenantId config).length ≤ capacity := by
  have evicted := length_evict_lt room fits
  have stored := Assoc.length_set_le (evict capacity data) tenantId (now + ttl, config)
  unfold put
  omega

theorem lookup_put {ttl : ℚ} {capacity : Nat} {config : TenantConfig} {entry : ℚ × TenantConfig}
    (found : (put ttl capacity data now tenantId config).lookup other = some entry) :
    data.lookup other = some entry ∨ other = tenantId ∧ entry = (now + ttl, config) := by
  unfold put at found
  by_cases same : other = tenantId
  · rw [same, Assoc.lookup_set_same] at found
    exact Or.inr ⟨same, (Option.some.inj found).symm⟩
  · rw [Assoc.lookup_set_other same] at found
    left
    rcases evict_data capacity data with kept | ⟨key, popped⟩
    · rw [kept] at found
      exact found
    · rw [popped] at found
      exact Assoc.lookup_of_pop found

end Cache

section Table

/-- What the table says of a tenant: the values of its row, or the defaults without one. -/
inductive Effective (stored : ConfigTable) (tenantId : String) : TenantConfig → Prop where
  | row {row : StoredConfig} (member : row ∈ stored.rows) (own : row.tenantId = tenantId) :
      Effective stored tenantId row.config
  | defaults (absent : ∀ row ∈ stored.rows, row.tenantId ≠ tenantId) :
      Effective stored tenantId (defaultConfig tenantId)

theorem Effective.tenantId_eq {stored : ConfigTable} {tenantId : String} {config : TenantConfig}
    (effective : Effective stored tenantId config) : config.tenantId = tenantId := by
  cases effective with
  | row member own => exact own
  | defaults absent => rfl

theorem mem_visible_config {rows : List StoredConfig} {tenantId : String} {row : StoredConfig} :
    row ∈ visible (table configColumns .tenantConfig) (tenantAccess tenantId) rows ↔
      row ∈ rows ∧ tenantId ≠ "" ∧ row.tenantId = tenantId := by
  have admitted : admitsUsing (table configColumns .tenantConfig).policies .select
      (tenantAccess tenantId).context row = true ↔
        tenantMatches configColumns.tenantId (tenantAccess tenantId).context row = some true := by
    simp [table, policies, admitsUsing, admits, permissiveBaseline, restrictiveSelect,
      Policy.applies]
  rw [visible, List.mem_filter, tenantAccess_enforced, Bool.not_true, Bool.false_or, admitted,
    tenantMatches_iff (tenantAccess_tenant tenantId), configColumns, Option.some_inj]

/-- Row security hides no row of the tenant from it. -/
theorem fetchrow_effective (tenantId : String) (stored : ConfigTable) :
    Effective stored tenantId (configOf tenantId (fetchrow tenantId stored)) := by
  cases found : fetchrow tenantId stored with
  | none =>
      apply Effective.defaults
      intro row member own
      have present : tenantId ≠ "" := by
        rw [← own]
        exact stored.named row member
      have seen := mem_visible_config.mpr ⟨member, present, own⟩
      have missed := List.find?_eq_none.mp found row seen
      simp [own] at missed
  | some row =>
      have seen := List.mem_of_find?_eq_some found
      obtain ⟨member, _, own⟩ := mem_visible_config.mp seen
      exact Effective.row member own

end Table

section Steps

variable {setup : Setup} {system : System}

def Call.stage : Call → ReadThrough.Stage TenantConfig
  | .idle => .idle
  | .missed => .asked
  | .fetched config => .holding config
  | .returned config => .done config
  | .raised => .failed

/-- The repository as a read-through cache. -/
def cacheView : ReadThrough.View System String TenantConfig ℚ where
  clock := System.clock
  stored system tenantId := configOf tenantId (fetchrow tenantId system.stored)
  cached system tenantId := system.data.lookup tenantId
  stage system call := (system.call call).stage

/-- What one step makes of a call and of the cache. -/
inductive Advances (setup : Setup) (tenantId : String) (system : System) :
    Call → Data × Call → Prop where
  | hits {expiresAt : ℚ} {cached : TenantConfig}
      (found : system.data.lookup tenantId = some (expiresAt, cached))
      (live : system.clock ≤ expiresAt) :
      Advances setup tenantId system .idle (system.data, .returned cached)
  | misses {data : Data} (left : data = system.data ∨ data = Assoc.pop system.data tenantId) :
      Advances setup tenantId system .idle (data, .missed)
  | reads : Advances setup tenantId system .missed
      (system.data, .fetched (configOf tenantId (fetchrow tenantId system.stored)))
  | puts (config : TenantConfig) : Advances setup tenantId system (.fetched config)
      (put setup.ttl setup.capacity system.data system.clock tenantId config, .returned config)
  | raises (call : Call) : Advances setup tenantId system call (system.data, .raised)
  | rests (call : Call) : Advances setup tenantId system call (system.data, call)

theorem advance_advances (setup : Setup) (tenantId : String) (system : System) (succeeds : Bool)
    (call : Call) :
    Advances setup tenantId system call (advance setup tenantId system succeeds call) := by
  cases call with
  | idle =>
      simp only [advance]
      rcases get_cases system.data system.clock tenantId with
        ⟨expiresAt, cached, found, live, hit⟩ | miss | expired
      · rw [hit]
        exact .hits found live
      · rw [miss]
        exact .misses (Or.inl rfl)
      · rw [expired]
        exact .misses (Or.inr rfl)
  | missed =>
      simp only [advance]
      split
      · exact .reads
      · exact .raises _
  | fetched config =>
      simp only [advance]
      split
      · exact .puts config
      · exact .raises _
  | returned config => exact .rests _
  | raised => exact .rests _

variable {tenantId : String} {call : Call} {next : Data × Call}

theorem Advances.moves (advances : Advances setup tenantId system call next) :
    ReadThrough.Moves cacheView system tenantId call.stage next.2.stage := by
  cases advances with
  | hits found live => exact .hits found live
  | misses => exact .misses
  | reads => exact .reads
  | puts config => exact .returns config
  | raises => exact .fails _
  | rests => exact .stays _

/-- What is cached after a step was cached before, or is what the call puts there. -/
theorem Advances.data {other : String} {entry : ℚ × TenantConfig}
    (advances : Advances setup tenantId system call next)
    (found : next.1.lookup other = some entry) :
    system.data.lookup other = some entry ∨ other = tenantId ∧ ∃ config,
      call = .fetched config ∧ next.2 = .returned config ∧
        entry = (system.clock + setup.ttl, config) := by
  cases advances with
  | hits => exact Or.inl found
  | misses left =>
      rcases left with kept | popped
      · rw [kept] at found
        exact Or.inl found
      · rw [popped] at found
        exact Or.inl (Assoc.lookup_of_pop found)
  | reads => exact Or.inl found
  | puts config =>
      rcases lookup_put found with older | ⟨same, written⟩
      · exact Or.inl older
      · exact Or.inr ⟨same, config, rfl, rfl, written⟩
  | raises => exact Or.inl found
  | rests => exact Or.inl found

theorem Advances.length_le (room : 1 ≤ setup.capacity)
    (fits : system.data.length ≤ setup.capacity)
    (advances : Advances setup tenantId system call next) : next.1.length ≤ setup.capacity := by
  cases advances with
  | hits => exact fits
  | @misses data left =>
      have fewer := Assoc.length_pop_le system.data tenantId
      rcases left with kept | popped
      · rw [kept]
        exact fits
      · rw [popped]
        show (Assoc.pop system.data tenantId).length ≤ setup.capacity
        omega
  | reads => exact fits
  | puts config => exact length_put_le room fits _ _ _ _
  | raises => exact fits
  | rests => exact fits

theorem step_call_self (call : Nat) (succeeds : Bool) :
    (step setup system (.getForTenant call succeeds)).call call =
      (advance setup (setup.asks call) system succeeds (system.call call)).2 :=
  Function.update_self _ _ _

theorem step_call_other {call other : Nat} (apart : other ≠ call) (succeeds : Bool) :
    (step setup system (.getForTenant call succeeds)).call other = system.call other :=
  Function.update_of_ne apart _ _

theorem lookup_onNotify {data : Data} {payload other : String} {entry : ℚ × TenantConfig}
    (found : (onNotify data payload).lookup other = some entry) :
    data.lookup other = some entry := by
  unfold onNotify at found
  split at found
  · exact found
  · exact Assoc.lookup_of_pop found

theorem length_onNotify_le (data : Data) (payload : String) :
    (onNotify data payload).length ≤ data.length := by
  unfold onNotify
  split
  · exact Nat.le_refl _
  · exact Assoc.length_pop_le data payload

/-- The repository keeps the rules of a read-through cache. -/
theorem step_rules (setup : Setup) :
    ReadThrough.Rules cacheView (step setup) setup.asks setup.ttl where
  clock system event := by
    cases event with
    | tick now => exact le_max_left _ _
    | _ => exact le_refl _
  stage system event call := by
    cases event with
    | getForTenant moved succeeds =>
        by_cases own : call = moved
        · have moves := (advance_advances setup (setup.asks call) system succeeds
            (system.call call)).moves
          rw [← own]
          show ReadThrough.Moves cacheView system _ _ (Call.stage _)
          rw [step_call_self]
          exact moves
        · show ReadThrough.Moves cacheView system _ _ (Call.stage _)
          rw [step_call_other own]
          exact .stays _
    | _ => exact .stays _
  cached system event tenantId expiresAt config found := by
    cases event with
    | getForTenant moved succeeds =>
        rcases (advance_advances setup (setup.asks moved) system succeeds
          (system.call moved)).data found with older | ⟨same, held, fetched, returned, written⟩
        · exact Or.inl older
        · cases written
          refine Or.inr ⟨moved, same.symm, ?_, ?_, rfl⟩
          · show Call.stage _ = _
            rw [fetched]
            rfl
          · show Call.stage _ = _
            rw [step_call_self, returned]
            rfl
    | invalidate other => exact Or.inl (Assoc.lookup_of_pop found)
    | notify payload => exact Or.inl (lookup_onNotify found)
    | commit stored => exact Or.inl found
    | tick now => exact Or.inl found

theorem step_length_le (room : 1 ≤ setup.capacity) (event : Event)
    (fits : system.data.length ≤ setup.capacity) :
    (step setup system event).data.length ≤ setup.capacity := by
  cases event with
  | getForTenant moved succeeds =>
      exact (advance_advances setup (setup.asks moved) system succeeds
        (system.call moved)).length_le room fits
  | invalidate other => exact le_trans (Assoc.length_pop_le _ _) fits
  | notify payload => exact le_trans (length_onNotify_le _ _) fits
  | commit stored => exact fits
  | tick now => exact fits

theorem step_call_cases (event : Event) (call : Nat) :
    (step setup system event).call call = system.call call ∨
      ∃ succeeds, event = .getForTenant call succeeds := by
  cases event with
  | getForTenant moved succeeds =>
      by_cases own : call = moved
      · exact Or.inr ⟨succeeds, by rw [own]⟩
      · exact Or.inl (step_call_other own succeeds)
  | _ => exact Or.inl rfl

/-- A call does not return in the step that reads the database. -/
theorem step_missed {event : Event} {call : Nat} (missed : system.call call = .missed)
    (config : TenantConfig) : (step setup system event).call call ≠ .returned config := by
  intro returned
  rcases step_call_cases event call with same | ⟨succeeds, own⟩
  · rw [same, missed] at returned
    cases returned
  · rw [own, step_call_self, missed] at returned
    simp only [advance] at returned
    split at returned
    · cases returned
    · cases returned

/-- A call that returns what it has fetched has put it into the cache. -/
theorem step_inserts {event : Event} {call : Nat} {config : TenantConfig}
    (fetched : system.call call = .fetched config)
    (returned : (step setup system event).call call = .returned config) :
    (step setup system event).data.lookup (setup.asks call) =
      some (system.clock + setup.ttl, config) := by
  rcases step_call_cases event call with same | ⟨succeeds, own⟩
  · rw [same, fetched] at returned
    cases returned
  · rw [own, step_call_self, fetched] at returned
    simp only [advance] at returned
    split at returned
    · rename_i given
      simp only [own, step, fetched, advance, given, if_true]
      exact Assoc.lookup_set_same _ _ _
    · cases returned

end Steps

section Runs

variable (setup : Setup) (clock : ℚ) (stored : ConfigTable) (schedule : Nat → Event)

/-- The system before the event with this number. -/
def systemAt (n : Nat) : System := stateAt (step setup) (created clock stored) schedule n

/-- A call for the tenant read the configuration from the table, where it was in force, and put it
into the cache; `called` is no later than the reading but for `ttl` and the time that passed
between the two. A `ttl` below zero keeps entries no longer than one of zero. -/
structure Produced (called finish : Nat) (tenantId : String) (config : TenantConfig)
    (producer read write : Nat) : Prop where
  asks : setup.asks producer = tenantId
  ordered : read < write
  before : write < finish
  missed : (systemAt setup clock stored schedule read).call producer = .missed
  fetched : (systemAt setup clock stored schedule (read + 1)).call producer = .fetched config
  effective : Effective (systemAt setup clock stored schedule read).stored tenantId config
  returned : (systemAt setup clock stored schedule (write + 1)).call producer = .returned config
  inserted : (systemAt setup clock stored schedule (write + 1)).data.lookup tenantId =
    some ((systemAt setup clock stored schedule write).clock + setup.ttl, config)
  bound : (systemAt setup clock stored schedule called).clock - max 0 setup.ttl -
      ((systemAt setup clock stored schedule write).clock -
        (systemAt setup clock stored schedule read).clock) ≤
    (systemAt setup clock stored schedule read).clock

variable {setup clock stored schedule}

theorem Call.of_asked {call : Call} (asked : call.stage = .asked) : call = .missed := by
  cases call with
  | missed => rfl
  | _ => cases asked

theorem Call.of_holding {call : Call} {config : TenantConfig} (holds : call.stage = .holding config) :
    call = .fetched config := by
  cases call with
  | fetched own =>
      cases holds
      rfl
  | _ => cases holds

theorem Call.of_done {call : Call} {config : TenantConfig} (done : call.stage = .done config) :
    call = .returned config := by
  cases call with
  | returned own =>
      cases done
      rfl
  | _ => cases done

theorem created_fresh (clock : ℚ) (stored : ConfigTable) :
    ReadThrough.Fresh cacheView (created clock stored) where
  idle _ := rfl
  empty _ := rfl

theorem systemAt_clock_mono {n m : Nat} (later : n ≤ m) :
    (systemAt setup clock stored schedule n).clock ≤ (systemAt setup clock stored schedule m).clock :=
  ReadThrough.clock_mono (step_rules setup) later

/-- A reading and a later insertion, no longer than `ttl` before the call was made. -/
theorem produced_of_reads {called finish producer read write : Nat} {tenantId : String}
    {config : TenantConfig} (asks : setup.asks producer = tenantId) (ordered : read < write)
    (before : write < finish)
    (reads : ReadThrough.Reads cacheView (step setup) setup.asks (created clock stored) schedule read
      producer config)
    (returns : ReadThrough.Returns cacheView (step setup) (created clock stored) schedule write
      producer config)
    (live : (systemAt setup clock stored schedule called).clock ≤
      (systemAt setup clock stored schedule write).clock + max 0 setup.ttl) :
    Produced setup clock stored schedule called finish tenantId config producer read write := by
  subst asks
  have missed := Call.of_asked reads.asked
  have held := Call.of_holding returns.held
  have returned := Call.of_done returns.returned
  have effective := fetchrow_effective (setup.asks producer)
    (systemAt setup clock stored schedule read).stored
  have value : configOf _ (fetchrow _ (systemAt setup clock stored schedule read).stored) = config :=
    reads.stored
  rw [value] at effective
  exact ⟨rfl, ordered, before, missed, Call.of_holding reads.holds, effective, returned,
    step_inserts held returned, by linarith⟩

/-- Every answer has been produced in this way, by the call itself or by an earlier one. -/
theorem returned_produced {called finish call : Nat} {config : TenantConfig}
    (idle : (systemAt setup clock stored schedule called).call call = .idle)
    (returned : (systemAt setup clock stored schedule finish).call call = .returned config) :
    ∃ producer read write, Produced setup clock stored schedule called finish (setup.asks call)
      config producer read write := by
  have begun : cacheView.stage (stateAt (step setup) (created clock stored) schedule called) call =
      .idle := congrArg Call.stage idle
  have done : cacheView.stage (stateAt (step setup) (created clock stored) schedule finish) call =
      .done config := congrArg Call.stage returned
  cases ReadThrough.source_of_done (step_rules setup) (created_fresh clock stored) begun done with
  | direct read after before answers =>
      have missed := Call.of_asked answers.asked
      exact absurd (Call.of_done answers.returned) (step_missed missed config)
  | own read write after ordered before reads returns =>
      refine ⟨call, read, write, produced_of_reads rfl ordered before reads returns ?_⟩
      exact le_trans (systemAt_clock_mono (by omega)) (le_add_of_nonneg_right (le_max_left _ _))
  | kept producer read write same ordered before reads writes live =>
      refine ⟨producer, read, write,
        produced_of_reads same ordered before reads writes.toReturns ?_⟩
      exact le_trans live (add_le_add_right (le_max_right _ _) _)

theorem systemAt_length_le (room : 1 ≤ setup.capacity) (n : Nat) :
    (systemAt setup clock stored schedule n).data.length ≤ setup.capacity := by
  induction n with
  | zero => exact Nat.zero_le _
  | succ n ih => exact step_length_le room (schedule n) ih

/-- Bounded staleness and bounded memory. -/
theorem getForTenant_bounded (setup : Setup) (room : 1 ≤ setup.capacity) (clock : ℚ)
    (stored : ConfigTable) (schedule : Nat → Event) :
    (∀ call called finish config,
      (systemAt setup clock stored schedule called).call call = .idle →
      (systemAt setup clock stored schedule finish).call call = .returned config →
      config.tenantId = setup.asks call ∧
        ∃ producer read write, Produced setup clock stored schedule called finish
          (setup.asks call) config producer read write) ∧
      ∀ n, (systemAt setup clock stored schedule n).data.length ≤ setup.capacity := by
  refine ⟨?_, systemAt_length_le room⟩
  intro call called finish config idle returned
  obtain ⟨producer, read, write, produced⟩ := returned_produced idle returned
  exact ⟨produced.effective.tenantId_eq, producer, read, write, produced⟩

end Runs

def sampleSetup : Setup := ⟨5, 1, fun _ => "tenant-a"⟩

def emptyTable : ConfigTable := ⟨[], List.nodup_nil, fun _ member => nomatch member⟩

def overrideRow : StoredConfig :=
  { tenantId := "tenant-a", inboundSustainedRps := 10, inboundBurstCapacity := 20,
    querySustainedRps := 1, queryBurstCapacity := 2, updatedBySubject := "ops", updatedAt := none }

theorem overrideRow_named : ∀ row ∈ [overrideRow], row.tenantId ≠ "" := by
  intro row member
  rw [List.mem_singleton.mp member]
  decide

def overrideTable : ConfigTable := ⟨[overrideRow], List.nodup_singleton _, overrideRow_named⟩

/-- The first call caches the defaults; the second finds them after an override has committed. -/
def staleSchedule : Nat → Event
  | 0 | 1 | 3 => .getForTenant 0 true
  | 2 => .tick 1
  | 4 => .commit overrideTable
  | 5 => .tick 4
  | 6 => .getForTenant 1 true
  | _ => .tick 0

theorem getForTenant_bounded_stale :
    (systemAt sampleSetup 0 emptyTable staleSchedule 6).stored = overrideTable ∧
      ∃ producer read write, Produced sampleSetup 0 emptyTable staleSchedule 6 7 "tenant-a"
        (defaultConfig "tenant-a") producer read write := by
  have idle : (systemAt sampleSetup 0 emptyTable staleSchedule 6).call 1 = .idle := rfl
  have live : ¬ (1 + 5 : ℚ) < 4 := by norm_num
  have returned : (systemAt sampleSetup 0 emptyTable staleSchedule 7).call 1 =
      .returned (defaultConfig "tenant-a") := by
    simp [systemAt, stateAt, step, staleSchedule, created, sampleSetup, advance, get, put, evict,
      Assoc.set, fetchrow, emptyTable, visible, configOf, live]
  refine ⟨rfl, ?_⟩
  exact ((getForTenant_bounded sampleSetup (by decide) 0 emptyTable staleSchedule).1 1 6 7 _ idle
    returned).2

end CollectMind.ConfigCache
