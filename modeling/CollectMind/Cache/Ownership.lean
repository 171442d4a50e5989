import Mathlib.Data.Fintype.EquivFin
import CollectMind.Library.ExpiringStore

set_option autoImplicit false

/- `OwnershipCache` of cache/ownership_cache.py over `TenantVehiclesRepository`, for one vehicle.
Any number of lookups run at once; their Redis commands and database reads interleave with the
assignment of the vehicle and the invalidation that follows it. -/
namespace CollectMind.OwnershipCache

open ExpiringStore

/-- `_key`. -/
def cacheKey (vehicleId : String) : String := "vehicle_ownership:" ++ vehicleId

def cacheTtlSeconds : Int := 3600

/-- Where a call of `get_owner` stands between two of its awaits. -/
inductive Lookup where
  | idle
  | missed
  | bypassed
  | fetched (owner : String)
  | returned (owner : Option String)
  deriving DecidableEq, Repr

/-- The Redis server with its clock in milliseconds, the vehicle's row in `tenant_vehicles`, and
the calls of `get_owner`. -/
structure System where
  clock : Int
  redis : Store String String
  owner : Option String
  lookup : Nat → Lookup

/-- A Redis command raises when the server is not reachable. -/
inductive Event where
  | getOwner (call : Nat) (reachable : Bool)
  | assign (tenantId : String)
  | invalidate (reachable : Bool)
  | wait (ms : Nat)
  deriving DecidableEq, Repr

def Event.available : Event → Bool
  | .getOwner _ reachable | .invalidate reachable => reachable
  | .assign _ | .wait _ => true

/-- Lookups and the passing of time: nothing that changes the owner. -/
def Event.quiet : Event → Bool
  | .getOwner _ _ | .wait _ => true
  | .assign _ | .invalidate _ => false

def Event.call? : Event → Option Nat
  | .getOwner call _ => some call
  | _ => none

/-- The next step of a lookup. Without Redis the database is asked and nothing is written back;
a write-back that fails is passed over. -/
def advance (vehicleId : String) (system : System) (reachable : Bool) :
    Lookup → Store String String × Lookup
  | .idle =>
    if reachable then
      match get system.redis system.clock (cacheKey vehicleId) with
      | some cached => (system.redis, .returned (some cached))
      | none => (system.redis, .missed)
    else (system.redis, .bypassed)
  | .bypassed => (system.redis, .returned system.owner)
  | .missed =>
    match system.owner with
    | some owner => (system.redis, .fetched owner)
    | none => (system.redis, .returned none)
  | .fetched owner =>
    (if reachable then
        setEx system.redis system.clock (cacheKey vehicleId) owner (1000 * cacheTtlSeconds)
      else system.redis,
      .returned (some owner))
  | .returned owner => (system.redis, .returned owner)

def step (vehicleId : String) (system : System) : Event → System
  | .getOwner call reachable =>
    let (redis, lookup) := advance vehicleId system reachable (system.lookup call)
    { system with redis := redis, lookup := Function.update system.lookup call lookup }
  | .assign tenantId => { system with owner := some tenantId }
  | .invalidate reachable =>
    if reachable then { system with redis := delete system.redis (cacheKey vehicleId) } else system
  | .wait ms => { system with clock := system.clock + ms }

def run (vehicleId : String) (system : System) (events : List Event) : System :=
  events.foldl (step vehicleId) system

/-- A transfer to the tenant among lookups: `assign`, and later an `invalidate` that completes. -/
def transfer (tenantId : String) (before between : List Event) : List Event :=
  before ++ .assign tenantId :: between ++ [.invalidate true]

/-- The steps that a lookup may still take. -/
def Lookup.remaining : Lookup → Nat
  | .idle => 3
  | .missed => 2
  | .bypassed | .fetched _ => 1
  | .returned _ => 0

/-- In any schedule of lookups with Redis available, one that starts after the state returns the
tenant and nothing else, once it has been given its steps. -/
def Coherent (vehicleId tenantId : String) (system : System) : Prop :=
  ∀ later : List Event, (∀ event ∈ later, event.quiet = true ∧ event.available = true) →
    ∀ call, system.lookup call = .idle →
      (∀ owner, (run vehicleId system later).lookup call = .returned owner →
          owner = some tenantId) ∧
        (3 ≤ (later.filterMap Event.call?).count call →
          (run vehicleId system later).lookup call = .returned (some tenantId))

/-- No lookup stands between its database read and its write-back with another owner. -/
def NoStaleRead (tenantId : String) (system : System) : Prop :=
  ∀ call owner, system.lookup call = .fetched owner → owner = tenantId

/-- What a lookup can have come to that has seen no other owner. -/
def Lookup.Fresh (tenantId : String) : Lookup → Prop
  | .idle | .missed | .bypassed => True
  | .fetched owner => owner = tenantId
  | .returned owner => owner = some tenantId

/-- Database, cache and the write-backs to come agree on the owner. -/
structure Settled (vehicleId tenantId : String) (system : System) : Prop where
  owner : system.owner = some tenantId
  cached : ∀ clock value, get system.redis clock (cacheKey vehicleId) = some value → value = tenantId
  pending : NoStaleRead tenantId system

section Steps

variable {vehicleId tenantId : String} {system : System}

theorem step_lookup_self (call : Nat) (reachable : Bool) :
    (step vehicleId system (.getOwner call reachable)).lookup call =
      (advance vehicleId system reachable (system.lookup call)).2 :=
  Function.update_self _ _ _

theorem step_lookup_other {call other : Nat} (apart : other ≠ call) (reachable : Bool) :
    (step vehicleId system (.getOwner call reachable)).lookup other = system.lookup other :=
  Function.update_of_ne apart _ _

/-- While all agree, a step of a lookup comes to the new owner only. -/
theorem advance_fresh (settled : Settled vehicleId tenantId system) (reachable : Bool)
    {lookup : Lookup} (fresh : lookup.Fresh tenantId) :
    (advance vehicleId system reachable lookup).2.Fresh tenantId := by
  cases lookup with
  | idle =>
      simp only [advance]
      split
      · split
        · rename_i cached hit
          exact congrArg some (settled.cached system.clock cached hit)
        · trivial
      · trivial
  | bypassed => exact settled.owner
  | missed =>
      simp only [advance, settled.owner]
      rfl
  | fetched owner => exact congrArg some fresh
  | returned owner => exact fresh

/-- An owner is carried to the write-back only from the database. -/
theorem advance_fetched {reachable : Bool} {lookup : Lookup} {owner : String}
    (carried : (advance vehicleId system reachable lookup).2 = .fetched owner) :
    system.owner = some owner := by
  cases lookup with
  | idle =>
      simp only [advance] at carried
      split at carried
      · split at carried <;> cases carried
      · cases carried
  | missed =>
      simp only [advance] at carried
      split at carried
      · rename_i read row
        cases carried
        exact row
      · cases carried
  | bypassed => cases carried
  | fetched other => cases carried
  | returned other => cases carried

/-- The cache is written with the owner a lookup carries, or not at all. -/
theorem advance_redis (vehicleId : String) (system : System) (reachable : Bool) (lookup : Lookup) :
    (advance vehicleId system reachable lookup).1 = system.redis ∨
      ∃ owner, lookup = .fetched owner ∧ (advance vehicleId system reachable lookup).1 =
        setEx system.redis system.clock (cacheKey vehicleId) owner (1000 * cacheTtlSeconds) := by
  cases lookup with
  | idle =>
      left
      simp only [advance]
      split
      · split <;> rfl
      · rfl
  | missed =>
      left
      simp only [advance]
      split <;> rfl
  | fetched owner =>
      by_cases up : reachable = true
      · right
        exact ⟨owner, rfl, if_pos up⟩
      · left
        exact if_neg up
  | bypassed => exact Or.inl rfl
  | returned owner => exact Or.inl rfl

theorem advance_cached (settled : Settled vehicleId tenantId system) (call : Nat)
    (reachable : Bool) (clock : Int) (value : String)
    (hit : get (advance vehicleId system reachable (system.lookup call)).1 clock
      (cacheKey vehicleId) = some value) : value = tenantId := by
  rcases advance_redis vehicleId system reachable (system.lookup call) with
    kept | ⟨owner, standing, written⟩
  · rw [kept] at hit
    exact settled.cached clock value hit
  · rw [written, get_setEx_same] at hit
    split at hit
    · have same : owner = value := Option.some.inj hit
      rw [← same]
      exact settled.pending call owner standing
    · cases hit

theorem advance_remaining (reachable : Bool) (lookup : Lookup) :
    (advance vehicleId system reachable lookup).2.remaining ≤ lookup.remaining - 1 := by
  cases lookup with
  | idle =>
      simp only [advance]
      split
      · split <;> simp [Lookup.remaining]
      · simp [Lookup.remaining]
  | missed =>
      simp only [advance]
      split <;> simp [Lookup.remaining]
  | bypassed => simp [advance, Lookup.remaining]
  | fetched owner => simp [advance, Lookup.remaining]
  | returned owner => simp [advance, Lookup.remaining]

theorem Lookup.returned_of_remaining {lookup : Lookup} (done : lookup.remaining = 0) :
    ∃ owner, lookup = .returned owner := by
  cases lookup with
  | returned owner => exact ⟨owner, rfl⟩
  | idle => cases done
  | missed => cases done
  | bypassed => cases done
  | fetched owner => cases done

theorem step_settled (settled : Settled vehicleId tenantId system) {event : Event}
    (quiet : event.quiet = true) : Settled vehicleId tenantId (step vehicleId system event) := by
  cases event with
  | getOwner call reachable =>
      refine ⟨settled.owner, advance_cached settled call reachable, ?_⟩
      intro other owner standing
      by_cases own : other = call
      · rw [own, step_lookup_self] at standing
        have read := advance_fetched standing
        rw [settled.owner] at read
        exact (Option.some.inj read).symm
      · rw [step_lookup_other own] at standing
        exact settled.pending other owner standing
  | wait ms => exact ⟨settled.owner, settled.cached, settled.pending⟩
  | assign other => cases quiet
  | invalidate reachable => cases quiet

theorem step_fresh (settled : Settled vehicleId tenantId system) {event : Event}
    (quiet : event.quiet = true) {call : Nat} (fresh : (system.lookup call).Fresh tenantId) :
    ((step vehicleId system event).lookup call).Fresh tenantId := by
  cases event with
  | getOwner moved reachable =>
      by_cases own : call = moved
      · rw [← own, step_lookup_self]
        exact advance_fresh settled reachable fresh
      · rw [step_lookup_other own]
        exact fresh
  | wait ms => exact fresh
  | assign other => cases quiet
  | invalidate reachable => cases quiet

theorem step_owner {event : Event} (quiet : event.quiet = true) :
    (step vehicleId system event).owner = system.owner := by
  cases event with
  | getOwner call reachable => rfl
  | wait ms => rfl
  | assign other => cases quiet
  | invalidate reachable => cases quiet

theorem step_lookup_unnamed {event : Event} {call : Nat} (unnamed : event.call? ≠ some call) :
    (step vehicleId system event).lookup call = system.lookup call := by
  cases event with
  | getOwner moved reachable =>
      have apart : call ≠ moved := fun same => unnamed (congrArg some same.symm)
      exact step_lookup_other apart reachable
  | assign other => rfl
  | invalidate reachable =>
      simp only [step]
      split
      · rfl
      · rfl
  | wait ms => rfl

theorem step_lookup_named {event : Event} {call : Nat} (named : event.call? = some call) :
    ((step vehicleId system event).lookup call).remaining ≤ (system.lookup call).remaining - 1 := by
  cases event with
  | getOwner moved reachable =>
      have same : moved = call := Option.some.inj named
      rw [same, step_lookup_self]
      exact advance_remaining reachable _
  | assign other => cases named
  | invalidate reachable => cases named
  | wait ms => cases named

end Steps

section Schedules

variable {vehicleId tenantId : String}

/-- What every quiet event keeps, a quiet schedule keeps. -/
theorem run_quiet (holds : System → Prop) (events : List Event)
    (quiet : ∀ event ∈ events, event.quiet = true)
    (kept : ∀ system event, event.quiet = true → holds system → holds (step vehicleId system event))
    {system : System} (start : holds system) : holds (run vehicleId system events) := by
  induction events generalizing system with
  | nil => exact start
  | cons event rest ih =>
      have first : event.quiet = true := quiet event List.mem_cons_self
      have others : ∀ other ∈ rest, other.quiet = true := fun other member =>
        quiet other (List.mem_cons_of_mem _ member)
      exact ih others (kept system event first start)

/-- Once all agree, a lookup that has seen no other owner never returns one, with or without
Redis. -/
theorem run_fresh (events : List Event) (quiet : ∀ event ∈ events, event.quiet = true)
    {system : System} (settled : Settled vehicleId tenantId system) {call : Nat}
    (fresh : (system.lookup call).Fresh tenantId) :
    ((run vehicleId system events).lookup call).Fresh tenantId := by
  have both : Settled vehicleId tenantId (run vehicleId system events) ∧
      ((run vehicleId system events).lookup call).Fresh tenantId := by
    apply run_quiet (fun system => Settled vehicleId tenantId system ∧
      (system.lookup call).Fresh tenantId) events quiet
    · intro system event first here
      exact ⟨step_settled here.1 first, step_fresh here.1 first here.2⟩
    · exact ⟨settled, fresh⟩
  exact both.2

theorem run_owner (events : List Event) (quiet : ∀ event ∈ events, event.quiet = true)
    (system : System) : (run vehicleId system events).owner = system.owner := by
  apply run_quiet (fun later => later.owner = system.owner) events quiet
  · intro later event first same
    exact (step_owner first).trans same
  · rfl

/-- A call that no event of the schedule names has not moved. -/
theorem run_unnamed (vehicleId : String) (events : List Event) (system : System) {call : Nat}
    (unnamed : call ∉ events.filterMap Event.call?) :
    (run vehicleId system events).lookup call = system.lookup call := by
  induction events generalizing system with
  | nil => rfl
  | cons event rest ih =>
      simp only [List.mem_filterMap, not_exists, not_and] at unnamed ih
      have first : event.call? ≠ some call := unnamed event List.mem_cons_self
      have others := ih (step vehicleId system event) fun other member =>
        unnamed other (List.mem_cons_of_mem _ member)
      exact others.trans (step_lookup_unnamed first)

/-- Each of its events brings a lookup nearer to its return. -/
theorem run_remaining (vehicleId : String) (events : List Event) (system : System) (call : Nat) :
    ((run vehicleId system events).lookup call).remaining ≤
      (system.lookup call).remaining - (events.filterMap Event.call?).count call := by
  induction events generalizing system with
  | nil => exact Nat.le_refl _
  | cons event rest ih =>
      have later := ih (step vehicleId system event)
      show ((run vehicleId (step vehicleId system event) rest).lookup call).remaining ≤ _
      by_cases named : event.call? = some call
      · have moved : ((step vehicleId system event).lookup call).remaining ≤
            (system.lookup call).remaining - 1 := step_lookup_named named
        rw [List.filterMap_cons_some named, List.count_cons_self]
        omega
      · have kept : (step vehicleId system event).lookup call = system.lookup call :=
          step_lookup_unnamed named
        have same : ((event :: rest).filterMap Event.call?).count call =
            (rest.filterMap Event.call?).count call := by
          rw [List.filterMap_cons]
          split
          · rfl
          · rename_i other called
            have apart : other ≠ call := fun same => named (called.trans (congrArg some same))
            exact List.count_cons_of_ne apart
        rw [kept] at later
        rw [same]
        exact later

theorem run_transfer_settled (start : System) (before between : List Event)
    (quiet : ∀ event ∈ between, event.quiet = true)
    (pending : NoStaleRead tenantId (run vehicleId start (transfer tenantId before between))) :
    Settled vehicleId tenantId (run vehicleId start (transfer tenantId before between)) := by
  refine ⟨?_, ?_, pending⟩
  · simp only [transfer, run, List.foldl_append, List.foldl_cons, List.foldl_nil]
    exact run_owner between quiet _
  · intro clock value hit
    simp only [transfer, run, List.foldl_append, List.foldl_cons, List.foldl_nil, step,
      if_true, get_delete_same] at hit
    cases hit

/-- A carried owner is written back, and the next lookup that starts returns it. -/
theorem run_writeBack_then_lookup (vehicleId : String) (system : System) {stale next : Nat} {owner : String}
    (standing : system.lookup stale = .fetched owner) (idle : system.lookup next = .idle) :
    (run vehicleId system [.getOwner stale true, .getOwner next true]).lookup next =
      .returned (some owner) := by
  have apart : next ≠ stale := by
    intro same
    rw [same, standing] at idle
    cases idle
  have written : (step vehicleId system (.getOwner stale true)).redis =
      setEx system.redis system.clock (cacheKey vehicleId) owner (1000 * cacheTtlSeconds) := by
    simp only [step, standing, advance, if_true]
  have hit : get (step vehicleId system (.getOwner stale true)).redis
      (step vehicleId system (.getOwner stale true)).clock (cacheKey vehicleId) = some owner := by
    have sameClock : (step vehicleId system (.getOwner stale true)).clock = system.clock := rfl
    have alive : system.clock < system.clock + 1000 * cacheTtlSeconds := by
      unfold cacheTtlSeconds
      omega
    rw [written, sameClock, get_setEx_same, if_pos alive]
  show (step vehicleId (step vehicleId system (.getOwner stale true))
    (.getOwner next true)).lookup next = _
  rw [step_lookup_self, step_lookup_other apart, idle]
  simp only [advance, if_true, hit]

end Schedules

/-- After a transfer every later lookup returns the new owner exactly if, when the invalidation
completes, no lookup is about to write back an owner it read before. -/
theorem coherent_iff_noStaleRead (vehicleId tenantId : String) (start : System)
    (before between : List Event) (idle : ∀ call, start.lookup call = .idle)
    (quiet : ∀ event ∈ between, event.quiet = true) :
    Coherent vehicleId tenantId (run vehicleId start (transfer tenantId before between)) ↔
      NoStaleRead tenantId (run vehicleId start (transfer tenantId before between)) := by
  constructor
  · intro coherent stale owner standing
    -- the schedule is finite, so some call has yet to start
    obtain ⟨next, unnamed⟩ := Infinite.exists_notMem_finset
      ((transfer tenantId before between).filterMap Event.call?).toFinset
    rw [List.mem_toFinset] at unnamed
    have unstarted := (run_unnamed vehicleId _ start unnamed).trans (idle next)
    have served := run_writeBack_then_lookup vehicleId _ standing unstarted
    have calm : ∀ event ∈ [Event.getOwner stale true, Event.getOwner next true],
        event.quiet = true ∧ event.available = true := by
      simp [Event.quiet, Event.available]
    have only := (coherent _ calm next unstarted).1
    exact Option.some.inj (only (some owner) served)
  · intro pending later calm call unstarted
    have settled := run_transfer_settled start before between quiet pending
    have early : Lookup.Fresh tenantId
        ((run vehicleId start (transfer tenantId before between)).lookup call) := by
      rw [unstarted]
      trivial
    have fresh := run_fresh later (fun event member => (calm event member).1) settled early
    have left := run_remaining vehicleId later
      (run vehicleId start (transfer tenantId before between)) call
    rw [unstarted] at left
    have only : ∀ owner, (run vehicleId (run vehicleId start (transfer tenantId before between))
        later).lookup call = .returned owner → owner = some tenantId := by
      intro owner returned
      rw [returned] at fresh
      exact fresh
    refine ⟨only, ?_⟩
    intro given
    have done : ((run vehicleId (run vehicleId start (transfer tenantId before between))
        later).lookup call).remaining = 0 := by
      simp only [Lookup.remaining] at left ⊢
      omega
    obtain ⟨owner, returned⟩ := Lookup.returned_of_remaining done
    rw [returned, only owner returned]

/-- A vehicle of `tenant-a` that nobody has looked up. -/
def ownedByA : System :=
  { clock := 0, redis := fun _ => none, owner := some "tenant-a", lookup := fun _ => .idle }

/-- The lookup has finished before the transfer begins. -/
theorem coherent_iff_noStaleRead_sequential :
    (∀ call, ownedByA.lookup call = .idle) ∧
      Coherent "VIN-1" "tenant-b" (run "VIN-1" ownedByA
        (transfer "tenant-b" [.getOwner 0 true, .getOwner 0 true, .getOwner 0 true] [])) := by
  refine ⟨fun _ => rfl, ?_⟩
  rw [coherent_iff_noStaleRead "VIN-1" "tenant-b" ownedByA _ [] (fun _ => rfl) (by simp)]
  intro call owner standing
  by_cases first : call = 0
  · rw [first] at standing
    cases standing
  · have unnamed : call ∉ (transfer "tenant-b"
        [.getOwner 0 true, .getOwner 0 true, .getOwner 0 true] []).filterMap Event.call? := by
      simpa [transfer, Event.call?] using first
    rw [run_unnamed "VIN-1" _ ownedByA unnamed] at standing
    cases standing

/-- A lookup reads `tenant-a` from the database, the vehicle passes to `tenant-b`, the cache is
invalidated, and the lookup writes `tenant-a` back: the next lookup returns `tenant-a`. -/
theorem coherent_fails_for_late_writeBack :
    ¬ Coherent "VIN-1" "tenant-b" (run "VIN-1" ownedByA
      (transfer "tenant-b" [.getOwner 0 true, .getOwner 0 true] [])) := by
  intro coherent
  have only := (coherent [.getOwner 0 true, .getOwner 1 true] (by decide) 1 (by decide +kernel)).1
  have same := only (some "tenant-a") (by decide +kernel)
  exact absurd same (by decide)

end CollectMind.OwnershipCache
