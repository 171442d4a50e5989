import Mathlib.Algebra.Order.Monoid.Unbundled.WithTop
import Mathlib.Data.Int.ConditionallyCompleteOrder
import CollectMind.Cache.Ownership
import CollectMind.Library.ReadThrough
import CollectMind.Registry.TenantVehicles

set_option autoImplicit false

/- `OwnershipCache` of cache/ownership_cache.py over `TenantVehiclesRepository`, for all vehicles
at once and with every command allowed to fail: how old an answer of `get_owner` may be. -/
namespace CollectMind.OwnershipStaleness

open ExpiringStore Forever
open OwnershipCache (Lookup cacheKey cacheTtlSeconds)
open Registry (Fleet AssignCall)

/-- What becomes of a Redis command. One that fails may still have been carried out. -/
inductive Fate where
  | answers
  | fails (applied : Bool)
  deriving DecidableEq, Repr

def Fate.answered : Fate → Bool
  | .answers => true
  | .fails _ => false

def Fate.applied : Fate → Bool
  | .answers => true
  | .fails applied => applied

/-- Where an exception comes from. -/
inductive Raise where
  | redis
  | database
  deriving DecidableEq, Repr

inductive Status where
  | running (lookup : Lookup)
  | raised (cause : Raise)
  deriving DecidableEq, Repr

/-- Redis with its clock in milliseconds, the tables behind `tenant_vehicles`, and the calls of
`get_owner`. -/
structure System where
  clock : Int
  redis : Store String String
  fleet : Fleet
  status : Nat → Status

inductive Event where
  | getOwner (call : Nat) (redis : Fate) (database : Bool)
  | assign (call : AssignCall)
  | invalidate (vehicleId : String) (redis : Fate)
  | wait (ms : Nat)

def Event.call? : Event → Option Nat
  | .getOwner call _ _ => some call
  | _ => none

theorem Event.of_call {event : Event} {call : Nat} (named : event.call? = some call) :
    ∃ redis database, event = .getOwner call redis database := by
  cases event with
  | getOwner moved redis database =>
      have same : moved = call := Option.some.inj named
      exact ⟨redis, database, by rw [same]⟩
  | _ => cases named

def ttlMs : Int := 1000 * cacheTtlSeconds

/-- `redis.get`. -/
def redisGet (system : System) (key : String) (fate : Fate) : Except Raise (Option String) :=
  if fate.answered then .ok (get system.redis system.clock key) else .error .redis

/-- `redis.set(..., ex=...)`: the store after it, and what it raises. -/
def redisSet (system : System) (key owner : String) (fate : Fate) :
    Store String String × Except Raise Unit :=
  (if fate.applied then setEx system.redis system.clock key owner ttlMs else system.redis,
    if fate.answered then .ok () else .error .redis)

/-- `TenantVehiclesRepository.get_owner`. -/
def repoGetOwner (system : System) (vehicleId : String) (answers : Bool) :
    Except Raise (Option String) :=
  if answers then .ok (Registry.getOwner system.fleet vehicleId) else .error .database

/-- The next step of a call. Both `except` clauses catch whatever Redis raises. -/
def resume (vehicleId : String) (system : System) (redis : Fate) (database : Bool) :
    Lookup → Store String String × Status
  | .idle =>
    match redisGet system (cacheKey vehicleId) redis with
    | .error _ => (system.redis, .running .bypassed)
    | .ok (some cached) => (system.redis, .running (.returned (some cached)))
    | .ok none => (system.redis, .running .missed)
  | .bypassed =>
    match repoGetOwner system vehicleId database with
    | .error cause => (system.redis, .raised cause)
    | .ok owner => (system.redis, .running (.returned owner))
  | .missed =>
    match repoGetOwner system vehicleId database with
    | .error cause => (system.redis, .raised cause)
    | .ok (some owner) => (system.redis, .running (.fetched owner))
    | .ok none => (system.redis, .running (.returned none))
  | .fetched owner =>
    match redisSet system (cacheKey vehicleId) owner redis with
    | (written, .error _) => (written, .running (.returned (some owner)))
    | (written, .ok _) => (written, .running (.returned (some owner)))
  | .returned owner => (system.redis, .running (.returned owner))

def Status.resume (vehicleId : String) (system : System) (redis : Fate) (database : Bool) :
    Status → Store String String × Status
  | .running lookup => OwnershipStaleness.resume vehicleId system redis database lookup
  | .raised cause => (system.redis, .raised cause)

def step (asks : Nat → String) (system : System) : Event → System
  | .getOwner call redis database =>
    let (store, next) := (system.status call).resume (asks call) system redis database
    { system with redis := store, status := Function.update system.status call next }
  | .assign call => { system with fleet := (Registry.assign system.fleet call).1 }
  | .invalidate vehicleId redis =>
    if redis.applied then { system with redis := delete system.redis (cacheKey vehicleId) }
    else system
  | .wait ms => { system with clock := system.clock + ms }

/-- No call has begun, and no key of the cache has been written. -/
structure Starts (system : System) : Prop where
  idle : ∀ call, system.status call = .running .idle
  unwritten : ∀ vehicleId, system.redis (cacheKey vehicleId) = none

section Steps

variable {vehicleId : String} {system : System}

theorem cacheKey_inj {first second : String} (same : cacheKey first = cacheKey second) :
    first = second := by
  have chars := congrArg String.toList same
  unfold cacheKey at chars
  rw [String.toList_append, String.toList_append] at chars
  exact String.toList_inj.mp (List.append_cancel_left chars)

/-- The system as the model for one vehicle has it. -/
def System.forVehicle (system : System) (vehicleId : String) : OwnershipCache.System where
  clock := system.clock
  redis := system.redis
  owner := Registry.getOwner system.fleet vehicleId
  lookup _ := .idle

/-- While the database answers, a step is one of the model for one vehicle, in which a command
reaches Redis or not: what counts is the answer of `get` and the effect of `set`. -/
theorem resume_eq_advance (system : System) (vehicleId : String) (redis : Fate) (lookup : Lookup) :
    resume vehicleId system redis true lookup =
      let advanced := OwnershipCache.advance vehicleId (system.forVehicle vehicleId)
        (if lookup = .idle then redis.answered else redis.applied) lookup
      (advanced.1, .running advanced.2) := by
  cases lookup with
  | idle =>
      rw [if_pos rfl]
      simp only [resume, OwnershipCache.advance, redisGet, System.forVehicle]
      by_cases answered : redis.answered = true
      · rw [if_pos answered, if_pos answered]
        cases get system.redis system.clock (cacheKey vehicleId) with
        | none => rfl
        | some cached => rfl
      · rw [if_neg answered, if_neg answered]
  | missed =>
      simp only [resume, OwnershipCache.advance, repoGetOwner, System.forVehicle, if_true]
      cases Registry.getOwner system.fleet vehicleId with
      | none => rfl
      | some owner => rfl
  | bypassed => rfl
  | fetched owner =>
      cases redis with
      | answers => rfl
      | fails applied => rfl
  | returned owner => rfl

/-- A call raises in a step only if the database does. -/
theorem resume_cases (system : System) (vehicleId : String) (redis : Fate) (database : Bool)
    (lookup : Lookup) :
    (database = false ∧
        resume vehicleId system redis database lookup = (system.redis, .raised .database)) ∨
      resume vehicleId system redis database lookup = resume vehicleId system redis true lookup := by
  cases database with
  | true => exact Or.inr rfl
  | false =>
      cases lookup with
      | missed => exact Or.inl ⟨rfl, rfl⟩
      | bypassed => exact Or.inl ⟨rfl, rfl⟩
      | idle => exact Or.inr rfl
      | fetched owner => exact Or.inr rfl
      | returned owner => exact Or.inr rfl

def lookupStage : Lookup → ReadThrough.Stage (Option String)
  | .idle => .idle
  | .missed | .bypassed => .asked
  | .fetched owner => .holding (some owner)
  | .returned owner => .done owner

def Status.stage : Status → ReadThrough.Stage (Option String)
  | .running lookup => lookupStage lookup
  | .raised _ => .failed

/-- An entry without a deadline never expires. -/
def deadline (entry : Entry String) : WithTop Int :=
  match entry.expireAt with
  | some expireAt => expireAt
  | none => ⊤

/-- The cached owner of a vehicle, with its deadline. -/
def cachedIn (redis : Store String String) (vehicleId : String) :
    Option (WithTop Int × Option String) :=
  (redis (cacheKey vehicleId)).map fun entry => (deadline entry, some entry.value)

theorem cachedIn_setEx_same (redis : Store String String) (clock : Int) (vehicleId owner : String)
    (ttl : Int) :
    cachedIn (setEx redis clock (cacheKey vehicleId) owner ttl) vehicleId =
      some ((clock : WithTop Int) + ttl, some owner) := by
  simp [cachedIn, setEx, deadline]

theorem cachedIn_setEx_other {vehicleId other : String} (apart : other ≠ vehicleId)
    (redis : Store String String) (clock : Int) (owner : String) (ttl : Int) :
    cachedIn (setEx redis clock (cacheKey vehicleId) owner ttl) other = cachedIn redis other := by
  have keys : cacheKey other ≠ cacheKey vehicleId := fun same => apart (cacheKey_inj same)
  unfold cachedIn setEx
  rw [Function.update_of_ne keys]

theorem cachedIn_of_delete {redis : Store String String} {vehicleId other : String}
    {entry : WithTop Int × Option String}
    (found : cachedIn (delete redis (cacheKey vehicleId)) other = some entry) :
    cachedIn redis other = some entry := by
  unfold cachedIn delete at found
  by_cases same : cacheKey other = cacheKey vehicleId
  · rw [same, Function.update_self] at found
    cases found
  · rw [Function.update_of_ne same] at found
    exact found

/-- The cache as a read-through cache of the owners. -/
def cacheView : ReadThrough.View System String (Option String) (WithTop Int) where
  clock system := system.clock
  stored system vehicleId := Registry.getOwner system.fleet vehicleId
  cached system vehicleId := cachedIn system.redis vehicleId
  stage system call := (system.status call).stage

theorem cached_of_get {owner : String}
    (hit : get system.redis system.clock (cacheKey vehicleId) = some owner) :
    ∃ expiry, cacheView.cached system vehicleId = some (expiry, some owner) ∧
      cacheView.clock system ≤ expiry := by
  unfold ExpiringStore.get at hit
  obtain ⟨entry, seen, value⟩ := Option.map_eq_some_iff.mp hit
  obtain ⟨stored, live⟩ := current_eq_some.mp seen
  refine ⟨deadline entry, ?_, ?_⟩
  · show cachedIn system.redis vehicleId = _
    rw [cachedIn, stored, Option.map_some, value]
  · show (system.clock : WithTop Int) ≤ deadline entry
    unfold Entry.live at live
    unfold deadline
    cases expiry : entry.expireAt with
    | none => exact le_top
    | some expireAt =>
        rw [expiry] at live
        have early := of_decide_eq_true live
        exact WithTop.coe_le_coe.mpr (by omega)

theorem advance_moves (system : System) (vehicleId : String) (reachable : Bool) (lookup : Lookup) :
    ReadThrough.Moves cacheView system vehicleId (lookupStage lookup) (lookupStage
      (OwnershipCache.advance vehicleId (system.forVehicle vehicleId) reachable lookup).2) := by
  cases lookup with
  | idle =>
      simp only [OwnershipCache.advance]
      split
      · split
        · rename_i cached hit
          obtain ⟨expiry, stored, live⟩ := cached_of_get hit
          exact .hits stored live
        · exact .misses
      · exact .misses
  | missed =>
      simp only [OwnershipCache.advance]
      split
      · rename_i owner row
        have stored : cacheView.stored system vehicleId = some owner := row
        show ReadThrough.Moves cacheView system vehicleId .asked (.holding (some owner))
        rw [← stored]
        exact .reads
      · rename_i row
        have stored : cacheView.stored system vehicleId = none := row
        show ReadThrough.Moves cacheView system vehicleId .asked (.done none)
        rw [← stored]
        exact .answers
  | bypassed => exact .answers
  | fetched owner => exact .returns (some owner)
  | returned owner => exact .stays _

theorem resume_moves (system : System) (vehicleId : String) (redis : Fate) (database : Bool)
    (status : Status) :
    ReadThrough.Moves cacheView system vehicleId status.stage
      (status.resume vehicleId system redis database).2.stage := by
  cases status with
  | raised cause => exact .stays _
  | running lookup =>
      simp only [Status.resume]
      rcases resume_cases system vehicleId redis database lookup with ⟨_, raised⟩ | same
      · rw [raised]
        exact .fails _
      · rw [same, resume_eq_advance]
        exact advance_moves system vehicleId _ lookup

/-- A step of a call writes to Redis what the call has fetched, or nothing. -/
theorem resume_redis (system : System) (vehicleId : String) (redis : Fate) (database : Bool)
    (status : Status) :
    (status.resume vehicleId system redis database).1 = system.redis ∨
      ∃ owner, status = .running (.fetched owner) ∧
        status.resume vehicleId system redis database =
          (setEx system.redis system.clock (cacheKey vehicleId) owner ttlMs,
            .running (.returned (some owner))) := by
  cases status with
  | raised cause => exact Or.inl rfl
  | running lookup =>
      simp only [Status.resume]
      rcases resume_cases system vehicleId redis database lookup with ⟨_, raised⟩ | same
      · rw [raised]
        exact Or.inl rfl
      · rw [same, resume_eq_advance]
        rcases OwnershipCache.advance_redis vehicleId (system.forVehicle vehicleId)
          (if lookup = .idle then redis.answered else redis.applied) lookup with
          kept | ⟨owner, fetched, written⟩
        · exact Or.inl kept
        · right
          subst fetched
          refine ⟨owner, rfl, ?_⟩
          exact Prod.ext written rfl

variable {asks : Nat → String}

theorem step_status_self (call : Nat) (redis : Fate) (database : Bool) :
    (step asks system (.getOwner call redis database)).status call =
      ((system.status call).resume (asks call) system redis database).2 :=
  Function.update_self _ _ _

theorem step_status_other {call other : Nat} (apart : other ≠ call) (redis : Fate)
    (database : Bool) :
    (step asks system (.getOwner call redis database)).status other = system.status other :=
  Function.update_of_ne apart _ _

theorem step_status_unnamed {event : Event} {call : Nat} (unnamed : event.call? ≠ some call) :
    (step asks system event).status call = system.status call := by
  cases event with
  | getOwner moved redis database =>
      have apart : call ≠ moved := fun same => unnamed (congrArg some same.symm)
      exact step_status_other apart redis database
  | assign assigned => rfl
  | invalidate vehicleId redis =>
      simp only [step]
      split
      · rfl
      · rfl
  | wait ms => rfl

/-- The cache keeps the rules of a read-through cache, whatever fails. -/
theorem step_rules (asks : Nat → String) :
    ReadThrough.Rules cacheView (step asks) asks (ttlMs : WithTop Int) where
  clock system event := by
    show (system.clock : WithTop Int) ≤ ((step asks system event).clock : WithTop Int)
    apply WithTop.coe_le_coe.mpr
    cases event with
    | wait ms =>
        show system.clock ≤ system.clock + ms
        omega
    | invalidate vehicleId redis =>
        simp only [step]
        split
        · exact le_refl _
        · exact le_refl _
    | getOwner call redis database => exact le_refl _
    | assign call => exact le_refl _
  stage system event call := by
    show ReadThrough.Moves cacheView system (asks call) (system.status call).stage
      ((step asks system event).status call).stage
    by_cases named : event.call? = some call
    · obtain ⟨redis, database, own⟩ := Event.of_call named
      rw [own, step_status_self]
      exact resume_moves system (asks call) redis database _
    · rw [step_status_unnamed named]
      exact .stays _
  cached system event vehicleId expiry owner found := by
    cases event with
    | getOwner moved redis database =>
        change cachedIn ((system.status moved).resume (asks moved) system redis database).1 vehicleId =
          some (expiry, owner) at found
        rcases resume_redis system (asks moved) redis database (system.status moved) with
          kept | ⟨fetched, held, written⟩
        · rw [kept] at found
          exact Or.inl found
        · rw [written] at found
          by_cases own : vehicleId = asks moved
          · rw [own, cachedIn_setEx_same] at found
            cases found
            refine Or.inr ⟨moved, own.symm, ?_, ?_, rfl⟩
            · show (system.status moved).stage = _
              rw [held]
              rfl
            · show Status.stage _ = _
              rw [step_status_self, written]
              rfl
          · rw [cachedIn_setEx_other own] at found
            exact Or.inl found
    | assign call => exact Or.inl found
    | invalidate other redis =>
        left
        simp only [step] at found
        split at found
        · exact cachedIn_of_delete found
        · exact found
    | wait ms => exact Or.inl found

/-- A call that raises in a step does so because the database does. -/
theorem resume_raised {redis : Fate} {database : Bool} {lookup : Lookup} {cause : Raise}
    (raised : (resume vehicleId system redis database lookup).2 = .raised cause) :
    cause = .database ∧ database = false := by
  rcases resume_cases system vehicleId redis database lookup with ⟨down, failed⟩ | same
  · rw [failed] at raised
    cases raised
    exact ⟨rfl, down⟩
  · rw [same, resume_eq_advance] at raised
    cases raised

def Status.remaining : Status → Nat
  | .running lookup => lookup.remaining
  | .raised _ => 0

theorem resume_remaining (vehicleId : String) (system : System) (redis : Fate) (database : Bool)
    (status : Status) :
    (status.resume vehicleId system redis database).2.remaining ≤ status.remaining - 1 := by
  cases status with
  | raised cause => exact Nat.zero_le _
  | running lookup =>
      simp only [Status.resume]
      rcases resume_cases system vehicleId redis database lookup with ⟨_, raised⟩ | same
      · rw [raised]
        exact Nat.zero_le _
      · rw [same, resume_eq_advance]
        exact OwnershipCache.advance_remaining _ lookup

end Steps

section Runs

variable (asks : Nat → String) (start : System) (schedule : Nat → Event)

/-- The system before the event with this number. -/
def systemAt (n : Nat) : System := stateAt (step asks) start schedule n

/-- The owner was read from the table by this very call, or by a lookup of the same vehicle that
then wrote it to Redis: no longer ago, when the call was made, than an hour and the time that
passed between the two. -/
inductive Recent (called finish : Nat) (vehicleId owner : String) : Prop where
  | own (read : Nat) (after : called ≤ read) (before : read < finish)
      (row : Registry.getOwner (systemAt asks start schedule read).fleet vehicleId = some owner)
      (bound : (systemAt asks start schedule called).clock ≤ (systemAt asks start schedule read).clock)
  | kept (producer read write : Nat) (same : asks producer = vehicleId) (ordered : read < write)
      (before : write < finish)
      (row : Registry.getOwner (systemAt asks start schedule read).fleet vehicleId = some owner)
      (fetched : (systemAt asks start schedule (read + 1)).status producer =
        .running (.fetched owner))
      (returned : (systemAt asks start schedule (write + 1)).status producer =
        .running (.returned (some owner)))
      (written : (systemAt asks start schedule (write + 1)).redis (cacheKey vehicleId) =
        some ⟨owner, some ((systemAt asks start schedule write).clock + ttlMs)⟩)
      (bound : (systemAt asks start schedule called).clock - ttlMs -
          ((systemAt asks start schedule write).clock - (systemAt asks start schedule read).clock) ≤
        (systemAt asks start schedule read).clock)

/-- How many steps the call has been given. -/
def turns (call : Nat) : Nat → Nat
  | 0 => 0
  | n + 1 => turns call n + if (schedule n).call? = some call then 1 else 0

variable {asks start schedule}

theorem Status.of_holding {status : Status} {owner : String}
    (holds : status.stage = .holding (some owner)) : status = .running (.fetched owner) := by
  cases status with
  | raised cause => cases holds
  | running lookup =>
      cases lookup with
      | fetched own =>
          cases holds
          rfl
      | _ => cases holds

theorem Status.of_done {status : Status} {owner : Option String}
    (done : status.stage = .done owner) : status = .running (.returned owner) := by
  cases status with
  | raised cause => cases done
  | running lookup =>
      cases lookup with
      | returned own =>
          cases done
          rfl
      | _ => cases done

/-- An entry with this value and a finite deadline is the one that is stored. -/
theorem entry_of_cachedIn {redis : Store String String} {vehicleId owner : String} {expireAt : Int}
    (found : cachedIn redis vehicleId = some ((expireAt : WithTop Int), some owner)) :
    redis (cacheKey vehicleId) = some ⟨owner, some expireAt⟩ := by
  unfold cachedIn at found
  obtain ⟨entry, stored, shown⟩ := Option.map_eq_some_iff.mp found
  obtain ⟨expiry, value⟩ := Prod.mk.inj shown
  cases entry with
  | mk held expires =>
      cases expires with
      | none => cases expiry
      | some at_ =>
          cases value
          cases expiry
          exact stored

theorem Starts.fresh (starts : Starts start) : ReadThrough.Fresh cacheView start where
  idle call := congrArg Status.stage (starts.idle call)
  empty vehicleId := by
    show cachedIn start.redis vehicleId = none
    rw [cachedIn, starts.unwritten]
    rfl

theorem systemAt_clock_mono {n m : Nat} (later : n ≤ m) :
    (systemAt asks start schedule n).clock ≤ (systemAt asks start schedule m).clock :=
  WithTop.coe_le_coe.mp (ReadThrough.clock_mono (step_rules asks) later)

section Answers

variable {called finish call : Nat} {answer : Option String}

/-- Where an answer of `get_owner` comes from. -/
theorem returned_source (starts : Starts start)
    (idle : (systemAt asks start schedule called).status call = .running .idle)
    (returned : (systemAt asks start schedule finish).status call = .running (.returned answer)) :
    ReadThrough.Source cacheView (step asks) asks (ttlMs : WithTop Int) start schedule called finish
      call answer := by
  have begun : cacheView.stage (stateAt (step asks) start schedule called) call = .idle :=
    congrArg Status.stage idle
  have done : cacheView.stage (stateAt (step asks) start schedule finish) call = .done answer :=
    congrArg Status.stage returned
  exact ReadThrough.source_of_done (step_rules asks) starts.fresh begun done

theorem returned_recent (starts : Starts start) {owner : String}
    (idle : (systemAt asks start schedule called).status call = .running .idle)
    (returned : (systemAt asks start schedule finish).status call =
      .running (.returned (some owner))) :
    Recent asks start schedule called finish (asks call) owner := by
  cases returned_source starts idle returned with
  | direct read after before answers =>
      exact .own read after before answers.stored (systemAt_clock_mono after)
  | own read last after ordered before reads returns =>
      exact .own read after (by omega) reads.stored (systemAt_clock_mono after)
  | kept producer read write same ordered before reads writes live =>
      have row := reads.stored
      have written := entry_of_cachedIn writes.cached
      have early : (systemAt asks start schedule called).clock ≤
          (systemAt asks start schedule write).clock + ttlMs := WithTop.coe_le_coe.mp live
      rw [same] at row written
      exact .kept producer read write same ordered before row (Status.of_holding reads.holds)
        (Status.of_done writes.returned) written (by omega)

/-- That a vehicle has no owner is never taken from Redis. -/
theorem returned_none (starts : Starts start)
    (idle : (systemAt asks start schedule called).status call = .running .idle)
    (returned : (systemAt asks start schedule finish).status call = .running (.returned none)) :
    ∃ read, called ≤ read ∧ read < finish ∧
      Registry.getOwner (systemAt asks start schedule read).fleet (asks call) = none := by
  cases returned_source starts idle returned with
  | direct read after before answers => exact ⟨read, after, before, answers.stored⟩
  | own read last after ordered before reads returns =>
      exact ⟨read, after, by omega, reads.stored⟩
  | kept producer read write same ordered before reads writes live =>
      have written := writes.cached
      change cachedIn _ _ = _ at written
      unfold cachedIn at written
      obtain ⟨entry, _, shown⟩ := Option.map_eq_some_iff.mp written
      cases (Prod.mk.inj shown).2

end Answers

/-- A call raises only if one of its own database reads does. -/
theorem raised_by_database (starts : Starts start) {n call : Nat} {cause : Raise}
    (raised : (systemAt asks start schedule n).status call = .raised cause) :
    cause = .database ∧ ∃ m redis, m < n ∧ schedule m = .getOwner call redis false := by
  induction n with
  | zero =>
      have idle := starts.idle call
      change start.status call = _ at raised
      rw [idle] at raised
      cases raised
  | succ n ih =>
      change (step asks (systemAt asks start schedule n) (schedule n)).status call = _ at raised
      by_cases named : (schedule n).call? = some call
      · obtain ⟨redis, database, own⟩ := Event.of_call named
        rw [own, step_status_self] at raised
        cases before : (systemAt asks start schedule n).status call with
        | raised earlier =>
            rw [before] at raised
            cases raised
            obtain ⟨blamed, m, fate, early, failed⟩ := ih before
            exact ⟨blamed, m, fate, by omega, failed⟩
        | running lookup =>
            rw [before] at raised
            obtain ⟨blamed, down⟩ := resume_raised raised
            exact ⟨blamed, n, redis, by omega, by rw [own, down]⟩
      · rw [step_status_unnamed named] at raised
        obtain ⟨database, m, fate, early, failed⟩ := ih raised
        exact ⟨database, m, fate, by omega, failed⟩

theorem remaining_le (starts : Starts start) (call n : Nat) :
    ((systemAt asks start schedule n).status call).remaining ≤ 3 - turns schedule call n := by
  induction n with
  | zero =>
      show (start.status call).remaining ≤ 3
      rw [starts.idle call]
      exact Nat.le_refl _
  | succ n ih =>
      show ((step asks (systemAt asks start schedule n) (schedule n)).status call).remaining ≤ _
      rw [turns]
      by_cases named : (schedule n).call? = some call
      · obtain ⟨redis, database, own⟩ := Event.of_call named
        have lower := resume_remaining (asks call) (systemAt asks start schedule n) redis database
          ((systemAt asks start schedule n).status call)
        rw [if_pos named, own, step_status_self]
        omega
      · rw [if_neg named, step_status_unnamed named]
        exact ih

/-- A call that has been given three steps has come to its end. -/
theorem settled_of_turns (starts : Starts start) {call n : Nat}
    (given : 3 ≤ turns schedule call n) :
    (∃ answer, (systemAt asks start schedule n).status call = .running (.returned answer)) ∨
      (systemAt asks start schedule n).status call = .raised .database := by
  have left : ((systemAt asks start schedule n).status call).remaining ≤ _ :=
    remaining_le starts call n
  cases ended : (systemAt asks start schedule n).status call with
  | raised cause =>
      right
      rw [(raised_by_database starts ended).1]
  | running lookup =>
      rw [ended] at left
      have none_left : lookup.remaining = 0 := by
        change lookup.remaining ≤ _ at left
        omega
      obtain ⟨answer, returned⟩ := Lookup.returned_of_remaining none_left
      exact Or.inl ⟨answer, by rw [returned]⟩

/-- Whatever fails: owners are not older than the bound, `None` is an answer of the table during
the call, and only the database makes a call raise. -/
theorem getOwner_bounded (asks : Nat → String) (start : System) (starts : Starts start)
    (schedule : Nat → Event) :
    (∀ call called finish owner,
      (systemAt asks start schedule called).status call = .running .idle →
      (systemAt asks start schedule finish).status call = .running (.returned (some owner)) →
      Recent asks start schedule called finish (asks call) owner) ∧
    (∀ call called finish,
      (systemAt asks start schedule called).status call = .running .idle →
      (systemAt asks start schedule finish).status call = .running (.returned none) →
      ∃ read, called ≤ read ∧ read < finish ∧
        Registry.getOwner (systemAt asks start schedule read).fleet (asks call) = none) ∧
    (∀ call n cause, (systemAt asks start schedule n).status call = .raised cause →
      cause = .database ∧ ∃ m redis, m < n ∧ schedule m = .getOwner call redis false) ∧
    (∀ call n, 3 ≤ turns schedule call n →
      (∃ answer, (systemAt asks start schedule n).status call = .running (.returned answer)) ∨
        (systemAt asks start schedule n).status call = .raised .database) := by
  refine ⟨?_, ?_, ?_, ?_⟩
  · intro call called finish owner idle returned
    exact returned_recent starts idle returned
  · intro call called finish idle returned
    exact returned_none starts idle returned
  · intro call n cause raised
    exact raised_by_database starts raised
  · intro call n given
    exact settled_of_turns starts given

end Runs

def sampleFleet : Fleet where
  tenants := ["tenant-a", "tenant-b"]
  vehicles := [⟨"v-1", "tenant-a", 0, "ops", "initial_provisioning"⟩]
  history := []
  audits := []
  nextHistoryId := 1

def sampleStart : System := ⟨0, fun _ => none, sampleFleet, fun _ => .running .idle⟩

def transferCall : AssignCall where
  assignment := ⟨"v-1", "tenant-b", "ops", "resale"⟩
  setting := none
  draws := ⟨"event-1", "suffix-1", 1⟩
  fate := .runs
  skipped := 0

/-- The write-back of the first call is carried out though it fails; the vehicle changes hands,
and the invalidation does not reach Redis. -/
def staleSchedule : Nat → Event
  | 0 | 1 => .getOwner 0 .answers true
  | 2 => .getOwner 0 (.fails true) true
  | 3 => .assign transferCall
  | 4 => .invalidate "v-1" (.fails false)
  | 5 => .wait 1000
  | 6 => .getOwner 1 .answers true
  | _ => .wait 0

theorem getOwner_bounded_stale :
    Registry.getOwner (systemAt (fun _ => "v-1") sampleStart staleSchedule 6).fleet "v-1" =
        some "tenant-b" ∧
      Recent (fun _ => "v-1") sampleStart staleSchedule 6 7 "v-1" "tenant-a" := by
  have starts : Starts sampleStart := ⟨fun _ => rfl, fun _ => rfl⟩
  refine ⟨by decide, ?_⟩
  exact (getOwner_bounded (fun _ => "v-1") sampleStart starts staleSchedule).1 1 6 7 _ rfl rfl

end CollectMind.OwnershipStaleness
