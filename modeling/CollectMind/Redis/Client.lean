import Mathlib.Data.Set.Function
import CollectMind.Library.ExpiringStore
import CollectMind.Library.Runs
import CollectMind.Library.Segments

set_option autoImplicit false

/- `HotStore` of redis/client.py, on a connected client: signals of all tenants in one Redis,
kept apart by their keys alone. -/
namespace CollectMind.HotStore

open ExpiringStore

structure Signal where
  tenantId : String
  vehicleId : String
  signalName : String
  deriving DecidableEq, Repr

/-- `_hot_store_key`. -/
def hotStoreKey (signal : Signal) : String :=
  signal.tenantId ++ ":" ++ signal.vehicleId ++ ":" ++ signal.signalName

def defaultTtlSeconds : Int := 24 * 3600

inductive Op where
  | putSignalForTenant (value : String)
  | getSignalForTenant
  deriving DecidableEq, Repr

/-- A call, and the server's clock when it runs, in milliseconds. -/
structure Call where
  clock : Int
  signal : Signal
  op : Op

/-- One call on the store, and what it returns. -/
def step (defaultTtl : Int) (redis : Store String String) (call : Call) :
    Store String String × Option String :=
  match call.op with
  | .putSignalForTenant value =>
    (setEx redis call.clock (hotStoreKey call.signal) value (1000 * defaultTtl), none)
  | .getSignalForTenant => (redis, get redis call.clock (hotStoreKey call.signal))

/-- The puts among some calls. -/
def puts (calls : List Call) : List (Write Signal String) :=
  calls.filterMap fun call =>
    match call.op with
    | .putSignalForTenant value => some ⟨call.clock, call.signal, value⟩
    | .getSignalForTenant => none

def redisAfter (defaultTtl : Int) (calls : List Call) : Store String String :=
  Runs.final (step defaultTtl) (fun _ => none) calls

/-- The server's clock does not go back. -/
def Timed (calls : List Call) : Prop := calls.Pairwise fun first second => first.clock ≤ second.clock

/-- Every get returns the value of the latest unexpired put for its own signal. -/
def Isolated (defaultTtl : Int) (calls : List Call) : Prop :=
  ∀ before call after, calls = before ++ call :: after → call.op = .getSignalForTenant →
    (step defaultTtl (redisAfter defaultTtl before) call).2 =
      latest (1000 * defaultTtl) (fun signal => decide (signal = call.signal)) call.clock (puts before)

theorem redisAfter_eq_written (defaultTtl : Int) (calls : List Call) :
    redisAfter defaultTtl calls =
      written hotStoreKey (1000 * defaultTtl) (fun _ => none) (puts calls) := by
  suffices ∀ redis, Runs.final (step defaultTtl) redis calls =
      written hotStoreKey (1000 * defaultTtl) redis (puts calls) from this _
  induction calls with
  | nil => exact fun _ => rfl
  | cons call rest ih =>
      intro redis
      rw [Runs.final_cons, ih]
      cases called : call.op with
      | putSignalForTenant value => simp only [step, puts, written, called, List.filterMap_cons, List.foldl_cons]
      | getSignalForTenant => simp only [step, puts, written, called, List.filterMap_cons]

theorem mem_puts {calls : List Call} {write : Write Signal String} (member : write ∈ puts calls) :
    ∃ call ∈ calls, call.signal = write.name ∧ call.clock = write.clock := by
  obtain ⟨call, inside, kept⟩ := List.mem_filterMap.mp member
  refine ⟨call, inside, ?_⟩
  split at kept
  · cases kept
    exact ⟨rfl, rfl⟩
  · cases kept

theorem Timed.puts {calls : List Call} (timed : Timed calls) :
    (puts calls).Pairwise fun first second => first.clock ≤ second.clock := by
  induction calls with
  | nil => exact List.Pairwise.nil
  | cons call rest ih =>
      obtain ⟨first, others⟩ := List.pairwise_cons.mp timed
      cases called : call.op with
      | getSignalForTenant =>
          simp only [HotStore.puts, called, List.filterMap_cons]
          exact ih others
      | putSignalForTenant value =>
          simp only [HotStore.puts, called, List.filterMap_cons]
          refine List.pairwise_cons.mpr ⟨?_, ih others⟩
          intro write member
          obtain ⟨later, inside, _, clock⟩ := mem_puts member
          rw [← clock]
          exact first later inside

/-- A get returns the latest unexpired put under its key, whichever signal it was for. -/
theorem get_returns (defaultTtl : Int) {before : List Call} (timed : Timed before) {call : Call}
    (reads : call.op = .getSignalForTenant) :
    (step defaultTtl (redisAfter defaultTtl before) call).2 =
      latest (1000 * defaultTtl) (fun signal => decide (hotStoreKey signal = hotStoreKey call.signal))
        call.clock (puts before) := by
  rw [step, reads, redisAfter_eq_written]
  exact get_written hotStoreKey (1000 * defaultTtl) (puts before) timed.puts call.clock _

/-- Tenants and vehicles without a separator in their names do not collide, whatever the name of
the signal. -/
theorem hotStoreKey_injOn_plain :
    Set.InjOn hotStoreKey
      {signal | ':' ∉ signal.tenantId.toList ∧ ':' ∉ signal.vehicleId.toList} := by
  intro first plain second alsoPlain same
  have chars := congrArg String.toList same
  have one : ":".toList = [':'] := rfl
  simp only [hotStoreKey, String.toList_append, one, List.append_assoc, List.singleton_append] at chars
  obtain ⟨tenants, rest⟩ := Segments.append_separator_inj ':' plain.1 alsoPlain.1 chars
  obtain ⟨vehicles, names⟩ := Segments.append_separator_inj ':' plain.2 alsoPlain.2 rest
  obtain ⟨tenantId, vehicleId, signalName⟩ := first
  obtain ⟨otherTenant, otherVehicle, otherName⟩ := second
  rw [Signal.mk.injEq]
  exact ⟨String.toList_inj.mp tenants, String.toList_inj.mp vehicles, String.toList_inj.mp names⟩

/-- The store keeps the signals of a set apart, whatever is done with them, exactly if no two of
them have the same key. -/
theorem isolated_iff_keys_injective (defaultTtl : Int) (positive : 0 < defaultTtl)
    (signals : Set Signal) :
    (∀ calls, (∀ call ∈ calls, call.signal ∈ signals) → Timed calls → Isolated defaultTtl calls) ↔
      Set.InjOn hotStoreKey signals := by
  constructor
  · intro isolated first inside second among same
    by_contra apart
    -- put the one, read the other at the same moment
    have lived := isolated [⟨0, first, .putSignalForTenant "value"⟩, ⟨0, second, .getSignalForTenant⟩]
      (by simp [inside, among]) (by simp [Timed])
      [⟨0, first, .putSignalForTenant "value"⟩] ⟨0, second, .getSignalForTenant⟩ [] rfl rfl
    have fresh : (0 : Int) < 0 + 1000 * defaultTtl := by omega
    rw [get_returns defaultTtl (by simp [Timed]) rfl] at lived
    simp [latest, puts, same, apart] at lived
    omega
  · intro injective calls inside timed before call after shape reads
    have earlier : Timed before := by
      rw [shape] at timed
      exact (List.pairwise_append.mp timed).1
    rw [get_returns defaultTtl earlier reads]
    apply latest_congr
    intro write member
    obtain ⟨put, made, signal, _⟩ := mem_puts member
    have known : write.name ∈ signals := by
      rw [← signal]
      exact inside put (by simp [shape, made])
    have asked : call.signal ∈ signals := inside call (by simp [shape])
    simp only [decide_eq_decide]
    exact ⟨fun same => injective known asked same, fun same => by rw [same]⟩

/-- Names without a separator are kept apart. -/
theorem isolated_iff_keys_injective_plain :
    0 < defaultTtlSeconds ∧ ∀ calls, (∀ call ∈ calls, call.signal ∈
        {signal | ':' ∉ signal.tenantId.toList ∧ ':' ∉ signal.vehicleId.toList}) →
      Timed calls → Isolated defaultTtlSeconds calls :=
  ⟨by decide, (isolated_iff_keys_injective defaultTtlSeconds (by decide) _).mpr hotStoreKey_injOn_plain⟩

/-- Tenant `a` puts a value for its vehicle `b:c`; tenant `a:b`, which never put anything, is
given it for its vehicle `c`. -/
theorem isolated_fails_for_separator_in_name :
    Runs.outputs (step defaultTtlSeconds) (fun _ => none)
        [⟨0, ⟨"a", "b:c", "speed"⟩, .putSignalForTenant "42"⟩,
          ⟨1, ⟨"a:b", "c", "speed"⟩, .getSignalForTenant⟩] = [none, some "42"] ∧
    ¬ Isolated defaultTtlSeconds
        [⟨0, ⟨"a", "b:c", "speed"⟩, .putSignalForTenant "42"⟩,
          ⟨1, ⟨"a:b", "c", "speed"⟩, .getSignalForTenant⟩] := by
  refine ⟨by decide +kernel, ?_⟩
  intro isolated
  have returned := isolated [⟨0, ⟨"a", "b:c", "speed"⟩, .putSignalForTenant "42"⟩]
    ⟨1, ⟨"a:b", "c", "speed"⟩, .getSignalForTenant⟩ [] rfl rfl
  revert returned
  decide +kernel

end CollectMind.HotStore
