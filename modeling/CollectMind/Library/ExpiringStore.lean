import Mathlib.Logic.Function.Basic
import Mathlib.Data.List.Induction

set_option autoImplicit false

/- A keyed store whose entries may carry a deadline, in the manner of Redis.
Keys and values are arbitrary; time is the server's clock in milliseconds. -/
namespace ExpiringStore

/-- A stored value with its deadline; without one the entry never expires. -/
structure Entry (ν : Type) where
  value : ν
  expireAt : Option Int
  deriving DecidableEq, Repr

def Entry.live {ν : Type} (entry : Entry ν) (clock : Int) : Bool :=
  match entry.expireAt with
  | none => true
  | some deadline => decide (clock < deadline)

abbrev Store (κ ν : Type) := κ → Option (Entry ν)

variable {κ ν : Type} [DecidableEq κ]

/-- The entry a command sees: an expired entry is as good as absent. -/
def current (cell : Option (Entry ν)) (clock : Int) : Option (Entry ν) :=
  cell.filter (fun entry => entry.live clock)

/-- Overwrite the value in place: a live key keeps its deadline (`HSET`). -/
def put (store : Store κ ν) (clock : Int) (key : κ) (value : ν) : Store κ ν :=
  Function.update store key
    (some ⟨value, (current (store key) clock).bind (·.expireAt)⟩)

/-- Give a live key a deadline `ttl` from now (`PEXPIRE`). -/
def pexpire (store : Store κ ν) (clock : Int) (key : κ) (ttl : Int) : Store κ ν :=
  Function.update store key
    ((current (store key) clock).map (fun entry => { entry with expireAt := some (clock + ttl) }))

/-- Replace the value and the deadline (`SET ... EX`). -/
def setEx (store : Store κ ν) (clock : Int) (key : κ) (value : ν) (ttl : Int) : Store κ ν :=
  Function.update store key (some ⟨value, some (clock + ttl)⟩)

def get (store : Store κ ν) (clock : Int) (key : κ) : Option ν :=
  (current (store key) clock).map Entry.value

def delete (store : Store κ ν) (key : κ) : Store κ ν := Function.update store key none

/-- Take the deadline off a key (`PERSIST`). -/
def persist (store : Store κ ν) (key : κ) : Store κ ν :=
  Function.update store key ((store key).map fun entry => { entry with expireAt := none })

@[simp] theorem current_none (clock : Int) : current (none : Option (Entry ν)) clock = none := rfl

theorem current_eq_some {cell : Option (Entry ν)} {clock : Int} {entry : Entry ν} :
    current cell clock = some entry ↔ cell = some entry ∧ entry.live clock = true := by
  simp only [current, Option.filter_eq_some_iff]

theorem current_of_live {entry : Entry ν} {clock : Int} (alive : entry.live clock = true) :
    current (some entry) clock = some entry :=
  current_eq_some.mpr ⟨rfl, alive⟩

theorem current_of_dead {entry : Entry ν} {clock : Int} (dead : entry.live clock = false) :
    current (some entry) clock = none := by
  simp [current, dead]

theorem Entry.live_some {value : ν} {deadline clock : Int} :
    (Entry.mk value (some deadline)).live clock = true ↔ clock < deadline := by
  simp [Entry.live]

@[simp] theorem put_same (store : Store κ ν) (clock : Int) (key : κ) (value : ν) :
    put store clock key value key =
      some ⟨value, (current (store key) clock).bind (·.expireAt)⟩ := by
  simp [put]

@[simp] theorem pexpire_same (store : Store κ ν) (clock : Int) (key : κ) (ttl : Int) :
    pexpire store clock key ttl key =
      (current (store key) clock).map (fun entry => { entry with expireAt := some (clock + ttl) }) := by
  simp [pexpire]

theorem put_other (store : Store κ ν) (clock : Int) (key other : κ) (value : ν)
    (apart : other ≠ key) : put store clock key value other = store other :=
  Function.update_of_ne apart _ _

theorem pexpire_other (store : Store κ ν) (clock : Int) (key other : κ) (ttl : Int)
    (apart : other ≠ key) : pexpire store clock key ttl other = store other :=
  Function.update_of_ne apart _ _

theorem get_setEx_same (store : Store κ ν) (clock now : Int) (key : κ) (value : ν) (ttl : Int) :
    get (setEx store clock key value ttl) now key = if now < clock + ttl then some value else none := by
  by_cases alive : now < clock + ttl
  · have live : (Entry.mk value (some (clock + ttl))).live now = true := Entry.live_some.mpr alive
    simp [get, setEx, alive, current_of_live live]
  · have dead : (Entry.mk value (some (clock + ttl))).live now = false := by
      rw [Bool.eq_false_iff, ne_eq, Entry.live_some]
      exact alive
    simp [get, setEx, alive, current_of_dead dead]

theorem get_setEx_other (store : Store κ ν) (clock now : Int) (key other : κ) (value : ν)
    (ttl : Int) (apart : other ≠ key) :
    get (setEx store clock key value ttl) now other = get store now other := by
  rw [get, setEx, Function.update_of_ne apart, get]

@[simp] theorem get_delete_same (store : Store κ ν) (now : Int) (key : κ) :
    get (delete store key) now key = none := by
  simp [get, delete]

section Writes

variable {α : Type}

/-- A value written for a name. -/
structure Write (α ν : Type) where
  clock : Int
  name : α
  value : ν

/-- The value of the latest write that counts and has not expired at `clock`. -/
def latest (ttl : Int) (counts : α → Bool) (clock : Int) (writes : List (Write α ν)) : Option ν :=
  writes.reverse.findSome? fun write =>
    if counts write.name && decide (clock < write.clock + ttl) then some write.value else none

/-- The store after writes under the keys that `encode` gives to the names. -/
def written (encode : α → κ) (ttl : Int) (store : Store κ ν) (writes : List (Write α ν)) :
    Store κ ν :=
  writes.foldl (fun store write => setEx store write.clock (encode write.name) write.value ttl) store

theorem latest_snoc (ttl : Int) (counts : α → Bool) (clock : Int) (writes : List (Write α ν))
    (write : Write α ν) :
    latest ttl counts clock (writes ++ [write]) =
      if counts write.name && decide (clock < write.clock + ttl) then some write.value
      else latest ttl counts clock writes := by
  rw [latest, List.reverse_concat, List.findSome?_cons]
  split
  · rename_i value found
    split at found
    · rename_i hit
      rw [if_pos hit]
      exact found.symm
    · cases found
  · rename_i missed
    split at missed
    · cases missed
    · rename_i miss
      rw [if_neg miss]
      rfl

theorem latest_expired (ttl : Int) (counts : α → Bool) (clock : Int) (writes : List (Write α ν))
    (expired : ∀ write ∈ writes, write.clock + ttl ≤ clock) : latest ttl counts clock writes = none := by
  rw [latest, List.findSome?_eq_none_iff]
  intro write member
  have late := expired write (List.mem_reverse.mp member)
  rw [if_neg]
  simp only [Bool.and_eq_true, decide_eq_true_eq, not_and, Int.not_lt]
  exact fun _ => late

theorem latest_congr (ttl : Int) {counts others : α → Bool} (clock : Int)
    {writes : List (Write α ν)} (same : ∀ write ∈ writes, counts write.name = others write.name) :
    latest ttl counts clock writes = latest ttl others clock writes := by
  induction writes using List.reverseRecOn with
  | nil => rfl
  | append_singleton writes write ih =>
      have earlier := ih fun other member => same other (List.mem_append_left _ member)
      rw [latest_snoc, latest_snoc, same write (by simp), earlier]

/-- Reading a key gives the latest unexpired write under it, whatever name it was made for. -/
theorem get_written (encode : α → κ) (ttl : Int) (writes : List (Write α ν))
    (ordered : writes.Pairwise fun first second => first.clock ≤ second.clock) (clock : Int)
    (key : κ) :
    get (written encode ttl (fun _ => none) writes) clock key =
      latest ttl (fun name => decide (encode name = key)) clock writes := by
  induction writes using List.reverseRecOn with
  | nil => rfl
  | append_singleton writes write ih =>
      obtain ⟨before, _, later⟩ := List.pairwise_append.mp ordered
      rw [written, List.foldl_append, List.foldl_cons, List.foldl_nil, latest_snoc]
      by_cases here : encode write.name = key
      · rw [← here, get_setEx_same]
        simp only [decide_true, Bool.true_and, decide_eq_true_eq]
        by_cases alive : clock < write.clock + ttl
        · rw [if_pos alive, if_pos alive]
        · -- a write that has expired leaves no older one behind it
          rw [if_neg alive, if_neg alive, latest_expired]
          intro older member
          have first := later older member write (List.mem_singleton.mpr rfl)
          omega
      · have apart : key ≠ encode write.name := fun same => here same.symm
        rw [get_setEx_other _ _ _ _ _ _ _ apart, if_neg (by simp [here])]
        exact ih before

end Writes

end ExpiringStore
