import Mathlib.Data.List.Dedup
import Mathlib.Data.List.Infix
import Mathlib.Data.List.Sort
import Mathlib.Data.List.TakeWhile
import Mathlib.Data.String.Basic
import CollectMind.Library.Processes

set_option autoImplicit false

/- The migration runner of registry/migrations/runner.py: which files it discovers, and what any
number of `apply_pending` processes do to one database, each working from the versions that it
read when it started. -/
namespace CollectMind.Registry.Migrations

structure Migration where
  version : String
  name : String
  upPath : String
  downPath : Option String
  deriving DecidableEq, Repr

section Discovery

/-- `[a-z0-9_]`. -/
def nameChar (char : Char) : Bool := ('a' ≤ char && char ≤ 'z') || char.isDigit || char == '_'

/-- `^(\d{3,})_([a-z0-9_]+)` before a suffix and the end, which may stand before a last newline:
the key of the file, with the digits of the engine. -/
def fileKey (digit : Char → Bool) (suffix : String) (fileName : String) : Option String :=
  let text := fileName.toList
  let line := if text.getLast? = some '\n' then text.dropLast else text
  let stem := line.take (line.length - suffix.length)
  let version := stem.takeWhile (· != '_')
  let name := (stem.dropWhile (· != '_')).drop 1
  if line = stem ++ suffix.toList ∧ '_' ∈ stem ∧ 3 ≤ version.length ∧ version.all digit ∧
      name ≠ [] ∧ name.all nameChar then some (String.ofList stem) else none

/-- `key.split("_", 1)`. -/
def keyVersion (key : String) : String := String.ofList (key.toList.takeWhile (· != '_'))

@[inherit_doc keyVersion]
def keyName (key : String) : String :=
  String.ofList ((key.toList.dropWhile (· != '_')).drop 1)

/-- `discover_migrations`, on the names of the files. The dictionary has the keys of all up and
down files, each with the last of them in order; only those with an up file come out. -/
def discoverMigrations (digit : Char → Bool) (directory : List String) : List Migration :=
  let entries := directory.insertionSort (· ≤ ·)
  let keys := (entries.filterMap fun entry =>
    (fileKey digit ".up.sql" entry).or (fileKey digit ".down.sql" entry)).dedup
  (keys.insertionSort (· ≤ ·)).filterMap fun key =>
    (entries.filter fun entry => fileKey digit ".up.sql" entry = some key).getLast?.map fun up =>
      { version := keyVersion key
        name := keyName key
        upPath := up
        downPath := (entries.filter fun entry =>
          fileKey digit ".down.sql" entry = some key).getLast? }

/-- The version of an up file. -/
def fileVersion (digit : Char → Bool) (fileName : String) : Option String :=
  (fileKey digit ".up.sql" fileName).map keyVersion

/-- No two up files have one version. -/
def DistinctVersions (digit : Char → Bool) (directory : List String) : Prop :=
  ∀ file ∈ directory, ∀ other ∈ directory, ∀ version ∈ fileVersion digit file,
    version ∈ fileVersion digit other → file = other

instance (digit : Char → Bool) (directory : List String) :
    Decidable (DistinctVersions digit directory) :=
  inferInstanceAs (Decidable (∀ file ∈ directory, ∀ other ∈ directory,
    ∀ version ∈ fileVersion digit file, version ∈ fileVersion digit other → file = other))

/-- The number that a version writes. -/
def versionNumber (version : String) : Nat := Nat.ofDigitChars 10 version.toList 0

theorem fileKey_underscore {digit : Char → Bool} {suffix fileName key : String}
    (found : fileKey digit suffix fileName = some key) : '_' ∈ key.toList := by
  simp only [fileKey, Option.ite_none_right_eq_some, Option.some.injEq] at found
  obtain ⟨matched, rfl⟩ := found
  rw [String.toList_ofList]
  exact matched.2.1

/-- A key is put together again from its two parts. -/
theorem key_parts {key : String} (cut : '_' ∈ key.toList) :
    key.toList = (keyVersion key).toList ++ '_' :: (keyName key).toList := by
  have tail : key.toList.dropWhile (· != '_') = '_' :: (keyName key).toList := by
    rw [keyName, String.toList_ofList]
    cases rest : key.toList.dropWhile (· != '_') with
    | nil =>
        rw [List.dropWhile_eq_nil_iff] at rest
        exact absurd (rest '_' cut) (by decide)
    | cons char others =>
        have stops : (char != '_') = false := by
          have first := List.head_dropWhile_not (· != '_') (l := key.toList) (by simp [rest])
          simpa only [rest, List.head_cons] using first
        rw [bne_eq_false_iff_eq.mp stops, List.drop_one, List.tail_cons]
  rw [← tail, keyVersion, String.toList_ofList, List.takeWhile_append_dropWhile]

section Discovered

variable {digit : Char → Bool} {directory : List String} {migration : Migration}

/-- What a discovered migration is: a key, and an up file of the directory that has it. -/
theorem mem_discoverMigrations (member : migration ∈ discoverMigrations digit directory) :
    migration.upPath ∈ directory ∧ ∃ key, fileKey digit ".up.sql" migration.upPath = some key ∧
      migration.version = keyVersion key ∧ migration.name = keyName key := by
  obtain ⟨key, _, made⟩ := List.mem_filterMap.mp member
  obtain ⟨up, last, rfl⟩ := Option.map_eq_some_iff.mp made
  have listed := List.mem_filter.mp (List.mem_of_getLast? last)
  refine ⟨(List.mem_insertionSort _).mp listed.1, key, ?_, rfl, rfl⟩
  exact of_decide_eq_true listed.2

theorem discovered_version (member : migration ∈ discoverMigrations digit directory) :
    fileVersion digit migration.upPath = some migration.version := by
  obtain ⟨_, key, found, version, _⟩ := mem_discoverMigrations member
  rw [fileVersion, found, version]
  rfl

/-- For every up file some migration of its version is discovered. -/
theorem discovered_of_file {file version : String} (listed : file ∈ directory)
    (found : fileVersion digit file = some version) :
    ∃ migration ∈ discoverMigrations digit directory, migration.version = version := by
  obtain ⟨key, keyed, rfl⟩ := Option.map_eq_some_iff.mp found
  have entry : file ∈ directory.insertionSort (· ≤ ·) := (List.mem_insertionSort _).mpr listed
  obtain ⟨up, last⟩ : ∃ up, ((directory.insertionSort (· ≤ ·)).filter fun entry =>
      fileKey digit ".up.sql" entry = some key).getLast? = some up := by
    rw [← Option.ne_none_iff_exists', ne_eq, List.getLast?_eq_none_iff]
    exact List.ne_nil_of_mem (List.mem_filter.mpr ⟨entry, decide_eq_true keyed⟩)
  refine ⟨_, List.mem_filterMap.mpr ⟨key, ?_, by rw [last]; rfl⟩, rfl⟩
  rw [List.mem_insertionSort, List.mem_dedup]
  exact List.mem_filterMap.mpr ⟨file, entry, by rw [keyed]; rfl⟩

/-- The migrations come in the order of their keys. -/
theorem discoverMigrations_sorted (digit : Char → Bool) (directory : List String) :
    (discoverMigrations digit directory).Pairwise fun first second =>
      first.version.toList ++ '_' :: first.name.toList <
        second.version.toList ++ '_' :: second.name.toList := by
  -- a key comes out only with an up file that has it, so it has the underscore it is cut at
  have whole : ∀ key (migration : Migration), ((directory.insertionSort (· ≤ ·)).filter fun entry =>
        fileKey digit ".up.sql" entry = some key).getLast?.map (fun up =>
          { version := keyVersion key, name := keyName key, upPath := up
            downPath := ((directory.insertionSort (· ≤ ·)).filter fun entry =>
              fileKey digit ".down.sql" entry = some key).getLast? }) = some migration →
      migration.version.toList ++ '_' :: migration.name.toList = key.toList := by
    intro key migration made
    obtain ⟨up, last, rfl⟩ := Option.map_eq_some_iff.mp made
    have keyed := (List.mem_filter.mp (List.mem_of_getLast? last)).2
    exact (key_parts (fileKey_underscore (of_decide_eq_true keyed))).symm
  have ordered : ∀ keys : List String,
      (keys.dedup.insertionSort (· ≤ ·)).Pairwise (· < ·) := by
    intro keys
    have sorted := List.pairwise_insertionSort (· ≤ ·) keys.dedup
    have nodup := (List.perm_insertionSort (· ≤ ·) keys.dedup).nodup_iff.mpr keys.nodup_dedup
    exact (sorted.and nodup).imp fun both => lt_of_le_of_ne both.1 both.2
  apply List.Pairwise.filterMap _ _ (ordered _)
  intro key other less migration made second secondMade
  rw [whole key migration made, whole other second secondMade]
  exact String.lt_iff_toList_lt.mp less

end Discovered

section Order

/-- Between words of one length the first difference decides, whatever comes after. -/
theorem lt_of_append_lt {first second more others : List Char}
    (width : first.length = second.length) (differ : first ≠ second)
    (before : first ++ more < second ++ others) : first < second := by
  induction first generalizing second with
  | nil => exact absurd (List.length_eq_zero_iff.mp width.symm).symm differ
  | cons char rest ih =>
      cases second with
      | nil => cases width
      | cons other tail =>
          rw [List.cons_append, List.cons_append, List.cons_lt_cons_iff] at before
          rw [List.cons_lt_cons_iff]
          rcases before with less | ⟨rfl, later⟩
          · exact Or.inl less
          · refine Or.inr ⟨rfl, ih (by simpa using width) ?_ later⟩
            intro same
            exact differ (by rw [same])

theorem ofDigitChars_bounds (digits : List Char) (decimal : ∀ char ∈ digits, char.isDigit = true)
    (number : Nat) :
    number * 10 ^ digits.length ≤ Nat.ofDigitChars 10 digits number ∧
      Nat.ofDigitChars 10 digits number < (number + 1) * 10 ^ digits.length := by
  induction digits generalizing number with
  | nil => simp [Nat.ofDigitChars]
  | cons char rest ih =>
      have digit := Char.isDigit_iff_toNat.mp (decimal char List.mem_cons_self)
      have bounds := ih (fun char member => decimal char (List.mem_cons_of_mem _ member))
        (10 * number + (char.toNat - '0'.toNat))
      have small : char.toNat - '0'.toNat ≤ 9 := by
        have nine : '9'.toNat = '0'.toNat + 9 := rfl
        omega
      rw [List.length_cons, pow_succ, mul_comm _ 10, ← mul_assoc, ← mul_assoc]
      constructor
      · calc number * 10 * 10 ^ rest.length
            ≤ (10 * number + (char.toNat - '0'.toNat)) * 10 ^ rest.length := by gcongr; omega
          _ ≤ _ := bounds.1
      · calc Nat.ofDigitChars 10 (char :: rest) number
            < (10 * number + (char.toNat - '0'.toNat) + 1) * 10 ^ rest.length := bounds.2
          _ ≤ (number + 1) * 10 * 10 ^ rest.length := by gcongr; omega

/-- On decimal words of one length, the order of the words is the order of the numbers. -/
theorem ofDigitChars_lt {first second : List Char} (width : first.length = second.length)
    (firstDecimal : ∀ char ∈ first, char.isDigit = true)
    (secondDecimal : ∀ char ∈ second, char.isDigit = true) (less : first < second) (number : Nat) :
    Nat.ofDigitChars 10 first number < Nat.ofDigitChars 10 second number := by
  induction first generalizing second number with
  | nil =>
      rw [(List.length_eq_zero_iff.mp width.symm)] at less
      exact absurd less (List.not_lt_nil _)
  | cons char rest ih =>
      cases second with
      | nil => cases width
      | cons other tail =>
          rw [List.forall_mem_cons] at firstDecimal secondDecimal
          have same : rest.length = tail.length := by simpa using width
          rcases List.cons_lt_cons_iff.mp less with differ | ⟨rfl, later⟩
          · have low := Char.isDigit_iff_toNat.mp firstDecimal.1
            have apart : char.toNat < other.toNat := Char.lt_def.mp differ
            have next : 10 * number + (char.toNat - '0'.toNat) + 1 ≤
                10 * number + (other.toNat - '0'.toNat) := by omega
            calc Nat.ofDigitChars 10 (char :: rest) number
                < (10 * number + (char.toNat - '0'.toNat) + 1) * 10 ^ rest.length :=
                  (ofDigitChars_bounds rest firstDecimal.2 _).2
              _ ≤ (10 * number + (other.toNat - '0'.toNat)) * 10 ^ tail.length := by
                  rw [same]
                  exact Nat.mul_le_mul_right _ next
              _ ≤ Nat.ofDigitChars 10 (other :: tail) number :=
                  (ofDigitChars_bounds tail secondDecimal.2 _).1
          · exact ih same firstDecimal.2 secondDecimal.2 later _

end Order

end Discovery

/-- The rows of `schema_migrations`, and in order the files whose SQL has been committed. -/
structure Database where
  rows : List (String × String)
  committed : List Migration
  deriving DecidableEq, Repr

/-- `applied_versions`. -/
def Database.versions (database : Database) : List String := database.rows.map Prod.fst

/-- The transaction of one migration: its SQL and its row, whose version is the primary key. -/
def Database.apply (database : Database) (migration : Migration) : Option Database :=
  if migration.version ∈ database.versions then none
  else some ⟨database.rows ++ [(migration.version, migration.name)],
    database.committed ++ [migration]⟩

/-- Where an `apply_pending` process is. -/
inductive Phase where
  | idle
  | connected
  | ensured
  | applying (existing : List String) (pending : List Migration) (applied : List String)
  | returned (applied : List String)
  | failed
  deriving DecidableEq, Repr

/-- The next statement of a process, or its end: an error of a statement, or a crash, leaves
nothing behind, unless the commit went through before it. -/
inductive Action where
  | connect
  | ensureMigrationsTable
  | appliedVersions
  | advance
  | stop
  | commitThenStop
  deriving DecidableEq, Repr

/-- One turn of `apply_pending` on the given migrations. -/
def act (migrations : List Migration) (database : Database) (phase : Phase) (action : Action) :
    Database × Phase × Unit :=
  match phase, action with
  | .idle, .connect | .returned _, .connect | .failed, .connect => (database, .connected, ())
  | .connected, .ensureMigrationsTable => (database, .ensured, ())
  | .ensured, .appliedVersions => (database, .applying database.versions migrations [], ())
  | .applying _ [] applied, .advance => (database, .returned applied, ())
  | .applying existing (migration :: rest) applied, .advance =>
    if migration.version ∈ existing then (database, .applying existing rest applied, ())
    else
      match database.apply migration with
      | some next => (next, .applying existing rest (applied ++ [migration.version]), ())
      | none => (database, .failed, ())
  | .applying existing (migration :: _) _, .commitThenStop =>
    if migration.version ∈ existing then (database, .failed, ())
    else ((database.apply migration).getD database, .failed, ())
  | .connected, .stop | .ensured, .stop | .applying _ _ _, .stop => (database, .failed, ())
  | phase, _ => (database, phase, ())

/-- Any number of processes before their first run, over a database that has seen none. -/
def fresh (n : Nat) : Processes.System Database Phase n := ⟨⟨[], []⟩, fun _ => .idle⟩

/-- The state after some turns of the processes. -/
def after (migrations : List Migration) {n : Nat} (turns : List (Fin n × Action)) :
    Processes.System Database Phase n :=
  Runs.final (Processes.step (act migrations)) (fresh n) turns

section Turns

variable {migrations : List Migration} {database next : Database} {migration : Migration}

theorem apply_eq_some (success : database.apply migration = some next) :
    migration.version ∉ database.versions ∧
      next = ⟨database.rows ++ [(migration.version, migration.name)],
        database.committed ++ [migration]⟩ := by
  rw [Database.apply] at success
  split at success
  · cases success
  · rename_i free
    exact ⟨free, (Option.some.inj success).symm⟩

/-- All that a turn can do: move the process on over a migration that is recorded, or leave the
loop; or commit the next migration, under its version, and go on or stop. -/
inductive Turn (migrations : List Migration) (database : Database) : Phase → Database → Phase → Prop
  | keeps {phase : Phase} : Turn migrations database phase database phase
  | opens {phase : Phase} : Turn migrations database phase database .connected
  | ensures {phase : Phase} : Turn migrations database phase database .ensured
  | stops {phase : Phase} : Turn migrations database phase database .failed
  | reads {phase : Phase} :
      Turn migrations database phase database (.applying database.versions migrations [])
  | skips {existing : List String} {migration : Migration} {rest : List Migration}
      {applied : List String} (known : migration.version ∈ existing) :
      Turn migrations database (.applying existing (migration :: rest) applied) database
        (.applying existing rest applied)
  | returns {existing applied : List String} :
      Turn migrations database (.applying existing [] applied) database (.returned applied)
  | commits {existing : List String} {migration : Migration} {rest : List Migration}
      {applied : List String} {next : Database} {phase : Phase}
      (effect : database.apply migration = some next)
      (goesOn : phase = .applying existing rest (applied ++ [migration.version]) ∨
        phase = .failed) :
      Turn migrations database (.applying existing (migration :: rest) applied) next phase

theorem act_turn (migrations : List Migration) (database : Database) (phase : Phase)
    (action : Action) :
    Turn migrations database phase (act migrations database phase action).1
      (act migrations database phase action).2.1 := by
  unfold act
  split
  · exact .opens
  · exact .opens
  · exact .opens
  · exact .ensures
  · exact .reads
  · exact .returns
  · split
    · rename_i known
      exact .skips known
    · split
      · rename_i effect
        exact .commits effect (Or.inl rfl)
      · exact .stops
  · rename_i migration rest applied
    split
    · exact .stops
    · cases effect : database.apply migration with
      | none => exact .stops
      | some next => exact .commits effect (Or.inr rfl)
  · exact .stops
  · exact .stops
  · exact .stops
  · exact .keeps

/-- A process has passed only migrations whose versions are recorded, and what it read at its
start is still recorded. -/
def Follows (migrations : List Migration) (database : Database) : Phase → Prop
  | .applying existing pending _ =>
    (∀ version ∈ existing, version ∈ database.versions) ∧
      ∃ done, migrations = done ++ pending ∧
        ∀ migration ∈ done, migration.version ∈ database.versions
  | .returned _ => ∀ migration ∈ migrations, migration.version ∈ database.versions
  | _ => True

theorem Follows.mono {phase : Phase} (follows : Follows migrations database phase)
    (grows : ∀ version ∈ database.versions, version ∈ next.versions) :
    Follows migrations next phase := by
  cases phase with
  | applying existing pending applied =>
      obtain ⟨read, done, split, passed⟩ := follows
      refine ⟨fun version member => grows version (read version member), done, split, ?_⟩
      exact fun migration member => grows _ (passed migration member)
  | returned applied => exact fun migration member => grows _ (follows migration member)
  | _ => trivial

theorem versions_apply (success : database.apply migration = some next) :
    next.versions = database.versions ++ [migration.version] := by
  rw [(apply_eq_some success).2, Database.versions, List.map_append]
  rfl

theorem apply_grows (success : database.apply migration = some next) :
    ∀ version ∈ database.versions, version ∈ next.versions := by
  intro version member
  rw [versions_apply success]
  exact List.mem_append_left _ member

theorem Turn.grows {phase later : Phase} (turn : Turn migrations database phase next later) :
    ∀ version ∈ database.versions, version ∈ next.versions := by
  cases turn with
  | commits effect _ => exact apply_grows effect
  | _ => exact fun version member => member

/-- A process that moves on to the next migration has the version of the last one recorded. -/
theorem follows_cons {existing : List String} {rest : List Migration} {applied more : List String}
    (follows : Follows migrations database (.applying existing (migration :: rest) applied))
    (recorded : migration.version ∈ database.versions) :
    Follows migrations database (.applying existing rest more) := by
  obtain ⟨read, done, split, passed⟩ := follows
  refine ⟨read, done ++ [migration], by rw [split, List.append_assoc, List.singleton_append], ?_⟩
  exact List.forall_mem_append.mpr ⟨passed, List.forall_mem_singleton.mpr recorded⟩

theorem Turn.follows {phase later : Phase} (turn : Turn migrations database phase next later)
    (follows : Follows migrations database phase) : Follows migrations next later := by
  cases turn with
  | keeps => exact follows
  | opens => trivial
  | ensures => trivial
  | stops => trivial
  | reads => exact ⟨fun version member => member, [], rfl, by simp⟩
  | skips known => exact follows_cons follows (follows.1 _ known)
  | returns =>
      obtain ⟨_, done, split, passed⟩ := follows
      rw [List.append_nil] at split
      rw [split]
      exact passed
  | @commits existing migration rest applied next phase effect goesOn =>
      have recorded : migration.version ∈ next.versions := by
        rw [versions_apply effect]
        exact List.mem_append_right _ (List.mem_singleton.mpr rfl)
      rcases goesOn with rfl | rfl
      · exact follows_cons (follows.mono (apply_grows effect)) recorded
      · trivial

/-- The rows record what has been committed, each version once. -/
structure Consistent (migrations : List Migration) (database : Database) : Prop where
  rows : database.rows =
    database.committed.map fun migration => (migration.version, migration.name)
  once : database.versions.Nodup
  known : ∀ migration ∈ database.committed, migration ∈ migrations

theorem Consistent.versions (consistent : Consistent migrations database) :
    database.versions = database.committed.map Migration.version := by
  rw [Database.versions, consistent.rows, List.map_map]
  rfl

theorem Turn.consistent {phase later : Phase} (turn : Turn migrations database phase next later)
    (follows : Follows migrations database phase) (consistent : Consistent migrations database) :
    Consistent migrations next := by
  cases turn with
  | @commits existing migration rest applied _ _ effect _ =>
      have added := apply_eq_some effect
      have versions := versions_apply effect
      obtain ⟨_, done, split, _⟩ := follows
      constructor
      case rows =>
        rw [added.2, List.map_append, consistent.rows]
        rfl
      case once =>
        rw [versions, List.nodup_append_comm, List.singleton_append, List.nodup_cons]
        exact ⟨added.1, consistent.once⟩
      case known =>
        rw [added.2]
        refine List.forall_mem_append.mpr ⟨consistent.known, List.forall_mem_singleton.mpr ?_⟩
        rw [split]
        exact List.mem_append_right _ List.mem_cons_self
  | _ => exact consistent

/-- With one file to a version, a version that is recorded says which file was committed. -/
theorem Consistent.committed_of_version (consistent : Consistent migrations database)
    (distinct : (migrations.map Migration.version).Nodup) (listed : migration ∈ migrations)
    (recorded : migration.version ∈ database.versions) : migration ∈ database.committed := by
  rw [consistent.versions] at recorded
  obtain ⟨committed, member, same⟩ := List.mem_map.mp recorded
  have one := List.inj_on_of_nodup_map distinct (consistent.known committed member) listed same
  rwa [one] at member

/-- A part of a list from its front that has all of `done` and not the item after it is `done`. -/
theorem prefix_eq {α : Type} {work log done rest : List α} {item : α} (nodup : work.Nodup)
    (front : log <+: work) (split : work = done ++ item :: rest) (passed : ∀ x ∈ done, x ∈ log)
    (ahead : item ∉ log) : log = done := by
  obtain ⟨remainder, joined⟩ := front
  rw [← joined] at nodup
  rw [← joined] at split
  rcases List.append_eq_append_iff.mp split with ⟨more, doneEq, remains⟩ | ⟨more, logEq, restEq⟩
  · cases more with
    | nil => rw [doneEq, List.append_nil]
    | cons extra more =>
        have logged := passed extra (by simp [doneEq])
        exact absurd (by simp [remains]) (List.disjoint_of_nodup_append nodup logged)
  · cases more with
    | nil => rw [logEq, List.append_nil]
    | cons extra more =>
        rw [List.cons_append, List.cons.injEq] at restEq
        exact absurd (by simp [logEq, restEq.1]) ahead

/-- With one file to a version, the files are committed in the order of the list. -/
theorem Turn.inOrder {phase later : Phase} (turn : Turn migrations database phase next later)
    (follows : Follows migrations database phase) (consistent : Consistent migrations database)
    (distinct : (migrations.map Migration.version).Nodup)
    (front : database.committed <+: migrations) : next.committed <+: migrations := by
  cases turn with
  | @commits existing migration rest applied _ _ effect _ =>
      have added := apply_eq_some effect
      obtain ⟨_, done, split, passed⟩ := follows
      have whole : database.committed = done := by
        apply prefix_eq (List.Nodup.of_map _ distinct) front split
        · intro earlier member
          apply consistent.committed_of_version distinct _ (passed earlier member)
          rw [split]
          exact List.mem_append_left _ member
        · intro committed
          rw [consistent.versions] at added
          exact added.1 (List.mem_map_of_mem committed)
      rw [added.2, whole, split]
      exact ⟨rest, by rw [List.append_assoc, List.singleton_append]⟩
  | _ => exact front

end Turns

section Runs

variable {migrations : List Migration} {n : Nat}

/-- What holds of the database and of every process, whatever the versions. -/
structure Sound (migrations : List Migration) (system : Processes.System Database Phase n) : Prop
    where
  consistent : Consistent migrations system.store
  follows : ∀ i, Follows migrations system.store (system.process i)

theorem fresh_sound (migrations : List Migration) (n : Nat) : Sound migrations (fresh n) :=
  ⟨⟨rfl, List.nodup_nil, by simp [fresh]⟩, fun _ => trivial⟩

theorem step_sound (system : Processes.System Database Phase n) (turn : Fin n × Action)
    (sound : Sound migrations system) :
    Sound migrations (Processes.step (act migrations) system turn).1 := by
  have acted := act_turn migrations system.store (system.process turn.1) turn.2
  have mine := sound.follows turn.1
  refine ⟨acted.consistent mine sound.consistent, ?_⟩
  intro i
  by_cases own : i = turn.1
  · rw [own]
    simp only [Processes.step, Function.update_self]
    exact acted.follows mine
  · simp only [Processes.step, Function.update_of_ne own]
    exact (sound.follows i).mono acted.grows

theorem after_sound (migrations : List Migration) (turns : List (Fin n × Action)) :
    Sound migrations (after migrations turns) :=
  Runs.final_invariant _ (Sound migrations) (fun _ => True)
    (fun system turn _ sound => step_sound system turn sound) turns (fresh n)
    (fresh_sound migrations n) (fun _ _ => trivial)

theorem after_inOrder (distinct : (migrations.map Migration.version).Nodup)
    (turns : List (Fin n × Action)) : (after migrations turns).store.committed <+: migrations := by
  have both := Runs.final_invariant (Processes.step (act migrations))
    (fun system : Processes.System Database Phase n =>
      Sound migrations system ∧ system.store.committed <+: migrations) (fun _ => True)
    (fun system turn _ holds => by
      have acted := act_turn migrations system.store (system.process turn.1) turn.2
      refine ⟨step_sound system turn holds.1, ?_⟩
      exact acted.inOrder (holds.1.follows turn.1) holds.1.consistent distinct holds.2)
    turns (fresh n) ⟨fresh_sound migrations n, List.nil_prefix⟩ (fun _ _ => trivial)
  exact both.2

end Runs

section Orders

variable {digit : Char → Bool} {directory : List String} {n : Nat}

theorem discovered_nodup (distinct : DistinctVersions digit directory) :
    ((discoverMigrations digit directory).map Migration.version).Nodup := by
  rw [List.Nodup, List.pairwise_map]
  apply (discoverMigrations_sorted digit directory).imp_of_mem
  intro first second firstMember secondMember less same
  obtain ⟨firstListed, key, keyed, firstVersion, firstName⟩ := mem_discoverMigrations firstMember
  obtain ⟨listed, other, otherKeyed, version, name⟩ := mem_discoverMigrations secondMember
  have file := distinct _ firstListed _ listed _ (discovered_version firstMember)
    (same ▸ discovered_version secondMember)
  rw [file, otherKeyed] at keyed
  cases keyed
  rw [firstVersion, firstName, version, name] at less
  exact absurd less (lt_irrefl _)

/-- Equal-width decimal versions are discovered in the order of their numbers. -/
theorem discovered_numbers {width : Nat} (distinct : DistinctVersions digit directory)
    (decimal : ∀ file ∈ directory, ∀ version ∈ fileVersion digit file,
      version.length = width ∧ ∀ char ∈ version.toList, char.isDigit = true) :
    (discoverMigrations digit directory).Pairwise fun first second =>
      versionNumber first.version < versionNumber second.version := by
  have unequal := List.pairwise_map.mp (discovered_nodup distinct)
  apply ((discoverMigrations_sorted digit directory).and unequal).imp_of_mem
  intro first second firstMember secondMember both
  have firstDecimal := decimal _ (mem_discoverMigrations firstMember).1 _
    (discovered_version firstMember)
  have secondDecimal := decimal _ (mem_discoverMigrations secondMember).1 _
    (discovered_version secondMember)
  have same : first.version.toList.length = second.version.toList.length := by
    rw [String.length_toList, String.length_toList, firstDecimal.1, secondDecimal.1]
  apply ofDigitChars_lt same firstDecimal.2 secondDecimal.2
  apply lt_of_append_lt same _ both.1
  intro equal
  exact both.2 (String.toList_inj.mp equal)

/-- At every instant the recorded versions are those of the files whose SQL is committed, each
committed once, and these are the first ones in the order of the versions. -/
theorem committed_in_order (digit : Char → Bool) (directory : List String) (width n : Nat)
    (turns : List (Fin n × Action)) (distinct : DistinctVersions digit directory)
    (decimal : ∀ file ∈ directory, ∀ version ∈ fileVersion digit file,
      version.length = width ∧ ∀ char ∈ version.toList, char.isDigit = true) :
    (after (discoverMigrations digit directory) turns).store.rows =
        (after (discoverMigrations digit directory) turns).store.committed.map
          (fun migration => (migration.version, migration.name)) ∧
      (after (discoverMigrations digit directory) turns).store.committed.Nodup ∧
      (after (discoverMigrations digit directory) turns).store.committed <+:
        discoverMigrations digit directory ∧
      (discoverMigrations digit directory).Pairwise fun first second =>
        versionNumber first.version < versionNumber second.version := by
  have sound := after_sound (discoverMigrations digit directory) turns
  refine ⟨sound.consistent.rows, ?_, ?_, discovered_numbers distinct decimal⟩
  · apply List.Nodup.of_map Migration.version
    rw [← sound.consistent.versions]
    exact sound.consistent.once
  · exact after_inOrder (discovered_nodup distinct) turns

/-- Two processes read the table before the first commit; the slower one then fails. -/
theorem committed_in_order_two :
    let turns : List (Fin 2 × Action) := [(0, .connect), (1, .connect), (0, .ensureMigrationsTable),
      (1, .ensureMigrationsTable), (0, .appliedVersions), (1, .appliedVersions), (1, .advance),
      (0, .advance), (1, .advance)]
    let migrations := discoverMigrations Char.isDigit ["021_b.up.sql", "020_a.up.sql"]
    ((after migrations turns).process 0 = .failed ∧
      (after migrations turns).store.rows = [("020", "a"), ("021", "b")]) ∧
    (after migrations turns).store.committed <+: migrations := by
  have second : fileVersion Char.isDigit "021_b.up.sql" = some "021" := by decide +kernel
  have first : fileVersion Char.isDigit "020_a.up.sql" = some "020" := by decide +kernel
  have decimal : ∀ file ∈ ["021_b.up.sql", "020_a.up.sql"], ∀ version ∈ fileVersion Char.isDigit file,
      version.length = 3 ∧ ∀ char ∈ version.toList, char.isDigit = true := by
    simp only [List.forall_mem_cons, first, second, Option.mem_some_iff, forall_eq']
    exact ⟨⟨by decide, List.all_eq_true.mp (by decide)⟩, ⟨by decide, List.all_eq_true.mp (by decide)⟩,
      List.forall_mem_nil _⟩
  have ordered := committed_in_order Char.isDigit ["021_b.up.sql", "020_a.up.sql"] 3 2
    [(0, .connect), (1, .connect), (0, .ensureMigrationsTable), (1, .ensureMigrationsTable),
      (0, .appliedVersions), (1, .appliedVersions), (1, .advance), (0, .advance), (1, .advance)]
    (by decide +kernel) decimal
  exact ⟨by decide +kernel, ordered.2.2.1⟩

end Orders

section Returns

variable {migrations : List Migration} {n : Nat} {system : Processes.System Database Phase n}
  {i : Fin n}

theorem after_append (turns more : List (Fin n × Action)) :
    after migrations (turns ++ more) =
      Runs.final (Processes.step (act migrations)) (after migrations turns) more :=
  Runs.final_append _ _ turns more

/-- A process that can be started. -/
def Phase.AtRest (phase : Phase) : Prop := phase = .idle ∨ phase = .failed

/-- A start of process `i`, up to the loop and past the first migrations of the list. -/
def attempt (i : Fin n) (passed : Nat) : List (Fin n × Action) :=
  [(i, .connect), (i, .ensureMigrationsTable), (i, .appliedVersions)] ++
    List.replicate passed (i, .advance)

/-- In the loop a process passes the migrations whose versions it has read. -/
theorem passes_existing (database : Database) (process : Fin n → Phase) (i : Fin n)
    (existing : List String) (done rest : List Migration)
    (known : ∀ migration ∈ done, migration.version ∈ existing) :
    Runs.final (Processes.step (act migrations))
        ⟨database, Function.update process i (.applying existing (done ++ rest) [])⟩
        (List.replicate done.length (i, .advance)) =
      ⟨database, Function.update process i (.applying existing rest [])⟩ := by
  induction done with
  | nil => rfl
  | cons migration done ih =>
      rw [List.forall_mem_cons] at known
      rw [List.length_cons, List.replicate_succ, Runs.final_cons]
      have passed : (Processes.step (act migrations) ⟨database, Function.update process i
          (.applying existing (migration :: done ++ rest) [])⟩ (i, Action.advance)).1 =
            ⟨database, Function.update process i (.applying existing (done ++ rest) [])⟩ := by
        simp only [Processes.step, Function.update_self, List.cons_append, act, known.1,
          if_true, Function.update_idem]
      rw [passed]
      exact ih known.2

theorem attempt_reaches {done rest : List Migration} (rests : (system.process i).AtRest)
    (split : migrations = done ++ rest)
    (recorded : ∀ migration ∈ done, migration.version ∈ system.store.versions) :
    Runs.final (Processes.step (act migrations)) system (attempt i done.length) =
      ⟨system.store, Function.update system.process i
        (.applying system.store.versions rest [])⟩ := by
  have opened : Runs.final (Processes.step (act migrations)) system
      [(i, .connect), (i, .ensureMigrationsTable), (i, .appliedVersions)] =
        ⟨system.store, Function.update system.process i
          (.applying system.store.versions migrations [])⟩ := by
    rcases rests with phase | phase <;>
      simp only [Runs.final_cons, Runs.final_nil, Processes.step, phase, act,
        Function.update_self, Function.update_idem]
  rw [attempt, Runs.final_append, opened]
  nth_rewrite 2 [split]
  exact passes_existing system.store system.process i system.store.versions done rest recorded

/-- Runs that stop after each commit record every version, also one that two files have. -/
theorem records_all (migrations : List Migration) (i : Fin n) (rest : List Migration) :
    ∀ (done : List Migration) (turns : List (Fin n × Action)), migrations = done ++ rest →
      ((after migrations turns).process i).AtRest →
      (∀ migration ∈ done, migration.version ∈ (after migrations turns).store.versions) →
      ∃ turns : List (Fin n × Action), ((after migrations turns).process i).AtRest ∧
        ∀ migration ∈ migrations, migration.version ∈ (after migrations turns).store.versions := by
  induction rest with
  | nil =>
      intro done turns split rests recorded
      rw [List.append_nil] at split
      rw [split] at rests recorded ⊢
      exact ⟨turns, rests, recorded⟩
  | cons migration rest ih =>
      intro done turns split rests recorded
      have further : migrations = (done ++ [migration]) ++ rest := by
        rw [split, List.append_assoc, List.singleton_append]
      by_cases known : migration.version ∈ (after migrations turns).store.versions
      · refine ih _ turns further rests ?_
        exact List.forall_mem_append.mpr ⟨recorded, List.forall_mem_singleton.mpr known⟩
      · let next : Database := ⟨(after migrations turns).store.rows ++
          [(migration.version, migration.name)], (after migrations turns).store.committed ++
          [migration]⟩
        have stored : (after migrations turns).store.apply migration = some next := if_neg known
        have reached : after migrations (turns ++ (attempt i done.length ++
            [(i, .commitThenStop)])) =
              ⟨next, Function.update (after migrations turns).process i .failed⟩ := by
          rw [after_append, Runs.final_append, attempt_reaches rests split recorded]
          simp only [Runs.final_cons, Runs.final_nil, Processes.step, Function.update_self, act,
            if_neg known, stored, Option.getD_some, Function.update_idem]
        refine ih _ (turns ++ (attempt i done.length ++ [(i, .commitThenStop)])) further ?_ ?_
        · rw [reached]
          exact Or.inr (by simp only [Function.update_self])
        · rw [reached]
          refine List.forall_mem_append.mpr ⟨?_, List.forall_mem_singleton.mpr ?_⟩
          · exact fun earlier member => apply_grows stored _ (recorded earlier member)
          · rw [versions_apply stored]
            exact List.mem_append_right _ (List.mem_singleton.mpr rfl)

/-- Some runs end in a normal return, whatever the files are. -/
theorem exists_returned (migrations : List Migration) (i : Fin n) :
    ∃ turns : List (Fin n × Action), (after migrations turns).process i = .returned [] := by
  obtain ⟨turns, rests, recorded⟩ := records_all migrations i migrations [] [] rfl (Or.inl rfl)
    (by simp)
  refine ⟨turns ++ (attempt i migrations.length ++ [(i, .advance)]), ?_⟩
  rw [after_append, Runs.final_append,
    attempt_reaches rests (List.append_nil _).symm recorded]
  simp only [Runs.final_cons, Runs.final_nil, Processes.step, Function.update_self, act]

/-- A normal return means that every up file has been committed, exactly when no two of the files
have one version. -/
theorem returned_commits_all_iff (digit : Char → Bool) (directory : List String) (n : Nat) :
    (∀ (turns : List (Fin (n + 1) × Action)) (i : Fin (n + 1)) (applied : List String),
      (after (discoverMigrations digit directory) turns).process i = .returned applied →
        ∀ file ∈ directory, (fileVersion digit file).isSome →
          file ∈ (after (discoverMigrations digit directory) turns).store.committed.map
            Migration.upPath) ↔
      DistinctVersions digit directory := by
  constructor
  · intro nothingSkipped file listed other otherListed version fileHas otherHas
    obtain ⟨turns, returned⟩ := exists_returned (discoverMigrations digit directory) (0 : Fin (n + 1))
    have committed := nothingSkipped turns 0 [] returned
    have consistent := (after_sound (discoverMigrations digit directory) turns).consistent
    have once := consistent.once
    rw [consistent.versions] at once
    obtain ⟨first, firstCommitted, rfl⟩ := List.mem_map.mp
      (committed file listed (Option.isSome_of_mem fileHas))
    obtain ⟨second, secondCommitted, rfl⟩ := List.mem_map.mp
      (committed other otherListed (Option.isSome_of_mem otherHas))
    rw [discovered_version (consistent.known first firstCommitted)] at fileHas
    rw [discovered_version (consistent.known second secondCommitted)] at otherHas
    have same : first.version = second.version := by
      rw [Option.mem_some_iff.mp fileHas, Option.mem_some_iff.mp otherHas]
    rw [List.inj_on_of_nodup_map once firstCommitted secondCommitted same]
  · intro distinct turns i applied returned file listed isUp
    obtain ⟨version, has⟩ := Option.isSome_iff_exists.mp isUp
    have sound := after_sound (discoverMigrations digit directory) turns
    have recorded := sound.follows i
    rw [returned] at recorded
    obtain ⟨migration, member, rfl⟩ := discovered_of_file listed has
    have committed := sound.consistent.committed_of_version (discovered_nodup distinct) member
      (recorded migration member)
    have path := distinct _ (mem_discoverMigrations member).1 file listed _
      (discovered_version member) has
    exact List.mem_map.mpr ⟨migration, committed, path⟩

/-- Of two files of one version the first run commits one and fails on the other; the second run
finds the version recorded, passes over both and returns. -/
theorem returned_skips_second_file :
    let turns : List (Fin 1 × Action) := [(0, .connect), (0, .ensureMigrationsTable),
      (0, .appliedVersions), (0, .advance), (0, .advance), (0, .connect),
      (0, .ensureMigrationsTable), (0, .appliedVersions), (0, .advance), (0, .advance),
      (0, .advance)]
    let directory := ["020_a.up.sql", "020_b.up.sql"]
    let system := after (discoverMigrations Char.isDigit directory) turns
    (after (discoverMigrations Char.isDigit directory) (turns.take 5)).process 0 = .failed ∧
      system.process 0 = .returned [] ∧
      (fileVersion Char.isDigit "020_b.up.sql").isSome ∧
      system.store.committed.map Migration.upPath = ["020_a.up.sql"] := by
  decide +kernel

end Returns

end CollectMind.Registry.Migrations
