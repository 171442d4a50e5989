import CollectMind.Library.Truth
import CollectMind.Library.Checked

set_option autoImplicit false

/- Row-level security of PostgreSQL over one table: permissive and restrictive
policies, the statements they filter and check, and the isolation they yield.
`γ` is whatever of the session the policies read, `ρ` the type of rows. -/
namespace RowSecurity

open Sql

variable {γ ρ : Type}

inductive Command where
  | select
  | insert
  | update
  | delete
  deriving DecidableEq, Repr

/-- One `CREATE POLICY`. Without a command it is `FOR ALL`; without a `WITH CHECK`
clause its `USING` clause checks new rows too. -/
structure Policy (γ ρ : Type) where
  permissive : Bool
  command : Option Command
  usingClause : γ → ρ → Truth
  withCheck : Option (γ → ρ → Truth)

def Policy.applies (policy : Policy γ ρ) (command : Command) : Bool :=
  policy.command.all (· == command)

def Policy.checkClause (policy : Policy γ ρ) : γ → ρ → Truth :=
  policy.withCheck.getD policy.usingClause

/-- Some permissive policy and every restrictive one, among those that apply. -/
def admits (clause : Policy γ ρ → γ → ρ → Truth) (policies : List (Policy γ ρ))
    (command : Command) (context : γ) (row : ρ) : Bool :=
  policies.any (fun policy => policy.permissive && policy.applies command &&
    (clause policy context row).holds) &&
  policies.all (fun policy => policy.permissive || !policy.applies command ||
    (clause policy context row).holds)

def admitsUsing (policies : List (Policy γ ρ)) (command : Command) (context : γ) (row : ρ) : Bool :=
  admits Policy.usingClause policies command context row

def admitsCheck (policies : List (Policy γ ρ)) (command : Command) (context : γ) (row : ρ) : Bool :=
  admits Policy.checkClause policies command context row

/-- What a `BEFORE ... FOR EACH ROW` trigger makes of its row; returning NULL skips it. -/
inductive Fired (ρ : Type) where
  | raise (message : String)
  | skip
  | keep (row : ρ)
  deriving DecidableEq, Repr

inductive Fault where
  | raised (message : String)
  | rowSecurity
  | constraint
  | aborted
  deriving DecidableEq, Repr

/-- A table as the statements see it: its policies and its row triggers. -/
structure Table (γ ρ : Type) where
  policies : List (Policy γ ρ)
  beforeUpdate : γ → ρ → ρ → Fired ρ
  beforeDelete : γ → ρ → Fired ρ

/-- The part of the session that decides how a statement runs. -/
structure Access (γ : Type) where
  enforced : Bool
  context : γ

variable (table : Table γ ρ) (access : Access γ)

def visible (rows : List ρ) : List ρ :=
  rows.filter (fun row => !access.enforced || admitsUsing table.policies .select access.context row)

/-- The rows an `UPDATE` or `DELETE` acts on. A statement that reads columns also
needs the `SELECT` policies. -/
def targeted (command : Command) (reads : Bool) (clause : ρ → Truth) (row : ρ) : Bool :=
  (!access.enforced || (admitsUsing table.policies command access.context row &&
    (!reads || admitsUsing table.policies .select access.context row))) && (clause row).holds

/-- The policies' verdict on the row an `UPDATE` is about to store. -/
def accepted (reads : Bool) (row : ρ) : Bool :=
  !access.enforced || (admitsCheck table.policies .update access.context row &&
    (!reads || admitsUsing table.policies .select access.context row))

def updateRow (reads : Bool) (clause : ρ → Truth) (set : ρ → ρ) (row : ρ) : Except Fault ρ :=
  if targeted table access .update reads clause row then
    match table.beforeUpdate access.context row (set row) with
    | .raise message => .error (.raised message)
    | .skip => .ok row
    | .keep new => if accepted table access reads new then .ok new else .error .rowSecurity
  else .ok row

def update (reads : Bool) (clause : ρ → Truth) (set : ρ → ρ) (rows : List ρ) :
    Except Fault (List ρ) :=
  rows.mapM (updateRow table access reads clause set)

/-- An `UPDATE` with the `CHECK` constraints of the rows that it stores. -/
def updateChecked (checked : ρ → Bool) (reads : Bool) (clause : ρ → Truth) (set : ρ → ρ)
    (rows : List ρ) : Except Fault (List ρ) := do
  let next ← update table access reads clause set rows
  if rows.any fun row => targeted table access .update reads clause row && !checked (set row) then
    .error .constraint
  else return next

/-- What is left of one row after a `DELETE`. -/
def deleteRow (reads : Bool) (clause : ρ → Truth) (row : ρ) : Except Fault (Option ρ) :=
  if targeted table access .delete reads clause row then
    match table.beforeDelete access.context row with
    | .raise message => .error (.raised message)
    | .skip => .ok (some row)
    | .keep _ => .ok none
  else .ok (some row)

def delete (reads : Bool) (clause : ρ → Truth) (rows : List ρ) : Except Fault (List ρ) :=
  (rows.mapM (deleteRow table access reads clause)).map (·.filterMap id)

inductive OnConflict (ρ : Type) where
  | fail
  | doNothing (conflicts : ρ → ρ → Bool)
  | doUpdate (conflicts : ρ → ρ → Bool) (set : ρ → ρ → ρ)

/-- The `DO UPDATE` arm: a conflicting row the policies hide is an error, not a skip. -/
def upsertRow (conflicts : ρ → ρ → Bool) (set : ρ → ρ → ρ) (new row : ρ) : Except Fault ρ :=
  if conflicts new row then
    if access.enforced && !admitsUsing table.policies .update access.context row then
      .error .rowSecurity
    else updateRow table access false (fun _ => some true) (set new) row
  else .ok row

def insertRow (onConflict : OnConflict ρ) (rows : List ρ) (new : ρ) : Except Fault (List ρ) :=
  if access.enforced && !admitsCheck table.policies .insert access.context new then
    .error .rowSecurity
  else
    match onConflict with
    | .fail => .ok (rows ++ [new])
    | .doNothing conflicts => if rows.any (conflicts new) then .ok rows else .ok (rows ++ [new])
    | .doUpdate conflicts set =>
      if rows.any (conflicts new) then rows.mapM (upsertRow table access conflicts set new)
      else .ok (rows ++ [new])

def insert (onConflict : OnConflict ρ) (rows news : List ρ) : Except Fault (List ρ) :=
  news.foldlM (insertRow table access onConflict) rows

/-- A plain insert that succeeds appends its row. -/
theorem insertRow_fail_ok {table : Table γ ρ} {access : Access γ} {rows next : List ρ} {new : ρ}
    (success : insertRow table access .fail rows new = .ok next) : next = rows ++ [new] := by
  unfold insertRow at success
  split at success
  · cases success
  · cases success
    rfl

/-- A row is inserted only where the policies admit it. -/
theorem insertRow_admitted {table : Table γ ρ} {access : Access γ} {onConflict : OnConflict ρ}
    {rows next : List ρ} {new : ρ} (enforced : access.enforced = true)
    (success : insertRow table access onConflict rows new = .ok next) :
    admitsCheck table.policies .insert access.context new = true := by
  unfold insertRow at success
  split at success
  · cases success
  · rename_i admitted
    simpa [enforced] using admitted

/-- An insert that does nothing on a conflict appends its row unless there is one. -/
theorem insertRow_doNothing_ok {table : Table γ ρ} {access : Access γ} {conflicts : ρ → ρ → Bool}
    {rows next : List ρ} {new : ρ}
    (success : insertRow table access (.doNothing conflicts) rows new = .ok next) :
    next = if rows.any (conflicts new) then rows else rows ++ [new] := by
  unfold insertRow at success
  split at success
  · cases success
  · dsimp only at success
    split at success <;>
      · rename_i conflict
        cases success
        simp only [conflict, if_true, Bool.false_eq_true, if_false]

/-- A plain insert that the policies admit succeeds. -/
theorem insertRow_fail {table : Table γ ρ} {access : Access γ} {rows : List ρ} {new : ρ}
    (admitted : admitsCheck table.policies .insert access.context new = true) :
    insertRow table access .fail rows new = .ok (rows ++ [new]) := by
  simp [insertRow, admitted]

theorem admits_false_of_no_permissive (clause : Policy γ ρ → γ → ρ → Truth)
    (policies : List (Policy γ ρ)) (command : Command) (context : γ) (row : ρ)
    (denied : ∀ policy ∈ policies, policy.permissive = true → policy.applies command = false) :
    admits clause policies command context row = false := by
  have nobody : policies.any (fun policy => policy.permissive && policy.applies command &&
      (clause policy context row).holds) = false := by
    rw [List.any_eq_false]
    intro policy member allowed
    simp only [Bool.and_eq_true] at allowed
    rw [denied policy member allowed.1.1] at allowed
    exact absurd allowed.1.2 (by decide)
  rw [admits, nobody, Bool.false_and]

theorem admits_restrictive {clause : Policy γ ρ → γ → ρ → Truth} {policies : List (Policy γ ρ)}
    {command : Command} {context : γ} {row : ρ}
    (admitted : admits clause policies command context row = true)
    {policy : Policy γ ρ} (member : policy ∈ policies) (restrictive : policy.permissive = false)
    (applies : policy.applies command = true) : clause policy context row = some true := by
  rw [admits, Bool.and_eq_true, List.all_eq_true] at admitted
  have held := admitted.2 policy member
  simpa [restrictive, applies] using held

theorem delete_of_kept {table : Table γ ρ} {access : Access γ} {reads : Bool} {clause : ρ → Truth}
    {rows : List ρ}
    (kept : ∀ row ∈ rows, deleteRow table access reads clause row = .ok (some row)) :
    delete table access reads clause rows = .ok rows := by
  have traversed : rows.mapM (deleteRow table access reads clause) = .ok (rows.map some) := by
    apply (Checked.mapM_ok_iff _ _ _).mpr
    rw [List.forall₂_map_right_iff, List.forall₂_same]
    exact kept
  rw [delete, traversed]
  simp [Except.map]

theorem delete_ok {table : Table γ ρ} {access : Access γ} {reads : Bool} {clause : ρ → Truth}
    {rows results : List ρ} (success : delete table access reads clause rows = .ok results) :
    ∃ remains, List.Forall₂ (fun row left => deleteRow table access reads clause row = .ok left)
      rows remains ∧ remains.filterMap id = results := by
  rw [delete] at success
  cases traversed : rows.mapM (deleteRow table access reads clause) with
  | error fault =>
      rw [traversed] at success
      cases success
  | ok remains =>
      rw [traversed] at success
      cases success
      exact ⟨remains, (Checked.mapM_ok_iff _ _ _).mp traversed, rfl⟩

/-- Where the trigger lets it, a `DELETE` removes its rows. -/
theorem delete_eq_filter {table : Table γ ρ} {access : Access γ} {reads : Bool}
    {clause : ρ → Truth} (keeps : ∀ row, table.beforeDelete access.context row = .keep row)
    (rows : List ρ) :
    delete table access reads clause rows =
      .ok (rows.filter fun row => !targeted table access .delete reads clause row) := by
  have traversed : rows.mapM (deleteRow table access reads clause) = .ok (rows.map fun row =>
      if targeted table access .delete reads clause row then none else some row) := by
    apply (Checked.mapM_ok_iff _ _ _).mpr
    rw [List.forall₂_map_right_iff, List.forall₂_same]
    intro row _
    rw [deleteRow, keeps]
    split <;> rfl
  rw [delete, traversed]
  simp only [Except.map, List.filterMap_map, Except.ok.injEq]
  rw [← List.filterMap_eq_filter]
  apply List.filterMap_congr
  intro row _
  by_cases hit : targeted table access .delete reads clause row = true
  · simp [hit, Option.guard]
  · simp [hit, Option.guard]

/-- A trigger that raises on every targeted row fails an `UPDATE` that targets one. -/
theorem update_raises {table : Table γ ρ} {access : Access γ} {reads : Bool} {clause : ρ → Truth}
    (set : ρ → ρ) {rows : List ρ} {message : String}
    (raises : ∀ row new, table.beforeUpdate access.context row new = .raise message)
    (hit : ∃ row ∈ rows, targeted table access .update reads clause row = true) :
    ∃ fault, update table access reads clause set rows = .error fault := by
  obtain ⟨row, member, target⟩ := hit
  cases updated : update table access reads clause set rows with
  | error fault => exact ⟨fault, rfl⟩
  | ok results =>
      obtain ⟨result, _, success⟩ :=
        Checked.forall₂_exists ((Checked.mapM_ok_iff _ _ _).mp updated) member
      rw [updateRow, if_pos target, raises] at success
      cases success

theorem delete_raises {table : Table γ ρ} {access : Access γ} {reads : Bool} {clause : ρ → Truth}
    {rows : List ρ} {message : String}
    (raises : ∀ row, table.beforeDelete access.context row = .raise message)
    (hit : ∃ row ∈ rows, targeted table access .delete reads clause row = true) :
    ∃ fault, delete table access reads clause rows = .error fault := by
  obtain ⟨row, member, target⟩ := hit
  cases deleted : delete table access reads clause rows with
  | error fault => exact ⟨fault, rfl⟩
  | ok results =>
      obtain ⟨remains, traversed, _⟩ := delete_ok deleted
      obtain ⟨left, _, success⟩ := Checked.forall₂_exists traversed member
      rw [deleteRow, if_pos target, raises] at success
      cases success

/-- A `DELETE` whose trigger returns no row reports success and removes nothing. -/
theorem delete_skips {table : Table γ ρ} {access : Access γ}
    (skips : ∀ row, table.beforeDelete access.context row = .skip) (reads : Bool)
    (clause : ρ → Truth) (rows : List ρ) : delete table access reads clause rows = .ok rows := by
  apply delete_of_kept
  intro row _
  rw [deleteRow, skips]
  split <;> rfl

section Isolation

/- `mine` picks out the rows the session may touch. -/
variable {table access} {mine : ρ → Bool}

/-- The policies confine the session to its own rows. -/
structure Confines (table : Table γ ρ) (access : Access γ) (mine : ρ → Bool) : Prop where
  enforced : access.enforced = true
  onUsing : ∀ command row,
    admitsUsing table.policies command access.context row = true → mine row = true
  onCheck : ∀ command row,
    admitsCheck table.policies command access.context row = true → mine row = true

theorem Confines.visible_mine (confines : Confines table access mine) (rows : List ρ) :
    ∀ row ∈ visible table access rows, mine row = true := by
  intro row member
  rw [visible, List.mem_filter, confines.enforced] at member
  exact confines.onUsing .select row (by simpa using member.2)

theorem Confines.targeted_mine (confines : Confines table access mine) {command : Command}
    {reads : Bool} {clause : ρ → Truth} {row : ρ}
    (hit : targeted table access command reads clause row = true) : mine row = true := by
  rw [targeted, confines.enforced] at hit
  simp only [Bool.not_true, Bool.false_or, Bool.and_eq_true] at hit
  exact confines.onUsing command row hit.1.1

/-- One row of an `UPDATE`: untouched, or the session's own before and after. -/
theorem Confines.updateRow_frame (confines : Confines table access mine) {reads : Bool}
    {clause : ρ → Truth} {set : ρ → ρ} {row result : ρ}
    (success : updateRow table access reads clause set row = .ok result) :
    result = row ∨ mine row = true ∧ mine result = true := by
  unfold updateRow at success
  split at success
  · rename_i hit
    split at success
    · cases success
    · cases success
      exact Or.inl rfl
    · rename_i new fired
      split at success
      · rename_i ok
        cases success
        refine Or.inr ⟨confines.targeted_mine hit, ?_⟩
        rw [accepted, confines.enforced] at ok
        simp only [Bool.not_true, Bool.false_or, Bool.and_eq_true] at ok
        exact confines.onCheck .update _ ok.1
      · cases success
  · cases success
    exact Or.inl rfl

/-- Rows that differ only where both versions are the session's own have the same
foreign rows, in the same order. -/
theorem foreign_eq_of_forall₂ {rows results : List ρ}
    (pointwise : List.Forall₂ (fun row result => result = row ∨ mine row = true ∧ mine result = true)
      rows results) :
    results.filter (fun row => !mine row) = rows.filter (fun row => !mine row) := by
  induction pointwise with
  | nil => rfl
  | cons here _ ih =>
      rcases here with rfl | ⟨before, after⟩
      · simp only [List.filter_cons, ih]
      · simp only [List.filter_cons, before, after, Bool.not_true, Bool.false_eq_true,
          ↓reduceIte, ih]

theorem Confines.update_frame (confines : Confines table access mine) {reads : Bool}
    {clause : ρ → Truth} {set : ρ → ρ} {rows results : List ρ}
    (success : update table access reads clause set rows = .ok results) :
    List.Forall₂ (fun row result => result = row ∨ mine row = true ∧ mine result = true)
      rows results :=
  ((Checked.mapM_ok_iff _ _ _).mp success).imp fun _ _ here => confines.updateRow_frame here

theorem Confines.deleteRow_frame (confines : Confines table access mine) {reads : Bool}
    {clause : ρ → Truth} {row : ρ} {left : Option ρ}
    (success : deleteRow table access reads clause row = .ok left) :
    left = some row ∨ mine row = true ∧ left = none := by
  unfold deleteRow at success
  split at success
  · rename_i hit
    split at success
    · cases success
    · cases success
      exact Or.inl rfl
    · cases success
      exact Or.inr ⟨confines.targeted_mine hit, rfl⟩
  · cases success
    exact Or.inl rfl

/-- What a `DELETE` leaves: rows of the table in their order, every foreign one among them. -/
theorem Confines.delete_frame (confines : Confines table access mine) {reads : Bool}
    {clause : ρ → Truth} {rows results : List ρ}
    (success : delete table access reads clause rows = .ok results) :
    results.Sublist rows ∧
      results.filter (fun row => !mine row) = rows.filter (fun row => !mine row) := by
  obtain ⟨remains, traversed, rfl⟩ := delete_ok success
  clear success
  induction traversed with
  | nil => exact ⟨List.Sublist.slnil, rfl⟩
  | cons here _ ih =>
      rcases confines.deleteRow_frame here with rfl | ⟨own, rfl⟩
      · rw [List.filterMap_cons_some (f := id) rfl, List.filter_cons, List.filter_cons, ih.2]
        exact ⟨ih.1.cons_cons _, rfl⟩
      · rw [List.filterMap_cons_none (f := id) rfl, List.filter_cons, own]
        exact ⟨ih.1.cons _, ih.2⟩

theorem Confines.insertRow_mine (confines : Confines table access mine)
    {onConflict : OnConflict ρ} {rows results : List ρ} {new : ρ}
    (success : insertRow table access onConflict rows new = .ok results) : mine new = true := by
  exact confines.onCheck .insert new (insertRow_admitted confines.enforced success)

theorem Confines.insertRow_foreign (confines : Confines table access mine)
    {onConflict : OnConflict ρ} {rows results : List ρ} {new : ρ}
    (success : insertRow table access onConflict rows new = .ok results) :
    results.filter (fun row => !mine row) = rows.filter (fun row => !mine row) := by
  have own := confines.insertRow_mine success
  have appended : (rows ++ [new]).filter (fun row => !mine row) =
      rows.filter (fun row => !mine row) := by simp [own]
  unfold insertRow at success
  split at success
  · cases success
  · split at success
    · cases success
      exact appended
    · split at success
      · cases success
        rfl
      · cases success
        exact appended
    · rename_i conflicts set
      split at success
      · apply foreign_eq_of_forall₂
        refine ((Checked.mapM_ok_iff _ _ _).mp success).imp fun row result here => ?_
        unfold upsertRow at here
        split at here
        · split at here
          · cases here
          · exact confines.updateRow_frame here
        · cases here
          exact Or.inl rfl
      · cases success
        exact appended

/-- An `INSERT` adds no foreign row and changes none. -/
theorem Confines.insert_foreign (confines : Confines table access mine)
    {onConflict : OnConflict ρ} {rows news results : List ρ}
    (success : insert table access onConflict rows news = .ok results) :
    results.filter (fun row => !mine row) = rows.filter (fun row => !mine row) :=
  Checked.foldlM_ok_invariant (insertRow table access onConflict)
    (fun state => state.filter (fun row => !mine row) = rows.filter (fun row => !mine row)) news
    (fun _ _ _ _ step same => (confines.insertRow_foreign step).trans same) rows results rfl success

theorem Confines.insert_mine (confines : Confines table access mine)
    {onConflict : OnConflict ρ} {rows news results : List ρ}
    (success : insert table access onConflict rows news = .ok results) :
    ∀ new ∈ news, mine new = true := by
  intro new member
  obtain ⟨before, after, step⟩ :=
    Checked.foldlM_ok_each (insertRow table access onConflict) news rows results success new member
  exact confines.insertRow_mine step

end Isolation

section ReadOnly

variable {table access}

/-- No permissive policy lets a subject session use `command` on the table. -/
def Denies (table : Table γ ρ) (command : Command) : Prop :=
  ∀ policy ∈ table.policies, policy.permissive = true → policy.applies command = false

theorem targeted_false_of_denies (enforced : access.enforced = true) {command : Command}
    (denied : Denies table command) (reads : Bool) (clause : ρ → Truth) (row : ρ) :
    targeted table access command reads clause row = false := by
  have unadmitted := admits_false_of_no_permissive Policy.usingClause table.policies command
    access.context row denied
  simp only [targeted, admitsUsing, enforced, unadmitted, Bool.not_true, Bool.false_or,
    Bool.false_and]

theorem update_of_denies (enforced : access.enforced = true) (denied : Denies table .update)
    (reads : Bool) (clause : ρ → Truth) (set : ρ → ρ) (rows : List ρ) :
    update table access reads clause set rows = .ok rows := by
  refine (Checked.mapM_ok_iff _ _ _).mpr (List.forall₂_same.mpr ?_)
  intro row _
  rw [updateRow, targeted_false_of_denies enforced denied]
  rfl

theorem delete_of_denies (enforced : access.enforced = true) (denied : Denies table .delete)
    (reads : Bool) (clause : ρ → Truth) (rows : List ρ) :
    delete table access reads clause rows = .ok rows := by
  apply delete_of_kept
  intro row _
  rw [deleteRow, targeted_false_of_denies enforced denied]
  rfl

theorem insert_of_denies (enforced : access.enforced = true) (denied : Denies table .insert)
    {onConflict : OnConflict ρ} {rows news results : List ρ}
    (success : insert table access onConflict rows news = .ok results) :
    news = [] ∧ results = rows := by
  cases news with
  | nil =>
      cases success
      exact ⟨rfl, rfl⟩
  | cons new rest =>
      rw [insert, List.foldlM_cons, Checked.bind_ok_iff] at success
      obtain ⟨next, step, _⟩ := success
      have unadmitted := admits_false_of_no_permissive Policy.checkClause table.policies .insert
        access.context new denied
      simp [insertRow, admitsCheck, enforced, unadmitted] at step

end ReadOnly

end RowSecurity
