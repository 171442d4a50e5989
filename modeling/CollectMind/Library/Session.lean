import Mathlib.Logic.Basic

set_option autoImplicit false

/- A PostgreSQL session: the role and the custom settings in force, and how
transactions, savepoints and errors move them. -/
namespace Session

/-- What a session carries. A setting is `none` until it is first set; once set it
reads as the empty string where it has no value. -/
structure Values where
  role : String
  settings : String → Option String

def Values.setRole (values : Values) (role : String) : Values := { values with role := role }

def Values.setConfig (values : Values) (name value : String) : Values :=
  { values with settings := fun other => if other = name then some value else values.settings other }

/-- Return to `target`; a setting touched since keeps its placeholder. -/
def Values.revertTo (values target : Values) : Values where
  role := target.role
  settings name :=
    (target.settings name).or ((values.settings name).map fun _ => "")

/-- `RESET ALL` clears every custom setting; it leaves the role alone. -/
def Values.resetAll (values : Values) : Values :=
  { values with settings := fun name => (values.settings name).map fun _ => "" }

/-- The values in force, and those the session keeps if all of it commits. -/
structure Frame where
  kept : Values
  current : Values

inductive State where
  | idle (values : Values)
  | active (before : Values) (frame : Frame) (savepoints : List Frame) (failed : Bool)

inductive Op where
  | begin
  | commit
  | rollback
  | savepoint
  | release (depth : Nat)
  | rollbackTo (depth : Nat)
  | setRole (role : String) (isLocal : Bool)
  | setConfig (name value : String) (isLocal : Bool)
  | resetAll
  | statement (fails : Bool)

def State.values : State → Values
  | .idle values => values
  | .active _ frame _ _ => frame.current

def State.failed : State → Bool
  | .idle _ => false
  | .active _ _ _ failed => failed

/-- A change of values, kept past a commit unless it is local. -/
def Frame.change (frame : Frame) (change : Values → Values) (isLocal : Bool) : Frame where
  kept := if isLocal then frame.kept else change frame.kept
  current := change frame.current

/-- Back to a savepoint's values. -/
def Frame.revertTo (frame target : Frame) : Frame where
  kept := frame.current.revertTo target.kept
  current := frame.current.revertTo target.current

/-- A change outside a transaction is a transaction of its own. -/
def State.change (state : State) (change : Values → Values) (isLocal : Bool) : State :=
  match state with
  | .idle values => .idle ((change values).revertTo (if isLocal then values else change values))
  | .active before frame savepoints false =>
    .active before (frame.change change isLocal) savepoints false
  | .active before frame savepoints true => .active before frame savepoints true

def State.finish (state : State) (commits : Bool) : State :=
  match state with
  | .idle values => .idle values
  | .active before frame _ failed =>
    .idle (frame.current.revertTo (if commits && !failed then frame.kept else before))

def State.fail : State → State
  | .idle values => .idle values
  | .active before frame savepoints _ => .active before frame savepoints true

def exec (state : State) : Op → State
  | .begin =>
    match state with
    | .idle values => .active values ⟨values, values⟩ [] false
    | active => active
  | .commit => state.finish true
  | .rollback => state.finish false
  | .savepoint =>
    match state with
    | .active before frame savepoints false =>
      .active before frame (frame :: savepoints) false
    | other => other
  | .release depth =>
    match state with
    | .active before frame savepoints false =>
      if depth < savepoints.length then
        .active before frame (savepoints.drop (depth + 1)) false
      else .active before frame savepoints true
    | other => other
  | .rollbackTo depth =>
    match state with
    | .idle values => .idle values
    | .active before frame savepoints _ =>
      match savepoints.drop depth with
      | [] => .active before frame savepoints true
      | target :: outer => .active before (frame.revertTo target) (target :: outer) false
  | .setRole role isLocal => state.change (·.setRole role) isLocal
  | .setConfig name value isLocal => state.change (·.setConfig name value) isLocal
  | .resetAll => state.change Values.resetAll false
  | .statement fails => if fails then state.fail else state

def run (state : State) (ops : List Op) : State := ops.foldl exec state

theorem run_append (state : State) (first second : List Op) :
    run state (first ++ second) = run (run state first) second := by
  rw [run, run, run, List.foldl_append]

theorem Values.revertTo_none (values : Values) {target : Values} {name : String}
    (absent : target.settings name = none) :
    (values.revertTo target).settings name = (values.settings name).map fun _ => "" := by
  simp only [Values.revertTo, absent, Option.none_or]

/-- Fresh connections: nothing set yet. -/
def fresh (role : String) : State := .idle ⟨role, fun _ => none⟩

@[simp] theorem Values.setConfig_same (values : Values) (name value : String) :
    (values.setConfig name value).settings name = some value := if_pos rfl

theorem Values.setConfig_other (values : Values) {name other : String} (value : String)
    (apart : other ≠ name) :
    (values.setConfig name value).settings other = values.settings other := if_neg apart

theorem Values.revertTo_some (values : Values) {target : Values} {name value : String}
    (present : target.settings name = some value) :
    (values.revertTo target).settings name = some value := by
  simp only [Values.revertTo, present, Option.some_or]

section Invariants

variable {good : Values → Prop}

/-- A condition that returning to good values restores. -/
def Reverts (good : Values → Prop) : Prop :=
  ∀ values target : Values, good target → good (values.revertTo target)

/-- The operation keeps the condition of the values in force. -/
def Op.Preserves (good : Values → Prop) : Op → Prop
  | .setRole role _ => ∀ values, good values → good (values.setRole role)
  | .setConfig name value _ => ∀ values, good values → good (values.setConfig name value)
  | .resetAll => ∀ values, good values → good values.resetAll
  | _ => True

/-- The operation keeps the condition of the values that outlive a transaction. -/
def Op.PreservesKept (good : Values → Prop) : Op → Prop
  | .setRole role false => ∀ values, good values → good (values.setRole role)
  | .setConfig name value false => ∀ values, good values → good (values.setConfig name value)
  | .resetAll => ∀ values, good values → good values.resetAll
  | _ => True

def Op.ends : Op → Bool
  | .commit => true
  | .rollback => true
  | _ => false

/-- The condition holds inside the open transaction, at every savepoint too. -/
def InForce (good : Values → Prop) : State → Prop
  | .idle _ => False
  | .active _ frame savepoints _ =>
    good frame.current ∧ ∀ savepoint ∈ savepoints, good savepoint.current

/-- The condition holds of whatever the session can return to. -/
def Kept (good : Values → Prop) : State → Prop
  | .idle values => good values
  | .active before frame savepoints _ =>
    good before ∧ good frame.kept ∧ ∀ savepoint ∈ savepoints, good savepoint.kept

theorem InForce.values {state : State} (inForce : InForce good state) : good state.values := by
  cases state with
  | idle values => exact inForce.elim
  | active before frame savepoints failed => exact inForce.1

theorem InForce.change {state : State} {change : Values → Values}
    (keeps : ∀ values, good values → good (change values)) (isLocal : Bool)
    (inForce : InForce good state) : InForce good (state.change change isLocal) := by
  cases state with
  | idle values => exact inForce.elim
  | active before frame savepoints failed =>
      cases failed with
      | false => exact ⟨keeps _ inForce.1, inForce.2⟩
      | true => exact inForce

theorem exec_inForce (reverts : Reverts good)
    (op : Op) (stays : op.ends = false) (keeps : op.Preserves good) (state : State)
    (inForce : InForce good state) : InForce good (exec state op) := by
  cases op with
  | commit => cases stays
  | rollback => cases stays
  | setRole role isLocal => exact inForce.change keeps isLocal
  | setConfig name value isLocal => exact inForce.change keeps isLocal
  | resetAll => exact inForce.change keeps false
  | begin =>
      cases state with
      | idle values => exact inForce.elim
      | active before frame savepoints failed => exact inForce
  | savepoint =>
      cases state with
      | idle values => exact inForce
      | active before frame savepoints failed =>
          cases failed with
          | false => exact ⟨inForce.1, List.forall_mem_cons.mpr inForce⟩
          | true => exact inForce
  | release depth =>
      cases state with
      | idle values => exact inForce
      | active before frame savepoints failed =>
          cases failed with
          | true => exact inForce
          | false =>
              simp only [exec]
              split
              · exact ⟨inForce.1, fun saved member => inForce.2 saved (List.mem_of_mem_drop member)⟩
              · exact inForce
  | rollbackTo depth =>
      cases state with
      | idle values => exact inForce
      | active before frame savepoints failed =>
          simp only [exec]
          split
          · exact inForce
          · rename_i target outer found
            have member : ∀ saved ∈ target :: outer, good saved.current := by
              intro saved inside
              exact inForce.2 saved (List.mem_of_mem_drop (found ▸ inside))
            exact ⟨reverts _ _ (member target (by simp)), member⟩
  | statement fails =>
      cases state with
      | idle values => exact inForce.elim
      | active before frame savepoints failed =>
          cases fails with
          | false => exact inForce
          | true => exact inForce

theorem run_inForce (reverts : Reverts good)
    (ops : List Op) (stays : ∀ op ∈ ops, op.ends = false ∧ op.Preserves good) (state : State)
    (inForce : InForce good state) : InForce good (run state ops) := by
  induction ops generalizing state with
  | nil => exact inForce
  | cons op rest ih =>
      have head := stays op (by simp)
      exact ih (fun next member => stays next (by simp [member])) _
        (exec_inForce reverts op head.1 head.2 state inForce)

theorem Kept.change (reverts : Reverts good)
    {state : State} {change : Values → Values} {isLocal : Bool}
    (keeps : isLocal = false → ∀ values, good values → good (change values))
    (kept : Kept good state) : Kept good (state.change change isLocal) := by
  have moved : ∀ values, good values → good (if isLocal then values else change values) := by
    intro values start
    cases isLocal with
    | true => exact start
    | false => exact keeps rfl values start
  cases state with
  | idle values => exact reverts _ _ (moved values kept)
  | active before frame savepoints failed =>
      cases failed with
      | false => exact ⟨kept.1, moved _ kept.2.1, kept.2.2⟩
      | true => exact kept

theorem Kept.finish (reverts : Reverts good)
    {state : State} (commits : Bool) (kept : Kept good state) : Kept good (state.finish commits) := by
  cases state with
  | idle values => exact kept
  | active before frame savepoints failed =>
      apply reverts
      split
      · exact kept.2.1
      · exact kept.1

theorem exec_kept (reverts : Reverts good)
    (op : Op) (keeps : op.PreservesKept good) (state : State) (kept : Kept good state) :
    Kept good (exec state op) := by
  cases op with
  | commit => exact kept.finish reverts true
  | rollback => exact kept.finish reverts false
  | setRole role isLocal =>
      exact kept.change reverts (by rintro rfl; exact keeps)
  | setConfig name value isLocal =>
      exact kept.change reverts (by rintro rfl; exact keeps)
  | resetAll => exact kept.change reverts fun _ => keeps
  | begin =>
      cases state with
      | idle values => exact ⟨kept, kept, by simp⟩
      | active before frame savepoints failed => exact kept
  | savepoint =>
      cases state with
      | idle values => exact kept
      | active before frame savepoints failed =>
          cases failed with
          | false => exact ⟨kept.1, kept.2.1, List.forall_mem_cons.mpr kept.2⟩
          | true => exact kept
  | release depth =>
      cases state with
      | idle values => exact kept
      | active before frame savepoints failed =>
          cases failed with
          | true => exact kept
          | false =>
              simp only [exec]
              split
              · exact ⟨kept.1, kept.2.1,
                  fun saved member => kept.2.2 saved (List.mem_of_mem_drop member)⟩
              · exact kept
  | rollbackTo depth =>
      cases state with
      | idle values => exact kept
      | active before frame savepoints failed =>
          simp only [exec]
          split
          · exact kept
          · rename_i target outer found
            have member : ∀ saved ∈ target :: outer, good saved.kept := by
              intro saved inside
              exact kept.2.2 saved (List.mem_of_mem_drop (found ▸ inside))
            exact ⟨kept.1, reverts _ _ (member target (by simp)), member⟩
  | statement fails =>
      cases state with
      | idle values => cases fails <;> exact kept
      | active before frame savepoints failed => cases fails <;> exact kept

theorem run_kept (reverts : Reverts good)
    (ops : List Op) (keeps : ∀ op ∈ ops, op.PreservesKept good) (state : State)
    (kept : Kept good state) : Kept good (run state ops) := by
  induction ops generalizing state with
  | nil => exact kept
  | cons op rest ih =>
      exact ih (fun next member => keeps next (by simp [member])) _
        (exec_kept reverts op (keeps op (by simp)) state kept)

end Invariants

end Session
