import CollectMind.Feedback.Worker

set_option autoImplicit false

/- The rule of feedback/evaluator.py on numbers: a majority of the observations, whatever their
order. -/
namespace CollectMind.Feedback

open Python

/-- The loop of `evaluate`, from the counts it has reached. -/
def tally (expectedThreshold : PyFloat) : List PyFloat → Nat → Nat → Nat × Nat
  | [], above, below => (above, below)
  | value :: rest, above, below =>
    if atLeast value expectedThreshold then tally expectedThreshold rest (above + 1) below
    else tally expectedThreshold rest above (below + 1)

theorem tally_eq (threshold : PyFloat) (values : List PyFloat) (above below : Nat) :
    tally threshold values above below =
      (above + values.countP (atLeast · threshold),
        below + (values.length - values.countP (atLeast · threshold))) := by
  induction values generalizing above below with
  | nil => rfl
  | cons value rest ih =>
      have bound : rest.countP (atLeast · threshold) ≤ rest.length := List.countP_le_length
      rw [tally, ih, ih, List.countP_cons, List.length_cons]
      by_cases reached : atLeast value threshold = true
      · rw [if_pos reached, if_pos reached, Prod.mk.injEq]
        omega
      · rw [if_neg reached, if_neg reached, Prod.mk.injEq]
        omega

/-- The rule compares and reports the two counts of its loop. -/
theorem evaluate_eq_tally (threshold : PyFloat) {values : List PyFloat} (observed : values ≠ []) :
    evaluate values threshold =
      { hypothesisState :=
          if (tally threshold values 0 0).1 ≥ (tally threshold values 0 0).2 ∧
            (tally threshold values 0 0).1 > 0 then "confirmed" else "ruled_out"
        signalsCollectedCount := values.length
        dataQualityScore := min 1 ((values.length : Rat) / 10)
        evidenceSummary := [("above_threshold", .int (tally threshold values 0 0).1),
          ("below_threshold", .int (tally threshold values 0 0).2)] } := by
  have counted : values.length ≠ 0 := by simpa using observed
  rw [evaluate, if_neg counted, tally_eq, Nat.zero_add, Nat.zero_add]

theorem evaluate_confirmed {threshold : PyFloat} {values : List PyFloat} (observed : values ≠ [])
    (all : ∀ value ∈ values, atLeast value threshold = true) :
    (evaluate values threshold).hypothesisState = "confirmed" := by
  have everyone : values.countP (atLeast · threshold) = values.length :=
    List.countP_eq_length.mpr all
  have counted := List.length_pos_of_ne_nil observed
  rw [evaluate_eq_tally threshold observed, tally_eq, everyone]
  apply if_pos
  dsimp only
  omega

theorem evaluate_ruledOut {threshold : PyFloat} {values : List PyFloat} (observed : values ≠ [])
    (none_reaches : ∀ value ∈ values, ¬ atLeast value threshold = true) :
    (evaluate values threshold).hypothesisState = "ruled_out" := by
  have nobody : values.countP (atLeast · threshold) = 0 := List.countP_eq_zero.mpr none_reaches
  rw [evaluate_eq_tally threshold observed, tally_eq, nobody]
  apply if_neg
  dsimp only
  omega

theorem evaluate_count (threshold : PyFloat) (values : List PyFloat) :
    (evaluate values threshold).signalsCollectedCount = values.length := by
  by_cases nothing : values = []
  · rw [nothing]
    rfl
  · rw [evaluate_eq_tally threshold nothing]

/-- The rule on exact numbers. -/
def verdict (values : List Rat) (threshold : Rat) : HypothesisOutcome :=
  evaluate (values.map .finite) (.finite threshold)

/-- The number of values at or above the threshold. -/
def above (values : List Rat) (threshold : Rat) : Nat := values.countP fun value => threshold ≤ value

/-- A count of the evidence; an outcome without data has none. -/
def HypothesisOutcome.counted (outcome : HypothesisOutcome) (key : String) : Int :=
  match outcome.evidenceSummary.get key with
  | some (.int count) => count
  | _ => 0

theorem above_le_length (values : List Rat) (threshold : Rat) :
    above values threshold ≤ values.length := List.countP_le_length

theorem above_append (first second : List Rat) (threshold : Rat) :
    above (first ++ second) threshold = above first threshold + above second threshold :=
  List.countP_append

theorem above_mono {values raised : List Rat} {threshold lowered : Rat}
    (raise : List.Forall₂ (· ≤ ·) values raised) (lower : lowered ≤ threshold) :
    above values threshold ≤ above raised lowered := by
  induction raise with
  | nil => exact Nat.le_refl 0
  | @cons value higher values raised step _ ih =>
      rw [above, above, List.countP_cons, List.countP_cons]
      have kept : threshold ≤ value → lowered ≤ higher :=
        fun reached => lower.trans (reached.trans step)
      rw [above, above] at ih
      by_cases reached : threshold ≤ value
      · simp only [reached, kept reached, decide_true, ↓reduceIte]
        omega
      · simp only [reached, decide_false, Bool.false_eq_true, ↓reduceIte]
        omega

theorem countP_atLeast (values : List Rat) (threshold : Rat) :
    (values.map PyFloat.finite).countP (atLeast · (.finite threshold)) = above values threshold := by
  rw [List.countP_map]
  rfl

theorem verdict_nil (threshold : Rat) : verdict [] threshold = ⟨"no_data", 0, 0, []⟩ := rfl

/-- What the rule answers when there is something to count. -/
theorem verdict_eq (threshold : Rat) {values : List Rat} (observed : values ≠ []) :
    verdict values threshold =
      { hypothesisState :=
          if values.length ≤ 2 * above values threshold then "confirmed" else "ruled_out"
        signalsCollectedCount := values.length
        dataQualityScore := min 1 ((values.length : Rat) / 10)
        evidenceSummary := [("above_threshold", .int (above values threshold)),
          ("below_threshold", .int (values.length - above values threshold : Nat))] } := by
  have counted : values.length ≠ 0 := by simpa using observed
  have bound := above_le_length values threshold
  -- A tie confirms; with something to count, half of it is not nothing.
  have majority : (above values threshold ≥ values.length - above values threshold ∧
      above values threshold > 0) ↔ values.length ≤ 2 * above values threshold := by omega
  rw [verdict, evaluate_eq_tally _ (by simpa using observed), tally_eq, List.length_map,
    countP_atLeast]
  simp only [Nat.zero_add, majority]

theorem verdict_noData_iff (values : List Rat) (threshold : Rat) :
    (verdict values threshold).hypothesisState = "no_data" ↔ values = [] := by
  constructor
  · intro state
    by_contra observed
    rw [verdict_eq threshold observed] at state
    dsimp only at state
    by_cases majority : values.length ≤ 2 * above values threshold
    · rw [if_pos majority] at state
      exact absurd state (by decide)
    · rw [if_neg majority] at state
      exact absurd state (by decide)
  · intro nothing
    rw [nothing]
    rfl

theorem verdict_confirmed_iff (values : List Rat) (threshold : Rat) :
    (verdict values threshold).hypothesisState = "confirmed" ↔
      values ≠ [] ∧ values.length ≤ 2 * above values threshold := by
  by_cases nothing : values = []
  · rw [nothing, verdict_nil]
    simp
  · rw [verdict_eq threshold nothing]
    by_cases majority : values.length ≤ 2 * above values threshold
    · simp [majority, nothing]
    · simp [majority]

theorem verdict_ruledOut_iff (values : List Rat) (threshold : Rat) :
    (verdict values threshold).hypothesisState = "ruled_out" ↔
      values ≠ [] ∧ 2 * above values threshold < values.length := by
  by_cases nothing : values = []
  · rw [nothing, verdict_nil]
    simp
  · rw [verdict_eq threshold nothing]
    by_cases majority : values.length ≤ 2 * above values threshold
    · simp [majority]
    · simp [majority, nothing]
      omega

/-- The laws of a majority rule that does not look at the order of what it counts. -/
structure MajorityRule (rule : List Rat → Rat → HypothesisOutcome) : Prop where
  noData : ∀ values threshold, (rule values threshold).hypothesisState = "no_data" ↔ values = []
  confirmed : ∀ values threshold, values ≠ [] → ((rule values threshold).hypothesisState =
    "confirmed" ↔ values.length ≤ 2 * above values threshold)
  ruledOut : ∀ values threshold, values ≠ [] →
    ¬ values.length ≤ 2 * above values threshold →
    (rule values threshold).hypothesisState = "ruled_out"
  reported : ∀ values threshold,
    (rule values threshold).counted "above_threshold" = above values threshold
  total : ∀ values threshold, (rule values threshold).counted "above_threshold" +
    (rule values threshold).counted "below_threshold" = values.length
  perm : ∀ first second threshold, List.Perm first second →
    rule first threshold = rule second threshold
  mono : ∀ values raised threshold lowered, List.Forall₂ (· ≤ ·) values raised →
    lowered ≤ threshold → (rule values threshold).hypothesisState = "confirmed" →
    (rule raised lowered).hypothesisState = "confirmed"
  append : ∀ first second threshold state, (rule first threshold).hypothesisState = state →
    (rule second threshold).hypothesisState = state →
    (rule (first ++ second) threshold).hypothesisState = state

theorem verdict_counted (values : List Rat) (threshold : Rat) :
    (verdict values threshold).counted "above_threshold" = above values threshold ∧
      (verdict values threshold).counted "below_threshold" =
        (values.length - above values threshold : Nat) := by
  by_cases nothing : values = []
  · rw [nothing]
    exact ⟨rfl, rfl⟩
  · rw [verdict_eq threshold nothing]
    exact ⟨rfl, rfl⟩

theorem verdict_perm {first second : List Rat} (same : first.Perm second) (threshold : Rat) :
    verdict first threshold = verdict second threshold := by
  have counts : above first threshold = above second threshold := same.countP_eq _
  by_cases nothing : first = []
  · rw [nothing] at same ⊢
    rw [same.nil_eq]
  · have observed : second ≠ [] := fun none => nothing (none ▸ same).eq_nil
    rw [verdict_eq threshold nothing, verdict_eq threshold observed, counts, same.length_eq]

theorem verdict_append {first second : List Rat} {threshold : Rat}
    (agree : (verdict first threshold).hypothesisState = (verdict second threshold).hypothesisState) :
    (verdict (first ++ second) threshold).hypothesisState =
      (verdict first threshold).hypothesisState := by
  by_cases nothing : first = []
  · rw [nothing, List.nil_append, ← agree, nothing]
  · by_cases majority : first.length ≤ 2 * above first threshold
    · have confirmed := (verdict_confirmed_iff first threshold).mpr ⟨nothing, majority⟩
      rw [confirmed] at agree ⊢
      have other := (verdict_confirmed_iff second threshold).mp agree.symm
      apply (verdict_confirmed_iff _ _).mpr
      rw [above_append, List.length_append]
      exact ⟨by simp [nothing], by omega⟩
    · have ruled := (verdict_ruledOut_iff first threshold).mpr ⟨nothing, by omega⟩
      rw [ruled] at agree ⊢
      have other := (verdict_ruledOut_iff second threshold).mp agree.symm
      apply (verdict_ruledOut_iff _ _).mpr
      rw [above_append, List.length_append]
      exact ⟨by simp [nothing], by omega⟩

/-- `BrakeWearHypothesisRule.evaluate` is a monotone majority rule that does not depend on the
order of the observations. -/
theorem evaluate_majorityRule :
    MajorityRule fun values threshold => evaluate (values.map .finite) (.finite threshold) := by
  change MajorityRule verdict
  constructor
  case noData => exact verdict_noData_iff
  case confirmed =>
    intro values threshold observed
    rw [verdict_confirmed_iff]
    exact ⟨fun both => both.2, fun majority => ⟨observed, majority⟩⟩
  case ruledOut =>
    intro values threshold observed minority
    apply (verdict_ruledOut_iff values threshold).mpr
    exact ⟨observed, by omega⟩
  case reported => exact fun values threshold => (verdict_counted values threshold).1
  case total =>
    intro values threshold
    have bound := above_le_length values threshold
    rw [(verdict_counted values threshold).1, (verdict_counted values threshold).2]
    omega
  case perm => exact fun first second threshold same => verdict_perm same threshold
  case mono =>
    intro values raised threshold lowered raise lower confirmed
    rw [verdict_confirmed_iff] at confirmed ⊢
    have length := raise.length_eq
    have more := above_mono raise lower
    refine ⟨?_, by omega⟩
    intro nothing
    rw [nothing] at length
    exact confirmed.1 (List.eq_nil_of_length_eq_zero length)
  case append =>
    intro first second threshold state one two
    rw [verdict_append (one.trans two.symm), one]

end CollectMind.Feedback
