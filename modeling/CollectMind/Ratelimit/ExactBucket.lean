import CollectMind.Ratelimit.Waiting
import Mathlib.Algebra.Order.Field.Rat
import Mathlib.Tactic.FieldSimp

set_option autoImplicit false

/- The bucket as the design describes it, with fractions of a token, beside the script. The two
need not decide alike: the script may let in now what the exact bucket lets in later, and then
refuse what the exact bucket allows. -/
namespace CollectMind.TokenBucket

open ExpiringStore

structure ExactBucket where
  tokens : Rat
  lastMs : Int

/-- The level at a time, before a call is decided. -/
def ExactBucket.refill (sustainedRps burstCapacity : Int) (bucket : ExactBucket) (nowMs : Int) :
    Rat :=
  min burstCapacity (bucket.tokens + (nowMs - bucket.lastMs) * sustainedRps / 1000)

def exactCall (sustainedRps burstCapacity : Int) (bucket : ExactBucket) (moment : Moment) :
    ExactBucket × Bool :=
  let refill := bucket.refill sustainedRps burstCapacity moment.nowMs
  if 1 ≤ refill then (⟨refill - 1, moment.nowMs⟩, true) else (⟨refill, moment.nowMs⟩, false)

/-- What a stored bucket is worth at a time, in thousandths of a token: its tokens and the time
that no refill has accounted for. -/
def credit (sustainedRps nowMs : Int) (bucket : Bucket) : Int :=
  1000 * bucket.tokens + sustainedRps * (nowMs - bucket.lastRefillMs)

/-- A refill loses nothing but what the capacity cuts off. -/
theorem applyRefill_credit {sustainedRps nowMs : Int} (burstCapacity : Int) {bucket : Bucket}
    (positive : 1 ≤ sustainedRps) (past : bucket.lastRefillMs ≤ nowMs) :
    credit sustainedRps nowMs bucket ≤
        credit sustainedRps nowMs (applyRefill bucket nowMs sustainedRps burstCapacity) ∨
      1000 * burstCapacity ≤
        credit sustainedRps nowMs (applyRefill bucket nowMs sustainedRps burstCapacity) := by
  have forward : ¬ nowMs - bucket.lastRefillMs < 0 := by omega
  have covered := covered_le_elapsed positive (nowMs - bucket.lastRefillMs)
  simp only [applyRefill, refillOf, forward, ↓reduceIte, credit]
  generalize (nowMs - bucket.lastRefillMs) * sustainedRps / 1000 = refill at covered ⊢
  split
  · dsimp only
    have booked := Int.mul_ediv_self_le (x := refill * 1000) (k := sustainedRps) (by omega)
    have unbooked : 0 ≤ sustainedRps *
        (nowMs - bucket.lastRefillMs - refill * 1000 / sustainedRps) :=
      Int.mul_nonneg (by omega) (by omega)
    by_cases cut : burstCapacity ≤ bucket.tokens + refill
    · right
      rw [min_eq_left cut]
      linarith
    · left
      rw [min_eq_right (by omega)]
      linarith
  · left
    exact le_refl _

/-- A call that is denied leaves less than a token's worth. -/
theorem applyRefill_short {sustainedRps burstCapacity nowMs : Int} {bucket : Bucket}
    (positive : 1 ≤ sustainedRps) (room : sustainedRps ≤ burstCapacity)
    (within : bucket.Within burstCapacity) (past : bucket.lastRefillMs ≤ nowMs)
    (short : ¬ 1 ≤ (applyRefill bucket nowMs sustainedRps burstCapacity).tokens) :
    credit sustainedRps nowMs (applyRefill bucket nowMs sustainedRps burstCapacity) < 1000 := by
  have forward : ¬ nowMs - bucket.lastRefillMs < 0 := by omega
  have nonneg := within.1
  simp only [applyRefill, refillOf, forward, ↓reduceIte] at short ⊢
  split at short
  · dsimp only at short
    omega
  · rename_i unearned
    rw [if_neg unearned]
    have few : (nowMs - bucket.lastRefillMs) * sustainedRps < 1000 := by omega
    rw [mul_comm] at few
    unfold credit
    omega

/-- The script has let in `lead` calls more than the exact bucket, which is worth no more than
what the script has stored and that lead. -/
structure Leads (sustainedRps burstCapacity : Int) (last : Moment) (cell : Option (Entry Fields))
    (bucket : ExactBucket) (lead : Int) : Prop where
  nonneg : 0 ≤ lead
  sound : Sound burstCapacity cell
  behind : Behind last.nowMs cell
  stamped : bucket.lastMs = last.nowMs
  capped : bucket.tokens ≤ burstCapacity
  worth : ∀ stored, hash cell = some stored →
    1000 * bucket.tokens ≤ ((credit sustainedRps last.nowMs stored + 1000 * lead : Int) : Rat)

section SideBySide

variable {sustainedRps burstCapacity : Int} {last moment : Moment} {cell : Option (Entry Fields)}
  {bucket : ExactBucket} {lead : Int}

/-- An absent key beside a full bucket. -/
theorem Leads.full (sustainedRps burstCapacity startMs : Int) :
    Leads sustainedRps burstCapacity ⟨startMs, 0⟩ none ⟨burstCapacity, startMs⟩ 0 where
  nonneg := le_refl _
  sound _ stored := nomatch stored
  behind _ stored := nomatch stored
  stamped := rfl
  capped := le_refl _
  worth _ stored := nomatch stored

theorem Behind.mono {earlier later : Int} (behind : Behind earlier cell)
    (ordered : earlier ≤ later) : Behind later cell := by
  intro stored left
  exact (behind stored left).trans ordered

theorem exactCall_spends (sustainedRps burstCapacity : Int) (bucket : ExactBucket)
    (moment : Moment) :
    (exactCall sustainedRps burstCapacity bucket moment).1.tokens =
        bucket.refill sustainedRps burstCapacity moment.nowMs -
          (if (exactCall sustainedRps burstCapacity bucket moment).2 then 1 else 0 : Int) ∧
      (exactCall sustainedRps burstCapacity bucket moment).1.lastMs = moment.nowMs ∧
      ((exactCall sustainedRps burstCapacity bucket moment).2 = true ↔
        1 ≤ bucket.refill sustainedRps burstCapacity moment.nowMs) := by
  unfold exactCall
  dsimp only
  split
  · rename_i enough
    exact ⟨by simp, rfl, iff_of_true rfl enough⟩
  · rename_i short
    exact ⟨by simp, rfl, iff_of_false (by simp) short⟩

/-- By the time of the next call the exact bucket is still worth no more than what the script
reads. -/
theorem Leads.worth_loaded (leads : Leads sustainedRps burstCapacity last cell bucket lead)
    (moment : Moment) :
    1000 * bucket.refill sustainedRps burstCapacity moment.nowMs ≤
      ((credit sustainedRps moment.nowMs
        (load cell moment.clock moment.nowMs burstCapacity) + 1000 * lead : Int) : Rat) := by
  have nonneg : (0 : Rat) ≤ lead := by exact_mod_cast leads.nonneg
  have capped := min_le_left (burstCapacity : Rat)
    (bucket.tokens + (moment.nowMs - bucket.lastMs) * sustainedRps / 1000)
  have uncapped := min_le_right (burstCapacity : Rat)
    (bucket.tokens + (moment.nowMs - bucket.lastMs) * sustainedRps / 1000)
  unfold ExactBucket.refill
  rcases load_cases cell moment.clock moment.nowMs burstCapacity with full | stored
  · rw [full]
    simp only [credit, sub_self, mul_zero, add_zero]
    push_cast
    linarith
  · have before := leads.worth _ stored
    rw [leads.stamped] at uncapped ⊢
    simp only [credit] at before ⊢
    push_cast at before ⊢
    linarith

theorem Leads.worth_refilled (positive : 1 ≤ sustainedRps)
    (ordered : last.nowMs ≤ moment.nowMs)
    (leads : Leads sustainedRps burstCapacity last cell bucket lead) :
    1000 * bucket.refill sustainedRps burstCapacity moment.nowMs ≤
      ((credit sustainedRps moment.nowMs
        (refilledAt sustainedRps burstCapacity cell moment) + 1000 * lead : Int) : Rat) := by
  have nonneg : (0 : Rat) ≤ lead := by exact_mod_cast leads.nonneg
  have capped : bucket.refill sustainedRps burstCapacity moment.nowMs ≤ burstCapacity :=
    min_le_left _ _
  have past := load_stamp_le burstCapacity (le_refl moment.nowMs) (leads.behind.mono ordered)
  have loaded := leads.worth_loaded moment
  rcases applyRefill_credit burstCapacity positive past with kept | full
  · have kept : ((credit sustainedRps moment.nowMs
        (load cell moment.clock moment.nowMs burstCapacity) : Int) : Rat) ≤
        (credit sustainedRps moment.nowMs
          (refilledAt sustainedRps burstCapacity cell moment) : Int) := by exact_mod_cast kept
    push_cast at loaded ⊢
    linarith
  · have full : ((1000 * burstCapacity : Int) : Rat) ≤
        (credit sustainedRps moment.nowMs
          (refilledAt sustainedRps burstCapacity cell moment) : Int) := by exact_mod_cast full
    push_cast at full ⊢
    linarith

/-- Where the script denies, the exact bucket can only allow what the script has let in before. -/
theorem Leads.ahead_of_denied (positive : 1 ≤ sustainedRps) (room : sustainedRps ≤ burstCapacity)
    (ordered : last.nowMs ≤ moment.nowMs)
    (leads : Leads sustainedRps burstCapacity last cell bucket lead)
    (short : ¬ 1 ≤ (refilledAt sustainedRps burstCapacity cell moment).tokens)
    (enough : 1 ≤ bucket.refill sustainedRps burstCapacity moment.nowMs) : 1 ≤ lead := by
  have worth := leads.worth_refilled positive ordered
  have little := applyRefill_short positive room (load_within (by omega) leads.sound moment)
    (load_stamp_le burstCapacity (le_refl moment.nowMs) (leads.behind.mono ordered)) short
  have token : (1000 : Rat) ≤ ((credit sustainedRps moment.nowMs
      (refilledAt sustainedRps burstCapacity cell moment) + 1000 * lead : Int) : Rat) := by
    linarith
  have token : 1000 ≤ credit sustainedRps moment.nowMs
      (refilledAt sustainedRps burstCapacity cell moment) + 1000 * lead := by exact_mod_cast token
  unfold refilledAt at token
  omega

theorem Leads.step (positive : 1 ≤ sustainedRps) (room : sustainedRps ≤ burstCapacity)
    (ordered : last.nowMs ≤ moment.nowMs)
    (leads : Leads sustainedRps burstCapacity last cell bucket lead) :
    Leads sustainedRps burstCapacity moment (cellVisit sustainedRps burstCapacity cell moment).1
      (exactCall sustainedRps burstCapacity bucket moment).1
      (lead + (if (cellVisit sustainedRps burstCapacity cell moment).2.isAllowed then 1 else 0) -
        (if (exactCall sustainedRps burstCapacity bucket moment).2 then 1 else 0)) := by
  obtain ⟨left, allowed⟩ := cellVisit_hash sustainedRps burstCapacity cell moment
  obtain ⟨spent, stamped, enough⟩ := exactCall_spends sustainedRps burstCapacity bucket moment
  refine ⟨?_, cellVisit_sound positive room leads.sound moment,
    cellVisit_behind positive (le_refl _) (leads.behind.mono ordered), stamped, ?_, ?_⟩
  · have nonneg := leads.nonneg
    split
    · split
      · omega
      · omega
    · rename_i denied
      split
      · rename_i accepted
        have ahead := leads.ahead_of_denied positive room ordered
          (fun found => denied (allowed.mpr found)) (enough.mp accepted)
        omega
      · omega
  · have capped : bucket.refill sustainedRps burstCapacity moment.nowMs ≤ burstCapacity :=
      min_le_left _ _
    have paid : (0 : Rat) ≤
        ((if (exactCall sustainedRps burstCapacity bucket moment).2 then 1 else 0 : Int) : Rat) := by
      split
      · norm_num
      · norm_num
    rw [spent]
    linarith
  · intro stored found
    have worth := leads.worth_refilled positive ordered
    rw [left] at found
    rw [← Option.some.inj found, spent]
    simp only [credit] at worth ⊢
    generalize (if (exactCall sustainedRps burstCapacity bucket moment).2 then 1 else 0 : Int) = paid
    generalize (if (cellVisit sustainedRps burstCapacity cell moment).2.isAllowed then 1 else 0 :
      Int) = taken
    push_cast at worth ⊢
    linarith

end SideBySide

/-- From a full bucket, the script has at every point of a run let in at least as many calls as
the exact bucket. -/
theorem script_never_under_serves (key : String) (sustainedRps burstCapacity : Int)
    (positive : 1 ≤ sustainedRps) (room : sustainedRps ≤ burstCapacity) (redis : Redis)
    (absent : redis key = none) (startMs : Int) (moments : List Moment)
    (ordered : (startMs :: moments.map (·.nowMs)).Pairwise (· ≤ ·)) (calls : Nat) :
    ((Runs.outputs (exactCall sustainedRps burstCapacity) ⟨burstCapacity, startMs⟩
        moments).take calls).countP id ≤
      ((Runs.outputs (visit key sustainedRps burstCapacity) redis moments).take calls).countP
        Reply.isAllowed := by
  have chain : List.IsChain (fun first second : Moment => first.nowMs ≤ second.nowMs)
      (⟨startMs, 0⟩ :: moments.take calls) := by
    have whole : ((⟨startMs, 0⟩ : Moment) :: moments).Pairwise
        (fun first second => first.nowMs ≤ second.nowMs) := List.pairwise_map.mp ordered
    exact (whole.sublist (List.take_sublist (calls + 1) _)).isChain
  have served := Runs.accepted_ge_of_lead (cellVisit sustainedRps burstCapacity)
    (exactCall sustainedRps burstCapacity) Reply.isAllowed id (Leads sustainedRps burstCapacity)
    (fun _ _ _ _ leads => leads.nonneg)
    (fun _ _ _ _ _ ordered leads => leads.step positive room ordered)
    (moments.take calls) ⟨startMs, 0⟩ none ⟨burstCapacity, startMs⟩ 0
    (Leads.full sustainedRps burstCapacity startMs) chain
  rw [Runs.outputs_take, Runs.outputs_take,
    Runs.outputs_view _ (fun redis : Redis => redis key) _
      (visit_cell key sustainedRps burstCapacity), absent]
  omega

/-- Four calls at once, of which one is denied, and two more within half a second. -/
def burstMoments : List Moment := [⟨0, 0⟩, ⟨0, 0⟩, ⟨0, 0⟩, ⟨0, 0⟩, ⟨400, 400⟩, ⟨500, 500⟩]

theorem script_never_under_serves_past_burst :
    (Runs.outputs (exactCall 3 3) ⟨(3 : Int), 0⟩ burstMoments).countP id = 4 ∧
      4 ≤ (Runs.outputs (visit "bucket" 3 3) (fun _ => none) burstMoments).countP Reply.isAllowed ∧
      (Runs.outputs (visit "bucket" 3 3) (fun _ => none) burstMoments).any
        (fun reply => !reply.isAllowed) = true := by
  have exactly : (Runs.outputs (exactCall 3 3) ⟨(3 : Int), 0⟩ burstMoments).countP id = 4 := by
    decide +kernel
  have served := script_never_under_serves "bucket" 3 3 (by decide) (by decide) (fun _ => none) rfl 0
    burstMoments (by decide) 6
  have whole : ∀ {α : Type} {answers : List α}, answers.length = 6 → answers.take 6 = answers :=
    fun six => List.take_of_length_le six.le
  rw [whole (Runs.outputs_length _ _ _), whole (Runs.outputs_length _ _ _), exactly] at served
  exact ⟨exactly, served, by decide +kernel⟩

end CollectMind.TokenBucket
