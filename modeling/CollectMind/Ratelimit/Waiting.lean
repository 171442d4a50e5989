import CollectMind.Ratelimit.Neighbours
import CollectMind.Ratelimit.RateBound

set_option autoImplicit false

/- A tenant that comes back to its bucket later. The caller's timestamps need not agree with
the server's clock, by which the key expires, and need not go forward. -/
namespace CollectMind.TokenBucket

open ExpiringStore Ratelimit

/-- When a call is made: by the caller's timestamp, and by the server's clock. -/
structure Moment where
  nowMs : Int
  clock : Int
  deriving DecidableEq, Repr

def visit (key : String) (sustainedRps burstCapacity : Int) (redis : Redis) (moment : Moment) :
    Redis × Reply :=
  tokenBucket redis moment.clock key (some moment.nowMs) (some sustainedRps) (some burstCapacity)

/-- The bucket that a visit decides on. -/
def refilledAt (sustainedRps burstCapacity : Int) (cell : Option (Entry Fields)) (moment : Moment) :
    Bucket :=
  applyRefill (load cell moment.clock moment.nowMs burstCapacity) moment.nowMs sustainedRps
    burstCapacity

/-- A visit seen from its own key. -/
def cellVisit (sustainedRps burstCapacity : Int) (cell : Option (Entry Fields)) (moment : Moment) :
    Option (Entry Fields) × Reply :=
  let bucket := refilledAt sustainedRps burstCapacity cell moment
  if bucket.tokens ≥ 1 then
    (some ⟨⟨some (bucket.tokens - 1), some bucket.lastRefillMs⟩,
        some (moment.clock + ttlMs sustainedRps burstCapacity)⟩,
      .allowed (bucket.tokens - 1))
  else
    (some ⟨⟨some bucket.tokens, some bucket.lastRefillMs⟩,
        (current cell moment.clock).bind (·.expireAt)⟩,
      .denied (retryAfterMs sustainedRps))

/-- The hash at a key, whether or not it has expired. -/
def hash : Option (Entry Fields) → Option Bucket
  | some ⟨⟨some tokens, some lastRefillMs⟩, _⟩ => some ⟨tokens, lastRefillMs⟩
  | _ => none

theorem visit_cell (key : String) (sustainedRps burstCapacity : Int) (redis : Redis)
    (moment : Moment) :
    ((visit key sustainedRps burstCapacity redis moment).1 key,
      (visit key sustainedRps burstCapacity redis moment).2) =
      cellVisit sustainedRps burstCapacity (redis key) moment := by
  simp only [visit, tokenBucket, cellVisit]
  by_cases enough : (refilledAt sustainedRps burstCapacity (redis key) moment).tokens ≥ 1
  · have same := enough
    rw [refilledAt] at same
    rw [if_pos same, if_pos enough]
    simp only [store, pexpire_same, put_live, Option.map_some, refilledAt]
  · have same := enough
    rw [refilledAt] at same
    rw [if_neg same, if_neg enough]
    simp only [store, put_same, refilledAt]

/-- A call reads the hash that is stored, or a full bucket of its own time. -/
theorem load_cases (cell : Option (Entry Fields)) (clock nowMs burstCapacity : Int) :
    load cell clock nowMs burstCapacity = ⟨burstCapacity, nowMs⟩ ∨
      hash cell = some (load cell clock nowMs burstCapacity) := by
  unfold load
  split
  · rename_i tokens lastRefillMs expireAt found
    right
    rw [(current_eq_some.mp found).1]
    rfl
  · exact Or.inl rfl

/-- What a bucket may hold. -/
def Bucket.Within (burstCapacity : Int) (bucket : Bucket) : Prop :=
  0 ≤ bucket.tokens ∧ bucket.tokens ≤ burstCapacity

theorem refillOf_nonneg (bucket : Bucket) (nowMs sustainedRps : Int) (positive : 1 ≤ sustainedRps) :
    0 ≤ refillOf bucket nowMs sustainedRps := by
  unfold refillOf
  dsimp only
  apply Int.ediv_nonneg
  · apply Int.mul_nonneg
    · split <;> omega
    · omega
  · decide

theorem applyRefill_within {burstCapacity : Int} {bucket : Bucket} (nowMs sustainedRps : Int)
    (room : 0 ≤ burstCapacity) (within : bucket.Within burstCapacity) :
    (applyRefill bucket nowMs sustainedRps burstCapacity).Within burstCapacity := by
  obtain ⟨nonneg, capped⟩ := within
  unfold applyRefill
  dsimp only
  split
  · constructor
    · dsimp only
      omega
    · exact min_le_left _ _
  · exact ⟨nonneg, capped⟩

/-- The bucket at a key stays within its bounds, whatever the timestamps. -/
def Sound (burstCapacity : Int) (cell : Option (Entry Fields)) : Prop :=
  ∀ bucket, hash cell = some bucket → bucket.Within burstCapacity

section Visits

variable {sustainedRps burstCapacity : Int} {cell : Option (Entry Fields)}

theorem load_within (nonneg : 0 ≤ burstCapacity) (sound : Sound burstCapacity cell)
    (moment : Moment) :
    (load cell moment.clock moment.nowMs burstCapacity).Within burstCapacity := by
  rcases load_cases cell moment.clock moment.nowMs burstCapacity with full | stored
  · rw [full]
    exact ⟨nonneg, le_refl _⟩
  · exact sound _ stored

theorem refilledAt_within (positive : 1 ≤ sustainedRps) (room : sustainedRps ≤ burstCapacity)
    (sound : Sound burstCapacity cell) (moment : Moment) :
    (refilledAt sustainedRps burstCapacity cell moment).Within burstCapacity := by
  apply applyRefill_within
  · omega
  · exact load_within (by omega) sound moment

/-- A visit is allowed exactly if it finds a token, and leaves one token less. -/
theorem cellVisit_hash (sustainedRps burstCapacity : Int) (cell : Option (Entry Fields))
    (moment : Moment) :
    hash (cellVisit sustainedRps burstCapacity cell moment).1 =
        some { refilledAt sustainedRps burstCapacity cell moment with
          tokens := (refilledAt sustainedRps burstCapacity cell moment).tokens -
            if (cellVisit sustainedRps burstCapacity cell moment).2.isAllowed then 1 else 0 } ∧
      ((cellVisit sustainedRps burstCapacity cell moment).2.isAllowed = true ↔
        1 ≤ (refilledAt sustainedRps burstCapacity cell moment).tokens) := by
  unfold cellVisit
  dsimp only
  split
  · rename_i enough
    exact ⟨rfl, iff_of_true rfl enough⟩
  · rename_i short
    refine ⟨?_, iff_of_false (by simp [Reply.isAllowed]) (by omega)⟩
    simp [hash, Reply.isAllowed]

theorem cellVisit_sound (positive : 1 ≤ sustainedRps) (room : sustainedRps ≤ burstCapacity)
    (sound : Sound burstCapacity cell) (moment : Moment) :
    Sound burstCapacity (cellVisit sustainedRps burstCapacity cell moment).1 := by
  intro bucket left
  obtain ⟨nonneg, capped⟩ := refilledAt_within positive room sound moment
  obtain ⟨stored, allowed⟩ := cellVisit_hash sustainedRps burstCapacity cell moment
  rw [stored] at left
  rw [← Option.some.inj left]
  by_cases enough : 1 ≤ (refilledAt sustainedRps burstCapacity cell moment).tokens
  · rw [allowed.mpr enough]
    constructor
    · dsimp only [if_true]
      omega
    · dsimp only [if_true]
      omega
  · have denied := fun verdict => enough (allowed.mp verdict)
    rw [if_neg denied]
    constructor
    · dsimp only
      omega
    · dsimp only
      omega

theorem ttlMs_positive (positive : 1 ≤ sustainedRps) (room : sustainedRps ≤ burstCapacity) :
    0 < ttlMs sustainedRps burstCapacity := by
  have floored := ttlMs_floor sustainedRps burstCapacity positive room
  by_contra none_
  have spent : sustainedRps * ttlMs sustainedRps burstCapacity ≤ 0 :=
    Int.mul_nonpos_of_nonneg_of_nonpos (by omega) (by omega)
  omega

/-- At the server's time of a visit, the hash it leaves has not expired. -/
theorem cellVisit_live (positive : 1 ≤ sustainedRps) (room : sustainedRps ≤ burstCapacity)
    (cell : Option (Entry Fields)) (moment : Moment) :
    current (cellVisit sustainedRps burstCapacity cell moment).1 moment.clock =
      (cellVisit sustainedRps burstCapacity cell moment).1 := by
  unfold cellVisit
  dsimp only
  split
  · apply current_of_live
    have lasting := ttlMs_positive positive room
    rw [Entry.live_some]
    omega
  · apply current_of_live
    cases found : current cell moment.clock with
    | none => rfl
    | some entry => exact (current_eq_some.mp found).2

theorem load_of_live {clock : Int} {bucket : Bucket} (live : current cell clock = cell)
    (stored : hash cell = some bucket) (nowMs : Int) :
    load cell clock nowMs burstCapacity = bucket := by
  unfold hash at stored
  split at stored
  · cases stored
    simp only [load, live]
  · cases stored

/-- A hash stamped long enough ago has a token for the call, and so has an expired one. -/
theorem refilledAt_enough {elapsedMs : Int} (positive : 1 ≤ sustainedRps)
    (room : sustainedRps ≤ burstCapacity) (sound : Sound burstCapacity cell) (moment : Moment)
    (earned : 1 ≤ elapsedMs * sustainedRps / 1000)
    (waited : ∀ bucket, hash cell = some bucket →
      1 ≤ bucket.tokens ∨ bucket.lastRefillMs + elapsedMs ≤ moment.nowMs) :
    1 ≤ (refilledAt sustainedRps burstCapacity cell moment).tokens := by
  have floored := refillOf_nonneg (load cell moment.clock moment.nowMs burstCapacity) moment.nowMs
    sustainedRps positive
  unfold refilledAt applyRefill
  dsimp only
  rcases load_cases cell moment.clock moment.nowMs burstCapacity with full | stored
  · rw [full] at floored ⊢
    split
    · dsimp only
      omega
    · dsimp only
      omega
  · have bounds := sound _ stored
    rcases waited _ stored with left | past
    · split
      · dsimp only
        omega
      · exact left
    · have elapsed : ¬ moment.nowMs -
          (load cell moment.clock moment.nowMs burstCapacity).lastRefillMs < 0 := by
        intro back
        have negative : elapsedMs * sustainedRps ≤ 0 :=
          Int.mul_nonpos_of_nonpos_of_nonneg (by omega) (by omega)
        omega
      have longer : elapsedMs * sustainedRps ≤ (moment.nowMs -
          (load cell moment.clock moment.nowMs burstCapacity).lastRefillMs) * sustainedRps :=
        Int.mul_le_mul_of_nonneg_right (by omega) (by omega)
      have refill : 1 ≤ refillOf (load cell moment.clock moment.nowMs burstCapacity) moment.nowMs
          sustainedRps := by
        simp only [refillOf, elapsed, ↓reduceIte]
        omega
      have nonneg := bounds.1
      rw [if_pos (by omega)]
      dsimp only
      omega

end Visits

section ClockRegression

/-- The gap after which one token has been earned, and not a millisecond earlier. -/
theorem first_token_gap {sustainedRps : Int} (positive : 1 ≤ sustainedRps) :
    1 ≤ (999 / sustainedRps + 1) * sustainedRps / 1000 ∧
      ∀ elapsedMs, elapsedMs ≤ 999 / sustainedRps → elapsedMs * sustainedRps / 1000 ≤ 0 := by
  have above := Int.lt_ediv_add_one_mul_self 999 (show 0 < sustainedRps by omega)
  have below := Int.ediv_mul_le 999 (show sustainedRps ≠ 0 by omega)
  constructor
  · omega
  · intro elapsedMs early
    have shorter : elapsedMs * sustainedRps ≤ 999 / sustainedRps * sustainedRps :=
      Int.mul_le_mul_of_nonneg_right early (by omega)
    omega

variable {sustainedRps burstCapacity : Int}

theorem final_sound (positive : 1 ≤ sustainedRps) (room : sustainedRps ≤ burstCapacity)
    (moments : List Moment) {cell : Option (Entry Fields)} (sound : Sound burstCapacity cell) :
    Sound burstCapacity (Runs.final (cellVisit sustainedRps burstCapacity) cell moments) := by
  apply Runs.final_invariant _ (Sound burstCapacity) (fun _ => True)
  · intro cell moment _ sound
    exact cellVisit_sound positive room sound moment
  · exact sound
  · exact fun _ _ => trivial

/-- Whatever the clocks did before, the next call that should find a token finds one exactly if
the bucket is not left empty with a stamp ahead of the last call. -/
theorem cell_served_iff (positive : 1 ≤ sustainedRps) (room : sustainedRps ≤ burstCapacity)
    {cell : Option (Entry Fields)} (sound : Sound burstCapacity cell) (last : Moment) :
    (∀ elapsedMs clock, 1 ≤ elapsedMs * sustainedRps / 1000 → last.clock ≤ clock →
        (cellVisit sustainedRps burstCapacity
          (cellVisit sustainedRps burstCapacity cell last).1
          ⟨last.nowMs + elapsedMs, clock⟩).2.isAllowed = true) ↔
      ∀ bucket, hash (cellVisit sustainedRps burstCapacity cell last).1 = some bucket →
        bucket.tokens < 1 → bucket.lastRefillMs ≤ last.nowMs := by
  have after := cellVisit_sound positive room sound last
  have live := cellVisit_live positive room cell last
  generalize (cellVisit sustainedRps burstCapacity cell last).1 = left at after live ⊢
  constructor
  · intro served bucket stored empty
    by_contra ahead
    obtain ⟨earned, early⟩ := first_token_gap positive
    have allowed := served (999 / sustainedRps + 1) last.clock earned (le_refl _)
    rw [(cellVisit_hash sustainedRps burstCapacity left _).2, refilledAt,
      load_of_live live stored] at allowed
    -- the stamp ahead takes at least a millisecond off the gap
    have starved : refillOf bucket (last.nowMs + (999 / sustainedRps + 1)) sustainedRps ≤ 0 := by
      unfold refillOf
      dsimp only
      apply early
      split
      · exact Int.ediv_nonneg (by decide) (by omega)
      · omega
    unfold applyRefill at allowed
    dsimp only at allowed
    rw [if_neg (by omega)] at allowed
    omega
  · intro stamped elapsedMs clock earned _
    rw [(cellVisit_hash sustainedRps burstCapacity left _).2]
    apply refilledAt_enough positive room after _ earned
    intro bucket stored
    by_cases empty : bucket.tokens < 1
    · right
      have past := stamped bucket stored empty
      dsimp only
      omega
    · left
      omega

/-- After any history of calls on a key, with timestamps in any order: every call whose gap to
the last one is worth a token is allowed, exactly if the last one left a token or a stamp that is
not ahead of it. -/
theorem served_iff_stamp_behind (key : String) (sustainedRps burstCapacity : Int)
    (positive : 1 ≤ sustainedRps) (room : sustainedRps ≤ burstCapacity) (redis : Redis)
    (absent : redis key = none) (history : List Moment) (last : Moment) :
    (∀ elapsedMs clock, 1 ≤ elapsedMs * sustainedRps / 1000 → last.clock ≤ clock →
        (visit key sustainedRps burstCapacity
          (Runs.final (visit key sustainedRps burstCapacity) redis (history ++ [last]))
          ⟨last.nowMs + elapsedMs, clock⟩).2.isAllowed = true) ↔
      ∀ bucket, hash (Runs.final (visit key sustainedRps burstCapacity) redis
          (history ++ [last]) key) = some bucket →
        bucket.tokens < 1 → bucket.lastRefillMs ≤ last.nowMs := by
  have agrees := visit_cell key sustainedRps burstCapacity
  have reply : ∀ redis moment, (visit key sustainedRps burstCapacity redis moment).2 =
      (cellVisit sustainedRps burstCapacity (redis key) moment).2 := fun redis moment =>
    congrArg Prod.snd (agrees redis moment)
  have left : Runs.final (visit key sustainedRps burstCapacity) redis (history ++ [last]) key =
      (cellVisit sustainedRps burstCapacity
        (Runs.final (cellVisit sustainedRps burstCapacity) none history) last).1 := by
    rw [Runs.final_view _ (fun redis : Redis => redis key) _ agrees, absent, Runs.final_append]
    rfl
  simp only [reply, left]
  apply cell_served_iff positive room
  apply final_sound positive room
  intro bucket stored
  cases stored

/-- The clock is set back from 10 s to 0, and a token is left. -/
theorem served_iff_stamp_behind_set_back :
    hash (Runs.final (visit "bucket" 1 3) (fun _ => none) ([⟨10000, 0⟩] ++ [⟨0, 0⟩]) "bucket") =
        some ⟨1, 10000⟩ ∧
      ∀ elapsedMs clock, 1 ≤ elapsedMs * 1 / 1000 → 0 ≤ clock →
        (visit "bucket" 1 3
          (Runs.final (visit "bucket" 1 3) (fun _ => none) ([⟨10000, 0⟩] ++ [⟨0, 0⟩]))
          ⟨0 + elapsedMs, clock⟩).2.isAllowed = true := by
  have left : hash (Runs.final (visit "bucket" 1 3) (fun _ => none) ([⟨10000, 0⟩] ++ [⟨0, 0⟩])
      "bucket") = some ⟨1, 10000⟩ := by decide
  refine ⟨left, ?_⟩
  apply (served_iff_stamp_behind "bucket" 1 3 (by decide) (by decide) (fun _ => none) rfl
    [⟨10000, 0⟩] ⟨0, 0⟩).mpr
  intro bucket stored empty
  cases left.symm.trans stored
  exact absurd empty (by decide)

/-- The clock is set back from 10 s to 0. A second after that a token has been earned, but the
stamp still says 10 s. -/
theorem served_fails_after_clock_set_back :
    (1 : Int) ≤ 1000 * 1 / 1000 ∧
    (visit "bucket" 1 1
      (Runs.final (visit "bucket" 1 1) (fun _ => none) [⟨10000, 0⟩, ⟨0, 0⟩])
      ⟨0 + 1000, 1000⟩).2 = .denied 1000 := by
  decide

end ClockRegression

section RetryAfter

theorem applyRefill_stamp_le {bound nowMs sustainedRps : Int} (burstCapacity : Int) {bucket : Bucket}
    (positive : 1 ≤ sustainedRps) (past : bucket.lastRefillMs ≤ bound) (reached : nowMs ≤ bound) :
    (applyRefill bucket nowMs sustainedRps burstCapacity).lastRefillMs ≤ bound := by
  by_cases back : nowMs - bucket.lastRefillMs < 0
  · have none_ : refillOf bucket nowMs sustainedRps = 0 := by
      simp [refillOf, back]
    unfold applyRefill
    dsimp only
    rw [none_, if_neg (by decide)]
    exact past
  · have covered := covered_le_elapsed positive (nowMs - bucket.lastRefillMs)
    simp only [applyRefill, refillOf, back, ↓reduceIte]
    split
    · dsimp only
      omega
    · exact past

/-- No stamp is ahead of `bound`. -/
def Behind (bound : Int) (cell : Option (Entry Fields)) : Prop :=
  ∀ bucket, hash cell = some bucket → bucket.lastRefillMs ≤ bound

variable {sustainedRps burstCapacity : Int}

theorem load_stamp_le {bound : Int} {cell : Option (Entry Fields)} {moment : Moment}
    (burstCapacity : Int) (reached : moment.nowMs ≤ bound) (behind : Behind bound cell) :
    (load cell moment.clock moment.nowMs burstCapacity).lastRefillMs ≤ bound := by
  rcases load_cases cell moment.clock moment.nowMs burstCapacity with full | stored
  · rw [full]
    exact reached
  · exact behind _ stored

theorem cellVisit_behind {bound : Int} {cell : Option (Entry Fields)} {moment : Moment}
    (positive : 1 ≤ sustainedRps) (reached : moment.nowMs ≤ bound) (behind : Behind bound cell) :
    Behind bound (cellVisit sustainedRps burstCapacity cell moment).1 := by
  intro bucket left
  rw [(cellVisit_hash sustainedRps burstCapacity cell moment).1] at left
  rw [← Option.some.inj left]
  apply applyRefill_stamp_le burstCapacity positive _ reached
  exact load_stamp_le burstCapacity reached behind

theorem final_behind {bound : Int} (positive : 1 ≤ sustainedRps) (moments : List Moment)
    (reached : ∀ moment ∈ moments, moment.nowMs ≤ bound) :
    Behind bound (Runs.final (cellVisit sustainedRps burstCapacity) none moments) := by
  apply Runs.final_invariant _ (Behind bound) (fun moment => moment.nowMs ≤ bound)
  · intro cell moment reached behind
    exact cellVisit_behind positive reached behind
  · intro bucket stored
    cases stored
  · exact reached

/-- A refusal for the rate asks for at least a second. -/
theorem settle_refused_seconds {env : Env} {script : Script} {status : Nat} {code message : String}
    {seconds : Int}
    (answered : (settle env script).answer = .refused status code message (some seconds)) :
    1 ≤ seconds := by
  unfold settle at answered
  split at answered
  · cases answered
    decide
  · split at answered
    · cases answered
    · split at answered
      · cases answered
      · cases answered
        exact le_max_left _ _

/-- A tenant that waits as long as the refusal says is let in by its next call, whether the hash
is still there or not. -/
theorem retry_after_sufficient (key : String) (sustainedRps burstCapacity : Int)
    (positive : 1 ≤ sustainedRps) (room : sustainedRps ≤ burstCapacity) (redis : Redis)
    (absent : redis key = none) (history : List Moment) (last : Moment)
    (ordered : (history ++ [last]).Pairwise (fun first second => first.nowMs ≤ second.nowMs))
    (env : Env) (trace : List Event) (luaSha : Option String) (code message : String)
    (seconds : Int)
    (answered : (settle env ⟨trace, luaSha, (outcomeOf (visit key sustainedRps burstCapacity
      (Runs.final (visit key sustainedRps burstCapacity) redis history) last).2).result⟩).answer =
        .refused 429 code message (some seconds))
    (next : Moment) (waited : last.nowMs + 1000 * seconds ≤ next.nowMs) :
    (visit key sustainedRps burstCapacity
      (Runs.final (visit key sustainedRps burstCapacity) redis (history ++ [last]))
      next).2.isAllowed = true := by
  have agrees := visit_cell key sustainedRps burstCapacity
  have reached : ∀ moment ∈ history ++ [last], moment.nowMs ≤ last.nowMs := by
    intro moment member
    rcases List.mem_append.mp member with earlier | same
    · exact (List.pairwise_append.mp ordered).2.2 moment earlier last (by simp)
    · rw [List.mem_singleton.mp same]
  have sound := final_sound positive room (history ++ [last])
    (fun _ stored => nomatch stored : Sound burstCapacity none)
  have behind : Behind last.nowMs
      (Runs.final (cellVisit sustainedRps burstCapacity) none (history ++ [last])) :=
    final_behind positive (history ++ [last]) reached
  have earned : 1 ≤ 1000 * sustainedRps / 1000 := by omega
  have asked := settle_refused_seconds answered
  rw [congrArg Prod.snd (agrees _ next),
    Runs.final_view _ (fun redis : Redis => redis key) _ agrees, absent,
    (cellVisit_hash sustainedRps burstCapacity _ next).2]
  apply refilledAt_enough positive room sound next earned
  intro bucket stored
  right
  have past := behind bucket stored
  omega

/-- A request whose parties are not asked. -/
def idleEnv : Env where
  verify _ := none
  getForTenant _ := .error ""
  nowMs := 0
  scriptLoad _ := .error ""
  evalsha _ _ := .noScript ""
  intOfStr _ := none

theorem retry_after_sufficient_second :
    (settle idleEnv ⟨[], none, (outcomeOf (visit "bucket" 1 1
      (Runs.final (visit "bucket" 1 1) (fun _ => none) [⟨0, 0⟩]) ⟨0, 0⟩).2).result⟩).answer =
        .refused 429 "rate_limit_exceeded" "rate limit exceeded" (some 1) ∧
    (visit "bucket" 1 1 (Runs.final (visit "bucket" 1 1) (fun _ => none) ([⟨0, 0⟩] ++ [⟨0, 0⟩]))
      ⟨1000, 0⟩).2.isAllowed = true := by
  have answered : (settle idleEnv ⟨[], none, (outcomeOf (visit "bucket" 1 1
      (Runs.final (visit "bucket" 1 1) (fun _ => none) [⟨0, 0⟩]) ⟨0, 0⟩).2).result⟩).answer =
        .refused 429 "rate_limit_exceeded" "rate limit exceeded" (some 1) := by decide
  refine ⟨answered, ?_⟩
  exact retry_after_sufficient "bucket" 1 1 (by decide) (by decide) (fun _ => none) rfl [⟨0, 0⟩]
    ⟨0, 0⟩ (by decide) idleEnv [] none _ _ 1 answered ⟨1000, 0⟩ (by decide)

end RetryAfter

section Expiry

variable {sustainedRps burstCapacity : Int}

/-- Time for a whole bucket fills it, whatever is left in it. -/
theorem applyRefill_full {nowMs : Int} {bucket : Bucket} (positive : 1 ≤ sustainedRps)
    (room : sustainedRps ≤ burstCapacity) (nonneg : 0 ≤ bucket.tokens)
    (past : bucket.lastRefillMs ≤ nowMs)
    (waited : 1000 * burstCapacity ≤ (nowMs - bucket.lastRefillMs) * sustainedRps) :
    (applyRefill bucket nowMs sustainedRps burstCapacity).tokens = burstCapacity := by
  have forward : ¬ nowMs - bucket.lastRefillMs < 0 := by omega
  have refill : burstCapacity ≤ refillOf bucket nowMs sustainedRps := by
    simp only [refillOf, forward, ↓reduceIte]
    omega
  unfold applyRefill
  dsimp only
  rw [if_pos (by omega)]
  exact min_eq_left (by omega)

/-- A bucket of this moment is not refilled. -/
theorem applyRefill_fresh (tokens nowMs sustainedRps burstCapacity : Int) :
    applyRefill ⟨tokens, nowMs⟩ nowMs sustainedRps burstCapacity = ⟨tokens, nowMs⟩ := by
  simp [applyRefill, refillOf]

theorem cellCall_full {cell : Option (Entry Fields)} {nowMs : Int} (positive : 1 ≤ sustainedRps)
    (room : sustainedRps ≤ burstCapacity)
    (full : (applyRefill (load cell nowMs nowMs burstCapacity) nowMs sustainedRps
      burstCapacity).tokens = burstCapacity) :
    (cellCall sustainedRps burstCapacity cell nowMs).2 = .allowed (burstCapacity - 1) := by
  unfold cellCall
  dsimp only
  rw [full, if_pos (by omega)]

/-- A call that finds its key expired answers as it would with the hash kept: by then the hash
would have been refilled to the burst. -/
theorem expired_answers_as_kept (key : String) (sustainedRps burstCapacity : Int)
    (positive : 1 ≤ sustainedRps) (room : sustainedRps ≤ burstCapacity) (redis : Redis)
    (absent : redis key = none) (history : List Int) (nowMs : Int)
    (ordered : (history ++ [nowMs]).Pairwise (· ≤ ·)) (entry : Entry Fields) (deadline : Int)
    (stored : Runs.final (call key sustainedRps burstCapacity) redis history key = some entry)
    (set : entry.expireAt = some deadline) (expired : deadline ≤ nowMs) :
    (call key sustainedRps burstCapacity
        (Runs.final (call key sustainedRps burstCapacity) redis history) nowMs).2 =
      (call key sustainedRps burstCapacity
        (persist (Runs.final (call key sustainedRps burstCapacity) redis history) key) nowMs).2 := by
  have agrees := call_cell key sustainedRps burstCapacity
  have ready := final_ready positive room nowMs history none (fun _ _ => Or.inl rfl) ordered
  rw [← absent, ← Runs.final_view _ (fun redis : Redis => redis key) _ agrees, stored] at ready
  rcases ready with none_ | ready
  · cases none_
  obtain ⟨tokens, stamp, limit, shape, nonneg, _, past, lasting⟩ := ready
  cases shape
  cases set
  have dead : (Entry.mk (Fields.mk (some tokens) (some stamp)) (some deadline)).live nowMs =
      false := by
    rw [Bool.eq_false_iff, ne_eq, Entry.live_some]
    omega
  have ttl := ttlMs_floor sustainedRps burstCapacity positive room
  have waited : ttlMs sustainedRps burstCapacity * sustainedRps ≤ (nowMs - stamp) * sustainedRps :=
    Int.mul_le_mul_of_nonneg_right (by omega) (by omega)
  rw [congrArg Prod.snd (agrees _ nowMs), congrArg Prod.snd (agrees _ nowMs), stored]
  have anew : (cellCall sustainedRps burstCapacity
      (some ⟨⟨some tokens, some stamp⟩, some deadline⟩) nowMs).2 = .allowed (burstCapacity - 1) := by
    apply cellCall_full positive room
    simp only [load, current_of_dead dead, applyRefill_fresh]
  have kept : (cellCall sustainedRps burstCapacity
      (some ⟨⟨some tokens, some stamp⟩, none⟩) nowMs).2 = .allowed (burstCapacity - 1) := by
    apply cellCall_full positive room
    have live : (Entry.mk (Fields.mk (some tokens) (some stamp)) none).live nowMs = true := rfl
    simp only [load, current_of_live live]
    apply applyRefill_full positive room nonneg past
    dsimp only
    linarith
  have persisted : persist (Runs.final (call key sustainedRps burstCapacity) redis history) key key =
      some ⟨⟨some tokens, some stamp⟩, none⟩ := by
    simp [persist, stored]
  rw [anew, persisted, kept]

/-- Two calls empty the bucket of two tokens, the second at 0.5 s; a third finds it expired. -/
theorem expired_answers_as_kept_emptied :
    Runs.final (call "bucket" 1 2) (fun _ => none) [0, 500] "bucket" =
        some ⟨⟨some 0, some 0⟩, some 4500⟩ ∧
      (call "bucket" 1 2 (Runs.final (call "bucket" 1 2) (fun _ => none) [0, 500]) 4500).2 =
        (call "bucket" 1 2
          (persist (Runs.final (call "bucket" 1 2) (fun _ => none) [0, 500]) "bucket") 4500).2 := by
  have stored : Runs.final (call "bucket" 1 2) (fun _ => none) [0, 500] "bucket" =
      some ⟨⟨some 0, some 0⟩, some 4500⟩ := by decide
  refine ⟨stored, ?_⟩
  exact expired_answers_as_kept "bucket" 1 2 (by decide) (by decide) (fun _ => none) rfl [0, 500]
    4500 (by decide) _ 4500 stored rfl (by decide)

end Expiry

end CollectMind.TokenBucket
