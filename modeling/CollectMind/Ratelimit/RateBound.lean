import CollectMind.Ratelimit.TokenBucket
import Mathlib.Tactic.Linarith
import Mathlib.Tactic.Ring
import Mathlib.Algebra.Order.Group.Unbundled.Int

set_option autoImplicit false

namespace CollectMind.TokenBucket

open ExpiringStore

/-- The rates whose refill is exact to the millisecond: a whole number of
milliseconds for each token, or a whole number of tokens for each millisecond. -/
def ExactRate (sustainedRps : Int) : Prop := sustainedRps ∣ 1000 ∨ 1000 ∣ sustainedRps

instance (sustainedRps : Int) : Decidable (ExactRate sustainedRps) :=
  inferInstanceAs (Decidable (_ ∨ _))

theorem ExactRate.time_covered {sustainedRps : Int} (exact_ : ExactRate sustainedRps)
    (positive : 1 ≤ sustainedRps) (elapsedMs : Int) :
    sustainedRps * (elapsedMs * sustainedRps / 1000 * 1000 / sustainedRps) =
      1000 * (elapsedMs * sustainedRps / 1000) := by
  rcases exact_ with ⟨period, split⟩ | ⟨perMs, split⟩
  · have covered : elapsedMs * sustainedRps / 1000 * 1000 =
        sustainedRps * (elapsedMs * sustainedRps / 1000 * period) := by
      calc elapsedMs * sustainedRps / 1000 * 1000
          = elapsedMs * sustainedRps / 1000 * (sustainedRps * period) := by rw [← split]
        _ = sustainedRps * (elapsedMs * sustainedRps / 1000 * period) := by ring
    rw [covered, Int.mul_ediv_cancel_left _ (by omega), ← covered, mul_comm]
  · have whole : elapsedMs * sustainedRps / 1000 = elapsedMs * perMs := by
      rw [split, mul_left_comm, Int.mul_ediv_cancel_left _ (by decide)]
    have back : elapsedMs * perMs * 1000 = elapsedMs * sustainedRps := by rw [split]; ring
    rw [whole, back, Int.mul_ediv_cancel _ (by omega), split]
    ring

/-- A refill never accounts for more time than has passed. -/
theorem covered_le_elapsed {sustainedRps : Int} (positive : 1 ≤ sustainedRps) (elapsedMs : Int) :
    elapsedMs * sustainedRps / 1000 * 1000 / sustainedRps ≤ elapsedMs := by
  have floored := Int.ediv_mul_le (elapsedMs * sustainedRps) (show (1000 : Int) ≠ 0 by decide)
  rw [Int.ediv_le_iff_le_mul (by omega)]
  linarith

/-- What a refill does to a bucket whose stamp is not in the future. -/
structure Refilled (sustainedRps burstCapacity nowMs : Int) (before after : Bucket) : Prop where
  nonneg : 0 ≤ after.tokens
  capped : after.tokens ≤ burstCapacity
  later : before.lastRefillMs ≤ after.lastRefillMs
  stamped : after.lastRefillMs ≤ nowMs
  starved : after.tokens < 1 → after = before

theorem applyRefill_refilled {sustainedRps burstCapacity nowMs : Int} {bucket : Bucket}
    (positive : 1 ≤ sustainedRps) (room : sustainedRps ≤ burstCapacity)
    (nonneg : 0 ≤ bucket.tokens) (capped : bucket.tokens ≤ burstCapacity)
    (past : bucket.lastRefillMs ≤ nowMs) :
    Refilled sustainedRps burstCapacity nowMs bucket
      (applyRefill bucket nowMs sustainedRps burstCapacity) := by
  have forward : ¬ nowMs - bucket.lastRefillMs < 0 := by omega
  simp only [applyRefill, refillOf, forward, ↓reduceIte]
  split
  · rename_i earned
    have covered := covered_le_elapsed positive (nowMs - bucket.lastRefillMs)
    have forwards : 0 ≤ (nowMs - bucket.lastRefillMs) * sustainedRps / 1000 * 1000 /
        sustainedRps := Int.ediv_nonneg (by omega) (by omega)
    refine ⟨?_, min_le_left _ _, by dsimp only; omega, by dsimp only; omega, ?_⟩
    · dsimp only; omega
    · dsimp only; intro empty; omega
  · exact ⟨nonneg, capped, le_refl _, past, fun _ => rfl⟩

/-- At an exact rate a refill never raises `1000 * tokens - rate * stamp`, and
leaves less than one token's worth of time unaccounted for. -/
theorem applyRefill_exact {sustainedRps nowMs : Int} (burstCapacity : Int) {bucket : Bucket}
    (positive : 1 ≤ sustainedRps) (exact_ : ExactRate sustainedRps)
    (past : bucket.lastRefillMs ≤ nowMs) :
    1000 * (applyRefill bucket nowMs sustainedRps burstCapacity).tokens -
        sustainedRps * (applyRefill bucket nowMs sustainedRps burstCapacity).lastRefillMs ≤
      1000 * bucket.tokens - sustainedRps * bucket.lastRefillMs ∧
    sustainedRps * (nowMs - (applyRefill bucket nowMs sustainedRps burstCapacity).lastRefillMs) <
      1000 := by
  have forward : ¬ nowMs - bucket.lastRefillMs < 0 := by omega
  have covered := exact_.time_covered positive (nowMs - bucket.lastRefillMs)
  have floored := Int.lt_ediv_add_one_mul_self ((nowMs - bucket.lastRefillMs) * sustainedRps)
    (show (0 : Int) < 1000 by decide)
  simp only [applyRefill, refillOf, forward, ↓reduceIte]
  split
  · dsimp only
    have capped := min_le_right burstCapacity
      (bucket.tokens + (nowMs - bucket.lastRefillMs) * sustainedRps / 1000)
    constructor
    · linarith
    · linarith
  · rename_i unearned
    refine ⟨le_refl _, ?_⟩
    have none_ : (nowMs - bucket.lastRefillMs) * sustainedRps / 1000 ≤ 0 := by omega
    linarith

/-- What one key holds after a call at `lastMs`: a full hash whose deadline
leaves room for a whole time-to-live after its stamp. -/
def Stored (sustainedRps burstCapacity lastMs : Int) (cell : Option (Entry Fields)) : Prop :=
  ∃ tokens stamp deadline, cell = some ⟨⟨some tokens, some stamp⟩, some deadline⟩ ∧
    0 ≤ tokens ∧ tokens ≤ burstCapacity ∧ stamp ≤ lastMs ∧
    stamp + ttlMs sustainedRps burstCapacity ≤ deadline

/-- What a call at `nowMs` may find at its key, when no call came later. -/
def Ready (sustainedRps burstCapacity nowMs : Int) (cell : Option (Entry Fields)) : Prop :=
  cell = none ∨ Stored sustainedRps burstCapacity nowMs cell

theorem Stored.mono {sustainedRps burstCapacity earlier later : Int}
    {cell : Option (Entry Fields)} (stored : Stored sustainedRps burstCapacity earlier cell)
    (ordered : earlier ≤ later) : Stored sustainedRps burstCapacity later cell := by
  obtain ⟨tokens, stamp, deadline, found, nonneg, capped, past, alive⟩ := stored
  exact ⟨tokens, stamp, deadline, found, nonneg, capped, past.trans ordered, alive⟩

/-- Credit still owed by a cell, in thousandths of a token. -/
def potential (sustainedRps : Int) : Option (Entry Fields) → Int
  | some ⟨⟨some tokens, some stamp⟩, _⟩ => 1000 * tokens - sustainedRps * stamp
  | _ => 0

theorem ttlMs_floor (sustainedRps burstCapacity : Int) (positive : 1 ≤ sustainedRps)
    (room : sustainedRps ≤ burstCapacity) :
    1000 * burstCapacity ≤ sustainedRps * ttlMs sustainedRps burstCapacity := by
  have floored := Int.lt_ediv_add_one_mul_self (burstCapacity * 1000 * 2)
    (show 0 < sustainedRps by omega)
  simp only [ttlMs]
  linarith

/-- Reading the key yields a bucket within its bounds, never worth more than the
stored hash: by the time the key expires, a full bucket has been earned anew. -/
theorem load_stored {sustainedRps burstCapacity nowMs : Int} {cell : Option (Entry Fields)}
    (positive : 1 ≤ sustainedRps) (room : sustainedRps ≤ burstCapacity)
    (stored : Stored sustainedRps burstCapacity nowMs cell) :
    let bucket := load cell nowMs nowMs burstCapacity
    0 ≤ bucket.tokens ∧ bucket.tokens ≤ burstCapacity ∧ bucket.lastRefillMs ≤ nowMs ∧
      1000 * bucket.tokens - sustainedRps * bucket.lastRefillMs ≤ potential sustainedRps cell := by
  obtain ⟨tokens, stamp, deadline, rfl, nonneg, capped, past, alive⟩ := stored
  by_cases live : nowMs < deadline
  · simp only [load, current_of_live (Entry.live_some.mpr live), potential]
    exact ⟨nonneg, capped, past, le_refl _⟩
  · have dead : (Entry.mk (Fields.mk (some tokens) (some stamp)) (some deadline)).live nowMs =
        false := by simp only [Entry.live, live, decide_false]
    simp only [load, current_of_dead dead, potential]
    have ttl := ttlMs_floor sustainedRps burstCapacity positive room
    have waited : sustainedRps * (stamp + ttlMs sustainedRps burstCapacity) ≤
        sustainedRps * nowMs := Int.mul_le_mul_of_nonneg_left (by omega) (by omega)
    refine ⟨by omega, le_refl _, le_refl _, ?_⟩
    linarith

theorem load_ready {sustainedRps burstCapacity nowMs : Int} {cell : Option (Entry Fields)}
    (positive : 1 ≤ sustainedRps) (room : sustainedRps ≤ burstCapacity)
    (ready : Ready sustainedRps burstCapacity nowMs cell) :
    let bucket := load cell nowMs nowMs burstCapacity
    0 ≤ bucket.tokens ∧ bucket.tokens ≤ burstCapacity ∧ bucket.lastRefillMs ≤ nowMs := by
  rcases ready with rfl | stored
  · simp only [load, current_none]
    exact ⟨by omega, le_refl _, le_refl _⟩
  · obtain ⟨nonneg, capped, past, _⟩ := load_stored positive room stored
    exact ⟨nonneg, capped, past⟩

/-- A denied call found a live hash and wrote back exactly what it read. -/
theorem denied_unchanged {sustainedRps burstCapacity nowMs : Int} {cell : Option (Entry Fields)}
    (positive : 1 ≤ sustainedRps) (room : sustainedRps ≤ burstCapacity)
    (ready : Ready sustainedRps burstCapacity nowMs cell)
    (denied : (cellCall sustainedRps burstCapacity cell nowMs).2.isAllowed = false) :
    (cellCall sustainedRps burstCapacity cell nowMs).1 = cell ∧
      Stored sustainedRps burstCapacity nowMs cell := by
  obtain ⟨nonneg, capped, past⟩ := load_ready positive room ready
  have refilled := applyRefill_refilled positive room nonneg capped past
  simp only [cellCall] at denied ⊢
  split at denied
  · simp [Reply.isAllowed] at denied
  · rename_i short
    simp only [short, ↓reduceIte]
    have same := refilled.starved (by omega)
    rcases ready with rfl | stored
    · rw [same] at short
      simp only [load, current_none] at short
      omega
    · refine ⟨?_, stored⟩
      obtain ⟨tokens, stamp, deadline, rfl, _, _, _, _⟩ := stored
      by_cases live : nowMs < deadline
      · rw [same]
        simp only [load, current_of_live (Entry.live_some.mpr live), Option.bind_some]
      · have dead : (Entry.mk (Fields.mk (some tokens) (some stamp)) (some deadline)).live nowMs =
            false := by simp only [Entry.live, live, decide_false]
        rw [same] at short
        simp only [load, current_of_dead dead] at short
        omega

theorem cellCall_stored {sustainedRps burstCapacity nowMs : Int} {cell : Option (Entry Fields)}
    (positive : 1 ≤ sustainedRps) (room : sustainedRps ≤ burstCapacity)
    (ready : Ready sustainedRps burstCapacity nowMs cell) :
    Stored sustainedRps burstCapacity nowMs (cellCall sustainedRps burstCapacity cell nowMs).1 := by
  cases verdict : (cellCall sustainedRps burstCapacity cell nowMs).2.isAllowed with
  | false =>
      obtain ⟨same, stored⟩ := denied_unchanged positive room ready verdict
      rw [same]
      exact stored
  | true =>
      obtain ⟨nonneg, capped, past⟩ := load_ready positive room ready
      have refilled := applyRefill_refilled positive room nonneg capped past
      simp only [cellCall] at verdict ⊢
      split at verdict
      · rename_i enough
        simp only [enough, ↓reduceIte]
        have stamped := refilled.stamped
        have full := refilled.capped
        exact ⟨_, _, _, rfl, by omega, by omega, stamped, by omega⟩
      · simp [Reply.isAllowed] at verdict

/-- What a call leaves behind together with what it hands out is bounded by the
refilled bucket it worked on. -/
theorem cellCall_spends (sustainedRps burstCapacity nowMs : Int) (cell : Option (Entry Fields)) :
    let bucket := applyRefill (load cell nowMs nowMs burstCapacity) nowMs sustainedRps burstCapacity
    potential sustainedRps (cellCall sustainedRps burstCapacity cell nowMs).1 +
        (if (cellCall sustainedRps burstCapacity cell nowMs).2.isAllowed then 1000 else 0) =
      1000 * bucket.tokens - sustainedRps * bucket.lastRefillMs := by
  simp only [cellCall]
  split
  · simp only [potential, Reply.isAllowed, ↓reduceIte]
    ring
  · simp [potential, Reply.isAllowed]

theorem cellCall_pays {sustainedRps burstCapacity nowMs : Int} {cell : Option (Entry Fields)}
    (positive : 1 ≤ sustainedRps) (room : sustainedRps ≤ burstCapacity)
    (exact_ : ExactRate sustainedRps)
    (stored : Stored sustainedRps burstCapacity nowMs cell) :
    potential sustainedRps (cellCall sustainedRps burstCapacity cell nowMs).1 +
        (if (cellCall sustainedRps burstCapacity cell nowMs).2.isAllowed then 1000 else 0) ≤
      potential sustainedRps cell := by
  obtain ⟨_, _, past, worth⟩ := load_stored positive room stored
  have refill := (applyRefill_exact burstCapacity positive exact_ past).1
  rw [cellCall_spends]
  exact refill.trans worth

/-- The first call of a window: whatever it finds, at most a full bucket plus one
token of unaccounted time is left for it and its successors. -/
theorem cellCall_opens {sustainedRps burstCapacity nowMs : Int} {cell : Option (Entry Fields)}
    (positive : 1 ≤ sustainedRps) (room : sustainedRps ≤ burstCapacity)
    (exact_ : ExactRate sustainedRps)
    (ready : Ready sustainedRps burstCapacity nowMs cell) :
    potential sustainedRps (cellCall sustainedRps burstCapacity cell nowMs).1 +
        (if (cellCall sustainedRps burstCapacity cell nowMs).2.isAllowed then 1000 else 0) ≤
      1000 * (burstCapacity + 1) - sustainedRps * nowMs := by
  obtain ⟨nonneg, capped, past⟩ := load_ready positive room ready
  have refilled := applyRefill_refilled positive room nonneg capped past
  have slack := (applyRefill_exact burstCapacity positive exact_ past).2
  have full := refilled.capped
  rw [cellCall_spends]
  linarith

theorem potential_floor {sustainedRps burstCapacity lastMs : Int} {cell : Option (Entry Fields)}
    (positive : 1 ≤ sustainedRps) (stored : Stored sustainedRps burstCapacity lastMs cell) :
    - (sustainedRps * lastMs) ≤ potential sustainedRps cell := by
  obtain ⟨tokens, stamp, deadline, rfl, nonneg, _, past, _⟩ := stored
  have stamped : sustainedRps * stamp ≤ sustainedRps * lastMs :=
    Int.mul_le_mul_of_nonneg_left past (by omega)
  simp only [potential]
  linarith

/-- Whatever calls came before `nowMs`, the key is ready for a call at `nowMs`. -/
theorem final_ready {sustainedRps burstCapacity : Int} (positive : 1 ≤ sustainedRps)
    (room : sustainedRps ≤ burstCapacity) (nowMs : Int) (before : List Int)
    (cell : Option (Entry Fields))
    (ready : ∀ time ∈ before ++ [nowMs], Ready sustainedRps burstCapacity time cell)
    (sorted : (before ++ [nowMs]).Pairwise (· ≤ ·)) :
    Ready sustainedRps burstCapacity nowMs
      (Runs.final (cellCall sustainedRps burstCapacity) cell before) := by
  induction before generalizing cell with
  | nil => exact ready nowMs (by simp)
  | cons time rest ih =>
      have stored := cellCall_stored positive room (ready time (by simp))
      rw [List.cons_append, List.pairwise_cons] at sorted
      exact ih _ (fun later member => Or.inr (stored.mono (sorted.1 later member))) sorted.2

/-- Calls allowed among those of `window`, in a run that starts on an absent key
and also makes the calls `before` and `after`. -/
def allowedIn (key : String) (sustainedRps burstCapacity : Int) (redis : Redis)
    (before window after : List Int) : Nat :=
  (((Runs.outputs (call key sustainedRps burstCapacity) redis
    (before ++ window ++ after)).drop before.length).take window.length).countP Reply.isAllowed

/-- The advertised limit, on one clock: the callers' `now_ms` is also the time by which the server
lets keys expire. Over every window of every run, at most the burst plus the sustained rate, with
one token of rounding slack. -/
def RateBound (sustainedRps burstCapacity : Int) : Prop :=
  ∀ (key : String) (redis : Redis) (before : List Int) (first : Int) (rest after : List Int),
    redis key = none → (before ++ (first :: rest) ++ after).Pairwise (· ≤ ·) →
    1000 * (allowedIn key sustainedRps burstCapacity redis before (first :: rest) after : Int) ≤
      1000 * (burstCapacity + 1) +
        sustainedRps * ((first :: rest).getLast (by simp) - first)

theorem allowedIn_cell (key : String) (sustainedRps burstCapacity : Int) (redis : Redis)
    (before window after : List Int) :
    allowedIn key sustainedRps burstCapacity redis before window after =
      (Runs.outputs (cellCall sustainedRps burstCapacity)
        (Runs.final (cellCall sustainedRps burstCapacity) (redis key) before) window).countP
        Reply.isAllowed := by
  have agrees := call_cell key sustainedRps burstCapacity
  rw [allowedIn, Runs.outputs_window,
    Runs.outputs_view _ (fun redis : Redis => redis key) _ agrees,
    Runs.final_view _ (fun redis : Redis => redis key) _ agrees]

theorem rateBound_of_exact {sustainedRps burstCapacity : Int} (positive : 1 ≤ sustainedRps)
    (room : sustainedRps ≤ burstCapacity) (exact_ : ExactRate sustainedRps) :
    RateBound sustainedRps burstCapacity := by
  intro key redis before first rest after absent sorted
  rw [allowedIn_cell, absent]
  have window := (List.pairwise_append.mp sorted).1
  have opening : (before ++ [first]).Pairwise (· ≤ ·) := by
    refine List.Pairwise.sublist ?_ window
    exact (List.Sublist.refl before).append (List.singleton_sublist.mpr (by simp))
  have ready := final_ready positive room first before none (fun _ _ => Or.inl rfl) opening
  have chain : List.IsChain (· ≤ ·) (first :: rest) :=
    ((List.pairwise_append.mp window).2.1).isChain
  generalize Runs.final (cellCall sustainedRps burstCapacity) none before = cell at ready ⊢
  have opens := cellCall_opens positive room exact_ ready
  obtain ⟨stored, paid⟩ := Runs.accepted_le_potential (cellCall sustainedRps burstCapacity)
    (Stored sustainedRps burstCapacity) (potential sustainedRps) 1000 Reply.isAllowed
    (fun last input state ordered held =>
      ⟨cellCall_stored positive room (Or.inr (held.mono ordered)),
        cellCall_pays positive room exact_ (held.mono ordered)⟩)
    rest first _ (cellCall_stored positive room ready) chain
  have floor_ := potential_floor positive stored
  rw [Runs.outputs_cons, List.countP_cons]
  split at opens
  · rename_i allowed
    simp only [allowed, ↓reduceIte, Nat.cast_add, Nat.cast_one]
    linarith
  · rename_i denied
    simp only [denied, Bool.false_eq_true, ↓reduceIte, Nat.add_zero]
    linarith

end CollectMind.TokenBucket
