import CollectMind.Ratelimit.RateBound

set_option autoImplicit false

/- Where the refill is not exact, `math.floor((refill * 1000) / sustained_rps)`
books less time than the refill covered. The calls below return as soon as the
time left over makes up a token again. -/
namespace CollectMind.TokenBucket

open ExpiringStore

/-- Call times one token apart by the script's own books: each comes one
millisecond after the stamp has been moved on by `gap`. -/
def driftTimes (gap : Int) : Int → Nat → List Int
  | _, 0 => []
  | stamp, count + 1 => (stamp + gap + 1) :: driftTimes gap (stamp + gap) count

theorem driftTimes_ge (gap stamp : Int) (count : Nat) (nonneg : 0 ≤ gap) :
    ∀ time ∈ driftTimes gap stamp count, stamp + gap + 1 ≤ time := by
  induction count generalizing stamp with
  | zero => intro time member; cases member
  | succ count ih =>
      intro time member
      rcases List.mem_cons.mp member with rfl | member
      · exact le_refl _
      · have later := ih (stamp + gap) time member
        omega

theorem driftTimes_sorted (gap stamp : Int) (count : Nat) (nonneg : 0 ≤ gap) :
    (driftTimes gap stamp count).Pairwise (· ≤ ·) := by
  induction count generalizing stamp with
  | zero => exact List.Pairwise.nil
  | succ count ih =>
      refine List.pairwise_cons.mpr ⟨?_, ih (stamp + gap)⟩
      intro time member
      have later := driftTimes_ge gap (stamp + gap) count nonneg time member
      omega

theorem driftTimes_getLast (gap stamp : Int) (count : Nat) :
    (driftTimes gap stamp (count + 1)).getLast? = some (stamp + (count + 1) * gap + 1) := by
  induction count generalizing stamp with
  | zero => simp [driftTimes]
  | succ count ih =>
      rw [driftTimes, List.getLast?_cons, ih]
      simp only [Option.getD_some, Option.some.injEq, Nat.cast_add, Nat.cast_one]
      ring

/-- The gap the script books for one token: `floor(1000 / sustained_rps)`. -/
def bookedGap (sustainedRps : Int) : Int := 1000 / sustainedRps

/-- At an inexact rate, one millisecond past the booked gap earns a token again,
and the refill books the gap alone. -/
theorem bookedGap_spec {sustainedRps : Int} (positive : 1 ≤ sustainedRps)
    (inexact : ¬ ExactRate sustainedRps) :
    0 ≤ bookedGap sustainedRps ∧ bookedGap sustainedRps ≤ 1000 ∧
      sustainedRps * bookedGap sustainedRps < 1000 ∧
      1 ≤ (bookedGap sustainedRps + 1) * sustainedRps / 1000 ∧
      (bookedGap sustainedRps + 1) * sustainedRps / 1000 * 1000 / sustainedRps =
        bookedGap sustainedRps := by
  simp only [ExactRate, not_or] at inexact
  obtain ⟨notPeriod, notPerMs⟩ := inexact
  simp only [bookedGap]
  have nonneg : 0 ≤ 1000 / sustainedRps := Int.ediv_nonneg (by decide) (by omega)
  have capped : 1000 / sustainedRps ≤ 1000 := Int.ediv_le_self _ (by decide)
  have below := Int.mul_ediv_self_le (x := 1000) (k := sustainedRps) (by omega)
  have strict : sustainedRps * (1000 / sustainedRps) ≠ 1000 :=
    fun same => notPeriod ⟨_, same.symm⟩
  have above := Int.lt_ediv_add_one_mul_self 1000 (show 0 < sustainedRps by omega)
  have earned : 1 ≤ (1000 / sustainedRps + 1) * sustainedRps / 1000 :=
    (Int.le_ediv_iff_mul_le (by decide)).mpr (by linarith)
  refine ⟨nonneg, capped, lt_of_le_of_ne below strict, earned, ?_⟩
  by_cases slow : sustainedRps < 1000
  · -- Below one token a millisecond the refill is a single token.
    have single : (1000 / sustainedRps + 1) * sustainedRps / 1000 = 1 := by
      have few : (1000 / sustainedRps + 1) * sustainedRps / 1000 < 2 :=
        (Int.ediv_lt_iff_lt_mul (by decide)).mpr (by linarith)
      omega
    rw [single, one_mul]
  · have zero_ : 1000 / sustainedRps = 0 := by
      have other : sustainedRps ≠ 1000 := fun same => notPeriod ⟨1, by rw [same]; rfl⟩
      exact Int.ediv_eq_zero_of_lt (by decide) (by omega)
    rw [zero_, zero_add, one_mul]
    have floored := Int.mul_ediv_self_le (x := sustainedRps) (k := 1000) (by decide)
    have partial_ : 1000 * (sustainedRps / 1000) ≠ sustainedRps :=
      fun same => notPerMs ⟨_, same.symm⟩
    exact Int.ediv_eq_zero_of_lt (by omega) (by omega)

theorem ttlMs_long (sustainedRps burstCapacity : Int) (positive : 1 ≤ sustainedRps)
    (room : sustainedRps ≤ burstCapacity) : 2000 ≤ ttlMs sustainedRps burstCapacity := by
  rw [ttlMs, Int.le_ediv_iff_mul_le (by omega)]
  linarith

/-- From an empty or better bucket, every one of the drifting calls is allowed. -/
theorem drift_allowed {sustainedRps burstCapacity : Int} (positive : 1 ≤ sustainedRps)
    (room : sustainedRps ≤ burstCapacity) (inexact : ¬ ExactRate sustainedRps)
    (count : Nat) (tokens stamp deadline : Int) (nonneg : 0 ≤ tokens)
    (live : stamp + bookedGap sustainedRps + 1 < deadline) :
    (Runs.outputs (cellCall sustainedRps burstCapacity)
      (some ⟨⟨some tokens, some stamp⟩, some deadline⟩)
      (driftTimes (bookedGap sustainedRps) stamp count)).countP Reply.isAllowed = count := by
  obtain ⟨gapNonneg, gapCapped, _, earned, booked⟩ := bookedGap_spec positive inexact
  have long := ttlMs_long sustainedRps burstCapacity positive room
  induction count generalizing tokens stamp deadline with
  | zero => rfl
  | succ count ih =>
      have elapsed : stamp + bookedGap sustainedRps + 1 - stamp = bookedGap sustainedRps + 1 := by
        ring
      have forward : ¬ bookedGap sustainedRps + 1 < 0 := by omega
      have positiveRefill : (bookedGap sustainedRps + 1) * sustainedRps / 1000 > 0 := by omega
      have enough : min burstCapacity
          (tokens + (bookedGap sustainedRps + 1) * sustainedRps / 1000) ≥ 1 :=
        le_min (by omega) (by omega)
      rw [driftTimes, Runs.outputs_cons, List.countP_cons]
      simp only [cellCall, load, current_of_live (Entry.live_some.mpr live), applyRefill, refillOf,
        elapsed, forward, positiveRefill, booked, enough, ↓reduceIte, Reply.isAllowed]
      rw [ih _ _ _ (by omega) (by omega)]

/-- A burst at one instant drains a bucket one token a call. -/
theorem burst_drains {sustainedRps burstCapacity : Int} (positive : 1 ≤ sustainedRps)
    (room : sustainedRps ≤ burstCapacity) (count : Nat) (tokens : Int)
    (enough : (count : Int) ≤ tokens) :
    (Runs.outputs (cellCall sustainedRps burstCapacity)
        (some ⟨⟨some tokens, some 0⟩, some (ttlMs sustainedRps burstCapacity)⟩)
        (List.replicate count 0)).countP Reply.isAllowed = count ∧
      Runs.final (cellCall sustainedRps burstCapacity)
        (some ⟨⟨some tokens, some 0⟩, some (ttlMs sustainedRps burstCapacity)⟩)
        (List.replicate count 0) =
          some ⟨⟨some (tokens - count), some 0⟩, some (ttlMs sustainedRps burstCapacity)⟩ := by
  have live : 0 < ttlMs sustainedRps burstCapacity := by
    have long := ttlMs_long sustainedRps burstCapacity positive room
    omega
  induction count generalizing tokens with
  | zero => simp
  | succ count ih =>
      rw [Nat.cast_add, Nat.cast_one] at enough ⊢
      have one : tokens ≥ 1 := by omega
      have step : cellCall sustainedRps burstCapacity
          (some ⟨⟨some tokens, some 0⟩, some (ttlMs sustainedRps burstCapacity)⟩) 0 =
          (some ⟨⟨some (tokens - 1), some 0⟩, some (ttlMs sustainedRps burstCapacity)⟩,
            .allowed (tokens - 1)) := by
        simp [cellCall, load, current_of_live (Entry.live_some.mpr live), applyRefill, refillOf,
          one]
      obtain ⟨counted, drained⟩ := ih (tokens - 1) (by omega)
      rw [List.replicate_succ, Runs.outputs_cons, Runs.final_cons, step]
      constructor
      · simp only [List.countP_cons, counted, Reply.isAllowed, ↓reduceIte]
      · rw [drained, show tokens - 1 - count = tokens - (count + 1) by ring]

/-- The overrun: the burst at time zero followed by `count` drifting calls. -/
def overrun (sustainedRps : Int) (burst count : Nat) : List Int :=
  List.replicate burst 0 ++ driftTimes (bookedGap sustainedRps) 0 count

theorem overrun_sorted {sustainedRps : Int} (positive : 1 ≤ sustainedRps) (burst count : Nat) :
    (overrun sustainedRps burst count).Pairwise (· ≤ ·) := by
  have nonneg : 0 ≤ bookedGap sustainedRps := Int.ediv_nonneg (by decide) (by omega)
  refine List.pairwise_append.mpr ⟨?_, driftTimes_sorted _ _ _ nonneg, ?_⟩
  · exact List.pairwise_replicate.mpr (Or.inr (le_refl _))
  · intro early inBurst late inDrift
    rw [List.eq_of_mem_replicate inBurst]
    have after := driftTimes_ge _ _ _ nonneg late inDrift
    omega

/-- Every call of the overrun is allowed. -/
theorem overrun_allowed {sustainedRps : Int} (positive : 1 ≤ sustainedRps) (burst : Nat)
    (room : sustainedRps ≤ burst + 1) (inexact : ¬ ExactRate sustainedRps) (count : Nat)
    (key : String) (redis : Redis) (absent : redis key = none) :
    allowedIn key sustainedRps (burst + 1) redis [] (overrun sustainedRps (burst + 1) count) [] =
      burst + 1 + count := by
  have long := ttlMs_long sustainedRps (burst + 1) positive room
  obtain ⟨_, gapCapped, _, _, _⟩ := bookedGap_spec positive inexact
  have fresh : cellCall sustainedRps (burst + 1) none 0 =
      (some ⟨⟨some burst, some 0⟩, some (ttlMs sustainedRps (burst + 1))⟩, .allowed burst) := by
    simp [cellCall, load, applyRefill, refillOf]
  obtain ⟨counted, drained⟩ := burst_drains positive room burst burst (le_refl _)
  have drift := drift_allowed positive room inexact count 0 0
    (ttlMs sustainedRps (burst + 1)) (le_refl _) (by omega)
  rw [allowedIn_cell, absent, Runs.final_nil, overrun, List.replicate_succ, List.cons_append,
    Runs.outputs_cons, fresh, List.countP_cons, Runs.outputs_append, List.countP_append,
    counted, drained, sub_self, drift]
  simp only [Reply.isAllowed, ↓reduceIte]
  omega

/-- At an inexact rate a long enough overrun beats every bound of the advertised shape. -/
theorem rateBound_fails {sustainedRps burstCapacity : Int} (positive : 1 ≤ sustainedRps)
    (room : sustainedRps ≤ burstCapacity) (inexact : ¬ ExactRate sustainedRps) :
    ¬ RateBound sustainedRps burstCapacity := by
  intro bound
  obtain ⟨burst, rfl⟩ : ∃ burst : Nat, burstCapacity = burst + 1 :=
    ⟨(burstCapacity - 1).toNat, by omega⟩
  obtain ⟨count, long⟩ : ∃ count : Nat, (count : Int) = 1000 + sustainedRps :=
    ⟨(1000 + sustainedRps).toNat, by omega⟩
  obtain ⟨_, _, slow, _, _⟩ := bookedGap_spec positive inexact
  have window : overrun sustainedRps (burst + 1) (count + 1) =
      0 :: (List.replicate burst 0 ++ driftTimes (bookedGap sustainedRps) 0 (count + 1)) := by
    rw [overrun, List.replicate_succ, List.cons_append]
  have limit := bound "" (fun _ => none) [] 0
    (List.replicate burst 0 ++ driftTimes (bookedGap sustainedRps) 0 (count + 1)) [] rfl
    (by simpa only [List.nil_append, List.append_nil, ← window] using
      overrun_sorted positive (burst + 1) (count + 1))
  have last : (0 :: (List.replicate burst 0 ++
      driftTimes (bookedGap sustainedRps) 0 (count + 1))).getLast (by simp) =
      (count + 1) * bookedGap sustainedRps + 1 := by
    have found := driftTimes_getLast (bookedGap sustainedRps) 0 count
    rw [List.getLast_eq_iff_getLast?_eq_some, ← List.cons_append, List.getLast?_append, found]
    simp
  rw [last, ← window, overrun_allowed positive burst room inexact (count + 1) "" _ rfl] at limit
  push_cast at limit
  have falls : (count + 1) * (sustainedRps * bookedGap sustainedRps) ≤ ((count : Int) + 1) * 999 :=
    Int.mul_le_mul_of_nonneg_left (by omega) (by omega)
  linarith

/-- The limiter keeps its advertised bound exactly at the rates whose refill is exact. -/
theorem rateBound_iff_exactRate (sustainedRps burstCapacity : Int) (positive : 1 ≤ sustainedRps)
    (room : sustainedRps ≤ burstCapacity) :
    RateBound sustainedRps burstCapacity ↔ sustainedRps ∣ 1000 ∨ 1000 ∣ sustainedRps := by
  constructor
  · intro bound
    by_contra inexact
    exact rateBound_fails positive room inexact bound
  · exact rateBound_of_exact positive room

/-- The query default of 200 a second is exact; so is the inbound default of 2000. -/
theorem rateBound_defaults :
    RateBound 200 400 ∧ RateBound 2000 4000 :=
  ⟨(rateBound_iff_exactRate 200 400 (by decide) (by decide)).mpr (by decide),
    (rateBound_iff_exactRate 2000 4000 (by decide) (by decide)).mpr (by decide)⟩

/-- At 1500 a second with a burst of 1500, four more calls pass in the next millisecond. -/
theorem rateBound_fails_at_1500 :
    (overrun 1500 1500 4).Pairwise (· ≤ ·) ∧
      (overrun 1500 1500 4).head? = some 0 ∧ (overrun 1500 1500 4).getLast? = some 1 ∧
      ¬ 1000 * (allowedIn "ratelimit:tenant-a:inbound" 1500 1500 (fun _ => none) []
          (overrun 1500 1500 4) [] : Int) ≤ 1000 * (1500 + 1) + 1500 * (1 - 0) := by
  refine ⟨overrun_sorted (by decide) 1500 4, rfl, ?_, ?_⟩
  · rw [overrun, List.getLast?_append, driftTimes_getLast]
    rfl
  · have passed : allowedIn "ratelimit:tenant-a:inbound" 1500 1500 (fun _ => none) []
        (overrun 1500 1500 4) [] = 1504 :=
      overrun_allowed (by decide) 1499 (by decide) (by decide) 4 "ratelimit:tenant-a:inbound"
        (fun _ => none) rfl
    rw [passed]
    decide

end CollectMind.TokenBucket
