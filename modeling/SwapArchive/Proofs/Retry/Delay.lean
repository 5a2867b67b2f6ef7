import Mathlib.Tactic.Ring
import SwapArchive.Proofs.Retry.Outcomes

/-!
# How long a policy waits

Before a further attempt, a policy waits for its base delay, doubled once for every attempt, moved
by up to a tenth either way, and cut to the greatest delay. It computes this in words: doubling
stops at the greatest one, but the moved delay is a signed word. So a delay that is moved to the
middle of the words or beyond counts as negative, and instead of the greatest delay there is none.
-/

namespace SwapArchive

section Words

theorem toNat_saturate (n : Nat) : (saturate n).toNat = min n (2 ^ 64 - 1) := by
  rw [saturate, UInt64.toNat_ofNat']
  exact Nat.mod_eq_of_lt (by omega)

/-- What is cut in the end may be cut before. -/
theorem min_mul_min (a b cap : Nat) : min (a * min b cap) cap = min (a * b) cap := by
  rcases Nat.le_total b cap with hUnder | hOver
  · rw [Nat.min_eq_left hUnder]
  · rw [Nat.min_eq_right hOver]
    rcases Nat.eq_zero_or_pos a with rfl | hSome
    · simp
    · have hCap : cap ≤ a * cap := Nat.le_mul_of_pos_left cap hSome
      have hProduct : a * cap ≤ a * b := Nat.mul_le_mul_left a hOver
      rw [Nat.min_eq_right hCap, Nat.min_eq_right (Nat.le_trans hCap hProduct)]

/-- A word as a signed one loses the size of the words from their middle on. -/
theorem toInt_toInt64 (w : UInt64) :
    w.toInt64.toInt = if w.toNat < 2 ^ 63 then (w.toNat : Int) else w.toNat - 2 ^ 64 := by
  have hWord : w.toInt64.toInt = (w.toNat : Int).bmod (2 ^ 64) := by
    rw [← Int64.toInt_toBitVec, UInt64.toBitVec_toInt64, BitVec.toInt_eq_toNat_bmod,
      UInt64.toNat_toBitVec]
  have hLess := w.toNat_lt
  rw [hWord, Int.bmod]
  split <;> split <;> omega

/-- A signed word that is not negative is the same as an unsigned one. -/
theorem toNat_toUInt64_of_nonneg {w : Int64} (h : 0 ≤ w.toInt) : w.toUInt64.toNat = w.toInt.toNat :=
  Int64.toNat_toUInt64_of_le (Int64.le_iff_toInt_le.2 h)

end Words

namespace RetryPolicy

variable (policy : RetryPolicy) (attempt : Nat) {draw : UInt64}

/-- **Doubled delay**: the base delay times two for every attempt, up to the greatest word. -/
def doubled : Nat := min (policy.baseMillis.toNat * 2 ^ attempt) (2 ^ 64 - 1)

/-- **Shift**: how far a draw moves the doubled delay. -/
def shift (draw : UInt64) : Int := draw.toNat - (policy.doubled attempt / 10 : Nat)

theorem toNat_exponential : (policy.exponential attempt).toNat = policy.doubled attempt := by
  have hPower : min (2 ^ min attempt 64) (2 ^ 64 - 1) = min (2 ^ attempt) (2 ^ 64 - 1) := by
    rcases Nat.le_total attempt 64 with hFew | hMany
    · rw [Nat.min_eq_left hFew]
    · have hPast : 2 ^ 64 ≤ 2 ^ attempt := Nat.pow_le_pow_right (by decide) hMany
      rw [Nat.min_eq_right hMany]
      omega
  rw [exponential, toNat_saturate, toNat_saturate, Nat.pow_eq, hPower, min_mul_min, doubled]

theorem toNat_jitterRange : (policy.jitterRange attempt).toNat = policy.doubled attempt / 10 := by
  rw [jitterRange, UInt64.toNat_div, toNat_exponential]
  rfl

theorem doubled_lt : policy.doubled attempt < 2 ^ 64 := by
  rw [doubled]
  omega

variable {policy attempt}

/-- The draw and the range of a delay are the same as signed words, and so is what is between. -/
theorem toInt_jitter (hDraw : draw ≤ 2 * policy.jitterRange attempt) :
    draw.toInt64.toInt = draw.toNat ∧
      (policy.jitterRange attempt).toInt64.toInt = (policy.jitterRange attempt).toNat ∧
      (draw.toInt64 - (policy.jitterRange attempt).toInt64).toInt = policy.shift attempt draw ∧
      (policy.shift attempt draw).natAbs ≤ policy.doubled attempt / 10 := by
  have hDoubled := policy.doubled_lt attempt
  rw [UInt64.le_iff_toNat_le, UInt64.toNat_mul] at hDraw
  have hTwo : (2 : UInt64).toNat = 2 := rfl
  rw [hTwo, toNat_jitterRange] at hDraw
  have hSame : draw.toInt64.toInt = draw.toNat := by
    rw [toInt_toInt64, if_pos (by omega)]
  have hRange :
      (policy.jitterRange attempt).toInt64.toInt = (policy.jitterRange attempt).toNat := by
    rw [toInt_toInt64, toNat_jitterRange, if_pos (by omega)]
  refine ⟨hSame, hRange, ?_, ?_⟩
  · rw [Int64.toInt_sub, hSame, hRange, toNat_jitterRange, shift]
    exact Int.bmod_eq_of_le (by omega) (by omega)
  · rw [shift]
    omega

/-- A doubled delay is a signed word if it is before the middle of the words. -/
theorem toInt_exponential (policy : RetryPolicy) (attempt : Nat) :
    (policy.exponential attempt).toInt64.toInt
      = if policy.doubled attempt < 2 ^ 63 then (policy.doubled attempt : Int)
        else policy.doubled attempt - 2 ^ 64 := by
  rw [toInt_toInt64, toNat_exponential]

/-- The moved delay, as the signed word that it is taken for. -/
theorem toInt_moved (hDraw : draw ≤ 2 * policy.jitterRange attempt) :
    ((policy.exponential attempt).toInt64
        + (draw.toInt64 - (policy.jitterRange attempt).toInt64)).toInt
      = if policy.doubled attempt + policy.shift attempt draw < 2 ^ 63
        then policy.doubled attempt + policy.shift attempt draw
        else policy.doubled attempt + policy.shift attempt draw - 2 ^ 64 := by
  have hDoubled := policy.doubled_lt attempt
  obtain ⟨-, -, hJitter, hShift⟩ := toInt_jitter hDraw
  rw [Int64.toInt_add, hJitter, toInt_exponential, Int.bmod]
  split <;> split <;> split <;> omega

/-- **The delay** that a draw gives: the moved one, cut on both sides, once it has been taken for a
signed word. -/
theorem toNat_delay (hDraw : draw ≤ 2 * policy.jitterRange attempt) :
    (policy.delay attempt draw).toNat
      = min 30000 (if policy.doubled attempt + policy.shift attempt draw < 2 ^ 63
        then policy.doubled attempt + policy.shift attempt draw
        else policy.doubled attempt + policy.shift attempt draw - 2 ^ 64).toNat := by
  -- Without a range there is nothing to draw, and the difference is zero as well.
  have hJitter : (if policy.jitterRange attempt = 0 then 0
      else draw.toInt64 - (policy.jitterRange attempt).toInt64)
        = draw.toInt64 - (policy.jitterRange attempt).toInt64 := by
    split
    · next hNone =>
      rw [hNone] at hDraw ⊢
      obtain rfl : draw = 0 := UInt64.le_antisymm hDraw (UInt64.zero_le)
      rfl
    · rfl
  have hCap : maxDelayMillis.toNat = 30000 := rfl
  rw [delay, UInt64.toNat_min, hCap, hJitter, ← toInt_moved hDraw, Nat.min_comm]
  generalize (policy.exponential attempt).toInt64
    + (draw.toInt64 - (policy.jitterRange attempt).toInt64) = moved
  congr 1
  split
  · next hBelow =>
    have hNegative : moved.toInt < 0 := Int64.lt_iff_toInt_lt.1 hBelow
    rw [Int.toNat_of_nonpos (Int.le_of_lt hNegative)]
    rfl
  · next hFrom =>
    have hNonneg : ¬ moved.toInt < 0 := fun h => hFrom (Int64.lt_iff_toInt_lt.2 h)
    exact toNat_toUInt64_of_nonneg (by omega)

/-- **The pauses of a run** come before attempts that the policy allows, and are its delays. -/
theorem pauses_runFrom {α σ : Type} (policy : RetryPolicy) (draw : Nat → UInt64)
    (operation : σ → Outcome α × σ) (left attempt : Nat) (s : σ) :
    ∀ pause ∈ (policy.runFrom draw operation left attempt s).pauses,
      pause.attempt < attempt + left ∧
        pause.millis = policy.delay pause.attempt (draw pause.attempt) := by
  intro pause hPause
  obtain ⟨last, hLast, -, -, -, -, -, hLength, hPauses⟩ :=
    policy.runFrom_of_outcomes draw left attempt operation s
  obtain ⟨call, hCall⟩ := List.getElem?_of_mem hPause
  have hCount := (List.getElem?_eq_some_iff.1 hCall).1
  obtain ⟨-, hAttempt, hMillis⟩ := hPauses call pause hCall
  exact ⟨by omega, hMillis⟩

/-- **The delay of a draw.** As long as the moved delay is before the middle of the words, it is
the moved delay, up to the greatest one. From the middle on, it is what the moved delay has above
the greatest word, so nothing at first. What is drawn is never lost on the way, while the doubled
delay is no signed word from the middle on, and the sum of both is one only if they are on one side
of the middle. The pauses of a run are such delays. Their number and one make up the number of
attempts, unless the limit is the greatest there is. -/
theorem delay_of_draw (policy : RetryPolicy) (attempt : Nat) (draw : UInt64)
    (hDraw : draw ≤ 2 * policy.jitterRange attempt) :
    let delay : Int := (policy.delay attempt draw).toNat
    let doubled : Int := policy.doubled attempt
    let moved := doubled + policy.shift attempt draw
    let word := (policy.exponential attempt).toInt64
    let jitter := draw.toInt64 - (policy.jitterRange attempt).toInt64
    (policy.shift attempt draw).natAbs ≤ doubled / 10 ∧ delay ≤ 30000 ∧
      (moved < 2 ^ 63 → delay = min 30000 moved ∧ min 30000 (doubled - doubled / 10) ≤ delay) ∧
      (2 ^ 63 ≤ moved → delay = min 30000 (max 0 (moved - 2 ^ 64))) ∧
      jitter.toInt = policy.shift attempt draw ∧
      (word.toInt = doubled ↔ doubled < 2 ^ 63) ∧
      ((word + jitter).toInt = word.toInt + jitter.toInt ↔ (doubled < 2 ^ 63 ↔ moved < 2 ^ 63)) ∧
      (∀ {α σ : Type} (draws : Nat → UInt64) (operation : σ → Outcome α × σ) (s : σ),
        ∀ pause ∈ (policy.run draws operation s).pauses,
          pause.attempt < policy.maxRetries.toNat ∧
            pause.millis = policy.delay pause.attempt (draws pause.attempt)) ∧
      (policy.attempts.toNat = policy.maxRetries.toNat + 1
        ↔ policy.maxRetries.toNat + 1 < 2 ^ 32) := by
  intro delay doubled moved word jitter
  obtain ⟨-, -, hJitter, hShift⟩ := toInt_jitter hDraw
  have hDoubled := policy.doubled_lt attempt
  -- The sum wraps at most once, since the shift is at most a tenth of what it moves.
  have hDelay : delay = min 30000 (max 0 (if moved < 2 ^ 63 then moved else moved - 2 ^ 64)) := by
    simp only [delay, toNat_delay hDraw, moved, doubled]
    split <;> omega
  have hWord : word.toInt = if doubled < 2 ^ 63 then doubled else doubled - 2 ^ 64 := by
    simp only [word, toInt_exponential, doubled]
    split <;> split <;> omega
  have hMoved : (word + jitter).toInt = if moved < 2 ^ 63 then moved else moved - 2 ^ 64 :=
    toInt_moved hDraw
  refine ⟨?_, ?_, fun hFits => ?_, fun hPast => ?_, hJitter, ?_, ?_, ?_, ?_⟩
  · omega
  · omega
  · rw [if_pos hFits] at hDelay
    omega
  · rw [if_neg (by omega)] at hDelay
    exact hDelay
  · rw [hWord]
    split <;> omega
  · rw [hMoved, hWord, hJitter]
    split <;> split <;> omega
  · intro α σ draws operation s pause hPause
    have hRun := policy.pauses_runFrom draws operation policy.maxRetries.toNat 0 s pause hPause
    rwa [Nat.zero_add] at hRun
  · have hAttempts : policy.attempts.toNat = (policy.maxRetries.toNat + 1) % 2 ^ 32 :=
      UInt32.toNat_add ..
    have hRetries := policy.maxRetries.toNat_lt
    rw [hAttempts]
    omega

/-- A delay moved up by a tenth, and still before the middle of the words. -/
theorem delay_of_draw_near_middle :
    let policy : RetryPolicy := ⟨4000000000000000000, 2⟩
    let draw : UInt64 := 1600000000000000000
    policy.doubled 1 + policy.shift 1 draw = 8800000000000000000 ∧
      ((policy.delay 1 draw).toNat : Int)
        = min 30000 (policy.doubled 1 + policy.shift 1 draw) := by
  intro policy draw
  obtain ⟨-, -, hFits, -⟩ := delay_of_draw policy 1 draw (by decide)
  exact ⟨by decide, (hFits (by decide)).1⟩

/-- With a base delay far beyond the middle of the words, there is no wait before the first further
attempt, whatever is drawn, where the greatest delay is meant. -/
theorem delay_beyond_signed_words :
    let policy : RetryPolicy := ⟨13000000000000000000, 1⟩
    0 < policy.maxRetries.toNat ∧
      ∀ draw, draw ≤ 2 * policy.jitterRange 0 →
        policy.delay 0 draw = 0 ∧
          min 30000 ((policy.doubled 0 : Int) + policy.shift 0 draw) = 30000 := by
  intro policy
  refine ⟨by decide, fun draw hDraw => ?_⟩
  obtain ⟨-, -, -, hShift⟩ := toInt_jitter hDraw
  have hDoubled : policy.doubled 0 = 13000000000000000000 := by decide
  rw [hDoubled] at hShift ⊢
  have hDelay := toNat_delay hDraw
  rw [hDoubled, if_neg (by omega), Int.toNat_of_nonpos (by omega)] at hDelay
  exact ⟨UInt64.toNat_inj.1 hDelay, by omega⟩

end RetryPolicy
end SwapArchive
