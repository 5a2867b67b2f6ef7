import Mathlib.Tactic.Ring
import SwapArchive.Series.Candles

/-!
# Closing candles within 64 bits

The candles before a bucket are closed one by one, and the end of each is computed to be compared
with the bucket. The ends increase, so that all of them fit in a word if that of the last candle
does. Then as many candles are closed as there are periods up to the bucket.
-/

namespace SwapArchive

section Buckets

variable {time time' first period : Int}

theorem bucketStart_le (hPeriod : 0 < period) : bucketStart time period ≤ time :=
  Int.ediv_mul_le time hPeriod.ne'

theorem lt_bucketStart (hPeriod : 0 < period) : time < bucketStart time period + period := by
  have hNext := Int.lt_ediv_add_one_mul_self time hPeriod
  rwa [Int.add_mul, Int.one_mul] at hNext

theorem dvd_bucketStart : period ∣ bucketStart time period := Int.dvd_mul_left ..

/-- A time that is a multiple of the period is not after the bucket of any later time. -/
theorem le_bucketStart (hPeriod : 0 < period) (hFirst : period ∣ first) (h : first ≤ time) :
    first ≤ bucketStart time period := by
  obtain ⟨k, rfl⟩ := hFirst
  rw [Int.mul_comm] at h ⊢
  exact Int.mul_le_mul_of_nonneg_right ((Int.le_ediv_iff_mul_le hPeriod).2 h) hPeriod.le

theorem bucketStart_mono (hPeriod : 0 < period) (h : time ≤ time') :
    bucketStart time period ≤ bucketStart time' period :=
  le_bucketStart hPeriod dvd_bucketStart ((bucketStart_le hPeriod).trans h)

/-- A multiple of the period begins the bucket of every time in the period after it. -/
theorem eq_bucketStart (hPeriod : 0 < period) (hFirst : period ∣ first) (hFrom : first ≤ time)
    (hTo : time < first + period) : first = bucketStart time period := by
  have hBucket := le_bucketStart hPeriod hFirst hFrom
  have hStart : bucketStart time period ≤ time := bucketStart_le hPeriod
  have hSame : bucketStart time period - first = 0 :=
    Int.eq_zero_of_dvd_of_nonneg_of_lt (by omega) (by omega)
      (Int.dvd_sub dvd_bucketStart hFirst)
  omega

/-- Whole periods lead from one multiple of the period to a later one. -/
theorem exists_periods {last : Int} (hPeriod : 0 < period) (hFirst : period ∣ first)
    (hLast : period ∣ last) (h : first ≤ last) : ∃ k : Nat, first + k * period = last := by
  obtain ⟨k, hk⟩ := Int.dvd_sub hLast hFirst
  have hFromFirst : 0 ≤ k := Int.nonneg_of_mul_nonneg_right (by omega) hPeriod
  refine ⟨k.toNat, ?_⟩
  rw [Int.toNat_of_nonneg hFromFirst, Int.mul_comm, ← hk]
  omega

end Buckets

section Words

variable {n time period : Int}

/-- A number that fits in a word of 64 bits. -/
def FitsWord (n : Int) : Prop := -2 ^ 63 ≤ n ∧ n < 2 ^ 63

instance : DecidablePred FitsWord := fun n =>
  inferInstanceAs (Decidable (-2 ^ 63 ≤ n ∧ n < 2 ^ 63))

theorem inWord_eq (operation : String) (n : Int) :
    inWord operation n = if FitsWord n then .ok n else .error (.overflow operation) := by
  have hContains : Text.IntegerRange.signed64.contains n = true ↔ FitsWord n := by
    rw [Text.IntegerRange.contains, Bool.and_eq_true, decide_eq_true_iff, decide_eq_true_iff]
    show -9223372036854775808 ≤ n ∧ n ≤ 9223372036854775807 ↔ -2 ^ 63 ≤ n ∧ n < 2 ^ 63
    omega
  simp only [inWord, hContains]

/-- **A period fits**, with the time in it: it begins and ends within 64 bits. -/
def PeriodFits (period time : Int) : Prop :=
  FitsWord (bucketStart time period) ∧ FitsWord (bucketStart time period + period)

instance (period time : Int) : Decidable (PeriodFits period time) :=
  inferInstanceAs (Decidable (_ ∧ _))

/-- The operation that overflows where a period does not fit. -/
def overflowOf (period time : Int) : String :=
  if FitsWord (time / period) then
    if FitsWord (bucketStart time period) then "add" else "multiply"
  else "divide"

theorem fitsWord_ediv (hPeriod : 0 < period) (h : FitsWord (bucketStart time period)) :
    FitsWord (time / period) := by
  obtain ⟨hLow, hHigh⟩ := h
  unfold bucketStart at hLow hHigh
  rcases Int.le_total 0 (time / period) with hAfter | hBefore
  · have hLess : time / period * 1 ≤ time / period * period :=
      Int.mul_le_mul_of_nonneg_left hPeriod hAfter
    constructor <;> omega
  · have hLess : time / period * period ≤ time / period * 1 :=
      Int.mul_le_mul_of_nonpos_left hBefore hPeriod
    constructor <;> omega

theorem bucketOf_eq (hPeriod : 0 < period) (time : Int) : bucketOf time period
    = if FitsWord (bucketStart time period) then .ok (bucketStart time period)
      else .error (.overflow (overflowOf period time)) := by
  rw [bucketOf, if_neg hPeriod.ne', inWord_eq, inWord_eq, overflowOf]
  by_cases hQuotient : FitsWord (time / period)
  · by_cases hStart : FitsWord (bucketStart time period) <;> simp only [hQuotient, hStart] <;> rfl
  · have hStart := mt (fitsWord_ediv hPeriod) hQuotient
    simp only [hQuotient, hStart]
    rfl

end Words

namespace CandleBuilder

variable {b : CandleBuilder} {c : FormingCandle} {bucket : Int} {t : Trade}
  {deviation : Option Float}

/-- The number of candles that are closed up to a bucket. -/
def periodsTo (b : CandleBuilder) (c : FormingCandle) (bucket : Int) : Nat :=
  ((bucket - c.time) / b.period).toNat

/-- Closes so many candles, and returns the one that is then forming. -/
def closeMany (b : CandleBuilder) (c : FormingCandle) :
    (count : Nat) → (closed : Array Candle) → FormingCandle × Array Candle
  | 0, closed => (c, closed)
  | count + 1, closed =>
    b.closeMany (c.next b.period) count (closed.push (c.close b.period b.threshold))

theorem periodsTo_of_lt (h : bucket < c.time + b.period) : b.periodsTo c bucket = 0 := by
  have hLess : (bucket - c.time) / b.period < 1 :=
    Int.ediv_lt_of_lt_mul b.period_pos (by omega)
  rw [periodsTo]
  omega

theorem periodsTo_next (h : c.time + b.period ≤ bucket) :
    b.periodsTo c bucket = b.periodsTo (c.next b.period) bucket + 1 := by
  have hLater : (c.next b.period).time = c.time + b.period := rfl
  have hSplit : bucket - c.time = bucket - (c.next b.period).time + b.period := by omega
  have hRest : 0 ≤ (bucket - (c.next b.period).time) / b.period :=
    Int.ediv_nonneg (by omega) b.period_pos.le
  rw [periodsTo, periodsTo, hSplit, Int.add_ediv_of_dvd_right (Int.dvd_refl _),
    Int.ediv_self b.period_pos.ne']
  omega

/-- The candles that are closed up to a bucket lead to it, unless it is before them. -/
theorem time_add_periodsTo (hTime : b.period ∣ c.time) (hBucket : b.period ∣ bucket) :
    c.time + b.periodsTo c bucket * b.period = max c.time bucket := by
  obtain ⟨k, hk⟩ := Int.dvd_sub hBucket hTime
  rw [periodsTo, hk, Int.mul_ediv_cancel_left _ b.period_pos.ne']
  rcases Int.le_total 0 k with hAfter | hBefore
  · have hSpan : 0 ≤ b.period * k := Int.mul_nonneg b.period_pos.le hAfter
    rw [Int.toNat_of_nonneg hAfter, Int.mul_comm k, ← hk, max_eq_right (by omega)]
    omega
  · have hSpan : b.period * k ≤ 0 := Int.mul_nonpos_of_nonneg_of_nonpos b.period_pos.le hBefore
    rw [Int.toNat_of_nonpos hBefore, max_eq_left (by omega)]
    simp

/-- **Closing candles** up to a bucket closes as many as there are periods, if the end of the one
that is then forming fits in a word. -/
theorem closeThrough_eq (hLow : -2 ^ 63 ≤ c.time) (closed : Array Candle) :
    b.closeThrough c bucket closed
      = if FitsWord (c.time + b.periodsTo c bucket * b.period + b.period) then
          .ok (b.closeMany c (b.periodsTo c bucket) closed)
        else .error (.overflow "add") := by
  have hPeriod := b.period_pos
  induction hCount : b.periodsTo c bucket generalizing c closed with
  | zero =>
    have hLast : ¬ c.time + b.period ≤ bucket := fun hLess => by
      have hNext := periodsTo_next hLess
      omega
    unfold closeThrough
    rw [inWord_eq, if_neg hLast, Nat.cast_zero, Int.zero_mul, Int.add_zero]
    split <;> rfl
  | succ count ih =>
    have hMore : c.time + b.period ≤ bucket := by
      by_contra hLess
      rw [periodsTo_of_lt (Int.not_le.1 hLess)] at hCount
      cases hCount
    have hRest : b.periodsTo (c.next b.period) bucket = count :=
      Nat.succ.inj ((periodsTo_next hMore).symm.trans hCount)
    have hEnd : (c.next b.period).time + count * b.period + b.period
        = c.time + (count + 1 : Nat) * b.period + b.period := by
      rw [FormingCandle.next, FormingCandle.flat]
      push_cast
      ring
    have hSpan : 0 ≤ count * b.period := Int.mul_nonneg (Int.natCast_nonneg _) hPeriod.le
    have hTime : (c.next b.period).time = c.time + b.period := rfl
    have hClosing := ih (by omega) (closed.push (c.close b.period b.threshold)) hRest
    rw [hEnd] at hClosing
    unfold closeThrough
    rw [inWord_eq, if_pos hMore, hClosing]
    -- The sums on the way lie between the first and the last, so the last one decides.
    by_cases hFits : FitsWord (c.time + (count + 1 : Nat) * b.period + b.period)
    · have hNext : FitsWord (c.time + b.period) := by
        unfold FitsWord at *
        omega
      rw [if_pos hNext]
      rfl
    · rw [if_neg hFits]
      split <;> rfl

/-- The builder with a trade that a candle and those after it have led to. -/
def taking (b : CandleBuilder) (c : FormingCandle) (t : Trade) (deviation : Option Float) :
    CandleBuilder :=
  let (c, closed) := b.closeMany c (b.periodsTo c (bucketStart t.timestamp b.period)) b.closed
  { b with forming := some (c.add t deviation), closed := closed }

def advanced (b : CandleBuilder) (time : Int) : CandleBuilder :=
  match b.forming with
  | none => b
  | some c =>
    let (c, closed) := b.closeMany c (b.periodsTo c (bucketStart time b.period)) b.closed
    { b with forming := some c, closed := closed }

/-- **A standing builder**: the candle that is forming, if there is one, begins at a multiple of the
period, and begins and ends within 64 bits. -/
def Standing (b : CandleBuilder) : Prop :=
  ∀ c, b.forming = some c → b.period ∣ c.time ∧ FitsWord c.time ∧ FitsWord (c.time + b.period)

/-- The candle that a trade comes to, the one that is forming or else a new one, begins at a multiple
of the period. -/
theorem Standing.dvd_getD (h : b.Standing)
    (hForming : b.forming.getD (.flat (bucketStart t.timestamp b.period) t.price) = c) :
    b.period ∣ c.time := by
  subst hForming
  cases hOpen : b.forming with
  | none => exact dvd_bucketStart
  | some c => exact (h c hOpen).1

theorem Standing.low_getD (h : b.Standing)
    (hForming : b.forming.getD (.flat (bucketStart t.timestamp b.period) t.price) = c)
    (hStart : FitsWord (bucketStart t.timestamp b.period)) : -2 ^ 63 ≤ c.time := by
  subst hForming
  cases hOpen : b.forming with
  | none => exact hStart.1
  | some c => exact (h c hOpen).2.1.1

/-- Closing candles up to the bucket of a time, if the bucket fits in a word, is possible if its
period fits. -/
theorem closeThrough_bucket (hDvd : b.period ∣ c.time) (hLow : -2 ^ 63 ≤ c.time)
    (hFinish : bucket < c.time → FitsWord (c.time + b.period)) {time : Int}
    (hBucket : bucketStart time b.period = bucket) (hStart : FitsWord bucket)
    (closed : Array Candle) : b.closeThrough c bucket closed
      = if PeriodFits b.period time then .ok (b.closeMany c (b.periodsTo c bucket) closed)
        else .error (.overflow (overflowOf b.period time)) := by
  subst hBucket
  have hAdd : ¬ PeriodFits b.period time → overflowOf b.period time = "add" := fun _ => by
    rw [overflowOf, if_pos (fitsWord_ediv b.period_pos hStart), if_pos hStart]
  have hFits : FitsWord (c.time
      + b.periodsTo c (bucketStart time b.period) * b.period + b.period)
        ↔ PeriodFits b.period time := by
    rw [time_add_periodsTo hDvd dvd_bucketStart, PeriodFits]
    have hPeriod := b.period_pos
    unfold FitsWord at *
    omega
  rw [closeThrough_eq hLow]
  by_cases hPeriod : PeriodFits b.period time
  · rw [if_pos hPeriod, if_pos (hFits.2 hPeriod)]
  · rw [if_neg hPeriod, if_neg (mt hFits.1 hPeriod), hAdd hPeriod]

theorem closeMany_emptied (b : CandleBuilder) (c : FormingCandle) (count : Nat)
    (closed : Array Candle) :
    closeMany { b with forming := none } c count closed = b.closeMany c count closed := by
  induction count generalizing c closed with
  | zero => rfl
  | succ count ih => exact ih ..

/-- **A trade is refused** if its bucket, which fits in a word, is before the candle that is
forming. -/
theorem offerTrade_of_lt (hForming : b.forming = some c)
    (hLate : bucketStart t.timestamp b.period < c.time) : b.offerTrade t deviation
      = if FitsWord (bucketStart t.timestamp b.period) then
          .ok (.error (.data s!"trade at {t.timestamp} precedes open candle at {c.time}"), b)
        else .error (.overflow (overflowOf b.period t.timestamp)) := by
  rw [offerTrade, bucketOf_eq b.period_pos]
  split
  · show (match b.forming with
      | none => _
      | some c => _) = _
    rw [hForming]
    dsimp only
    rw [if_pos hLate, ← hForming]
    rfl
  · rfl

/-- **A trade is taken** otherwise, if its period fits. -/
theorem offerTrade_of_le (hStanding : b.Standing)
    (hForming : b.forming.getD (.flat (bucketStart t.timestamp b.period) t.price) = c)
    (hTime : ¬ bucketStart t.timestamp b.period < c.time) : b.offerTrade t deviation
      = if PeriodFits b.period t.timestamp then .ok (.ok (), b.taking c t deviation)
        else .error (.overflow (overflowOf b.period t.timestamp)) := by
  let emptied : CandleBuilder := { b with forming := none }
  rw [offerTrade, bucketOf_eq b.period_pos]
  by_cases hStart : FitsWord (bucketStart t.timestamp b.period)
  · rw [if_pos hStart]
    -- Whichever candle the trade comes to, those from it up to the bucket are closed.
    have hTake : emptied.takeTrade c (bucketStart t.timestamp b.period) t deviation
        = if PeriodFits b.period t.timestamp then .ok (b.taking c t deviation)
          else .error (.overflow (overflowOf b.period t.timestamp)) := by
      rw [takeTrade, closeThrough_bucket (b := emptied) (hStanding.dvd_getD hForming)
        (hStanding.low_getD hForming hStart) (fun hLate => absurd hLate hTime) rfl hStart,
        closeMany_emptied]
      by_cases hFits : PeriodFits b.period t.timestamp
      · rw [if_pos hFits, if_pos hFits]
        rfl
      · rw [if_neg hFits, if_neg hFits]
        rfl
    cases hOpen : b.forming with
    | none =>
      rw [hOpen, Option.getD_none] at hForming
      subst hForming
      show (do return (.ok (), ← emptied.takeTrade _ _ t deviation) :
        Except Crash (Outcome Unit × CandleBuilder)) = _
      rw [hTake]
      split <;> rfl
    | some c' =>
      rw [hOpen] at hForming
      obtain rfl : c' = c := hForming
      show (if _ then _ else do return (.ok (), ← emptied.takeTrade _ _ t deviation) :
        Except Crash (Outcome Unit × CandleBuilder)) = _
      rw [if_neg hTime, hTake]
      split <;> rfl
  · have hFits : ¬ PeriodFits b.period t.timestamp := fun h => hStart h.1
    rw [if_neg hStart, if_neg hFits]
    rfl

theorem advanceTo_of_none (h : b.forming = none) (time : Int) : b.advanceTo time
    = if FitsWord (bucketStart time b.period) then .ok b
      else .error (.overflow (overflowOf b.period time)) := by
  rw [advanceTo, bucketOf_eq b.period_pos, h]
  split <;> rfl

/-- **Time passes**, if its period fits. -/
theorem advanceTo_of_some (hStanding : b.Standing) (hForming : b.forming = some c) (time : Int) :
    b.advanceTo time = if PeriodFits b.period time then .ok (b.advanced time)
      else .error (.overflow (overflowOf b.period time)) := by
  obtain ⟨hDvd, hLow, hFinish⟩ := hStanding c hForming
  rw [advanceTo, bucketOf_eq b.period_pos, advanced, hForming]
  by_cases hStart : FitsWord (bucketStart time b.period)
  · rw [if_pos hStart]
    show (do
      let (c, closed) ← b.closeThrough c (bucketStart time b.period) b.closed
      return { b with forming := some c, closed := closed }) = _
    rw [closeThrough_bucket hDvd hLow.1 (fun _ => hFinish) rfl hStart]
    split <;> rfl
  · have hFits : ¬ PeriodFits b.period time := fun h => hStart h.1
    rw [if_neg hStart, if_neg hFits]
    rfl

end CandleBuilder
end SwapArchive
