import Mathlib.Algebra.BigOperators.Group.Finset.Basic
import SwapArchive.Proofs.Series.Candles

/-!
# Calls of a candle builder

Trades and times come to a builder in any order. A trade that comes too late for the candle that is
forming is refused, and the builder is as it was: what becomes of all calls becomes of those that
are not refused. Whatever has come, the candles follow each other without a gap, and every trade
that has not been refused is counted in the candle of its bucket.
-/

namespace SwapArchive

variable {period : Int} {threshold : Option Float} {taken : List Int} {front candles : List Candle}
  {c : FormingCandle} {t : Trade} {deviation : Option Float}

/-- **A candle follows another**: it begins where the period of the other one ends, and opens where
the other one closes. -/
def Candle.Follows (period : Int) (earlier later : Candle) : Prop :=
  later.time = earlier.time + period ∧ later.opening = earlier.closing

/-- **Candles in line**: each follows the one before it, and has as many trades as have been taken
in its bucket. -/
structure InLine (period : Int) (taken : List Int) (candles : List Candle) : Prop where
  follows : candles.IsChain (Candle.Follows period)
  trades : ∀ c ∈ candles, c.trades = .ofNat (taken.count c.time)
  within : ∀ bucket ∈ taken, bucket ∈ candles.map Candle.time

namespace InLine

theorem ascending (h : InLine period taken candles) (hPeriod : 0 < period) :
    candles.Pairwise (·.time < ·.time) := by
  have hChain : (candles.map Candle.time).IsChain (· < ·) := by
    refine (List.isChain_map _).2 (h.follows.imp fun a b hFollows => ?_)
    have hTime : b.time = a.time + period := hFollows.1
    omega
  exact List.pairwise_map.1 hChain.pairwise

theorem flat (time : Int) (price : Float) :
    InLine period [] [(FormingCandle.flat time price).close period threshold] where
  follows := .singleton _
  trades c hc := by
    obtain rfl := List.mem_singleton.1 hc
    rfl
  within := nofun

theorem next (h : InLine period taken (front ++ [c.close period threshold]))
    (hPeriod : 0 < period) :
    InLine period taken
      (front ++ [c.close period threshold] ++ [(c.next period).close period threshold]) where
  follows := by
    refine List.isChain_append.2 ⟨h.follows, .singleton _, ?_⟩
    simp only [List.getLast?_append, List.getLast?_singleton, List.head?_cons]
    rintro _ ⟨⟩ _ ⟨⟩
    exact ⟨rfl, rfl⟩
  trades := by
    intro x hx
    rcases List.mem_append.1 hx with hOld | hNew
    · exact h.trades x hOld
    · obtain rfl := List.mem_singleton.1 hNew
      -- No trade has been taken after the last candle.
      have hNone : c.time + period ∉ taken := by
        intro hTaken
        obtain ⟨y, hy, hTime⟩ := List.mem_map.1 (h.within _ hTaken)
        have hLast : y.time ≤ c.time := by
          rcases List.mem_append.1 hy with hFront | hThis
          · have hBefore := (List.pairwise_append.1 (h.ascending hPeriod)).2.2 y hFront
            exact (hBefore _ (List.mem_singleton_self _)).le
          · obtain rfl := List.mem_singleton.1 hThis
            exact Int.le_refl _
        omega
      show (0 : UInt32) = .ofNat (taken.count (c.time + period))
      rw [List.count_eq_zero_of_not_mem hNone]
      rfl
  within bucket hBucket := by
    rw [List.map_append]
    exact List.mem_append_left _ (h.within bucket hBucket)

/-- The last candle takes one more trade. -/
theorem add (h : InLine period taken (front ++ [c.close period threshold])) (hPeriod : 0 < period)
    (t : Trade) (deviation : Option Float) :
    InLine period (taken ++ [c.time]) (front ++ [(c.add t deviation).close period threshold]) where
  follows := by
    obtain ⟨hFront, -, hLast⟩ := List.isChain_append.1 h.follows
    refine List.isChain_append.2 ⟨hFront, .singleton _, fun earlier hEarlier => ?_⟩
    rintro _ ⟨⟩
    exact hLast earlier hEarlier (c.close period threshold) rfl
  trades := by
    intro x hx
    rw [List.count_append]
    -- Only the last candle has the bucket of the trade, and only its count goes up.
    rcases List.mem_append.1 hx with hFront | hLast
    · have hBefore := (List.pairwise_append.1 (h.ascending hPeriod)).2.2 x hFront
      have hOther : x.time ≠ c.time := (hBefore _ (List.mem_singleton_self _)).ne
      rw [List.count_singleton, if_neg (by simpa using hOther.symm), Nat.add_zero]
      exact h.trades x (List.mem_append_left _ hFront)
    · obtain rfl := List.mem_singleton.1 hLast
      have hTrades : c.trades = .ofNat (taken.count c.time) :=
        h.trades _ (List.mem_append_right _ (List.mem_singleton_self _))
      show c.trades + 1 = .ofNat (taken.count c.time + [c.time].count c.time)
      rw [hTrades, List.count_singleton_self, UInt32.ofNat_add]
      rfl
  within := by
    intro bucket hBucket
    rw [List.map_append]
    rcases List.mem_append.1 hBucket with hOld | hNew
    · have hThere := h.within bucket hOld
      rw [List.map_append] at hThere
      exact hThere
    · exact List.mem_append_right _ hNew

end InLine

namespace CandleBuilder

variable {b b' : CandleBuilder}

theorem finish_of_some (h : b.forming = some c) :
    b.finish = b.closed.toList ++ [c.close b.period b.threshold] := by
  rw [finish, h]
  exact Array.toList_push

theorem finish_of_none (h : b.forming = none) : b.finish = b.closed.toList := by
  rw [finish, h]

theorem inLine_closeMany {closed : Array Candle} (count : Nat)
    (h : InLine b.period taken (closed.toList ++ [c.close b.period b.threshold])) :
    InLine b.period taken ((b.closeMany c count closed).2.toList
      ++ [(b.closeMany c count closed).1.close b.period b.threshold]) := by
  induction count generalizing c closed with
  | zero => exact h
  | succ count ih =>
    rw [closeMany]
    refine ih ?_
    rw [Array.toList_push]
    exact h.next b.period_pos

theorem time_closeMany (b : CandleBuilder) (c : FormingCandle) (count : Nat)
    (closed : Array Candle) :
    (b.closeMany c count closed).1.time = c.time + count * b.period := by
  induction count generalizing c closed with
  | zero => simp [closeMany]
  | succ count ih =>
    rw [closeMany, ih, FormingCandle.time_next]
    push_cast
    ring

/-- The candles that are closed up to a bucket which is not before them lead to it. -/
theorem time_closeMany_periodsTo {bucket : Int} (hTime : b.period ∣ c.time)
    (hBucket : b.period ∣ bucket) (hAfter : ¬ bucket < c.time) (closed : Array Candle) :
    (b.closeMany c (b.periodsTo c bucket) closed).1.time = bucket := by
  rw [time_closeMany, time_add_periodsTo hTime hBucket, max_eq_right (Int.not_lt.1 hAfter)]

/-- A call of a builder: a trade is offered, or time has passed. -/
inductive Call
  | trade (t : Trade) (deviation : Option Float)
  | time (time : Int)

def Call.second : Call → Int
  | .trade t _ => t.timestamp
  | .time second => second

/-- The bucket that a call offers a trade for. -/
def Call.bucket? (period : Int) : Call → Option Int
  | .trade t _ => some (bucketStart t.timestamp period)
  | .time _ => none

def Call.isTrade : Call → Bool
  | .trade .. => true
  | .time _ => false

/-- **A call**, with the builder after it. -/
def call (b : CandleBuilder) : Call → Except Crash (Outcome Unit × CandleBuilder)
  | .trade t deviation => b.offerTrade t deviation
  | .time time => do return (.ok (), ← b.advanceTo time)

/-- **The builder after calls**, refused or not. -/
def after (b : CandleBuilder) : List Call → Except Crash CandleBuilder
  | [] => .ok b
  | call :: rest => do
    let (_, b) ← b.call call
    b.after rest

/-- **The calls that are not refused**, each when its turn comes. -/
def accepted (b : CandleBuilder) : List Call → List Call
  | [] => []
  | call :: rest =>
    match b.call call with
    | .ok (.ok (), b) => call :: b.accepted rest
    | .ok (.error _, b) => b.accepted rest
    | .error _ => []

/-- **What a call does** to a builder if it returns. -/
inductive Called (b : CandleBuilder) : Call → Outcome Unit → CandleBuilder → Prop
  /-- A trade that comes too late changes nothing. -/
  | refused {t : Trade} {deviation : Option Float} {c : FormingCandle}
    (hForming : b.forming = some c) (hLate : bucketStart t.timestamp b.period < c.time) :
    Called b (.trade t deviation)
      (.error (.data s!"trade at {t.timestamp} precedes open candle at {c.time}")) b
  /-- Any other is taken, by the candle that is forming, by one after it or by the first one. -/
  | taken {t : Trade} {deviation : Option Float} {c : FormingCandle}
    (hForming : b.forming.getD (.flat (bucketStart t.timestamp b.period) t.price) = c)
    (hTime : ¬ bucketStart t.timestamp b.period < c.time)
    (hFits : PeriodFits b.period t.timestamp) :
    Called b (.trade t deviation) (.ok ()) (b.taking c t deviation)
  | idle {time : Int} (hForming : b.forming = none) : Called b (.time time) (.ok ()) b
  | passed {time : Int} {c : FormingCandle} (hForming : b.forming = some c)
    (hFits : PeriodFits b.period time) : Called b (.time time) (.ok ()) (b.advanced time)

variable {call : Call} {ended : Outcome Unit}

theorem called_of_ok (hStanding : b.Standing) (h : b.call call = .ok (ended, b')) :
    b.Called call ended b' := by
  -- A call either adds up or ends the program; the splits leave the branches that returned.
  cases call with
  | trade t deviation =>
    replace h : b.offerTrade t deviation = .ok (ended, b') := h
    by_cases hLate : ∃ c, b.forming = some c ∧ bucketStart t.timestamp b.period < c.time
    · obtain ⟨c, hForming, hLate⟩ := hLate
      rw [offerTrade_of_lt hForming hLate] at h
      split at h
      · cases h
        exact .refused hForming hLate
      · cases h
    · have hTime : ¬ bucketStart t.timestamp b.period
          < (b.forming.getD (.flat (bucketStart t.timestamp b.period) t.price)).time := by
        cases hForming : b.forming with
        | none => exact Int.lt_irrefl _
        | some c => exact fun hLess => hLate ⟨c, hForming, hLess⟩
      rw [offerTrade_of_le hStanding rfl hTime] at h
      split at h
      · cases h
        exact .taken rfl hTime ‹_›
      · cases h
  | time time =>
    replace h : (do return (.ok (), ← b.advanceTo time) :
      Except Crash (Outcome Unit × CandleBuilder)) = .ok (ended, b') := h
    cases hForming : b.forming with
    | none =>
      rw [advanceTo_of_none hForming] at h
      split at h
      · cases h
        exact .idle hForming
      · cases h
    | some c =>
      rw [advanceTo_of_some hStanding hForming] at h
      split at h
      · cases h
        exact .passed hForming ‹_›
      · cases h

namespace Called

theorem period_eq (h : b.Called call ended b') : b'.period = b.period := by
  cases h with
  | refused | taken | idle => rfl
  | passed hForming =>
    rw [advanced, hForming]

/-- **A refused call** leaves the builder as it was. -/
theorem eq_of_error {f : Failure} (h : b.Called call (.error f) b') : b' = b := by
  cases h
  rfl

/-- A candle is forming as soon as a trade has been offered: the first one is not refused. -/
theorem forming_iff (h : b.Called call ended b') :
    b'.forming = none ↔ b.forming = none ∧ call.isTrade = false := by
  cases h with
  | refused hForming => simp [hForming, Call.isTrade]
  | taken => simp [taking, Call.isTrade]
  | idle hForming => simp [hForming, Call.isTrade]
  | passed hForming => simp [advanced, hForming]

end Called

/-! ## What holds after calls -/

/-- **A sound builder** that has taken trades in buckets: the candle that is forming fits, there are
no candles before one is, and all candles are in line. -/
structure Sound (b : CandleBuilder) (taken : List Int) : Prop where
  standing : b.Standing
  closed_eq : b.forming = none → b.closed = #[]
  inLine : InLine b.period taken b.finish

namespace Sound

theorem empty (hPeriod : 0 < period) (threshold : Option Float) :
    Sound ⟨period, threshold, none, #[], hPeriod⟩ [] where
  standing := nofun
  closed_eq _ := rfl
  inLine := ⟨.nil, nofun, nofun⟩

/-- The candle that takes a trade is in line with those that are closed. -/
theorem inLine_getD (h : b.Sound taken) (time : Int) (price : Float) :
    InLine b.period taken
      (b.closed.toList ++ [(b.forming.getD (.flat time price)).close b.period b.threshold]) := by
  have hLine := h.inLine
  cases hForming : b.forming with
  | none =>
    rw [finish_of_none hForming, h.closed_eq hForming] at hLine
    -- There are no candles yet that a trade could have been taken by.
    obtain rfl : taken = [] := List.eq_nil_iff_forall_not_mem.2 fun bucket hTaken =>
      absurd (hLine.within bucket hTaken) List.not_mem_nil
    rw [h.closed_eq hForming]
    exact .flat time price
  | some c =>
    rw [finish_of_some hForming] at hLine
    exact hLine

/-- The builder that has taken a trade is sound, with the bucket of the trade. -/
theorem taking (h : b.Sound taken)
    (hForming : b.forming.getD (.flat (bucketStart t.timestamp b.period) t.price) = c)
    (hTime : ¬ bucketStart t.timestamp b.period < c.time)
    (hFits : PeriodFits b.period t.timestamp) :
    (b.taking c t deviation).Sound (taken ++ [bucketStart t.timestamp b.period]) := by
  have hDvd := h.standing.dvd_getD hForming
  -- The candles that are closed on the way lead to the bucket of the trade.
  have hAt := time_closeMany_periodsTo hDvd dvd_bucketStart hTime b.closed
  have hLine := h.inLine_getD (bucketStart t.timestamp b.period) t.price
  rw [hForming] at hLine
  have hTaken := (inLine_closeMany (b.periodsTo c (bucketStart t.timestamp b.period)) hLine).add
    b.period_pos t deviation
  rw [hAt] at hTaken
  constructor
  · intro c' hOpen
    have hOpenTime : c'.time = bucketStart t.timestamp b.period := by
      obtain rfl := Option.some.inj hOpen
      exact hAt
    rw [hOpenTime]
    exact ⟨dvd_bucketStart, hFits⟩
  · intro hNone
    cases hNone
  · rw [finish_of_some (b := b.taking c t deviation) rfl]
    exact hTaken

/-- The builder is sound when time has passed, with the same trades. -/
theorem advanced {time : Int} (h : b.Sound taken) (hForming : b.forming = some c)
    (hFits : PeriodFits b.period time) : (b.advanced time).Sound taken := by
  obtain ⟨hDvd, hStart, hEnd⟩ := h.standing c hForming
  have hLine := h.inLine
  rw [finish_of_some hForming] at hLine
  have hAt : (b.closeMany c (b.periodsTo c (bucketStart time b.period)) b.closed).1.time
      = max c.time (bucketStart time b.period) :=
    (time_closeMany ..).trans (time_add_periodsTo hDvd dvd_bucketStart)
  rw [CandleBuilder.advanced, hForming]
  constructor
  · intro c' hOpen
    have hOpenTime : c'.time = max c.time (bucketStart time b.period) := by
      obtain rfl := Option.some.inj hOpen
      exact hAt
    rw [hOpenTime]
    -- The candle that is forming stays, or begins at the bucket of the time.
    rcases max_choice c.time (bucketStart time b.period) with hMax | hMax
    · rw [hMax]
      exact ⟨hDvd, hStart, hEnd⟩
    · rw [hMax]
      exact ⟨dvd_bucketStart, hFits⟩
  · intro hNone
    cases hNone
  · rw [finish_of_some rfl]
    exact inLine_closeMany _ hLine

/-- **A call** that is not refused leaves a sound builder, with the trade that it offers. -/
theorem called (h : b.Sound taken) (hCalled : b.Called call (.ok ()) b') :
    b'.Sound (taken ++ (call.bucket? b.period).toList) := by
  cases hCalled with
  | taken hForming hTime hFits => exact h.taking hForming hTime hFits
  | idle =>
    rw [Call.bucket?, Option.toList_none, List.append_nil]
    exact h
  | passed hForming hFits =>
    rw [Call.bucket?, Option.toList_none, List.append_nil]
    exact h.advanced hForming hFits

end Sound

theorem after_cons (h : b.call call = .ok (ended, b')) (rest : List Call) :
    b.after (call :: rest) = b'.after rest := by
  rw [after, h]
  rfl

theorem accepted_of_ok (h : b.call call = .ok (.ok (), b')) (rest : List Call) :
    b.accepted (call :: rest) = call :: b'.accepted rest := by
  rw [accepted, h]

theorem accepted_of_error {f : Failure} (h : b.call call = .ok (.error f, b')) (rest : List Call) :
    b.accepted (call :: rest) = b'.accepted rest := by
  rw [accepted, h]

/-- The first of some calls returns if all do. -/
theorem exists_of_after {rest : List Call} {now : CandleBuilder}
    (h : b.after (call :: rest) = .ok now) :
    ∃ ended b', b.call call = .ok (ended, b') ∧ b'.after rest = .ok now := by
  cases hCall : b.call call with
  | error crash =>
    rw [after, hCall] at h
    cases h
  | ok result => exact ⟨result.1, result.2, rfl, (after_cons hCall rest).symm.trans h⟩

/-- **Calls** lead from a sound builder to a sound one, with the trades that have not been refused.
Those that have been leave nothing: the others by themselves lead to the same builder. -/
theorem Sound.after {calls : List Call} {now : CandleBuilder} (h : b.Sound taken)
    (hAfter : b.after calls = .ok now) :
    now.period = b.period ∧
      now.Sound (taken ++ (b.accepted calls).filterMap (Call.bucket? b.period)) ∧
      b.after (b.accepted calls) = .ok now ∧
      (now.forming = none ↔ b.forming = none ∧ ∀ call ∈ calls, call.isTrade = false) := by
  -- The induction is on the calls; a refused one changes neither the builder nor what it took.
  induction calls generalizing b taken with
  | nil =>
    cases hAfter
    refine ⟨rfl, ?_, rfl, by simp⟩
    rw [accepted, List.filterMap_nil, List.append_nil]
    exact h
  | cons call rest ih =>
    obtain ⟨ended, b', hCall, hRest⟩ := exists_of_after hAfter
    have hCalled := called_of_ok h.standing hCall
    rw [List.forall_mem_cons, ← and_assoc (a := b.forming = none), ← hCalled.forming_iff]
    cases ended with
    | error f =>
      obtain rfl := hCalled.eq_of_error
      rw [accepted_of_error hCall]
      exact ih h hRest
    | ok _ =>
      obtain ⟨hPeriod, hSound, hAccepted, hForming⟩ := ih (h.called hCalled) hRest
      rw [hCalled.period_eq, List.append_assoc] at hSound
      refine ⟨hPeriod.trans hCalled.period_eq, ?_, ?_, hForming⟩
      · rw [accepted_of_ok hCall, List.filterMap_cons]
        cases call <;> exact hSound
      · rw [accepted_of_ok hCall, after_cons hCall]
        exact hAccepted

end CandleBuilder
end SwapArchive
