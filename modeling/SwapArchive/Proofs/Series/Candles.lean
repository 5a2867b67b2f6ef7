import Mathlib.Data.List.Chain
import Mathlib.Data.List.Nodup
import Mathlib.Data.List.Pairwise
import SwapArchive.Proofs.Series.Closing

/-!
# What the candles of trades are

Candles are built from one trade after the other: each trade closes the candles before its own, and
the time at the end those before its own. What comes out can be said without this order. One candle
follows the other from the first trade to the end, each takes the trades in its period, and each
opens where the one before it closes.
-/

namespace SwapArchive

variable {period : Int} {trades rest : List (Trade × Option Float)} {p : Trade × Option Float}

/-- The trades in the period that begins at a time, in their order. -/
def tradesIn (start period : Int) (trades : List (Trade × Option Float)) :
    List (Trade × Option Float) :=
  trades.filter fun p => decide (start ≤ p.1.timestamp) && decide (p.1.timestamp < start + period)

theorem tradesIn_of_later {start : Int} (h : ∀ p ∈ trades, start + period ≤ p.1.timestamp) :
    tradesIn start period trades = [] := by
  refine List.filter_eq_nil_iff.2 fun p hp => ?_
  simp [Int.not_lt.2 (h p hp)]

theorem tradesIn_of_earlier {start : Int} (h : p.1.timestamp < start) :
    tradesIn start period (p :: rest) = tradesIn start period rest :=
  List.filter_cons_of_neg (by simp [Int.not_le.2 h])

theorem tradesIn_of_mem {start : Int} (hFrom : start ≤ p.1.timestamp)
    (hTo : p.1.timestamp < start + period) :
    tradesIn start period (p :: rest) = p :: tradesIn start period rest :=
  List.filter_cons_of_pos (by simp [hFrom, hTo])

namespace FormingCandle

variable {c : FormingCandle} {count : Nat}

/-- The candle with trades added one after the other. -/
def addAll (c : FormingCandle) (trades : List (Trade × Option Float)) : FormingCandle :=
  trades.foldl (fun c p => c.add p.1 p.2) c

/-- **Filled candle**: with those of some trades that are in its period. -/
def fill (c : FormingCandle) (period : Int) (trades : List (Trade × Option Float)) :
    FormingCandle :=
  c.addAll (tradesIn c.time period trades)

/-- **Chain** of candles: so many of them one after the other, each filled from the same trades. -/
def chain (period : Int) (trades : List (Trade × Option Float)) :
    (count : Nat) → FormingCandle → List FormingCandle
  | 0, _ => []
  | count + 1, c =>
    c.fill period trades :: chain period trades count ((c.fill period trades).next period)

/-- The candle that follows a chain. -/
def ahead (period : Int) (trades : List (Trade × Option Float)) :
    (count : Nat) → FormingCandle → FormingCandle
  | 0, c => c
  | count + 1, c => ahead period trades count ((c.fill period trades).next period)

theorem addAll_keeps (c : FormingCandle) (trades : List (Trade × Option Float)) :
    (c.addAll trades).time = c.time ∧ (c.addAll trades).opening = c.opening := by
  induction trades generalizing c with
  | nil => exact ⟨rfl, rfl⟩
  | cons p rest ih => exact ih (c.add p.1 p.2)

theorem closing_addAll (c : FormingCandle) (trades : List (Trade × Option Float)) :
    (c.addAll trades).closing = (trades.getLast?.map (·.1.price)).getD c.closing := by
  induction trades generalizing c with
  | nil => rfl
  | cons p rest ih =>
    rw [List.getLast?_cons]
    refine (ih (c.add p.1 p.2)).trans ?_
    cases rest.getLast? <;> rfl

theorem trades_addAll (c : FormingCandle) (trades : List (Trade × Option Float)) :
    (c.addAll trades).trades = c.trades + .ofNat trades.length := by
  induction trades generalizing c with
  | nil => exact (UInt32.add_zero _).symm
  | cons p rest ih =>
    refine (ih (c.add p.1 p.2)).trans ?_
    rw [List.length_cons, Nat.add_comm rest.length, UInt32.ofNat_add, ← UInt32.add_assoc]
    rfl

theorem volumes_addAll (c : FormingCandle) (trades : List (Trade × Option Float)) :
    (c.addAll trades).baseVolume = trades.foldl (fun v p => v + p.1.base.abs) c.baseVolume ∧
      (c.addAll trades).quoteVolume
        = trades.foldl (fun v p => v + p.1.quote.abs) c.quoteVolume := by
  induction trades generalizing c with
  | nil => exact ⟨rfl, rfl⟩
  | cons p rest ih => exact ih (c.add p.1 p.2)

@[simp] theorem time_fill : (c.fill period trades).time = c.time := (addAll_keeps ..).1

@[simp] theorem opening_fill : (c.fill period trades).opening = c.opening := (addAll_keeps ..).2

@[simp] theorem time_next : (c.next period).time = c.time + period := rfl

theorem fill_of_later (h : ∀ p ∈ trades, c.time + period ≤ p.1.timestamp) :
    c.fill period trades = c := by
  rw [fill, tradesIn_of_later h]
  rfl

theorem time_ahead : (c.ahead period trades count).time = c.time + count * period := by
  induction count generalizing c with
  | zero => simp [ahead]
  | succ count ih =>
    rw [ahead, ih, time_next, time_fill]
    push_cast
    ring

/-- A chain goes on from the candle that follows it. -/
theorem chain_add (period : Int) (trades : List (Trade × Option Float)) (m n : Nat)
    (c : FormingCandle) :
    c.chain period trades (m + n)
      = c.chain period trades m ++ (c.ahead period trades m).chain period trades n := by
  induction m generalizing c with
  | zero => rw [Nat.zero_add]; rfl
  | succ m ih => rw [Nat.add_right_comm, chain, ih]; rfl

/-- A trade before a candle makes no difference to the chain that begins with it. -/
theorem chain_of_earlier (hPeriod : 0 < period) (h : p.1.timestamp < c.time) :
    c.chain period (p :: rest) count = c.chain period rest count := by
  induction count generalizing c with
  | zero => rfl
  | succ count ih =>
    have hFill : c.fill period (p :: rest) = c.fill period rest := by
      rw [fill, fill, tradesIn_of_earlier h]
    rw [chain, chain, hFill, ih]
    simp only [time_next, time_fill]
    omega

/-- A trade in the period of a candle may be added to it beforehand. -/
theorem chain_of_mem (hPeriod : 0 < period) (hFrom : c.time ≤ p.1.timestamp)
    (hTo : p.1.timestamp < c.time + period) :
    c.chain period (p :: rest) (count + 1)
      = (c.add p.1 p.2).chain period rest (count + 1) := by
  have hFill : c.fill period (p :: rest) = (c.add p.1 p.2).fill period rest := by
    rw [fill, tradesIn_of_mem hFrom hTo]
    rfl
  rw [chain, chain, hFill, chain_of_earlier hPeriod]
  rw [time_next, time_fill]
  exact hTo

theorem times_chain : (c.chain period trades count).map time
    = (List.range count).map fun (i : Nat) => c.time + i * period := by
  induction count with
  | zero => rfl
  | succ count ih =>
    rw [chain_add, List.map_append, ih, List.range_succ, List.map_append]
    simp [chain, time_ahead]

theorem isChain_chain (period : Int) (trades : List (Trade × Option Float)) (count : Nat)
    (c : FormingCandle) :
    (c.chain period trades count).IsChain fun a b => b.opening = a.closing := by
  induction count generalizing c with
  | zero => exact .nil
  | succ count ih =>
    cases count with
    | zero => exact .singleton _
    | succ count => exact .cons_cons opening_fill (ih _)

/-- A chain that begins with a flat candle is one of flat candles that have been filled. -/
theorem filled_of_mem_chain {time : Int} {price : Float}
    (h : c ∈ (flat time price).chain period trades count) :
    ∃ opening, c = (flat c.time opening).fill period trades := by
  induction count generalizing time price with
  | zero => cases h
  | succ count ih =>
    rcases List.mem_cons.1 h with rfl | hLater
    · exact ⟨price, by rw [time_fill]; rfl⟩
    · exact ih hLater

end FormingCandle

open FormingCandle

namespace CandleBuilder

variable {b : CandleBuilder} {c : FormingCandle}

/-- **Closing candles** one after the other leaves a chain of them, as far as no trade is passed. -/
theorem closeMany_eq (trades : List (Trade × Option Float)) (count : Nat) (closed : Array Candle)
    (hLater : ∀ p ∈ trades, c.time + count * b.period ≤ p.1.timestamp) :
    ∃ closed', b.closeMany c count closed = (c.ahead b.period trades count, closed') ∧
      closed'.toList = closed.toList
        ++ (c.chain b.period trades count).map (·.close b.period b.threshold) := by
  induction count generalizing c closed with
  | zero => exact ⟨closed, rfl, by simp [chain]⟩
  | succ count ih =>
    have hStep : c.time + (count + 1 : Nat) * b.period
        = (c.next b.period).time + count * b.period := by
      rw [time_next]
      push_cast
      ring
    -- No trade lies in a bucket that closes on the way, so it is filled with nothing.
    have hFill : c.fill b.period trades = c := by
      refine fill_of_later fun p hp => le_trans ?_ (hLater p hp)
      have hSpan : 0 ≤ count * b.period := Int.mul_nonneg (Int.natCast_nonneg _) b.period_pos.le
      rw [hStep, time_next]
      omega
    obtain ⟨closed', hClosed, hList⟩ :=
      ih (closed.push (c.close b.period b.threshold)) fun p hp => hStep ▸ hLater p hp
    refine ⟨closed', ?_, ?_⟩
    · rw [closeMany, hClosed, ahead, hFill]
    · rw [hList, chain, hFill]
      simp

/-- **What adding a trade does** to a builder whose candle is not after it. -/
theorem addTrade_eq (hStanding : b.Standing)
    (hForming : b.forming.getD (.flat (bucketStart p.1.timestamp b.period) p.1.price) = c)
    (hTime : b.period ∣ c.time) (hFrom : c.time ≤ p.1.timestamp) : b.addTrade p.1 p.2
      = if PeriodFits b.period p.1.timestamp then .ok (b.taking c p.1 p.2)
        else .error (.crashed (.overflow (overflowOf b.period p.1.timestamp))) := by
  have hBucket := le_bucketStart b.period_pos hTime hFrom
  rw [addTrade, offerTrade_of_le hStanding hForming (Int.not_lt.2 hBucket)]
  split <;> rfl

/-- **The builder after a trade**, if no later trade is before it: the candles before its own are
closed, and it is added to its own. -/
theorem taking_eq (hTime : b.period ∣ c.time) (hFrom : c.time ≤ p.1.timestamp)
    (hRest : ∀ q ∈ rest, p.1.timestamp ≤ q.1.timestamp) :
    ∃ count : Nat,
      (b.taking c p.1 p.2).forming
        = some ((c.ahead b.period (p :: rest) count).add p.1 p.2) ∧
      (b.taking c p.1 p.2).closed.toList = b.closed.toList
        ++ (c.chain b.period (p :: rest) count).map (·.close b.period b.threshold) ∧
      c.time + count * b.period = bucketStart p.1.timestamp b.period := by
  have hBucket := le_bucketStart b.period_pos hTime hFrom
  have hReach : c.time + b.periodsTo c (bucketStart p.1.timestamp b.period) * b.period
      = bucketStart p.1.timestamp b.period := by
    rw [time_add_periodsTo hTime dvd_bucketStart, max_eq_right hBucket]
  have hStart : bucketStart p.1.timestamp b.period ≤ p.1.timestamp := bucketStart_le b.period_pos
  have hLater : ∀ q ∈ p :: rest,
      c.time + b.periodsTo c (bucketStart p.1.timestamp b.period) * b.period ≤ q.1.timestamp := by
    rw [hReach]
    exact List.forall_mem_cons.2 ⟨hStart, fun q hq => hStart.trans (hRest q hq)⟩
  obtain ⟨closed, hClosed, hList⟩ := closeMany_eq (p :: rest) _ b.closed hLater
  refine ⟨_, ?_, ?_, hReach⟩
  · rw [taking, hClosed]
  · rw [taking, hClosed]
    exact hList

/-- A builder that has taken a trade stands at the bucket of the trade. -/
theorem standing_taking (hTime : b.period ∣ c.time) (hFrom : c.time ≤ p.1.timestamp)
    (hFits : PeriodFits b.period p.1.timestamp) : (b.taking c p.1 p.2).Standing := by
  have hLast : ∀ q ∈ ([] : List (Trade × Option Float)), p.1.timestamp ≤ q.1.timestamp := nofun
  obtain ⟨count, hForming, -, hReach⟩ := taking_eq hTime hFrom hLast
  intro c' hForming'
  obtain rfl := Option.some.inj (hForming.symm.trans hForming')
  have hAt : ((c.ahead b.period [p] count).add p.1 p.2).time
      = bucketStart p.1.timestamp b.period := time_ahead.trans hReach
  rw [hAt]
  exact ⟨dvd_bucketStart, hFits⟩

/-- The bucket of the last of some trades, or else a given time. -/
def lastBucket (period : Int) (trades : List (Trade × Option Float)) (time : Int) : Int :=
  (trades.getLast?.map fun p => bucketStart p.1.timestamp period).getD time

theorem lastBucket_cons (time : Int) : lastBucket period (p :: rest) time
    = lastBucket period rest (bucketStart p.1.timestamp period) := by
  rw [lastBucket, lastBucket, List.getLast?_cons]
  cases rest.getLast? <;> rfl

theorem lastBucket_of_ne_nil (hSome : trades ≠ []) (time : Int) :
    lastBucket period trades time = bucketStart (trades.getLast hSome).1.timestamp period := by
  rw [lastBucket, List.getLast?_eq_some_getLast hSome]
  rfl

/-- **What a builder makes of trades** in order of time that are not before its candle: the chain
from that candle to the end, after the candles that it has closed already. -/
theorem finish_eq (endTime : Int) (hStanding : b.Standing) (hForming : b.forming = some c)
    (hFrom : ∀ p ∈ trades, c.time ≤ p.1.timestamp)
    (hOrder : trades.Pairwise fun p q => p.1.timestamp ≤ q.1.timestamp)
    (hFits : ∀ p ∈ trades, PeriodFits b.period p.1.timestamp)
    (hEnd : PeriodFits b.period endTime) :
    ∃ (b' b'' : CandleBuilder) (count : Nat), b.addTrades trades = .ok b' ∧
      b'.advanceTo endTime = .ok b'' ∧
      b''.finish = b.closed.toList
        ++ (c.chain b.period trades (count + 1)).map (·.close b.period b.threshold) ∧
      c.time + count * b.period
        = max (lastBucket b.period trades c.time) (bucketStart endTime b.period) := by
  have hTime := (hStanding c hForming).1
  induction trades generalizing b c with
  | nil =>
    obtain ⟨closed, hClosed, hList⟩ := closeMany_eq (c := c) (b := b) []
      (b.periodsTo c (bucketStart endTime b.period)) b.closed (by simp)
    refine ⟨b, b.advanced endTime, _, rfl, ?_, ?_, time_add_periodsTo hTime dvd_bucketStart⟩
    · rw [advanceTo_of_some hStanding hForming, if_pos hEnd]
    · rw [advanced, hForming]
      dsimp only
      rw [hClosed, finish, chain_add]
      simp [hList, chain, fill_of_later]
  | cons p rest ih =>
    rw [List.forall_mem_cons] at hFrom hFits
    rw [List.pairwise_cons] at hOrder
    have hGetD : b.forming.getD (.flat (bucketStart p.1.timestamp b.period) p.1.price) = c := by
      rw [hForming, Option.getD_some]
    have hAdded := addTrade_eq (p := p) hStanding hGetD hTime hFrom.1
    rw [if_pos hFits.1] at hAdded
    have hStanding₁ := standing_taking hTime hFrom.1 hFits.1
    obtain ⟨before, hForming₁, hClosed, hReach⟩ := taking_eq (p := p) hTime hFrom.1 hOrder.1
    -- The candle that has taken the trade goes on with the trades after it.
    have hAhead : (c.ahead b.period (p :: rest) before).time
        = bucketStart p.1.timestamp b.period := time_ahead.trans hReach
    have hTime₁ : ((c.ahead b.period (p :: rest) before).add p.1 p.2).time
        = bucketStart p.1.timestamp b.period := hAhead
    have hFrom₁ : ∀ q ∈ rest,
        ((c.ahead b.period (p :: rest) before).add p.1 p.2).time ≤ q.1.timestamp := by
      intro q hq
      rw [hTime₁]
      exact (bucketStart_le b.period_pos).trans (hOrder.1 q hq)
    obtain ⟨b', b'', after, hRest, hAdvanced, hFinish, hLast⟩ :=
      ih hStanding₁ hForming₁ hFrom₁ hOrder.2 hFits.2 hEnd (hStanding₁ _ hForming₁).1
    refine ⟨b', b'', before + after, ?_, hAdvanced, ?_, ?_⟩
    · rw [addTrades, hAdded]
      exact hRest
    · rw [hFinish, hClosed, Nat.add_assoc before, chain_add _ _ before,
        chain_of_mem b.period_pos (hAhead.trans_le (bucketStart_le b.period_pos))
          (hAhead ▸ lt_bucketStart b.period_pos), List.map_append, List.append_assoc]
      rfl
    · rw [hTime₁] at hLast
      rw [lastBucket_cons]
      refine Eq.trans ?_ hLast
      rw [← hReach]
      push_cast
      show _ = _ + (after : Int) * b.period
      ring

/-- The operation that overflows first, in trades and the time at the end. -/
def firstOverflow (period : Int) : List (Trade × Option Float) → (endTime : Int) → String
  | [], endTime => overflowOf period endTime
  | p :: rest, endTime =>
    if PeriodFits period p.1.timestamp then firstOverflow period rest endTime
    else overflowOf period p.1.timestamp

/-- The candle that a trade comes to, the one that is forming or else a new one, is not after it. -/
theorem time_getD_le (hForming : b.forming.getD
      (.flat (bucketStart p.1.timestamp b.period) p.1.price) = c)
    (hFrom : ∀ c, b.forming = some c → c.time ≤ p.1.timestamp) : c.time ≤ p.1.timestamp := by
  subst hForming
  cases hForming : b.forming with
  | none => exact bucketStart_le b.period_pos
  | some c => exact hFrom c hForming

/-- **Trades or an end that do not fit** end the program, whatever the threshold is. -/
theorem overflow_of_not_fits (endTime : Int) (hStanding : b.Standing)
    (hFrom : ∀ c, b.forming = some c → ∀ p ∈ trades, c.time ≤ p.1.timestamp)
    (hOrder : trades.Pairwise fun p q => p.1.timestamp ≤ q.1.timestamp)
    (hFits : ¬ ((∀ p ∈ trades, PeriodFits b.period p.1.timestamp) ∧
      FitsWord (bucketStart endTime b.period) ∧
      (b.forming ≠ none ∨ trades ≠ [] → PeriodFits b.period endTime))) :
    (do let b ← b.addTrades trades; (b.advanceTo endTime).mapError Halt.crashed)
      = .error (.crashed (.overflow (firstOverflow b.period trades endTime))) := by
  -- The induction is on the trades; the first that does not fit ends the program.
  induction trades generalizing b with
  | nil =>
    show (b.advanceTo endTime).mapError Halt.crashed = _
    cases hForming : b.forming with
    | none =>
      have hEnd : ¬ FitsWord (bucketStart endTime b.period) :=
        fun hEnd => hFits ⟨by simp, hEnd, by simp [hForming]⟩
      rw [advanceTo_of_none hForming, if_neg hEnd]
      rfl
    | some c =>
      have hEnd : ¬ PeriodFits b.period endTime :=
        fun hEnd => hFits ⟨by simp, hEnd.1, fun _ => hEnd⟩
      rw [advanceTo_of_some hStanding hForming, if_neg hEnd]
      rfl
  | cons p rest ih =>
    rw [List.pairwise_cons] at hOrder
    have hTime := hStanding.dvd_getD (t := p.1) rfl
    have hNotAfter := time_getD_le (p := p) rfl
      fun c hForming => hFrom c hForming p List.mem_cons_self
    have hAdded := addTrade_eq (p := p) hStanding rfl hTime hNotAfter
    rw [addTrades, hAdded, firstOverflow]
    by_cases hp : PeriodFits b.period p.1.timestamp
    · -- The trade is taken, so that what does not fit comes later.
      rw [if_pos hp, if_pos hp]
      obtain ⟨count, hForming, -, hReach⟩ := taking_eq hTime hNotAfter hOrder.1
      refine ih (standing_taking hTime hNotAfter hp) (fun c hForming' q hq => ?_) hOrder.2
        fun hRest => hFits ⟨List.forall_mem_cons.2 ⟨hp, hRest.1⟩, hRest.2.1,
          fun _ => hRest.2.2 (.inl (by rw [hForming]; nofun))⟩
      obtain rfl := Option.some.inj (hForming.symm.trans hForming')
      refine (Eq.trans_le (time_ahead.trans hReach) (bucketStart_le b.period_pos)).trans ?_
      exact hOrder.1 q hq
    · rw [if_neg hp, if_neg hp]
      rfl

end CandleBuilder

/-- **Candles that fit** in words of 64 bits: the periods of all trades and of the end do. Without
trades there is no candle that would have to end. -/
def CandlesFit (period : Int) (trades : List (Trade × Option Float)) (endTime : Int) : Prop :=
  (∀ p ∈ trades, PeriodFits period p.1.timestamp) ∧ FitsWord (bucketStart endTime period) ∧
    (trades ≠ [] → PeriodFits period endTime)

instance (period : Int) (trades : List (Trade × Option Float)) (endTime : Int) :
    Decidable (CandlesFit period trades endTime) :=
  inferInstanceAs (Decidable (_ ∧ _ ∧ (trades ≠ [] → _)))

theorem ofPeriod_eq (hPeriod : 0 < period) (threshold : Option Float) :
    CandleBuilder.ofPeriod period threshold = .ok ⟨period, threshold, none, #[], hPeriod⟩ :=
  dif_pos hPeriod

/-- What candles are built of, as the steps of a builder. -/
theorem buildCandles_eq (hPeriod : 0 < period) (threshold : Option Float) (endTime : Int) :
    buildCandles trades period threshold endTime = (do
      let b ← CandleBuilder.addTrades ⟨period, threshold, none, #[], hPeriod⟩ trades
      (b.advanceTo endTime).mapError .crashed).map CandleBuilder.finish := by
  rw [buildCandles, ofPeriod_eq hPeriod]
  show (do
    let b ← CandleBuilder.addTrades ⟨period, threshold, none, #[], hPeriod⟩ trades
    return (← (b.advanceTo endTime).mapError .crashed).finish) = _
  cases CandleBuilder.addTrades ⟨period, threshold, none, #[], hPeriod⟩ trades with
  | error halt => rfl
  | ok b =>
    show (do return (← (b.advanceTo endTime).mapError Halt.crashed).finish)
      = ((b.advanceTo endTime).mapError Halt.crashed).map CandleBuilder.finish
    cases b.advanceTo endTime <;> rfl

theorem buildCandles_nil (hPeriod : 0 < period) (threshold : Option Float) {endTime : Int}
    (hEnd : FitsWord (bucketStart endTime period)) :
    buildCandles [] period threshold endTime = .ok [] := by
  rw [buildCandles_eq hPeriod]
  show (((CandleBuilder.advanceTo _ endTime).mapError .crashed).map CandleBuilder.finish :
    Except Halt (List Candle)) = _
  rw [CandleBuilder.advanceTo_of_none rfl, if_pos hEnd]
  rfl

/-- **The candles of trades as a chain**, closed one by one. -/
theorem buildCandles_eq_chain (hPeriod : 0 < period) (hSome : trades ≠ [])
    (hOrder : trades.Pairwise fun p q => p.1.timestamp ≤ q.1.timestamp) (threshold : Option Float)
    {endTime : Int} (hFits : CandlesFit period trades endTime) :
    let first := (trades.head hSome).1
    let start := bucketStart first.timestamp period
    ∃ count : Nat, buildCandles trades period threshold endTime
        = .ok (((flat start first.price).chain period trades (count + 1)).map
          (·.close period threshold)) ∧
      start + count * period = max (bucketStart (trades.getLast hSome).1.timestamp period)
        (bucketStart endTime period) := by
  intro first start
  obtain ⟨hTrades, -, hEnd⟩ := hFits
  replace hEnd := hEnd hSome
  cases trades with
  | nil => exact absurd rfl hSome
  | cons p rest =>
    rw [List.pairwise_cons] at hOrder
    rw [List.forall_mem_cons] at hTrades
    let b : CandleBuilder := ⟨period, threshold, none, #[], hPeriod⟩
    have hStanding : b.Standing := nofun
    have hDvd : period ∣ (flat start p.1.price).time := dvd_bucketStart
    have hStart : start ≤ p.1.timestamp := bucketStart_le hPeriod
    have hAdded := CandleBuilder.addTrade_eq (b := b) (p := p) (c := flat start p.1.price) hStanding
      rfl hDvd hStart
    rw [if_pos hTrades.1] at hAdded
    have hStanding₁ := CandleBuilder.standing_taking (b := b) (p := p) (c := flat start p.1.price)
      hDvd hStart hTrades.1
    obtain ⟨before, hForming, hClosed, hReach⟩ :=
      CandleBuilder.taking_eq (b := b) (p := p) (c := flat start p.1.price) hDvd hStart hOrder.1
    -- The first trade finds the candle of its own bucket, and so closes none.
    obtain rfl : before = 0 := by
      have hSpan : (before : Int) * period = 0 := by
        have hSame : start + before * period = start := hReach
        omega
      rcases Int.mul_eq_zero.1 hSpan with hZero | hZero
      · exact_mod_cast hZero
      · omega
    obtain ⟨b', b'', count, hRest, hAdvanced, hFinish, hLast⟩ :=
      CandleBuilder.finish_eq endTime hStanding₁ hForming
        (fun q hq => hStart.trans (hOrder.1 q hq)) hOrder.2 hTrades.2 hEnd
    refine ⟨count, ?_, ?_⟩
    · have hAll : b.addTrades (p :: rest) = .ok b' := by
        rw [CandleBuilder.addTrades, hAdded]
        exact hRest
      rw [buildCandles_eq hPeriod, hAll]
      show (((b'.advanceTo endTime).mapError .crashed).map CandleBuilder.finish :
        Except Halt (List Candle)) = _
      rw [hAdvanced]
      show Except.ok b''.finish = _
      rw [hFinish, hClosed]
      exact congrArg (fun chain => Except.ok (chain.map (·.close period threshold)))
        (chain_of_mem (c := flat start p.1.price) hPeriod hStart (lt_bucketStart hPeriod)).symm
    · rw [← CandleBuilder.lastBucket_of_ne_nil hSome 0, CandleBuilder.lastBucket_cons]
      exact hLast

/-- **Candles that do not fit** end the program, with every threshold in the same way. -/
theorem buildCandles_of_not_fits (hPeriod : 0 < period)
    (hOrder : trades.Pairwise fun p q => p.1.timestamp ≤ q.1.timestamp) {endTime : Int}
    (hFits : ¬ CandlesFit period trades endTime) :
    ∃ operation, ∀ threshold,
      buildCandles trades period threshold endTime = .error (.crashed (.overflow operation)) := by
  refine ⟨CandleBuilder.firstOverflow period trades endTime, fun threshold => ?_⟩
  let b : CandleBuilder := ⟨period, threshold, none, #[], hPeriod⟩
  have hOverflow := CandleBuilder.overflow_of_not_fits (b := b) endTime nofun nofun hOrder
    fun ⟨hTrades, hStart, hEnd⟩ => hFits ⟨hTrades, hStart, fun hSome => hEnd (.inr hSome)⟩
  rw [buildCandles_eq hPeriod]
  exact congrArg (Except.map CandleBuilder.finish) hOverflow

/-- **Unbroken** candles: one follows the other from one bucket to another, the first opens at a
given price and every other one where the one before it closes. -/
structure Unbroken (period first last : Int) (opening : Float) (candles : List Candle) : Prop where
  times : ∃ n : Nat, first + n * period = last ∧
    candles.map Candle.time = (List.range (n + 1)).map fun (i : Nat) => first + i * period
  opens : candles.head?.map Candle.opening = some opening
  continues : candles.IsChain fun a b => b.opening = a.closing

/-- **A candle sums up** the trades in its period: it closes at the last of them, or else where it
opens, and it has their number and volumes. -/
structure Candle.SumsUp (c : Candle) (period : Int) (trades : List (Trade × Option Float)) :
    Prop where
  length : c.period = period
  closing : c.closing = ((tradesIn c.time period trades).getLast?.map (·.1.price)).getD c.opening
  count : c.trades.toNat = (tradesIn c.time period trades).length % 2 ^ 32
  baseVolume : c.baseVolume
    = (tradesIn c.time period trades).foldl (fun v p => v + p.1.base.abs) 0.0
  quoteVolume : c.quoteVolume
    = (tradesIn c.time period trades).foldl (fun v p => v + p.1.quote.abs) 0.0

theorem unbroken_close (period : Int) (trades : List (Trade × Option Float)) (start : Int)
    (price : Float) (count : Nat) (threshold : Option Float) :
    Unbroken period start (start + count * period) price
      (((flat start price).chain period trades (count + 1)).map (·.close period threshold)) where
  times := by
    refine ⟨count, rfl, ?_⟩
    rw [List.map_map]
    exact times_chain
  opens := by
    rw [chain, List.map_cons, List.head?_cons]
    exact congrArg some opening_fill
  continues := (List.isChain_map _).2 (isChain_chain ..)

theorem sumsUp_close (time : Int) (opening : Float) (threshold : Option Float) :
    (((flat time opening).fill period trades).close period threshold).SumsUp period trades := by
  have hTrades : tradesIn (((flat time opening).fill period trades).close period threshold).time
      period trades = tradesIn time period trades := by
    rw [close, time_fill]
    rfl
  constructor
  · rfl
  · rw [hTrades]
    refine (closing_addAll ..).trans ?_
    rw [close, opening_fill]
    rfl
  · rw [hTrades]
    refine (congrArg UInt32.toNat ((trades_addAll ..).trans (UInt32.zero_add _))).trans ?_
    exact UInt32.toNat_ofNat'
  · rw [hTrades]
    exact (volumes_addAll ..).1
  · rw [hTrades]
    exact (volumes_addAll ..).2

/-- A trade lies in the period of exactly one of the candles that lead from its bucket or an earlier
one to its bucket or a later one. -/
theorem Unbroken.existsUnique {first last time : Int} {opening : Float} {candles : List Candle}
    (h : Unbroken period first last opening candles) (hPeriod : 0 < period)
    (hFirst : period ∣ first) (hFrom : first ≤ time) (hTo : bucketStart time period ≤ last) :
    ∃! c, c ∈ candles ∧ c.time ≤ time ∧ time < c.time + period := by
  obtain ⟨n, hLast, hTimes⟩ := h.times
  have hBucket := le_bucketStart hPeriod hFirst hFrom
  -- Every candle begins a period, and so begins at the bucket if the time is in its period.
  have hBegins {c : Candle} (hc : c ∈ candles) (hCovers : c.time ≤ time ∧ time < c.time + period) :
      c.time = bucketStart time period := by
    have hMem : c.time ∈ candles.map Candle.time := List.mem_map_of_mem hc
    rw [hTimes] at hMem
    obtain ⟨i, -, hTime⟩ := List.mem_map.1 hMem
    have hMultiple : period ∣ c.time := by
      rw [← hTime]
      exact Int.dvd_add hFirst (Int.dvd_mul_left ..)
    exact eq_bucketStart hPeriod hMultiple hCovers.1 hCovers.2
  have hThere : bucketStart time period ∈ candles.map Candle.time := by
    obtain ⟨k, hk⟩ := exists_periods hPeriod hFirst dvd_bucketStart hBucket
    have hToLast : (k : Int) ≤ n := Int.le_of_mul_le_mul_right (by omega) hPeriod
    rw [hTimes, List.mem_map]
    exact ⟨k, List.mem_range.2 (by omega), hk⟩
  have hNodup : (candles.map Candle.time).Nodup := by
    rw [hTimes]
    refine List.Nodup.map (fun i j hSame => ?_) List.nodup_range
    have hProduct : (i : Int) * period = j * period := Int.add_left_cancel hSame
    exact_mod_cast Int.eq_of_mul_eq_mul_right hPeriod.ne' hProduct
  obtain ⟨c, hc, hTime⟩ := List.mem_map.1 hThere
  refine ⟨c, ⟨hc, ?_, ?_⟩, fun c' ⟨hc', hCovers⟩ => ?_⟩
  · rw [hTime]
    exact bucketStart_le hPeriod
  · rw [hTime]
    exact lt_bucketStart hPeriod
  · exact List.inj_on_of_nodup_map hNodup hc' hc ((hBegins hc' hCovers).trans hTime.symm)

/-- **The candles of trades** in order of time, carried on to an end. They follow each other from
the bucket of the first trade to that of the last one or of the end, whichever is later. Each opens
where the one before it closes, the first at the first trade, and sums up the trades in its period;
every trade is in the period of exactly one. -/
theorem buildCandles_of_ordered (hPeriod : 0 < period) (hSome : trades ≠ [])
    (hOrder : trades.Pairwise fun p q => p.1.timestamp ≤ q.1.timestamp) (threshold : Option Float)
    (endTime : Int) (hFits : CandlesFit period trades endTime) :
    let first := (trades.head hSome).1
    let last := (trades.getLast hSome).1
    ∃ candles, buildCandles trades period threshold endTime = .ok candles ∧
      Unbroken period (bucketStart first.timestamp period)
        (max (bucketStart last.timestamp period) (bucketStart endTime period)) first.price candles ∧
      (∀ c ∈ candles, c.SumsUp period trades) ∧
      ∀ p ∈ trades, ∃! c, c ∈ candles ∧ c.time ≤ p.1.timestamp ∧
        p.1.timestamp < c.time + period := by
  intro first last
  obtain ⟨count, hCandles, hEnd⟩ := buildCandles_eq_chain hPeriod hSome hOrder threshold hFits
  have hUnbroken := unbroken_close period trades
    (bucketStart first.timestamp period) first.price count threshold
  rw [hEnd] at hUnbroken
  refine ⟨_, hCandles, hUnbroken, fun c hc => ?_, fun p hp => ?_⟩
  · obtain ⟨filled, hFilled, rfl⟩ := List.mem_map.1 hc
    obtain ⟨opening, hFlat⟩ := filled_of_mem_chain hFilled
    rw [hFlat]
    exact sumsUp_close ..
  · have hFrom : first.timestamp ≤ p.1.timestamp :=
      hOrder.rel_head_of_rel_head_head hp (Int.le_refl _)
    have hTo : p.1.timestamp ≤ last.timestamp :=
      hOrder.rel_getLast_of_rel_getLast_getLast hp (Int.le_refl _)
    exact hUnbroken.existsUnique hPeriod dvd_bucketStart ((bucketStart_le hPeriod).trans hFrom)
      ((bucketStart_mono hPeriod hTo).trans (Int.le_max_left ..))

/-- Trades at the edges of periods before and after the year 1970, with an end that comes before the
last of them. -/
theorem buildCandles_of_ordered_edges :
    let trade (time : Int) (price : Float) : Trade × Option Float :=
      (⟨1.0, -price, price, time⟩, some 0.5)
    let trades := [trade (-61) 100.0, trade (-60) 101.0, trade 0 99.0, trade 130 105.0]
    ∃ candles, buildCandles trades 60 (some 3.0) 10 = .ok candles ∧
      Unbroken 60 (-120) 120 100.0 candles ∧ (∀ c ∈ candles, c.SumsUp 60 trades) ∧
      ∀ p ∈ trades, ∃! c, c ∈ candles ∧ c.time ≤ p.1.timestamp ∧ p.1.timestamp < c.time + 60 := by
  intro trade trades
  have hSome : trades ≠ [] := nofun
  exact buildCandles_of_ordered (by decide) hSome (by decide) (some 3.0) 10 (by decide)

end SwapArchive
