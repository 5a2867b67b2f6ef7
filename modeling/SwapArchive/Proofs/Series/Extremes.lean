import SwapArchive.Proofs.Decimal.Order
import SwapArchive.Proofs.Series.Candles

/-!
# The extremes of candles

A threshold keeps prices out of the extremes of a candle and changes nothing else. It is applied
when the candle is closed, to prices that lie beyond its open and its close, so these two are within
the extremes with every threshold. A greater threshold lets more prices through.
-/

namespace SwapArchive

open Decimal

section Choice

variable {pick : Float → Float → Float} {before : Float → Float → Prop} {start : Float}
  {prices prices' : List Float}

/-- **A choice** between two numbers, of the one that is first in an order. -/
structure Picks (pick : Float → Float → Float) (before : Float → Float → Prop) : Prop where
  either : ∀ {a b : Float}, pick a b = a ∨ pick a b = b
  left : ∀ {a b : Float}, a.isNaN = false → b.isNaN = false → before (pick a b) a
  right : ∀ {a b : Float}, a.isNaN = false → b.isNaN = false → before (pick a b) b
  refl : ∀ {a : Float}, a.isNaN = false → before a a
  trans : ∀ {a b c : Float}, before a b → before b c → before a c

theorem lesser_of_numbers {a b : Float} (ha : a.isNaN = false) :
    lesser a b = if b < a then b else a := by
  rw [lesser, ha]
  rfl

theorem greater_of_numbers {a b : Float} (ha : a.isNaN = false) :
    greater a b = if a < b then b else a := by
  rw [greater, ha]
  rfl

theorem picks_lesser : Picks lesser (· ≤ ·) where
  either := by
    intro a b
    unfold lesser
    split
    · exact .inr rfl
    · split
      · exact .inr rfl
      · exact .inl rfl
  left := by
    intro a b ha hb
    rw [lesser_of_numbers ha]
    split
    · next h => exact (float_le_total hb ha).resolve_right fun hab => (float_not_lt hb ha).2 hab h
    · exact float_le_refl ha
  right := by
    intro a b ha hb
    rw [lesser_of_numbers ha]
    split
    · exact float_le_refl hb
    · next h => exact (float_not_lt hb ha).1 h
  refl := float_le_refl
  trans := float_le_trans

theorem picks_greater : Picks greater (fun a b => b ≤ a) where
  either := by
    intro a b
    unfold greater
    split
    · exact .inr rfl
    · split
      · exact .inr rfl
      · exact .inl rfl
  left := by
    intro a b ha hb
    rw [greater_of_numbers ha]
    split
    · next h => exact (float_le_total ha hb).resolve_right fun hba => (float_not_lt ha hb).2 hba h
    · exact float_le_refl ha
  right := by
    intro a b ha hb
    rw [greater_of_numbers ha]
    split
    · exact float_le_refl hb
    · next h => exact (float_not_lt ha hb).1 h
  refl := float_le_refl
  trans hab hbc := float_le_trans hbc hab

/-- **The first of many**: one of them, and none is before it. -/
theorem Picks.foldl_spec (h : Picks pick before) (hStart : start.isNaN = false)
    (hPrices : ∀ p ∈ prices, p.isNaN = false) :
    prices.foldl pick start ∈ start :: prices ∧
      ∀ p ∈ start :: prices, before (prices.foldl pick start) p := by
  induction prices generalizing start with
  | nil =>
    refine ⟨List.mem_singleton_self _, fun p hp => ?_⟩
    rw [List.mem_singleton.1 hp]
    exact h.refl hStart
  | cons q prices ih =>
    rw [List.forall_mem_cons] at hPrices
    -- The pick so far is one of the two, so it stays a number.
    have hPick : (pick start q).isNaN = false := by
      rcases h.either (a := start) (b := q) with hSame | hSame <;> rw [hSame]
      · exact hStart
      · exact hPrices.1
    obtain ⟨hMem, hFirst⟩ := ih hPick hPrices.2
    rw [List.forall_mem_cons] at hFirst
    rw [List.foldl_cons]
    constructor
    · rcases List.mem_cons.1 hMem with hThis | hLater
      · rw [hThis]
        rcases h.either (a := start) (b := q) with hSame | hSame <;> rw [hSame] <;> simp
      · exact List.mem_cons_of_mem _ (List.mem_cons_of_mem _ hLater)
    · simp only [List.forall_mem_cons]
      exact ⟨h.trans hFirst.1 (h.left hStart hPrices.1),
        h.trans hFirst.1 (h.right hStart hPrices.1), hFirst.2⟩

/-- Of more floats, the first one is not after the first of fewer. -/
theorem Picks.foldl_of_subset (h : Picks pick before) (hStart : start.isNaN = false)
    (hPrices : ∀ p ∈ prices', p.isNaN = false) (hSubset : prices ⊆ prices') :
    before (prices'.foldl pick start) (prices.foldl pick start) := by
  have hMem := (h.foldl_spec hStart fun p hp => hPrices p (hSubset hp)).1
  refine (h.foldl_spec hStart hPrices).2 _ ?_
  exact List.cons_subset_cons _ hSubset hMem

end Choice

section Band

variable {price opening closing threshold threshold' : Float} {deviation : Option Float}

end Band

variable {period : Int} {trades : List (Trade × Option Float)} {threshold threshold' : Option Float}

namespace FormingCandle

variable {c : FormingCandle} {count : Nat}

theorem prices_addAll (c : FormingCandle) (trades : List (Trade × Option Float)) :
    (c.addAll trades).prices = c.prices ++ trades.map fun p => (p.1.price, p.2) := by
  induction trades generalizing c with
  | nil => exact (List.append_nil _).symm
  | cons p rest ih =>
    refine (ih (c.add p.1 p.2)).trans ?_
    rw [List.map_cons, List.append_cons]
    rfl

/-- **Filled candle**: it opens at a number, and has the trades in its period. -/
structure IsFilled (c : FormingCandle) (period : Int) (trades : List (Trade × Option Float)) :
    Prop where
  opening : c.opening.isNaN = false
  eq_fill : c = (flat c.time c.opening).fill period trades

namespace IsFilled

theorem prices (h : c.IsFilled period trades) :
    c.prices = (tradesIn c.time period trades).map fun p => (p.1.price, p.2) := by
  conv_lhs => rw [h.eq_fill]
  exact (prices_addAll ..).trans (List.nil_append _)

theorem number_of_mem (h : c.IsFilled period trades)
    (hTrades : ∀ p ∈ trades, p.1.price.isNaN = false) {price : Float}
    (hPrice : price ∈ c.opening :: (tradesIn c.time period trades).map (·.1.price)) :
    price.isNaN = false := by
  rcases List.mem_cons.1 hPrice with rfl | hTrade
  · exact h.opening
  · obtain ⟨p, hp, rfl⟩ := List.mem_map.1 hTrade
    exact hTrades p (List.mem_filter.1 hp).1

end IsFilled

theorem mem_countedPrices {price : Float} : price ∈ c.countedPrices threshold
    ↔ ∃ deviation, (price, deviation) ∈ c.prices ∧
      c.counts threshold (price, deviation) = true := by
  simp [countedPrices]

end FormingCandle

open FormingCandle

/-- **Candles that agree but for their extremes**, the range of one inside that of the other. -/
structure Candle.Inside (narrow wide : Candle) : Prop where
  same : { narrow with least := wide.least, greatest := wide.greatest } = wide
  least : wide.least ≤ narrow.least
  greatest : narrow.greatest ≤ wide.greatest

namespace FormingCandle.IsFilled

variable {c : FormingCandle}

theorem counted_subset (h : c.IsFilled period trades) (threshold : Option Float) :
    c.countedPrices threshold ⊆ (tradesIn c.time period trades).map (·.1.price) := by
  intro price hPrice
  obtain ⟨deviation, hMem, -⟩ := mem_countedPrices.1 hPrice
  rw [h.prices, List.mem_map] at hMem
  obtain ⟨p, hp, hSame⟩ := hMem
  exact List.mem_map.2 ⟨p, hp, congrArg Prod.fst hSame⟩

theorem number_of_counted (h : c.IsFilled period trades)
    (hTrades : ∀ p ∈ trades, p.1.price.isNaN = false) (threshold : Option Float) :
    ∀ price ∈ c.countedPrices threshold, price.isNaN = false :=
  fun _ hPrice => h.number_of_mem hTrades (List.mem_cons_of_mem _ (h.counted_subset _ hPrice))

/-- If a threshold lets through all that another one does, the extremes are around the others. -/
theorem inside (h : c.IsFilled period trades) (hTrades : ∀ p ∈ trades, p.1.price.isNaN = false)
    (hMore : ∀ price, c.counts threshold price = true → c.counts threshold' price = true) :
    (c.close period threshold).Inside (c.close period threshold') := by
  have hCounted := h.number_of_counted hTrades threshold'
  have hSubset : c.countedPrices threshold ⊆ c.countedPrices threshold' := by
    intro price hPrice
    obtain ⟨deviation, hMem, hCounts⟩ := mem_countedPrices.1 hPrice
    exact mem_countedPrices.2 ⟨deviation, hMem, hMore _ hCounts⟩
  exact ⟨rfl, picks_lesser.foldl_of_subset h.opening hCounted hSubset,
    picks_greater.foldl_of_subset h.opening hCounted hSubset⟩

end FormingCandle.IsFilled

end SwapArchive
