import SwapArchive.Proofs.Text.Ascii
import SwapArchive.Series.Normalizer

/-!
# Both ways to look at a swap

Which leg of a pool comes first is chance, and so is the case of an address. What a swap is
classified as depends on neither. Seen from the other token of the pair, with prices expressed the
other way, a trade is the same one with its amounts exchanged.
-/

namespace SwapArchive

open Text (SameButCase sameIgnoringCase sameIgnoringCase_iff sameIgnoringCase_comm
  sameIgnoringCase_trans sameIgnoringCase_congr)

def Pool.exchanged (pool : Pool) : Pool :=
  { pool with token0 := pool.token1, token1 := pool.token0 }

/-- The swap with the legs exchanged, and the amounts with them. -/
def Swap.exchanged (x : Swap) : Swap :=
  { x with pool := x.pool.exchanged, amount0 := x.amount1, amount1 := x.amount0 }

/-- **The entry of a swap with its legs exchanged.** -/
def Entry.exchanged (e : Entry) : Entry := { e with swap := e.swap.exchanged }

/-- The pool with other addresses of its legs. -/
def Pool.readdressed (pool : Pool) (address0 address1 : String) : Pool :=
  { pool with
    token0 := { pool.token0 with address := address0 }
    token1 := { pool.token1 with address := address1 } }

/-- **The entry of a swap with other addresses** of its legs. -/
def Entry.readdressed (e : Entry) (address0 address1 : String) : Entry :=
  { e with swap := { e.swap with pool := e.swap.pool.readdressed address0 address1 } }

def PriceConvention.other : PriceConvention → PriceConvention
  | quotePerBase => basePerQuote
  | basePerQuote => quotePerBase

/-- **The pair seen from the other token**, with prices expressed the other way. -/
def Pair.exchanged (pair : Pair) : Pair := ⟨pair.quote, pair.base, pair.convention.other⟩

/-- **The trade seen from the other token.** -/
def Trade.exchanged (trade : Trade) : Trade :=
  { trade with base := trade.quote, quote := trade.base }

namespace Pair

variable {pair : Pair} {pool : Pool} {e : Entry} {x : Swap} {trade : Trade} {baseFirst : Bool}

/-! ## Orientation -/

/-- No two different legs are the two tokens of a pair in both orders. -/
theorem not_both_orders
    (hLegs : sameIgnoringCase pool.token0.address pool.token1.address = false) :
    ¬ (pool.token0.isToken pair.base = true ∧ pool.token1.isToken pair.base = true) := by
  rintro ⟨hFirst, hSecond⟩
  rw [Leg.isToken] at hFirst hSecond
  rw [sameIgnoringCase_trans hFirst hSecond] at hLegs
  cases hLegs

theorem baseFirst?_eq_true :
    pair.baseFirst? pool = some true ↔
      pool.token0.isToken pair.base = true ∧ pool.token1.isToken pair.quote = true := by
  simp only [baseFirst?]
  split
  · next hFirst => simpa using hFirst
  · next hFirst =>
    rw [Bool.and_eq_true] at hFirst
    refine iff_of_false ?_ hFirst
    split <;> simp

theorem baseFirst?_eq_false
    (hLegs : sameIgnoringCase pool.token0.address pool.token1.address = false) :
    pair.baseFirst? pool = some false ↔
      pool.token0.isToken pair.quote = true ∧ pool.token1.isToken pair.base = true := by
  simp only [baseFirst?]
  split
  · next hFirst =>
    rw [Bool.and_eq_true] at hFirst
    refine iff_of_false (by simp) fun hSecond => ?_
    exact not_both_orders hLegs ⟨hFirst.1, hSecond.2⟩
  · split
    · next hSecond => simpa using hSecond
    · next hSecond =>
      rw [Bool.and_eq_true] at hSecond
      exact iff_of_false (by simp) hSecond

theorem map_not_eq {first : Option Bool} :
    first.map not = some baseFirst ↔ first = some (!baseFirst) := by
  rcases first with _ | _ | _ <;> cases baseFirst <;> simp

/-- Exchanged legs are the tokens of a pair in the other order. -/
theorem baseFirst?_exchanged
    (hLegs : sameIgnoringCase pool.token0.address pool.token1.address = false) :
    pair.baseFirst? pool.exchanged = (pair.baseFirst? pool).map not := by
  have hOther : sameIgnoringCase pool.exchanged.token0.address pool.exchanged.token1.address
      = false := (sameIgnoringCase_comm _ _).trans hLegs
  refine Option.ext fun baseFirst => ?_
  rw [map_not_eq]
  cases baseFirst with
  | true =>
    rw [baseFirst?_eq_true, Bool.not_true, baseFirst?_eq_false hLegs, and_comm]
    rfl
  | false =>
    rw [baseFirst?_eq_false hOther, Bool.not_false, baseFirst?_eq_true, and_comm]
    rfl

/-- Legs are the tokens of the exchanged pair in the other order. -/
theorem exchanged_baseFirst?
    (hLegs : sameIgnoringCase pool.token0.address pool.token1.address = false) :
    pair.exchanged.baseFirst? pool = (pair.baseFirst? pool).map not := by
  refine Option.ext fun baseFirst => ?_
  rw [map_not_eq]
  cases baseFirst with
  | true =>
    rw [baseFirst?_eq_true, Bool.not_true, baseFirst?_eq_false hLegs]
    rfl
  | false =>
    rw [baseFirst?_eq_false hLegs, Bool.not_false, baseFirst?_eq_true]
    rfl

/-! ## Amounts -/

/-- The name of the field that an amount is read for matters for the failure only. -/
theorem readAmount_cases (text : String) : (∃ amount, ∀ field, readAmount field text = .ok amount) ∨
    ∀ field, ∃ f, readAmount field text = .error f := by
  simp only [readAmount]
  split
  · exact .inr fun field => ⟨_, rfl⟩
  · split
    · exact .inl ⟨_, fun field => rfl⟩
    · exact .inr fun field => ⟨_, rfl⟩

theorem flows_exchanged (x : Swap) : flows x.exchanged = (flows x).map Prod.swap := by
  simp only [flows, Swap.flow0, Swap.flow1, Swap.exchanged]
  rcases readAmount_cases x.amount0 with ⟨amount0, h0⟩ | h0
  · rcases readAmount_cases x.amount1 with ⟨amount1, h1⟩ | h1
    · rw [h0, h0, h1, h1]
      rfl
    · obtain ⟨f, hf⟩ := h1 "amount0"
      obtain ⟨g, hg⟩ := h1 "amount1"
      rw [h0, h0, hf, hg]
      rfl
  · obtain ⟨f, hf⟩ := h0 "amount1"
    obtain ⟨g, hg⟩ := h0 "amount0"
    rw [hf, hg]
    cases readAmount "amount0" x.amount1 <;> rfl

theorem flows_eq_ok {base quote : Float} :
    flows x = .ok (base, quote) ↔ x.flow0 = .ok base ∧ x.flow1 = .ok quote := by
  simp only [flows]
  split
  · next hFlow0 hFlow1 => simp [hFlow0, hFlow1]
  · next hFailed =>
    refine iff_of_false nofun ?_
    rintro ⟨hFlow0, hFlow1⟩
    exact hFailed _ _ hFlow0 hFlow1

/-- A trade with exchanged amounts. -/
theorem exchanged_trade (pair : Pair) (base quote : Float) (time : Int) :
    pair.exchanged.trade quote base time = (pair.trade base quote time).map Trade.exchanged := by
  simp only [trade, Bool.or_comm (quote == 0.0)]
  split
  · rfl
  · obtain ⟨_, _, _ | _⟩ := pair <;> rfl

/-! ## Classification -/

/-- The trade with two amounts, the first of which is that of the base or of the quote. -/
def tradeOf (pair : Pair) (e : Entry) (baseFirst : Bool) : Except Rejection Trade := do
  let (first, second) ← flows e.swap
  if baseFirst then pair.trade first second e.time else pair.trade second first e.time

theorem classify_self (pair : Pair) (e : Entry)
    (h : sameIgnoringCase e.swap.pool.token0.address e.swap.pool.token1.address = true) :
    pair.classify e = .error .selfTrade := if_pos h

theorem classify_of_legs (pair : Pair) (e : Entry)
    (h : sameIgnoringCase e.swap.pool.token0.address e.swap.pool.token1.address = false) :
    pair.classify e
      = (pair.baseFirst? e.swap.pool).elim (.error .wrongPair) (pair.tradeOf e) := by
  rw [classify]
  dsimp only
  rw [if_neg (by rw [h]; exact Bool.false_ne_true)]
  cases pair.baseFirst? e.swap.pool <;> rfl

theorem tradeOf_exchanged (pair : Pair) (e : Entry) (baseFirst : Bool) :
    pair.tradeOf e.exchanged (!baseFirst) = pair.tradeOf e baseFirst := by
  rw [tradeOf, tradeOf, show e.exchanged.swap = e.swap.exchanged from rfl, flows_exchanged]
  rcases flows e.swap with f | ⟨first, second⟩
  · rfl
  · cases baseFirst <;> rfl

theorem exchanged_tradeOf (pair : Pair) (e : Entry) (baseFirst : Bool) :
    pair.exchanged.tradeOf e (!baseFirst) = (pair.tradeOf e baseFirst).map Trade.exchanged := by
  rw [tradeOf, tradeOf]
  rcases flows e.swap with f | ⟨first, second⟩
  · rfl
  · cases baseFirst with
    | true => exact exchanged_trade pair first second e.time
    | false => exact exchanged_trade pair second first e.time

/-- **The order of the legs** is not told from the outcome. -/
theorem classify_exchanged (pair : Pair) (e : Entry) :
    pair.classify e.exchanged = pair.classify e := by
  have hComm : sameIgnoringCase e.exchanged.swap.pool.token0.address
      e.exchanged.swap.pool.token1.address
      = sameIgnoringCase e.swap.pool.token0.address e.swap.pool.token1.address :=
    sameIgnoringCase_comm _ _
  cases hLegs : sameIgnoringCase e.swap.pool.token0.address e.swap.pool.token1.address with
  | true => rw [classify_self pair e hLegs, classify_self pair _ (hComm.trans hLegs)]
  | false =>
    rw [classify_of_legs pair e hLegs, classify_of_legs pair _ (hComm.trans hLegs)]
    rw [show e.exchanged.swap.pool = e.swap.pool.exchanged from rfl, baseFirst?_exchanged hLegs]
    cases pair.baseFirst? e.swap.pool with
    | none => rw [Option.map_none, Option.elim_none, Option.elim_none]
    | some baseFirst =>
      rw [Option.map_some, Option.elim_some, Option.elim_some]
      exact tradeOf_exchanged pair e baseFirst

/-- **The other side of the pair** makes the same trade of a swap, with its amounts exchanged. -/
theorem exchanged_classify (pair : Pair) (e : Entry) :
    pair.exchanged.classify e = (pair.classify e).map Trade.exchanged := by
  cases hLegs : sameIgnoringCase e.swap.pool.token0.address e.swap.pool.token1.address with
  | true =>
    rw [classify_self _ e hLegs, classify_self _ e hLegs]
    rfl
  | false =>
    rw [classify_of_legs _ e hLegs, classify_of_legs _ e hLegs, exchanged_baseFirst? hLegs]
    cases pair.baseFirst? e.swap.pool with
    | none => rfl
    | some baseFirst => exact exchanged_tradeOf pair e baseFirst

/-- **The case of an address** is not told from the outcome. -/
theorem classify_readdressed {address0 address1 base quote : String}
    (h0 : SameButCase e.swap.pool.token0.address address0)
    (h1 : SameButCase e.swap.pool.token1.address address1) (hBase : SameButCase pair.base base)
    (hQuote : SameButCase pair.quote quote) :
    classify ⟨base, quote, pair.convention⟩ (e.readdressed address0 address1)
      = pair.classify e := by
  -- Every comparison made of the addresses ignores case, so all of them have the same outcome.
  have hOrder : baseFirst? ⟨base, quote, pair.convention⟩
      (e.swap.pool.readdressed address0 address1) = pair.baseFirst? e.swap.pool := by
    have hFirstBase : sameIgnoringCase address0 base = _ := sameIgnoringCase_congr h0 hBase
    have hFirstQuote : sameIgnoringCase address0 quote = _ := sameIgnoringCase_congr h0 hQuote
    have hSecondBase : sameIgnoringCase address1 base = _ := sameIgnoringCase_congr h1 hBase
    have hSecondQuote : sameIgnoringCase address1 quote = _ := sameIgnoringCase_congr h1 hQuote
    show (if (sameIgnoringCase address0 base && sameIgnoringCase address1 quote) = true
      then some true else if (sameIgnoringCase address0 quote && sameIgnoringCase address1 base)
        = true then some false else none) = _
    rw [hFirstBase, hFirstQuote, hSecondBase, hSecondQuote]
    rfl
  have hTogether : sameIgnoringCase (e.readdressed address0 address1).swap.pool.token0.address
      (e.readdressed address0 address1).swap.pool.token1.address
      = sameIgnoringCase e.swap.pool.token0.address e.swap.pool.token1.address :=
    sameIgnoringCase_congr h0 h1
  cases hLegs : sameIgnoringCase e.swap.pool.token0.address e.swap.pool.token1.address with
  | true => rw [classify_self _ e hLegs, classify_self _ _ (hTogether.trans hLegs)]
  | false =>
    rw [classify_of_legs _ e hLegs, classify_of_legs _ _ (hTogether.trans hLegs)]
    rw [show (e.readdressed address0 address1).swap.pool
      = e.swap.pool.readdressed address0 address1 from rfl, hOrder]
    rfl

/-! ## Which swaps are trades -/

theorem trade_eq_ok {base quote : Float} {time : Int} :
    pair.trade base quote time = .ok trade ↔ (base == 0.0) = false ∧ (quote == 0.0) = false ∧
      trade = ⟨base, quote, pair.convention.price base quote, time⟩ := by
  simp only [Pair.trade]
  split
  · next hZero =>
    refine iff_of_false nofun ?_
    rintro ⟨hBase, hQuote, -⟩
    rw [hBase, hQuote] at hZero
    cases hZero
  · next hSome =>
    rw [Bool.not_eq_true, Bool.or_eq_false_iff] at hSome
    simp only [hSome, true_and, Except.ok.injEq]
    exact eq_comm

theorem tradeOf_eq_ok : pair.tradeOf e baseFirst = .ok trade ↔
    ∃ first second, e.swap.flow0 = .ok first ∧ e.swap.flow1 = .ok second ∧
      (if baseFirst then pair.trade first second e.time else pair.trade second first e.time)
        = .ok trade := by
  rw [tradeOf]
  constructor
  · intro h
    rcases hFlows : flows e.swap with r | ⟨first, second⟩
    · rw [hFlows] at h
      cases h
    · rw [hFlows] at h
      obtain ⟨hFlow0, hFlow1⟩ := flows_eq_ok.1 hFlows
      exact ⟨first, second, hFlow0, hFlow1, h⟩
  · rintro ⟨first, second, hFlow0, hFlow1, h⟩
    rw [flows_eq_ok.2 ⟨hFlow0, hFlow1⟩]
    exact h

theorem classify_eq_tradeOf
    (h : sameIgnoringCase e.swap.pool.token0.address e.swap.pool.token1.address = false) :
    pair.classify e = .ok trade ↔ ∃ baseFirst,
      pair.baseFirst? e.swap.pool = some baseFirst ∧ pair.tradeOf e baseFirst = .ok trade := by
  rw [classify_of_legs pair e h]
  cases pair.baseFirst? e.swap.pool with
  | none => simp
  | some baseFirst => simp

/-- **Trades of a pair**: the legs are two different tokens, which are the base and the quote, and
neither amount is zero. The order of the legs tells which amount is that of the base. -/
theorem classify_eq_ok : pair.classify e = .ok trade ↔
    ¬ SameButCase e.swap.pool.token0.address e.swap.pool.token1.address ∧
    ∃ first second, e.swap.flow0 = .ok first ∧ e.swap.flow1 = .ok second ∧
      (first == 0.0) = false ∧ (second == 0.0) = false ∧
      (SameButCase e.swap.pool.token0.address pair.base ∧
          SameButCase e.swap.pool.token1.address pair.quote ∧
          trade = ⟨first, second, pair.convention.price first second, e.time⟩ ∨
        SameButCase e.swap.pool.token0.address pair.quote ∧
          SameButCase e.swap.pool.token1.address pair.base ∧
          trade = ⟨second, first, pair.convention.price second first, e.time⟩) := by
  simp only [← sameIgnoringCase_iff, Bool.not_eq_true]
  constructor
  · intro h
    cases hLegs : sameIgnoringCase e.swap.pool.token0.address e.swap.pool.token1.address with
    | true =>
      rw [classify_self pair e hLegs] at h
      cases h
    | false =>
      obtain ⟨baseFirst, hOrder, hTrade⟩ := (classify_eq_tradeOf hLegs).1 h
      obtain ⟨first, second, hFlow0, hFlow1, hMade⟩ := tradeOf_eq_ok.1 hTrade
      refine ⟨rfl, first, second, hFlow0, hFlow1, ?_⟩
      -- The order of the legs says which of the two flows is the base.
      cases baseFirst with
      | true =>
        obtain ⟨hBase, hQuote, hSame⟩ := trade_eq_ok.1 hMade
        obtain ⟨hFirst, hSecond⟩ := baseFirst?_eq_true.1 hOrder
        exact ⟨hBase, hQuote, .inl ⟨hFirst, hSecond, hSame⟩⟩
      | false =>
        obtain ⟨hBase, hQuote, hSame⟩ := trade_eq_ok.1 hMade
        obtain ⟨hFirst, hSecond⟩ := (baseFirst?_eq_false hLegs).1 hOrder
        exact ⟨hQuote, hBase, .inr ⟨hFirst, hSecond, hSame⟩⟩
  · rintro ⟨hLegs, first, second, hFlow0, hFlow1, hSome0, hSome1, hOrder⟩
    rw [classify_eq_tradeOf hLegs]
    rcases hOrder with ⟨hFirst, hSecond, hSame⟩ | ⟨hFirst, hSecond, hSame⟩
    · refine ⟨true, baseFirst?_eq_true.2 ⟨hFirst, hSecond⟩, tradeOf_eq_ok.2 ?_⟩
      exact ⟨first, second, hFlow0, hFlow1, trade_eq_ok.2 ⟨hSome0, hSome1, hSame⟩⟩
    · refine ⟨false, (baseFirst?_eq_false hLegs).2 ⟨hFirst, hSecond⟩, tradeOf_eq_ok.2 ?_⟩
      exact ⟨first, second, hFlow0, hFlow1, trade_eq_ok.2 ⟨hSome1, hSome0, hSame⟩⟩

/-- **Classification is symmetric.** It depends neither on the order of the legs nor on the case of
an address, and the other side of the pair makes the same trade with its amounts exchanged. A trade
is made of a swap only if its legs are two different tokens, the base and the quote. -/
theorem classify_symmetric (pair : Pair) (e : Entry) :
    pair.classify e.exchanged = pair.classify e ∧
    (∀ address0 address1 base quote, SameButCase e.swap.pool.token0.address address0 →
      SameButCase e.swap.pool.token1.address address1 → SameButCase pair.base base →
      SameButCase pair.quote quote →
      classify ⟨base, quote, pair.convention⟩ (e.readdressed address0 address1)
        = pair.classify e) ∧
    pair.exchanged.classify e = (pair.classify e).map Trade.exchanged ∧
    ∀ trade, pair.classify e = .ok trade ↔
      ¬ SameButCase e.swap.pool.token0.address e.swap.pool.token1.address ∧
      ∃ first second, e.swap.flow0 = .ok first ∧ e.swap.flow1 = .ok second ∧
        (first == 0.0) = false ∧ (second == 0.0) = false ∧
        (SameButCase e.swap.pool.token0.address pair.base ∧
            SameButCase e.swap.pool.token1.address pair.quote ∧
            trade = ⟨first, second, pair.convention.price first second, e.time⟩ ∨
          SameButCase e.swap.pool.token0.address pair.quote ∧
            SameButCase e.swap.pool.token1.address pair.base ∧
            trade = ⟨second, first, pair.convention.price second first, e.time⟩) :=
  ⟨classify_exchanged pair e, fun _ _ _ _ => classify_readdressed, exchanged_classify pair e,
    fun _ => classify_eq_ok⟩

/-- A swap whose second leg is the base, with addresses in a mixture of cases. -/
theorem classify_symmetric_of_mixed_case :
    let swap : Swap := { (default : Swap) with
      id := "a", pool := ⟨"0x02", ⟨"0xAb", "USDC"⟩, ⟨"0xcD", "WETH"⟩⟩
      amount0 := "-2000", amount1 := "1", timestamp := 7 }
    let e : Entry := ⟨"a", swap, 7⟩
    let pair : Pair := ⟨"0xCD", "0xaB", .quotePerBase⟩
    let trade : Trade := ⟨1.0, -2000.0, 2000.0, 7⟩
    pair.classify e = .ok trade ∧ pair.classify e.exchanged = .ok trade ∧
      SameButCase "0xAb" "0xAB" ∧ SameButCase "0xcD" "0xcd" ∧ SameButCase "0xCD" "0xCd" ∧
      SameButCase "0xaB" "0xab" ∧
      classify ⟨"0xCd", "0xab", .quotePerBase⟩ (e.readdressed "0xAB" "0xcd") = .ok trade ∧
      pair.exchanged.classify e = .ok ⟨-2000.0, 1.0, 2000.0, 7⟩ ∧
      ¬ SameButCase "0xAb" "0xcD" := by
  intro swap e pair trade
  have hTrade : pair.classify e = .ok trade := by decide +kernel
  obtain ⟨hLegs, hCase, hSide, hMade⟩ := classify_symmetric pair e
  have h0 : SameButCase "0xAb" "0xAB" := by decide
  have h1 : SameButCase "0xcD" "0xcd" := by decide
  have hBase : SameButCase "0xCD" "0xCd" := by decide
  have hQuote : SameButCase "0xaB" "0xab" := by decide
  refine ⟨hTrade, hLegs.trans hTrade, h0, h1, hBase, hQuote, ?_, ?_, ((hMade trade).1 hTrade).1⟩
  · exact (hCase "0xAB" "0xcd" "0xCd" "0xab" h0 h1 hBase hQuote).trans hTrade
  · rw [hSide, hTrade]
    rfl

end Pair
end SwapArchive
