import SwapArchive.Config.Basic
import SwapArchive.Swap.Basic
import SwapArchive.Swap.Trade

/-!
# Swaps of one pair

A swap is a trade of the configured pair if its two legs are the base and the quote, in either
order, and something of both changed hands. Every other swap is rejected for one reason.
-/

namespace SwapArchive

/-- A pair of tokens, and how its prices are expressed. -/
structure Pair where
  base : String
  quote : String
  convention : PriceConvention
  deriving DecidableEq, Repr

def Pair.ofConfig (c : PairConfig) : Pair := ⟨c.base, c.quote, c.convention⟩

/-- Why a swap is no trade of a pair. -/
inductive Rejection where
  /-- Both legs are the same token. -/
  | selfTrade
  /-- The legs are not the two tokens of the pair. -/
  | wrongPair
  /-- An amount is no finite number. -/
  | unparsable
  /-- Nothing of one token changed hands. -/
  | zeroFlow
  deriving DecidableEq, Repr

def Rejection.name : Rejection → String
  | selfTrade => "SelfTrade"
  | wrongPair => "WrongPair"
  | unparsable => "Unparsable"
  | zeroFlow => "ZeroFlow"

namespace Pair

/-- Whether the first leg of a pool is the base, if its legs are the tokens of the pair. -/
def baseFirst? (pair : Pair) (pool : Pool) : Option Bool :=
  if pool.token0.isToken pair.base && pool.token1.isToken pair.quote then some true
  else if pool.token0.isToken pair.quote && pool.token1.isToken pair.base then some false
  else none

def flows (s : Swap) : Except Rejection (Float × Float) :=
  match s.flow0, s.flow1 with
  | .ok x, .ok y => .ok (x, y)
  | _, _ => .error .unparsable

/-- The trade with these amounts. -/
def trade (pair : Pair) (base quote : Float) (time : Int) : Except Rejection Trade :=
  if base == 0.0 || quote == 0.0 then .error .zeroFlow
  else .ok ⟨base, quote, pair.convention.price base quote, time⟩

/-- **Classification**: the trade that a swap is, or the first reason why it is none. -/
def classify (pair : Pair) (e : Entry) : Except Rejection Trade :=
  let pool := e.swap.pool
  if Text.sameIgnoringCase pool.token0.address pool.token1.address then .error .selfTrade
  else
    match pair.baseFirst? pool with
    | none => .error .wrongPair
    | some baseFirst => do
      let (x, y) ← flows e.swap
      -- Whichever leg comes first, the base is named first in the trade.
      if baseFirst then pair.trade x y e.time else pair.trade y x e.time

end Pair

/-- How many swaps were seen, kept, and rejected for each reason. -/
structure Tally where
  total : Nat := 0
  kept : Nat := 0
  selfTrades : Nat := 0
  wrongPair : Nat := 0
  unparsable : Nat := 0
  zeroFlow : Nat := 0
  deriving DecidableEq, Repr, Inhabited

namespace Tally

def record (t : Tally) (outcome : Except Rejection Trade) : Tally :=
  match outcome with
  | .ok _ => { t with total := t.total + 1, kept := t.kept + 1 }
  | .error .selfTrade => { t with total := t.total + 1, selfTrades := t.selfTrades + 1 }
  | .error .wrongPair => { t with total := t.total + 1, wrongPair := t.wrongPair + 1 }
  | .error .unparsable => { t with total := t.total + 1, unparsable := t.unparsable + 1 }
  | .error .zeroFlow => { t with total := t.total + 1, zeroFlow := t.zeroFlow + 1 }

def merge (a b : Tally) : Tally where
  total := a.total + b.total
  kept := a.kept + b.kept
  selfTrades := a.selfTrades + b.selfTrades
  wrongPair := a.wrongPair + b.wrongPair
  unparsable := a.unparsable + b.unparsable
  zeroFlow := a.zeroFlow + b.zeroFlow

/-- The part of the swaps that was kept; zero if there were none. -/
def keptFraction (t : Tally) : Float :=
  if t.total = 0 then 0.0 else t.kept.toUInt64.toFloat / t.total.toUInt64.toFloat

end Tally

/-- A pair and the tally of the swaps classified for it. -/
structure Normalizer where
  pair : Pair
  tally : Tally
  deriving DecidableEq, Repr

namespace Normalizer

def ofPair (pair : Pair) : Normalizer := ⟨pair, {}⟩

/-- Classifies a swap and counts the outcome. -/
def normalize (n : Normalizer) (e : Entry) : Option Trade × Normalizer :=
  let outcome := n.pair.classify e
  (outcome.toOption, { n with tally := n.tally.record outcome })

/-- The tally, and the normalizer with a new one. -/
def takeTally (n : Normalizer) : Tally × Normalizer := (n.tally, { n with tally := {} })

end Normalizer
end SwapArchive
