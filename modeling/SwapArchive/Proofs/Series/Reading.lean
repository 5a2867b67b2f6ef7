import Mathlib.Data.List.TakeWhile
import SwapArchive.Proofs.Series.Rolling
import SwapArchive.Series.Basic

/-!
# What an aggregator has seen

Shards are read row after row. A row that is no swap is passed over, and any other failure ends the
reading of all shards. Up to there every swap is classified and counted in the tally of the
normalizer, which is taken out of it at the end of each shard. So the tally of a series is that of
all its swaps; but after a failure the counts of the shard that was being read stay behind.
-/

namespace SwapArchive

/-! ## Rows -/

/-- The failure with which a row ends the reading. A row that is no swap does not end it. -/
def readingFailure? : Outcome Entry → Option Failure
  | .ok _ => none
  | .error (.data _) => none
  | .error f => some f

/-- Whether a row is passed over, because it is no swap. -/
def isUnreadable : Outcome Entry → Bool
  | .error (.data _) => true
  | _ => false

def entriesIn (rows : List (Outcome Entry)) : List Entry := rows.filterMap Except.toOption

theorem entriesIn_append {rows rows' : List (Outcome Entry)} :
    entriesIn (rows ++ rows') = entriesIn rows ++ entriesIn rows' :=
  List.filterMap_append

namespace ShardRows

/-- The failure that ends the reading of a shard. -/
def failure? (shard : ShardRows) : Option Failure := shard.rows.findSome? readingFailure?

/-- The rows that are read before a failure. -/
def front (shard : ShardRows) : List (Outcome Entry) :=
  shard.rows.takeWhile fun row => (readingFailure? row).isNone

theorem front_eq_rows {shard : ShardRows} (h : shard.failure? = none) :
    shard.front = shard.rows := by
  rw [failure?, List.findSome?_eq_none_iff] at h
  exact List.takeWhile_eq_self_iff.2 fun row hRow => by rw [h row hRow]; rfl

end ShardRows

/-- **Shards that can be read**: every row is a swap, or fails as no swap. -/
def Legible (shards : List ShardRows) : Prop :=
  ∀ shard ∈ shards, ∀ row ∈ shard.rows,
    (∃ e, row = .ok e) ∨ ∃ reason, row = .error (.data reason)

theorem Legible.failure?_eq_none {shards : List ShardRows} (h : Legible shards) :
    shards.findSome? ShardRows.failure? = none := by
  rw [List.findSome?_eq_none_iff]
  intro shard hShard
  rw [ShardRows.failure?, List.findSome?_eq_none_iff]
  intro row hRow
  obtain ⟨e, rfl⟩ | ⟨reason, rfl⟩ := h shard hShard row hRow
  · rfl
  · rfl

/-! ## Tallies -/

namespace Tally

variable {t u v : Tally}

@[simp] theorem empty_merge : ({} : Tally).merge t = t := by simp [merge]

@[simp] theorem merge_empty : t.merge {} = t := by simp [merge]

theorem merge_assoc : (t.merge u).merge v = t.merge (u.merge v) := by
  simp [merge, Nat.add_assoc]

theorem merge_eq_right : t.merge u = u ↔ t = {} := by
  cases t
  cases u
  simp [merge]

/-- **A tally that adds up**: every swap is kept, or rejected for one reason. -/
def Balanced (t : Tally) : Prop :=
  t.kept + t.selfTrades + t.wrongPair + t.unparsable + t.zeroFlow = t.total

theorem Balanced.merge (ht : t.Balanced) (hu : u.Balanced) : (t.merge u).Balanced := by
  simp only [Balanced, Tally.merge] at *
  omega

theorem Balanced.record (h : t.Balanced) (outcome : Except Rejection Trade) :
    (t.record outcome).Balanced := by
  unfold Balanced at *
  rcases outcome with (_ | _ | _ | _) | trade <;> simp only [Tally.record] <;> omega

end Tally

/-! ## Swaps -/

namespace Pair

variable (pair : Pair)

/-- The trades of swaps, in their order. -/
def keptOf (entries : List Entry) : List Trade :=
  entries.filterMap fun e => (pair.classify e).toOption

/-- Whether a swap is rejected for a reason. -/
def rejects (r : Rejection) (e : Entry) : Bool :=
  match pair.classify e with
  | .ok _ => false
  | .error r' => r = r'

/-- **The tally of swaps**: how many there are, and what becomes of them. -/
def tallyOf (entries : List Entry) : Tally where
  total := entries.length
  kept := (pair.keptOf entries).length
  selfTrades := entries.countP (pair.rejects .selfTrade)
  wrongPair := entries.countP (pair.rejects .wrongPair)
  unparsable := entries.countP (pair.rejects .unparsable)
  zeroFlow := entries.countP (pair.rejects .zeroFlow)

variable {pair} {e : Entry} {entries entries' : List Entry}

theorem keptOf_cons :
    pair.keptOf (e :: entries) = (pair.classify e).toOption.toList ++ pair.keptOf entries := by
  rw [keptOf, List.filterMap_cons]
  cases (pair.classify e).toOption <;> rfl

theorem keptOf_append :
    pair.keptOf (entries ++ entries') = pair.keptOf entries ++ pair.keptOf entries' :=
  List.filterMap_append

theorem tallyOf_append :
    pair.tallyOf (entries ++ entries') = (pair.tallyOf entries).merge (pair.tallyOf entries') := by
  simp [tallyOf, Tally.merge, keptOf_append]

theorem record_classify {t : Tally} :
    t.record (pair.classify e) = t.merge (pair.tallyOf [e]) := by
  rcases hClass : pair.classify e with (_ | _ | _ | _) | trade <;>
    simp [tallyOf, keptOf, rejects, hClass, Tally.record, Tally.merge, Except.toOption]

/-- **Conservation**: the counts of swaps add up to their number. -/
theorem balanced_tallyOf : (pair.tallyOf entries).Balanced := by
  have hNone : (pair.tallyOf []).Balanced := rfl
  induction entries with
  | nil => exact hNone
  | cons e entries ih =>
    have hOne : (pair.tallyOf [e]).Balanced := by
      rw [← Tally.empty_merge (t := pair.tallyOf [e]), ← record_classify]
      exact hNone.record _
    rw [← List.singleton_append, tallyOf_append]
    exact hOne.merge ih

end Pair

/-! ## Reading -/

namespace Normalizer

def seen (n : Normalizer) (entries : List Entry) : Normalizer :=
  ⟨n.pair, n.tally.merge (n.pair.tallyOf entries)⟩

variable {n : Normalizer} {e : Entry} {entries : List Entry}

theorem seen_nil : n.seen [] = n := congrArg (Normalizer.mk n.pair) Tally.merge_empty

theorem seen_cons : n.seen (e :: entries) = (n.normalize e).2.seen entries := by
  rw [normalize, seen, seen, ← List.singleton_append, Pair.tallyOf_append, Pair.record_classify,
    Tally.merge_assoc]

end Normalizer

/-- **Reading the rows of a shard**, up to a failure. -/
theorem readRows_eq (shard : ShardRows) (n : Normalizer) :
    let read := readRows shard.label n shard.rows
    let entries := entriesIn shard.front
    read.1 = shard.failure?.elim (.ok ()) .error ∧ read.2.trades = n.pair.keptOf entries ∧
      read.2.unreadable = shard.front.countP isUnreadable ∧
      read.2.normalizer = n.seen entries := by
  obtain ⟨label, rows⟩ := shard
  simp only [ShardRows.failure?, ShardRows.front]
  -- What is read of a row goes before what is read of the rows behind it, with the normalizer that
  -- the row leaves. So the induction is for every normalizer.
  induction rows generalizing n with
  | nil => exact ⟨rfl, rfl, rfl, Normalizer.seen_nil.symm⟩
  | cons row rows ih =>
    rcases row with f | e
    · cases f with
      | data reason =>
        obtain ⟨hEnd, hTrades, hUnreadable, hNormalizer⟩ := ih n
        refine ⟨hEnd, hTrades, ?_, hNormalizer⟩
        exact (congrArg (· + 1) hUnreadable).trans (List.countP_cons_of_pos rfl).symm
      | _ => exact ⟨rfl, rfl, rfl, Normalizer.seen_nil.symm⟩
    · obtain ⟨hEnd, hTrades, hUnreadable, hNormalizer⟩ := ih (n.normalize e).2
      refine ⟨hEnd, ?_, hUnreadable, ?_⟩
      · exact (congrArg (_ ++ ·) hTrades).trans Pair.keptOf_cons.symm
      · exact hNormalizer.trans Normalizer.seen_cons.symm

/-- **What a call leaves in the tally** that it finds there: after a failure, with the counts of the
shard that was being read. Nothing of the earlier shards is left. -/
def Pair.leftOver (pair : Pair) (found : Tally) : List ShardRows → Tally
  | [] => found
  | shard :: shards =>
    match shard.failure? with
    | none => pair.leftOver {} shards
    | some _ => found.merge (pair.tallyOf (entriesIn shard.front))

/-- A call that succeeds leaves nothing that it has not found. -/
theorem Pair.leftOver_empty {pair : Pair} {shards : List ShardRows}
    (h : shards.findSome? ShardRows.failure? = none) : pair.leftOver {} shards = {} := by
  induction shards with
  | nil => rfl
  | cons shard shards ih =>
    rw [List.findSome?_eq_none_iff, List.forall_mem_cons] at h
    rw [leftOver, h.1]
    exact ih (List.findSome?_eq_none_iff.2 h.2)

/-- **Reading shards**, up to a failure. -/
theorem gather_eq (n : Normalizer) (shards : List ShardRows) :
    let read := gather n shards
    let rows := shards.flatMap (·.rows)
    read.1 = (shards.findSome? ShardRows.failure?).elim (.ok ()) .error ∧
      read.2.2 = ⟨n.pair, n.pair.leftOver n.tally shards⟩ ∧
      (shards.findSome? ShardRows.failure? = none →
        read.2.1.trades = n.pair.keptOf (entriesIn rows) ∧
        read.2.1.unreadable = rows.countP isUnreadable ∧
        read.2.1.tally
          = (if shards.isEmpty then {} else n.tally).merge (n.pair.tallyOf (entriesIn rows))) := by
  dsimp only
  induction shards generalizing n with
  | nil => exact ⟨rfl, rfl, fun _ => ⟨rfl, rfl, rfl⟩⟩
  | cons shard shards ih =>
    obtain ⟨hEnd, hTrades, hUnreadable, hNormalizer⟩ := readRows_eq shard n
    rw [gather, List.findSome?_cons, Pair.leftOver]
    generalize readRows shard.label n shard.rows = read at *
    obtain ⟨ended, reading⟩ := read
    cases hFailure : shard.failure? with
    | some f =>
      rw [hFailure] at hEnd
      obtain rfl : ended = .error f := hEnd
      exact ⟨rfl, hNormalizer, fun hNone => nomatch hNone⟩
    | none =>
      rw [hFailure] at hEnd
      obtain rfl : ended = .ok () := hEnd
      rw [ShardRows.front_eq_rows hFailure] at hTrades hUnreadable hNormalizer
      obtain ⟨trades, unreadable, records, after⟩ := reading
      obtain rfl : after = n.seen (entriesIn shard.rows) := hNormalizer
      -- The other shards are read with an empty tally.
      obtain ⟨hRest, hLeft, hGathered⟩ := ih (.ofPair n.pair)
      refine ⟨hRest, hLeft, fun hNone => ?_⟩
      obtain ⟨hTrades', hUnreadable', hTally⟩ := hGathered hNone
      rw [List.flatMap_cons, entriesIn_append, Pair.keptOf_append, Pair.tallyOf_append,
        List.countP_append]
      refine ⟨congrArg₂ _ hTrades hTrades', congrArg₂ _ hUnreadable hUnreadable', ?_⟩
      simp only [Normalizer.ofPair, ite_self, Tally.empty_merge] at hTally
      exact (congrArg _ hTally).trans Tally.merge_assoc

/-- A trade tells the amounts of a swap and its time, and the price is made of the amounts. -/
theorem Pair.exists_amounts_of_classify {pair : Pair} {e : Entry} {trade : Trade}
    (h : pair.classify e = .ok trade) :
    ∃ base quote, trade = ⟨base, quote, pair.convention.price base quote, e.time⟩ := by
  have hTrade {base quote : Float} (hMade : pair.trade base quote e.time = .ok trade) :
      ∃ base quote, trade = ⟨base, quote, pair.convention.price base quote, e.time⟩ := by
    unfold Pair.trade at hMade
    split at hMade
    · cases hMade
    · exact ⟨base, quote, (Except.ok.inj hMade).symm⟩
  unfold classify at h
  dsimp only at h
  split at h
  · cases h
  split at h
  · cases h
  · next baseFirst _ =>
    cases hFlows : flows e.swap with
    | error r =>
      rw [hFlows] at h
      cases h
    | ok amounts =>
      rw [hFlows] at h
      cases baseFirst with
      | true => exact hTrade h
      | false => exact hTrade h

/-- The trades of shards, in order of time. -/
def Pair.mergedOf (pair : Pair) (shards : List ShardRows) : List Trade :=
  inOrder (pair.keptOf (entriesIn (shards.flatMap (·.rows))))

/-- The prices that a window rolls along. -/
def Pair.pricesOf (pair : Pair) (shards : List ShardRows) : List Float :=
  (pair.mergedOf shards).map (·.price)

theorem Pair.length_pricesOf_le (pair : Pair) (shards : List ShardRows) :
    (pair.pricesOf shards).length ≤ (shards.flatMap (·.rows)).length := by
  rw [pricesOf, mergedOf, inOrder, List.length_map, List.length_mergeSort]
  exact (List.length_filterMap_le _ _).trans (List.length_filterMap_le _ _)

theorem isFinite_of_inOrder {trades : List Trade} (h : ∀ t ∈ trades, t.price.isFinite = true) :
    ∀ p ∈ (inOrder trades).map (·.price), p.isFinite = true := by
  intro p hp
  obtain ⟨t, ht, rfl⟩ := List.mem_map.1 hp
  exact h t (List.mem_mergeSort.1 ht)

/-- Prices have no sign. -/
theorem Pair.price_ne_negative_zero {pair : Pair} {shards : List ShardRows} {price : Float}
    (h : price ∈ pair.pricesOf shards) : price ≠ -0.0 := by
  obtain ⟨trade, hTrade, rfl⟩ := List.mem_map.1 h
  obtain ⟨e, -, hClass⟩ := List.mem_filterMap.1 (List.mem_mergeSort.1 hTrade)
  cases hOutcome : pair.classify e with
  | error r =>
    rw [hOutcome] at hClass
    cases hClass
  | ok kept =>
    rw [hOutcome] at hClass
    obtain rfl := Option.some.inj hClass
    obtain ⟨base, quote, rfl⟩ := exists_amounts_of_classify hOutcome
    -- Either convention takes the absolute value of a quotient last.
    cases hConvention : pair.convention with
    | quotePerBase =>
      simp only [PriceConvention.price]
      exact Decimal.abs_ne_negative_zero _
    | basePerQuote =>
      simp only [PriceConvention.price]
      exact Decimal.abs_ne_negative_zero _

/-- **The series of shards**, by the swaps in them, with the deviations that have been found. -/
def Pair.seriesOf (pair : Pair) (shards : List ShardRows) (deviations : List (Option Float)) :
    Series :=
  let rows := shards.flatMap (·.rows)
  { trades := pair.mergedOf shards
    deviations
    tally := pair.tallyOf (entriesIn rows)
    unreadable := rows.countP isUnreadable }

/-- **The outcome of a call** that has found something in the tally. -/
def Pair.outcomeOf (pair : Pair) (m : Machine) (window : Nat) (found : Tally)
    (shards : List ShardRows) : Except Halt Series :=
  match shards.findSome? ShardRows.failure? with
  | some f => .error (.failed f)
  | none =>
    match rollingDeviation m (pair.pricesOf shards) window with
    | .error crash => .error (.crashed crash)
    | .ok deviations =>
      let series := pair.seriesOf shards deviations
      .ok { series with tally := found.merge series.tally }

/-- What a call has found in the tally is merged into its series, and changes nothing else. -/
theorem Pair.outcomeOf_eq_map (pair : Pair) (m : Machine) (window : Nat) (found : Tally)
    (shards : List ShardRows) :
    pair.outcomeOf m window found shards = (pair.outcomeOf m window {} shards).map fun series =>
      { series with tally := found.merge series.tally } := by
  unfold outcomeOf
  cases shards.findSome? ShardRows.failure? with
  | some f => rfl
  | none =>
    cases rollingDeviation m (pair.pricesOf shards) window with
    | error crash => rfl
    | ok deviations => simp [Except.map]

namespace Aggregator

/-- **A call of an aggregator**, whatever it has found in the tally. With no shards at all, nothing
is taken out of it. -/
theorem aggregate_eq (a : Aggregator) (m : Machine) (shards : List ShardRows) :
    let pair := a.normalizer.pair
    let found := if shards.isEmpty then {} else a.normalizer.tally
    (a.aggregate m shards).1 = pair.outcomeOf m a.window found shards ∧
      (a.aggregate m shards).2.2
        = { a with normalizer := ⟨pair, pair.leftOver a.normalizer.tally shards⟩ } := by
  obtain ⟨hEnd, hLeft, hGathered⟩ := gather_eq a.normalizer shards
  dsimp only
  unfold aggregate Pair.outcomeOf
  generalize gather a.normalizer shards = result at *
  obtain ⟨ended, ⟨trades, tally, unreadable, records⟩, after⟩ := result
  obtain rfl : after = _ := hLeft
  -- A failed shard ends the gathering, before anything rolls.
  cases hFailure : shards.findSome? ShardRows.failure? with
  | some f =>
    rw [hFailure] at hEnd
    obtain rfl : ended = .error f := hEnd
    exact ⟨rfl, rfl⟩
  | none =>
    rw [hFailure] at hEnd
    obtain rfl : ended = .ok () := hEnd
    obtain ⟨hTrades, hUnreadable, hTally⟩ := hGathered hFailure
    obtain rfl : trades = _ := hTrades
    obtain rfl : unreadable = _ := hUnreadable
    obtain rfl : tally = _ := hTally
    dsimp only [Pair.pricesOf, Pair.mergedOf]
    generalize rollingDeviation m _ a.window = rolled
    cases rolled with
    | error crash => exact ⟨rfl, rfl⟩
    | ok deviations => exact ⟨rfl, rfl⟩

/-- The first call of an aggregator finds nothing in the tally. -/
theorem aggregate_ofPair (pair : Pair) (window : Nat) (m : Machine) (shards : List ShardRows) :
    ((ofPair pair window).aggregate m shards).1 = pair.outcomeOf m (max window 1) {} shards := by
  have hCall := ((ofPair pair window).aggregate_eq m shards).1
  simpa only [ofPair, Normalizer.ofPair, ite_self] using hCall

/-- **How a call ends** on shards that can be read. No failure is met. The call crashes if the
rolling deviation does, and so always if the window is too great to be reserved. It makes a series
on a machine that suits the prices, as one with room for the window does if they are finite. -/
structure Ends (m : Machine) (prices : List Float) (window : Nat)
    (outcome : Except Halt Series) : Prop where
  not_failed : ∀ f, outcome ≠ .error (.failed f)
  crashed_iff : ∀ crash,
    outcome = .error (.crashed crash) ↔ rollingDeviation m prices window = .error crash
  deviations : ∀ series, outcome = .ok series →
    rollingDeviation m prices window = .ok series.deviations
  full : 2 ^ 60 ≤ window → outcome = .error (.crashed .capacity)
  made : m.Suits prices window → ∃ series, outcome = .ok series
  made_of_finite : m.reserve (max window 1 * priceBytes) = .ok () → m.FindsMedians →
    (∀ p ∈ prices, p.isFinite = true) → ∃ series, outcome = .ok series

end Aggregator

variable {pair : Pair} {m : Machine} {window : Nat} {shards : List ShardRows} {series : Series}

theorem rollingDeviation_max (m : Machine) (prices : List Float) (window : Nat) :
    rollingDeviation m prices (max window 1) = rollingDeviation m prices window := by
  rw [rollingDeviation, rollingDeviation, RollingWindow.ofSize, RollingWindow.ofSize, Nat.max_assoc,
    Nat.max_self]

/-- **A series of shards** is that of the swaps in them, and holds the deviations of their
prices. -/
theorem Aggregator.aggregate_eq_ok : ((ofPair pair window).aggregate m shards).1 = .ok series ↔
    shards.findSome? ShardRows.failure? = none ∧
      ∃ deviations, rollingDeviation m (pair.pricesOf shards) window = .ok deviations ∧
        series = pair.seriesOf shards deviations := by
  rw [aggregate_ofPair, Pair.outcomeOf, rollingDeviation_max]
  cases shards.findSome? ShardRows.failure? with
  | some f => simp
  | none =>
    cases rollingDeviation m (pair.pricesOf shards) window with
    | error crash => simp
    | ok deviations => simp [eq_comm]

theorem Aggregator.ends_of_legible (pair : Pair) (m : Machine) (window : Nat)
    (hLegible : Legible shards) :
    Ends m (pair.pricesOf shards) window ((ofPair pair window).aggregate m shards).1 := by
  have hMade (hSuits : m.Suits (pair.pricesOf shards) window) :
      ∃ series, ((ofPair pair window).aggregate m shards).1 = .ok series :=
    ⟨_, aggregate_eq_ok.2 ⟨hLegible.failure?_eq_none, _, hSuits.rollingDeviation_eq, rfl⟩⟩
  have hFinite (hRoom : m.reserve (max window 1 * priceBytes) = .ok ())
      (hMedians : m.FindsMedians) (h : ∀ p ∈ pair.pricesOf shards, p.isFinite = true) :
      ∃ series, ((ofPair pair window).aggregate m shards).1 = .ok series :=
    hMade (.of_finite hRoom hMedians fun p hp => ⟨h p hp, Pair.price_ne_negative_zero hp⟩)
  rw [aggregate_ofPair, Pair.outcomeOf, rollingDeviation_max, hLegible.failure?_eq_none] at *
  -- Legible shards are gathered whole, so that only the deviations can end the program.
  cases hRolling : rollingDeviation m (pair.pricesOf shards) window with
  | error crash =>
    rw [hRolling] at hMade hFinite
    refine ⟨by simp, by simp [hRolling], by simp, fun hFull => ?_, hMade, hFinite⟩
    rw [rollingDeviation_of_capacity m _ hFull] at hRolling
    cases hRolling
    rfl
  | ok deviations =>
    rw [hRolling] at hMade hFinite
    refine ⟨by simp, by simp [hRolling], ?_, fun hFull => ?_, hMade, hFinite⟩
    · rintro series ⟨⟩
      exact hRolling
    · rw [rollingDeviation_of_capacity m _ hFull] at hRolling
      cases hRolling

end SwapArchive
