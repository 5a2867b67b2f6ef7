import SwapArchive.Proofs.Fetch.Pages
import SwapArchive.Proofs.Series.Reading

/-!
# The trades of a series

A series holds the trades of all swaps that have been read, in order of time. Which trades of one
second come first is decided by the order in which the swaps were read, and by nothing else.
-/

namespace SwapArchive

section Sorting

variable {α : Type} {key : α → Int} {xs ys : List α}

private theorem keyLe_trans (a b c : α) (hab : decide (key a ≤ key b) = true)
    (hbc : decide (key b ≤ key c) = true) : decide (key a ≤ key c) = true :=
  decide_eq_true (Int.le_trans (of_decide_eq_true hab) (of_decide_eq_true hbc))

private theorem keyLe_total (a b : α) :
    (decide (key a ≤ key b) || decide (key b ≤ key a)) = true := by
  simp only [Bool.or_eq_true, decide_eq_true_eq]
  exact Int.le_total _ _

/-- Sorting by a key leaves what has one key in its order. -/
theorem filter_mergeSort (key : α → Int) (xs : List α) (k : Int) :
    (xs.mergeSort fun a b => key a ≤ key b).filter (key · = k) = xs.filter (key · = k) := by
  have hEqual : (xs.filter (key · = k)).Pairwise fun a b => decide (key a ≤ key b) = true := by
    apply List.pairwise_of_forall_mem_list
    intro a ha b hb
    have hKeyA := of_decide_eq_true (List.mem_filter.1 ha).2
    have hKeyB := of_decide_eq_true (List.mem_filter.1 hb).2
    exact decide_eq_true (by omega)
  -- In an order that does not tell them apart, these elements are sorted already, and a list that
  -- is sorted and in the other one as it stands is kept as it stands.
  have hPerm := List.mergeSort_perm xs fun a b => decide (key a ≤ key b)
  have hSublist := List.sublist_mergeSort keyLe_trans keyLe_total hEqual List.filter_sublist
  have hFiltered := hSublist.filter fun a => decide (key a = k)
  rw [List.filter_filter] at hFiltered
  simp only [Bool.and_self] at hFiltered
  exact (hFiltered.eq_of_length (hPerm.filter _).length_eq.symm).symm

/-- Sorted lists that agree for every key are the same. -/
theorem eq_of_sorted (hx : xs.Pairwise fun a b => key a ≤ key b)
    (hy : ys.Pairwise fun a b => key a ≤ key b)
    (h : ∀ k, xs.filter (key · = k) = ys.filter (key · = k)) : xs = ys := by
  have hMem {zs zs' : List α} (hSame : ∀ k, zs.filter (key · = k) = zs'.filter (key · = k)) {z : α}
      (hz : z ∈ zs) : z ∈ zs' := by
    have hThere : z ∈ zs.filter (key · = key z) := by simp [hz]
    rw [hSame] at hThere
    exact (List.mem_filter.1 hThere).1
  induction xs generalizing ys with
  | nil =>
    refine (List.eq_nil_iff_forall_not_mem.2 fun y hy' => ?_).symm
    cases hMem (fun k => (h k).symm) hy'
  | cons x xs ih =>
    cases ys with
    | nil => cases hMem h List.mem_cons_self
    | cons y ys =>
      rw [List.pairwise_cons] at hx hy
      -- Each of the first elements is not greater than the other one.
      have hKey : key x = key y := by
        rcases List.mem_cons.1 (hMem h (List.mem_cons_self (a := x))) with rfl | hLater
        · rfl
        rcases List.mem_cons.1 (hMem (fun k => (h k).symm) (List.mem_cons_self (a := y)))
          with rfl | hLater'
        · rfl
        have hxy := hx.1 y hLater'
        have hyx := hy.1 x hLater
        omega
      have hFirst := h (key x)
      rw [List.filter_cons_of_pos (by simp), List.filter_cons_of_pos (by simp [hKey])] at hFirst
      obtain ⟨rfl, -⟩ := List.cons.inj hFirst
      refine congrArg (x :: ·) (ih hx.2 hy.2 fun k => ?_)
      have hSame := h k
      by_cases hk : key x = k
      · rw [List.filter_cons_of_pos (by simp [hk]), List.filter_cons_of_pos (by simp [hk])] at hSame
        exact (List.cons.inj hSame).2
      · rw [List.filter_cons_of_neg (by simp [hk]), List.filter_cons_of_neg (by simp [hk])] at hSame
        exact hSame

theorem sorted_mergeSort (key : α → Int) (xs : List α) :
    (xs.mergeSort fun a b => key a ≤ key b).Pairwise fun a b => key a ≤ key b :=
  (List.pairwise_mergeSort keyLe_trans keyLe_total xs).imp of_decide_eq_true

/-- **Lists that agree for every key are sorted alike.** -/
theorem mergeSort_congr (key : α → Int) (h : ∀ k, xs.filter (key · = k) = ys.filter (key · = k)) :
    (xs.mergeSort fun a b => key a ≤ key b) = ys.mergeSort fun a b => key a ≤ key b := by
  refine eq_of_sorted (sorted_mergeSort key xs) (sorted_mergeSort key ys) fun k => ?_
  rw [filter_mergeSort, filter_mergeSort, h]

theorem length_congr (key : α → Int) (h : ∀ k, xs.filter (key · = k) = ys.filter (key · = k)) :
    xs.length = ys.length := by
  rw [← (List.mergeSort_perm xs fun a b => key a ≤ key b).length_eq, mergeSort_congr key h,
    (List.mergeSort_perm ys _).length_eq]

end Sorting

variable {pair : Pair} {n : Normalizer} {swaps swaps' : List Swap} {e : Entry} {trade : Trade}

/-- **The trades of swaps**: those that are kept, in the order of the swaps. -/
def Pair.tradesOf (pair : Pair) (swaps : List Swap) : List Trade :=
  swaps.filterMap fun x => (pair.classify x.entry).toOption

theorem Pair.timestamp_of_classify (h : pair.classify e = .ok trade) :
    trade.timestamp = e.time := by
  obtain ⟨base, quote, rfl⟩ := exists_amounts_of_classify h
  rfl

theorem Pair.tradesOf_eq (pair : Pair) (swaps : List Swap) :
    pair.tradesOf swaps = pair.keptOf (swaps.map Swap.entry) := by
  rw [keptOf, List.filterMap_map]
  rfl

theorem Pair.tradesOf_cons (pair : Pair) (x : Swap) (swaps : List Swap) :
    pair.tradesOf (x :: swaps)
      = (pair.classify x.entry).toOption.toList ++ pair.tradesOf swaps := by
  rw [tradesOf_eq, tradesOf_eq, List.map_cons, keptOf_cons]

/-- The trades of one second are those of its swaps. -/
theorem Pair.filter_tradesOf (pair : Pair) (swaps : List Swap) (second : Int) :
    (pair.tradesOf swaps).filter (·.timestamp = second)
      = pair.tradesOf (swaps.filter (·.timestamp = second)) := by
  induction swaps with
  | nil => rfl
  | cons x swaps ih =>
    rw [tradesOf_cons, List.filter_append, ih]
    -- A trade keeps the time of its swap, so that it may be filtered before or after.
    have hTime : ∀ trade ∈ (pair.classify x.entry).toOption.toList,
        trade.timestamp = x.timestamp := by
      intro trade hTrade
      cases hKept : pair.classify x.entry with
      | error r =>
        rw [hKept] at hTrade
        cases hTrade
      | ok kept =>
        rw [hKept] at hTrade
        obtain rfl := List.mem_singleton.1 hTrade
        exact timestamp_of_classify hKept
    by_cases hSecond : x.timestamp = second
    · rw [List.filter_cons_of_pos (by simp [hSecond]), tradesOf_cons, List.filter_eq_self.2]
      intro trade hTrade
      simp [hTime trade hTrade, hSecond]
    · rw [List.filter_cons_of_neg (by simp [hSecond]), List.filter_eq_nil_iff.2, List.nil_append]
      intro trade hTrade
      simp [hTime trade hTrade, hSecond]

section Swaps

variable {shards : List ShardRows} {swaps : List Swap}

theorem entriesIn_swaps (swaps : List Swap) :
    entriesIn (swaps.map fun x => .ok x.entry) = swaps.map Swap.entry := by
  rw [entriesIn, List.filterMap_map]
  exact congrFun List.filterMap_eq_map' _

theorem unreadable_swaps (swaps : List Swap) :
    (swaps.map fun x => (.ok x.entry : Outcome Entry)).countP isUnreadable = 0 := by
  rw [List.countP_map, List.countP_eq_zero]
  intro x _
  exact Bool.false_ne_true

theorem legible_swaps (h : shards.flatMap (·.rows) = swaps.map fun x => .ok x.entry) :
    Legible shards := by
  intro shard hShard row hRow
  have hMem : row ∈ shards.flatMap (·.rows) := List.mem_flatMap.2 ⟨shard, hShard, hRow⟩
  rw [h, List.mem_map] at hMem
  obtain ⟨x, -, rfl⟩ := hMem
  exact .inl ⟨x.entry, rfl⟩

/-- **The series of shards that hold swaps**: the trades of all swaps in order of time. -/
theorem Aggregator.aggregate_swaps (pair : Pair) (window : Nat) (m : Machine)
    (h : shards.flatMap (·.rows) = swaps.map fun x => .ok x.entry) :
    let trades := inOrder (pair.tradesOf swaps)
    let made := ((ofPair pair window).aggregate m shards).1
    Ends m (trades.map (·.price)) window made ∧
      ∀ series, made = .ok series → series.trades = trades ∧ series.unreadable = 0 ∧
        series.tally = pair.tallyOf (swaps.map Swap.entry) := by
  intro trades made
  have hTrades : pair.mergedOf shards = trades := by
    rw [Pair.mergedOf, h, entriesIn_swaps, ← Pair.tradesOf_eq]
  have hEnds := ends_of_legible pair m window (legible_swaps h)
  rw [Pair.pricesOf, hTrades] at hEnds
  refine ⟨hEnds, fun series hSeries => ?_⟩
  obtain ⟨-, deviations, -, rfl⟩ := aggregate_eq_ok.1 hSeries
  simp only [Pair.seriesOf]
  rw [h, unreadable_swaps, entriesIn_swaps]
  exact ⟨hTrades, rfl, rfl⟩

end Swaps

end SwapArchive
