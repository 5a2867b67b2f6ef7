import Mathlib.Data.List.Perm.Basic
import SwapArchive.Proofs.Series.Trades

/-!
# The arrangement of shards

Swaps of one second come in a series in the order in which they were read. So the order of the
shards could only show where two of them hold swaps of one second. Where none do, the shards may be
read in any order. Where a shard ends and the next one begins does not show at all.
-/

namespace SwapArchive

/-- Where no two different members of a list both contribute, the order does not matter. -/
theorem flatMap_of_perm {α β : Type} {f : α → List β} {as as' : List α} (hPerm : as'.Perm as)
    (hAlone : ∀ a ∈ as, ∀ b ∈ as, a ≠ b → f a = [] ∨ f b = []) :
    as'.flatMap f = as.flatMap f := by
  induction hPerm with
  | nil => rfl
  | cons a _ ih =>
    rw [List.flatMap_cons, List.flatMap_cons, ih fun b hb c hc =>
      hAlone b (List.mem_cons_of_mem _ hb) c (List.mem_cons_of_mem _ hc)]
  | swap a b as =>
    simp only [List.flatMap_cons, ← List.append_assoc]
    by_cases hSame : a = b
    · rw [hSame]
    · rcases hAlone a (by simp) b (by simp) hSame with hNone | hNone <;> rw [hNone] <;> simp
  | trans _ hSecond ih ih' =>
    rw [← ih' hAlone]
    exact ih fun a ha b hb => hAlone a (hSecond.mem_iff.1 ha) b (hSecond.mem_iff.1 hb)

variable {pair : Pair} {shards others : List ShardRows}

/-- **Shards apart**: no swap in one of them has the time of a swap in the other. -/
def ShardRows.Apart (a b : ShardRows) : Prop :=
  ∀ x ∈ entriesIn a.rows, ∀ y ∈ entriesIn b.rows, x.time ≠ y.time

/-- Different ones of these shards are apart. -/
def AllApart (shards : List ShardRows) : Prop :=
  ∀ a ∈ shards, ∀ b ∈ shards, a ≠ b → a.Apart b

/-- The trades of one second in the swaps of a shard. -/
def Pair.tradesAt (pair : Pair) (second : Int) (shard : ShardRows) : List Trade :=
  (pair.keptOf (entriesIn shard.rows)).filter (·.timestamp = second)

theorem Pair.exists_of_tradesAt {second : Int} {shard : ShardRows}
    (h : pair.tradesAt second shard ≠ []) : ∃ e ∈ entriesIn shard.rows, e.time = second := by
  obtain ⟨trade, hTrade⟩ := List.exists_mem_of_ne_nil _ h
  obtain ⟨hKept, hTime⟩ := List.mem_filter.1 hTrade
  obtain ⟨e, hMem, hClass⟩ := List.mem_filterMap.1 hKept
  refine ⟨e, hMem, ?_⟩
  cases hOutcome : pair.classify e with
  | error r =>
    rw [hOutcome] at hClass
    cases hClass
  | ok kept =>
    rw [hOutcome] at hClass
    obtain rfl := Option.some.inj hClass
    exact (timestamp_of_classify hOutcome).symm.trans (of_decide_eq_true hTime)

theorem ShardRows.Apart.tradesAt {a b : ShardRows} (h : a.Apart b) (second : Int) :
    pair.tradesAt second a = [] ∨ pair.tradesAt second b = [] := by
  by_contra hBoth
  rw [not_or] at hBoth
  obtain ⟨x, hx, hTime⟩ := Pair.exists_of_tradesAt hBoth.1
  obtain ⟨y, hy, hTime'⟩ := Pair.exists_of_tradesAt hBoth.2
  exact h x hx y hy (hTime.trans hTime'.symm)

theorem Pair.filter_keptOf (pair : Pair) (shards : List ShardRows) (second : Int) :
    (pair.keptOf (entriesIn (shards.flatMap (·.rows)))).filter (·.timestamp = second)
      = shards.flatMap (pair.tradesAt second) := by
  rw [entriesIn, List.filterMap_flatMap, keptOf, List.filterMap_flatMap, List.filter_flatMap]
  rfl

theorem Pair.mergedOf_of_perm (hPerm : others.Perm shards) (hApart : AllApart shards) :
    pair.mergedOf others = pair.mergedOf shards := by
  -- The sort is stable, so it depends on the order of the trades within a second only.
  refine mergeSort_congr Trade.timestamp fun second => ?_
  rw [filter_keptOf, filter_keptOf]
  exact flatMap_of_perm hPerm fun a ha b hb hOther => (hApart a ha b hb hOther).tradesAt second

theorem Pair.tallyOf_of_perm {entries entries' : List Entry} (h : entries'.Perm entries) :
    pair.tallyOf entries' = pair.tallyOf entries := by
  have hKept : (pair.keptOf entries').Perm (pair.keptOf entries) := h.filterMap _
  simp only [tallyOf, h.length_eq, hKept.length_eq, h.countP_eq]

theorem Pair.seriesOf_of_perm (hPerm : others.Perm shards) (hApart : AllApart shards) :
    pair.seriesOf others = pair.seriesOf shards := by
  have hRows : (others.flatMap (·.rows)).Perm (shards.flatMap (·.rows)) := hPerm.flatMap_right _
  have hEntries : (entriesIn (others.flatMap (·.rows))).Perm
      (entriesIn (shards.flatMap (·.rows))) := hRows.filterMap _
  funext deviations
  simp only [seriesOf, mergedOf_of_perm hPerm hApart, tallyOf_of_perm hEntries, hRows.countP_eq]

/-- The failure that ends the reading is that of the first row that has one. -/
theorem failure?_eq_findSome? (shards : List ShardRows) :
    shards.findSome? ShardRows.failure?
      = (shards.flatMap (·.rows)).findSome? readingFailure? := by
  induction shards with
  | nil => rfl
  | cons shard shards ih =>
    rw [List.findSome?_cons, List.flatMap_cons, List.findSome?_append, ih]
    cases hFirst : shard.rows.findSome? readingFailure? <;> simp [ShardRows.failure?, hFirst]

theorem failure?_isNone_of_perm (hPerm : others.Perm shards) :
    others.findSome? ShardRows.failure? = none ↔ shards.findSome? ShardRows.failure? = none := by
  simp only [List.findSome?_eq_none_iff, hPerm.mem_iff]

/-- **Shards in another arrangement.** If no two different shards hold swaps of one second, they
make the same series in every order: the same trades in the same order, the same deviations, the
same tally and as many unreadable rows; and if they make none, they make none in any order. A shard
that is cut into several ones, with its rows one after the other, makes the same series or fails in
the same way, whatever the shards hold. -/
theorem Aggregator.aggregate_rearranged (pair : Pair) (window : Nat) (m : Machine)
    (shards : List ShardRows) :
    let made (shards : List ShardRows) := ((ofPair pair window).aggregate m shards).1
    (Legible shards → Ends m (pair.pricesOf shards) window (made shards)) ∧
      (AllApart shards → ∀ others, others.Perm shards →
        (made others).toOption = (made shards).toOption) ∧
      ∀ before shard after pieces, shards = before ++ shard :: after →
        pieces.flatMap (·.rows) = shard.rows → made (before ++ pieces ++ after) = made shards := by
  intro made
  refine ⟨ends_of_legible pair m window, fun hApart others hPerm => ?_, ?_⟩
  · simp only [made, aggregate_ofPair, Pair.outcomeOf]
    cases hFailure : shards.findSome? ShardRows.failure? with
    | none =>
      rw [(failure?_isNone_of_perm hPerm).2 hFailure, Pair.pricesOf, Pair.pricesOf,
        Pair.mergedOf_of_perm hPerm hApart, Pair.seriesOf_of_perm hPerm hApart]
    | some f =>
      -- The failure can be another one, since another shard can be the first that has one.
      cases hOther : others.findSome? ShardRows.failure? with
      | none =>
        rw [(failure?_isNone_of_perm hPerm).1 hOther] at hFailure
        cases hFailure
      | some f' => rfl
  · rintro before shard after pieces rfl hPieces
    have hRows : (before ++ pieces ++ after).flatMap (·.rows)
        = (before ++ shard :: after).flatMap (·.rows) := by
      simp only [List.flatMap_append, List.flatMap_cons, hPieces, List.append_assoc]
    simp only [made, aggregate_ofPair, Pair.outcomeOf, failure?_eq_findSome?, Pair.seriesOf,
      Pair.pricesOf, Pair.mergedOf, hRows]

/-- Two days, each with two trades of one second. The earlier day is read after the later one, and
then it is cut between its two trades. -/
theorem Aggregator.aggregate_rearranged_days :
    let made (shards : List ShardRows) :=
      ((ofPair ⟨"0x04", "0x03", .quotePerBase⟩ 2).aggregate (.ordering 64) shards).1
    let row (id amount : String) (time : Int) : Outcome Entry :=
      .ok ⟨id, { Swap.sample id time with amount0 := amount }, time⟩
    let torn : Outcome Entry := .error (.data "EOF while parsing a value at line 1 column 0")
    let early : ShardRows := ⟨"2023-01-01", [row "a" "-2000" 7, torn, row "b" "-500" 7]⟩
    let late : ShardRows := ⟨"2023-01-02", [row "c" "-3000" 9, row "d" "0" 8, row "e" "-1000" 9]⟩
    let pieces : List ShardRows := [⟨"first", [row "a" "-2000" 7, torn]⟩, ⟨"second", []⟩,
      ⟨"third", [row "b" "-500" 7]⟩]
    ∃ series, made [early, late] = .ok series ∧ series.tally.kept = 4 ∧ series.unreadable = 1 ∧
      (made [late, early]).toOption = some series ∧ made (pieces ++ [late]) = .ok series := by
  intro made row torn early late pieces
  obtain ⟨hMade, hPerm, hCut⟩ :=
    aggregate_rearranged ⟨"0x04", "0x03", .quotePerBase⟩ 2 (.ordering 64) [early, late]
  have hLegible : Legible [early, late] := by simp [Legible, early, late, row, torn]
  have hTimes : ∀ x ∈ entriesIn early.rows, ∀ y ∈ entriesIn late.rows, x.time ≠ y.time := by
    decide
  -- No second has trades in both shards; within a shard seconds may repeat.
  have hApart : AllApart [early, late] := by
    intro a ha b hb hOther
    simp only [List.mem_cons, List.not_mem_nil, or_false] at ha hb
    rcases ha with rfl | rfl <;> rcases hb with rfl | rfl
    · exact absurd rfl hOther
    · exact hTimes
    · exact fun x hx y hy => (hTimes y hy x hx).symm
    · exact absurd rfl hOther
  obtain ⟨series, (hSeries : made [early, late] = .ok series)⟩ :=
    (hMade hLegible).made_of_finite (by decide +kernel) (Machine.findsMedians_ordering 64)
      (isFinite_of_inOrder (by decide +kernel))
  have hCounts : (Pair.tallyOf ⟨"0x04", "0x03", .quotePerBase⟩
      (entriesIn ([early, late].flatMap (·.rows)))).kept = 4 ∧
      ([early, late].flatMap (·.rows)).countP isUnreadable = 1 := by decide +kernel
  obtain ⟨-, deviations, -, hForm⟩ := aggregate_eq_ok.1 hSeries
  refine ⟨series, hSeries, hForm ▸ hCounts.1, hForm ▸ hCounts.2, ?_, ?_⟩
  · exact (hPerm hApart [late, early] (.swap _ _ _)).trans (congrArg Except.toOption hSeries)
  · exact (hCut [] early [late] pieces rfl rfl).trans hSeries

end SwapArchive
