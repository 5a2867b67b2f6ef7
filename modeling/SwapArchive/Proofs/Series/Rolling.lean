import Mathlib.Data.List.DropRight
import SwapArchive.Proofs.Decimal.Arithmetic
import SwapArchive.Series.Dispersion

/-!
# The window that rolls along the prices

A rolling window takes up the prices one after the other and lets go of the oldest one once it is
full. After any number of prices it holds the last of them, as many as fit. So the deviation at a
price is that of the prices up to there, and it is missing as long as there are fewer of them than
fit.

Whether there are deviations at all is up to the machine: it has to reserve the window, and to find
a median of the prices in each full window and of their distances from it.
-/

namespace SwapArchive

variable {prices before : List Float} {size i : Nat}

/-- **The prices in a window** that ends at an index: `size` of them, or all up to there if they are
fewer. -/
def windowAt (prices : List Float) (size i : Nat) : List Float :=
  (prices.take (i + 1)).drop (i + 1 - size)

theorem windowAt_eq (hIndex : i < prices.length) :
    windowAt prices size i = (prices.take (i + 1)).rtake size := by
  rw [windowAt, List.rtake, List.length_take_of_le hIndex]

/-! ## Medians -/

theorem isSome_median? (h : prices ≠ []) : (median? prices).isSome := by
  have hLength : (prices.mergeSort fun a b => decide (a ≤ b)).length = prices.length :=
    List.length_mergeSort _
  have hSome := List.length_pos_iff.2 h
  unfold median?
  dsimp only
  generalize (prices.mergeSort fun a b => decide (a ≤ b)) = ordered at *
  rw [hLength]
  have hHigh : prices.length / 2 < ordered.length := by omega
  have hLow : prices.length / 2 - 1 < ordered.length := by omega
  rw [List.getElem?_eq_getElem hHigh, List.getElem?_eq_getElem hLow]
  split
  · rfl
  · rfl

/-- What a machine finds of some prices is a deviation. -/
theorem Machine.exists_of_medianDeviation? {m : Machine} {entry : Option Float} (h : prices ≠ [])
    (hFound : m.medianDeviation? prices = .ok entry) : ∃ d, entry = some d := by
  rw [medianDeviation?, if_neg (by simpa using h)] at hFound
  -- Two medians are taken, and either may end the program.
  cases hCentre : m.median prices with
  | error crash =>
    rw [hCentre] at hFound
    cases hFound
  | ok centre =>
    rw [hCentre] at hFound
    replace hFound : (do return some (← m.median _) : Except Crash (Option Float)) = .ok entry :=
      hFound
    cases hSpread : m.median (prices.map fun p => (p - centre).abs) with
    | error crash =>
      rw [hSpread] at hFound
      cases hFound
    | ok spread =>
      rw [hSpread] at hFound
      exact ⟨spread, (Except.ok.inj hFound).symm⟩

/-! ## Windows -/

namespace RollingWindow

variable {w : RollingWindow}

theorem isFull_iff (h : w.prices = before.rtake w.size) :
    w.isFull = true ↔ w.size ≤ before.length := by
  rw [isFull, decide_eq_true_eq, h, List.rtake, List.length_drop]
  omega

/-- **A window goes on holding the last prices.** -/
theorem push_prices (hSize : 1 ≤ w.size) (h : w.prices = before.rtake w.size) (p : Float) :
    (w.push p).prices = (before ++ [p]).rtake w.size := by
  obtain ⟨room, hRoom⟩ := Nat.exists_eq_add_of_le' hSize
  have hHeld : (if w.isFull then w.prices.tail else w.prices) = before.rtake room := by
    by_cases hFull : w.isFull = true
    · have hFilled := (isFull_iff h).1 hFull
      rw [if_pos hFull, h, List.rtake, List.rtake, List.tail_drop]
      congr 1
      omega
    · have hFree := mt (isFull_iff h).2 hFull
      rw [if_neg hFull, h, List.rtake, List.rtake]
      congr 1
      omega
  rw [push, hHeld, hRoom, List.rtake_concat_succ]

theorem deviation?_eq (m : Machine) (h : w.prices = before.rtake w.size) :
    w.deviation? m = if before.length < w.size then .ok none
      else m.medianDeviation? (before.rtake w.size) := by
  rw [deviation?]
  by_cases hFull : w.isFull = true
  · rw [if_pos hFull, if_neg (Nat.not_lt.2 ((isFull_iff h).1 hFull)), h]
  · rw [if_neg hFull, if_pos (Nat.not_le.1 (mt (isFull_iff h).2 hFull))]

end RollingWindow

/-- **The deviation at an index**, as a machine finds it: that of the window which ends there, once
there are enough prices to fill it. -/
def Machine.deviationAt (m : Machine) (prices : List Float) (size i : Nat) :
    Except Crash (Option Float) :=
  if i + 1 < size then .ok none else m.medianDeviation? (windowAt prices size i)

variable {m : Machine} {deviations : List (Option Float)}

theorem rollingFrom_cons_eq_ok {w : RollingWindow} {p : Float} {d : Option Float} :
    rollingFrom m w (p :: prices) = .ok (d :: deviations) ↔
      (w.push p).deviation? m = .ok d ∧ rollingFrom m (w.push p) prices = .ok deviations := by
  rw [rollingFrom]
  cases (w.push p).deviation? m with
  | error crash => simp [bind, Except.bind]
  | ok first =>
    cases rollingFrom m (w.push p) prices with
    | error crash => simp [bind, Except.bind]
    | ok later => simp [bind, Except.bind, pure, Except.pure]

theorem length_of_rollingFrom {w : RollingWindow} (h : rollingFrom m w prices = .ok deviations) :
    deviations.length = prices.length := by
  induction prices generalizing w deviations with
  | nil =>
    cases h
    rfl
  | cons p rest ih =>
    cases deviations with
    | nil =>
      rw [rollingFrom] at h
      cases hFirst : (w.push p).deviation? m with
      | error crash => simp [hFirst, bind, Except.bind] at h
      | ok first => cases hRest : rollingFrom m (w.push p) rest <;>
          simp [hFirst, hRest, bind, Except.bind, pure, Except.pure] at h
    | cons d later => exact congrArg (· + 1) (ih (rollingFrom_cons_eq_ok.1 h).2)

/-- The deviations from a window on, which has rolled along other prices before. -/
theorem rollingFrom_eq_ok {w : RollingWindow} (hSize : 1 ≤ w.size)
    (h : w.prices = before.rtake w.size) (hLength : deviations.length = prices.length) :
    rollingFrom m w prices = .ok deviations ↔ ∀ i (hIndex : i < deviations.length),
      m.deviationAt (before ++ prices) w.size (before.length + i) = .ok deviations[i] := by
  -- The induction is on the prices to come, with those that the window has passed generalised.
  induction prices generalizing w before deviations with
  | nil =>
    obtain rfl := List.length_eq_zero_iff.1 hLength
    exact ⟨fun _ => nofun, fun _ => rfl⟩
  | cons p rest ih =>
    obtain ⟨d, later, rfl⟩ := List.exists_cons_of_length_eq_add_one hLength
    have hPushed : (w.push p).prices = (before ++ [p]).rtake (w.push p).size :=
      RollingWindow.push_prices hSize h p
    have hFirst : (w.push p).deviation? m
        = m.deviationAt (before ++ p :: rest) w.size before.length := by
      have hIndex : before.length < (before ++ p :: rest).length := by simp
      rw [RollingWindow.deviation?_eq m hPushed, Machine.deviationAt, windowAt_eq hIndex,
        List.take_append, List.take_of_length_le (Nat.le_succ _), Nat.add_sub_cancel_left,
        List.length_append]
      rfl
    rw [rollingFrom_cons_eq_ok, hFirst, ih (w := w.push p) hSize hPushed (Nat.succ.inj hLength),
      List.append_assoc, List.singleton_append, List.length_append, List.length_singleton]
    constructor
    · rintro ⟨hHead, hTail⟩ i hIndex
      cases i with
      | zero => exact hHead
      | succ i =>
        rw [← Nat.add_assoc, Nat.add_right_comm]
        exact hTail i (Nat.lt_of_succ_lt_succ hIndex)
    · intro hAll
      refine ⟨hAll 0 (Nat.succ_pos _), fun i hIndex => ?_⟩
      rw [Nat.add_right_comm, Nat.add_assoc]
      exact hAll (i + 1) (Nat.succ_lt_succ hIndex)

/-- **The rolling deviations**: there are some exactly if the window can be reserved and one is
found at every index. -/
theorem rollingDeviation_eq_ok : rollingDeviation m prices size = .ok deviations ↔
    m.reserve (max size 1 * priceBytes) = .ok () ∧ deviations.length = prices.length ∧
      ∀ i (hIndex : i < deviations.length),
        m.deviationAt prices (max 1 size) i = .ok deviations[i] := by
  rw [rollingDeviation, RollingWindow.ofSize, Nat.max_comm 1]
  cases m.reserve (max size 1 * priceBytes) with
  | error crash => simp [bind, Except.bind]
  | ok _ =>
    show rollingFrom m ⟨max size 1, []⟩ prices = .ok deviations ↔ _
    have hEmpty : ([] : List Float) = [].rtake (max size 1) := (List.rtake_nil _).symm
    -- The window of the start is empty: it is what the last prices of none would leave.
    have hFrom (hLength : deviations.length = prices.length) :=
      rollingFrom_eq_ok (m := m) (w := ⟨max size 1, []⟩) (Nat.le_max_right size 1) hEmpty hLength
    simp only [List.length_nil, Nat.zero_add, List.nil_append] at hFrom
    constructor
    · intro hMade
      have hLength := length_of_rollingFrom hMade
      exact ⟨rfl, hLength, (hFrom hLength).1 hMade⟩
    · rintro ⟨-, hLength, hAll⟩
      exact (hFrom hLength).2 hAll

/-- A window of `2 ^ 60` prices cannot be reserved on any machine. -/
theorem rollingDeviation_of_capacity (m : Machine) (prices : List Float) (h : 2 ^ 60 ≤ size) :
    rollingDeviation m prices size = .error .capacity := by
  have hBytes : addressLimit ≤ max size 1 * priceBytes := by
    rw [addressLimit, priceBytes]
    omega
  rw [rollingDeviation, RollingWindow.ofSize, Machine.reserve, if_pos hBytes]
  rfl

/-! ## Machines that find medians -/

/-- **Comparable prices**: they are numbers, and zero has one sign among them. -/
def Comparable (prices : List Float) : Prop :=
  (∀ p ∈ prices, p.isNaN = false) ∧ (0.0 ∈ prices → -0.0 ∉ prices)

/-- **A machine that finds medians**, of prices that can be compared. -/
def Machine.FindsMedians (m : Machine) : Prop :=
  ∀ prices, Comparable prices → ∀ centre ∈ median? prices, m.median prices = .ok centre

theorem Machine.findsMedians_ordering (memory : Nat) : (ordering memory).FindsMedians := by
  intro prices hPrices centre hCentre
  have hNumbers : prices.any Float.isNaN = false := by
    rw [List.any_eq_false]
    intro p hp
    rw [hPrices.1 p hp]
    exact Bool.false_ne_true
  simp only [ordering, hNumbers, Bool.false_eq_true, and_false, if_false]
  rw [Option.mem_def.1 hCentre]
  rfl

/-- Prices that can be compared, and their distances from the median too. -/
def HasDeviation (prices : List Float) : Prop :=
  Comparable prices ∧
    ∀ centre ∈ median? prices, Comparable (prices.map fun p => (p - centre).abs)

theorem isNaN_of_mem_median? {centre : Float} (h : ∀ p ∈ prices, p.isFinite = true)
    (hCentre : centre ∈ median? prices) : centre.isNaN = false := by
  have hOrdered {i : Nat} {p : Float}
      (hp : (prices.mergeSort fun a b => decide (a ≤ b))[i]? = some p) : p.isFinite = true :=
    h p (List.mem_mergeSort.1 (List.mem_of_getElem? hp))
  unfold median? at hCentre
  dsimp only at hCentre
  split at hCentre
  · exact Decimal.isNaN_of_isFinite (hOrdered hCentre)
  · split at hCentre
    · next low high hLow hHigh =>
      obtain rfl := Option.some.inj hCentre
      exact Decimal.isNaN_mean (hOrdered hLow) (hOrdered hHigh)
    · cases hCentre

theorem hasDeviation_of_finite (h : ∀ p ∈ prices, p.isFinite = true ∧ p ≠ -0.0) :
    HasDeviation prices := by
  refine ⟨⟨fun p hp => Decimal.isNaN_of_isFinite (h p hp).1, fun _ hZero => (h _ hZero).2 rfl⟩,
    fun centre hCentre => ⟨fun d hd => ?_, fun _ hZero => ?_⟩⟩
  · obtain ⟨p, hp, rfl⟩ := List.mem_map.1 hd
    exact Decimal.isNaN_distance (h p hp).1 (isNaN_of_mem_median? (fun q hq => (h q hq).1) hCentre)
  · obtain ⟨p, -, hp⟩ := List.mem_map.1 hZero
    exact Decimal.abs_ne_negative_zero _ hp

/-- **A machine that suits prices**: it has room for the window, and finds the medians of which the
deviations of all full windows are made. -/
structure Machine.Suits (m : Machine) (prices : List Float) (size : Nat) : Prop where
  room : m.reserve (max size 1 * priceBytes) = .ok ()
  medians : m.FindsMedians
  windows : ∀ i < prices.length, max 1 size ≤ i + 1 →
    HasDeviation (windowAt prices (max 1 size) i)

theorem Machine.FindsMedians.medianDeviation?_eq (hMedians : m.FindsMedians)
    (h : HasDeviation prices) :
    m.medianDeviation? prices = .ok (SwapArchive.medianDeviation? prices) := by
  rw [medianDeviation?]
  by_cases hPrices : prices = []
  · subst hPrices
    simp [SwapArchive.medianDeviation?, median?]
  · obtain ⟨centre, hCentre⟩ := Option.isSome_iff_exists.1 (isSome_median? hPrices)
    have hMapped : (prices.map fun p => (p - centre).abs) ≠ [] := by simpa using hPrices
    obtain ⟨deviation, hDeviation⟩ := Option.isSome_iff_exists.1 (isSome_median? hMapped)
    have hFirst := hMedians prices h.1 centre hCentre
    have hSecond := hMedians _ (h.2 centre hCentre) deviation hDeviation
    rw [if_neg (by simpa using hPrices), SwapArchive.medianDeviation?, hFirst, hCentre]
    show (do return some (← m.median _)) = _
    rw [hSecond]
    exact congrArg Except.ok hDeviation.symm

namespace Machine.Suits

/-- A machine with room for the window suits finite prices. -/
theorem of_finite (hRoom : m.reserve (max size 1 * priceBytes) = .ok ())
    (hMedians : m.FindsMedians) (h : ∀ p ∈ prices, p.isFinite = true ∧ p ≠ -0.0) :
    m.Suits prices size := by
  refine ⟨hRoom, hMedians, fun i _ _ => hasDeviation_of_finite fun p hp => h p ?_⟩
  exact List.mem_of_mem_take (List.mem_of_mem_drop hp)

/-- As long as the window is not full, there are no medians to be found. -/
theorem of_short (hRoom : m.reserve (max size 1 * priceBytes) = .ok ())
    (hMedians : m.FindsMedians) (h : prices.length < max 1 size) : m.Suits prices size :=
  ⟨hRoom, hMedians, fun _ hIndex hFull => absurd (hFull.trans hIndex) (Nat.not_le.2 h)⟩

theorem deviationAt_eq (h : m.Suits prices size) (hIndex : i < prices.length) :
    m.deviationAt prices (max 1 size) i = .ok (if i + 1 < max 1 size then none
      else SwapArchive.medianDeviation? (windowAt prices (max 1 size) i)) := by
  rw [deviationAt]
  split
  · rfl
  · next hFull => exact h.medians.medianDeviation?_eq (h.windows i hIndex (Nat.not_lt.1 hFull))

/-- **On a machine that suits them**, prices have the deviations that are defined. -/
theorem rollingDeviation_eq (h : m.Suits prices size) :
    rollingDeviation m prices size = .ok ((List.range prices.length).map fun i =>
      if i + 1 < max 1 size then none
      else SwapArchive.medianDeviation? (windowAt prices (max 1 size) i)) := by
  refine rollingDeviation_eq_ok.2 ⟨h.room, by simp, fun i hIndex => ?_⟩
  rw [List.length_map, List.length_range] at hIndex
  simp only [List.getElem_map, List.getElem_range]
  exact h.deviationAt_eq hIndex

end Machine.Suits

end SwapArchive
