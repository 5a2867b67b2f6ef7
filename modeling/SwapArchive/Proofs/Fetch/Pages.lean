import SwapArchive.Proofs.Fetch.Course
import SwapArchive.Source.Basic

/-!
# Pages of a history

A source that serves a history answers every question with the newest swaps up to the time asked
for. A page is cut where it is full, which may be in the middle of a second, and nothing is said
about the order of the swaps of one second.
-/

namespace SwapArchive

/-- The entry that a valid swap is archived as. -/
def Swap.entry (s : Swap) : Entry := ⟨s.id, s, s.timestamp⟩

/-- A swap of one token for two thousand of another one. -/
def Swap.sample (id : String) (time : Int) : Swap where
  id := id
  transaction := ⟨"0x01", none⟩
  pool := ⟨"0x02", ⟨"0x03", "USDC"⟩, ⟨"0x04", "WETH"⟩⟩
  sender := none
  recipient := none
  amount0 := "-2000"
  amount1 := "1"
  timestamp := time

theorem Swap.validate_sample {id : String} {time : Int} (hId : id.isEmpty = false)
    (hTime : 0 ≤ time) : (Swap.sample id time).validate = .ok () := by
  have hFlow0 : (readAmount "amount0" "-2000").isOk = true := by decide +kernel
  have hFlow1 : (readAmount "amount1" "1").isOk = true := by decide +kernel
  have hEmpty : ("0x03".isEmpty || "0x04".isEmpty) = false := by decide
  simp only [validate, flow0, flow1, sample, hId, hEmpty, Int.not_lt.2 hTime, if_false,
    Bool.false_eq_true]
  split
  · next hFailed =>
    rw [hFailed] at hFlow0
    cases hFlow0
  · next hFailed =>
    rw [hFailed] at hFlow1
    cases hFlow1
  · rfl

/-- **Newest page**: the first swaps of those up to a time, when these are put in some order from
the newest to the oldest. -/
def IsNewestPage (history : List Swap) (pageSize : Nat) (asOf : Int) (page : List Swap) : Prop :=
  ∃ order : List Swap, order.Perm (history.filter (·.timestamp ≤ asOf)) ∧
    order.Pairwise (fun a b => b.timestamp ≤ a.timestamp) ∧ page = order.take pageSize

/-- A source whose answers are the newest pages of a history, whenever it does not fail. -/
def Source.Serves {σ : Type} (source : Source σ) (history : List Swap) : Prop :=
  ∀ asOf state page, (source.fetch asOf state).reply = .ok page →
    IsNewestPage history source.pageSize asOf page

/-- A source that answers with the pages of a history, whenever it does not fail. The swaps of one
second then always come in the same order. -/
def Source.ServesInOrder {σ : Type} (source : Source σ) (history : List Swap) : Prop :=
  ∀ asOf state page, (source.fetch asOf state).reply = .ok page →
    page = pageOf history source.pageSize asOf

/-- A history from its newest swap to its oldest. -/
def NewestFirst (history : List Swap) : Prop :=
  history.Pairwise fun a b => b.timestamp ≤ a.timestamp

/-- The page of a history is a newest page of it. -/
theorem NewestFirst.isNewestPage {history : List Swap} (h : NewestFirst history) (pageSize : Nat)
    (asOf : Int) : IsNewestPage history pageSize asOf (pageOf history pageSize asOf) :=
  ⟨_, .refl _, h.sublist List.filter_sublist, rfl⟩

theorem Source.ServesInOrder.serves {σ : Type} {source : Source σ} {history : List Swap}
    (h : source.ServesInOrder history) (hOrder : NewestFirst history) : source.Serves history := by
  intro asOf state page hReply
  obtain rfl := h asOf state page hReply
  exact hOrder.isNewestPage _ _

theorem Source.servesInOrder_ofHistory (history : List Swap) (pageSize : Nat) :
    (Source.ofHistory history pageSize).ServesInOrder history :=
  fun _ _ _ hReply => (Except.ok.inj hReply).symm

/-- Failures in between leave the other answers as they are. -/
theorem Source.ServesInOrder.failing {σ : Type} {source : Source σ} {history : List Swap}
    (h : source.ServesInOrder history) (fault : Nat → Option Failure) :
    (source.failing fault).ServesInOrder history := by
  intro asOf state page hReply
  dsimp only [Source.failing] at hReply
  cases hFault : fault state.1 with
  | some f =>
    rw [hFault] at hReply
    cases hReply
  | none =>
    rw [hFault] at hReply
    exact h asOf state.2 page hReply

namespace IsNewestPage

variable {history page : List Swap} {pageSize : Nat} {asOf : Int} {x y : Swap}

theorem mem (h : IsNewestPage history pageSize asOf page) (hx : x ∈ page) :
    x ∈ history ∧ x.timestamp ≤ asOf := by
  obtain ⟨order, hPerm, -, rfl⟩ := h
  simpa using hPerm.mem_iff.1 (List.mem_of_mem_take hx)

/-- What a page leaves out is not newer than anything on it. -/
theorem le_of_not_mem (h : IsNewestPage history pageSize asOf page) (hy : y ∈ page)
    (hx : x ∈ history) (hUpTo : x.timestamp ≤ asOf) (hLeft : x ∉ page) :
    x.timestamp ≤ y.timestamp := by
  obtain ⟨order, hPerm, hSorted, rfl⟩ := h
  have hMem : x ∈ order.take pageSize ++ order.drop pageSize := by
    rw [List.take_append_drop]
    exact hPerm.mem_iff.2 (by simp [hx, hUpTo])
  have hDrop : x ∈ order.drop pageSize := (List.mem_append.1 hMem).resolve_left hLeft
  rw [← List.take_append_drop pageSize order, List.pairwise_append] at hSorted
  exact hSorted.2.2 y hy x hDrop

/-- **A page holds all that is newer than its oldest swap.** -/
theorem mem_of_oldest_lt (h : IsNewestPage history pageSize asOf page) (hy : y ∈ page)
    (hx : x ∈ history) (hUpTo : x.timestamp ≤ asOf) (hNewer : y.timestamp < x.timestamp) :
    x ∈ page := by
  by_contra hLeft
  have := h.le_of_not_mem hy hx hUpTo hLeft
  omega

/-- An empty page answers only where there is nothing left. -/
theorem lt_of_nil (h : IsNewestPage history pageSize asOf []) (hSize : 1 ≤ pageSize)
    (hx : x ∈ history) : asOf < x.timestamp := by
  obtain ⟨order, hPerm, -, hTake⟩ := h
  by_contra hUpTo
  have hMem : x ∈ order := hPerm.mem_iff.2 (by simp [hx]; omega)
  have hNone : pageSize = 0 ∨ order = [] := List.take_eq_nil_iff.1 hTake.symm
  rcases hNone with hZero | hNil
  · omega
  · rw [hNil] at hMem
    exact List.not_mem_nil hMem

/-- **A page that does not go below the time asked for** holds all swaps of that second, if there
are not too many for one page. -/
theorem mem_of_second (h : IsNewestPage history pageSize asOf page)
    (hSecond : (history.filter (·.timestamp = asOf)).length ≤ pageSize)
    (hPage : ∀ y ∈ page, y.timestamp = asOf) (hx : x ∈ history) (hTime : x.timestamp = asOf) :
    x ∈ page := by
  obtain ⟨order, hPerm, -, rfl⟩ := h
  have hMem : x ∈ order := hPerm.mem_iff.2 (by simp [hx, hTime])
  by_cases hLong : order.length ≤ pageSize
  · rwa [List.take_of_length_le hLong]
  -- The page is full of swaps of this second, so that none of them is left for the rest.
  let inSecond (s : Swap) : Bool := s.timestamp = asOf
  have hSame : history.filter (·.timestamp = asOf)
      = (history.filter (·.timestamp ≤ asOf)).filter inSecond := by
    rw [List.filter_filter]
    refine List.filter_congr fun s _ => ?_
    by_cases hTime : s.timestamp = asOf <;> simp [inSecond, hTime]
  have hCount : (order.filter inSecond).length ≤ pageSize := by
    rwa [(hPerm.filter inSecond).length_eq, ← hSame]
  have hFull : (order.take pageSize).filter inSecond = order.take pageSize :=
    List.filter_eq_self.2 fun y hy => decide_eq_true (hPage y hy)
  have hSplit : order.filter inSecond
      = order.take pageSize ++ (order.drop pageSize).filter inSecond := by
    conv_lhs => rw [← List.take_append_drop pageSize order, List.filter_append, hFull]
  have hRest : (order.drop pageSize).filter inSecond = [] := by
    rw [hSplit, List.length_append, List.length_take] at hCount
    exact List.length_eq_zero_iff.1 (by omega)
  have hHere : x ∈ order.filter inSecond := by simp [inSecond, hMem, hTime]
  rwa [hSplit, hRest, List.append_nil] at hHere

end IsNewestPage

namespace Fetch

variable {s : Swap} {page : List Swap} {first e : Entry} {rest entries : List Entry}

theorem ofSwap_of_valid (h : s.validate = .ok ()) : Entry.ofSwap s = .ok s.entry := by
  simp only [Entry.ofSwap, h]
  rfl

/-- A page of valid swaps is a page of entries. -/
theorem entriesOf_of_valid (h : ∀ s ∈ page, s.validate = .ok ()) :
    entriesOf page = .ok (page.map Swap.entry) := by
  induction page with
  | nil => rfl
  | cons s rest ih =>
    rw [List.forall_mem_cons] at h
    simp only [entriesOf, ofSwap_of_valid h.1, ih h.2]
    rfl

/-- A page that yields entries holds valid swaps only, and yields the entry of each. -/
theorem entriesOf_eq_ok (h : entriesOf page = .ok entries) :
    (∀ s ∈ page, s.validate = .ok ()) ∧ entries = page.map Swap.entry := by
  have hValid : ∀ s ∈ page, s.validate = .ok () := by
    induction page generalizing entries with
    | nil => exact fun _ hs => nomatch hs
    | cons s rest ih =>
      simp only [entriesOf, Entry.ofSwap] at h
      cases hSwap : s.validate with
      | error f =>
        rw [hSwap] at h
        cases h
      | ok _ =>
        rw [hSwap] at h
        cases hRest : entriesOf rest with
        | error f =>
          rw [hRest] at h
          cases h
        | ok entries => exact List.forall_mem_cons.2 ⟨hSwap, ih hRest⟩
  rw [entriesOf_of_valid hValid] at h
  exact ⟨hValid, (Except.ok.inj h).symm⟩

private theorem foldl_min_le (entries : List Entry) (time : Int) :
    entries.foldl (fun t e => min t e.time) time ≤ time ∧
      ∀ e ∈ entries, entries.foldl (fun t e => min t e.time) time ≤ e.time := by
  induction entries generalizing time with
  | nil => simp
  | cons e rest ih =>
    obtain ⟨hStart, hRest⟩ := ih (min time e.time)
    simp only [List.foldl_cons, List.forall_mem_cons]
    exact ⟨by omega, by omega, hRest⟩

private theorem foldl_min_mem (entries : List Entry) (time : Int) :
    entries.foldl (fun t e => min t e.time) time = time ∨
      ∃ e ∈ entries, e.time = entries.foldl (fun t e => min t e.time) time := by
  induction entries generalizing time with
  | nil => simp
  | cons e rest ih =>
    simp only [List.foldl_cons, List.mem_cons, exists_eq_or_imp]
    rcases ih (min time e.time) with hSame | hLater
    · omega
    · exact .inr (.inr hLater)

theorem oldestTime_le (h : e ∈ first :: rest) : oldestTime first rest ≤ e.time := by
  obtain ⟨hFirst, hRest⟩ := foldl_min_le rest first.time
  rcases List.mem_cons.1 h with rfl | hMem
  · exact hFirst
  · exact hRest e hMem

theorem oldestTime_mem (first : Entry) (rest : List Entry) :
    ∃ e ∈ first :: rest, e.time = oldestTime first rest := by
  rcases foldl_min_mem rest first.time with hFirst | ⟨e, hMem, hTime⟩
  · exact ⟨first, List.mem_cons_self, hFirst.symm⟩
  · exact ⟨e, List.mem_cons_of_mem _ hMem, hTime⟩

theorem oldestTime_le_timestamp (hPage : page.map Swap.entry = first :: rest) (hs : s ∈ page) :
    oldestTime first rest ≤ s.timestamp := by
  have hMem : s.entry ∈ first :: rest := hPage ▸ List.mem_map_of_mem hs
  exact oldestTime_le hMem

theorem exists_oldest (hPage : page.map Swap.entry = first :: rest) :
    ∃ s ∈ page, s.timestamp = oldestTime first rest := by
  obtain ⟨e, he, hTime⟩ := oldestTime_mem first rest
  rw [← hPage, List.mem_map] at he
  obtain ⟨s, hs, rfl⟩ := he
  exact ⟨s, hs, hTime⟩

theorem mem_kept {clip : Bool} {lowerBound : Int} :
    e ∈ kept clip lowerBound entries ↔ e ∈ entries ∧ (clip = true → lowerBound < e.time) := by
  cases clip <;> simp [kept]

end Fetch
end SwapArchive
