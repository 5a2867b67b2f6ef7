import Mathlib.Data.Set.List
import SwapArchive.Proofs.Calendar.Order
import SwapArchive.Proofs.Shard.Directory
import SwapArchive.Proofs.Store.Decoding
import SwapArchive.Series.Shards

/-!
# What is read from a directory of days

The listing of a directory names the final files of days in it and no others, in the order of time.
Opened, each final file of a directory of days yields the swaps of its day as they were served.
-/

namespace SwapArchive

namespace Day

variable {d : Day}

theorem nameChars_ne_nil : d.nameChars ≠ [] := by
  simp [nameChars]

/-- What stands before the last point of a name, and behind it. -/
theorem splitEnding_shardEnding {cs : List Char} (h : cs ≠ []) :
    splitEnding (cs ++ shardEnding.toList) = some (cs, ['d', 'b']) := by
  have hReversed : (cs ++ shardEnding.toList).reverse = 'b' :: 'd' :: '.' :: cs.reverse := by
    rw [List.reverse_append]
    rfl
  simp only [splitEnding, hReversed]
  simp [h]

/-- **Final names are in the order of time**, as long as the years have four digits. -/
theorem finalName_lt {e : Day} (hd : d.HasPlainYear) (he : e.HasPlainYear)
    (h : d.number < e.number) : d.finalName < e.finalName := by
  have hLength : d.nameChars.length = e.nameChars.length := by
    rw [hd.length_nameChars, he.length_nameChars]
  rw [String.lt_iff, finalName_eq, finalName_eq, toList_name_append, toList_name_append]
  exact append_lt_append hLength (nameChars_lt hd he h)

/-- The final file of a day is listed. -/
theorem isShardName_finalName : isShardName d.finalName = true := by
  have hMark : temporaryMark.toList.isSuffixOf d.nameChars = false := by
    rw [← Bool.not_eq_true, List.isSuffixOf_iff_suffix]
    intro hSuffix
    have hDate : IsDateChar '_' := isDateChar_of_mem_nameChars (hSuffix.subset (by decide))
    exact absurd hDate (by decide)
  rw [isShardName, finalName_eq, toList_name_append]
  rw [show ".db".toList = shardEnding.toList from rfl, splitEnding_shardEnding nameChars_ne_nil]
  simp only [hMark]
  rfl

/-- The temporary file of a day is not. -/
theorem isShardName_temporaryName : isShardName d.temporaryName = false := by
  have hName : d.temporaryName.toList
      = (d.nameChars ++ temporaryMark.toList) ++ shardEnding.toList := by
    rw [temporaryName, String.toList_append, toList_name_append]
  have hMark : temporaryMark.toList.isSuffixOf (d.nameChars ++ temporaryMark.toList) = true :=
    List.isSuffixOf_iff_suffix.2 (List.suffix_append _ _)
  rw [isShardName, hName, splitEnding_shardEnding (by simp [nameChars_ne_nil])]
  simp only [hMark]
  rfl

end Day

/-- **Names that end as a shard**: the ending comes behind at least one other character. -/
def EndsAsShard (name : String) : Prop := ∃ front, front ≠ "" ∧ name = front ++ shardEnding

theorem endsAsShard_iff {name : String} :
    EndsAsShard name ↔ shardEnding.toList <:+ name.toList ∧ name ≠ shardEnding := by
  constructor
  · rintro ⟨front, hFront, rfl⟩
    refine ⟨⟨front.toList, by rw [String.toList_append]⟩, fun hSame => hFront ?_⟩
    rw [← String.toList_inj, String.toList_append] at hSame
    simpa using hSame
  · rintro ⟨⟨front, hName⟩, hOther⟩
    have hWhole : name = String.ofList front ++ shardEnding := by
      rw [← String.toList_inj, String.toList_append, String.toList_ofList, hName]
    refine ⟨String.ofList front, fun hNothing => hOther ?_, hWhole⟩
    rw [hWhole, hNothing, String.empty_append]

instance (name : String) : Decidable (EndsAsShard name) :=
  decidable_of_iff _ endsAsShard_iff.symm

/-- A name is cut at its last point. -/
theorem splitEnding_eq_some {name stem ending : List Char}
    (h : splitEnding name = some (stem, ending)) : name = stem ++ '.' :: ending ∧ stem ≠ [] := by
  simp only [splitEnding] at h
  split at h
  · cases h
  next hStem =>
  cases h
  rw [List.isEmpty_iff] at hStem
  refine ⟨?_, hStem⟩
  have hSplit := List.takeWhile_append_dropWhile (p := (· != '.')) (l := name.reverse)
  rw [← List.reverse_inj, List.reverse_append, List.reverse_cons, List.reverse_reverse,
    List.reverse_reverse, List.append_assoc, List.singleton_append]
  generalize name.reverse.takeWhile (· != '.') = ending at *
  cases hRest : name.reverse.dropWhile (· != '.') with
  | nil =>
    -- Without a point nothing would be left in front of the ending.
    rw [hRest, List.append_nil] at hSplit
    rw [← hSplit, List.drop_eq_nil_of_le (Nat.le_succ _)] at hStem
    exact absurd rfl hStem
  | cons c rest =>
    have hPoint : c = '.' := by
      have hHead := List.head?_dropWhile_not (· != '.') name.reverse
      rw [hRest] at hHead
      simpa using hHead
    rw [hRest, hPoint] at hSplit
    rw [← hSplit, List.drop_append, List.drop_eq_nil_of_le (Nat.le_succ _), Nat.add_sub_cancel_left]
    rfl

/-- **No other file is listed.** -/
theorem isShardName_of_other {name : String} (h : ¬ EndsAsShard name) :
    isShardName name = false := by
  rw [isShardName]
  split
  · rfl
  next stem ending hSplit =>
  obtain ⟨hName, hStem⟩ := splitEnding_eq_some hSplit
  rw [Bool.and_eq_false_iff, beq_eq_false_iff_ne]
  refine .inl fun hEnding => h ⟨String.ofList stem, by simpa using hStem, ?_⟩
  rw [← String.toList_inj, String.toList_append, String.toList_ofList, hName, hEnding]

section Tables

variable {swaps : List Swap}

/-- **Stored swaps are read back**, each once and in their order. -/
theorem Table.scan_ofSwaps {batchSize : Nat} (hSize : 1 ≤ batchSize)
    (hTimes : ∀ x ∈ swaps, Text.IntegerRange.signed64.contains x.timestamp = true) :
    (ofSwaps swaps).scan batchSize = swaps.map fun x => .ok x.entry := by
  have hNumbered : (ofSwaps swaps).IsNumbered := isNumbered_putAll isNumbered_empty _
  have hEntries : ∀ e ∈ swaps.map Swap.entry,
      Text.IntegerRange.signed64.contains e.swap.timestamp = true := by
    intro e he
    obtain ⟨x, hx, rfl⟩ := List.mem_map.1 he
    exact hTimes x hx
  rw [scan_of_holds hNumbered hSize holds_ofSwaps hEntries, List.map_map]
  rfl

end Tables

/-- The times of a dated day have 64 bits. -/
theorem Day.IsDated.contains_timestamp {d : Day} (h : d.IsDated) {history : List Swap} {x : Swap}
    (hx : x ∈ d.swapsOf history) : Text.IntegerRange.signed64.contains x.timestamp = true := by
  have hDay := of_decide_eq_true (List.mem_filter.1 hx).2
  simp only [IsDated, firstTime, lastTime] at h
  rw [Text.IntegerRange.contains, Bool.and_eq_true, decide_eq_true_eq, decide_eq_true_eq]
  show -9223372036854775808 ≤ x.timestamp ∧ x.timestamp ≤ 9223372036854775807
  omega

namespace Tree

variable {t : Tree} {place : NodePath} {name : String}

theorem nameOrder_iff {first second : String} :
    nameOrder first second = true ↔ first ≤ second := decide_eq_true_iff

/-- **A directory of shards**: the files in it are final and temporary files of days and files that
end otherwise. Each name stands for one thing, and what is on the way to the working directory is no
file. -/
structure HoldsShards (t : Tree) (place : NodePath) : Prop where
  single : ∀ name, t.IsSingle (place ++ [name])
  outside : ∀ name ∈ t.fileNames place, (place ++ [name]).isPrefixOf t.home = false
  named : ∀ name ∈ t.fileNames place,
    (∃ d : Day, name = d.finalName ∨ name = d.temporaryName) ∨ ¬ EndsAsShard name

namespace HoldsShards

theorem mem_fileNames (h : t.HoldsShards place) :
    name ∈ t.fileNames place ↔ ∃ content, t.node? (place ++ [name]) = some (.file content) := by
  constructor
  · intro hName
    exact (Tree.mem_fileNames (h.single name) (h.outside name hName)).1 hName
  · rintro ⟨content, hNode⟩
    exact (Tree.mem_fileNames (h.single name) (Tree.outside_home (by simp [hNode]))).2
      ⟨content, hNode⟩

/-- **The listed names** are those of the final files. -/
theorem mem_shardNames (h : t.HoldsShards place) :
    name ∈ (t.fileNames place).filter isShardName ↔ ∃ d : Day, d.finalName = name ∧
      ∃ content, t.node? (d.finalPlace place) = some (.file content) := by
  rw [List.mem_filter]
  constructor
  · rintro ⟨hName, hListed⟩
    rcases h.named name hName with ⟨d, rfl | rfl⟩ | hOther
    · exact ⟨d, rfl, h.mem_fileNames.1 hName⟩
    · rw [Day.isShardName_temporaryName] at hListed
      cases hListed
    · rw [isShardName_of_other hOther] at hListed
      cases hListed
  · rintro ⟨d, rfl, hThere⟩
    exact ⟨h.mem_fileNames.2 hThere, Day.isShardName_finalName⟩

/-- **The listing of a directory** names the final file of each day once. Those of years of four
digits are in the order of time. -/
theorem listShards {path : String} (h : t.HoldsShards place)
    (hLeads : t.find path = .ok (.present place .directory)) : ∃ days : List Day,
    t.listShards path = .ok (days.map Day.finalName) ∧ days.Nodup ∧
      (∀ d, d ∈ days ↔ ∃ content, t.node? (d.finalPlace place) = some (.file content)) ∧
      days.Pairwise fun d e => d.HasPlainYear → e.HasPlainYear → d.number < e.number := by
  have hPerm := List.mergeSort_perm ((t.fileNames place).filter isShardName) nameOrder
  obtain ⟨days, hDays⟩ : ((t.fileNames place).filter isShardName).mergeSort nameOrder
      ∈ Set.range (List.map Day.finalName) := by
    rw [Set.range_list_map]
    intro name hName
    obtain ⟨d, hSame, -⟩ := h.mem_shardNames.1 (hPerm.mem_iff.1 hName)
    exact ⟨d, hSame⟩
  have hNodup : (days.map Day.finalName).Nodup := by
    rw [hDays, hPerm.nodup_iff]
    exact (nodup_fileNames h.single).filter _
  have hSorted : (days.map Day.finalName).Pairwise fun a b => nameOrder a b = true := by
    rw [hDays]
    refine List.pairwise_mergeSort (fun a b c hab hbc => ?_) (fun a b => ?_) _
    · exact nameOrder_iff.2 (String.le_trans (nameOrder_iff.1 hab) (nameOrder_iff.1 hbc))
    · rw [Bool.or_eq_true, nameOrder_iff, nameOrder_iff]
      exact String.le_total a b
  refine ⟨days, ?_, List.Nodup.of_map _ hNodup, fun d => ?_, ?_⟩
  · rw [Tree.listShards, hLeads, hDays]
  · have hMem : d.finalName ∈ days.map Day.finalName ↔
        ∃ content, t.node? (d.finalPlace place) = some (.file content) := by
      rw [hDays, hPerm.mem_iff, h.mem_shardNames]
      constructor
      · rintro ⟨d', hSame, hThere⟩
        exact Day.finalName_injective hSame ▸ hThere
      · exact fun hThere => ⟨d, rfl, hThere⟩
    rw [← hMem]
    constructor
    · exact fun hd => List.mem_map_of_mem hd
    · intro hd
      obtain ⟨d', hd', hSame⟩ := List.mem_map.1 hd
      exact Day.finalName_injective hSame ▸ hd'
  · refine (List.pairwise_map.1 (hSorted.and hNodup)).imp ?_
    rintro d e ⟨hOrder, hOther⟩ hd he
    -- A later day would have the greater name.
    obtain hLess | hSame | hLater := Int.lt_trichotomy d.number e.number
    · exact hLess
    · exact absurd (congrArg Day.finalName (Day.eq_iff.2 hSame)) hOther
    · exact absurd (Day.finalName_lt he hd hLater) (String.not_lt.2 (nameOrder_iff.1 hOrder))

end HoldsShards
end Tree

namespace DayFiles

variable {history : List Swap} {directory : String} {place : NodePath} {t : Tree} {d : Day}

/-- Nothing below a directory of days is on the way to the working directory. -/
theorem outside_home (h : DayFiles history directory place t) (name : String) :
    (place ++ [name]).isPrefixOf t.home = false := by
  apply Tree.outside_home
  intro hNode
  obtain ⟨e, -, hSame | hSame⟩ := h.only (List.prefix_append _ _) (by simp) hNode
  · rw [hSame] at hNode
    exact h.final_ne_directory hNode
  · rw [hSame] at hNode
    exact h.temporary_ne_directory hNode

/-- A directory of days is one of shards. -/
theorem holdsShards (h : DayFiles history directory place t) : t.HoldsShards place := by
  refine ⟨h.single, fun name _ => h.outside_home name, fun name hName => ?_⟩
  obtain ⟨content, hNode⟩ := (Tree.mem_fileNames (h.single name) (h.outside_home name)).1 hName
  obtain ⟨e, -, hSame | hSame⟩ := h.only (List.prefix_append _ _) (by simp) hNode
  · exact .inl ⟨e, .inl (List.singleton_inj.1 (List.append_cancel_left hSame))⟩
  · exact .inl ⟨e, .inr (List.singleton_inj.1 (List.append_cancel_left hSame))⟩

/-- **The listing of a directory of days** names the final file of each day once. -/
theorem listShards (h : DayFiles history directory place t) : ∃ days : List Day,
    t.listShards directory = .ok (days.map Day.finalName) ∧ days.Nodup ∧
      ∀ e, e ∈ days ↔ t.node? (e.finalPlace place) ≠ none := by
  obtain ⟨days, hListed, hNodup, hDays, -⟩ := h.holdsShards.listShards h.leads
  refine ⟨days, hListed, hNodup, fun e => (hDays e).trans ⟨?_, fun hThere => ?_⟩⟩
  · rintro ⟨content, hNode⟩
    rw [hNode]
    nofun
  · obtain ⟨node, hNode⟩ := Option.ne_none_iff_exists'.1 hThere
    obtain ⟨rfl, -⟩ := h.final hNode
    exact ⟨_, hNode⟩

/-- The final file of a day can be opened to be read, and yields the swaps of the day. -/
theorem openReadOnly (h : DayFiles history directory place t)
    (hAddress : directory.startsWith Address.scheme = false)
    (hThere : t.node? (d.finalPlace place) ≠ none) : ∃ shard,
    (t.openReadOnly (joinPath directory d.finalName)).1 = .ok shard ∧
      shard.rows.rows = (d.swapsOf history).map fun x => .ok x.entry := by
  obtain ⟨node, hNode⟩ := Option.ne_none_iff_exists'.1 hThere
  obtain ⟨rfl, -, -, hSettle⟩ := h.final hNode
  have hDated := h.isDated_of_final hNode
  have hOpens := Tree.connect_joinPath (show OpenMode.read ≠ .memory by decide) h.leads hAddress
    (Day.isFileName_finalName hDated) hNode (h.isAlone _) hSettle
  refine ⟨_, congrArg Prod.fst hOpens, ?_⟩
  exact Table.scan_ofSwaps (by decide) fun x hx => hDated.contains_timestamp hx

/-- The final files of several days are opened one after the other. -/
theorem openFinals (h : DayFiles history directory place t)
    (hAddress : directory.startsWith Address.scheme = false) {days : List Day}
    (hThere : ∀ e ∈ days, t.node? (e.finalPlace place) ≠ none) :
    ∃ shards, ((days.map Day.finalName).mapM fun name =>
        (t.openReadOnly (joinPath directory name)).1) = .ok shards ∧
      shards.map (·.rows.rows)
        = days.map fun e => (e.swapsOf history).map fun x => .ok x.entry := by
  induction days with
  | nil => exact ⟨[], rfl, rfl⟩
  | cons e days ih =>
    rw [List.forall_mem_cons] at hThere
    obtain ⟨shard, hShard, hRows⟩ := h.openReadOnly hAddress hThere.1
    obtain ⟨shards, hShards, hAll⟩ := ih hThere.2
    refine ⟨shard :: shards, ?_, ?_⟩
    · rw [List.map_cons, List.mapM_cons, hShard, hShards]
      rfl
    · rw [List.map_cons, List.map_cons, hRows, hAll]

/-- **The shards of a directory of days**, opened to be read: one for each final file, with the
swaps of its day. -/
theorem openShards (h : DayFiles history directory place t)
    (hAddress : directory.startsWith Address.scheme = false) :
    ∃ (days : List Day) (shards : List Shard),
      (t.openShards directory).1 = .ok shards ∧ days.Nodup ∧
      (∀ e, e ∈ days ↔ t.node? (e.finalPlace place) ≠ none) ∧
      shards.map (·.rows.rows)
        = days.map fun e => (e.swapsOf history).map fun x => .ok x.entry := by
  obtain ⟨days, hListed, hNodup, hDays⟩ := h.listShards
  obtain ⟨shards, hShards, hRows⟩ := h.openFinals hAddress fun e he => (hDays e).1 he
  refine ⟨days, shards, ?_, hNodup, hDays, hRows⟩
  rw [Tree.openShards, hListed]
  exact hShards

end DayFiles
end SwapArchive
