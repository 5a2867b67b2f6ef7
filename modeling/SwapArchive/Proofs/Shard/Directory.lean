import SwapArchive.Proofs.Fetch.Span
import SwapArchive.Proofs.Shard.Names
import SwapArchive.Shard.Sync

/-!
# A directory of days

A directory that days are synced in holds nothing but files of days: a final file with all swaps of
its day, or a temporary one with a front part of them, from the newest swap down. Syncing a day
keeps it so, whatever fails, and touches the files of that day only.
-/

namespace SwapArchive

/-- The swaps of a history that fall on a day. -/
def Day.swapsOf (history : List Swap) (d : Day) : List Swap :=
  history.filter fun x => d.start ≤ x.timestamp ∧ x.timestamp ≤ d.finish

/-- The swaps of a day are those between the last second of the day before and its own. -/
theorem Day.swapsOf_eq (history : List Swap) (d : Day) :
    d.swapsOf history = spanOf history (d.start - 1) d.finish := by
  refine List.filter_congr fun x _ => ?_
  rw [decide_eq_decide]
  omega

/-- The place of the final file of a day. -/
def Day.finalPlace (d : Day) (place : NodePath) : NodePath := place ++ [d.finalName]

/-- The place of the temporary file of a day. -/
def Day.temporaryPlace (d : Day) (place : NodePath) : NodePath := place ++ [d.temporaryName]

namespace Day

variable {d e : Day} {place : NodePath}

theorem finalPlace_inj : d.finalPlace place = e.finalPlace place ↔ d = e := by
  refine ⟨fun h => finalName_injective ?_, fun h => by rw [h]⟩
  exact List.singleton_inj.1 (List.append_cancel_left h)

theorem temporaryPlace_inj : d.temporaryPlace place = e.temporaryPlace place ↔ d = e := by
  refine ⟨fun h => temporaryName_injective ?_, fun h => by rw [h]⟩
  exact List.singleton_inj.1 (List.append_cancel_left h)

theorem finalPlace_ne_temporaryPlace (d e : Day) : d.finalPlace place ≠ e.temporaryPlace place :=
  fun h => finalName_ne_temporaryName d e (List.singleton_inj.1 (List.append_cancel_left h))

end Day

/-- **A directory of days**: its path leads there, and nothing stands below it but files of dated
days. A final file holds the swaps of its day and can be found and opened, and there is no temporary
file with it. A temporary file holds a front part of the swaps of its day. -/
structure DayFiles (history : List Swap) (directory : String) (place : NodePath) (t : Tree) :
    Prop where
  leads : t.find directory = .ok (.present place .directory)
  only : ∀ {p node}, place <+: p → p ≠ place → t.node? p = some node →
    ∃ d : Day, d.IsDated ∧ (p = d.finalPlace place ∨ p = d.temporaryPlace place)
  final : ∀ {d : Day} {node}, t.node? (d.finalPlace place) = some node →
    node = .file (.table (.ofSwaps (d.swapsOf history))) ∧
      t.node? (d.temporaryPlace place) = none ∧
      (d.finalPath directory).utf8ByteSize ≤ longestPath ∧
      t.settle? (d.finalPath directory) = some (d.finalPlace place)
  temporary : ∀ {d : Day} {node}, t.node? (d.temporaryPlace place) = some node →
    ∃ stored, stored <+: d.swapsOf history ∧ node = .file (.table (.ofSwaps stored))
  single : ∀ name, t.IsSingle (place ++ [name])

namespace DayFiles

variable {history stored : List Swap} {directory : String} {place : NodePath} {t t' : Tree}
  {d e : Day}

/-- A directory with nothing below it is a directory of days. -/
theorem ofEmpty (hLeads : t.find directory = .ok (.present place .directory))
    (hEmpty : ∀ p, place <+: p → p ≠ place → t.node? p = none) :
    DayFiles history directory place t := by
  have hFree (name : String) : t.node? (place ++ [name]) = none :=
    hEmpty _ (List.prefix_append _ _) (by simp)
  refine ⟨hLeads, fun hBelow hOther hNode => ?_, fun hNode => ?_, fun hNode => ?_,
    fun name => Tree.isSingle_of_free (hFree name)⟩
  · rw [hEmpty _ hBelow hOther] at hNode
    cases hNode
  · rw [Day.finalPlace, hFree] at hNode
    cases hNode
  · rw [Day.temporaryPlace, hFree] at hNode
    cases hNode

/-- A node below the directory belongs to a dated day. -/
theorem isDated_of_final {node : Node} (h : DayFiles history directory place t)
    (hNode : t.node? (d.finalPlace place) = some node) : d.IsDated := by
  obtain ⟨e, hDated, hSame | hSame⟩ := h.only (p := place ++ [d.finalName])
    (List.prefix_append _ _) (by simp) hNode
  · exact Day.finalPlace_inj.1 hSame ▸ hDated
  · exact absurd hSame (Day.finalPlace_ne_temporaryPlace d e)

theorem final_ne_directory (h : DayFiles history directory place t) :
    t.node? (d.finalPlace place) ≠ some .directory := fun hNode => nomatch (h.final hNode).1

theorem temporary_ne_directory (h : DayFiles history directory place t) :
    t.node? (d.temporaryPlace place) ≠ some .directory := by
  intro hNode
  obtain ⟨stored, -, hFile⟩ := h.temporary hNode
  cases hFile

/-- Nothing stands beside the file of a day that would belong to it. -/
theorem isAlone (h : DayFiles history directory place t) (name : String) :
    t.IsAlone (place ++ [name]) := by
  intro c
  refine Option.eq_none_iff_forall_ne_some.2 fun node hNode => ?_
  have hBeside : c.beside (place ++ [name]) = place ++ [name ++ c.ending] := by
    simp [Companion.beside]
  obtain ⟨e, -, hSame | hSame⟩ := h.only (by rw [hBeside]; exact List.prefix_append _ _)
    (by rw [hBeside]; simp) hNode
  · exact Day.beside_ne_finalName c _ _ hSame
  · exact Day.beside_ne_temporaryName c _ _ hSame

/-- Nothing stands below the file of a day. -/
theorem free_below (h : DayFiles history directory place t) {name : String} :
    ∀ p, place ++ [name] <+: p → p ≠ place ++ [name] → t.node? p = none := by
  intro p hBelow hOther
  refine Option.eq_none_iff_forall_ne_some.2 fun node hNode => ?_
  obtain ⟨rest, rfl⟩ := hBelow
  obtain ⟨e, -, hSame | hSame⟩ := h.only (p := place ++ [name] ++ rest)
    ⟨[name] ++ rest, by simp⟩ (by simp) hNode
  all_goals
    simp only [Day.finalPlace, Day.temporaryPlace, List.append_assoc] at hSame
    have hLength := congrArg List.length (List.append_cancel_left hSame)
    simp only [List.length_append, List.length_singleton, Nat.add_eq_left,
      List.length_eq_zero_iff] at hLength
    exact hOther (by rw [hLength, List.append_nil])

/-- What the place of a temporary file stands for: a front part of the swaps of the day. -/
theorem holdsTable (h : DayFiles history directory place t) (d : Day) : ∃ stored,
    stored <+: d.swapsOf history ∧ t.HoldsTable (d.temporaryPlace place) (.ofSwaps stored) := by
  cases hNode : t.node? (d.temporaryPlace place) with
  | none => exact ⟨[], List.nil_prefix, .inr ⟨hNode, rfl⟩⟩
  | some node =>
    obtain ⟨stored, hFront, rfl⟩ := h.temporary hNode
    exact ⟨stored, hFront, .inl hNode⟩

/-- A final file stays what it was if the directories do, and no temporary file joins it. -/
theorem final_kept {node : Node} (h : DayFiles history directory place t)
    (hKeeps : t.KeepsDirectories t') (hNode : t.node? (e.finalPlace place) = some node)
    (hFree : t.node? (e.temporaryPlace place) = none → t'.node? (e.temporaryPlace place) = none) :
    node = .file (.table (.ofSwaps (e.swapsOf history))) ∧
      t'.node? (e.temporaryPlace place) = none ∧
      (e.finalPath directory).utf8ByteSize ≤ longestPath ∧
      t'.settle? (e.finalPath directory) = some (e.finalPlace place) := by
  obtain ⟨hFile, hNone, hSize, hSettle⟩ := h.final hNode
  have hName := Day.isFileName_finalName (h.isDated_of_final hNode)
  refine ⟨hFile, hFree hNone, hSize, ?_⟩
  exact Tree.settle?_keeps hKeeps h.leads hName hName (Nat.le_refl _)
    (Option.isSome_iff_exists.2 ⟨_, hSettle⟩)

/-- **The directory after a temporary file has been written** with a front part of its day. -/
theorem withTemporary (h : DayFiles history directory place t) (hDated : d.IsDated)
    (hFree : t.node? (d.finalPlace place) = none) (hFront : stored <+: d.swapsOf history)
    (hWith : t.IsWithFile t' (d.temporaryPlace place) (.table (.ofSwaps stored))) :
    DayFiles history directory place t' := by
  have hKeeps : t.KeepsDirectories t' := hWith.keepsDirectories h.temporary_ne_directory
  refine ⟨hKeeps.find h.leads, ?_, ?_, ?_, fun name => hWith.single (h.single name)⟩
  · intro p node hBelow hOther hNode
    rw [hWith.node?] at hNode
    split at hNode
    · next hSame => exact ⟨d, hDated, .inr hSame⟩
    · exact h.only hBelow hOther hNode
  · intro e node hNode
    rw [hWith.node?, if_neg (Day.finalPlace_ne_temporaryPlace e d)] at hNode
    refine h.final_kept hKeeps hNode fun hNone => ?_
    rw [hWith.node?, if_neg]
    · exact hNone
    · intro hSame
      rw [Day.temporaryPlace_inj.1 hSame, hFree] at hNode
      cases hNode
  · intro e node hNode
    rw [hWith.node?] at hNode
    split at hNode
    · next hSame =>
      obtain rfl := Day.temporaryPlace_inj.1 hSame
      exact ⟨stored, hFront, (Option.some.inj hNode).symm⟩
    · exact h.temporary hNode

/-- **The directory after a temporary file has got its final name**, which held all of its day. -/
theorem withFinal (h : DayFiles history directory place t) (hDated : d.IsDated)
    (hNode : t.node? (d.temporaryPlace place)
      = some (.file (.table (.ofSwaps (d.swapsOf history)))))
    (hSize : (d.finalPath directory).utf8ByteSize ≤ longestPath)
    (hSettle : (t.settle? (d.temporaryPath directory)).isSome)
    (hMoved : t.IsWithMoved t' (d.temporaryPlace place) (d.finalPlace place)) :
    DayFiles history directory place t' := by
  have hKeeps : t.KeepsDirectories t' :=
    hMoved.keepsDirectories h.temporary_ne_directory h.final_ne_directory
  refine ⟨hKeeps.find h.leads, ?_, ?_, ?_, fun name => hMoved.single (h.single _) (h.single name)⟩
  · intro p node hBelow hOther hHere
    rw [hMoved.node?] at hHere
    split at hHere
    · next hSame => exact ⟨d, hDated, .inl hSame⟩
    split at hHere
    · cases hHere
    · exact h.only hBelow hOther hHere
  · intro e node hHere
    rw [hMoved.node?] at hHere
    by_cases hSame : e = d
    · subst hSame
      rw [if_pos rfl, hNode] at hHere
      refine ⟨(Option.some.inj hHere).symm, ?_, hSize, ?_⟩
      · rw [hMoved.node?, if_neg (Day.finalPlace_ne_temporaryPlace e e).symm, if_pos rfl]
      · exact Tree.settle?_keeps hKeeps h.leads (Day.isFileName_temporaryName hDated)
          (Day.isFileName_finalName hDated) Day.size_finalName_le hSettle
    · rw [if_neg (fun hPlace => hSame (Day.finalPlace_inj.1 hPlace)),
        if_neg (Day.finalPlace_ne_temporaryPlace e d)] at hHere
      refine h.final_kept hKeeps hHere fun hNone => ?_
      rw [hMoved.node?, if_neg (Day.finalPlace_ne_temporaryPlace d e).symm,
        if_neg (fun hPlace => hSame (Day.temporaryPlace_inj.1 hPlace)), hNone]
  · intro e node hHere
    rw [hMoved.node?, if_neg (Day.finalPlace_ne_temporaryPlace d e).symm] at hHere
    split at hHere
    · cases hHere
    · exact h.temporary hHere

theorem temporary_settles {content : Content} (h : DayFiles history directory place t)
    (hDated : d.IsDated) (hWith : t.IsWithFile t' (d.temporaryPlace place) content)
    (hSettle : (t.settle? (d.temporaryPath directory)).isSome) :
    (t'.settle? (d.temporaryPath directory)).isSome := by
  have hName := Day.isFileName_temporaryName hDated
  have hKeeps := hWith.keepsDirectories h.temporary_ne_directory
  rw [Day.temporaryPath, Tree.settle?_keeps hKeeps h.leads hName hName (Nat.le_refl _) hSettle]
  rfl

/-- The final path of a day is no longer than its temporary one. -/
theorem size_finalPath_le (h : DayFiles history directory place t) (hDated : d.IsDated) :
    (d.finalPath directory).utf8ByteSize ≤ (d.temporaryPath directory).utf8ByteSize := by
  obtain ⟨-, hSome, -⟩ := Tree.findBy_ok h.leads
  have hSize := Day.size_finalName_le (d := d)
  rw [Day.temporaryPath, utf8ByteSize_joinPath hSome (Day.isFileName_temporaryName hDated),
    Day.finalPath, utf8ByteSize_joinPath hSome (Day.isFileName_finalName hDated)]
  omega

/-- **A temporary file that holds all of its day is renamed** to the final one, unless its path is
too long. No other final file is touched. -/
theorem rename (h : DayFiles history directory place t) (hDated : d.IsDated)
    (hFree : t.node? (d.finalPlace place) = none)
    (hNode : t.node? (d.temporaryPlace place)
      = some (.file (.table (.ofSwaps (d.swapsOf history)))))
    (hSettle : (t.settle? (d.temporaryPath directory)).isSome) :
    (∃ f, t.rename (d.temporaryPath directory) (d.finalPath directory) = .error f) ∨
      ∃ t', t.rename (d.temporaryPath directory) (d.finalPath directory) = .ok t' ∧
        DayFiles history directory place t' ∧ t'.node? (d.finalPlace place) ≠ none ∧
        ∀ e : Day, e ≠ d → t'.node? (e.finalPlace place) = t.node? (e.finalPlace place) := by
  have hRename : t.rename (d.temporaryPath directory) (d.finalPath directory)
      = if longestPath < (d.temporaryPath directory).utf8ByteSize then
          .error PathFault.tooLong.failure
        else .ok (t.move (d.temporaryPlace place) (d.finalPlace place)) :=
    Tree.rename_joinPath h.leads (Day.isFileName_temporaryName hDated)
      (Day.isFileName_finalName hDated) Day.size_finalName_le
      (Day.finalName_ne_temporaryName d d).symm hNode hFree
  rw [hRename]
  -- The final name is shorter than the temporary one, so the temporary one decides.
  by_cases hLong : longestPath < (d.temporaryPath directory).utf8ByteSize
  · rw [if_pos hLong]
    exact .inl ⟨_, rfl⟩
  · rw [if_neg hLong]
    have hShort := Nat.le_trans (h.size_finalPath_le hDated) (Nat.not_lt.1 hLong)
    have hMoved : t.IsWithMoved (t.move (d.temporaryPlace place) (d.finalPlace place))
        (d.temporaryPlace place) (d.finalPlace place) :=
      Tree.isWithMoved_move h.temporary_ne_directory h.final_ne_directory
        (Day.finalPlace_ne_temporaryPlace d d).symm h.free_below
    refine .inr ⟨_, rfl, h.withFinal hDated hNode hShort hSettle hMoved, ?_, fun e hOther => ?_⟩
    · rw [hMoved.node?, if_pos rfl, hNode]
      nofun
    · rw [hMoved.node?, if_neg (fun hPlace => hOther (Day.finalPlace_inj.1 hPlace)),
        if_neg (Day.finalPlace_ne_temporaryPlace e d)]

end DayFiles

namespace Sync

open Fetch (Report Notice)

variable {σ : Type} {source : Source σ} {history stored : List Swap} {directory : String}
  {place : NodePath} {d : Day} {s s' : State σ}

/-- **What syncing a day can do**: a day with its final file is left alone. Otherwise the day gets
its final file, or no final file is there afterwards either. The final files of other days stay as
they are. -/
inductive DaySynced (history : List Swap) (directory : String) (place : NodePath) (d : Day)
    (s : State σ) : Result DayOutcome σ → Prop
  | skipped (hFinal : s.tree.node? (d.finalPlace place) ≠ none) :
    DaySynced history directory place d s
      ⟨.ok .skipped, [.record (.info "shard exists locally, skipping" [("shard", d.name)])], s⟩
  | left {result : Result DayOutcome σ} (hFree : s.tree.node? (d.finalPlace place) = none)
      (hFiles : DayFiles history directory place result.state.tree)
      (hFinal : ∀ e : Day, result.state.tree.node? (e.finalPlace place)
        = s.tree.node? (e.finalPlace place))
      (hOutcome : ∀ outcome, result.outcome = .ok outcome → outcome.isIncomplete = true) :
    DaySynced history directory place d s result
  | finalized {report : Report} {notices : List Notice} {s' : State σ}
      (hFree : s.tree.node? (d.finalPlace place) = none)
      (hFiles : DayFiles history directory place s'.tree)
      (hFinal : s'.tree.node? (d.finalPlace place) ≠ none)
      (hOthers : ∀ e : Day, e ≠ d →
        s'.tree.node? (e.finalPlace place) = s.tree.node? (e.finalPlace place)) :
    DaySynced history directory place d s ⟨.ok (.finalized report), notices, s'⟩

/-- Fetching a day into its temporary shard is one of these, if there is no final file. -/
theorem daySynced_fetchDay (hFeeds : source.Feeds history) (hDated : d.IsDated)
    (hFiles : DayFiles history directory place s.tree)
    (hFree : s.tree.node? (d.finalPlace place) = none)
    (hFront : stored <+: d.swapsOf history)
    (hSettle : (s.tree.settle? (d.temporaryPath directory)).isSome) :
    DaySynced history directory place d s (fetchDay source directory d s
      ⟨d.temporaryPath directory, some (d.temporaryPlace place), .journaled,
        .table (.ofSwaps stored), none⟩ (.ofSwaps stored)) := by
  obtain ⟨stored', hFront', hTable, hAll⟩ := Fetch.run_fills s.source
    ⟨.ofSwaps stored, s.writes, s.fault, .journaled⟩ hFeeds (d.swapsOf_eq history ▸ hFront) rfl
  rw [← Day.swapsOf_eq] at hFront' hAll
  unfold fetchDay
  dsimp only [dayCursor]
  generalize Fetch.run source true _ _ s.source = finished at *
  have hFilled : s.tree.IsWithFile (s.tree.save ⟨d.temporaryPath directory,
      some (d.temporaryPlace place), .journaled, .table finished.medium.table, none⟩)
      (d.temporaryPlace place) (.table (.ofSwaps stored')) :=
    hTable ▸ Tree.isWithFile_save rfl (hFiles.isAlone _) hFiles.temporary_ne_directory
  generalize s.tree.save _ = filled at *
  have hFilledFiles := hFiles.withTemporary hDated hFree hFront' hFilled
  have hSame (e : Day) : filled.node? (e.finalPlace place) = s.tree.node? (e.finalPlace place) := by
    rw [hFilled.node?, if_neg (Day.finalPlace_ne_temporaryPlace e d)]
  unfold settleDay
  -- The rename comes only after a complete run, when the temporary file has all of the day.
  by_cases hComplete : finished.report.reason.isComplete = true
  · rw [if_pos hComplete, if_pos hComplete]
    have hNode : filled.node? (d.temporaryPlace place)
        = some (.file (.table (.ofSwaps (d.swapsOf history)))) := by
      rw [hFilled.node?, if_pos rfl, hAll hComplete]
    have hStillSettles := hFiles.temporary_settles hDated hFilled hSettle
    rcases hFilledFiles.rename hDated ((hSame d).trans hFree) hNode hStillSettles with
      ⟨f, hFails⟩ | ⟨t, hRenamed, hLeft, hThere, hOthers⟩
    · rw [hFails]
      exact .left hFree hFilledFiles hSame nofun
    · rw [hRenamed]
      exact .finalized hFree hLeft hThere fun e hOther => (hOthers e hOther).trans (hSame e)
  · rw [if_neg hComplete, if_neg hComplete]
    refine .left hFree hFilledFiles hSame fun outcome hOutcome => ?_
    cases hOutcome
    rfl

/-- A day with its final file is left alone, whatever the source. -/
theorem syncDay_of_final {source : Source σ} (hFiles : DayFiles history directory place s.tree)
    (hFinal : s.tree.node? (d.finalPlace place) ≠ none) : syncDay source directory d s
      = ⟨.ok .skipped, [.record (.info "shard exists locally, skipping" [("shard", d.name)])],
        s⟩ := by
  obtain ⟨node, hNode⟩ := Option.ne_none_iff_exists'.1 hFinal
  obtain ⟨-, -, hSize, -⟩ := hFiles.final hNode
  have hThere : s.tree.present? (d.finalPath directory) = some node := by
    rw [Day.finalPath, Tree.present?_joinPath hFiles.leads
      (Day.isFileName_finalName (hFiles.isDated_of_final hNode))]
    exact (if_neg (Nat.not_lt.2 hSize)).trans hNode
  unfold syncDay
  rw [hThere]
  rfl

/-- **Syncing a day** is one of these. -/
theorem daySynced (hFeeds : source.Feeds history)
    (hAddress : directory.startsWith Address.scheme = false) (hDated : d.IsDated)
    (hFiles : DayFiles history directory place s.tree) :
    DaySynced history directory place d s (syncDay source directory d s) := by
  -- A day with a final file is left alone; else its temporary file is opened or made.
  cases hFinal : s.tree.node? (d.finalPlace place) with
  | some node =>
    have hThere : s.tree.node? (d.finalPlace place) ≠ none := by rw [hFinal]; nofun
    rw [syncDay_of_final hFiles hThere]
    exact .skipped hThere
  | none =>
    have hAbsent : s.tree.present? (d.finalPath directory) = none := by
      rw [Day.finalPath, Tree.present?_joinPath hFiles.leads (Day.isFileName_finalName hDated)]
      split
      · rfl
      · exact hFinal
    obtain ⟨stored, hFront, hTable⟩ := hFiles.holdsTable d
    have hOpened := Tree.openShard_joinPath hFiles.leads hAddress
      (Day.isFileName_temporaryName hDated) (Day.size_temporaryName_le hDated) (hFiles.isAlone _)
      hTable
    unfold syncDay
    rw [hAbsent, Tree.createDirectories_of_find hFiles.leads, Option.isSome_none,
      if_neg Bool.false_ne_true]
    dsimp only
    rcases hOpened with ⟨f, hFails⟩ | ⟨hSettle, tree, hWith, hOpens⟩
    · replace hFails : s.tree.openShard (d.temporaryPath directory) = (.error f, s.tree) := hFails
      rw [hFails]
      exact .left hFinal hFiles (fun _ => rfl) nofun
    · replace hOpens : s.tree.openShard (d.temporaryPath directory)
          = (.ok ⟨d.temporaryPath directory, some (d.temporaryPlace place), .journaled,
              .table (.ofSwaps stored), none⟩, tree) := hOpens
      rw [hOpens]
      have hSame (e : Day) :
          tree.node? (e.finalPlace place) = s.tree.node? (e.finalPlace place) := by
        rw [hWith.node?]
        exact if_neg (Day.finalPlace_ne_temporaryPlace e d)
      have hFetched : DaySynced history directory place d { s with tree := tree }
          (fetchDay source directory d { s with tree := tree } ⟨d.temporaryPath directory,
            some (d.temporaryPlace place), .journaled, .table (.ofSwaps stored), none⟩
            (.ofSwaps stored)) :=
        daySynced_fetchDay hFeeds hDated (hFiles.withTemporary hDated hFinal hFront hWith)
          ((hSame d).trans hFinal) hFront (hFiles.temporary_settles hDated hWith hSettle)
      show DaySynced history directory place d s (fetchDay source directory d
        { s with tree := tree } _ (.ofSwaps stored))
      generalize fetchDay source directory d _ _ _ = result at *
      cases hFetched with
      | skipped hThere => exact absurd ((hSame d).trans hFinal) hThere
      | left _ hLeft hStill hOutcome =>
        exact .left hFinal hLeft (fun e => (hStill e).trans (hSame e)) hOutcome
      | finalized _ hLeft hThere hOthers =>
        exact .finalized hFinal hLeft hThere fun e hOther => (hOthers e hOther).trans (hSame e)

end Sync
end SwapArchive
