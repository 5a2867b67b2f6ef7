import SwapArchive.Proofs.Shard.Calls

/-!
# Complete syncs

A sync of several days that leaves none of them incomplete has got to each of them, and each has
its final file then. So it is after syncs of the planned days that have been repeated until one of
them is complete.
-/

namespace SwapArchive.Sync

variable {σ : Type} {source : Source σ} {history : List Swap} {directory : String}
  {place : NodePath} {d : Day} {initial now : Int} {s t u : State σ}
  {log : List (Day × Outcome DayOutcome)} {outcomes : List (Day × DayOutcome)}

/-- A day that is not incomplete has its final file. -/
theorem DaySynced.final_of_complete {result : Result DayOutcome σ} {outcome : DayOutcome}
    (h : DaySynced history directory place d s result) (hOutcome : result.outcome = .ok outcome)
    (hComplete : outcome.isIncomplete = false) :
    result.state.tree.node? (d.finalPlace place) ≠ none := by
  cases h with
  | skipped hFinal => exact hFinal
  | left _ _ _ hLeft =>
    rw [hLeft outcome hOutcome] at hComplete
    cases hComplete
  | finalized _ _ hFinal => exact hFinal

/-- **A complete sync leaves the final file of each of its days.** -/
theorem final_of_syncAll (hFeeds : source.Feeds history)
    (hAddress : directory.startsWith Address.scheme = false) {days : List Day}
    (hDated : ∀ d ∈ days, d.IsDated) (hFiles : DayFiles history directory place s.tree)
    (hComplete : ∀ entry ∈ dayOutcomes source directory days s,
      ∃ outcome, entry.2 = .ok outcome ∧ outcome.isIncomplete = false) :
    ∀ d ∈ days, (syncAll source directory days s).state.tree.node? (d.finalPlace place) ≠ none := by
  -- The induction is on the days: a later day leaves the files of the earlier ones in place.
  induction days generalizing s with
  | nil => nofun
  | cons day days ih =>
    rw [List.forall_mem_cons] at hDated
    rw [dayOutcomes, List.forall_mem_cons] at hComplete
    have hSynced := daySynced hFeeds hAddress hDated.1 hFiles
    have hAdvanced := Advanced.ofDay hFiles hSynced
    rw [syncAll_cons]
    generalize syncDay source directory day s = first at *
    obtain ⟨⟨outcome, hOutcome, hFirst⟩, hRest⟩ := hComplete
    dsimp only at hOutcome
    have hGoesOn : goesOn first.outcome = true := by
      rw [hOutcome, goesOn, hFirst]
      rfl
    rw [if_pos hGoesOn] at hRest
    rw [Result.andThen_state, if_pos hGoesOn]
    intro d hd
    rcases List.mem_cons.1 hd with rfl | hLater
    · -- The other days leave this final file as it is.
      have hThere := hSynced.final_of_complete hOutcome hFirst
      have hStays := (advanced_syncAll hFeeds hAddress hDated.2 hAdvanced.files).stays hThere
      rwa [hStays]
    · exact ih hDated.2 hAdvanced.files hRest d hLater

/-- **Repeated syncs** of the days that are planned from a time to the present. Between two of them
the source and the plan of failures may change. -/
inductive Repeated (source : Source σ) (directory : String) (initial now : Int) (s : State σ) :
    State σ → Prop
  | start : Repeated source directory initial now s s
  | again {t u : State σ} (hBefore : Repeated source directory initial now s t)
      (hTree : u.tree = t.tree) :
    Repeated source directory initial now s (syncSince source directory initial now u).state

/-- Repeated syncs are calls, and get to planned days only. -/
theorem Repeated.called (h : Repeated source directory initial now s t) (hNow : now ≤ lastTime) :
    ∃ log, Called source directory s log t ∧ ∀ entry ∈ log, entry.1 ∈ planDays initial now := by
  induction h with
  | start => exact ⟨[], .start, nofun⟩
  | again _ hTree ih =>
    obtain ⟨log, hCalled, hPlanned⟩ := ih
    refine ⟨_, .call (.since initial now) hNow hCalled hTree, fun entry hEntry => ?_⟩
    rcases List.mem_append.1 hEntry with hBefore | hLast
    · exact hPlanned entry hBefore
    · exact mem_days_of_mem_dayOutcomes hLast

/-- **The final files after repeated syncs**, the last of which is complete: those of the planned
days. -/
theorem Repeated.final_iff (h : Repeated source directory initial now s t)
    (hFeeds : source.Feeds history) (hAddress : directory.startsWith Address.scheme = false)
    (hNow : now ≤ lastTime) (hLeads : s.tree.find directory = .ok (.present place .directory))
    (hEmpty : ∀ p, place <+: p → p ≠ place → s.tree.node? p = none) (hTree : u.tree = t.tree)
    (hReturned : (syncSince source directory initial now u).outcome = .ok outcomes)
    (hComplete : ∀ entry ∈ outcomes, entry.2.isIncomplete = false) :
    DayFiles history directory place (syncSince source directory initial now u).state.tree ∧
      ∀ d : Day, (syncSince source directory initial now u).state.tree.node? (d.finalPlace place)
        ≠ none ↔ d ∈ planDays initial now := by
  have hFiles : DayFiles history directory place s.tree := .ofEmpty hLeads hEmpty
  have hDated : ∀ d ∈ planDays initial now, d.IsDated :=
    fun d hd => isDated_of_mem_planDays hNow hd
  obtain ⟨log, hCalled, hPlanned⟩ := (h.again hTree).called hNow
  have hAdvanced := hCalled.advanced hFeeds hAddress hFiles
  obtain ⟨before, hBefore, -⟩ := h.called hNow
  have hUntil := (hBefore.advanced hFeeds hAddress hFiles).files
  rw [← hTree] at hUntil
  refine ⟨hAdvanced.files, fun d => ⟨fun hThere => ?_, fun hd => ?_⟩⟩
  -- The directory was empty, so that a final file is there for a day that has been finalized.
  · rcases hAdvanced.final_iff.1 hThere with hOld | ⟨report, hMem⟩
    · exact absurd (hEmpty _ (List.prefix_append _ _) (by simp)) hOld
    · exact hPlanned _ hMem
  -- The last call has got to each of the planned days, as it has left none incomplete.
  · refine final_of_syncAll hFeeds hAddress hDated hUntil (fun entry hEntry => ?_) d hd
    have hLog := returned_eq_ok ((syncAll_outcome (planDays initial now) u).symm.trans hReturned)
    rw [hLog] at hEntry
    obtain ⟨outcome, hOutcome, rfl⟩ := List.mem_map.1 hEntry
    exact ⟨_, rfl, hComplete outcome hOutcome⟩

end SwapArchive.Sync
