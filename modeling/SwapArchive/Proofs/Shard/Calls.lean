import SwapArchive.Proofs.Shard.Directory

/-!
# Calls of the sync

Days are synced by calls for one day, for several days or for all days since a time, in any order,
and every question and every write may fail. Whatever has happened, each day of the directory is in
one of three states: nothing has been stored, a front part of the day has been stored in its
temporary file, or all of it in its final file. The last state is reached when the day is
finalized, and never left.
-/

namespace SwapArchive.Sync

variable {σ : Type} {source : Source σ} {history stored : List Swap} {directory : String}
  {place : NodePath} {d e : Day} {s t u : State σ}
  {log log' : List (Day × Outcome DayOutcome)}

/-- Whether the days after one are synced too. -/
def goesOn : Outcome DayOutcome → Bool
  | .ok outcome => !outcome.isIncomplete
  | .error _ => false

/-- **What came of each day** that a sync of several days got to. -/
def dayOutcomes (source : Source σ) (directory : String) :
    List Day → State σ → List (Day × Outcome DayOutcome)
  | [], _ => []
  | day :: days, s =>
    let first := syncDay source directory day s
    (day, first.outcome) ::
      if goesOn first.outcome then dayOutcomes source directory days first.state else []

theorem mem_days_of_mem_dayOutcomes {days : List Day} {entry : Day × Outcome DayOutcome}
    (h : entry ∈ dayOutcomes source directory days s) : entry.1 ∈ days := by
  induction days generalizing s with
  | nil => cases h
  | cons day days ih =>
    rw [dayOutcomes, List.mem_cons] at h
    rcases h with rfl | hRest
    · exact List.mem_cons_self
    · split at hRest
      · exact List.mem_cons_of_mem _ (ih hRest)
      · cases hRest

/-- A sync of days that has come to a first day, and goes on with the rest or not. -/
def Result.andThen (day : Day) (first : Result DayOutcome σ)
    (rest : State σ → Result (List (Day × DayOutcome)) σ) :
    Result (List (Day × DayOutcome)) σ :=
  match first.outcome with
  | .error f => ⟨.error f, first.notices, first.state⟩
  | .ok outcome =>
    if outcome.isIncomplete then ⟨.ok [(day, outcome)], first.notices, first.state⟩
    else
      let rest := rest first.state
      { rest with
        outcome := rest.outcome.map ((day, outcome) :: ·)
        notices := first.notices ++ rest.notices }

theorem syncAll_nil : syncAll source directory [] s = ⟨.ok [], [], s⟩ := by
  unfold syncAll
  rfl

theorem syncAll_cons (day : Day) (days : List Day) : syncAll source directory (day :: days) s
    = (syncDay source directory day s).andThen day (syncAll source directory days) := by
  conv_lhs => unfold syncAll
  -- What comes of the day is left open, or every case would be computed to its end.
  generalize syncDay source directory day s = first
  obtain ⟨outcome, notices, next⟩ := first
  cases outcome with
  | error f => rfl
  | ok outcome => rfl

/-- The state after the days that a sync has got to. -/
theorem Result.andThen_state (day : Day) (first : Result DayOutcome σ)
    (rest : State σ → Result (List (Day × DayOutcome)) σ) :
    (first.andThen day rest).state
      = if goesOn first.outcome then (rest first.state).state else first.state := by
  obtain ⟨outcome, notices, next⟩ := first
  cases outcome with
  | error f => rfl
  | ok outcome =>
    by_cases hStops : outcome.isIncomplete = true
    · simp [andThen, goesOn, hStops]
    · simp [andThen, goesOn, hStops]

/-- What a sync returns that came to these outcomes. -/
def returned : List (Day × Outcome DayOutcome) → Outcome (List (Day × DayOutcome))
  | [] => .ok []
  | (_, .error f) :: _ => .error f
  | (day, .ok outcome) :: rest => (returned rest).map ((day, outcome) :: ·)

theorem Result.andThen_outcome (day : Day) (first : Result DayOutcome σ)
    (rest : State σ → Result (List (Day × DayOutcome)) σ)
    {log : List (Day × Outcome DayOutcome)} (hRest : (rest first.state).outcome = returned log) :
    (first.andThen day rest).outcome
      = returned ((day, first.outcome) :: if goesOn first.outcome then log else []) := by
  obtain ⟨outcome, notices, next⟩ := first
  cases outcome with
  | error f => rfl
  | ok outcome =>
    by_cases hStops : outcome.isIncomplete = true
    · simp only [andThen, goesOn, hStops, returned, if_true]
      rfl
    · simp only [andThen, goesOn, hStops, returned]
      exact congrArg (Except.map _) hRest

/-- **A sync of several days returns what came of each**, unless one of them has failed
altogether. -/
theorem syncAll_outcome (days : List Day) (s : State σ) :
    (syncAll source directory days s).outcome
      = returned (dayOutcomes source directory days s) := by
  induction days generalizing s with
  | nil => rw [syncAll_nil, dayOutcomes, returned]
  | cons day days ih =>
    rw [syncAll_cons, dayOutcomes]
    exact Result.andThen_outcome day _ _ (ih _)

theorem returned_eq_ok {outcomes : List (Day × DayOutcome)} (h : returned log = .ok outcomes) :
    log = outcomes.map fun entry => (entry.1, .ok entry.2) := by
  induction log generalizing outcomes with
  | nil =>
    cases h
    rfl
  | cons entry rest ih =>
    obtain ⟨day, outcome⟩ := entry
    cases outcome with
    | error f => cases h
    | ok outcome =>
      rw [returned] at h
      cases hRest : returned rest with
      | error f =>
        rw [hRest] at h
        cases h
      | ok others =>
        rw [hRest] at h
        cases h
        rw [ih hRest]
        rfl

/-- A call of the sync. -/
inductive Call where
  | day (day : Day)
  | all (days : List Day)
  | since (initial now : Int)

namespace Call

/-- The days that a call is for. -/
def days : Call → List Day
  | day d => [d]
  | all days => days
  | since initial now => planDays initial now

/-- Whether the days of a call have dates; so have planned days if the present time has one. -/
def IsDated : Call → Prop
  | day d => d.IsDated
  | all days => ∀ d ∈ days, d.IsDated
  | since _ now => now ≤ lastTime

theorem IsDated.days {call : Call} (h : call.IsDated) : ∀ d ∈ call.days, d.IsDated := by
  cases call with
  | day d => exact fun e he => List.mem_singleton.1 he ▸ h
  | all days => exact h
  | since initial now => exact fun d => isDated_of_mem_planDays h

/-- **What a call leaves.** -/
def run (source : Source σ) (directory : String) : Call → State σ → State σ
  | day d, s => (syncDay source directory d s).state
  | all days, s => (syncAll source directory days s).state
  | since initial now, s => (syncSince source directory initial now s).state

/-- A call leaves what a sync of its days leaves. -/
theorem run_eq (call : Call) (s : State σ) :
    call.run source directory s = (syncAll source directory call.days s).state := by
  cases call with
  | day d =>
    rw [run, days, syncAll_cons, Result.andThen_state]
    generalize syncDay source directory d s = first
    rw [syncAll_nil]
    split <;> rfl
  | all some => rw [run, days]
  | since initial now =>
    rw [run, days, syncSince]

end Call

/-- **Calls one after the other**, and what came of each day that they got to. Between two calls
the source and the plan of failures may change. -/
inductive Called (source : Source σ) (directory : String) (s : State σ) :
    List (Day × Outcome DayOutcome) → State σ → Prop
  | start : Called source directory s [] s
  | call {log : List (Day × Outcome DayOutcome)} {t u : State σ} (call : Call)
      (hDated : call.IsDated) (hBefore : Called source directory s log t)
      (hTree : u.tree = t.tree) :
    Called source directory s (log ++ dayOutcomes source directory call.days u)
      (call.run source directory u)

/-- **How far a directory of days has come** from one state to another: it still is one, no final
file has changed, and those are there that were there before or that have been finalized. -/
structure Advanced (history : List Swap) (directory : String) (place : NodePath) (s : State σ)
    (log : List (Day × Outcome DayOutcome)) (t : State σ) : Prop where
  files : DayFiles history directory place t.tree
  stays : ∀ {e : Day}, s.tree.node? (e.finalPlace place) ≠ none →
    t.tree.node? (e.finalPlace place) = s.tree.node? (e.finalPlace place)
  final_iff : ∀ {e : Day}, t.tree.node? (e.finalPlace place) ≠ none ↔
    s.tree.node? (e.finalPlace place) ≠ none ∨ ∃ report, (e, .ok (.finalized report)) ∈ log

namespace Advanced

/-- Nothing has happened to the directory as long as its tree is the same. -/
theorem ofTree (hFiles : DayFiles history directory place s.tree) (hTree : t.tree = s.tree) :
    Advanced history directory place s [] t := by
  rw [← hTree] at hFiles
  refine ⟨hFiles, fun _ => by rw [hTree], fun {e} => ?_⟩
  rw [hTree]
  simp

theorem trans (h : Advanced history directory place s log t)
    (h' : Advanced history directory place t log' u) :
    Advanced history directory place s (log ++ log') u := by
  refine ⟨h'.files, fun hFinal => ?_, ?_⟩
  · have hFirst := h.stays hFinal
    exact (h'.stays (by rwa [hFirst])).trans hFirst
  · intro e
    simp only [h'.final_iff, h.final_iff, List.mem_append, exists_or, or_assoc]

/-- Syncing a day is such an advance. -/
theorem ofDay {result : Result DayOutcome σ} (hFiles : DayFiles history directory place s.tree)
    (h : DaySynced history directory place d s result) :
    Advanced history directory place s [(d, result.outcome)] result.state := by
  cases h with
  | skipped => exact ⟨hFiles, fun _ => rfl, by simp⟩
  | left hFree hLeft hStill hOutcome =>
    refine ⟨hLeft, fun _ => hStill _, fun {e} => ?_⟩
    rw [hStill e]
    refine (or_iff_left ?_).symm
    rintro ⟨report, hMem⟩
    have hSame : result.outcome = .ok (.finalized report) := by
      rw [List.mem_singleton] at hMem
      exact (Prod.mk.inj hMem).2.symm
    cases hOutcome _ hSame
  | finalized hFree hLeft hThere hOthers =>
    refine ⟨hLeft, fun {e} hFinal => hOthers e ?_, fun {e} => ?_⟩
    · rintro rfl
      exact hFinal hFree
    · by_cases hSame : e = d
      · subst hSame
        simp [hThere]
      · simp [hOthers e hSame, hSame]

/-- A sync of several days advances by its first day, and by the rest if it goes on. -/
theorem andThen {first : Result DayOutcome σ} {rest : State σ → Result (List (Day × DayOutcome)) σ}
    (h : Advanced history directory place s [(d, first.outcome)] first.state)
    (hRest : Advanced history directory place first.state log (rest first.state).state) :
    Advanced history directory place s
      ((d, first.outcome) :: if goesOn first.outcome then log else [])
      (first.andThen d rest).state := by
  rw [Result.andThen_state]
  split
  · exact h.trans hRest
  · exact h

end Advanced

/-- **Syncing several days** keeps the directory a directory of days. -/
theorem advanced_syncAll (hFeeds : source.Feeds history)
    (hAddress : directory.startsWith Address.scheme = false) {days : List Day}
    (hDated : ∀ d ∈ days, d.IsDated) (hFiles : DayFiles history directory place s.tree) :
    Advanced history directory place s (dayOutcomes source directory days s)
      (syncAll source directory days s).state := by
  induction days generalizing s with
  | nil =>
    rw [syncAll_nil, dayOutcomes]
    exact .ofTree hFiles rfl
  | cons day days ih =>
    rw [List.forall_mem_cons] at hDated
    rw [syncAll_cons, dayOutcomes]
    have hFirst := Advanced.ofDay hFiles (daySynced hFeeds hAddress hDated.1 hFiles)
    exact hFirst.andThen (ih hDated.2 hFirst.files)

/-- **Calls of the sync** keep the directory a directory of days. -/
theorem Called.advanced (h : Called source directory s log t) (hFeeds : source.Feeds history)
    (hAddress : directory.startsWith Address.scheme = false)
    (hFiles : DayFiles history directory place s.tree) :
    Advanced history directory place s log t := by
  induction h with
  | start => exact .ofTree hFiles rfl
  | @call log t u call hDated _ hTree ih =>
    -- Between two calls nothing but the tree has to stay.
    have hBetween : Advanced history directory place s (log ++ []) u :=
      ih.trans (.ofTree ih.files hTree)
    rw [List.append_nil] at hBetween
    rw [Call.run_eq]
    exact hBetween.trans (advanced_syncAll hFeeds hAddress hDated.days hBetween.files)

/-- **The files of a day after any calls** on an empty directory. There is at most one of them. The
final file is there exactly if the day has been finalized, and holds all swaps of the day, each
once. The temporary file holds swaps of the day, and all those that are newer than its oldest one.
A day with its final file is skipped without asking the source, and the file stays as it is. -/
theorem called_directory (hFeeds : source.Feeds history)
    (hAddress : directory.startsWith Address.scheme = false)
    (hLeads : s.tree.find directory = .ok (.present place .directory))
    (hEmpty : ∀ p, place <+: p → p ≠ place → s.tree.node? p = none)
    (hCalled : Called source directory s log t) (d : Day) :
    (t.tree.node? (d.finalPlace place) = none ∨ t.tree.node? (d.temporaryPlace place) = none) ∧
    ((t.tree.node? (d.finalPlace place) ≠ none ↔ ∃ report, (d, .ok (.finalized report)) ∈ log) ∧
      ∀ node, t.tree.node? (d.finalPlace place) = some node → ∃ table,
        node = .file (.table table) ∧
        List.Forall₂ Row.Holds table.rows ((d.swapsOf history).map Swap.entry)) ∧
    (∀ node, t.tree.node? (d.temporaryPlace place) = some node → ∃ table stored,
      node = .file (.table table) ∧
      List.Forall₂ Row.Holds table.rows (stored.map Swap.entry) ∧
      stored ⊆ d.swapsOf history ∧
      ∀ oldest, table.earliest? = some oldest →
        ∀ x ∈ d.swapsOf history, oldest < x.timestamp → x ∈ stored) ∧
    (t.tree.node? (d.finalPlace place) ≠ none →
      (∀ {σ' : Type} (source' : Source σ') (u : State σ'), u.tree = t.tree →
        (syncDay source' directory d u).outcome = .ok .skipped ∧
        (syncDay source' directory d u).state = u) ∧
      ∀ {log' u}, Called source directory t log' u →
        u.tree.node? (d.finalPlace place) = t.tree.node? (d.finalPlace place)) := by
  have hAdvanced : Advanced history directory place s log t :=
    hCalled.advanced hFeeds hAddress (.ofEmpty hLeads hEmpty)
  have hFiles := hAdvanced.files
  refine ⟨?_, ⟨?_, ?_⟩, ?_, ?_⟩
  · cases hNode : t.tree.node? (d.finalPlace place) with
    | none => exact .inl rfl
    | some node => exact .inr (hFiles.final hNode).2.1
  · -- Before the first call no final file was there.
    have hFree : s.tree.node? (d.finalPlace place) = none :=
      hEmpty _ (List.prefix_append _ _) (by simp [Day.finalPlace])
    rw [hAdvanced.final_iff, hFree]
    simp
  · intro node hNode
    exact ⟨_, (hFiles.final hNode).1, Table.holds_ofSwaps⟩
  · intro node hNode
    obtain ⟨stored, hFront, rfl⟩ := hFiles.temporary hNode
    refine ⟨_, stored, rfl, Table.holds_ofSwaps, hFront.subset, ?_⟩
    intro oldest hOldest x hx hNewer
    obtain ⟨missing, hAll⟩ := hFront
    obtain ⟨⟨y, hy, rfl⟩, -⟩ := Table.earliest?_ofSwaps.1 hOldest
    rw [← hAll, List.mem_append] at hx
    -- What is missing comes after what is stored, and so is not newer than any of it.
    have hOrder : NewestFirst (stored ++ missing) := hAll ▸ hFeeds.order.sublist List.filter_sublist
    refine hx.resolve_right fun hMissing => ?_
    have hOlder := (List.pairwise_append.1 hOrder).2.2 y hy x hMissing
    omega
  · intro hFinal
    refine ⟨fun source' u hTree => ?_, fun hLater => ?_⟩
    · rw [← hTree] at hFiles hFinal
      rw [syncDay_of_final hFiles hFinal]
      exact ⟨rfl, rfl⟩
    · exact (hLater.advanced hFeeds hAddress hFiles).stays hFinal

/-- A day that is fetched in two calls, because the first one fails after a page. -/
theorem called_directory_resumed :
    let day : Day := ⟨19358⟩
    let history : List Swap := [.sample "a" (day.start + 9), .sample "b" day.start]
    let source := (Source.ofHistory history 1).failing fun number =>
      if number = 1 then some (.transport "connection reset") else none
    let s : State (Nat × Unit) := ⟨.ofDirectories [["D"]], (0, ()), 0, fun _ => none⟩
    let failed := (Call.day day).run source "D" s
    let done := (Call.day day).run source "D" failed
    failed.tree.node? (day.temporaryPlace ["D"]) ≠ none ∧
      ∃ table, done.tree.node? (day.finalPlace ["D"]) = some (.file (.table table)) ∧
        List.Forall₂ Row.Holds table.rows (history.map Swap.entry) := by
  intro day history source s failed done
  have hValid : ∀ x ∈ history, x.validate = .ok () := by
    simp only [history, List.forall_mem_cons]
    refine ⟨?_, ?_, by simp⟩ <;> exact Swap.validate_sample rfl (by decide)
  have hFeeds : source.Feeds history := .ofStrict (by decide)
    ((Source.servesInOrder_ofHistory history 1).failing _) (by decide) hValid (by decide)
  have hDated : (Call.day day).IsDated := ⟨by decide, by decide⟩
  have hFirst : Called source "D" s _ failed := .call (.day day) hDated .start rfl
  have hCalled : Called source "D" s _ done := .call (.day day) hDated hFirst rfl
  have hLeads : s.tree.find "D" = .ok (.present ["D"] .directory) := by decide +kernel
  obtain ⟨-, ⟨-, hFinal⟩, -⟩ := called_directory hFeeds (by decide +kernel) hLeads
    (Tree.free_ofDirectories (by decide) (by decide)) hCalled day
  have hThere : (done.tree.node? (day.finalPlace ["D"])).isSome = true := by decide +kernel
  obtain ⟨node, hNode⟩ := Option.isSome_iff_exists.1 hThere
  obtain ⟨table, rfl, hHolds⟩ := hFinal node hNode
  exact ⟨by decide +kernel, table, hNode, hHolds⟩

/-- A directory whose path is taken for an address by the database: what is opened for every day is
the final file of one of them. That file is there without having been finalized. -/
theorem address_opens_final_file :
    let directory := "file:D%2f2023-01-02.db?/../D"
    let next : Day := ⟨19359⟩
    let source := Source.ofHistory [] 1
    let s : State Unit :=
      ⟨.ofDirectories [["D"], ["file:D%2f2023-01-02.db?"]], (), 0, fun _ => none⟩
    source.Feeds [] ∧ s.tree.find directory = .ok (.present ["D"] .directory) ∧
      (∀ p, ["D"] <+: p → p ≠ ["D"] → s.tree.node? p = none) ∧
      ∃ log t, Called source directory s log t ∧
        t.tree.node? (next.finalPlace ["D"]) ≠ none ∧
        ¬ ∃ report, (next, .ok (.finalized report)) ∈ log := by
  intro directory next source s
  have hFeeds : source.Feeds [] :=
    .ofStrict (by decide) (Source.servesInOrder_ofHistory [] 1) .nil nofun .nil
  refine ⟨hFeeds, by decide +kernel, Tree.free_ofDirectories (by decide) (by decide), _, _,
    .call (.day next.previous) ⟨by decide, by decide⟩ .start rfl, by decide +kernel, ?_⟩
  rintro ⟨report, hMem⟩
  have hDay := mem_days_of_mem_dayOutcomes hMem
  simp [Call.days, Day.previous, next] at hDay

end SwapArchive.Sync
