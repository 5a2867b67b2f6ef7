import SwapArchive.Proofs.Shard.Listing

/-!
# Paths of the files of days

Below a directory no two files of days share a path, whether paths are compared by their text or by
the way that they lead. So no day is written over another one, and none is written over while it is
fetched. What is listed of a directory are its final files.
-/

namespace SwapArchive

namespace Day

variable {d e : Day} {directory : String} {t : Tree}

theorem slash_not_mem_append {ending : String} (h : '/' ∉ ending.toList) :
    '/' ∉ (d.name ++ ending).toList := by
  rw [toList_name_append, List.mem_append, not_or]
  exact ⟨fun hDate => absurd (isDateChar_of_mem_nameChars hDate) (by decide), h⟩

theorem slash_not_mem_finalName : '/' ∉ d.finalName.toList := slash_not_mem_append (by decide)

theorem slash_not_mem_temporaryName : '/' ∉ d.temporaryName.toList := by
  rw [temporaryName_eq]
  exact slash_not_mem_append (by decide)

theorem finalPath_injective (h : d.finalPath directory = e.finalPath directory) : d = e :=
  finalName_injective (joinPath_injective slash_not_mem_finalName slash_not_mem_finalName h)

theorem temporaryPath_injective (h : d.temporaryPath directory = e.temporaryPath directory) :
    d = e :=
  temporaryName_injective
    (joinPath_injective slash_not_mem_temporaryName slash_not_mem_temporaryName h)

theorem finalPath_ne_temporaryPath (d e : Day) (directory : String) :
    d.finalPath directory ≠ e.temporaryPath directory := fun h =>
  finalName_ne_temporaryName d e
    (joinPath_injective slash_not_mem_finalName slash_not_mem_temporaryName h)

theorem wayOf_finalPath (h : d.IsDated) :
    t.wayOf (d.finalPath directory) = d.finalPlace (t.wayOf directory) :=
  t.wayOf_joinPath directory (isFileName_finalName h)

theorem wayOf_temporaryPath (h : d.IsDated) :
    t.wayOf (d.temporaryPath directory) = d.temporaryPlace (t.wayOf directory) :=
  t.wayOf_joinPath directory (isFileName_temporaryName h)

end Day

/-- **Files of days in a directory**: no two of them share a path, by its text or by its way. If the
directory holds such files, files that end otherwise and directories, its listing names exactly the
final files, each once, and those of years of four digits in the order of time. -/
theorem Tree.listShards_separates (t : Tree) (directory : String) :
    (∀ d e : Day, (d.finalPath directory = e.finalPath directory → d = e) ∧
      (d.temporaryPath directory = e.temporaryPath directory → d = e) ∧
      d.finalPath directory ≠ e.temporaryPath directory) ∧
    (∀ d e : Day, d.IsDated → e.IsDated →
      (t.wayOf (d.finalPath directory) = t.wayOf (e.finalPath directory) → d = e) ∧
      (t.wayOf (d.temporaryPath directory) = t.wayOf (e.temporaryPath directory) → d = e) ∧
      t.wayOf (d.finalPath directory) ≠ t.wayOf (e.temporaryPath directory)) ∧
    ∀ place, t.find directory = .ok (.present place .directory) → t.HoldsShards place →
      ∃ days : List Day, t.listShards directory = .ok (days.map Day.finalName) ∧ days.Nodup ∧
        (∀ d, d ∈ days ↔ ∃ content, t.node? (d.finalPlace place) = some (.file content)) ∧
        days.Pairwise fun d e => d.HasPlainYear → e.HasPlainYear → d.number < e.number := by
  refine ⟨fun d e => ⟨Day.finalPath_injective, Day.temporaryPath_injective,
    Day.finalPath_ne_temporaryPath d e directory⟩, fun d e hd he => ?_,
    fun place hLeads hHolds => hHolds.listShards hLeads⟩
  rw [Day.wayOf_finalPath hd, Day.wayOf_finalPath he, Day.wayOf_temporaryPath hd,
    Day.wayOf_temporaryPath he]
  exact ⟨Day.finalPlace_inj.1, Day.temporaryPlace_inj.1, Day.finalPlace_ne_temporaryPlace d e⟩

/-- A directory with the final files of two days, a temporary file of a third one, a directory that
is named as the final file of a fourth one, and files that end otherwise. -/
theorem Tree.listShards_separates_two_days :
    let t : Tree := ⟨["work"], [(["work", "shards"], .directory),
      (["work", "shards", "2024-10-01.db"], .file .nothing),
      (["work", "shards", "2024-09-30.db"], .file .nothing),
      (["work", "shards", "2024-10-02_temp.db"], .file .nothing),
      (["work", "shards", "2024-10-03.db"], .directory),
      (["work", "shards", "notes.txt"], .file .nothing),
      (["work", "shards", ".db"], .file .nothing)]⟩
    let first : Day := Date.day ⟨2024, 9, 30⟩
    let second : Day := Date.day ⟨2024, 10, 1⟩
    let fourth : Day := Date.day ⟨2024, 10, 3⟩
    t.find "shards" = .ok (.present ["work", "shards"] .directory) ∧
      t.HoldsShards ["work", "shards"] ∧ first.IsDated ∧ second.IsDated ∧
      t.wayOf (first.finalPath "shards") ≠ t.wayOf (second.temporaryPath "shards") ∧
      first.HasPlainYear ∧ second.HasPlainYear ∧
      ∃ days : List Day, t.listShards "shards" = .ok (days.map Day.finalName) ∧
        first ∈ days ∧ second ∈ days ∧ fourth ∉ days := by
  intro t first second fourth
  have hLeads : t.find "shards" = .ok (.present ["work", "shards"] .directory) := by
    decide +kernel
  have hHolds : t.HoldsShards ["work", "shards"] := by
    refine ⟨fun name => List.nodup_iff_count_le_one.1 (by decide) _, by decide +kernel, ?_⟩
    have hNames : t.fileNames ["work", "shards"] = [second.finalName, first.finalName,
        Day.temporaryName (Date.day ⟨2024, 10, 2⟩), "notes.txt", ".db"] := by decide +kernel
    rw [hNames]
    simp only [List.forall_mem_cons, List.not_mem_nil, false_implies, implies_true, and_true]
    exact ⟨.inl ⟨_, .inl rfl⟩, .inl ⟨_, .inl rfl⟩, .inl ⟨_, .inr rfl⟩, .inr (by decide),
      .inr (by decide)⟩
  have hFirst : first.IsDated := ⟨by decide, by decide⟩
  have hSecond : second.IsDated := ⟨by decide, by decide⟩
  obtain ⟨-, hWays, hListing⟩ := t.listShards_separates "shards"
  obtain ⟨days, hListed, -, hDays, -⟩ := hListing _ hLeads hHolds
  refine ⟨hLeads, hHolds, hFirst, hSecond, (hWays first second hFirst hSecond).2.2,
    ⟨by decide, by decide⟩, ⟨by decide, by decide⟩, days, hListed,
    (hDays _).2 ⟨.nothing, by decide +kernel⟩, (hDays _).2 ⟨.nothing, by decide +kernel⟩, ?_⟩
  rw [hDays]
  have hNode : t.node? (fourth.finalPlace ["work", "shards"]) = some .directory := by
    decide +kernel
  rw [hNode]
  rintro ⟨content, hFile⟩
  cases hFile

end SwapArchive
