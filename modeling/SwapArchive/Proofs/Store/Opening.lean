import SwapArchive.Proofs.Store.Path
import SwapArchive.Store.Opening

/-!
# Opening shards below a directory

A shard with the path of a name below a directory is opened in the place of that name. With nothing
beside it, opening changes the tree in that place only, where a table stands afterwards, and the
shard can be written.
-/

namespace SwapArchive

/-- A text in front that lacks a mark lies before the first mark. -/
theorem isPrefix_of_isPrefix_append_mark {front cs ds : List Char} {c : Char}
    (h : front <+: cs ++ c :: ds) (hMark : c ∉ front) : front <+: cs := by
  have hFirst : cs ++ [c] <+: cs ++ c :: ds := ⟨ds, by simp⟩
  rcases List.prefix_or_prefix_of_prefix h hFirst with hShort | hLong
  · rcases List.prefix_concat_iff.1 hShort with hSame | hBefore
    · exact absurd (hSame ▸ by simp) hMark
    · exact hBefore
  · exact absurd (hLong.subset (by simp)) hMark

variable {directory name : String}

/-- The path of a name below a directory has a slash, and before that no more than the directory. -/
theorem toList_joinPath_eq_slash (hDirectory : directory ≠ "") (hName : IsFileName name) :
    ∃ before, before <+: directory.toList ∧
      (joinPath directory name).toList = before ++ '/' :: name.toList := by
  rw [toList_joinPath hDirectory hName, slashAfter]
  split
  · next hSlash =>
    obtain ⟨before, hBefore⟩ := endsWith_slash.1 hSlash
    exact ⟨before, ⟨['/'], hBefore.symm⟩, by simp [hBefore]⟩
  · exact ⟨directory.toList, List.prefix_refl _, by simp⟩

/-- A path that is no address stands for its file. -/
theorem Locator.ofName_joinPath {mode : OpenMode} (hMode : mode ≠ .memory)
    (hDirectory : directory ≠ "") (hAddress : directory.startsWith Address.scheme = false)
    (hName : IsFileName name) :
    Locator.ofName mode (joinPath directory name)
      = .ok { file := some (joinPath directory name), mode := mode } := by
  obtain ⟨before, hBefore, hPath⟩ := toList_joinPath_eq_slash hDirectory hName
  have hScheme : (joinPath directory name).startsWith Address.scheme = false := by
    rw [String.startsWith_string_eq_false_iff] at hAddress ⊢
    rw [hPath]
    exact fun h => hAddress ((isPrefix_of_isPrefix_append_mark h (by decide)).trans hBefore)
  -- A path that is joined has a slash in it, which the special names do not.
  have hSlash : '/' ∈ (joinPath directory name).toList := by
    rw [hPath]
    simp
  have hEmpty : joinPath directory name ≠ "" := by
    intro hSame
    rw [hSame] at hSlash
    cases hSlash
  have hMemory : joinPath directory name ≠ Shard.memoryName := by
    intro hSame
    rw [hSame] at hSlash
    exact absurd hSlash (by decide)
  have hTransient : isTransient mode (joinPath directory name) = false := by
    simp [isTransient, hEmpty, hMemory, hMode]
  simp only [ofName, hScheme, ofOptions, hTransient]
  rfl

namespace Tree

variable {t t' : Tree} {place way : NodePath} {steps : List PathStep} {content : Content}
  {l : Locator} {table : Table}

/-- A directory on whose way there are only directories leads to such directories. -/
theorem walk_directories (hWay : ∀ p, p <+: way → t.node? p = some .directory)
    (h : t.walk (.present way .directory) steps = .ok (.present place .directory)) :
    ∀ p, p <+: place → t.node? p = some .directory := by
  -- What is walked through are directories, and a step down finds one more.
  induction steps generalizing way with
  | nil =>
    cases h
    exact hWay
  | cons next rest ih =>
    obtain ⟨hStep, hRest⟩ := walk_cons h
    refine ih (fun p hp => ?_) hRest
    cases next with
    | stay => exact hWay p hp
    | up => exact hWay p (hp.trans (List.dropLast_prefix way))
    | down name =>
      rcases List.prefix_concat_iff.1 hp with rfl | hBefore
      · rw [step] at hStep
        split at hStep
        · cases hStep
        · split at hStep
          · next node hNode =>
            cases hStep
            exact hNode
          · cases hStep
      · exact hWay p hBefore

theorem directories_of_origin {path : String} :
    ∀ p, p <+: t.origin path → t.node? p = some .directory := by
  intro p hp
  have hHome : p <+: t.home := by
    rw [origin] at hp
    split at hp
    · exact (List.prefix_nil.1 hp) ▸ List.nil_prefix
    · exact hp
  rw [node?, if_pos (List.isPrefixOf_iff_prefix.2 hHome)]

theorem directories_of_find (h : t.find directory = .ok (.present place .directory)) :
    ∀ p, p <+: place → t.node? p = some .directory :=
  walk_directories directories_of_origin (walk_of_find h)

/-- **Alone**: no file that would belong to a shard stands beside it. -/
def IsAlone (t : Tree) (place : NodePath) : Prop := ∀ c : Companion, t.node? (c.beside place) = none

theorem IsAlone.companion? (h : t.IsAlone place) (c : Companion) : t.companion? place c = none := by
  rw [Tree.companion?, h c]

/-- With nothing beside a shard, there is nothing to settle. -/
theorem IsAlone.settleBeside (h : t.IsAlone place) (hSystem : l.system = .usual)
    (hChanges : l.isUnchanging = false) :
    t.settleBeside l place content = (.ok (t.journalWriting l place), t) := by
  have hLock : (l.system == FileSystem.lockBeside) = false := by
    rw [hSystem]
    rfl
  simp [Tree.settleBeside, settleJournal, settleLog, h.companion?, hChanges, hLock]

/-- A shard with nothing beside it can be written, if it may be and its name is short enough. -/
theorem IsAlone.journalWriting (h : t.IsAlone (place ++ [name])) (hWritable : l.isWritable = true)
    (hSize : name.utf8ByteSize ≤ longestJournaledName) :
    t.journalWriting l (place ++ [name]) = .journaled := by
  simp [Tree.journalWriting, h.companion?, hWritable, Nat.not_lt.2 hSize]

def locatorOf (mode : OpenMode) (path : String) : Locator := { file := some path, mode := mode }

private theorem create_ne_memory : OpenMode.create ≠ .memory := nofun

theorem connect_eq_connectFile {mode : OpenMode} (hMode : mode ≠ .memory)
    (h : t.find directory = .ok (.present place .directory))
    (hAddress : directory.startsWith Address.scheme = false) (hName : IsFileName name) :
    t.connect mode (joinPath directory name) = t.connectFile (joinPath directory name)
      (locatorOf mode (joinPath directory name)) (joinPath directory name) := by
  obtain ⟨hZero, hSome, -⟩ := findBy_ok h
  have hChars := contains_zeroChar_joinPath hZero hSome hName
  simp only [connect, hChars, Locator.ofName_joinPath hMode hSome hAddress hName]
  rfl

/-- **A file below a directory is opened as it is**, if nothing is in the way. -/
theorem connect_joinPath {mode : OpenMode} (hMode : mode ≠ .memory)
    (h : t.find directory = .ok (.present place .directory))
    (hAddress : directory.startsWith Address.scheme = false) (hName : IsFileName name)
    (hNode : t.node? (place ++ [name]) = some (.file content))
    (hAlone : t.IsAlone (place ++ [name]))
    (hSettle : t.settle? (joinPath directory name) = some (place ++ [name])) :
    t.connect mode (joinPath directory name)
      = (.ok ⟨joinPath directory name, some (place ++ [name]),
      t.journalWriting (locatorOf mode (joinPath directory name)) (place ++ [name]),
      content, none⟩, t) := by
  have hBeside : t.settleBeside (locatorOf mode (joinPath directory name)) (place ++ [name]) content
      = (.ok (t.journalWriting (locatorOf mode (joinPath directory name)) (place ++ [name])), t) :=
    hAlone.settleBeside rfl rfl
  rw [connect_eq_connectFile hMode h hAddress hName, connectFile, hSettle]
  simp only [hNode, connectContent, hBeside]
  rfl

/-- A name below a directory that is free gets an empty file when it is opened to be written, if
nothing is in the way. -/
theorem connect_create_joinPath (h : t.find directory = .ok (.present place .directory))
    (hAddress : directory.startsWith Address.scheme = false) (hName : IsFileName name)
    (hNode : t.node? (place ++ [name]) = none)
    (hAlone : (t.put (place ++ [name]) (.file .nothing)).IsAlone (place ++ [name]))
    (hSettle : t.settle? (joinPath directory name) = some (place ++ [name])) :
    t.connect .create (joinPath directory name) = (.ok ⟨joinPath directory name,
        some (place ++ [name]), (t.put (place ++ [name]) (.file .nothing)).journalWriting
          (locatorOf .create (joinPath directory name)) (place ++ [name]), .nothing, none⟩,
      t.put (place ++ [name]) (.file .nothing)) := by
  have hBeside : (t.put (place ++ [name]) (.file .nothing)).settleBeside
      (locatorOf .create (joinPath directory name)) (place ++ [name]) .nothing = _ :=
    hAlone.settleBeside rfl rfl
  have hDirectory : t.isDirectory (place ++ [name]).dropLast = true := by
    rw [List.dropLast_concat, isDirectory, directories_of_find h place (List.prefix_refl _)]
    rfl
  rw [connect_eq_connectFile create_ne_memory h hAddress hName, connectFile, hSettle]
  simp only [hNode, hDirectory, connectContent, hBeside]
  rfl

/-- **A place for a table**: a file with the table, or a free place, which stands for the empty
table. -/
def HoldsTable (t : Tree) (place : NodePath) (table : Table) : Prop :=
  t.node? place = some (.file (.table table)) ∨ (t.node? place = none ∧ table = .empty)

theorem beside_ne (c : Companion) : c.beside (place ++ [name]) ≠ place ++ [name] := by
  simp only [Companion.beside, List.dropLast_concat, List.getLast?_concat, Option.getD_some]
  intro hSame
  have hName : name ++ c.ending = name := List.singleton_inj.1 (List.append_cancel_left hSame)
  rw [← String.toList_inj, String.toList_append, List.append_right_eq_self] at hName
  cases c <;> exact absurd hName (by decide)

theorem IsWithFile.isAlone (h : IsWithFile t t' (place ++ [name]) content)
    (hAlone : t.IsAlone (place ++ [name])) : t'.IsAlone (place ++ [name]) := by
  intro c
  rw [h.node?, if_neg (beside_ne c), hAlone c]

/-- Saving a shard with nothing beside it changes the tree in the place of its file. -/
theorem isWithFile_save {s : Shard} (hPlace : s.place = some (place ++ [name]))
    (hAlone : t.IsAlone (place ++ [name])) (hFree : t.node? (place ++ [name]) ≠ some .directory) :
    IsWithFile t (t.save s) (place ++ [name]) s.content := by
  have hJournal : t.node? (Companion.journal.beside (place ++ [name])) = none := hAlone .journal
  have hOut : (Companion.journal.beside (place ++ [name])).isPrefixOf t.home = false :=
    outside_home (by simp [hJournal])
  have hPlaceOut : (place ++ [name]).isPrefixOf t.home = false := outside_home hFree
  -- What is saved goes into the file alone: a journal beside it would be erased, and there is none.
  simp only [save, hPlace]
  split
  · next hSame => exact isWithFile_self (by simpa using hSame)
  split
  · refine ⟨rfl, fun q => ?_, fun h => h.erase.put⟩
    rw [node?_put (t := t.erase _) hPlaceOut, node?_erase hOut]
    split
    · rfl
    · split
      · next hSame => rw [hSame, hJournal]
      · rfl
  · exact isWithFile_put hFree

/-- **A shard below a directory is opened to be written**, and then its table stands in its place,
or nothing is changed. -/
theorem openShard_joinPath (h : t.find directory = .ok (.present place .directory))
    (hAddress : directory.startsWith Address.scheme = false) (hName : IsFileName name)
    (hSize : name.utf8ByteSize ≤ longestJournaledName) (hAlone : t.IsAlone (place ++ [name]))
    (hTable : t.HoldsTable (place ++ [name]) table) :
    (∃ f, t.openShard (joinPath directory name) = (.error f, t)) ∨
      (t.settle? (joinPath directory name)).isSome ∧
      ∃ t', IsWithFile t t' (place ++ [name]) (.table table) ∧
        t.openShard (joinPath directory name) = (.ok ⟨joinPath directory name,
          some (place ++ [name]), .journaled, .table table, none⟩, t') := by
  cases hSettle : t.settle? (joinPath directory name) with
  | none =>
    refine .inl ⟨cannotOpen (joinPath directory name), ?_⟩
    rw [openShard, connect_eq_connectFile create_ne_memory h hAddress hName, connectFile, hSettle]
  | some way =>
    obtain rfl := settle?_joinPath h hName hSettle
    refine .inr ⟨rfl, ?_⟩
    rcases hTable with hNode | ⟨hNode, rfl⟩
    · have hWriting : t.journalWriting (locatorOf .create (joinPath directory name))
          (place ++ [name]) = .journaled := hAlone.journalWriting rfl hSize
      refine ⟨t, isWithFile_self hNode, ?_⟩
      rw [openShard, connect_joinPath create_ne_memory h hAddress hName hNode hAlone hSettle,
        hWriting]
      simp [Shard.prepare, save, hNode]
    · -- An empty file is created first, and the empty table is saved into it.
      have hFree : t.node? (place ++ [name]) ≠ some .directory := by
        rw [hNode]
        nofun
      have hCreated : IsWithFile t (t.put (place ++ [name]) (.file .nothing)) (place ++ [name])
          .nothing := isWithFile_put hFree
      have hAlone' := hCreated.isAlone hAlone
      have hWriting : (t.put (place ++ [name]) (.file .nothing)).journalWriting
          (locatorOf .create (joinPath directory name)) (place ++ [name]) = .journaled :=
        hAlone'.journalWriting rfl hSize
      have hFree' : (t.put (place ++ [name]) (.file .nothing)).node? (place ++ [name])
          ≠ some .directory := by
        rw [hCreated.node?, if_pos rfl]
        nofun
      refine ⟨_, hCreated.trans (isWithFile_save (s := ⟨joinPath directory name,
        some (place ++ [name]), .journaled, .table .empty, none⟩) rfl hAlone' hFree'), ?_⟩
      rw [openShard, connect_create_joinPath h hAddress hName hNode hAlone' hSettle, hWriting]
      rfl

/-- A way with only directories on it leads to its end, if none of its names is too long. -/
theorem walk_down (hWay : ∀ p, p <+: way ++ place → t.node? p = some .directory)
    (hOpen : t.walk (.present way .directory) (place.map .down) ≠ .error .tooLong) :
    t.walk (.present way .directory) (place.map .down)
      = .ok (.present (way ++ place) .directory) := by
  induction place generalizing way with
  | nil => rw [List.map_nil, walk, List.append_nil]
  | cons name rest ih =>
    have hSplit : way ++ name :: rest = way ++ [name] ++ rest := by simp
    have hNode : t.node? (way ++ [name]) = some .directory :=
      hWay _ ⟨rest, by rw [← hSplit]⟩
    have hStep : t.step way (.down name) = if longestName < name.utf8ByteSize then .error .tooLong
        else .ok (.present (way ++ [name]) .directory) := by
      rw [step]
      simp only [PathStep.after, hNode]
    rw [List.map_cons, walk, hStep] at hOpen ⊢
    -- The walk stops only at a name that is too long, for every node on the way is a directory.
    by_cases hLong : longestName < name.utf8ByteSize
    · rw [if_pos hLong] at hOpen
      exact absurd rfl hOpen
    · rw [if_neg hLong] at hOpen ⊢
      rw [hSplit] at hWay ⊢
      exact ih hWay hOpen

/-- A way below a directory that is open leads through the directory. -/
theorem walk_of_isOpenWay {rest : NodePath} (hWay : ∀ p, p <+: way → t.node? p = some .directory)
    (hOpen : t.isOpenWay (way ++ rest) = true) :
    t.walk (.present [] .directory) (way.map .down) = .ok (.present way .directory) := by
  refine walk_down (by simpa using hWay) fun hLong => ?_
  rw [isOpenWay, List.map_append, walk_append, hLong] at hOpen
  cases hOpen

theorem isOpenWay_keeps (hKeeps : KeepsDirectories t t')
    (hWay : ∀ p, p <+: way → t.node? p = some .directory) (hOpen : t.isOpenWay way = true) :
    t'.isOpenWay way = true := by
  rw [← List.append_nil way] at hOpen
  rw [isOpenWay, hKeeps.walk (walk_of_isOpenWay hWay hOpen)]

theorem wayLength_append :
    wayLength (place ++ [name]) = wayLength place + name.utf8ByteSize + 1 := by
  rw [wayLength, List.foldl_append]
  rfl

theorem settle?_eq_some {path : String} : t.settle? path = some way ↔
    (stepsOf path).foldlM t.settleStep? (t.origin path) = some way ∧ way ≠ [] ∧
      wayLength way ≤ longestShardWay := by
  rw [settle?, Option.bind_eq_bind, Option.bind_eq_some_iff]
  constructor
  · rintro ⟨settled, hSteps, hRest⟩
    unfold guard at hRest
    split at hRest
    · next hFits =>
      obtain rfl := Option.some.inj hRest
      exact ⟨hSteps, by simpa using hFits⟩
    · cases hRest
  · rintro ⟨hSteps, hFits⟩
    refine ⟨way, hSteps, ?_⟩
    unfold guard
    rw [if_pos (by simpa using hFits)]
    rfl

theorem settleStep?_down : t.settleStep? way (.down name) = some place ↔
    place = way ++ [name] ∧ wayLength place ≤ longestWay ∧ t.isOpenWay place = true := by
  have hStep : t.settleStep? way (.down name)
      = if (decide (wayLength (way ++ [name]) ≤ longestWay) && t.isOpenWay (way ++ [name])) = true
        then some (way ++ [name]) else none := rfl
  rw [hStep]
  constructor
  · intro h
    split at h
    · next hFits =>
      obtain rfl := Option.some.inj h
      exact ⟨rfl, by simpa using hFits⟩
    · cases h
  · rintro ⟨rfl, hFits⟩
    rw [if_pos (by simpa using hFits)]

theorem settleSteps_keeps (hKeeps : KeepsDirectories t t')
    (hWay : ∀ p, p <+: way → t.node? p = some .directory)
    (h : t.walk (.present way .directory) steps = .ok (.present place .directory))
    (hSettle : steps.foldlM t.settleStep? way = some place) :
    steps.foldlM t'.settleStep? way = some place := by
  induction steps generalizing way with
  | nil => exact hSettle
  | cons next rest ih =>
    obtain ⟨hStep, hRest⟩ := walk_cons h
    have hOne : t.walk (.present way .directory) [next]
        = .ok (.present (next.after way) .directory) := by
      rw [walk, hStep]
      rfl
    have hNext : ∀ p, p <+: next.after way → t.node? p = some .directory :=
      walk_directories hWay hOne
    rw [List.foldlM_cons, Option.bind_eq_bind, Option.bind_eq_some_iff] at hSettle ⊢
    obtain ⟨between, hFirst, hSettle⟩ := hSettle
    -- Only a step down looks at the tree.
    have hBetween : between = next.after way ∧ t'.settleStep? way next = some between := by
      cases next with
      | stay => exact ⟨(Option.some.inj hFirst).symm, hFirst⟩
      | up => exact ⟨(Option.some.inj hFirst).symm, hFirst⟩
      | down name =>
        obtain ⟨rfl, hLength, hOpen⟩ := settleStep?_down.1 hFirst
        exact ⟨rfl, settleStep?_down.2 ⟨rfl, hLength, isOpenWay_keeps hKeeps hNext hOpen⟩⟩
    obtain ⟨rfl, hFirst'⟩ := hBetween
    exact ⟨_, hFirst', ih hNext hRest hSettle⟩

/-- **What could be opened can be opened** as long as no directory is gone, under a name that is not
longer. -/
theorem settle?_keeps {target : String} (hKeeps : KeepsDirectories t t')
    (h : t.find directory = .ok (.present place .directory)) (hName : IsFileName name)
    (hTarget : IsFileName target) (hSize : target.utf8ByteSize ≤ name.utf8ByteSize)
    (hSettle : (t.settle? (joinPath directory name)).isSome) :
    t'.settle? (joinPath directory target) = some (place ++ [target]) := by
  obtain ⟨-, hSome, -⟩ := findBy_ok h
  obtain ⟨way, hWay⟩ := Option.isSome_iff_exists.1 hSettle
  obtain rfl := settle?_joinPath h hName hWay
  obtain ⟨hSteps, -, hLength⟩ := settle?_eq_some.1 hWay
  have hOrigin : t'.origin directory = t.origin directory := by
    rw [origin, origin, hKeeps.home]
  rw [stepsOf_joinPath hSome hName, origin_joinPath hSome hName, List.foldlM_append,
    Option.bind_eq_bind, Option.bind_eq_some_iff] at hSteps
  obtain ⟨settled, hSettled, hLast⟩ := hSteps
  -- The steps to the directory lead where they did. The last one is taken to the other name, for
  -- which nothing has been checked yet: it has to be short enough, and its way open.
  obtain rfl : place = settled :=
    (foldl_after_of_walk (walk_of_find h)).symm.trans (foldl_after_of_settle hSettled)
  rw [List.foldlM_cons, Option.bind_eq_bind, Option.bind_eq_some_iff] at hLast
  obtain ⟨between, hDown, hSame⟩ := hLast
  obtain rfl := Option.some.inj hSame
  obtain ⟨-, hShort, hOpen⟩ := settleStep?_down.1 hDown
  rw [wayLength_append] at hLength hShort
  have hTargetOpen : t'.isOpenWay (place ++ [target]) = true := by
    have hWalk := hKeeps.walk (walk_of_isOpenWay (directories_of_find h) hOpen)
    have hFound : t'.walk (.present [] .directory) ((place ++ [target]).map .down)
        = .ok (t'.foundAt (place ++ [target])) := by
      rw [List.map_append, walk_append, hWalk]
      exact walk_down_single hTarget
    rw [isOpenWay, hFound]
  have hTargetDown : t'.settleStep? place (.down target) = some (place ++ [target]) :=
    settleStep?_down.2 ⟨rfl, by rw [wayLength_append]; omega, hTargetOpen⟩
  refine settle?_eq_some.2 ⟨?_, by simp, by rw [wayLength_append]; omega⟩
  rw [stepsOf_joinPath hSome hTarget, origin_joinPath hSome hTarget, hOrigin, List.foldlM_append,
    settleSteps_keeps hKeeps directories_of_origin (walk_of_find h) hSettled]
  show [PathStep.down target].foldlM t'.settleStep? place = _
  rw [List.foldlM_cons, hTargetDown]
  rfl

end Tree
end SwapArchive
