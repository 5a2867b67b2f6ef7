import SwapArchive.Proofs.Store.Opening

/-!
# Opening a shard again

A shard that is saved and opened again by its name is found in the same place with the content that
it had. The options of its name and the files beside it decide whether it can be opened and how it
can be written, but not what it holds.
-/

namespace SwapArchive

/-- What two operations in a row have given. -/
theorem bind_eq_ok {ε α β : Type} {x : Except ε α} {f : α → Except ε β} {b : β} :
    (x >>= f) = .ok b ↔ ∃ a, x = .ok a ∧ f a = .ok b := by
  cases x with
  | error failure => exact ⟨nofun, nofun⟩
  | ok a => exact ⟨fun h => ⟨a, rfl, h⟩, fun ⟨_, hSame, h⟩ => Except.ok.inj hSame ▸ h⟩

namespace Locator

variable {c c' d d' : Choices} {mode mode' : OpenMode} {name : String} {l l' : Locator}

/-- Choices that agree about memory and about the file system. -/
private def Agree (c c' : Choices) : Prop :=
  (c.mode = .memory ↔ c'.mode = .memory) ∧ c.system = c'.system

private theorem agree_take (h : Agree c c') (option : String × String)
    (hTake : c.take option = .ok d) (hTake' : c'.take option = .ok d') : Agree d d' := by
  revert hTake hTake'
  unfold Choices.take
  split
  · rintro ⟨⟩ ⟨⟩
    exact ⟨h.1, rfl⟩
  · split
    · rintro ⟨⟩ ⟨⟩
      exact h
    · nofun
  · split
    · nofun
    · intro hTake hTake'
      split at hTake <;> split at hTake'
      · cases hTake
        cases hTake'
        exact ⟨Iff.rfl, h.2⟩
      · cases hTake'
      · cases hTake
      · cases hTake
  · rintro ⟨⟩ ⟨⟩
    exact h

private theorem agree_foldlM (h : Agree c c') (options : List (String × String))
    (hTaken : options.foldlM Choices.take c = .ok d)
    (hTaken' : options.foldlM Choices.take c' = .ok d') : Agree d d' := by
  induction options generalizing c c' with
  | nil =>
    cases hTaken
    cases hTaken'
    exact h
  | cons option options ih =>
    rw [List.foldlM_cons, bind_eq_ok] at hTaken hTaken'
    obtain ⟨between, hFirst, hRest⟩ := hTaken
    obtain ⟨between', hFirst', hRest'⟩ := hTaken'
    exact ih (agree_take h option hFirst hFirst') hRest hRest'

private theorem file_ofOptions (h : mode = .memory ↔ mode' = .memory) (system : FileSystem)
    (a : Address) : (ofOptions mode system a).file = (ofOptions mode' system a).file := by
  have hTransient : isTransient mode a.path = isTransient mode' a.path := by
    rw [Bool.eq_iff_iff]
    simp [isTransient, h]
  unfold ofOptions
  rw [hTransient]
  split <;> rfl

/-- The choices that the options of an address come to, and the locator that they make. -/
private theorem ofAddress_eq_ok {a : Address} (h : ofAddress mode a = .ok l) :
    ∃ choices system, a.options.foldlM Choices.take ⟨mode, none⟩ = .ok choices ∧
      FileSystem.named.lookup (choices.system.getD "unix") = some system ∧
      l = ofOptions choices.mode system a := by
  obtain ⟨choices, hTaken, hMade⟩ := bind_eq_ok.1 h
  dsimp only at hMade
  split at hMade
  · cases hMade
  · next system hSystem => exact ⟨choices, system, hTaken, hSystem, (Except.ok.inj hMade).symm⟩

/-- **An address leads to one file in all modes**, as far as they permit it. -/
theorem file_ofName (hMode : mode ≠ .memory) (hMode' : mode' ≠ .memory)
    (h : ofName mode name = .ok l) (h' : ofName mode' name = .ok l') : l.file = l'.file := by
  have hMemory : mode = .memory ↔ mode' = .memory := by simp [hMode, hMode']
  unfold ofName at h h'
  by_cases hScheme : name.startsWith Address.scheme = true
  · rw [if_pos hScheme] at h h'
    obtain ⟨a, hAddress, hMade⟩ := bind_eq_ok.1 h
    obtain ⟨a', hAddress', hMade'⟩ := bind_eq_ok.1 h'
    obtain rfl : a = a' := Except.ok.inj (hAddress.symm.trans hAddress')
    obtain ⟨choices, system, hTaken, hSystem, rfl⟩ := ofAddress_eq_ok hMade
    obtain ⟨choices', system', hTaken', hSystem', rfl⟩ := ofAddress_eq_ok hMade'
    have hStart : Agree ⟨mode, none⟩ ⟨mode', none⟩ := ⟨hMemory, rfl⟩
    -- The options of an address choose the same file in either mode, unless one of them is memory.
    obtain ⟨hAgree, hSame⟩ := agree_foldlM hStart a.options hTaken hTaken'
    rw [hSame, hSystem'] at hSystem
    obtain rfl := Option.some.inj hSystem
    exact file_ofOptions hAgree _ a
  · rw [if_neg hScheme] at h h'
    cases h
    cases h'
    exact file_ofOptions hMemory .usual _

end Locator

namespace Tree

variable {t t' t'' : Tree} {place path : NodePath} {node : Node} {name : String} {l : Locator}
  {content : Content} {writing : Writing} {mode : OpenMode} {s s' : Shard}

/-- **The same in a place**: a tree with the working directory of another one and with what stands
there in that place. -/
structure SameAt (place : NodePath) (t t' : Tree) : Prop where
  home : t'.home = t.home
  node? : t'.node? place = t.node? place

namespace SameAt

theorem refl : SameAt place t t := ⟨rfl, rfl⟩

theorem trans (h : SameAt place t t') (h' : SameAt place t' t'') : SameAt place t t'' :=
  ⟨h'.home.trans h.home, h'.node?.trans h.node?⟩

theorem erase (h : place ≠ path) : SameAt place t (t.erase path) := by
  refine ⟨rfl, ?_⟩
  rw [Tree.node?, Tree.node?, home_erase, lookup_erase, if_neg h]

theorem put (h : place ≠ path) : SameAt place t (t.put path node) := by
  refine ⟨rfl, ?_⟩
  have hLookup : (t.put path node).nodes.lookup place = t.nodes.lookup place := by
    rw [Tree.put, List.lookup_append, lookup_erase, if_neg h, List.lookup_cons,
      beq_false_of_ne h]
    simp
  rw [Tree.node?, Tree.node?, home_put, hLookup]

end SameAt

/-! ## Files beside a shard -/

section Beside

variable (hBeside : ∀ c : Companion, place ≠ c.beside place)

include hBeside

private theorem sameAt_settleJournal {isEmpty : Bool}
    (h : t.settleJournal l place isEmpty = .ok t') : SameAt place t t' := by
  have hDropped : SameAt place t (t.erase (Companion.journal.beside place)) :=
    .erase (hBeside .journal)
  -- Whatever the journal holds, it is left or erased, and the file beside it stays.
  unfold settleJournal at h
  dsimp only at h
  split at h
  · cases h
    exact .refl
  split at h
  · cases h
    exact .refl
  split at h
  · split at h <;> cases h
    exact .refl
  split at h
  · split at h <;> cases h
    · exact .refl
    · exact hDropped
  split at h
  · cases h
    exact .refl
  split at h <;> cases h
  exact hDropped

private theorem sameAt_useLog : SameAt place t (t.useLog l place).2 := by
  have hDropped : SameAt place t (t.erase (Companion.log.beside place)) := .erase (hBeside .log)
  unfold useLog
  dsimp only
  split
  · split
    · exact .refl
    · exact .put (hBeside .index)
  split
  · exact hDropped
  split
  · exact .refl
  · exact hDropped.trans (.erase (hBeside .index))

private theorem sameAt_settleLog {isEmpty : Bool} {written : Option Writing}
    (h : t.settleLog l place isEmpty = .ok (written, t')) : SameAt place t t' := by
  unfold settleLog at h
  split at h
  · cases h
    exact .refl
  split at h
  · split at h <;> cases h
    exact .erase (hBeside .log)
  split at h
  · cases h
    exact sameAt_useLog hBeside
  · cases h

/-- Whatever is done beside a shard, nothing changes in its place. -/
theorem sameAt_settleBeside : SameAt place t (t.settleBeside l place content).2 := by
  unfold settleBeside
  dsimp only
  split
  · exact .refl
  split
  · exact .refl
  split
  · exact .refl
  next between hJournal =>
  have hFirst : SameAt place t between := sameAt_settleJournal hBeside hJournal
  split
  · exact hFirst
  · next hLog => exact hFirst.trans (sameAt_settleLog hBeside hLog)
  · next hLog => exact hFirst.trans (sameAt_settleLog hBeside hLog)

end Beside

theorem ne_beside (h : place ≠ []) (c : Companion) : place ≠ c.beside place := by
  rcases List.eq_nil_or_concat place with hNil | ⟨front, last, hPlace⟩
  · exact absurd hNil h
  · rw [hPlace, List.concat_eq_append]
    exact (beside_ne c).symm

/-! ## Opening -/

theorem wayOf_eq {path : String} (h : t'.home = t.home) : t'.wayOf path = t.wayOf path := by
  rw [wayOf, wayOf, origin, origin, h]

/-- **A shard that has been found** in the place of a path, with what stood there, or with nothing
if the place was free. -/
structure Found (t : Tree) (path : String) (s : Shard) (t' : Tree) (place : NodePath) : Prop where
  way : t.wayOf path = place
  stands : s.place = some place
  home : t'.home = t.home
  node? : t'.node? place = some (.file s.content)
  before : t.node? place = some (.file s.content) ∨ t.node? place = none

theorem found_connectContent {path : String} (hSettle : t.settle? path = some place)
    (hHome : t'.home = t.home) (hNode : t'.node? place = some (.file content))
    (hBefore : t.node? place = some (.file content) ∨ t.node? place = none)
    (hMade : t'.connectContent name l place content = (s, t'')) :
    s.label = name ∧ Found t path s t'' place := by
  obtain ⟨hSteps, hSome, -⟩ := settle?_eq_some.1 hSettle
  have hWay : t.wayOf path = place := foldl_after_of_settle hSteps
  have hBeside : SameAt place t' (t'.settleBeside l place content).2 :=
    sameAt_settleBeside (ne_beside hSome)
  have hHome' := hBeside.home.trans hHome
  have hNode' := hBeside.node?.trans hNode
  unfold connectContent at hMade
  generalize t'.settleBeside l place content = settled at hHome' hNode' hMade
  obtain ⟨result, after⟩ := settled
  cases result with
  | error f =>
    cases hMade
    exact ⟨rfl, hWay, rfl, hHome', hNode', hBefore⟩
  | ok writing =>
    cases hMade
    exact ⟨rfl, hWay, rfl, hHome', hNode', hBefore⟩

theorem connectFile_eq_ok {path : String} (h : t.connectFile name l path = (.ok s, t')) :
    s.label = name ∧ ∃ place, Found t path s t' place := by
  unfold connectFile at h
  split at h
  · cases h
  next place hSettle =>
  split at h
  · cases h
  split at h
  · next content hNode =>
    generalize hMade : t.connectContent name l place content = made at h
    obtain ⟨shard, after⟩ := made
    cases h
    exact (found_connectContent hSettle rfl hNode (.inl hNode) hMade).imp_right fun h => ⟨place, h⟩
  · cases h
  · -- A file that is not there is made empty first.
    next hFree =>
    split at h
    · have hOut : place.isPrefixOf t.home = false := outside_home (by simp [hFree])
      have hNode : (t.put place (.file .nothing)).node? place = some (.file .nothing) := by
        rw [node?_put hOut, if_pos rfl]
      generalize hMade : (t.put place (.file .nothing)).connectContent name l place .nothing = made
        at h
      obtain ⟨shard, after⟩ := made
      cases h
      exact (found_connectContent hSettle home_put hNode (.inr hFree) hMade).imp_right
        fun h => ⟨place, h⟩
    · cases h

/-- **A shard that has been connected** is in memory, or has been found in the place of its path. -/
theorem connect_eq_ok (h : t.connect mode name = (.ok s, t')) :
    s.label = name ∧ ∃ l, Locator.ofName mode name = .ok l ∧
      ((l.file = none ∧ s.place = none) ∨ ∃ path place, l.file = some path ∧
        Found t path s t' place) := by
  unfold connect at h
  split at h
  · cases h
  split at h
  · cases h
  next l hLocator =>
  split at h
  · next hFile =>
    cases h
    exact ⟨rfl, l, hLocator, .inl ⟨hFile, rfl⟩⟩
  · next path hFile =>
    obtain ⟨hLabel, place, hFound⟩ := connectFile_eq_ok h
    exact ⟨hLabel, l, hLocator, .inr ⟨path, place, hFile, hFound⟩⟩

/-- **A shard that stands in a place**: its name leads there, where no directory is. -/
structure Stands (t : Tree) (s : Shard) (place : NodePath) : Prop where
  stands : s.place = some place
  isFile : t.node? place ≠ some .directory
  leads : ∃ mode l path, mode ≠ .memory ∧ Locator.ofName mode s.label = .ok l ∧
    l.file = some path ∧ t.wayOf path = place

theorem Found.stand {path : String} (hFound : Found t path s t' place) (hMode : mode ≠ .memory)
    (hLocator : Locator.ofName mode s.label = .ok l) (hFile : l.file = some path) :
    Stands t' s place := by
  refine ⟨hFound.stands, ?_, mode, l, path, hMode, hLocator, hFile, ?_⟩
  · rw [hFound.node?]
    nofun
  · rw [wayOf_eq hFound.home, hFound.way]

theorem home_save : (t.save s).home = t.home := by
  unfold save
  split
  · rfl
  split
  · rfl
  · split <;> rfl

/-- What has been saved stands in its place. -/
theorem node?_save (hStands : s.place = some place) (hFile : t.node? place ≠ some .directory) :
    (t.save s).node? place = some (.file s.content) := by
  have hOut : place.isPrefixOf t.home = false := outside_home hFile
  unfold save
  rw [hStands]
  dsimp only
  split
  · next hSame => exact eq_of_beq hSame
  · rw [node?_put, if_pos rfl]
    split
    · exact hOut
    · exact hOut

theorem Stands.save (h : Stands t s place) : Stands (t.save s) s place := by
  obtain ⟨hStands, hFile, mode, l, path, hMode, hLocator, hPath, hWay⟩ := h
  refine ⟨hStands, ?_, mode, l, path, hMode, hLocator, hPath, (wayOf_eq home_save).trans hWay⟩
  rw [node?_save hStands hFile]
  nofun

/-- **What has been saved is found again** in whatever mode, as long as nothing changes in its
place. -/
theorem Stands.connect_again (h : Stands t s place) (hSame : SameAt place (t.save s) t')
    (hMode : mode ≠ .memory) (hAgain : t'.connect mode s.label = (.ok s', t'')) :
    s'.content = s.content ∧ Stands t'' s' place := by
  obtain ⟨hStands, hFile, mode₀, l₀, path, hMode₀, hLocator₀, hPath, hWay⟩ := h
  obtain ⟨hLabel, l, hLocator, hConnected⟩ := connect_eq_ok hAgain
  have hSaved := hSame.node?.trans (node?_save hStands hFile)
  rw [Locator.file_ofName hMode₀ hMode hLocator₀ hLocator] at hPath
  rcases hConnected with ⟨hMemory, -⟩ | ⟨path', place', hPath', hFound⟩
  -- a name that leads to a file does not lead to memory in another mode
  · rw [hMemory] at hPath
    cases hPath
  · obtain rfl : path = path' := Option.some.inj (hPath.symm.trans hPath')
    obtain rfl : place = place' := by
      rw [← hWay, ← hFound.way]
      exact (wayOf_eq (hSame.home.trans home_save)).symm
    rw [← hLabel] at hLocator
    refine ⟨?_, hFound.stand hMode hLocator hPath⟩
    rcases hFound.before with hBefore | hNone
    · rw [hSaved] at hBefore
      exact (Node.file.inj (Option.some.inj hBefore)).symm
    · rw [hSaved] at hNone
      cases hNone

/-- A shard that has been prepared has a table: its own, or an empty one if there was nothing. -/
theorem prepare_eq_ok (h : s.prepare = .ok s') :
    s'.label = s.label ∧ s'.place = s.place ∧ s'.obstacle = s.obstacle ∧
      ∃ table, s'.content = .table table ∧ (s.content = .table table ∨ s.content = .nothing) := by
  unfold Shard.prepare at h
  split at h
  · next table hContent =>
    cases h
    exact ⟨rfl, rfl, rfl, table, hContent, .inl hContent⟩
  · cases h
  · next hContent =>
    split at h
    · cases h
    · cases h
      exact ⟨rfl, rfl, rfl, .empty, rfl, .inr hContent⟩

theorem openShard_parts (h : t.openShard name = (.ok s, t')) :
    ∃ found after, t.connect .create name = (.ok found, after) ∧ found.obstacle = none ∧
      found.prepare = .ok s ∧ t' = after.save s := by
  unfold openShard at h
  split at h
  · cases h
  next found after hFound =>
  split at h
  · cases h
  next hReadable =>
  split at h
  · cases h
  next prepared hPrepared =>
  cases h
  exact ⟨found, after, hFound, hReadable, hPrepared, rfl⟩

/-- **A shard that has been opened to be written** has a table that can be read, and stands in the
place that its name leads to, if it is not in memory. -/
theorem openShard_eq_ok (h : t.openShard name = (.ok s, t')) :
    s.obstacle = none ∧ (∃ table, s.content = .table table) ∧
      ∀ place, s.place = some place → Stands t' s place := by
  obtain ⟨found, after, hFound, hReadable, hPrepared, rfl⟩ := openShard_parts h
  obtain ⟨hLabel, hPlace, hObstacle, table, hTable, -⟩ := prepare_eq_ok hPrepared
  refine ⟨hObstacle.trans hReadable, ⟨table, hTable⟩, fun place hStands => ?_⟩
  obtain ⟨hName, l, hLocator, hConnected⟩ := connect_eq_ok hFound
  rw [hPlace] at hStands
  -- A shard in memory stands nowhere; one in a file is saved where it was found.
  rcases hConnected with ⟨-, hMemory⟩ | ⟨path, place', hPath, hThere⟩
  · rw [hMemory] at hStands
    cases hStands
  · obtain rfl : place' = place := Option.some.inj (hThere.stands.symm.trans hStands)
    rw [← hName] at hLocator
    have hMode : OpenMode.create ≠ .memory := nofun
    have hBefore : Stands after found place' := hThere.stand hMode hLocator hPath
    have hStand : Stands after s place' :=
      ⟨hPlace.trans hBefore.stands, hBefore.isFile, by rw [hLabel]; exact hBefore.leads⟩
    exact hStand.save

/-- **What has been saved is opened again to be written.** -/
theorem Stands.openShard_again {table : Table} (h : Stands t s place)
    (hSame : SameAt place (t.save s) t') (hTable : s.content = .table table)
    (hAgain : t'.openShard s.label = (.ok s', t'')) :
    s'.obstacle = none ∧ s'.content = .table table ∧ Stands t'' s' place := by
  obtain ⟨hReadable, -, hStands⟩ := openShard_eq_ok hAgain
  obtain ⟨found, after, hFound, -, hPrepared, -⟩ := openShard_parts hAgain
  have hMode : OpenMode.create ≠ .memory := nofun
  obtain ⟨hContent, hStand⟩ := h.connect_again hSame hMode hFound
  obtain ⟨-, hPlace, -, table', hTable', hBefore⟩ := prepare_eq_ok hPrepared
  refine ⟨hReadable, ?_, hStands place (hPlace.trans hStand.stands)⟩
  rw [hContent, hTable] at hBefore
  rcases hBefore with hSame | hNothing
  · rw [hTable', hSame]
  · cases hNothing

end Tree
end SwapArchive
