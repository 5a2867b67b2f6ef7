import SwapArchive.Proofs.Store.Tree
import SwapArchive.Shard.Day
import SwapArchive.Store.Opening

/-!
# Paths below a directory

The path of a name below a directory leads to the place of that name in the directory: it takes the
steps to the directory, and then one step downward. Files that come and go do not change where the
path of a directory leads.
-/

namespace SwapArchive

open Text (splitAt)

section Parts

variable {cs ds : List Char} {c : Char} (mark : Char → Bool)

/-- A text without a mark is one part. -/
theorem splitAt_of_unmarked (h : ∀ c ∈ cs, mark c = false) : splitAt mark cs = [cs] := by
  induction cs with
  | nil => rfl
  | cons c rest ih =>
    rw [List.forall_mem_cons] at h
    rw [splitAt, h.1, ih h.2]
    rfl

/-- A mark ends a part. -/
theorem splitAt_append_mark (h : mark c = true) :
    splitAt mark (cs ++ c :: ds) = splitAt mark cs ++ splitAt mark ds := by
  induction cs with
  | nil => simp [splitAt, h]
  | cons d rest ih =>
    rw [List.cons_append, splitAt, splitAt, ih]
    split
    · rfl
    · obtain ⟨part, parts, hParts⟩ :=
        List.exists_cons_of_ne_nil (Text.splitAt_ne_nil mark rest)
      rw [hParts]
      rfl

end Parts

/-- **Names of files**: no name of a step upward or of no step, nothing that a path cannot hold,
and not too many bytes. -/
structure IsFileName (name : String) : Prop where
  chars : ∀ c ∈ name.toList, c ≠ '/' ∧ c ≠ zeroChar
  ne_empty : name ≠ ""
  ne_stay : name ≠ "."
  ne_up : name ≠ ".."
  size_le : name.utf8ByteSize ≤ longestName

variable {directory name : String}

theorem IsFileName.ofPart? (h : IsFileName name) : PathStep.ofPart? name = some (.down name) := by
  simp [PathStep.ofPart?, h.ne_empty, h.ne_stay, h.ne_up]

theorem endsWith_slash {path : String} :
    path.endsWith "/" = true ↔ ∃ before, path.toList = before ++ ['/'] := by
  have hSuffix : path.endsWith "/" = true ↔ ['/'] <:+ path.toList := by
    rw [String.endsWith_eq_endsWith_toSlice, String.Slice.endsWith_string_iff]
    simp
  rw [hSuffix]
  exact exists_congr fun _ => eq_comm

/-- The steps that the parts of a text stand for. -/
def stepsOfChars (cs : List Char) : List PathStep :=
  ((splitAt (· == '/') cs).map String.ofList).filterMap PathStep.ofPart?

theorem stepsOfChars_append_slash (cs ds : List Char) :
    stepsOfChars (cs ++ '/' :: ds) = stepsOfChars cs ++ stepsOfChars ds := by
  simp only [stepsOfChars, splitAt_append_mark (· == '/') (beq_self_eq_true '/'),
    List.map_append, List.filterMap_append]

theorem IsFileName.stepsOfChars (h : IsFileName name) :
    stepsOfChars name.toList = [.down name] := by
  have hPart : splitAt (· == '/') name.toList = [name.toList] :=
    splitAt_of_unmarked _ fun c hc => beq_false_of_ne (h.chars c hc).1
  simp [SwapArchive.stepsOfChars, hPart, h.ofPart?]

/-- The slash between a directory and a name below it, where the directory does not end with
one. -/
def slashAfter (directory : String) : String := if directory.endsWith "/" then "" else "/"

theorem startsWith_slash_eq_false (h : '/' ∉ name.toList) : name.startsWith "/" = false := by
  rw [String.startsWith_string_eq_false_iff]
  rintro ⟨rest, hRest⟩
  exact h (hRest ▸ by simp)

theorem IsFileName.startsWith_slash (h : IsFileName name) : name.startsWith "/" = false :=
  startsWith_slash_eq_false fun hSlash => (h.chars '/' hSlash).1 rfl

theorem joinPath_eq (hDirectory : directory ≠ "") (hName : IsFileName name) :
    joinPath directory name = directory ++ slashAfter directory ++ name := by
  have hTop := hName.startsWith_slash
  have hSome : directory.isEmpty = false := by simpa using hDirectory
  rw [joinPath, hTop, hSome, slashAfter]
  by_cases hSlash : directory.endsWith "/" = true <;> simp [hSlash]

/-- **Different names below a directory have different paths**, unless one starts at the top. -/
theorem joinPath_injective {first second : String} (hFirst : '/' ∉ first.toList)
    (hSecond : '/' ∉ second.toList) (h : joinPath directory first = joinPath directory second) :
    first = second := by
  rw [joinPath, joinPath, startsWith_slash_eq_false hFirst, startsWith_slash_eq_false hSecond] at h
  simp only [Bool.false_eq_true, if_false] at h
  split at h
  · exact String.append_right_inj _ |>.1 h
  · exact String.append_right_inj _ |>.1 h

theorem toList_joinPath (hDirectory : directory ≠ "") (hName : IsFileName name) :
    (joinPath directory name).toList
      = directory.toList ++ (slashAfter directory).toList ++ name.toList := by
  rw [joinPath_eq hDirectory hName, String.toList_append, String.toList_append]

theorem utf8ByteSize_joinPath (hDirectory : directory ≠ "") (hName : IsFileName name) :
    (joinPath directory name).utf8ByteSize
      = directory.utf8ByteSize + (slashAfter directory).utf8ByteSize + name.utf8ByteSize := by
  rw [joinPath_eq hDirectory hName, String.utf8ByteSize_append, String.utf8ByteSize_append]

theorem contains_zeroChar_joinPath (hZero : zeroChar ∉ directory.toList)
    (hDirectory : directory ≠ "") (hName : IsFileName name) :
    (joinPath directory name).toList.contains zeroChar = false := by
  rw [toList_joinPath hDirectory hName, slashAfter]
  simp only [List.contains_eq_mem, List.mem_append, decide_eq_false_iff_not, not_or]
  refine ⟨⟨hZero, ?_⟩, fun hMem => (hName.chars _ hMem).2 rfl⟩
  split <;> decide

/-- **The steps of a name below a directory** are those to the directory, and one downward. -/
theorem stepsOf_joinPath (hDirectory : directory ≠ "") (hName : IsFileName name) :
    stepsOf (joinPath directory name) = stepsOf directory ++ [.down name] := by
  show stepsOfChars (joinPath directory name).toList = stepsOfChars directory.toList ++ _
  rw [toList_joinPath hDirectory hName, slashAfter, ← hName.stepsOfChars]
  split
  · next hSlash =>
    obtain ⟨before, hBefore⟩ := endsWith_slash.1 hSlash
    have hNothing : stepsOfChars [] = [] := rfl
    rw [hBefore, String.toList_empty, List.append_nil, List.append_assoc, List.singleton_append,
      stepsOfChars_append_slash, stepsOfChars_append_slash, hNothing, List.append_nil]
  · rw [List.append_assoc]
    exact stepsOfChars_append_slash _ _

/-- A name below a directory asks for no directory. -/
theorem strictSteps_joinPath (hDirectory : directory ≠ "") (hName : IsFileName name) :
    strictSteps (joinPath directory name) = stepsOf directory ++ [.down name] := by
  have hEnd : ¬ (joinPath directory name).endsWith "/" = true := by
    rw [endsWith_slash, toList_joinPath hDirectory hName]
    rintro ⟨before, hBefore⟩
    -- The slash at the end would be the last character of the name.
    obtain hNone | ⟨stem, last, hLast⟩ := List.eq_nil_or_concat name.toList
    · exact hName.ne_empty (by simpa using hNone)
    · rw [List.concat_eq_append] at hLast
      rw [hLast, ← List.append_assoc] at hBefore
      have hSame : last = '/' := List.singleton_inj.1 (List.append_inj' hBefore rfl).2
      exact (hName.chars last (by rw [hLast]; simp)).1 hSame
  rw [strictSteps, stepsOf_joinPath hDirectory hName, if_neg hEnd, List.append_nil]

namespace Tree

variable {t t' : Tree} {place way : NodePath} {steps : List PathStep} {finding : Finding}

theorem walk_append (finding : Finding) (steps rest : List PathStep) :
    t.walk finding (steps ++ rest) = t.walk finding steps >>= (t.walk · rest) := by
  induction steps generalizing finding with
  | nil => cases finding <;> rfl
  | cons next more ih =>
    cases finding with
    | vacant => rfl
    | present path node =>
      cases node with
      | file => rfl
      | directory =>
        rw [List.cons_append, walk, walk]
        cases t.step path next with
        | error fault => rfl
        | ok found => exact ih found

/-- What a path is to be that leads anywhere. -/
theorem findBy_ok {stepsFor : String → List PathStep} {path : String}
    (h : t.findBy stepsFor path = .ok finding) :
    zeroChar ∉ path.toList ∧ path ≠ "" ∧
      t.walk (.present (t.origin path) .directory) (stepsFor path) = .ok finding := by
  rw [findBy] at h
  split at h
  · cases h
  split at h
  · cases h
  split at h
  · cases h
  · next hZero _ hSome => exact ⟨by simpa using hZero, by simpa using hSome, h⟩

/-- A directory that is found is found by its steps alone, whether its path ends with a slash or
not. -/
theorem walk_of_find (h : t.find directory = .ok (.present place .directory)) :
    t.walk (.present (t.origin directory) .directory) (stepsOf directory)
      = .ok (.present place .directory) := by
  obtain ⟨-, -, hWalk⟩ := findBy_ok h
  rw [strictSteps] at hWalk
  split at hWalk
  · rw [walk_append] at hWalk
    cases hFirst : t.walk (.present (t.origin directory) .directory) (stepsOf directory) with
    | error fault =>
      rw [hFirst] at hWalk
      cases hWalk
    | ok found =>
      rw [hFirst] at hWalk
      -- The slash at the end is a step from a directory to itself.
      cases found with
      | vacant => cases hWalk
      | present path node =>
        cases node with
        | file => cases hWalk
        | directory => exact hWalk
  · rwa [List.append_nil] at hWalk

theorem origin_joinPath (hDirectory : directory ≠ "") (hName : IsFileName name) :
    t.origin (joinPath directory name) = t.origin directory := by
  have hStart : (joinPath directory name).startsWith "/" = directory.startsWith "/" := by
    rw [Bool.eq_iff_iff, String.startsWith_string_iff, String.startsWith_string_iff,
      toList_joinPath hDirectory hName, List.append_assoc]
    obtain ⟨c, rest, hChars⟩ := List.exists_cons_of_ne_nil
      (show directory.toList ≠ [] by simpa using hDirectory)
    rw [hChars]
    simp
  rw [origin, origin, hStart]

/-- **The way of a name below a directory** is that of the directory, and the name. -/
theorem wayOf_joinPath (t : Tree) (directory : String) (hName : IsFileName name) :
    t.wayOf (joinPath directory name) = t.wayOf directory ++ [name] := by
  by_cases hDirectory : directory = ""
  · -- Below the empty path a name stands alone, and starts in the working directory.
    have hAlone : joinPath directory name = name := by
      rw [hDirectory, joinPath, hName.startsWith_slash]
      exact String.empty_append
    have hSteps : stepsOf name = [.down name] := hName.stepsOfChars
    rw [hAlone, wayOf, hSteps, origin, hName.startsWith_slash, hDirectory]
    rfl
  · rw [wayOf, stepsOf_joinPath hDirectory hName, origin_joinPath hDirectory hName,
      List.foldl_append]
    rfl

/-- What is found in a place: a node, or that there is none. -/
def foundAt (t : Tree) (path : NodePath) : Finding :=
  match t.node? path with
  | some node => .present path node
  | none => .vacant path

theorem walk_down_single (hName : IsFileName name) :
    t.walk (.present place .directory) [.down name] = .ok (t.foundAt (place ++ [name])) := by
  rw [walk, step, if_neg (Nat.not_lt.2 hName.size_le), foundAt]
  dsimp only [PathStep.after]
  cases t.node? (place ++ [name]) <;> rfl

/-- **Where a name below a directory leads**: to what stands in its place, or to that place, unless
the path has too many bytes. -/
theorem find_joinPath (h : t.find directory = .ok (.present place .directory))
    (hName : IsFileName name) : t.find (joinPath directory name) =
      if longestPath < (joinPath directory name).utf8ByteSize then .error .tooLong
      else .ok (t.foundAt (place ++ [name])) := by
  obtain ⟨hZero, hSome, -⟩ := findBy_ok h
  have hChars := contains_zeroChar_joinPath hZero hSome hName
  have hEmpty : (joinPath directory name).isEmpty = false := by
    rw [← Bool.not_eq_true, String.isEmpty_iff, ← String.toList_inj, toList_joinPath hSome hName]
    simp [hSome]
  rw [find, findBy, if_neg (by rw [hChars]; exact Bool.false_ne_true)]
  by_cases hLong : longestPath < (joinPath directory name).utf8ByteSize
  · rw [if_pos hLong, if_pos hLong]
  rw [if_neg hLong, if_neg hLong, if_neg (by rw [hEmpty]; exact Bool.false_ne_true),
    strictSteps_joinPath hSome hName, origin_joinPath hSome hName, walk_append, walk_of_find h]
  exact walk_down_single hName

/-- A step leads to where its text tells. -/
theorem step_present {next : PathStep} {path : NodePath} {node : Node}
    (h : t.step way next = .ok (.present path node)) : path = next.after way := by
  cases next with
  | stay =>
    cases h
    rfl
  | up =>
    cases h
    rfl
  | down name =>
    rw [step] at h
    split at h
    · cases h
    · split at h <;> cases h
      rfl

/-- The steps from a directory to a directory, taken one by one: each leads to a directory. -/
theorem walk_cons {next : PathStep} {rest : List PathStep}
    (h : t.walk (.present way .directory) (next :: rest) = .ok (.present place .directory)) :
    t.step way next = .ok (.present (next.after way) .directory) ∧
      t.walk (.present (next.after way) .directory) rest = .ok (.present place .directory) := by
  rw [walk] at h
  cases hStep : t.step way next with
  | error fault =>
    rw [hStep] at h
    cases h
  | ok found =>
    rw [hStep] at h
    cases found with
    | vacant => cases rest <;> cases h
    | present path node =>
      obtain rfl := step_present hStep
      cases node with
      | directory => exact ⟨rfl, h⟩
      | file => cases rest <;> cases h

/-- A directory is where its steps lead by their text. -/
theorem foldl_after_of_walk
    (h : t.walk (.present way .directory) steps = .ok (.present place .directory)) :
    steps.foldl PathStep.after way = place := by
  induction steps generalizing way with
  | nil =>
    cases h
    rfl
  | cons next rest ih => exact ih (walk_cons h).2

theorem foldl_after_of_settle (h : steps.foldlM t.settleStep? way = some place) :
    steps.foldl PathStep.after way = place := by
  induction steps generalizing way with
  | nil =>
    cases h
    rfl
  | cons next rest ih =>
    rw [List.foldlM_cons, Option.bind_eq_bind, Option.bind_eq_some_iff] at h
    obtain ⟨between, hStep, hRest⟩ := h
    have hAfter : between = next.after way := by
      cases next with
      | stay => exact (Option.some.inj hStep).symm
      | up => exact (Option.some.inj hStep).symm
      | down name =>
        rw [settleStep?] at hStep
        split at hStep
        · exact (Option.some.inj hStep).symm
        · cases hStep
    rw [List.foldl_cons, ← hAfter]
    exact ih hRest

/-- **Where a shard has its file** whose path is that of a name below a directory, if nothing is in
the way. -/
theorem settle?_joinPath (h : t.find directory = .ok (.present place .directory))
    (hName : IsFileName name) (hSettle : t.settle? (joinPath directory name) = some way) :
    way = place ++ [name] := by
  obtain ⟨-, hSome, -⟩ := findBy_ok h
  rw [settle?, Option.bind_eq_bind, Option.bind_eq_some_iff] at hSettle
  obtain ⟨settled, hSteps, hRest⟩ := hSettle
  have hWay : settled = way := by
    rw [Option.bind_eq_bind, Option.bind_eq_some_iff] at hRest
    obtain ⟨-, -, hSame⟩ := hRest
    exact Option.some.inj hSame
  subst hWay
  rw [stepsOf_joinPath hSome hName, origin_joinPath hSome hName] at hSteps
  rw [← foldl_after_of_settle hSteps, List.foldl_append, foldl_after_of_walk (walk_of_find h)]
  rfl

theorem KeepsDirectories.walk (hKeeps : KeepsDirectories t t')
    (h : t.walk (.present way .directory) steps = .ok (.present place .directory)) :
    t'.walk (.present way .directory) steps = .ok (.present place .directory) := by
  induction steps generalizing way with
  | nil => exact h
  | cons next rest ih =>
    obtain ⟨hStep, hRest⟩ := walk_cons h
    -- Each step ends at a directory of `t`, which is one of `t'` as well.
    have hStep' : t'.step way next = .ok (.present (next.after way) .directory) := by
      cases next with
      | stay => rfl
      | up => rfl
      | down name =>
        rw [step] at hStep ⊢
        split at hStep
        · cases hStep
        · next hShort =>
          rw [if_neg hShort]
          cases hNode : t.node? (PathStep.after way (.down name)) with
          | none =>
            rw [hNode] at hStep
            cases hStep
          | some node =>
            rw [hNode] at hStep
            cases hStep
            rw [hKeeps.directories hNode]
    rw [Tree.walk, hStep']
    exact ih hRest

/-- A directory is found where it was. -/
theorem KeepsDirectories.find (hKeeps : KeepsDirectories t t')
    (h : t.find directory = .ok (.present place .directory)) :
    t'.find directory = .ok (.present place .directory) := by
  obtain ⟨-, -, hWalk⟩ := findBy_ok h
  have hOrigin : t'.origin directory = t.origin directory := by
    rw [origin, origin, hKeeps.home]
  rw [Tree.find, findBy] at h ⊢
  rw [hWalk] at h
  rw [hOrigin, hKeeps.walk hWalk]
  exact h

/-- **Creating a directory** that is there already changes nothing. -/
theorem createDirectories_of_find (h : t.find directory = .ok (.present place .directory)) :
    t.createDirectories directory = (.ok (), t) := by
  have hSteps := walk_of_find h
  obtain ⟨-, hSome, hWalk⟩ := findBy_ok h
  have hEmpty : directory.isEmpty = false := by simpa using hSome
  have hPresent : t.present? directory = some .directory := by rw [present?, h]
  have hFound : t.findBy stepsOf directory = .ok (.present place .directory) := by
    rw [find, findBy] at h
    rw [findBy, hSteps, ← hWalk, h, hWalk]
  have hOccupied : t.createDirectory directory = .error .occupied := by rw [createDirectory, hFound]
  rw [createDirectories, hEmpty, createNearest, hOccupied]
  simp [hPresent]

/-- What stands below a directory can be found by its path, unless that has too many bytes. -/
theorem present?_joinPath (h : t.find directory = .ok (.present place .directory))
    (hName : IsFileName name) :
    t.present? (joinPath directory name)
      = if longestPath < (joinPath directory name).utf8ByteSize then none
        else t.node? (place ++ [name]) := by
  rw [present?, find_joinPath h hName]
  by_cases hLong : longestPath < (joinPath directory name).utf8ByteSize
  · rw [if_pos hLong, if_pos hLong]
  · rw [if_neg hLong, if_neg hLong, foundAt]
    cases t.node? (place ++ [name]) <;> rfl

/-- **Renaming a file** below a directory to a free name that is not longer moves it, unless the
path has too many bytes. -/
theorem rename_joinPath {target : String} {content : Content}
    (h : t.find directory = .ok (.present place .directory))
    (hName : IsFileName name) (hTarget : IsFileName target)
    (hSize : target.utf8ByteSize ≤ name.utf8ByteSize) (hApart : name ≠ target)
    (hNode : t.node? (place ++ [name]) = some (.file content))
    (hFree : t.node? (place ++ [target]) = none) :
    t.rename (joinPath directory name) (joinPath directory target)
      = if longestPath < (joinPath directory name).utf8ByteSize then
          .error PathFault.tooLong.failure
        else .ok (t.move (place ++ [name]) (place ++ [target])) := by
  obtain ⟨-, hSome, -⟩ := findBy_ok h
  rw [rename, find_joinPath h hName, find_joinPath h hTarget, foundAt, foundAt, hNode, hFree]
  by_cases hLong : longestPath < (joinPath directory name).utf8ByteSize
  · rw [if_pos hLong, if_pos hLong]
  · have hShort : ¬ longestPath < (joinPath directory target).utf8ByteSize := by
      rw [utf8ByteSize_joinPath hSome hName] at hLong
      rw [utf8ByteSize_joinPath hSome hTarget]
      omega
    have hOther : place ++ [name] ≠ place ++ [target] := fun hSame =>
      hApart (List.singleton_inj.1 (List.append_cancel_left hSame))
    rw [if_neg hLong, if_neg hShort, if_neg hLong]
    simp [hOther]

end Tree
end SwapArchive
