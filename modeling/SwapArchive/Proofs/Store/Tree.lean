import Mathlib.Data.List.Nodup
import SwapArchive.Store.Tree

/-!
# What stands in a tree after a change

A change of a tree is a change at one place, or at two when a file is moved. Nothing else is
touched.
-/

namespace SwapArchive.Tree

variable {t t' t'' : Tree} {path place q source target : NodePath} {node : Node}
  {content content' : Content}

@[simp] theorem home_put : (t.put path node).home = t.home := rfl

@[simp] theorem home_erase : (t.erase path).home = t.home := rfl

@[simp] theorem home_move : (t.move source target).home = t.home := rfl

theorem node?_eq_lookup (h : path.isPrefixOf t.home = false) :
    t.node? path = t.nodes.lookup path := by
  rw [node?, h]
  rfl

/-- What is not a directory lies outside of the way to the working directory. -/
theorem outside_home (h : t.node? path ≠ some .directory) : path.isPrefixOf t.home = false := by
  rw [← Bool.not_eq_true]
  intro hHome
  rw [node?, if_pos hHome] at h
  exact h rfl

private theorem lookup_first {p : NodePath} {rest : List (NodePath × Node)} :
    ((p, node) :: rest).lookup q = if q = p then some node else rest.lookup q := by
  by_cases hSame : q = p
  · simp [hSame]
  · rw [List.lookup_cons, beq_false_of_ne hSame, if_neg hSame]

private theorem lookup_filter (nodes : List (NodePath × Node)) :
    (nodes.filter (·.1 != path)).lookup q = if q = path then none else nodes.lookup q := by
  induction nodes with
  | nil => simp
  | cons entry rest ih =>
    obtain ⟨p, node⟩ := entry
    by_cases hPath : p = path
    · rw [List.filter_cons_of_neg (by simp [hPath]), ih, lookup_first, hPath]
      split <;> rfl
    · rw [List.filter_cons_of_pos (by simp [hPath]), lookup_first, lookup_first, ih]
      by_cases hQ : q = p
      · rw [if_pos hQ, if_pos hQ, if_neg (hQ ▸ hPath)]
      · rw [if_neg hQ, if_neg hQ]

theorem lookup_erase : (t.erase path).nodes.lookup q
    = if q = path then none else t.nodes.lookup q := lookup_filter t.nodes

/-- Taking a node away leaves nothing in its place. -/
theorem node?_erase (h : path.isPrefixOf t.home = false) :
    (t.erase path).node? q = if q = path then none else t.node? q := by
  rw [node?, lookup_erase]
  by_cases hQ : q = path
  · rw [if_pos hQ, if_pos hQ, home_erase, hQ, h]
    rfl
  · rw [if_neg hQ, if_neg hQ]
    rfl

/-- **Putting a node** changes what stands in its place. -/
theorem node?_put (h : path.isPrefixOf t.home = false) :
    (t.put path node).node? q = if q = path then some node else t.node? q := by
  have hLookup : (t.put path node).nodes.lookup q
      = if q = path then some node else t.nodes.lookup q := by
    rw [put, List.lookup_append, lookup_erase, lookup_first]
    split <;> simp
  rw [node?, hLookup]
  by_cases hQ : q = path
  · rw [if_pos hQ, if_pos hQ, home_put, hQ, h]
    rfl
  · rw [if_neg hQ, if_neg hQ]
    rfl

private theorem lookup_moved (source target : NodePath) (nodes : List (NodePath × Node))
    (hDeep : ∀ entry ∈ nodes, source.isPrefixOf entry.1 = true → entry.1 = source)
    (hTarget : ∀ entry ∈ nodes, entry.1 ≠ target) :
    (nodes.map fun (path, node) =>
        (if source.isPrefixOf path then target ++ path.drop source.length else path, node)).lookup q
      = if q = target then nodes.lookup source else if q = source then none
        else nodes.lookup q := by
  induction nodes with
  | nil => simp
  | cons entry rest ih =>
    obtain ⟨p, node⟩ := entry
    rw [List.forall_mem_cons] at hDeep hTarget
    rw [List.map_cons, lookup_first, lookup_first, lookup_first, ih hDeep.2 hTarget.2]
    -- Nothing but the source itself is moved, as nothing stands below it.
    by_cases hMoved : source.isPrefixOf p = true
    · obtain rfl : p = source := hDeep.1 hMoved
      rw [if_pos hMoved, List.drop_length, List.append_nil, if_pos rfl]
      split
      · rfl
      · split <;> rfl
    · have hStays : source ≠ p := by
        rintro rfl
        exact hMoved (List.isPrefixOf_iff_prefix.2 (List.prefix_refl _))
      rw [if_neg hMoved, if_neg hStays]
      by_cases hQ : q = p
      · subst hQ
        rw [if_pos rfl, if_pos rfl, if_neg hTarget.1, if_neg hStays.symm]
      · rw [if_neg hQ, if_neg hQ]

/-- **Moving a node** that has nothing below it puts it at another place. -/
theorem node?_move (hSource : source.isPrefixOf t.home = false)
    (hTarget : target.isPrefixOf t.home = false) (hApart : source ≠ target)
    (hDeep : ∀ p, source <+: p → p ≠ source → t.node? p = none) :
    (t.move source target).node? q
      = if q = target then t.node? source else if q = source then none else t.node? q := by
  -- Nothing lies below the source, so that one entry is moved and no other.
  have hNodes : ∀ entry ∈ t.nodes, source.isPrefixOf entry.1 = true → entry.1 = source := by
    intro entry hEntry hBelow
    refine Decidable.byContradiction fun hOther => ?_
    have hNone := hDeep entry.1 (List.isPrefixOf_iff_prefix.1 hBelow) hOther
    have hOut : entry.1.isPrefixOf t.home = false := outside_home (by simp [hNone])
    rw [node?_eq_lookup hOut, List.lookup_eq_none_iff] at hNone
    simpa using hNone entry hEntry
  have hLookup : (t.move source target).nodes.lookup q = if q = target then t.nodes.lookup source
      else if q = source then none else t.nodes.lookup q := by
    have hErased := lookup_moved (q := q) source target (t.erase target).nodes
      (fun entry hEntry => hNodes entry (List.mem_filter.1 hEntry).1)
      (fun entry hEntry => by simpa using (List.mem_filter.1 hEntry).2)
    rw [lookup_erase, lookup_erase, if_neg hApart] at hErased
    rw [move]
    refine hErased.trans ?_
    split
    · rfl
    · rfl
  rw [node?, hLookup]
  by_cases hQ : q = target
  · rw [if_pos hQ, if_pos hQ, home_move, hQ, hTarget, node?_eq_lookup hSource]
    rfl
  · rw [if_neg hQ, if_neg hQ]
    by_cases hQ' : q = source
    · rw [if_pos hQ', if_pos hQ', home_move, hQ', hSource]
      rfl
    · rw [if_neg hQ', if_neg hQ']
      rfl

/-- **Single**: a place that is listed once at most. -/
def IsSingle (t : Tree) (path : NodePath) : Prop := (t.nodes.map (·.1)).count path ≤ 1

theorem isSingle_of_free (h : t.node? path = none) : t.IsSingle path := by
  have hOut : path.isPrefixOf t.home = false := outside_home (by simp [h])
  rw [node?_eq_lookup hOut, List.lookup_eq_none_iff] at h
  refine Nat.le_trans (Nat.le_of_eq (List.count_eq_zero.2 fun hMem => ?_)) (Nat.zero_le 1)
  obtain ⟨entry, hEntry, rfl⟩ := List.mem_map.1 hMem
  simpa using h entry hEntry

private theorem count_erase : ((t.erase path).nodes.map (·.1)).count q
    = if q = path then 0 else (t.nodes.map (·.1)).count q := by
  have hKeys : (t.erase path).nodes.map (·.1) = (t.nodes.map (·.1)).filter (· != path) := by
    rw [List.filter_map]
    rfl
  rw [hKeys]
  split
  · next hSame =>
    subst hSame
    exact List.count_eq_zero.2 (by simp)
  · next hOther => exact List.count_filter (by simpa using hOther)

theorem IsSingle.erase (h : t.IsSingle q) : (t.erase path).IsSingle q := by
  rw [IsSingle, count_erase]
  split
  · exact Nat.zero_le 1
  · exact h

theorem IsSingle.put (h : t.IsSingle q) : (t.put path node).IsSingle q := by
  rw [IsSingle, Tree.put, List.map_append, List.count_append, count_erase]
  by_cases hSame : q = path
  · simp [hSame]
  · have hNot : ¬ path = q := fun h => hSame h.symm
    simp only [hSame, if_false, List.map_cons, List.map_nil, List.count_singleton, beq_iff_eq, hNot,
      Nat.add_zero]
    exact h

private theorem count_moved (source target : NodePath) (keys : List NodePath)
    (hDeep : ∀ p ∈ keys, source.isPrefixOf p = true → p = source) (hTarget : target ∉ keys) :
    (keys.map fun p => if source.isPrefixOf p then target ++ p.drop source.length else p).count q
      ≤ if q = target then keys.count source else keys.count q := by
  induction keys with
  | nil => simp
  | cons p rest ih =>
    rw [List.forall_mem_cons] at hDeep
    rw [List.mem_cons, not_or] at hTarget
    have hRest := ih hDeep.2 hTarget.2
    rw [List.map_cons]
    -- A key below the source is the source itself, and becomes the target; the others stay.
    by_cases hMoved : source.isPrefixOf p = true
    · obtain rfl : p = source := hDeep.1 hMoved
      rw [if_pos hMoved, List.drop_length, List.append_nil]
      by_cases hQ : q = target
      · subst hQ
        rw [if_pos rfl] at hRest ⊢
        rw [List.count_cons_self, List.count_cons_self]
        exact Nat.succ_le_succ hRest
      · rw [if_neg hQ] at hRest ⊢
        rw [List.count_cons_of_ne (fun h => hQ h.symm)]
        exact Nat.le_trans hRest List.count_le_count_cons
    · rw [if_neg hMoved]
      by_cases hQ : q = target
      · subst hQ
        rw [if_pos rfl] at hRest ⊢
        rw [List.count_cons_of_ne (fun h => hTarget.1 h.symm)]
        exact Nat.le_trans hRest List.count_le_count_cons
      · rw [if_neg hQ] at hRest ⊢
        by_cases hP : q = p
        · subst hP
          rw [List.count_cons_self, List.count_cons_self]
          exact Nat.succ_le_succ hRest
        · rw [List.count_cons_of_ne (Ne.symm hP), List.count_cons_of_ne (Ne.symm hP)]
          exact hRest

/-- A place stays single when a node is moved that has nothing below it. -/
theorem IsSingle.move (hSource : t.IsSingle source)
    (hDeep : ∀ p, source <+: p → p ≠ source → t.node? p = none) (h : t.IsSingle q) :
    (t.move source target).IsSingle q := by
  have hKeys : (t.move source target).nodes.map (·.1) = ((t.erase target).nodes.map (·.1)).map
      fun p => if source.isPrefixOf p then target ++ p.drop source.length else p := by
    rw [Tree.move, List.map_map, List.map_map]
    rfl
  have hMoved := count_moved (q := q) source target
    ((t.erase target).nodes.map (·.1))
    (fun p hp hBelow => by
      refine Decidable.byContradiction fun hOther => ?_
      have hNone := hDeep p (List.isPrefixOf_iff_prefix.1 hBelow) hOther
      rw [node?_eq_lookup (outside_home (by simp [hNone])), List.lookup_eq_none_iff] at hNone
      obtain ⟨entry, hEntry, rfl⟩ := List.mem_map.1 hp
      simpa using hNone entry (List.mem_filter.1 hEntry).1)
    (fun hMem => by
      obtain ⟨entry, hEntry, hSame⟩ := List.mem_map.1 hMem
      exact absurd hSame (by simpa using (List.mem_filter.1 hEntry).2))
  rw [IsSingle, hKeys]
  refine Nat.le_trans hMoved ?_
  split
  · exact hSource.erase
  · exact h.erase

private theorem mem_fileNames_iff {name : String} :
    name ∈ t.fileNames place ↔ ∃ content, (place ++ [name], Node.file content) ∈ t.nodes := by
  rw [fileNames, List.mem_filterMap]
  constructor
  · rintro ⟨⟨p, node⟩, hEntry, hName⟩
    dsimp only at hName
    split at hName
    · next content last hLast =>
      split at hName
      · next hPlace =>
        obtain rfl := Option.some.inj hName
        obtain ⟨front, rfl⟩ := List.getLast?_eq_some_iff.1 hLast
        rw [List.dropLast_concat] at hPlace
        exact ⟨content, hPlace ▸ hEntry⟩
      · cases hName
    · cases hName
  · rintro ⟨content, hEntry⟩
    exact ⟨_, hEntry, by simp⟩

/-- No file is named twice in a directory in which every place is single. -/
theorem nodup_fileNames (h : ∀ name, t.IsSingle (place ++ [name])) : (t.fileNames place).Nodup := by
  have hCount : ∀ name, (t.fileNames place).count name
      ≤ (t.nodes.map (·.1)).count (place ++ [name]) := by
    intro name
    rw [fileNames]
    generalize t.nodes = nodes
    -- Each time the name is listed, it takes a node of its own in that place.
    induction nodes with
    | nil => simp
    | cons entry rest ih =>
      rw [List.filterMap_cons, List.map_cons]
      split
      · exact Nat.le_trans ih List.count_le_count_cons
      · next found hFound =>
        by_cases hName : found = name
        · have hPlace : entry.1 = place ++ [name] := by
            have hMem : found ∈ Tree.fileNames ⟨[], [entry]⟩ place := by
              rw [fileNames, List.filterMap_cons, hFound]
              exact List.mem_cons_self
            obtain ⟨content, hEntry⟩ := mem_fileNames_iff.1 hMem
            rw [← List.mem_singleton.1 hEntry, hName]
          rw [hName, hPlace, List.count_cons_self, List.count_cons_self]
          exact Nat.succ_le_succ ih
        · rw [List.count_cons_of_ne hName]
          exact Nat.le_trans ih List.count_le_count_cons
  exact List.nodup_iff_count_le_one.2 fun name => Nat.le_trans (hCount name) (h name)

/-- **The names in a directory** are those of the files that stand there, where every place is
single. -/
theorem mem_fileNames {name : String} (hSingle : t.IsSingle (place ++ [name]))
    (hHome : (place ++ [name]).isPrefixOf t.home = false) :
    name ∈ t.fileNames place ↔ ∃ content, t.node? (place ++ [name]) = some (.file content) := by
  rw [mem_fileNames_iff]
  refine exists_congr fun content => ?_
  rw [node?_eq_lookup hHome]
  unfold IsSingle at hSingle
  generalize t.nodes = nodes at *
  -- Among entries of one path the look-up finds the first, and here there is one at most.
  induction nodes with
  | nil => simp
  | cons entry rest ih =>
    obtain ⟨p, node⟩ := entry
    rw [List.map_cons] at hSingle
    rw [lookup_first, List.mem_cons]
    by_cases hSame : place ++ [name] = p
    · subst hSame
      rw [List.count_cons_self] at hSingle
      have hNot : place ++ [name] ∉ rest.map (·.1) := List.count_eq_zero.1 (by omega)
      rw [if_pos rfl]
      constructor
      · rintro (hHere | hLater)
        · cases hHere
          rfl
        · exact absurd (List.mem_map_of_mem hLater) hNot
      · intro hHere
        cases hHere
        exact .inl rfl
    · rw [List.count_cons_of_ne (fun h => hSame h.symm)] at hSingle
      rw [if_neg hSame, ← ih hSingle]
      refine or_iff_right fun hHere => ?_
      cases hHere
      exact hSame rfl

/-- **A tree that keeps directories**: what is a directory in the one is a directory in the
other. -/
structure KeepsDirectories (t t' : Tree) : Prop where
  home : t'.home = t.home
  directories : ∀ {path}, t.node? path = some .directory → t'.node? path = some .directory

/-- **A tree with a file**: it differs from another one in what stands in one place. -/
structure IsWithFile (t t' : Tree) (place : NodePath) (content : Content) : Prop where
  home : t'.home = t.home
  node? : ∀ q, t'.node? q = if q = place then some (.file content) else t.node? q
  single : ∀ {q}, t.IsSingle q → t'.IsSingle q

theorem isWithFile_self (h : t.node? place = some (.file content)) :
    IsWithFile t t place content where
  home := rfl
  node? q := by
    split
    · next hSame => rw [hSame, h]
    · rfl
  single h := h

theorem isWithFile_put (h : t.node? place ≠ some .directory) :
    IsWithFile t (t.put place (.file content)) place content where
  home := rfl
  node? _ := node?_put (outside_home h)
  single h := h.put

theorem IsWithFile.trans (h : IsWithFile t t' place content)
    (h' : IsWithFile t' t'' place content') : IsWithFile t t'' place content' where
  home := h'.home.trans h.home
  node? q := by
    rw [h'.node?, h.node?]
    split <;> rfl
  single hSingle := h'.single (h.single hSingle)

theorem IsWithFile.keepsDirectories (h : IsWithFile t t' place content)
    (hFree : t.node? place ≠ some .directory) : KeepsDirectories t t' where
  home := h.home
  directories {path} hPath := by
    rw [h.node?, if_neg]
    · exact hPath
    · rintro rfl
      exact hFree hPath

/-- **A tree with a file moved** from one place to another. -/
structure IsWithMoved (t t' : Tree) (source target : NodePath) : Prop where
  home : t'.home = t.home
  node? : ∀ q, t'.node? q
    = if q = target then t.node? source else if q = source then none else t.node? q
  single : ∀ {q}, t.IsSingle source → t.IsSingle q → t'.IsSingle q

theorem isWithMoved_move (hSource : t.node? source ≠ some .directory)
    (hTarget : t.node? target ≠ some .directory) (hApart : source ≠ target)
    (hDeep : ∀ p, source <+: p → p ≠ source → t.node? p = none) :
    IsWithMoved t (t.move source target) source target where
  home := rfl
  node? _ := node?_move (outside_home hSource) (outside_home hTarget) hApart hDeep
  single hSource h := hSource.move hDeep h

theorem IsWithMoved.keepsDirectories (h : IsWithMoved t t' source target)
    (hSource : t.node? source ≠ some .directory) (hTarget : t.node? target ≠ some .directory) :
    KeepsDirectories t t' where
  home := h.home
  directories {path} hPath := by
    rw [h.node?, if_neg, if_neg]
    · exact hPath
    · rintro rfl
      exact hSource hPath
    · rintro rfl
      exact hTarget hPath

/-- A tree with nothing but these directories. -/
def ofDirectories (places : List NodePath) : Tree := ⟨[], places.map fun p => (p, .directory)⟩

/-- Nothing stands below a directory if the others are not below it. -/
theorem free_ofDirectories {places : List NodePath} (hPlace : place ≠ [])
    (hApart : ∀ q ∈ places, place <+: q → q = place) :
    ∀ p, place <+: p → p ≠ place → (ofDirectories places).node? p = none := by
  intro p hBelow hOther
  have hOutside : p.isPrefixOf ([] : NodePath) = false := by
    cases p with
    | nil => exact absurd (List.prefix_nil.1 hBelow) hPlace
    | cons name rest => rfl
  rw [node?_eq_lookup hOutside, List.lookup_eq_none_iff]
  intro entry hEntry
  obtain ⟨q, hq, rfl⟩ := List.mem_map.1 hEntry
  refine bne_iff_ne.2 ?_
  rintro rfl
  exact hOther (hApart _ hq hBelow)

end SwapArchive.Tree
