import SwapArchive.Proofs.Json.Record

/-!
# Reading written lists

A list that has been written in compact form is read item after item. Whether a list goes on, and
whether an optional value is there, is told by the first character of what comes next.
-/

namespace SwapArchive.Json

variable {α : Type} {c : Char} {cs : List Char} {r : Reader α} {item : Limits → Reader α}
  {toValue : α → Value} {as : List α} {a : α} {v : Value} {values : List Value}
  {depth items : Nat}

/-- **The first character of a value**, but for `null`: a single byte, no separator and not the end
of a list. -/
structure OpensValue (c : Char) : Prop where
  ascii : c.toNat < 128
  not_separator : isSeparator c = false
  not_end : c ≠ ']'
  not_null : c ≠ 'n'

theorem opensValue_brace : OpensValue '\x7b' := by
  constructor <;> decide

theorem opensValue_bracket : OpensValue '[' := by
  constructor <;> decide

namespace OpensValue

theorem peekToken (h : OpensValue c) (cs : List Char) (rest : List UInt8) (line column : Nat) :
    peekToken ⟨bytesOf (c :: cs) ++ rest, line, column⟩
      = .ok (some c, ⟨bytesOf (c :: cs) ++ rest, line, column⟩) := by
  have hByte := Text.ofUInt8_byte h.ascii
  rw [bytesOf_cons, Text.encodeChar_of_ascii h.ascii, List.singleton_append, List.cons_append]
  simp only [Json.peekToken, separatorsFrom, hByte, h.not_separator, Bool.false_eq_true, if_false,
    Cursor.head?, List.head?_cons, Option.map_some]

/-- An item is next, behind a comma if it is not the first one. -/
theorem exists_nextItem (h : OpensValue c) (first : Bool) (cs : List Char) (rest : List UInt8)
    (line column : Nat) : ∃ line' column',
      nextItem first
        ⟨bytesOf (if first then [] else [',']) ++ (bytesOf (c :: cs) ++ rest), line, column⟩
        = .ok (true, ⟨bytesOf (c :: cs) ++ rest, line', column'⟩) := by
  cases first with
  | true =>
    refine ⟨line, column, (bind_of_ok (h.peekToken cs rest line column)).trans ?_⟩
    dsimp only
    rw [if_neg h.not_end, if_pos rfl]
    rfl
  -- Items after the first have a comma before them.
  | false =>
    generalize hNext : bytesOf (c :: cs) ++ rest = next
    have hComma : Json.peekToken ⟨bytesOf [','] ++ next, line, column⟩
        = .ok (some ',', ⟨bytesOf [','] ++ next, line, column⟩) := rfl
    have hSkip : skip ⟨bytesOf [','] ++ next, line, column⟩
        = .ok ((), ⟨next, line, column + 1⟩) := rfl
    have hPeek := h.peekToken cs rest line (column + 1)
    rw [hNext] at hPeek
    refine ⟨line, column + 1, (bind_of_ok hComma).trans ?_⟩
    dsimp only
    rw [if_neg (by decide), if_neg (by decide), if_pos rfl]
    refine (bind_of_ok hSkip).trans ((bind_of_ok hPeek).trans ?_)
    dsimp only
    rw [if_neg h.not_end]
    rfl

end OpensValue

/-- **An optional value is read** if it does not start as `null` does. -/
theorem reads_readOptional_some (hOpens : OpensValue c) (h : Reads r (c :: cs) a) :
    Reads (readOptional r) (c :: cs) (some a) := by
  intro rest line column
  obtain ⟨line', column', hRead⟩ := h rest line column
  have hSome : (some <$> r) ⟨bytesOf (c :: cs) ++ rest, line, column⟩
      = .ok (some a, ⟨rest, line', column'⟩) := by
    rw [map_eq_pure_bind]
    exact bind_of_ok hRead
  refine ⟨line', column', (bind_of_ok (hOpens.peekToken cs rest line column)).trans ?_⟩
  refine (congrFun ?_ _).trans hSome
  split
  · next hNull => exact absurd (Option.some.inj hNull) hOpens.not_null
  · rfl

def writeFollowingItems : List Value → List Char
  | [] => []
  | v :: values => ',' :: (compactChars v ++ writeFollowingItems values)

theorem compactItems_cons :
    compactItems (v :: values) = compactChars v ++ writeFollowingItems values := by
  induction values generalizing v with
  | nil => simp [compactItems, writeFollowingItems]
  | cons next values ih =>
    rw [compactItems, ih, writeFollowingItems]
    exact List.cons_ne_nil _ _

/-- Written items are the compact forms with commas between them. -/
theorem toList_intercalate_compact (values : List Value) :
    (String.intercalate "," (values.map Value.compact)).toList = compactItems values := by
  induction values with
  | nil => rfl
  | cons v values ih =>
    cases values with
    | nil => simp [compactItems, Value.compact]
    | cons next values =>
      have hItems : compactItems (v :: next :: values)
          = compactChars v ++ (",".toList ++ compactItems (next :: values)) := by
        rw [compactItems]
        · rfl
        · exact List.cons_ne_nil _ _
      rw [List.map_cons, List.map_cons, String.intercalate_cons_cons, ← List.map_cons, hItems, ← ih]
      rw [String.toList_append, String.toList_append, List.append_assoc, Value.compact,
        String.toList_ofList]

/-- The written items of a list, or those that follow others. -/
def writeItems (first : Bool) (values : List Value) : List Char :=
  if first then compactItems values else writeFollowingItems values

theorem writeItems_cons (first : Bool) : writeItems first (v :: values)
    = (if first then [] else [',']) ++ (compactChars v ++ writeItems false values) := by
  cases first with
  | true => exact compactItems_cons
  | false => rfl

/-- **The items of a list are read**, up to its end. -/
theorem reads_readItems
    (hOpens : ∀ a ∈ as, ∃ c cs, OpensValue c ∧ compactChars (toValue a) = c :: cs)
    (hRead : ∀ a ∈ as, Reads r (compactChars (toValue a)) a) (first : Bool)
    (hItems : as.length < items) (rest : List UInt8) (line column : Nat) :
    ∃ line' column', readItems r items first
      ⟨bytesOf (writeItems first (as.map toValue)) ++ 93 :: rest, line, column⟩
        = .ok (as, ⟨93 :: rest, line', column'⟩) := by
  induction as generalizing first items line column with
  | nil =>
    obtain ⟨items, rfl⟩ := Nat.exists_eq_add_one.2 hItems
    cases first with
    | true => exact ⟨_, _, rfl⟩
    | false => exact ⟨_, _, rfl⟩
  | cons a as ih =>
    obtain ⟨items, rfl⟩ := Nat.exists_eq_add_one.2 (Nat.zero_lt_of_lt hItems)
    rw [List.forall_mem_cons] at hOpens hRead
    obtain ⟨⟨c, cs, hFirst, hChars⟩, hOpens⟩ := hOpens
    rw [List.map_cons, writeItems_cons, bytesOf_append, bytesOf_append]
    simp only [List.append_assoc]
    generalize hTail : bytesOf (writeItems false (as.map toValue)) ++ 93 :: rest = tail
    -- One step after the other: the comma, the item and the other items.
    obtain ⟨line₁, column₁, hNext⟩ := hFirst.exists_nextItem first cs tail line column
    rw [← hChars] at hNext
    obtain ⟨line₂, column₂, hItem⟩ := hRead.1 tail line₁ column₁
    obtain ⟨line₃, column₃, hThen⟩ :=
      ih hOpens hRead.2 false (Nat.lt_of_succ_lt_succ hItems) line₂ column₂
    rw [hTail] at hThen
    refine ⟨line₃, column₃, ?_⟩
    rw [readItems]
    refine (bind_of_ok hNext).trans ?_
    rw [if_pos rfl]
    exact (bind_of_ok hItem).trans ((bind_of_ok hThen).trans rfl)

/-- The items of a list are no longer than the list, and all but one of them have a comma. -/
theorem length_writeFollowingItems (values : List Value) :
    values.length ≤ (writeFollowingItems values).length ∧
      ∀ v ∈ values, (compactChars v).length ≤ (writeFollowingItems values).length := by
  induction values with
  | nil => simp
  | cons v values ih =>
    simp only [writeFollowingItems, List.length_cons, List.length_append, List.forall_mem_cons]
    refine ⟨by omega, by omega, fun other hOther => ?_⟩
    have hPart := ih.2 other hOther
    omega

theorem length_compactItems (values : List Value) :
    values.length ≤ (compactItems values).length + 1 ∧
      ∀ v ∈ values, (compactChars v).length ≤ (compactItems values).length := by
  cases values with
  | nil => simp
  | cons v values =>
    obtain ⟨hCount, hParts⟩ := length_writeFollowingItems values
    simp only [compactItems_cons, List.length_cons, List.length_append, List.forall_mem_cons]
    refine ⟨by omega, by omega, fun other hOther => ?_⟩
    have hPart := hParts other hOther
    omega

theorem length_compactChars_list :
    (compactChars (.list values)).length = (compactItems values).length + 2 := by
  simp [compactChars]

/-- **A list is read** if its items are. -/
theorem reads_readList
    (hOpens : ∀ a ∈ as, ∃ c cs, OpensValue c ∧ compactChars (toValue a) = c :: cs)
    (hRead : ∀ a ∈ as, (compactChars (toValue a)).length ≤ items →
      Reads (item ⟨depth, items⟩) (compactChars (toValue a)) a)
    (hFits : (compactChars (.list (as.map toValue))).length ≤ items) :
    Reads (readList ⟨depth + 1, items⟩ item) (compactChars (.list (as.map toValue))) as := by
  rw [length_compactChars_list] at hFits
  obtain ⟨hCount, hParts⟩ := length_compactItems (as.map toValue)
  rw [List.length_map] at hCount
  have hReadItem : ∀ a ∈ as, Reads (item ⟨depth, items⟩) (compactChars (toValue a)) a := by
    intro a ha
    have hPart := hParts _ (List.mem_map_of_mem ha)
    exact hRead a ha (by omega)
  intro rest line column
  obtain ⟨line', column', hItems⟩ := reads_readItems hOpens hReadItem true
    (show as.length < items by omega) rest line (column + 1)
  have hBytes : bytesOf (compactChars (.list (as.map toValue))) ++ rest
      = 91 :: (bytesOf (writeItems true (as.map toValue)) ++ 93 :: rest) := by
    rw [compactChars, List.cons_append, bytesOf_cons, bytesOf_append]
    simp only [List.append_assoc]
    rfl
  -- The items are read already; what is left is the bracket before them and the one behind.
  generalize bytesOf (writeItems true (as.map toValue)) ++ 93 :: rest = inside at hItems hBytes
  have hBracket : peekToken ⟨91 :: inside, line, column⟩
      = .ok (some '[', ⟨91 :: inside, line, column⟩) := rfl
  have hEnter : skip ⟨91 :: inside, line, column⟩ = .ok ((), ⟨inside, line, column + 1⟩) := rfl
  have hEnd : endList ⟨93 :: rest, line', column'⟩ = .ok ((), ⟨rest, line', column' + 1⟩) := rfl
  refine ⟨line', column' + 1, ?_⟩
  rw [hBytes]
  unfold readList
  refine (bind_of_ok hBracket).trans ?_
  dsimp only [enter]
  exact (bind_of_ok hEnter).trans ((bind_of_ok hItems).trans ((bind_of_ok hEnd).trans rfl))

end SwapArchive.Json
