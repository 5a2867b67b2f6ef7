import SwapArchive.Json.Printer
import SwapArchive.Json.Record
import SwapArchive.Proofs.Json.Text

/-!
# Reading written records

An object that has been written in compact form is read as a record, member after member. Each
member joins the fields that have been read before it.
-/

namespace SwapArchive.Json

variable {σ α : Type} {limits : Limits} {fields : List (Field σ)} {field : Field σ}
  {s s' s'' : σ} {key text : String} {v : Value} {members : List (String × Value)}
  {r : Reader α} {a : α} {cs : List Char} {items depth : Nat}

/-- What is made of a value that has been read. -/
theorem Reads.map {β : Type} (h : Reads r cs a) (f : α → β) :
    Reads (do return f (← r)) cs (f a) := by
  rw [← List.append_nil cs]
  exact h.bind .pure

/-- A text has two characters more than its written form has at least. -/
theorem length_writeText (text : String) : text.toList.length + 2 ≤ (writeText text).length := by
  have hBody : text.toList.length ≤ (text.toList.flatMap writeChar).length := by
    induction text.toList with
    | nil => simp
    | cons c cs ih =>
      have hOne : 1 ≤ (writeChar c).length := by
        rcases writeChar_cases c with ⟨code, hCode, -⟩ | ⟨hPlain, -⟩
        · simp [hCode]
        · simp [hPlain]
      rw [List.flatMap_cons, List.length_append, List.length_cons]
      omega
  simp only [writeText, List.length_append, List.length_cons]
  omega

section Texts

variable (h : (writeText text).length ≤ limits.items)

include h

theorem reads_readText : Reads (readText limits) (writeText text) text := by
  have hLength := length_writeText text
  exact reads_writeText (by omega)

theorem reads_readString : Reads (readString limits) (writeText text) text :=
  fun rest line column => reads_readText h rest line column

theorem reads_readOptional :
    Reads (readOptional (readString limits)) (writeText text) (some text) :=
  fun rest line column => (reads_readString h).map some rest line column

theorem reads_readLoose : Reads (readLoose limits) (writeText text) (.text text) := by
  obtain ⟨depth, items⟩ := limits
  cases depth with
  | zero => exact fun rest line column => (reads_readText h).map Loose.text rest line column
  | succ depth => exact fun rest line column => (reads_readText h).map Loose.text rest line column

end Texts

/-- The value of a field with a decoder of its own. -/
theorem reads_fieldOf {name : String} {required : Bool} {get : σ → Option α} {set : σ → α → σ}
    {decoder : Limits → Reader α} (h : Reads (decoder limits) cs a) :
    Reads ((Field.of name required get set decoder).read limits s) cs (.ok (set s a)) :=
  h.map fun a => Except.ok (set s a)

/-- **Members that join a record**: each of them belongs to a field that has not been read, and is
read into it. -/
inductive Joins (limits : Limits) (fields : List (Field σ)) :
    σ → List (String × Value) → σ → Prop
  | nil {s : σ} : Joins limits fields s [] s
  | cons {s s' s'' : σ} {key : String} {v : Value} {members : List (String × Value)}
      (field : Field σ) (hField : fields.find? (·.name == key) = some field)
      (hNew : field.isGiven s = false)
      (hRead : Reads (field.read limits s) (compactChars v) (.ok s'))
      (hRest : Joins limits fields s' members s'') :
    Joins limits fields s ((key, v) :: members) s''

def writeFollowing : List (String × Value) → List Char
  | [] => []
  | (key, v) :: members =>
    ',' :: (writeText key ++ ':' :: (compactChars v ++ writeFollowing members))

theorem compactMembers_cons : compactMembers ((key, v) :: members)
    = writeText key ++ ':' :: (compactChars v ++ writeFollowing members) := by
  induction members generalizing key v with
  | nil => simp [compactMembers, writeFollowing]
  | cons member members ih =>
    obtain ⟨key', v'⟩ := member
    rw [compactMembers, ih, writeFollowing]
    · simp
    · simp

/-- The written members of an object, or those that follow others. -/
def writeMembers (first : Bool) (members : List (String × Value)) : List Char :=
  if first then compactMembers members else writeFollowing members

theorem writeMembers_cons (first : Bool) : writeMembers first ((key, v) :: members)
    = (if first then [] else [',']) ++ (writeText key ++ ([':'] ++ (compactChars v
      ++ writeMembers false members))) := by
  cases first with
  | true => exact compactMembers_cons
  | false => rfl

/-- A key is next, behind a comma if it is not the first one. -/
theorem exists_nextKey (first : Bool) (key : String) (rest : List UInt8) (line column : Nat) :
    ∃ line' column',
      nextKey first
        ⟨bytesOf (if first then [] else [',']) ++ (bytesOf (writeText key) ++ rest), line,
        column⟩ = .ok (true, ⟨bytesOf (writeText key) ++ rest, line', column'⟩) := by
  cases first with
  | true => exact ⟨_, _, rfl⟩
  | false => exact ⟨_, _, rfl⟩

/-- **The members of an object are read**, up to its end. -/
theorem Joins.reads_fields (h : Joins limits fields s members s') (first : Bool)
    (hKeys : ∀ member ∈ members, (writeText member.1).length ≤ limits.items)
    (hItems : members.length < items) (rest : List UInt8) (line column : Nat) :
    ∃ line' column', readFields limits fields items first s
      ⟨bytesOf (writeMembers first members) ++ 125 :: rest, line, column⟩
        = .ok (.ok s', ⟨125 :: rest, line', column'⟩) := by
  induction h generalizing first items line column with
  | nil =>
    obtain ⟨items, rfl⟩ := Nat.exists_eq_add_one.2 hItems
    cases first with
    | true => exact ⟨_, _, rfl⟩
    | false => exact ⟨_, _, rfl⟩
  | @cons s s' s'' key v members field hField hNew hRead hRest ih =>
    obtain ⟨items, rfl⟩ := Nat.exists_eq_add_one.2 (Nat.zero_lt_of_lt hItems)
    rw [List.forall_mem_cons] at hKeys
    rw [writeMembers_cons, bytesOf_append, bytesOf_append, bytesOf_append, bytesOf_append]
    simp only [List.append_assoc]
    generalize hTail : bytesOf (writeMembers false members) ++ 125 :: rest = tail
    -- One step after the other: the comma, the key, the colon, the value and the rest.
    obtain ⟨line₁, column₁, hNext⟩ := exists_nextKey first key
      (bytesOf [':'] ++ (bytesOf (compactChars v) ++ tail)) line column
    obtain ⟨line₂, column₂, hKey⟩ := reads_readText hKeys.1
      (bytesOf [':'] ++ (bytesOf (compactChars v) ++ tail)) line₁ column₁
    have hColon : readColon ⟨bytesOf [':'] ++ (bytesOf (compactChars v) ++ tail), line₂, column₂⟩
        = .ok ((), ⟨bytesOf (compactChars v) ++ tail, line₂, column₂ + 1⟩) := rfl
    obtain ⟨line₃, column₃, hValue⟩ := hRead tail line₂ (column₂ + 1)
    obtain ⟨line₄, column₄, hThen⟩ := ih false hKeys.2 (Nat.lt_of_succ_lt_succ hItems) line₃ column₃
    rw [hTail] at hThen
    refine ⟨line₄, column₄, ?_⟩
    rw [readFields]
    refine (bind_of_ok hNext).trans ?_
    rw [if_pos rfl]
    refine (bind_of_ok hKey).trans ?_
    simp only [hField, hNew, Bool.false_eq_true, if_false]
    refine (bind_of_ok hColon).trans ((bind_of_ok hValue).trans ?_)
    exact hThen

/-- The parts of an object are no longer than the object, and it has no more members than
characters. -/
theorem length_writeFollowing (members : List (String × Value)) :
    members.length ≤ (writeFollowing members).length ∧ ∀ member ∈ members,
      (writeText member.1).length ≤ (writeFollowing members).length ∧
      (compactChars member.2).length ≤ (writeFollowing members).length := by
  induction members with
  | nil => simp
  | cons member members ih =>
    simp only [writeFollowing, List.length_cons, List.length_append]
    refine ⟨by omega, fun other hOther => ?_⟩
    rcases List.mem_cons.1 hOther with rfl | hRest
    · omega
    · have hParts := ih.2 other hRest
      omega

theorem length_compactMembers (members : List (String × Value)) :
    members.length ≤ (compactMembers members).length ∧ ∀ member ∈ members,
      (writeText member.1).length ≤ (compactMembers members).length ∧
      (compactChars member.2).length ≤ (compactMembers members).length := by
  cases members with
  | nil => simp
  | cons member members =>
    obtain ⟨key, v⟩ := member
    have hRest := length_writeFollowing members
    simp only [compactMembers_cons, List.length_cons, List.length_append]
    refine ⟨by omega, fun other hOther => ?_⟩
    rcases List.mem_cons.1 hOther with rfl | hOther
    · dsimp only
      omega
    · have hParts := hRest.2 other hOther
      omega

theorem length_compactChars_object : (compactChars (.object members)).length
    = (compactMembers members).length + 2 := by
  simp [compactChars]

/-- **An object is read as a record** if its members join one. -/
theorem reads_readRecord {shape : Shape σ α}
    (h : Joins ⟨depth, items⟩ shape.fields shape.blank members s) (hBuild : shape.build s = .ok a)
    (hFits : (compactChars (.object members)).length ≤ items) :
    Reads (readRecord shape ⟨depth + 1, items⟩) (compactChars (.object members)) a := by
  rw [length_compactChars_object] at hFits
  obtain ⟨hCount, hParts⟩ := length_compactMembers members
  have hKeys : ∀ member ∈ members, (writeText member.1).length ≤ items := by
    intro member hMember
    have hPart := hParts member hMember
    omega
  intro rest line column
  obtain ⟨line', column', hFields⟩ := h.reads_fields true hKeys
    (show members.length < items by omega) rest line (column + 1)
  have hBytes : bytesOf (compactChars (.object members)) ++ rest
      = 123 :: (bytesOf (writeMembers true members) ++ 125 :: rest) := by
    rw [compactChars, List.cons_append, bytesOf_cons, bytesOf_append]
    simp only [List.append_assoc]
    rfl
  generalize bytesOf (writeMembers true members) ++ 125 :: rest = inside at hFields hBytes
  have hBrace : peekToken ⟨123 :: inside, line, column⟩
      = .ok (some '\x7b', ⟨123 :: inside, line, column⟩) := rfl
  have hEnter : skip ⟨123 :: inside, line, column⟩ = .ok ((), ⟨inside, line, column + 1⟩) := rfl
  have hLeave : leaveObject ⟨125 :: rest, line', column'⟩
      = .ok ((), ⟨rest, line', column' + 1⟩) := rfl
  refine ⟨line', column' + 1, ?_⟩
  rw [hBytes]
  -- One step after the other: the brace, the members, the other brace and the record.
  unfold readRecord
  refine (bind_of_ok hBrace).trans ?_
  dsimp only [enter]
  refine (bind_of_ok hEnter).trans ?_
  refine (bind_of_ok hFields).trans ?_
  refine (bind_of_ok hLeave).trans ?_
  rw [show (Except.ok s >>= shape.build) = .ok a from hBuild]
  rfl

/-- **A document is read** that holds a value and nothing else. -/
theorem readDocument_of_reads {value : Limits → Reader α}
    (h : Reads (value (.of (bytesOf cs))) cs a) : readDocument value (bytesOf cs) = .ok a := by
  obtain ⟨line, column, hRead⟩ := h [] 1 0
  rw [List.append_nil] at hRead
  rw [readDocument]
  show Except.bind ((value (.of (bytesOf cs)) >>= _) ⟨bytesOf cs, 1, 0⟩) _ = _
  rw [bind_of_ok hRead]
  rfl

end SwapArchive.Json
