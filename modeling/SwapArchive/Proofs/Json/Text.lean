import SwapArchive.Json.Text
import SwapArchive.Proofs.Text.Utf8

/-!
# Reading written texts

A written text is read back, whatever follows it. Every character of the text is read in one item,
written as itself or as an escape.
-/

namespace SwapArchive.Json

open Text (encodeChar)

variable {α β : Type} {r : Reader α} {cs ds : List Char} {a : α} {c : Char} {b : UInt8}
  {rest : List UInt8} {line column items : Nat} {limits : Limits} {s : String}

def bytesOf (cs : List Char) : List UInt8 := cs.flatMap encodeChar

theorem bytesOf_append : bytesOf (cs ++ ds) = bytesOf cs ++ bytesOf ds := List.flatMap_append

theorem bytesOf_singleton : bytesOf [c] = encodeChar c := List.append_nil _

theorem bytesOf_cons : bytesOf (c :: cs) = encodeChar c ++ bytesOf cs := List.flatMap_cons

theorem length_le_bytesOf (cs : List Char) : cs.length ≤ (bytesOf cs).length := by
  induction cs with
  | nil => simp
  | cons c cs ih =>
    obtain ⟨b, rest, hBytes, -⟩ := Text.exists_encodeChar c
    rw [bytesOf_cons, hBytes]
    simp only [List.length_cons, List.cons_append, List.length_append]
    omega

/-- **A reader reads a value** from characters at the front of a document, and leaves what follows
them. -/
def Reads (r : Reader α) (cs : List Char) (a : α) : Prop := ∀ rest line column, ∃ line' column',
  r ⟨bytesOf cs ++ rest, line, column⟩ = .ok (a, ⟨rest, line', column'⟩)

theorem bind_of_ok {f : α → Reader β} {k k' : Cursor} (h : r k = .ok (a, k')) :
    (r >>= f) k = f a k' := by
  show Except.bind (r k) (fun p => f p.1 p.2) = f a k'
  rw [h]
  rfl

theorem Reads.bind {f : α → Reader β} {x : β} (h : Reads r cs a) (hNext : Reads (f a) ds x) :
    Reads (r >>= f) (cs ++ ds) x := by
  intro rest line column
  obtain ⟨line', column', hFirst⟩ := h (bytesOf ds ++ rest) line column
  rw [bytesOf_append, List.append_assoc, bind_of_ok hFirst]
  exact hNext rest line' column'

theorem Reads.pure : Reads (Pure.pure a) [] a := fun _ _ _ => ⟨_, _, rfl⟩

theorem exists_advance (b : UInt8) (rest : List UInt8) (line column : Nat) : ∃ line' column',
    Cursor.advance ⟨b :: rest, line, column⟩ = ⟨rest, line', column'⟩ := by
  by_cases hLine : b = 10
  · exact ⟨line + 1, 0, if_pos hLine⟩
  · exact ⟨line, column + 1, if_neg hLine⟩

theorem toNat_hexDigit {n : Nat} (h : n < 16) : (Text.hexDigit n).toNat < 128 := by
  have hAll : ∀ m ∈ List.range 16, (Text.hexDigit m).toNat < 128 := by decide
  exact hAll n (List.mem_range.2 h)

/-- The digits of an escape by number. -/
theorem hexNumber?_written {high low : Nat} (hHigh : high < 16) (hLow : low < 16) :
    hexNumber? [48, 48, UInt8.ofNat (Text.hexDigit high).toNat,
      UInt8.ofNat (Text.hexDigit low).toNat] = some (16 * high + low) := by
  have hZero : Text.hexValue? (Char.ofUInt8 48) = some 0 := by decide
  simp only [hexNumber?, List.foldlM_cons, List.foldlM_nil, hZero, Text.ofUInt8_byte,
    toNat_hexDigit, hHigh, hLow, Text.hexValue?_hexDigit, Option.map_some, Option.bind_eq_bind,
    Option.bind_some, Option.pure_def]
  congr 1
  omega

theorem exists_readHexNumber {b₁ b₂ b₃ b₄ : UInt8} {n : Nat} (rest : List UInt8)
    (line column : Nat) (h : hexNumber? [b₁, b₂, b₃, b₄] = some n) : ∃ line' column',
    readHexNumber ⟨b₁ :: b₂ :: b₃ :: b₄ :: rest, line, column⟩
      = .ok (n, ⟨rest, line', column'⟩) := by
  obtain ⟨line₁, column₁, h₁⟩ := exists_advance b₁ (b₂ :: b₃ :: b₄ :: rest) line column
  obtain ⟨line₂, column₂, h₂⟩ := exists_advance b₂ (b₃ :: b₄ :: rest) line₁ column₁
  obtain ⟨line₃, column₃, h₃⟩ := exists_advance b₃ (b₄ :: rest) line₂ column₂
  obtain ⟨line₄, column₄, h₄⟩ := exists_advance b₄ rest line₃ column₃
  refine ⟨line₄, column₄, ?_⟩
  simp only [readHexNumber, h, Cursor.advanceBy, h₁, h₂, h₃, h₄]

/-- An escape by number of a character below 32. -/
theorem reads_numbered (h : c.toNat < 32) :
    Reads readEscape ['u', '0', '0', Text.hexDigit (c.toNat / 16), Text.hexDigit (c.toNat % 16)]
      c := by
  have hHigh : c.toNat / 16 < 16 := by omega
  have hLow : c.toNat % 16 < 16 := by omega
  intro rest line column
  have hNumber := hexNumber?_written hHigh hLow
  rw [show 16 * (c.toNat / 16) + c.toNat % 16 = c.toNat by omega] at hNumber
  -- Below 32 nothing is half of a surrogate pair, so the four digits are the whole escape.
  have hSurrogate : isLowSurrogate c.toNat = false ∧ isHighSurrogate c.toNat = false := by
    simp only [isLowSurrogate, isHighSurrogate, Bool.and_eq_false_iff, decide_eq_false_iff_not]
    omega
  have hBytes : bytesOf ['u', '0', '0', Text.hexDigit (c.toNat / 16), Text.hexDigit (c.toNat % 16)]
      = [117, 48, 48, UInt8.ofNat (Text.hexDigit (c.toNat / 16)).toNat,
        UInt8.ofNat (Text.hexDigit (c.toNat % 16)).toNat] := by
    simp only [bytesOf, List.flatMap_cons, List.flatMap_nil,
      Text.encodeChar_of_ascii (toNat_hexDigit hHigh),
      Text.encodeChar_of_ascii (toNat_hexDigit hLow)]
    rfl
  obtain ⟨line', column', hDigits⟩ := exists_readHexNumber rest line (column + 1) hNumber
  refine ⟨line', column', ?_⟩
  rw [hBytes]
  show readNumberedChar ⟨_, line, column + 1⟩ = _
  rw [readNumberedChar]
  refine (bind_of_ok hDigits).trans ?_
  simp only [hSurrogate, Bool.not_false, if_true, Bool.false_eq_true, if_false, Char.ofNat_toNat]
  rfl

/-- A character is written as an escape that is read back, or as itself. -/
theorem writeChar_cases (c : Char) :
    (∃ code, writeChar c = '\\' :: code ∧ Reads readEscape code c) ∨
      (writeChar c = [c] ∧ c ≠ '"' ∧ c ≠ '\\' ∧ 32 ≤ c.toNat) := by
  unfold writeChar
  split
  · exact .inl ⟨_, rfl, fun _ _ _ => ⟨_, _, rfl⟩⟩
  · exact .inl ⟨_, rfl, fun _ _ _ => ⟨_, _, rfl⟩⟩
  · exact .inl ⟨_, rfl, fun _ _ _ => ⟨_, _, rfl⟩⟩
  · exact .inl ⟨_, rfl, fun _ _ _ => ⟨_, _, rfl⟩⟩
  · exact .inl ⟨_, rfl, fun _ _ _ => ⟨_, _, rfl⟩⟩
  · exact .inl ⟨_, rfl, fun _ _ _ => ⟨_, _, rfl⟩⟩
  · exact .inl ⟨_, rfl, fun _ _ _ => ⟨_, _, rfl⟩⟩
  · next hQuote hSlash _ _ _ _ _ =>
    split
    · next hLow => exact .inl ⟨_, rfl, reads_numbered hLow⟩
    · next hHigh => exact .inr ⟨rfl, hQuote, hSlash, Nat.le_of_not_lt hHigh⟩

/-- An escape is passed as one item. -/
theorem readTextFrom_escape {code : List Char} {k : Cursor} (items : Nat) (read : List Char)
    (hRead : readEscape ⟨bytesOf code ++ rest, line, column + 1⟩ = .ok (c, k)) :
    readTextFrom (items + 1) read none ⟨bytesOf ('\\' :: code) ++ rest, line, column⟩
      = readTextFrom items (c :: read) none k := by
  have hHead : Cursor.head? ⟨bytesOf ('\\' :: code) ++ rest, line, column⟩ = some '\\' := rfl
  have hAdvance : Cursor.advance ⟨bytesOf ('\\' :: code) ++ rest, line, column⟩
      = ⟨bytesOf code ++ rest, line, column + 1⟩ := rfl
  simp only [readTextFrom, hHead, hAdvance, hRead, Option.map_none]

/-- A character that is written as itself is passed as one item. -/
theorem exists_readTextFrom (items : Nat) (read : List Char) (rest : List UInt8)
    (line column : Nat) (hQuote : c ≠ '"') (hSlash : c ≠ '\\') (hHigh : 32 ≤ c.toNat) :
    ∃ column', readTextFrom (items + 1) read none ⟨encodeChar c ++ rest, line, column⟩
        = readTextFrom items (c :: read) none ⟨rest, line, column'⟩ := by
  obtain ⟨b, others, hBytes, hFirst⟩ := Text.exists_encodeChar c
  have hPlain : Char.ofUInt8 b ≠ '"' ∧ Char.ofUInt8 b ≠ '\\' ∧ 32 ≤ (Char.ofUInt8 b).toNat := by
    rcases hFirst with hSame | ⟨-, hWide⟩
    · rw [hSame]
      exact ⟨hQuote, hSlash, hHigh⟩
    · refine ⟨?_, ?_, by omega⟩
      all_goals
        intro hSame
        rw [hSame] at hWide
        exact absurd hWide (by decide)
  -- The first byte decides how the reader goes on.
  have hHead : Cursor.head? ⟨encodeChar c ++ rest, line, column⟩ = some (Char.ofUInt8 b) := by
    rw [hBytes]
    rfl
  refine ⟨column + (encodeChar c).length, ?_⟩
  rw [readTextFrom]
  dsimp only
  rw [hHead]
  split
  · next hSame => cases hSame
  · next hSame => exact absurd (Option.some.inj hSame) hPlain.1
  · next hSame => exact absurd (Option.some.inj hSame) hPlain.2.1
  · next ch _ _ hSame =>
    obtain rfl := Option.some.inj hSame
    rw [if_neg (Nat.not_lt.2 hPlain.2.2), readPlain, Text.decodeChar?_encodeChar]
    rfl

/-- The characters of a written text are read one by one, up to the closing quotation mark. -/
theorem reads_written (cs read : List Char) (h : cs.length < items) :
    Reads (readTextFrom items read none) (cs.flatMap writeChar ++ ['"'])
      (String.ofList (read.reverse ++ cs)) := by
  -- The induction is on the text that is still to be read; `read` holds what was, in reverse.
  induction cs generalizing items read with
  | nil =>
    obtain ⟨items, rfl⟩ := Nat.exists_eq_add_one.2 h
    intro rest line column
    rw [List.append_nil]
    exact ⟨_, _, rfl⟩
  | cons c cs ih =>
    obtain ⟨items, rfl⟩ := Nat.exists_eq_add_one.2 (Nat.zero_lt_of_lt h)
    intro rest line column
    have hRest := ih (c :: read) (Nat.lt_of_succ_lt_succ h) rest
    rw [List.reverse_cons, List.append_assoc, List.singleton_append] at hRest
    rw [List.flatMap_cons, List.append_assoc, bytesOf_append, List.append_assoc]
    rcases writeChar_cases c with ⟨code, hCode, hEscape⟩ | ⟨hPlain, hQuote, hSlash, hHigh⟩
    · -- An escape is one item, and so is a character that is written as itself.
      obtain ⟨line', column', hRead⟩ := hEscape
        (bytesOf (cs.flatMap writeChar ++ ['"']) ++ rest) line (column + 1)
      obtain ⟨line'', column'', hThen⟩ := hRest line' column'
      refine ⟨line'', column'', ?_⟩
      rw [← hThen, hCode]
      exact readTextFrom_escape items read hRead
    · obtain ⟨column', hRead⟩ := exists_readTextFrom items read
        (bytesOf (cs.flatMap writeChar ++ ['"']) ++ rest) line column hQuote hSlash hHigh
      obtain ⟨line'', column'', hThen⟩ := hRest line column'
      refine ⟨line'', column'', ?_⟩
      rw [hPlain, bytesOf_singleton, ← hThen]
      exact hRead

/-- **A written text is read back.** -/
theorem reads_writeText (h : s.toList.length < limits.items) :
    Reads (readText limits) (writeText s) s := by
  have hRead := reads_written s.toList [] h
  rw [List.reverse_nil, List.nil_append, String.ofList_toList] at hRead
  have hSkip : Reads skip ['"'] () := fun _ _ _ => ⟨_, _, rfl⟩
  exact hSkip.bind hRead

end SwapArchive.Json
