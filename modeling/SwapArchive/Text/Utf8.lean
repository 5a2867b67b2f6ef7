/-!
# UTF-8

A character is one to four bytes. The first byte tells how many follow, and every following byte
carries six bits. Only the shortest form of a character is its encoding, and code points that are
no characters have none.
-/

namespace SwapArchive.Text

/-- **Bytes of a character**. -/
def encodeChar (c : Char) : List UInt8 :=
  let n := c.toNat
  if n < 0x80 then [UInt8.ofNat n]
  else if n < 0x800 then [UInt8.ofNat (0xC0 + n / 64), UInt8.ofNat (0x80 + n % 64)]
  else if n < 0x10000 then
    [UInt8.ofNat (0xE0 + n / 4096), UInt8.ofNat (0x80 + n / 64 % 64), UInt8.ofNat (0x80 + n % 64)]
  else
    [UInt8.ofNat (0xF0 + n / 262144), UInt8.ofNat (0x80 + n / 4096 % 64),
      UInt8.ofNat (0x80 + n / 64 % 64), UInt8.ofNat (0x80 + n % 64)]

def encode (s : String) : List UInt8 := s.toList.flatMap encodeChar

/-- The six bits of a byte that follows another one. -/
def followingBits? (b : UInt8) : Option Nat :=
  if 0x80 ≤ b.toNat ∧ b.toNat < 0xC0 then some (b.toNat - 0x80) else none

/-- A code point that needs at least the given size, if it is a character. -/
def charOf? (least n : Nat) : Option Char :=
  if least ≤ n ∧ n.isValidChar then some (Char.ofNat n) else none

/-- **Character at the front**, with the bytes after it; nothing if no character is encoded
there. -/
def decodeChar? : List UInt8 → Option (Char × List UInt8)
  | [] => none
  | b :: rest =>
    let n := b.toNat
    if n < 0x80 then (charOf? 0 n).map (·, rest)
    -- A byte that follows another one cannot come first.
    else if n < 0xC0 then none
    else if n < 0xE0 then
      match rest with
      | b₁ :: rest => do
        let x ← followingBits? b₁
        (charOf? 0x80 ((n - 0xC0) * 64 + x)).map (·, rest)
      | _ => none
    else if n < 0xF0 then
      match rest with
      | b₁ :: b₂ :: rest => do
        let x ← followingBits? b₁
        let y ← followingBits? b₂
        (charOf? 0x800 ((n - 0xE0) * 4096 + x * 64 + y)).map (·, rest)
      | _ => none
    else if n < 0xF8 then
      match rest with
      | b₁ :: b₂ :: b₃ :: rest => do
        let x ← followingBits? b₁
        let y ← followingBits? b₂
        let z ← followingBits? b₃
        (charOf? 0x10000 ((n - 0xF0) * 262144 + x * 4096 + y * 64 + z)).map (·, rest)
      | _ => none
    else none

/-- The characters of a list of bytes, `count` of them at most; nothing if some byte belongs to no
character. -/
def decodeChars? : (count : Nat) → List UInt8 → Option (List Char)
  | _, [] => some []
  | 0, _ :: _ => none
  | count + 1, bytes => do
    let (c, rest) ← decodeChar? bytes
    let cs ← decodeChars? count rest
    return c :: cs

/-- The text that the bytes encode, if they encode one. -/
def decode? (bytes : List UInt8) : Option String :=
  (decodeChars? bytes.length bytes).map String.ofList

/-- The numbers of the second bytes that may follow a first byte. -/
def secondBytes (first : Nat) : Nat × Nat :=
  if first == 0xE0 then (0xA0, 0xBF)
  else if first == 0xED then (0x80, 0x9F)
  else if first == 0xF0 then (0x90, 0xBF)
  else if first == 0xF4 then (0x80, 0x8F)
  else (0x80, 0xBF)

/-- How many bytes at the front are the start of a character that is cut short: as many as a
character could go on from, and at least one. -/
def brokenLength : List UInt8 → Nat
  | first :: second :: rest =>
    let (least, greatest) := secondBytes first.toNat
    let follows (b : UInt8) (least greatest : Nat) : Bool := least ≤ b.toNat && b.toNat ≤ greatest
    if follows first 0xE0 0xEF && follows second least greatest then 2
    else if follows first 0xF0 0xF4 && follows second least greatest then
      match rest with
      | third :: _ => if follows third 0x80 0xBF then 3 else 2
      | [] => 2
    else 1
  | _ => 1

/-- The character that stands for bytes which encode none. -/
def mendingChar : Char := '\uFFFD'

/-- The characters of a list of bytes, `count` of them at most, with a mark for the bytes that
encode none. -/
def decodeMendedChars : (count : Nat) → List UInt8 → List Char
  | _, [] => []
  | 0, _ => []
  | count + 1, bytes =>
    match decodeChar? bytes with
    | some (c, rest) => c :: decodeMendedChars count rest
    | none => mendingChar :: decodeMendedChars count (bytes.drop (brokenLength bytes))

/-- **Mended text**: the text of bytes, with a mark in place of those that encode no character. -/
def decodeMended (bytes : List UInt8) : String :=
  String.ofList (decodeMendedChars bytes.length bytes)

end SwapArchive.Text
