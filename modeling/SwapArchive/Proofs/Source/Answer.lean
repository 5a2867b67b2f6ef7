import SwapArchive.Proofs.Fetch.Pages
import SwapArchive.Proofs.Json.Items
import SwapArchive.Proofs.Source.Page
import SwapArchive.Proofs.Swap.Json

/-!
# Answers with swaps

An answer that holds the stored forms of swaps is read as these swaps. So it is a page if all of
them are valid, and otherwise the first one that is not decides what is wrong with it. Whatever
else a source answers, a page holds valid swaps only, and what is no page is malformed.
-/

namespace SwapArchive

open Json (Limits Reads Value compactChars fits_of_mem)

variable {swaps : List Swap} {items : Nat}

namespace Response

/-- **The body of an answer** with swaps and nothing else. -/
def body (swaps : List Swap) : List UInt8 :=
  Text.encode ("\x7b\"data\":\x7b\"swaps\":[" ++ String.intercalate "," (swaps.map Swap.stored)
    ++ "]\x7d\x7d")

def listOf (swaps : List Swap) : Value := .list (swaps.map Swap.toJson)

/-- The data of an answer with swaps, as a document. -/
def dataOf (swaps : List Swap) : Value := .object [("swaps", listOf swaps)]

def valueOf (swaps : List Swap) : Value := .object [("data", dataOf swaps)]

/-- The body holds the compact form of the answer. -/
theorem body_eq (swaps : List Swap) : body swaps = Json.bytesOf (compactChars (valueOf swaps)) := by
  have hStored : swaps.map Swap.stored = (swaps.map Swap.toJson).map Value.compact := by
    rw [List.map_map]
    rfl
  have hFront : "\x7b\"data\":\x7b\"swaps\":[".toList
      = '\x7b' :: (Json.writeText "data" ++ ':' :: '\x7b' ::
        (Json.writeText "swaps" ++ [':', '['])) := rfl
  have hEnd : "]\x7d\x7d".toList = [']', '\x7d', '\x7d'] := rfl
  rw [body, Text.encode, hStored, String.toList_append, String.toList_append, hFront, hEnd,
    Json.toList_intercalate_compact, valueOf, dataOf, listOf, Json.bytesOf]
  simp only [compactChars, Json.compactMembers, List.append_assoc, List.cons_append,
    List.nil_append]

/-- The stored form of a swap is an object. -/
theorem exists_opensValue (x : Swap) :
    ∃ c cs, Json.OpensValue c ∧ compactChars x.toJson = c :: cs :=
  ⟨_, _, Json.opensValue_brace, rfl⟩

theorem reads_list (depth : Nat) (hTimed : AllTimed swaps)
    (hFits : (compactChars (listOf swaps)).length ≤ items) :
    Reads (Json.readList ⟨depth + 4, items⟩ Swap.read) (compactChars (listOf swaps)) swaps := by
  refine Json.reads_readList (fun x _ => exists_opensValue x) (fun x hx hFitsSwap => ?_) hFits
  exact x.reads (hTimed x hx) hFitsSwap

theorem reads_data (depth : Nat) (hTimed : AllTimed swaps)
    (hFits : (compactChars (dataOf swaps)).length ≤ items) :
    Reads (Json.readRecord dataShape ⟨depth + 5, items⟩) (compactChars (dataOf swaps))
      (some swaps) := by
  have hList : (compactChars (listOf swaps)).length ≤ items := fits_of_mem hFits (by simp)
  have hRead := Json.reads_readOptional_some Json.opensValue_bracket (reads_list depth hTimed hList)
  refine Json.reads_readRecord (s := some (some swaps)) ?_ rfl hFits
  exact .cons _ rfl rfl (Json.reads_fieldOf hRead) .nil

/-- **An answer with swaps is read** as the swaps in it, without errors. -/
theorem reads (depth : Nat) (hTimed : AllTimed swaps)
    (hFits : (compactChars (valueOf swaps)).length ≤ items) :
    Reads (Response.read ⟨depth + 6, items⟩) (compactChars (valueOf swaps)) ⟨some swaps, []⟩ := by
  have hData : (compactChars (dataOf swaps)).length ≤ items := fits_of_mem hFits (by simp)
  have hRead := Json.reads_readOptional_some Json.opensValue_brace (reads_data depth hTimed hData)
  refine Json.reads_readRecord (s := { data := some (some (some swaps)) }) ?_ rfl hFits
  exact .cons _ rfl rfl (Json.reads_fieldOf hRead) .nil

theorem readDocument_body (hTimed : AllTimed swaps) :
    Json.readDocument Response.read (body swaps) = .ok ⟨some swaps, []⟩ := by
  have hLength := Json.length_le_bytesOf (compactChars (valueOf swaps))
  rw [body_eq]
  -- An answer takes six of the one hundred and twenty-seven containers inside one another.
  exact Json.readDocument_of_reads (reads 121 hTimed (Nat.le_succ_of_le hLength))

end Response

section Pages

variable {before after : List Swap} {x : Swap} {body : List UInt8} {r : Response}

/-- An answer with valid swaps is a page of them. -/
theorem readPage_body (hTimed : AllTimed swaps) (hValid : ∀ x ∈ swaps, x.validate = .ok ()) :
    readPage (Response.body swaps) = .ok swaps :=
  readPage_eq_ok.2 ⟨Response.readDocument_body hTimed, hValid⟩

/-- An answer with swaps is malformed as the first of them that is not valid. -/
theorem readPage_body_of_invalid (hTimed : AllTimed (before ++ x :: after))
    (hBefore : ∀ y ∈ before, y.validate = .ok ()) (hInvalid : x.validate ≠ .ok ()) :
    ∃ reason, x.validate = .error (.malformedResponse reason) ∧
      readPage (Response.body (before ++ x :: after)) = .error (.malformedResponse reason) := by
  cases hFailed : x.validate with
  | ok _ => exact absurd hFailed hInvalid
  | error failure =>
    obtain ⟨reason, rfl⟩ := x.isMalformed_of_validate hFailed
    have hAll : validateAll (before ++ x :: after) = .error (.malformedResponse reason) :=
      validateAll_eq_error.2 ⟨before, x, after, rfl, hBefore, hFailed⟩
    refine ⟨reason, rfl, ?_⟩
    rw [readPage_of_read (Response.readDocument_body hTimed), Response.page_of_swaps, hAll]
    rfl

/-- A body is a page of valid swaps or malformed. -/
theorem readPage_cases (body : List UInt8) :
    (∃ page, readPage body = .ok page ∧
      ∀ x ∈ page, x.validate = .ok () ∧ Entry.ofSwap x = .ok ⟨x.id, x, x.timestamp⟩) ∨
    ∃ reason, readPage body = .error (.malformedResponse reason) := by
  cases hPage : readPage body with
  | ok page =>
    refine .inl ⟨page, rfl, fun x hx => ?_⟩
    have hValid := (readPage_eq_ok.1 hPage).2 x hx
    exact ⟨hValid, Fetch.ofSwap_of_valid hValid⟩
  | error failure =>
    obtain ⟨reason, rfl⟩ := isMalformed_of_readPage hPage
    exact .inr ⟨reason, rfl⟩

/-- An answer that reports errors is malformed, whatever swaps it holds. -/
theorem readPage_of_errors (hRead : Json.readDocument Response.read body = .ok r)
    (hErrors : r.errors ≠ []) : ∃ reason, readPage body = .error (.malformedResponse reason) := by
  refine (readPage_cases body).resolve_left ?_
  rintro ⟨page, hPage, -⟩
  obtain ⟨hPlain, -⟩ := readPage_eq_ok.1 hPage
  rw [hRead] at hPlain
  cases hPlain
  exact hErrors rfl

end Pages

/-- **A page is taken whole or not at all.** An answer with swaps, the times of which have 64 bits,
is the page of these swaps if all of them are valid, and malformed as the first of them that is not.
Any body is a page of valid swaps, each of which has an entry, or else malformed. It is a page only
if it is an answer without errors, whatever swaps it holds. -/
theorem readPage_whole :
    (∀ swaps : List Swap, AllTimed swaps → (∀ x ∈ swaps, x.validate = .ok ()) →
      readPage (Response.body swaps) = .ok swaps) ∧
    (∀ (before : List Swap) (x : Swap) (after : List Swap), AllTimed (before ++ x :: after) →
      (∀ y ∈ before, y.validate = .ok ()) → x.validate ≠ .ok () →
      ∃ reason, x.validate = .error (.malformedResponse reason) ∧
        readPage (Response.body (before ++ x :: after)) = .error (.malformedResponse reason)) ∧
    (∀ body : List UInt8,
      (∃ page, readPage body = .ok page ∧
        ∀ x ∈ page, x.validate = .ok () ∧ Entry.ofSwap x = .ok ⟨x.id, x, x.timestamp⟩) ∨
      ∃ reason, readPage body = .error (.malformedResponse reason)) ∧
    (∀ (body : List UInt8) (page : List Swap), readPage body = .ok page ↔
      Json.readDocument Response.read body = .ok ⟨some page, []⟩ ∧
        ∀ x ∈ page, x.validate = .ok ()) ∧
    ∀ (body : List UInt8) (r : Response), Json.readDocument Response.read body = .ok r →
      r.errors ≠ [] → ∃ reason, readPage body = .error (.malformedResponse reason) :=
  ⟨fun _ => readPage_body, fun _ _ _ => readPage_body_of_invalid, readPage_cases,
    fun _ _ => readPage_eq_ok, fun _ _ => readPage_of_errors⟩

/-- A page of one swap, an answer in which it comes before a swap without an id and one with a
negative time, and an answer that reports an error beside a list of swaps. -/
theorem readPage_whole_second_without_id :
    let first : Swap := .sample "a" 5
    let second : Swap := .sample "" 4
    let third : Swap := .sample "b" (-1)
    let body := Text.encode ("\x7b\"data\":\x7b\"swaps\":[]\x7d,"
      ++ "\"errors\":[\x7b\"message\":\"busy\"\x7d]\x7d")
    readPage (Response.body [first]) = .ok [first] ∧
      second.validate = .error (.malformedResponse "swap without id") ∧
      readPage (Response.body [first, second, third])
        = .error (.malformedResponse "swap without id") ∧
      Json.readDocument Response.read body = .ok ⟨some [], ["busy"]⟩ ∧
      ∃ reason, readPage body = .error (.malformedResponse reason) := by
  intro first second third body
  have hFirst : ∀ y ∈ [first], y.validate = .ok () := by
    simp only [List.forall_mem_singleton]
    exact Swap.validate_sample rfl (by decide)
  have hSecond : second.validate = .error (.malformedResponse "swap without id") := rfl
  have hRead : Json.readDocument Response.read body = .ok ⟨some [], ["busy"]⟩ :=
    eq_ok_of_toOption (by decide +kernel)
  obtain ⟨hWhole, hNotAll, -, -, hErrors⟩ := readPage_whole
  obtain ⟨reason, hReason, hMalformed⟩ := hNotAll [first] second [third] (by decide) hFirst
    (by rw [hSecond]; nofun)
  rw [hSecond] at hReason
  cases hReason
  exact ⟨hWhole [first] (by decide) hFirst, hSecond, hMalformed, hRead,
    hErrors body _ hRead (by decide)⟩

end SwapArchive
