import SwapArchive.Proofs.Store.RoundTrip
import SwapArchive.Source.Page

/-!
# What is on a page

The swaps on a page have been read one after the other. So their times have 64 bits, whatever body
the page was read from. They have been validated too, and a body that holds no page is malformed.
-/

namespace SwapArchive

open Text (IntegerRange)
open Json (Field Limits Yields)

/-- **Swaps with times of 64 bits.** -/
def AllTimed (swaps : List Swap) : Prop :=
  ∀ x ∈ swaps, IntegerRange.signed64.contains x.timestamp = true

instance (swaps : List Swap) : Decidable (AllTimed swaps) :=
  inferInstanceAs (Decidable (∀ x ∈ swaps, _ = true))

theorem forall_mem_getD {α : Type} {Q : α → Prop} {value : Option (Option α)}
    (h : ∀ a ∈ value, ∀ b ∈ a, Q b) : ∀ b ∈ value.getD none, Q b := by
  cases value with
  | none => nofun
  | some a => exact h a rfl

theorem yields_readData (limits : Limits) :
    Yields (Json.readRecord dataShape limits) fun data => ∀ swaps ∈ data, AllTimed swaps := by
  have hFields : ∀ field ∈ dataShape.fields,
      field.Keeps fun draft => ∀ data ∈ draft, ∀ swaps ∈ data, AllTimed swaps := by
    simp only [dataShape, List.forall_mem_singleton]
    refine Field.keeps_of_yields
      (fun limits => Json.yields_readOptional (Json.yields_readList Swap.yields_read)) ?_
    rintro _ data _ hData _ ⟨⟩
    exact hData
  intro k data k' hRead
  obtain ⟨draft, hTimed, hBuild⟩ := Json.yields_readRecord hFields (by nofun) k data k' hRead
  cases hBuild
  exact forall_mem_getD hTimed

/-- **The swaps in an answer** have times of 64 bits. -/
theorem Response.yields_read (limits : Limits) :
    Yields (read limits) fun r => ∀ swaps ∈ r.swaps, AllTimed swaps := by
  have hFields : ∀ field ∈ shape.fields, field.Keeps fun draft =>
      ∀ value ∈ draft.data, ∀ data ∈ value, ∀ swaps ∈ data, AllTimed swaps := by
    simp only [shape, List.forall_mem_cons]
    refine ⟨Field.keeps_of_yields (fun _ => Json.yields_readOptional (yields_readData _)) ?_,
      Field.keeps_of fun _ _ h => h, nofun⟩
    rintro _ value _ hValue _ ⟨⟩
    exact hValue
  intro k r k' hRead
  obtain ⟨draft, hTimed, hBuild⟩ := Json.yields_readRecord hFields (by nofun) k r k' hRead
  cases hBuild
  exact forall_mem_getD (forall_mem_getD hTimed)

/-! ## Validation -/

variable {x : Swap} {swaps page : List Swap} {failure : Failure} {r : Response}
  {body : List UInt8}

/-- **Failures that are put down to an answer**: it does not hold a page of valid swaps. -/
def Failure.IsMalformed (failure : Failure) : Prop := ∃ reason, failure = .malformedResponse reason

theorem Failure.IsMalformed.of_eq {α : Type} {reason : String}
    (h : (.error (.malformedResponse reason) : Outcome α) = .error failure) :
    failure.IsMalformed :=
  ⟨reason, (Except.error.inj h).symm⟩

theorem Swap.isMalformed_of_validate (h : x.validate = .error failure) : failure.IsMalformed := by
  unfold validate at h
  split at h
  · exact .of_eq h
  split at h
  · exact .of_eq h
  split at h
  · exact .of_eq h
  split at h
  · exact .of_eq h
  · exact .of_eq h
  · cases h

theorem validateAll_cons_of_valid (h : x.validate = .ok ()) :
    validateAll (x :: swaps) = validateAll swaps := by
  rw [validateAll, h]
  rfl

theorem validateAll_cons_of_invalid (h : x.validate = .error failure) :
    validateAll (x :: swaps) = .error failure := by
  rw [validateAll, h]
  rfl

theorem validateAll_eq_ok : validateAll swaps = .ok () ↔ ∀ x ∈ swaps, x.validate = .ok () := by
  induction swaps with
  | nil => exact iff_of_true rfl nofun
  | cons x swaps ih =>
    rw [List.forall_mem_cons]
    cases hValid : x.validate with
    | ok _ => rw [validateAll_cons_of_valid hValid, ih, eq_self_iff_true, true_and]
    | error failure =>
      rw [validateAll_cons_of_invalid hValid]
      exact iff_of_false nofun fun h => nomatch h.1

/-- **The first swap that is not valid** decides what is wrong with several. -/
theorem validateAll_eq_error : validateAll swaps = .error failure ↔
    ∃ before x after, swaps = before ++ x :: after ∧ (∀ y ∈ before, y.validate = .ok ()) ∧
      x.validate = .error failure := by
  constructor
  · intro h
    induction swaps with
    | nil => cases h
    | cons x swaps ih =>
      cases hValid : x.validate with
      | ok _ =>
        rw [validateAll_cons_of_valid hValid] at h
        obtain ⟨before, y, after, rfl, hBefore, hFailed⟩ := ih h
        exact ⟨x :: before, y, after, rfl, List.forall_mem_cons.2 ⟨hValid, hBefore⟩, hFailed⟩
      | error failure' =>
        rw [validateAll_cons_of_invalid hValid] at h
        cases h
        exact ⟨[], x, swaps, rfl, nofun, hValid⟩
  · rintro ⟨before, x, after, rfl, hBefore, hFailed⟩
    induction before with
    | nil => exact validateAll_cons_of_invalid hFailed
    | cons y before ih =>
      rw [List.forall_mem_cons] at hBefore
      rw [List.cons_append, validateAll_cons_of_valid hBefore.1]
      exact ih hBefore.2

/-! ## Pages -/

theorem Response.page_of_swaps (swaps : List Swap) :
    Response.page ⟨some swaps, []⟩ = (validateAll swaps).map fun _ => swaps := by
  rw [Response.page, if_neg (by simp)]
  dsimp only
  cases validateAll swaps <;> rfl

/-- **A page is an answer without errors**, all swaps of which are valid. -/
theorem Response.page_eq_ok :
    r.page = .ok page ↔ r = ⟨some page, []⟩ ∧ ∀ x ∈ page, x.validate = .ok () := by
  obtain ⟨_ | swaps, _ | ⟨message, errors⟩⟩ := r
  · exact iff_of_false nofun fun h => nomatch h.1
  · exact iff_of_false nofun fun h => nomatch h.1
  · rw [page_of_swaps, ← validateAll_eq_ok, mk.injEq, Option.some.injEq, eq_self_iff_true, and_true]
    constructor
    · intro h
      cases hValid : validateAll swaps with
      | error failure =>
        rw [hValid] at h
        cases h
      | ok _ =>
        rw [hValid] at h
        cases h
        exact ⟨rfl, hValid⟩
    · rintro ⟨rfl, hValid⟩
      rw [hValid]
      rfl
  · exact iff_of_false nofun fun h => nomatch h.1

theorem Response.isMalformed_of_page (h : r.page = .error failure) : failure.IsMalformed := by
  unfold page at h
  split at h
  · exact .of_eq h
  split at h
  · exact .of_eq h
  split at h
  · next hFailed =>
    cases h
    obtain ⟨-, x, -, -, -, hInvalid⟩ := validateAll_eq_error.1 hFailed
    exact x.isMalformed_of_validate hInvalid
  · cases h

theorem readPage_of_read (h : Json.readDocument Response.read body = .ok r) :
    readPage body = r.page := by
  rw [readPage, h]

/-- **A body holds a page** if it is an answer without errors, all swaps of which are valid. -/
theorem readPage_eq_ok : readPage body = .ok page ↔
    Json.readDocument Response.read body = .ok ⟨some page, []⟩ ∧
      ∀ x ∈ page, x.validate = .ok () := by
  cases hRead : Json.readDocument Response.read body with
  | error e =>
    rw [readPage, hRead]
    exact iff_of_false nofun fun h => nomatch h.1
  | ok r => rw [readPage_of_read hRead, Response.page_eq_ok, Except.ok.injEq]

/-- **A body that holds no page** is malformed. -/
theorem isMalformed_of_readPage (h : readPage body = .error failure) : failure.IsMalformed := by
  cases hRead : Json.readDocument Response.read body with
  | error e =>
    rw [readPage, hRead] at h
    exact .of_eq h
  | ok r =>
    rw [readPage_of_read hRead] at h
    exact Response.isMalformed_of_page h

/-- **The swaps on a page** have times of 64 bits, whatever the body is. -/
theorem allTimed_readPage (h : readPage body = .ok page) : AllTimed page :=
  Json.readDocument_yields (Q := fun r : Response => ∀ swaps ∈ r.swaps, AllTimed swaps)
    Response.yields_read (readPage_eq_ok.1 h).1 page rfl

end SwapArchive
