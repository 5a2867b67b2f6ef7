import SwapArchive.Json.Record

/-!
# What has been read

A record that has been read was built from fields that have been read one after the other, as an
object or as a list. What holds of no fields, and stays true with every field that is read, holds of
the fields that the record is built from.
-/

namespace SwapArchive.Json

variable {σ α β : Type} {limits : Limits} {k : Cursor} {r : Reader α} {f : α → Reader β} {a : α}
  {fields : List (Field σ)} {s : σ} {P : σ → Prop} {Q : α → Prop} {R : β → Prop}

/-- **Whatever a reader returns has a property.** -/
def Yields (r : Reader α) (Q : α → Prop) : Prop := ∀ k a k', r k = .ok (a, k') → Q a

theorem Yields.bind (h : Yields r Q) (hNext : ∀ a, Q a → Yields (f a) R) : Yields (r >>= f) R := by
  intro k b k' hRead
  change Except.bind (r k) (fun p => f p.1 p.2) = _ at hRead
  cases hFirst : r k with
  | error e =>
    rw [hFirst] at hRead
    cases hRead
  | ok p =>
    rw [hFirst] at hRead
    exact hNext p.1 (h k p.1 p.2 hFirst) p.2 b k' hRead

/-- What a reader returns after another one, whatever that returns. -/
theorem Yields.after (r : Reader α) (hNext : ∀ a, Yields (f a) R) : Yields (r >>= f) R :=
  Yields.bind (fun _ _ _ _ => trivial) fun a (_ : True) => hNext a

theorem yields_pure (h : Q a) : Yields (pure a) Q := by
  intro k a' k' hRead
  cases hRead
  exact h

theorem yields_stop (cause : Cause) : Yields (stop cause) Q := nofun

theorem yields_stopAtNext (cause : Cause) : Yields (stopAtNext cause) Q := nofun

/-- A value of another kind is never returned. -/
theorem yields_misfit (limits : Limits) (expected : String) :
    Yields (misfit limits expected) Q := by
  refine .after _ fun c => ?_
  split
  · exact .after _ fun _ => .after _ fun _ => yields_stop _
  · exact .after _ fun _ => .after _ fun _ => yields_stop _
  · exact .after _ fun _ => .after _ fun _ => yields_stop _
  · exact .after _ fun _ => .after _ fun _ => yields_stop _
  · exact .after _ fun _ => yields_stop _
  · exact yields_stop _
  · exact yields_stop _
  · split
    · exact .after _ fun _ => yields_stop _
    · exact yields_stopAtNext _
  · exact yields_stopAtNext _

/-- Fields that have a property, unless there is a fault. -/
def OfFields (P : σ → Prop) (result : Except Cause σ) : Prop := ∀ s, result = .ok s → P s

theorem ofFields_ok (h : P s) : OfFields P (.ok s) := by
  intro s' hSame
  cases hSame
  exact h

theorem ofFields_error (fault : Cause) : OfFields P (.error fault) := nofun

/-- **A field that keeps a property** of the fields read so far. -/
def Field.Keeps (P : σ → Prop) (field : Field σ) : Prop :=
  ∀ limits s, P s → Yields (field.read limits s) (OfFields P)

section Field

variable {name : String} {required : Bool} {get : σ → Option α} {set : σ → α → σ}
  {decoder : Limits → Reader α}

theorem Field.keeps_of_yields (hDecoder : ∀ limits, Yields (decoder limits) Q)
    (h : ∀ s a, P s → Q a → P (set s a)) : (Field.of name required get set decoder).Keeps P :=
  fun limits s hs => .bind (hDecoder limits) fun a ha => yields_pure (ofFields_ok (h s a hs ha))

theorem Field.keeps_of (h : ∀ s a, P s → P (set s a)) :
    (Field.of name required get set decoder).Keeps P :=
  fun _ s hs => .after _ fun a => yields_pure (ofFields_ok (h s a hs))

end Field

/-- What holds after the members of an object. -/
theorem yields_readFields {items : Nat} {first : Bool} (hFields : ∀ field ∈ fields, field.Keeps P)
    (hs : P s) : Yields (readFields limits fields items first s) (OfFields P) := by
  -- along the members, of which there are no more than `items`
  induction items generalizing first s with
  | zero => exact yields_stop _
  | succ items ih =>
    rw [readFields]
    refine .after _ fun isNext => ?_
    split
    · refine .after _ fun key => ?_
      split
      · exact .after _ fun _ => .after _ fun _ => ih hs
      · next field hField =>
        split
        · exact yields_pure (ofFields_error _)
        · refine .after _ fun _ => ?_
          refine .bind (hFields field (List.mem_of_find?_eq_some hField) limits s hs) ?_
          intro result hResult
          cases result with
          | error fault => exact yields_pure (ofFields_error fault)
          | ok s' => exact ih (hResult s' rfl)
    · exact yields_pure (ofFields_ok hs)

/-- What holds after the items of a list. -/
theorem yields_readPositions {expected : String} {position : Nat} {first : Bool}
    (hFields : ∀ field ∈ fields, field.Keeps P) (hs : P s) :
    Yields (readPositions limits expected fields position first s) (OfFields P) := by
  -- along the fields, since a list has them in their order
  induction fields generalizing position first s with
  | nil => exact yields_pure (ofFields_ok hs)
  | cons field fields ih =>
    rw [List.forall_mem_cons] at hFields
    rw [readPositions]
    refine .after _ fun isNext => ?_
    split
    · refine .bind (hFields.1 limits s hs) fun result hResult => ?_
      cases result with
      | error fault => exact yields_pure (ofFields_error fault)
      | ok s' => exact ih hFields.2 (hResult s' rfl)
    · split
      · exact yields_pure (ofFields_error _)
      · exact ih hFields.2 hs

theorem yields_enter {body : Limits → Reader α} (h : ∀ inside, Yields (body inside) Q) :
    Yields (enter limits body) Q := by
  unfold enter
  split
  · exact yields_stopAtNext _
  · exact .after _ fun _ => h _

/-- **What a record is built from**: fields of which all holds that holds of none and is kept by
each of them. -/
theorem yields_readRecord {shape : Shape σ α} (hFields : ∀ field ∈ shape.fields, field.Keeps P)
    (hBlank : P shape.blank) :
    Yields (readRecord shape limits) fun a => ∃ s, P s ∧ shape.build s = .ok a := by
  have hBuilt : ∀ {result : Except Cause σ} {a : α}, OfFields P result →
      (result >>= shape.build) = .ok a → ∃ s, P s ∧ shape.build s = .ok a := by
    intro result a hResult hBuild
    cases result with
    | error fault => cases hBuild
    | ok s => exact ⟨s, hResult s rfl, hBuild⟩
  -- A record is read from an object or from a list; every other character is a misfit.
  refine .after _ fun c => ?_
  split
  · exact yields_stopAtNext _
  · refine yields_enter fun inside => ?_
    refine .bind (yields_readFields hFields hBlank) fun result hResult => ?_
    refine .after _ fun _ => ?_
    split
    · next hBuild => exact yields_pure (hBuilt hResult hBuild)
    · exact yields_stop _
  · refine yields_enter fun inside => ?_
    refine .bind (yields_readPositions hFields hBlank) fun result hResult => ?_
    split
    · next hBuild => exact .after _ fun _ => yields_pure (hBuilt hResult hBuild)
    · exact .after _ fun _ => yields_stop _
  · exact yields_misfit _ _

/-! ## Values in values -/

theorem yields_readOptional (h : Yields r Q) :
    Yields (readOptional r) fun value => ∀ a ∈ value, Q a := by
  refine .after _ fun c => ?_
  split
  · exact .after _ fun _ => .after _ fun _ => yields_pure nofun
  · refine .bind h fun a ha => yields_pure ?_
    rintro b ⟨⟩
    exact ha

theorem yields_readItems {items : Nat} {first : Bool} (h : Yields r Q) :
    Yields (readItems r items first) fun values => ∀ a ∈ values, Q a := by
  induction items generalizing first with
  | zero => exact yields_stop _
  | succ items ih =>
    rw [readItems]
    refine .after _ fun isNext => ?_
    split
    · refine .bind h fun a ha => .bind ih fun rest hRest => ?_
      exact yields_pure (List.forall_mem_cons.2 ⟨ha, hRest⟩)
    · exact yields_pure nofun

theorem yields_readList {item : Limits → Reader α} (h : ∀ limits, Yields (item limits) Q) :
    Yields (readList limits item) fun values => ∀ a ∈ values, Q a := by
  refine .after _ fun c => ?_
  split
  · exact yields_stopAtNext _
  · refine yields_enter fun inside => ?_
    refine .bind (yields_readItems (h inside)) fun values hValues => ?_
    exact .after _ fun _ => yields_pure hValues
  · exact yields_misfit _ _

/-! ## Documents -/

theorem Yields.of_run (h : Yields r Q)
    (hRun : (do let (a, _) ← r.run k; return a : Except Error α) = .ok a) : Q a := by
  change Except.bind (r k) (fun p => .ok p.1) = _ at hRun
  cases hRead : r k with
  | error e =>
    rw [hRead] at hRun
    cases hRun
  | ok p =>
    rw [hRead] at hRun
    cases hRun
    exact h k p.1 p.2 hRead

/-- What holds of the value of a document. -/
theorem readDocument_yields {value : Limits → Reader α} {bytes : List UInt8}
    (hValue : ∀ limits, Yields (value limits) Q) (h : readDocument value bytes = .ok a) : Q a := by
  unfold readDocument at h
  refine Yields.of_run ?_ h
  refine .bind (hValue _) fun a ha => .after _ fun c => ?_
  split
  · exact yields_pure ha
  · exact yields_stopAtNext _

end SwapArchive.Json
