import SwapArchive.Proofs.Json.Record
import SwapArchive.Proofs.Text.Integer
import SwapArchive.Swap.Json

/-!
# Reading stored swaps

A swap with a time of 64 bits is read back from its stored form, whatever texts it holds.
-/

namespace SwapArchive

open Json (Reads Joins Limits Value compactChars reads_readRecord reads_fieldOf)

variable {σ : Type} {depth items : Nat} {limits : Limits} {fields : List (Json.Field σ)}
  {members : List (String × Value)} {key : String} {value : Option String} {v : Value} {s s' : σ}

/-- The values of an object fit where the object does. -/
theorem Json.fits_of_mem (hFits : (compactChars (.object members)).length ≤ items)
    (hMember : v ∈ members.map (·.2)) : (compactChars v).length ≤ items := by
  obtain ⟨member, hThere, rfl⟩ := List.mem_map.1 hMember
  rw [length_compactChars_object] at hFits
  have hPart := ((length_compactMembers members).2 member hThere).2
  omega

open Json (fits_of_mem)

theorem Leg.reads (leg : Leg) (hFits : (compactChars leg.toJson).length ≤ items) :
    Reads (Leg.read ⟨depth + 1, items⟩) (compactChars leg.toJson) leg := by
  have hAddress : (compactChars (.text leg.address)).length ≤ items := fits_of_mem hFits (by simp)
  have hSymbol : (compactChars (.text leg.symbol)).length ≤ items := fits_of_mem hFits (by simp)
  refine reads_readRecord (s := ⟨some leg.address, some leg.symbol⟩) ?_ rfl hFits
  refine .cons _ rfl rfl (reads_fieldOf (Json.reads_readString hAddress)) ?_
  refine .cons _ rfl rfl (reads_fieldOf (Json.reads_readString hSymbol)) ?_
  exact .nil

/-- Members after other members join what those have joined. -/
theorem Json.Joins.append (s' : σ) {s'' : σ} {members' : List (String × Value)}
    (h : Joins limits fields s members s') (h' : Joins limits fields s' members' s'') :
    Joins limits fields s (members ++ members') s'' := by
  induction h with
  | nil => exact h'
  | cons field hField hNew hRead _ ih => exact .cons field hField hNew hRead (ih h')

/-- A member that may be absent. -/
theorem Json.Joins.optional {get : σ → Option (Option String)} {set : σ → Option String → σ}
    (hField : fields.find? (·.name == key) = some (.of key false get set readOptionalString))
    (hNew : get s = none)
    (hFits : ∀ text, value = some text → (compactChars (.text text)).length ≤ limits.items)
    (hNext : s' = value.elim s fun text => set s (some text)) :
    Joins limits fields s (optionalMember key value) s' := by
  rw [hNext]
  cases value with
  | none => exact .nil
  | some text =>
    have hBlank : (get s).isSome = false := by rw [hNew, Option.isSome_none]
    refine .cons _ hField hBlank ?_ .nil
    exact reads_fieldOf (Json.reads_readOptional (hFits text rfl))

theorem Transaction.reads (t : Transaction) (hFits : (compactChars t.toJson).length ≤ items) :
    Reads (Transaction.read ⟨depth + 1, items⟩) (compactChars t.toJson) t := by
  have hHash : (compactChars (.text t.hash)).length ≤ items := fits_of_mem hFits (by simp)
  obtain ⟨hash, block⟩ := t
  refine reads_readRecord (s := ⟨some hash, block.map some⟩) ?_ ?_ hFits
  · refine .cons _ rfl rfl (reads_fieldOf (Json.reads_readString hHash)) ?_
    refine .optional rfl rfl ?_ (by cases block <;> rfl)
    rintro text rfl
    exact fits_of_mem hFits (by simp [optionalMember])
  · cases block <;> rfl

theorem Pool.reads (p : Pool) (hFits : (compactChars p.toJson).length ≤ items) :
    Reads (Pool.read ⟨depth + 2, items⟩) (compactChars p.toJson) p := by
  have hAddress : (compactChars (.text p.address)).length ≤ items := fits_of_mem hFits (by simp)
  have hFirst : (compactChars p.token0.toJson).length ≤ items := fits_of_mem hFits (by simp)
  have hSecond : (compactChars p.token1.toJson).length ≤ items := fits_of_mem hFits (by simp)
  refine reads_readRecord (s := ⟨some p.address, some p.token0, some p.token1⟩) ?_ rfl hFits
  refine .cons _ rfl rfl (reads_fieldOf (Json.reads_readString hAddress)) ?_
  refine .cons _ rfl rfl (reads_fieldOf (p.token0.reads hFirst)) ?_
  refine .cons _ rfl rfl (reads_fieldOf (p.token1.reads hSecond)) ?_
  exact .nil

/-- The time of a swap is read back from its text. -/
theorem Swap.timeOfLoose_toString {time : Int}
    (hTime : Text.IntegerRange.signed64.contains time = true) :
    timeOfLoose (.text (toString time)) = .ok time := by
  rw [timeOfLoose, Text.trim_toString, Text.readInteger_toString hTime (by decide) (by decide)]

theorem Swap.reads (x : Swap) (hTime : Text.IntegerRange.signed64.contains x.timestamp = true)
    (hFits : (compactChars x.toJson).length ≤ items) :
    Reads (Swap.read ⟨depth + 3, items⟩) (compactChars x.toJson) x := by
  have hId : (compactChars (.text x.id)).length ≤ items := fits_of_mem hFits (by simp)
  have hTransaction : (compactChars x.transaction.toJson).length ≤ items :=
    fits_of_mem hFits (by simp)
  have hPool : (compactChars x.pool.toJson).length ≤ items := fits_of_mem hFits (by simp)
  have hAmount0 : (compactChars (.text x.amount0)).length ≤ items := fits_of_mem hFits (by simp)
  have hAmount1 : (compactChars (.text x.amount1)).length ≤ items := fits_of_mem hFits (by simp)
  have hStamp : (compactChars (.text (toString x.timestamp))).length ≤ items :=
    fits_of_mem hFits (by simp)
  obtain ⟨id, transaction, pool, sender, recipient, amount0, amount1, timestamp⟩ := x
  -- What has been read after the pool, after the sender and after the recipient.
  let first : Swap.Draft := { id := some id, transaction := some transaction, pool := some pool }
  let second : Swap.Draft := { first with sender := sender.map some }
  let third : Swap.Draft := { second with recipient := recipient.map some }
  refine reads_readRecord (s := { third with
    amount0 := some amount0, amount1 := some amount1, timestamp := some timestamp }) ?_ ?_ hFits
  · refine .append third (.append second (.append first ?_ ?_) ?_) ?_
    · refine .cons _ rfl rfl (reads_fieldOf (Json.reads_readString hId)) ?_
      refine .cons _ rfl rfl (reads_fieldOf (transaction.reads hTransaction)) ?_
      refine .cons _ rfl rfl (reads_fieldOf (pool.reads hPool)) ?_
      exact .nil
    · refine .optional rfl rfl ?_ (by cases sender <;> rfl)
      rintro text rfl
      exact fits_of_mem hFits (by simp [optionalMember])
    · refine .optional rfl rfl ?_ (by cases recipient <;> rfl)
      rintro text rfl
      exact fits_of_mem hFits (by simp [optionalMember])
    · refine .cons _ rfl rfl (reads_fieldOf (Json.reads_readString hAmount0)) ?_
      refine .cons _ rfl rfl (reads_fieldOf (Json.reads_readString hAmount1)) ?_
      refine .cons Swap.timestampField rfl rfl ?_ .nil
      have hLoose : Reads (Json.readLoose ⟨depth + 2, items⟩) _ _ := Json.reads_readLoose hStamp
      intro rest line column
      obtain ⟨line', column', hRead⟩ := hLoose rest line column
      refine ⟨line', column', (Json.bind_of_ok hRead).trans ?_⟩
      rw [Swap.timeOfLoose_toString hTime]
      rfl
  · cases sender <;> cases recipient <;> rfl

/-- **A swap is read back from its stored form.** -/
theorem Swap.ofText_stored (x : Swap)
    (hTime : Text.IntegerRange.signed64.contains x.timestamp = true) :
    Swap.ofText x.stored = .ok x := by
  have hLength := Json.length_le_bytesOf (compactChars x.toJson)
  have hBytes : Text.encode x.stored = Json.bytesOf (compactChars x.toJson) := by
    rw [Text.encode, Swap.stored, Value.compact, String.toList_ofList]
    rfl
  rw [Swap.ofText, hBytes]
  apply Json.readDocument_of_reads
  exact x.reads hTime (Nat.le_succ_of_le hLength)

end SwapArchive
