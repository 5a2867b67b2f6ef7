import SwapArchive.Proofs.Calendar
import SwapArchive.Proofs.Store.Opening

/-!
# Names of the files of days

A dated day has two names, a final and a temporary one. No two days share one of them, and neither
of them is the name of a file that would belong to another one.
-/

namespace SwapArchive

/-- A text of characters of one byte has as many bytes as characters. -/
theorem utf8ByteSize_ofList {cs : List Char} (h : ∀ c ∈ cs, c.val ≤ 127) :
    (String.ofList cs).utf8ByteSize = cs.length := by
  induction cs with
  | nil => rfl
  | cons c rest ih =>
    rw [List.forall_mem_cons] at h
    rw [String.ofList_cons, String.utf8ByteSize_append, String.utf8ByteSize_singleton, ih h.2,
      Char.utf8Size_eq_one_iff.2 h.1, List.length_cons, Nat.add_comm]

theorem IsDateChar.val_le {c : Char} (h : IsDateChar c) : c.val ≤ 127 := by
  rcases h with hDigit | rfl | rfl
  · simp only [Char.isDigit, Bool.and_eq_true, decide_eq_true_eq] at hDigit
    exact UInt32.le_trans hDigit.2 (by decide)
  · decide
  · decide

theorem IsDateChar.ne {c mark : Char} (h : IsDateChar c) (hMark : ¬ IsDateChar mark) :
    c ≠ mark := by
  rintro rfl
  exact hMark h

namespace Day

variable {d e : Day} {ending : String}

theorem toList_name_append : (d.name ++ ending).toList = d.nameChars ++ ending.toList := by
  rw [String.toList_append, name, String.toList_ofList]

theorem size_name_append (hEnding : ∀ c ∈ ending.toList, c.val ≤ 127) :
    (d.name ++ ending).utf8ByteSize = d.nameChars.length + ending.toList.length := by
  rw [← String.ofList_toList (s := d.name ++ ending), utf8ByteSize_ofList, toList_name_append,
    List.length_append]
  rw [toList_name_append]
  intro c hc
  exact (List.mem_append.1 hc).elim (fun h => (isDateChar_of_mem_nameChars h).val_le) (hEnding c)

/-- A path can end with the name of a day and an ending that is not too long. -/
theorem isFileName_append (hDated : d.IsDated)
    (hEnding : ∀ c ∈ ending.toList, c.val ≤ 127 ∧ c ≠ '/' ∧ c ≠ zeroChar)
    (hLength : ending.toList.length ≤ 200) : IsFileName (d.name ++ ending) := by
  -- The hyphen of the date is in none of the names that stand for something else.
  have hHyphen : '-' ∈ (d.name ++ ending).toList := by
    rw [toList_name_append, nameChars]
    simp
  refine ⟨fun c hc => ?_, ?_, ?_, ?_, ?_⟩
  · rw [toList_name_append] at hc
    rcases List.mem_append.1 hc with hDate | hEnd
    · have hChar := isDateChar_of_mem_nameChars hDate
      exact ⟨hChar.ne (by decide), hChar.ne (by decide)⟩
    · exact (hEnding c hEnd).2
  · intro hSame
    rw [hSame] at hHyphen
    cases hHyphen
  · intro hSame
    rw [hSame] at hHyphen
    exact absurd hHyphen (by decide)
  · intro hSame
    rw [hSame] at hHyphen
    exact absurd hHyphen (by decide)
  · rw [size_name_append fun c hc => (hEnding c hc).1]
    have hDate := length_nameChars_le hDated
    rw [longestName]
    omega

theorem finalName_eq : d.finalName = d.name ++ ".db" := rfl

theorem temporaryName_eq : d.temporaryName = d.name ++ "_temp.db" := by
  rw [temporaryName, String.append_assoc]
  rfl

/-- The endings hold plain characters only. -/
theorem plain_of_mem_ending {c : Char} (h : c ∈ "_temp".toList ++ ".db".toList) :
    c.val ≤ 127 ∧ c ≠ '/' ∧ c ≠ zeroChar := by
  -- The characters are listed, since deciding over all those of the type would not end.
  have hListed : c ∈ ['_', 't', 'e', 'm', 'p', '.', 'd', 'b'] := h
  simp only [List.mem_cons, List.not_mem_nil, or_false] at hListed
  rcases hListed with rfl | rfl | rfl | rfl | rfl | rfl | rfl | rfl <;> decide

theorem isFileName_finalName (h : d.IsDated) : IsFileName d.finalName := by
  rw [finalName_eq]
  refine isFileName_append h (fun c hc => ?_) (by decide)
  exact plain_of_mem_ending (List.mem_append_right _ hc)

theorem isFileName_temporaryName (h : d.IsDated) : IsFileName d.temporaryName := by
  rw [temporaryName_eq]
  exact isFileName_append h (fun c hc => plain_of_mem_ending hc) (by decide)

theorem size_finalName : d.finalName.utf8ByteSize = d.nameChars.length + 3 := by
  rw [finalName_eq]
  exact size_name_append fun c hc => (plain_of_mem_ending (List.mem_append_right _ hc)).1

theorem size_temporaryName : d.temporaryName.utf8ByteSize = d.nameChars.length + 8 := by
  rw [temporaryName_eq]
  exact size_name_append fun c hc => (plain_of_mem_ending hc).1

/-- The temporary name is longer than the final one. -/
theorem size_finalName_le : d.finalName.utf8ByteSize ≤ d.temporaryName.utf8ByteSize := by
  rw [size_finalName, size_temporaryName]
  omega

/-- There is room for the name of a journal. -/
theorem size_temporaryName_le (h : d.IsDated) :
    d.temporaryName.utf8ByteSize ≤ longestJournaledName := by
  have hDate := length_nameChars_le h
  rw [size_temporaryName, longestJournaledName]
  omega

theorem finalName_injective (h : d.finalName = e.finalName) : d = e := by
  rw [finalName_eq, finalName_eq, ← String.toList_inj, toList_name_append, toList_name_append] at h
  exact nameChars_injective (List.append_cancel_right h)

theorem temporaryName_injective (h : d.temporaryName = e.temporaryName) : d = e := by
  rw [temporaryName_eq, temporaryName_eq, ← String.toList_inj, toList_name_append,
    toList_name_append] at h
  exact nameChars_injective (List.append_cancel_right h)

/-- **A final name is no temporary one**: the mark of the latter cannot be in a date. -/
theorem finalName_ne_temporaryName (d e : Day) : d.finalName ≠ e.temporaryName := by
  intro h
  have hEnding : "_temp.db".toList = "_temp".toList ++ ".db".toList := rfl
  rw [finalName_eq, temporaryName_eq, ← String.toList_inj, toList_name_append, toList_name_append,
    hEnding, ← List.append_assoc] at h
  have hMark : '_' ∈ d.nameChars := by
    rw [List.append_cancel_right h]
    simp
  exact absurd (isDateChar_of_mem_nameChars hMark) (by decide)

/-- A name that ends like a shard is not that of a file beside another one. -/
theorem beside_ne_append (c : Companion) (place directory : NodePath) (front : String) :
    c.beside place ≠ directory ++ [front ++ ".db"] := by
  intro h
  have hName : place.getLast?.getD "" ++ c.ending = front ++ ".db" :=
    List.singleton_inj.1 (List.append_inj' h rfl).2
  rw [← String.toList_inj, String.toList_append, String.toList_append] at hName
  have hLast := congrArg List.getLast? hName
  rw [List.getLast?_append, List.getLast?_append] at hLast
  cases c <;> exact absurd hLast (by simp [Companion.ending])

theorem beside_ne_finalName (c : Companion) (place directory : NodePath) :
    c.beside place ≠ directory ++ [d.finalName] := beside_ne_append c place directory _

theorem beside_ne_temporaryName (c : Companion) (place directory : NodePath) :
    c.beside place ≠ directory ++ [d.temporaryName] := beside_ne_append c place directory _

end Day

theorem Day.eq_iff {d e : Day} : d = e ↔ d.number = e.number := by
  cases d
  cases e
  simp

/-- The `count` days before a day, newest first. -/
def Day.before (d : Day) : (count : Nat) → List Day
  | 0 => []
  | count + 1 => d.previous :: d.previous.before count

theorem mem_before {d e : Day} {count : Nat} :
    e ∈ d.before count ↔ d.number - count ≤ e.number ∧ e.number < d.number := by
  induction count generalizing d with
  | zero =>
    rw [Day.before]
    simp only [List.not_mem_nil, false_iff]
    omega
  | succ count ih =>
    rw [Day.before, List.mem_cons, ih, Day.eq_iff]
    simp only [Day.previous]
    omega

/-- The walk back to a day that has a date goes over all days in between, and ends at the day before
it if it does not end at once. -/
theorem Day.backTo_eq {first d : Day} (hFirst : firstTime ≤ first.start) (count : Nat)
    (hCount : (d.number - first.number).toNat = count) : d.backTo first = d.before count := by
  have hNumber : d.previous.number = d.number - 1 := rfl
  rw [backTo]
  -- The induction is on the days left; the walk ends at the first, or where no day is before.
  cases count with
  | zero =>
    split
    · rfl
    · next earlier hPrevious => rw [if_pos (by have := number_previous? hPrevious; omega), before]
  | succ count =>
    have hDated : d.previous? = some d.previous := by
      rw [previous?, if_pos]
      simp only [start, secondsPerDay] at *
      omega
    split
    · next hNone => cases hDated.symm.trans hNone
    · next earlier hPrevious =>
      obtain rfl : d.previous = earlier := Option.some.inj (hDated.symm.trans hPrevious)
      rw [if_neg (by omega), before, backTo_eq hFirst count (by omega)]

theorem planDays_eq {initial now : Int} {first : Day} (h : Day.ofTime? initial = some first) :
    planDays initial now
      = (Day.ofTime now).before ((Day.ofTime now).number - first.number).toNat := by
  rw [planDays, h]
  refine Day.backTo_eq ?_ _ rfl
  rw [Day.ofTime?] at h
  split at h
  · next hRange =>
    obtain rfl := Option.some.inj h
    simp only [Day.start, Day.ofTime, firstTime, lastTime, secondsPerDay] at *
    omega
  · cases h

/-- **The planned days**: from the day of the initial time to the last one before the present. -/
theorem mem_planDays {initial now : Int} {first d : Day}
    (hFirst : Day.ofTime? initial = some first) :
    d ∈ planDays initial now ↔ first.number ≤ d.number ∧ d.number < (Day.ofTime now).number := by
  rw [planDays_eq hFirst, mem_before]
  omega

/-- **Planned days are dated**, if the present time is. -/
theorem isDated_of_mem_planDays {initial now : Int} {d : Day} (hNow : now ≤ lastTime)
    (h : d ∈ planDays initial now) : d.IsDated := by
  cases hFirst : Day.ofTime? initial with
  | none =>
    rw [planDays, hFirst] at h
    cases h
  | some first =>
    obtain ⟨hFrom, hTo⟩ := (mem_planDays hFirst).1 h
    rw [Day.ofTime?] at hFirst
    split at hFirst
    · next hRange =>
      obtain rfl := Option.some.inj hFirst
      simp only [Day.IsDated, Day.finish, Day.start, Day.ofTime, firstTime, lastTime,
        secondsPerDay] at *
      omega
    · cases hFirst

end SwapArchive
