import SwapArchive.Text.Blank
import SwapArchive.Text.Integer

/-!
# Reading written integers

An integer of a range that holds zero is read back from its decimal text. The value only moves away
from zero while digits are read, so it is inside the range after every one of them.
-/

namespace SwapArchive.Text

variable {range : IntegerRange} {cs : List Char} {c : Char} {m : Nat} {n : Int} {s : String}

theorem digitValue?_of_isDigit (h : c.isDigit = true) :
    digitValue? c = some (c.toNat - '0'.toNat) := by
  rw [Char.isDigit, Bool.and_eq_true, decide_eq_true_eq, decide_eq_true_eq] at h
  exact if_pos h

theorem le_ofDigitChars (m : Nat) (cs : List Char) : m ≤ Nat.ofDigitChars 10 cs m := by
  induction cs generalizing m with
  | nil => simp
  | cons c cs ih =>
    rw [Nat.ofDigitChars_cons]
    have hRest := ih (10 * m + (c.toNat - '0'.toNat))
    omega

/-- **Digits are read** as the number that they stand for, with the sign. -/
theorem readDigits_of_isDigit (negative : Bool) (hDigits : ∀ c ∈ cs, c.isDigit = true)
    (hLeast : range.least ≤ 0) (hGreatest : 0 ≤ range.greatest)
    (hBound : if negative then range.least ≤ -(Nat.ofDigitChars 10 cs m : Int)
      else (Nat.ofDigitChars 10 cs m : Int) ≤ range.greatest) :
    readDigits range negative (if negative then -(m : Int) else m) cs
      = .ok (if negative then -(Nat.ofDigitChars 10 cs m : Int) else Nat.ofDigitChars 10 cs m) := by
  induction cs generalizing m with
  | nil =>
    rw [readDigits, Nat.ofDigitChars_nil]
  | cons c cs ih =>
    rw [List.forall_mem_cons] at hDigits
    rw [Nat.ofDigitChars_cons] at hBound ⊢
    -- Digits only make the number greater, so the bound at the end holds all the way.
    have hMore := le_ofDigitChars (10 * m + (c.toNat - '0'.toNat)) cs
    have hNext := ih hDigits.2 hBound
    rw [readDigits, digitValue?_of_isDigit hDigits.1]
    cases negative with
    | false =>
      simp only [Bool.false_eq_true, if_false] at hBound hNext ⊢
      rw [← hNext, if_neg (by omega), if_neg (by omega)]
      congr 1
      push_cast
      omega
    | true =>
      simp only [if_true] at hBound hNext ⊢
      rw [← hNext, if_neg (by omega), if_neg (by omega)]
      congr 1
      push_cast
      omega

/-- The text of an integer: its digits, and a sign if it is negative. -/
theorem toList_toString (n : Int) :
    (toString n).toList = (if n < 0 then ['-'] else []) ++ (toString n.natAbs).toList := by
  cases n with
  | ofNat n => simp [toString, Int.repr]
  | negSucc n => simp [toString, Int.repr, Int.negSucc_lt_zero]

theorem isDigit_of_mem_toString (h : c ∈ (toString m).toList) : c.isDigit = true := by
  rw [Nat.toString_eq_repr, Nat.toList_repr] at h
  exact Nat.isDigit_of_mem_toDigits (by decide) (by decide) h

theorem toString_ne_nil (m : Nat) : (toString m).toList ≠ [] := by
  rw [Nat.toString_eq_repr, Nat.toList_repr]
  exact Nat.toDigits_ne_nil

theorem isDigit_ne_sign (h : c.isDigit = true) : c ≠ '+' ∧ c ≠ '-' := by
  constructor <;> (rintro rfl; cases h)

/-- **An integer is read back** from its text. -/
theorem readInteger_toString (hRange : range.contains n = true) (hLeast : range.least ≤ 0)
    (hGreatest : 0 ≤ range.greatest) : readInteger range (toString n) = .ok n := by
  simp only [IntegerRange.contains, Bool.and_eq_true, decide_eq_true_eq] at hRange
  have hValue : Nat.ofDigitChars 10 (toString n.natAbs).toList 0 = n.natAbs := by
    rw [Nat.toString_eq_repr, Nat.toList_repr, Nat.ofDigitChars_ten_toDigits]
  have hDigits : ∀ c ∈ (toString n.natAbs).toList, c.isDigit = true :=
    fun c hc => isDigit_of_mem_toString hc
  obtain ⟨d, ds, hText⟩ := List.exists_cons_of_ne_nil (toString_ne_nil n.natAbs)
  rw [readInteger, toList_toString, hText]
  rw [hText] at hValue hDigits
  have hBound : if n < 0 then range.least ≤ -(Nat.ofDigitChars 10 (d :: ds) 0 : Int)
      else (Nat.ofDigitChars 10 (d :: ds) 0 : Int) ≤ range.greatest := by
    rw [hValue]
    split <;> omega
  have hRead := readDigits_of_isDigit (decide (n < 0)) hDigits hLeast hGreatest
    (by simpa using hBound)
  rw [hValue] at hRead
  by_cases hSign : n < 0
  · simp only [hSign, decide_true, if_true] at hRead ⊢
    show (if range.least < 0 then readDigits range true 0 (d :: ds) else _) = _
    rw [if_pos (by omega), show (n : Int) = -(n.natAbs : Int) by omega]
    exact hRead
  · have hFirst := isDigit_ne_sign (hDigits d List.mem_cons_self)
    simp only [hSign, decide_false, if_false, Bool.false_eq_true] at hRead ⊢
    -- The first digit is no sign.
    split
    · next hNil => cases hNil
    · next hPlus => exact absurd (List.cons.inj hPlus).1 hFirst.1
    · next hMinus => exact absurd (List.cons.inj hMinus).1 hFirst.2
    · next hPlus => exact absurd (List.cons.inj hPlus).1 hFirst.1
    · next hMinus => exact absurd (List.cons.inj hMinus).1 hFirst.2
    · rw [show (n : Int) = (n.natAbs : Int) by omega]
      exact hRead

theorem contains_of_readDigits {negative : Bool} {start : Int}
    (h : readDigits range negative start cs = .ok n) (hStart : range.contains start = true) :
    range.contains n = true := by
  induction cs generalizing start with
  | nil =>
    cases h
    exact hStart
  | cons c cs ih =>
    rw [readDigits] at h
    split at h
    · cases h
    dsimp only at h
    generalize (if negative = true then _ else _ : Int) = next at h
    split at h
    · cases h
    split at h
    · cases h
    · refine ih h ?_
      simp only [IntegerRange.contains, Bool.and_eq_true, decide_eq_true_eq]
      omega

/-- **What is read is inside the range**, if the range holds zero. -/
theorem contains_of_readInteger (h : readInteger range s = .ok n)
    (hZero : range.contains 0 = true) : range.contains n = true := by
  unfold readInteger at h
  split at h
  · cases h
  · cases h
  · cases h
  · exact contains_of_readDigits h hZero
  · split at h
    · exact contains_of_readDigits h hZero
    · cases h
  · exact contains_of_readDigits h hZero

theorem isBlank_of_isDigit (h : c.isDigit = true) : isBlank c = false := by
  have hDigit : 48 ≤ c.toNat ∧ c.toNat ≤ 57 := by
    rw [Char.isDigit, Bool.and_eq_true, decide_eq_true_eq, decide_eq_true_eq] at h
    exact h
  simp only [isBlank, Bool.or_eq_false_iff, Bool.and_eq_false_iff, decide_eq_false_iff_not,
    beq_eq_false_iff_ne]
  omega

theorem trimChars_of_not_blank (h : ∀ c ∈ cs, isBlank c = false) : trimChars cs = cs := by
  have hDrop {ds : List Char} (hAll : ∀ c ∈ ds, isBlank c = false) : ds.dropWhile isBlank = ds := by
    cases ds with
    | nil => rfl
    | cons d ds => exact List.dropWhile_cons_of_neg (by simp [hAll d List.mem_cons_self])
  rw [trimChars, hDrop h, hDrop (fun c hc => h c (List.mem_reverse.1 hc)), List.reverse_reverse]

/-- The text of an integer has no white space at its ends. -/
theorem trim_toString (n : Int) : trim (toString n) = toString n := by
  rw [trim, trimChars_of_not_blank, String.ofList_toList]
  intro c hc
  rw [toList_toString, List.mem_append] at hc
  rcases hc with hSign | hDigit
  · split at hSign
    · rw [List.mem_singleton.1 hSign]
      decide
    · cases hSign
  · exact isBlank_of_isDigit (isDigit_of_mem_toString hDigit)

end SwapArchive.Text
