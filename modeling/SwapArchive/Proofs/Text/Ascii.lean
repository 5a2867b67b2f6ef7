import Mathlib.Data.List.Forall2
import SwapArchive.Text.Ascii

/-!
# Texts that differ in case

Two texts are taken for the same token if they have the same letters, one after the other, in
whatever case. Only the letters of ASCII have two cases.
-/

namespace SwapArchive.Text

variable {c d : Char} {a b a' b' : String}

/-- **The same letter**: one and the same character, or a capital letter of ASCII and the small one,
whose number is greater by 32. -/
def SameLetter (c d : Char) : Prop :=
  c = d ∨ (c.isUpper = true ∧ d.toNat = c.toNat + 32) ∨ (d.isUpper = true ∧ c.toNat = d.toNat + 32)

instance : Decidable (SameLetter c d) :=
  inferInstanceAs (Decidable (c = d ∨ (c.isUpper = true ∧ d.toNat = c.toNat + 32) ∨
    (d.isUpper = true ∧ c.toNat = d.toNat + 32)))

/-- **The same text but for case**, letter by letter. -/
def SameButCase (a b : String) : Prop := List.Forall₂ SameLetter a.toList b.toList

instance : Decidable (SameButCase a b) :=
  inferInstanceAs (Decidable (List.Forall₂ SameLetter a.toList b.toList))

theorem isUpper_iff : c.isUpper = true ↔ 65 ≤ c.toNat ∧ c.toNat ≤ 90 := by
  have hUpper : c.isUpper = decide (c.val ≥ 'A'.val ∧ c.val ≤ 'Z'.val) := rfl
  rw [hUpper, decide_eq_true_eq]
  exact Iff.rfl

theorem toNat_toLower (c : Char) :
    c.toLower.toNat = if c.isUpper then c.toNat + 32 else c.toNat := by
  by_cases hUpper : c.isUpper = true
  · have hRange := isUpper_iff.1 hUpper
    have hCapital : c.val ≥ 'A'.val ∧ c.val ≤ 'Z'.val := hRange
    have hLower : c.toLower.val = c.val + 32 := congrArg Char.val (dif_pos hCapital)
    rw [if_pos hUpper]
    show c.toLower.val.toNat = c.val.toNat + 32
    have hValue : c.val.toNat ≤ 90 := hRange.2
    have hStep : (32 : UInt32).toNat = 32 := rfl
    rw [hLower, UInt32.toNat_add, hStep]
    omega
  · have hOther : ¬ (c.val ≥ 'A'.val ∧ c.val ≤ 'Z'.val) := fun h => hUpper (isUpper_iff.2 h)
    have hSame : c.toLower = c := dif_neg hOther
    rw [if_neg hUpper, hSame]

/-- Folding makes the cases of one letter equal, and nothing else. -/
theorem toLower_eq_toLower : c.toLower = d.toLower ↔ SameLetter c d := by
  rw [SameLetter, ← Char.toNat_inj, ← Char.toNat_inj, toNat_toLower, toNat_toLower]
  by_cases hc : c.isUpper = true <;> by_cases hd : d.isUpper = true
  · have hcRange := isUpper_iff.1 hc
    have hdRange := isUpper_iff.1 hd
    simp only [hc, hd, if_true, true_and]
    omega
  · simp only [hc, hd, if_true, if_false, true_and, Bool.false_eq_true, false_and, or_false]
    rw [isUpper_iff] at hc hd
    omega
  · simp only [hc, hd, if_true, if_false, true_and, Bool.false_eq_true, false_and, false_or]
    rw [isUpper_iff] at hc hd
    omega
  · simp only [hc, hd, if_false, Bool.false_eq_true, false_and, or_false]

/-- **Equality of folded texts** is sameness but for case. -/
theorem sameIgnoringCase_iff : sameIgnoringCase a b = true ↔ SameButCase a b := by
  rw [sameIgnoringCase, beq_iff_eq, foldChars, foldChars, ← List.forall₂_eq_eq_eq,
    List.forall₂_map_left_iff, List.forall₂_map_right_iff, SameButCase]
  simp only [toLower_eq_toLower]

/-- A change of case does not change which texts are the same. -/
theorem sameIgnoringCase_congr (ha : SameButCase a a') (hb : SameButCase b b') :
    sameIgnoringCase a' b' = sameIgnoringCase a b := by
  rw [← sameIgnoringCase_iff, sameIgnoringCase, beq_iff_eq] at ha hb
  rw [sameIgnoringCase, sameIgnoringCase, ha, hb]

theorem sameIgnoringCase_comm (a b : String) : sameIgnoringCase a b = sameIgnoringCase b a :=
  Bool.beq_comm

theorem sameIgnoringCase_trans {c : String} (h : sameIgnoringCase a c = true)
    (h' : sameIgnoringCase b c = true) : sameIgnoringCase a b = true := by
  rw [sameIgnoringCase, beq_iff_eq] at *
  rw [h, h']

end SwapArchive.Text
