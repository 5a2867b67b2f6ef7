import Mathlib

/-!
# The order of floats

Floats that are numbers are in a line from one infinity to the other: first by sign, then by
exponent, then by mantissa, and both zeros at one place. The comparisons of floats are those of the
places, so that they are total on numbers. What is no number compares with nothing.
-/

namespace SwapArchive.Decimal

open Float.Model

section Places

variable {a b : UnpackedFloat}

/-- **Place** of a float in the line of numbers: its sign, with the infinities beyond and zero
between, then its exponent and its mantissa, which count the other way below zero. -/
def place : UnpackedFloat → Int ×ₗ Int ×ₗ Int
  | .infinity .negative => toLex (-2, toLex (0, 0))
  | .finite .negative m e _ => toLex (-1, toLex (-e, -(m : Int)))
  | .zero _ => toLex (0, toLex (0, 0))
  | .finite .positive m e _ => toLex (1, toLex (e, (m : Int)))
  | .infinity .positive => toLex (2, toLex (0, 0))
  | .notANumber => toLex (3, toLex (0, 0))

private theorem compare_sign (s t : UnpackedFloat.Sign) : compare s t = match s, t with
    | .negative, .positive => .lt
    | .positive, .negative => .gt
    | _, _ => .eq := by
  cases s <;> cases t <;> rfl

private theorem isGE_then (o o' : Ordering) :
    (o.then o').isGE = true ↔ o = .gt ∨ o = .eq ∧ o'.isGE = true := by
  cases o <;> simp

theorem unpacked_le_iff (ha : a.isNaN = false) (hb : b.isNaN = false) :
    a.le b = true ↔ place a ≤ place b := by
  rcases a with (_ | _) | _ | _ | ⟨(_ | _), m, e, _⟩ <;>
    rcases b with (_ | _) | _ | _ | ⟨(_ | _), m', e', _⟩ <;>
    simp_all [UnpackedFloat.le, UnpackedFloat.compare, UnpackedFloat.isNaN, place,
      Prod.Lex.toLex_le_toLex, compare_sign, Ordering.isLE_then_iff_or, isGE_then,
      Int.compare_eq_lt, Int.compare_eq_gt, Nat.isLE_compare, Nat.isGE_compare]

theorem unpacked_lt_iff (ha : a.isNaN = false) (hb : b.isNaN = false) :
    a.lt b = true ↔ place a < place b := by
  rcases a with (_ | _) | _ | _ | ⟨(_ | _), m, e, _⟩ <;>
    rcases b with (_ | _) | _ | _ | ⟨(_ | _), m', e', _⟩ <;>
    simp_all [UnpackedFloat.lt, UnpackedFloat.compare, UnpackedFloat.isNaN, place,
      Prod.Lex.toLex_lt_toLex, compare_sign, Ordering.then_eq_lt, Ordering.then_eq_gt,
      Int.compare_eq_lt, Int.compare_eq_gt, Nat.compare_eq_lt, Nat.compare_eq_gt]

end Places

variable {x y z : Float}

/-- **Floats are compared by their places.** -/
theorem le_iff_place (hx : x.isNaN = false) (hy : y.isNaN = false) :
    x ≤ y ↔ place x.toModel.unpack ≤ place y.toModel.unpack :=
  decide_eq_true_iff.trans (unpacked_le_iff hx hy)

theorem lt_iff_place (hx : x.isNaN = false) (hy : y.isNaN = false) :
    x < y ↔ place x.toModel.unpack < place y.toModel.unpack :=
  decide_eq_true_iff.trans (unpacked_lt_iff hx hy)

/-- Only numbers compare. -/
theorem numbers_of_le (h : x ≤ y) : x.isNaN = false ∧ y.isNaN = false := by
  have hUnpacked : x.toModel.unpack.le y.toModel.unpack = true := decide_eq_true_iff.1 h
  constructor
  · show x.toModel.unpack.isNaN = false
    revert hUnpacked
    cases x.toModel.unpack <;> simp [UnpackedFloat.le, UnpackedFloat.compare, UnpackedFloat.isNaN]
  · show y.toModel.unpack.isNaN = false
    revert hUnpacked
    cases y.toModel.unpack <;> cases x.toModel.unpack <;>
      simp [UnpackedFloat.le, UnpackedFloat.compare, UnpackedFloat.isNaN]

theorem float_le_refl (hx : x.isNaN = false) : x ≤ x := (le_iff_place hx hx).2 le_rfl

theorem float_le_trans (hxy : x ≤ y) (hyz : y ≤ z) : x ≤ z := by
  obtain ⟨hx, hy⟩ := numbers_of_le hxy
  obtain ⟨-, hz⟩ := numbers_of_le hyz
  rw [le_iff_place hx hy] at hxy
  rw [le_iff_place hy hz] at hyz
  exact (le_iff_place hx hz).2 (hxy.trans hyz)

theorem float_not_lt (hx : x.isNaN = false) (hy : y.isNaN = false) : ¬ x < y ↔ y ≤ x := by
  rw [lt_iff_place hx hy, le_iff_place hy hx, not_lt]

theorem float_le_total (hx : x.isNaN = false) (hy : y.isNaN = false) : x ≤ y ∨ y ≤ x := by
  rw [le_iff_place hx hy, le_iff_place hy hx]
  exact le_total _ _

end SwapArchive.Decimal
