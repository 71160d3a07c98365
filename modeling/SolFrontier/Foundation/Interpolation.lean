import Mathlib.Algebra.Order.Ring.Nat
import Mathlib.Tactic.Ring

/-! # Fixed-point shares and interpolation

Natural numbers in units of one over a scale, every division rounded down. A
share of a whole is at most one and grows with its part; a line between two
points stays between them, grows with its argument and reaches its upper end.
-/

namespace Foundation

variable {scale : Nat}

/-- What a part is of the whole it makes with the rest. -/
def share (scale part rest : Nat) : Nat := part * scale / (part + rest)

@[simp] theorem share_zero (scale rest : Nat) : share scale 0 rest = 0 := by
  simp [share]

theorem share_le (scale part rest : Nat) : share scale part rest ≤ scale := by
  apply Nat.div_le_of_le_mul
  exact Nat.mul_le_mul_right scale (Nat.le_add_right part rest)

/-- A larger part is a larger share. -/
theorem share_mono {part more rest : Nat} (hmore : part ≤ more) :
    share scale part rest ≤ share scale more rest := by
  rcases Nat.eq_zero_or_pos part with rfl | hpart
  · simp
  have hwhole : 0 < more + rest := by omega
  rw [share, share, Nat.le_div_iff_mul_le hwhole]
  have hquotient := Nat.div_mul_le_self (part * scale) (part + rest)
  have hone := share_le scale part rest
  have hgrown : more + rest = (part + rest) + (more - part) := by omega
  -- The quotient is at most one, so growing the whole costs at most what it adds to the part.
  calc part * scale / (part + rest) * (more + rest)
      = part * scale / (part + rest) * (part + rest) +
          part * scale / (part + rest) * (more - part) := by rw [hgrown, Nat.mul_add]
    _ ≤ part * scale + scale * (more - part) :=
        Nat.add_le_add hquotient (Nat.mul_le_mul_right _ hone)
    _ = more * scale := by
        rw [Nat.mul_comm scale, ← Nat.add_mul, Nat.add_sub_cancel' hmore]

/-- A line from one point to another, through a weight that is rounded down. -/
def interpolate (scale lower upper low high value : Nat) : Nat :=
  (value - lower) * scale / (upper - lower) * (high - low) / scale + low

theorem weight_le {lower upper value : Nat} (hvalue : value ≤ upper) :
    (value - lower) * scale / (upper - lower) ≤ scale := by
  apply Nat.div_le_of_le_mul
  exact Nat.mul_le_mul_right scale (by omega)

/-- The line adds no more than the way to its upper end. -/
theorem scaled_weight_le {lower upper value : Nat} (range : Nat) (hvalue : value ≤ upper) :
    (value - lower) * scale / (upper - lower) * range / scale ≤ range := by
  apply Nat.div_le_of_le_mul
  exact Nat.mul_le_mul_right range (weight_le hvalue)

/-- A line stays between its ends up to its upper point. -/
theorem interpolate_between (scale lower : Nat) {upper low high value : Nat} (hrange : low ≤ high)
    (hvalue : value ≤ upper) :
    low ≤ interpolate scale lower upper low high value ∧
      interpolate scale lower upper low high value ≤ high := by
  have hadded : (value - lower) * scale / (upper - lower) * (high - low) / scale ≤ high - low :=
    scaled_weight_le (high - low) hvalue
  constructor
  · exact Nat.le_add_left _ _
  · calc interpolate scale lower upper low high value
        ≤ high - low + low := Nat.add_le_add_right hadded low
      _ = high := Nat.sub_add_cancel hrange

theorem interpolate_mono (scale lower upper low high : Nat) {value more : Nat}
    (hmore : value ≤ more) :
    interpolate scale lower upper low high value ≤ interpolate scale lower upper low high more := by
  apply Nat.add_le_add_right
  apply Nat.div_le_div_right
  apply Nat.mul_le_mul_right
  apply Nat.div_le_div_right
  apply Nat.mul_le_mul_right
  omega

end Foundation
