import Mathlib.Algebra.BigOperators.Group.List.Basic
import Mathlib.Algebra.Order.BigOperators.Group.List
import Mathlib.Algebra.Order.Group.Nat
import Mathlib.Tactic.Ring
import SolFrontier.Foundation.Repository

/-! # Sums of machine words

A column of signed words is added up with a check for overflow; a counter of
unsigned words wraps. As long as the check passes, both show the same word.
-/

namespace Foundation

/-- Add up a column of signed words. No result is an overflow. -/
def sumChecked (values : List Int64) : Option Int64 :=
  values.foldlM (fun total value =>
    if -2 ^ 63 ≤ total.toInt + value.toInt ∧ total.toInt + value.toInt < 2 ^ 63 then
      some (total + value)
    else none) 0

theorem sumChecked_concat (values : List Int64) (value : Int64) :
    sumChecked (values ++ [value]) = (sumChecked values).bind fun total =>
      if -2 ^ 63 ≤ total.toInt + value.toInt ∧ total.toInt + value.toInt < 2 ^ 63 then
        some (total + value)
      else none := by
  simp [sumChecked, List.foldlM_append]

theorem toInt_of_sumChecked {values : List Int64} {total : Int64}
    (hsum : sumChecked values = some total) : total.toInt = (values.map Int64.toInt).sum := by
  induction values using List.reverseRecOn generalizing total with
  | nil =>
      obtain rfl := Option.some.inj hsum
      rfl
  | append_singleton values value ih =>
      rw [sumChecked_concat, Option.bind_eq_some_iff] at hsum
      obtain ⟨earlier, hearlier, hnext⟩ := hsum
      split at hnext
      next hrange =>
        obtain rfl := Option.some.inj hnext
        rw [Int64.toInt_add, Int.bmod_eq_of_le (by omega) (by omega), ih hearlier]
        simp
      next => cases hnext

/-- The check passes when no partial sum leaves the range. -/
theorem exists_sumChecked {values : List Int64}
    (hrange : ∀ front, front <+: values →
      -2 ^ 63 ≤ (front.map Int64.toInt).sum ∧ (front.map Int64.toInt).sum < 2 ^ 63) :
    ∃ total, sumChecked values = some total := by
  induction values using List.reverseRecOn with
  | nil => exact ⟨0, rfl⟩
  | append_singleton values value ih =>
      obtain ⟨total, htotal⟩ := ih fun front hfront =>
        hrange front (hfront.trans (List.prefix_append _ _))
      have hlast := hrange _ List.prefix_rfl
      rw [List.map_append, List.sum_append, List.map_singleton, List.sum_singleton,
        ← toInt_of_sumChecked htotal] at hlast
      exact ⟨total + value, by rw [sumChecked_concat, htotal, Option.bind_some, if_pos hlast]⟩

section Unsigned

variable {amounts : List UInt64}

def exactSum (amounts : List UInt64) : Nat := (amounts.map UInt64.toNat).sum

@[simp] theorem exactSum_nil : exactSum [] = 0 := rfl

@[simp] theorem exactSum_cons (amount : UInt64) (amounts : List UInt64) :
    exactSum (amount :: amounts) = amount.toNat + exactSum amounts := rfl

@[simp] theorem exactSum_append (left right : List UInt64) :
    exactSum (left ++ right) = exactSum left + exactSum right := by
  simp [exactSum]

theorem exactSum_le {left right : List UInt64} (hsublist : left.Sublist right) :
    exactSum left ≤ exactSum right :=
  (hsublist.map UInt64.toNat).sum_le_sum fun _ _ => Nat.zero_le _

theorem exactSum_perm {left right : List UInt64} (hperm : left.Perm right) :
    exactSum left = exactSum right :=
  (hperm.map UInt64.toNat).sum_eq

theorem toNat_sum (amounts : List UInt64) : amounts.sum.toNat = exactSum amounts % 2 ^ 64 := by
  induction amounts with
  | nil => rfl
  | cons amount rest ih =>
      rw [List.sum_cons, UInt64.toNat_add, ih, exactSum_cons, Nat.add_mod_mod]

/-- A sum of cast words that passes the check is the wrapping sum. -/
theorem toUInt64_of_sumChecked {total : Int64}
    (hsum : sumChecked (amounts.map UInt64.toInt64) = some total) :
    total.toUInt64 = amounts.sum := by
  induction amounts using List.reverseRecOn generalizing total with
  | nil =>
      obtain rfl := Option.some.inj hsum
      rfl
  | append_singleton amounts amount ih =>
      rw [List.map_append, List.map_singleton, sumChecked_concat,
        Option.bind_eq_some_iff] at hsum
      obtain ⟨earlier, hearlier, hnext⟩ := hsum
      split at hnext
      next =>
        obtain rfl := Option.some.inj hnext
        rw [List.sum_append, ← ih hearlier, List.sum_singleton]
        rfl
      next => cases hnext

/-! ## When the cast sum is exact -/

def IsSmall (amount : UInt64) : Bool := amount.toNat < 2 ^ 63

/-- The sum is a word, and without the words that show as negative it is a
positive signed one. -/
def FitsSigned (amounts : List UInt64) : Prop :=
  exactSum amounts < 2 ^ 64 ∧ exactSum (amounts.filter IsSmall) < 2 ^ 63

theorem FitsSigned.sublist {part : List UInt64} (hfits : FitsSigned amounts)
    (hsublist : part.Sublist amounts) : FitsSigned part :=
  ⟨lt_of_le_of_lt (exactSum_le hsublist) hfits.1,
    lt_of_le_of_lt (exactSum_le (hsublist.filter _)) hfits.2⟩

theorem FitsSigned.perm {other : List UInt64} (hfits : FitsSigned amounts)
    (hperm : other.Perm amounts) : FitsSigned other := by
  unfold FitsSigned
  rw [exactSum_perm hperm, exactSum_perm (hperm.filter _)]
  exact hfits

/-- The large words take part with `2 ^ 64` less. -/
theorem signed_sum (amounts : List UInt64) :
    ((amounts.map UInt64.toInt64).map Int64.toInt).sum =
        exactSum amounts - 2 ^ 64 * (amounts.countP fun amount => !IsSmall amount) ∧
      exactSum (amounts.filter IsSmall) +
        2 ^ 63 * (amounts.countP fun amount => !IsSmall amount) ≤ exactSum amounts ∧
      ((amounts.countP fun amount => !IsSmall amount) = 0 →
        exactSum (amounts.filter IsSmall) = exactSum amounts) := by
  induction amounts with
  | nil => simp
  | cons amount rest ih =>
      obtain ⟨hsum, hle, hall⟩ := ih
      rw [List.map_cons, List.map_cons, List.sum_cons, hsum, toInt_toInt64, exactSum_cons]
      cases hsmall : IsSmall amount with
      | true =>
          have hlt : amount.toNat < 2 ^ 63 := of_decide_eq_true hsmall
          rw [if_pos hlt]
          simp only [List.filter_cons, hsmall, if_true, exactSum_cons, List.countP_cons,
            Bool.not_true, Bool.false_eq_true, if_false, Nat.add_zero]
          refine ⟨?_, ?_, fun hnone => by rw [hall hnone]⟩
          · push_cast
            ring
          · omega
      | false =>
          have hle' : ¬ amount.toNat < 2 ^ 63 := of_decide_eq_false hsmall
          rw [if_neg hle']
          simp only [List.filter_cons, hsmall, Bool.false_eq_true, if_false, List.countP_cons,
            Bool.not_false, if_true]
          refine ⟨?_, ?_, fun hnone => ?_⟩
          · push_cast
            ring
          · omega
          · omega

/-- Below `2 ^ 64`, the cast sum is in range exactly when it fits. -/
theorem fitsSigned_iff (hword : exactSum amounts < 2 ^ 64) :
    FitsSigned amounts ↔ -2 ^ 63 ≤ ((amounts.map UInt64.toInt64).map Int64.toInt).sum ∧
      ((amounts.map UInt64.toInt64).map Int64.toInt).sum < 2 ^ 63 := by
  obtain ⟨hsum, hle, hall⟩ := signed_sum amounts
  unfold FitsSigned
  rw [hsum]
  rcases Nat.eq_zero_or_pos (amounts.countP fun amount => !IsSmall amount) with hnone | hsome
  · rw [hnone, hall hnone]
    omega
  · -- there is room for one large word only
    have hone : (amounts.countP fun amount => !IsSmall amount) = 1 := by omega
    rw [hone] at hle ⊢
    omega

/-- A column that fits is added up without overflow, to the exact sum. -/
theorem FitsSigned.sumChecked (hfits : FitsSigned amounts) :
    ∃ total, sumChecked (amounts.map UInt64.toInt64) = some total ∧
      total.toUInt64 = amounts.sum ∧ amounts.sum.toNat = exactSum amounts := by
  obtain ⟨total, htotal⟩ : ∃ total, Foundation.sumChecked (amounts.map UInt64.toInt64) =
      some total := by
    apply exists_sumChecked
    intro front hfront
    obtain ⟨part, hpart, rfl⟩ := List.prefix_map_iff.mp hfront
    have hpartial := hfits.sublist hpart.sublist
    exact (fitsSigned_iff hpartial.1).mp hpartial
  refine ⟨total, htotal, toUInt64_of_sumChecked htotal, ?_⟩
  rw [toNat_sum, Nat.mod_eq_of_lt hfits.1]

/-- A column whose exact sum is a word and that is added up without overflow fits. -/
theorem fitsSigned_of_sumChecked {total : Int64} (hword : exactSum amounts < 2 ^ 64)
    (hsum : sumChecked (amounts.map UInt64.toInt64) = some total) : FitsSigned amounts := by
  rw [fitsSigned_iff hword, ← toInt_of_sumChecked hsum]
  exact ⟨total.le_toInt, total.toInt_lt⟩

end Unsigned

end Foundation
