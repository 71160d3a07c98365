import Mathlib.Data.List.Sort

/-! # Order statistics

The items of a list by their rank in sorted order. Counting bounds the item of a
rank from both sides, whatever ties there are, and so relates the ranks of a
list to its quantiles.
-/

namespace Foundation

variable {α : Type} [LinearOrder α] {items other : List α} {rank low high : Nat}
  {value left right : α}

/-- The item that a rank has in sorted order, the smallest having rank zero. -/
def orderStatistic (items : List α) (rank : Nat) : Option α :=
  (items.insertionSort (· ≤ ·))[rank]?

theorem exists_orderStatistic (hrank : rank < items.length) :
    ∃ value, orderStatistic items rank = some value := by
  have hlength : rank < (items.insertionSort (· ≤ ·)).length := by
    rwa [List.length_insertionSort]
  exact ⟨_, List.getElem?_eq_getElem hlength⟩

theorem mem_of_orderStatistic (hvalue : orderStatistic items rank = some value) :
    value ∈ items :=
  (List.mem_insertionSort _).mp (List.mem_of_getElem? hvalue)

theorem insertionSort_congr (hperm : items.Perm other) :
    items.insertionSort (· ≤ ·) = other.insertionSort (· ≤ ·) := by
  have hsorted : (items.insertionSort (· ≤ ·)).Perm (other.insertionSort (· ≤ ·)) :=
    (List.perm_insertionSort _ items).trans
      (hperm.trans (List.perm_insertionSort _ other).symm)
  exact hsorted.eq_of_pairwise' (List.pairwise_insertionSort _ _) (List.pairwise_insertionSort _ _)

/-- The order of the list does not matter. -/
theorem orderStatistic_congr (hperm : items.Perm other) :
    orderStatistic items rank = orderStatistic other rank := by
  rw [orderStatistic, insertionSort_congr hperm, orderStatistic]

theorem orderStatistic_mono (hleft : orderStatistic items low = some left)
    (hright : orderStatistic items high = some right) (hle : low ≤ high) : left ≤ right := by
  obtain ⟨hlow, rfl⟩ := List.getElem?_eq_some_iff.mp hleft
  obtain ⟨hhigh, rfl⟩ := List.getElem?_eq_some_iff.mp hright
  exact List.sortedLE_insertionSort.getElem_le_getElem_of_le hle

/-! ## Counting -/

theorem countP_insertionSort (test : α → Bool) :
    (items.insertionSort (· ≤ ·)).countP test = items.countP test :=
  (List.perm_insertionSort _ items).countP_eq test

/-- The items up to the one of a rank are more than the rank. -/
theorem lt_countP_le (hvalue : orderStatistic items rank = some value) :
    rank < items.countP (· ≤ value) := by
  obtain ⟨hrank, _⟩ := List.getElem?_eq_some_iff.mp hvalue
  have hfront : ∀ item ∈ (items.insertionSort (· ≤ ·)).take (rank + 1),
      decide (item ≤ value) = true := by
    intro item hitem
    obtain ⟨position, hposition, rfl⟩ := List.mem_take_iff_getElem.mp hitem
    exact decide_eq_true
      (orderStatistic_mono (List.getElem?_eq_getElem (by omega)) hvalue (by omega))
  have hcount := List.countP_eq_length.mpr hfront
  calc rank < ((items.insertionSort (· ≤ ·)).take (rank + 1)).length := by
        rw [List.length_take]
        omega
    _ = ((items.insertionSort (· ≤ ·)).take (rank + 1)).countP (· ≤ value) := hcount.symm
    _ ≤ (items.insertionSort (· ≤ ·)).countP (· ≤ value) :=
        (List.take_sublist _ _).countP_le
    _ = items.countP (· ≤ value) := countP_insertionSort _

/-- The items before the one of a rank are at most as many as the rank. -/
theorem countP_lt_le (hvalue : orderStatistic items rank = some value) :
    items.countP (· < value) ≤ rank := by
  have hback : ∀ item ∈ (items.insertionSort (· ≤ ·)).drop rank,
      ¬ decide (item < value) = true := by
    intro item hitem
    obtain ⟨position, hposition, rfl⟩ := List.mem_drop_iff_getElem.mp hitem
    have hle : value ≤ (items.insertionSort (· ≤ ·))[rank + position] :=
      orderStatistic_mono hvalue (List.getElem?_eq_getElem (by omega)) (by omega)
    simpa using hle
  calc items.countP (· < value)
      = (items.insertionSort (· ≤ ·)).countP (· < value) := (countP_insertionSort _).symm
    _ = ((items.insertionSort (· ≤ ·)).take rank).countP (· < value) +
          ((items.insertionSort (· ≤ ·)).drop rank).countP (· < value) := by
        rw [← List.countP_append, List.take_append_drop]
    _ = ((items.insertionSort (· ≤ ·)).take rank).countP (· < value) := by
        rw [List.countP_eq_zero.mpr hback, Nat.add_zero]
    _ ≤ ((items.insertionSort (· ≤ ·)).take rank).length := List.countP_le_length
    _ ≤ rank := List.length_take_le _ _

/-! ## Quantiles -/

/-- An item with at least a fraction of the items up to it, and at most that
fraction below it. -/
structure IsQuantile (items : List α) (part whole : Nat) (value : α) : Prop where
  mem : value ∈ items
  upTo : part * items.length ≤ whole * items.countP (· ≤ value)
  below : whole * items.countP (· < value) ≤ part * items.length

/-- A rank of at most a fraction of the length has at most that fraction below it. -/
theorem below_of_rank_le {part whole : Nat} (hvalue : orderStatistic items rank = some value)
    (hrank : rank ≤ part * items.length / whole) :
    whole * items.countP (· < value) ≤ part * items.length :=
  calc whole * items.countP (· < value)
      ≤ whole * (part * items.length / whole) :=
        Nat.mul_le_mul_left whole ((countP_lt_le hvalue).trans hrank)
    _ ≤ part * items.length := Nat.mul_div_le _ _

/-- The fraction of the length, rounded down and kept inside the list, is the rank
of a quantile. -/
theorem isQuantile_orderStatistic {part whole : Nat} (hwhole : 0 < whole) (hpart : part ≤ whole)
    (hvalue : orderStatistic items (min (part * items.length / whole) (items.length - 1)) =
      some value) : IsQuantile items part whole value where
  mem := mem_of_orderStatistic hvalue
  upTo := by
    have hcount := lt_countP_le hvalue
    rcases Nat.le_total (part * items.length / whole) (items.length - 1) with hle | hle
    · rw [Nat.min_eq_left hle] at hcount
      calc part * items.length
          ≤ whole * (part * items.length / whole + 1) := (Nat.lt_mul_div_succ _ hwhole).le
        _ ≤ whole * items.countP (· ≤ value) := Nat.mul_le_mul_left whole hcount
    · -- The last item has every item up to it.
      rw [Nat.min_eq_right hle] at hcount
      exact Nat.mul_le_mul hpart (by omega)
  below := below_of_rank_le hvalue (Nat.min_le_left _ _)

end Foundation
