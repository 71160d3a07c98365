import Mathlib.Data.List.Basic

/-! # First matches

The first entry of a list that passes a test, with its position. A list laid
before another one decides first and moves the positions of the other.
-/

namespace Foundation

variable {α : Type} {test weaker : α → Bool} {list front back : List α} {item : α} {index : Nat}

/-- The entry at a position passes the test, and none before it does. -/
structure FirstMatch (test : α → Bool) (list : List α) (item : α) (index : Nat) : Prop where
  found : list[index]? = some item
  passes : test item = true
  first : ∀ earlier < index, ∀ other, list[earlier]? = some other → test other = false

namespace FirstMatch

/-- Whatever lies behind a first match does not change it. -/
theorem append_left (hmatch : FirstMatch test front item index) (back : List α) :
    FirstMatch test (front ++ back) item index := by
  obtain ⟨hindex, _⟩ := List.getElem?_eq_some_iff.mp hmatch.found
  refine ⟨?_, hmatch.passes, ?_⟩
  · rw [List.getElem?_append_left hindex]
    exact hmatch.found
  · intro earlier hlt other hother
    rw [List.getElem?_append_left (Nat.lt_trans hlt hindex)] at hother
    exact hmatch.first earlier hlt other hother

/-- A list without a match moves the first match behind it by its length. -/
theorem append_right (hnone : ∀ other ∈ front, test other = false)
    (hmatch : FirstMatch test back item index) :
    FirstMatch test (front ++ back) item (front.length + index) := by
  refine ⟨?_, hmatch.passes, ?_⟩
  · rw [List.getElem?_append_right (Nat.le_add_right _ _), Nat.add_sub_cancel_left]
    exact hmatch.found
  · intro earlier hlt other hother
    by_cases hfront : earlier < front.length
    · rw [List.getElem?_append_left hfront] at hother
      exact hnone other (List.mem_of_getElem? hother)
    · rw [List.getElem?_append_right (Nat.le_of_not_lt hfront)] at hother
      exact hmatch.first (earlier - front.length) (by omega) other hother

/-- The search without positions finds the entry of a first match. -/
theorem find?_eq (hmatch : FirstMatch test list item index) : list.find? test = some item := by
  obtain ⟨hindex, hitem⟩ := List.getElem?_eq_some_iff.mp hmatch.found
  refine List.find?_eq_some_iff_getElem.mpr ⟨hmatch.passes, index, hindex, hitem, ?_⟩
  intro earlier hlt
  have hearlier : list[earlier]? = some list[earlier] :=
    List.getElem?_eq_getElem (Nat.lt_trans hlt hindex)
  simpa using hmatch.first earlier hlt _ hearlier

end FirstMatch

/-- The search with positions finds exactly the first match. -/
theorem find?_zipIdx_eq_some :
    (list.zipIdx.find? fun entry => test entry.1) = some (item, index) ↔
      FirstMatch test list item index := by
  rw [List.find?_eq_some_iff_getElem]
  constructor
  · intro ⟨hpasses, position, hposition, hentry, hfirst⟩
    have hlength : position < list.length := by simpa using hposition
    rw [List.getElem_zipIdx, Nat.zero_add, Prod.mk.injEq] at hentry
    obtain ⟨hitem, rfl⟩ := hentry
    refine ⟨List.getElem?_eq_some_iff.mpr ⟨hlength, hitem⟩, hpasses, ?_⟩
    intro earlier hlt other hother
    obtain ⟨hbound, rfl⟩ := List.getElem?_eq_some_iff.mp hother
    simpa using hfirst earlier hlt
  · intro hmatch
    obtain ⟨hlength, hitem⟩ := List.getElem?_eq_some_iff.mp hmatch.found
    refine ⟨hmatch.passes, index, by simpa using hlength, by simp [hitem], ?_⟩
    intro earlier hlt
    have hearlier : list[earlier]? = some list[earlier] :=
      List.getElem?_eq_getElem (Nat.lt_trans hlt hlength)
    simpa using hmatch.first earlier hlt _ hearlier

theorem find?_zipIdx_eq_none :
    (list.zipIdx.find? fun entry => test entry.1) = none ↔
      ∀ other ∈ list, test other = false := by
  rw [List.find?_eq_none]
  constructor
  · intro hnone other hmem
    obtain ⟨position, hposition, rfl⟩ := List.mem_iff_getElem.mp hmem
    have hentry : (list[position], position) ∈ list.zipIdx := by
      apply List.mem_iff_getElem.mpr
      exact ⟨position, by simpa using hposition, by simp⟩
    simpa using hnone _ hentry
  · intro hnone entry hentry
    simp [hnone entry.1 (List.fst_mem_of_mem_zipIdx hentry)]

/-- Some entry is the first match, or every entry fails the test. -/
theorem firstMatch_or_none (test : α → Bool) (list : List α) :
    (∃ item index, FirstMatch test list item index) ∨ ∀ other ∈ list, test other = false := by
  cases hfind : list.zipIdx.find? fun entry => test entry.1 with
  | none => exact .inr (find?_zipIdx_eq_none.mp hfind)
  | some entry => exact .inl ⟨entry.1, entry.2, find?_zipIdx_eq_some.mp hfind⟩

/-- A test that lets more through has its first match no later. -/
theorem FirstMatch.of_weaker (hweaker : ∀ entry, test entry = true → weaker entry = true)
    (hmatch : FirstMatch test list item index) :
    ∃ other position, FirstMatch weaker list other position ∧ position ≤ index := by
  rcases firstMatch_or_none weaker list with ⟨other, position, hother⟩ | hnone
  · refine ⟨other, position, hother, Nat.le_of_not_lt ?_⟩
    intro hlt
    have hfails := hother.first index hlt item hmatch.found
    exact absurd (hweaker item hmatch.passes) (by simp [hfails])
  · have hfails := hnone item (List.mem_of_getElem? hmatch.found)
    exact absurd (hweaker item hmatch.passes) (by simp [hfails])

end Foundation
