import SolFrontier.Foundation.Codec

/-! # Fixed layouts

Byte strings that stand at given offsets of a longer one. Segments that lie
apart can be assembled, with zeros between them, into bytes that hold them all.
-/

namespace Foundation

/-- The bytes stand at an offset. -/
def Holds (data : List UInt8) (offset : Nat) (bytes : List UInt8) : Prop :=
  (data.drop offset).take bytes.length = bytes

theorem holds_singleton {data : List UInt8} {offset : Nat} {byte : UInt8} :
    Holds data offset [byte] ↔ data[offset]? = some byte := by
  rw [Holds, List.length_singleton]
  constructor
  · intro hholds
    have hhead : ((data.drop offset).take 1)[0]? = some byte := by rw [hholds]; rfl
    rwa [List.getElem?_take_of_lt Nat.zero_lt_one, List.getElem?_drop, Nat.add_zero] at hhead
  · intro hread
    obtain ⟨hoffset, hbyte⟩ := List.getElem?_eq_some_iff.mp hread
    rw [List.drop_eq_getElem_cons hoffset, hbyte]
    rfl

theorem Holds.getElem? {data bytes : List UInt8} {offset index : Nat}
    (hholds : Holds data offset bytes) (hindex : index < bytes.length) :
    data[offset + index]? = bytes[index]? := by
  rw [← List.getElem?_drop, ← List.getElem?_take_of_lt hindex, hholds]

/-- Bytes with what precedes them. -/
theorem Holds.prepend {data bytes : List UInt8} {offset : Nat} (hholds : Holds data offset bytes)
    (before : List UInt8) : Holds (before ++ data) (before.length + offset) bytes := by
  rw [Holds, List.drop_append, List.drop_eq_nil_of_le (Nat.le_add_right _ _), List.nil_append,
    Nat.add_sub_cancel_left]
  exact hholds

/-- Bytes and the offset they belong at. -/
abbrev Segment := Nat × List UInt8

/-- The segments come in order, none reaching into the next, from a position to another. -/
def Apart : Nat → List Segment → Nat → Prop
  | position, [], last => position ≤ last
  | position, segment :: rest, last =>
      position ≤ segment.1 ∧ Apart (segment.1 + segment.2.length) rest last

/-- An earlier position leaves a gap. -/
theorem Apart.widen {position earlier last : Nat} {segments : List Segment}
    (hapart : Apart position segments last) (hle : earlier ≤ position) :
    Apart earlier segments last := by
  cases segments with
  | nil => exact Nat.le_trans hle hapart
  | cons segment rest => exact ⟨Nat.le_trans hle hapart.1, hapart.2⟩

theorem Apart.append {position middle last : Nat} {front back : List Segment}
    (hfront : Apart position front middle) (hback : Apart middle back last) :
    Apart position (front ++ back) last := by
  induction front generalizing position with
  | nil => exact hback.widen hfront
  | cons segment rest ih => exact ⟨hfront.1, ih hfront.2⟩

/-- The segments at their offsets, zeros between them and up to the end. -/
def assemble : Nat → List Segment → Nat → List UInt8
  | position, [], last => List.replicate (last - position) 0
  | position, segment :: rest, last =>
      List.replicate (segment.1 - position) 0 ++
        (segment.2 ++ assemble (segment.1 + segment.2.length) rest last)

theorem length_assemble {position last : Nat} {segments : List Segment}
    (hapart : Apart position segments last) :
    position + (assemble position segments last).length = last := by
  induction segments generalizing position with
  | nil =>
      have hle : position ≤ last := hapart
      rw [assemble, List.length_replicate]
      omega
  | cons segment rest ih =>
      have hrest := ih hapart.2
      have hle := hapart.1
      rw [assemble, List.length_append, List.length_replicate, List.length_append]
      omega

/-- What was assembled holds every segment. -/
theorem holds_assemble {position last : Nat} {segments : List Segment}
    (hapart : Apart position segments last) {segment : Segment} (hmem : segment ∈ segments) :
    position ≤ segment.1 ∧
      Holds (assemble position segments last) (segment.1 - position) segment.2 := by
  induction segments generalizing position with
  | nil => cases hmem
  | cons first rest ih =>
      obtain ⟨hle, hrest⟩ := hapart
      rcases List.mem_cons.mp hmem with rfl | hother
      · -- The first segment stands after the gap before it.
        refine ⟨hle, ?_⟩
        have hfront : Holds (segment.2 ++ assemble (segment.1 + segment.2.length) rest last) 0
            segment.2 := by
          rw [Holds, List.drop_zero, List.take_left]
        have hgap := hfront.prepend (List.replicate (segment.1 - position) 0)
        rwa [List.length_replicate, Nat.add_zero] at hgap
      · obtain ⟨hafter, hholds⟩ := ih hrest hother
        refine ⟨by omega, ?_⟩
        have hgap := (hholds.prepend first.2).prepend (List.replicate (first.1 - position) 0)
        rw [List.length_replicate] at hgap
        rw [assemble]
        convert hgap using 1
        omega

end Foundation
