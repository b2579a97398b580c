/-!
# Segments of lists

Reading a run of consecutive elements and writing over one. `overwrite` replaces as many elements
as it is given, so inside a list it keeps the length (`length_overwrite`), is found again by
`segment` (`segment_overwrite`) and leaves the elements outside the run alone
(`getElem?_overwrite`).
-/

set_option autoImplicit false
set_option relaxedAutoImplicit false

namespace SmartCard

variable {α : Type}

/-- The `length` elements from `start` on. -/
def segment (start length : Nat) (list : List α) : List α :=
  (list.drop start).take length

/-- The list with the elements from `start` on replaced by those of `patch`. -/
def overwrite (start : Nat) (patch list : List α) : List α :=
  list.take start ++ patch ++ list.drop (start + patch.length)

/-- A run inside a list has the length asked for. -/
theorem length_segment {start length : Nat} {list : List α}
    (hrange : start + length ≤ list.length) : (segment start length list).length = length := by
  simp only [segment, List.length_take, List.length_drop]
  omega

/-- Writing over a run inside a list keeps its length. -/
theorem length_overwrite {start : Nat} {patch list : List α}
    (hrange : start + patch.length ≤ list.length) :
    (overwrite start patch list).length = list.length := by
  simp only [overwrite, List.length_append, List.length_take, List.length_drop]
  omega

/-- After writing over a run, the positions of the run hold the new elements and all others what
they held before. -/
theorem getElem?_overwrite {start : Nat} {patch list : List α}
    (hrange : start + patch.length ≤ list.length) (position : Nat) :
    (overwrite start patch list)[position]? =
      if start ≤ position ∧ position < start + patch.length then patch[position - start]?
      else list[position]? := by
  rw [overwrite, List.append_assoc, List.getElem?_append, List.length_take]
  by_cases hbefore : position < min start list.length
  · rw [if_pos hbefore, if_neg (by omega), List.getElem?_take, if_pos (by omega)]
  · rw [if_neg hbefore, List.getElem?_append]
    have hmin : min start list.length = start := by omega
    rw [hmin] at hbefore ⊢
    by_cases hinside : position - start < patch.length
    · rw [if_pos hinside, if_pos (by omega)]
    · rw [if_neg hinside, if_neg (by omega), List.getElem?_drop]
      congr 1
      omega

/-- The run just written is read back. -/
theorem segment_overwrite {start : Nat} {patch list : List α}
    (hrange : start + patch.length ≤ list.length) :
    segment start patch.length (overwrite start patch list) = patch := by
  have hstart : (list.take start).length = start := by
    rw [List.length_take]
    omega
  rw [segment, overwrite, List.append_assoc, List.drop_append_of_le_length (by omega),
    List.drop_of_length_le (by omega), List.nil_append, List.take_left' rfl]

end SmartCard
