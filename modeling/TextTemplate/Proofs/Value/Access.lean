import Mathlib.Data.List.Basic
import TextTemplate.Eval.Access
import TextTemplate.Library.Standard
import TextTemplate.Proofs.Value.Range

/-!
# Elements by their index

An index counts from the first element on, or back from behind the last one, and selects an element
unless it leaves them (`Selects`). A range is accessed as the list of its members would be
(`Value.access_int_of_elements`).
-/

namespace TextTemplate

/-- The index counts from the first of `count` elements on or back from behind the last one, and
does not leave them. -/
def Selects (count : Int) (index : Int64) : Prop :=
  -count ≤ index.toInt ∧ index.toInt < count

instance (count : Int) (index : Int64) : Decidable (Selects count index) :=
  inferInstanceAs (Decidable (_ ∧ _))

/-- An index that selects an element selects the one at the position that it counts to. -/
theorem element_at?_of_selects {α : Type} {items : List α} {index : Int64}
    (h : Selects items.length index) :
    ∃ position : Nat, (position : Int) = fromEnd items.length index.toInt ∧
      position < items.length ∧ elementAt? items index = items[position]? := by
  obtain ⟨hlow, hhigh⟩ := h
  have hplace : 0 ≤ fromEnd items.length index.toInt ∧
      fromEnd items.length index.toInt < items.length := by
    unfold fromEnd
    split <;> omega
  refine ⟨(fromEnd items.length index.toInt).toNat, by omega, by omega, ?_⟩
  rw [elementAt?, if_pos hplace.1]

/-- Any other index selects no element. -/
theorem element_at?_of_not_selects {α : Type} {items : List α} {index : Int64}
    (h : ¬ Selects items.length index) : elementAt? items index = none := by
  have hplace : fromEnd items.length index.toInt < 0 ∨
      items.length ≤ fromEnd items.length index.toInt := by
    unfold Selects at h
    unfold fromEnd
    split <;> omega
  rw [elementAt?]
  split
  · exact List.getElem?_eq_none (by omega)
  · rfl

/-- An element is selected before or after the elements are changed one by one. -/
theorem element_at?_map {α β : Type} (f : α → β) (items : List α) (index : Int64) :
    elementAt? (items.map f) index = (elementAt? items index).map f := by
  rw [elementAt?, elementAt?, List.length_map]
  split
  · exact List.getElem?_map
  · rfl

/-- A slice is selected before or after the elements are changed one by one. -/
theorem slice_map {α β : Type} (f : α → β) (range : IntRange) (items : List α) :
    range.slice (items.map f) = (range.slice items).map f := by
  rw [IntRange.slice, IntRange.slice, List.length_map, List.map_filterMap]
  exact List.filterMap_congr fun position _ => List.getElem?_map

/-! ## Finding a member -/

/-- A member is found by its index as in the list of all members. -/
theorem IntRange.get?_eq_element_at (range : IntRange) (index : Int64) :
    range.get? index = elementAt? range.members index := by
  show (if 0 ≤ fromEnd range.count index.toInt ∧ fromEnd range.count index.toInt < range.count
    then Number.int64? (range.memberAt (fromEnd range.count index.toInt).toNat) else none) = _
  rw [elementAt?, range.length_members]
  generalize fromEnd range.count index.toInt = place
  by_cases hfirst : 0 ≤ place
  · by_cases hlast : place < range.count
    · have hplace : place.toNat < range.count := by omega
      rw [if_pos ⟨hfirst, hlast⟩, if_pos hfirst, range.int64?_member_at hplace, range.members_eq,
        List.getElem?_map, List.getElem?_range hplace]
      rfl
    · have hnone : range.members[place.toNat]? = none :=
        List.getElem?_eq_none (by rw [range.length_members]; omega)
      rw [if_neg fun h => hlast h.2, if_pos hfirst, hnone]
  · rw [if_neg fun h => hfirst h.1, if_neg hfirst]

/-- An index selects from a value what it selects from the list of its elements. -/
theorem Value.access_int_of_elements {value : Value} {elements : List Value}
    (h : StandardFunction.elementsOf? value = some elements) (index : Int64) :
    value.access (.int index) = (elementAt? elements index).getD .null := by
  unfold StandardFunction.elementsOf? at h
  split at h
  · next items =>
      cases h
      rfl
  · next range =>
      cases h
      rw [element_at?_map, ← range.get?_eq_element_at, Value.access]
      cases range.get? index <;> rfl
  · cases h

end TextTemplate
