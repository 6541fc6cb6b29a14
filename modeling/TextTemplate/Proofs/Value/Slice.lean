import Mathlib
import TextTemplate.Proofs.Value.Access

/-!
# Slices

A range chooses positions of a list or a text (`IntRange.Chooses`): those between its bounds, which
count from the end where they are negative and are cut off at the ends, at whole strides from the
first. `Value.slices_select_exactly` says that a slice consists of the elements at just these
positions, in their order, that a range of a single index selects the element that the index counts
to, and that a list or a text may be cut in two behind any position.
-/

namespace TextTemplate

namespace IntRange

variable (range : IntRange)

/-- The range chooses the position out of `length` ones. -/
def Chooses (length position : Nat) : Prop :=
  max 0 (fromEnd length range.start.toInt) ≤ position ∧
    position ≤ min (length - 1 : Int) (fromEnd length range.stop.toInt) ∧
    position ≡ max 0 (fromEnd length range.start.toInt) [ZMOD range.stride]

instance (length position : Nat) : Decidable (range.Chooses length position) :=
  inferInstanceAs (Decidable (_ ∧ _ ∧ _))

/-- A position that is chosen is a position of an element. -/
theorem Chooses.lt {range : IntRange} {length position : Nat} (h : range.Chooses length position) :
    position < length := by
  have := h.2.1
  omega

/-- The first position of a slice. -/
def firstPosition (length : Nat) : Int :=
  max (fromEnd length range.start.toInt) 0

/-- The position that a slice does not go beyond. -/
def lastPosition (length : Nat) : Int :=
  min (fromEnd length range.stop.toInt) (length - 1)

theorem first_position_nonneg (length : Nat) : 0 ≤ range.firstPosition length :=
  Int.le_max_right _ _

/-- The positions of a slice lie at whole strides from the first one. -/
theorem positions_eq (length : Nat) :
    range.positions length =
      if range.lastPosition length < range.firstPosition length then []
      else (List.range ((range.lastPosition length - range.firstPosition length).toNat /
          range.stride.toNat + 1)).map fun step =>
        (range.firstPosition length).toNat + step * range.stride.toNat :=
  rfl

/-- A position of a slice lies at whole strides from the first one and not behind the last one. -/
theorem mem_positions_iff_strides {length position : Nat} :
    position ∈ range.positions length ↔ ∃ strides : Nat,
      (position : Int) = range.firstPosition length + strides * range.stride ∧
        position ≤ range.lastPosition length := by
  have hfirst := range.first_position_nonneg length
  have hoffset : ∀ strides : Nat,
      (((range.firstPosition length).toNat + strides * range.stride.toNat : Nat) : Int) =
        range.firstPosition length + strides * range.stride := by
    intro strides
    rw [Int.natCast_add, Int.natCast_mul, stride_to_nat, Int.toNat_of_nonneg hfirst]
  rw [positions_eq]
  split
  · next hempty =>
      refine ⟨fun h => absurd h List.not_mem_nil, ?_⟩
      rintro ⟨strides, hposition, hlast⟩
      have := range.offset_nonneg strides
      omega
  · next hsome =>
      have hbound : ∀ strides : Nat, strides <
          (range.lastPosition length - range.firstPosition length).toNat / range.stride.toNat + 1 ↔
            range.firstPosition length + strides * range.stride ≤ range.lastPosition length := by
        intro strides
        have hpos := range.stride_pos
        have hstrides := hoffset strides
        rw [Nat.lt_succ_iff, Nat.le_div_iff_mul_le (by omega)]
        omega
      simp only [List.mem_map, List.mem_range, hbound]
      constructor
      · rintro ⟨strides, hle, rfl⟩
        exact ⟨strides, hoffset strides, (hoffset strides).symm ▸ hle⟩
      · rintro ⟨strides, hposition, hlast⟩
        have hsame := (hoffset strides).trans hposition.symm
        exact ⟨strides, hposition ▸ hlast, Int.ofNat_inj.mp hsame⟩

/-- The positions of a slice are the ones that the range chooses. -/
theorem mem_positions_iff {length position : Nat} :
    position ∈ range.positions length ↔ range.Chooses length position := by
  have hchooses : range.Chooses length position ↔
      range.firstPosition length ≤ position ∧ position ≤ range.lastPosition length ∧
        range.stride ∣ position - range.firstPosition length := by
    rw [Chooses, max_comm, min_comm, Int.modEq_comm, Int.modEq_iff_dvd]
    rfl
  rw [mem_positions_iff_strides, hchooses]
  constructor
  · rintro ⟨strides, hposition, hlast⟩
    have := range.offset_nonneg strides
    refine ⟨by omega, hlast, strides, ?_⟩
    rw [hposition, add_sub_cancel_left, Int.mul_comm]
  · rintro ⟨hlow, hlast, hstrides⟩
    obtain ⟨strides, hdistance⟩ := range.exists_strides (by omega) hstrides
    exact ⟨strides, by omega, hlast⟩

/-- The positions of a slice ascend. -/
theorem pairwise_positions (length : Nat) : (range.positions length).Pairwise (· < ·) := by
  have hpos := range.stride_pos
  rw [positions_eq]
  split
  · exact List.Pairwise.nil
  · refine List.pairwise_map.mpr (List.pairwise_lt_range.imp fun {step later} hlt => ?_)
    have := Nat.mul_lt_mul_of_pos_right hlt (show 0 < range.stride.toNat by omega)
    omega

/-- The positions of a slice are all those that the range chooses, in their order. -/
theorem positions_eq_filter (length : Nat) :
    range.positions length =
      (List.range length).filter fun position => range.Chooses length position := by
  refine (range.pairwise_positions length).eq_of_mem_iff (List.pairwise_lt_range.filter _) ?_
  intro position
  rw [mem_positions_iff, List.mem_filter, List.mem_range, decide_eq_true_iff]
  exact ⟨fun h => ⟨h.lt, h⟩, And.right⟩

variable {α : Type}

/-- The elements at the positions that the range chooses, in their order. -/
def chosen (items : List α) : List α :=
  ((List.finRange items.length).filter fun position : Fin items.length =>
    range.Chooses items.length position.val).map items.get

/-- A slice consists of the elements at the positions that the range chooses. -/
theorem slice_eq_chosen (items : List α) : range.slice items = range.chosen items := by
  have hget : ∀ position : Fin items.length, items[position.val]? = some (items.get position) :=
    fun position => List.getElem?_eq_getElem position.isLt
  rw [slice, chosen, positions_eq_filter, ← List.map_coe_finRange_eq_range, List.filter_map,
    List.filterMap_map, ← List.filterMap_eq_map]
  exact List.filterMap_congr fun position _ => hget position

/-- A range of a single index selects the element that the index counts to, if it counts to one. -/
theorem slice_single (index step : Int64) (items : List α) :
    slice ⟨index, index, step⟩ items = (elementAt? items index).toList := by
  by_cases hselects : Selects items.length index
  · obtain ⟨position, hposition, hlt, hat⟩ := element_at?_of_selects hselects
    have hfirst : firstPosition ⟨index, index, step⟩ items.length = position := by
      unfold firstPosition
      dsimp only
      omega
    have hlast : lastPosition ⟨index, index, step⟩ items.length = position := by
      unfold lastPosition
      dsimp only
      omega
    have hpositions : positions ⟨index, index, step⟩ items.length = [position] := by
      rw [positions_eq, hfirst, hlast, if_neg (Int.lt_irrefl _), Int.sub_self, Int.toNat_zero,
        Nat.zero_div]
      simp
    rw [slice, hpositions, hat, List.getElem?_eq_getElem hlt]
    simp [hlt]
  · have hempty : lastPosition ⟨index, index, step⟩ items.length <
        firstPosition ⟨index, index, step⟩ items.length := by
      unfold Selects at hselects
      unfold lastPosition firstPosition fromEnd
      dsimp only
      split <;> omega
    rw [slice, positions_eq, if_pos hempty, element_at?_of_not_selects hselects]
    rfl

/-- The elements at consecutive positions follow each other. -/
theorem filter_map_range' (items : List α) (first count : Nat) :
    (List.range' first count).filterMap (items[·]?) = (items.drop first).take count := by
  induction count generalizing first with
  | zero => simp
  | succ count ih =>
      rw [List.range'_succ, List.filterMap_cons]
      by_cases hlt : first < items.length
      · rw [List.getElem?_eq_getElem hlt, List.drop_eq_getElem_cons hlt, List.take_succ_cons, ih]
      · have hnone : items[first]? = none := List.getElem?_eq_none (by omega)
        rw [hnone, List.drop_eq_nil_of_le (by omega), List.take_nil]
        dsimp only
        rw [ih, List.drop_eq_nil_of_le (by omega), List.take_nil]

/-- Without a step, the elements of a slice follow each other. -/
theorem slice_of_stride_one {range : IntRange} (h : range.stride = 1) (items : List α) :
    range.slice items =
      (items.drop (range.firstPosition items.length).toNat).take
        (range.lastPosition items.length - range.firstPosition items.length + 1).toNat := by
  rw [slice, positions_eq]
  split
  · next hempty =>
      have hnone : (range.lastPosition items.length - range.firstPosition items.length + 1).toNat =
          0 := by omega
      rw [hnone, List.take_zero]
      rfl
  · next hsome =>
      have hcount : (range.lastPosition items.length - range.firstPosition items.length).toNat + 1 =
          (range.lastPosition items.length - range.firstPosition items.length + 1).toNat := by omega
      have hone : range.stride.toNat = 1 := by omega
      rw [← filter_map_range', hone, Nat.div_one, hcount, List.range'_eq_map_range]
      simp only [Nat.mul_one]

/-- The slice up to a position is the front of the list. -/
theorem slice_front {last : Int64} (hlast : 0 ≤ last.toInt) (items : List α) :
    slice ⟨0, last, 1⟩ items = items.take (last.toInt + 1).toNat := by
  have hfirst : firstPosition ⟨0, last, 1⟩ items.length = 0 := rfl
  have hstop : lastPosition ⟨0, last, 1⟩ items.length = min last.toInt (items.length - 1) := by
    show min (fromEnd items.length last.toInt) (items.length - 1) = _
    rw [fromEnd, if_neg (by omega)]
  rw [slice_of_stride_one rfl, hfirst, hstop, Int.toNat_zero, List.drop_zero,
    List.take_eq_take_iff]
  omega

/-- The slice from a position to the end is the back of the list. -/
theorem slice_back {first last : Int64} (hfirst : 0 ≤ first.toInt) (items : List α)
    (hlast : last.toInt = items.length - 1) :
    slice ⟨first, last, 1⟩ items = items.drop first.toInt.toNat := by
  have hstart : firstPosition ⟨first, last, 1⟩ items.length = first.toInt := by
    show max (fromEnd items.length first.toInt) 0 = _
    rw [fromEnd, if_neg (by omega)]
    omega
  have hstop : lastPosition ⟨first, last, 1⟩ items.length = items.length - 1 := by
    unfold lastPosition fromEnd
    dsimp only
    split <;> omega
  rw [slice_of_stride_one rfl, hstart, hstop, List.take_of_length_le]
  rw [List.length_drop]
  omega

end IntRange

namespace Value

/-- How a value is made of elements that a range can choose from: a list of items, or a text of
characters. -/
inductive IsSequence : {α : Type} → (List α → Value) → Prop where
  | list : IsSequence Value.list
  | text : IsSequence fun characters => Value.str (String.ofList characters)

/-- Accessing a sequence by a range is slicing its elements. -/
theorem IsSequence.access_range {α : Type} {make : List α → Value} (h : IsSequence make)
    (items : List α) (range : IntRange) :
    (make items).access (.range range) = make (range.slice items) := by
  cases h with
  | list => rfl
  | text => rw [access, String.toList_ofList]

/-- A slice of a list or a text consists of the elements at precisely the positions that its range
chooses, in increasing order, and these are all it reads. The slice by a range of a single index
holds the element that the index counts to, if it counts to one, and is empty otherwise. The slice
up to a position and the slice behind it make up the whole. -/
theorem slices_select_exactly {α : Type} {make : List α → Value} (hmake : IsSequence make)
    (items : List α) :
    (∀ range : IntRange,
      range.positions items.length =
          ((List.range items.length).filter fun position =>
            range.Chooses items.length position) ∧
        (make items).access (.range range) = make (range.chosen items)) ∧
    (∀ index : Int64,
      (Selects items.length index → ∃ (position : Nat) (h : position < items.length),
        (position : Int) = fromEnd items.length index.toInt ∧
          (make items).access (.range ⟨index, index, 1⟩) = make [items[position]]) ∧
      (¬ Selects items.length index →
        (make items).access (.range ⟨index, index, 1⟩) = make [])) ∧
    ∀ position next last : Int64, 0 ≤ position.toInt → next.toInt = position.toInt + 1 →
      last.toInt = items.length - 1 →
      ∃ front back, (make items).access (.range ⟨0, position, 1⟩) = make front ∧
        (make items).access (.range ⟨next, last, 1⟩) = make back ∧ front ++ back = items := by
  refine ⟨fun range => ⟨range.positions_eq_filter _, ?_⟩, fun index => ⟨fun hselects => ?_,
    fun hselects => ?_⟩, fun position next last hposition hnext hlast => ?_⟩
  · rw [hmake.access_range, range.slice_eq_chosen]
  · obtain ⟨position, hposition, hlt, hat⟩ := element_at?_of_selects hselects
    refine ⟨position, hlt, hposition, ?_⟩
    rw [hmake.access_range, IntRange.slice_single, hat, List.getElem?_eq_getElem hlt]
    rfl
  · rw [hmake.access_range, IntRange.slice_single, element_at?_of_not_selects hselects]
    rfl
  · refine ⟨_, _, hmake.access_range _ _, hmake.access_range _ _, ?_⟩
    rw [IntRange.slice_front hposition, IntRange.slice_back (by omega) items hlast, hnext,
      List.take_append_drop]

/-- Every other character from the fourth to last on, and the text cut behind its second one. -/
theorem slices_select_exactly_of_text :
    IsSequence (fun characters => Value.str (String.ofList characters)) ∧
      (Value.str "naïve").access (.range ⟨-4, 9223372036854775807, 2⟩) = .str "av" ∧
      ∃ front back, (Value.str "naïve").access (.range ⟨0, 1, 1⟩) = .str (String.ofList front) ∧
        (Value.str "naïve").access (.range ⟨2, 4, 1⟩) = .str (String.ofList back) ∧
        front ++ back = ['n', 'a', 'ï', 'v', 'e'] := by
  obtain ⟨hranges, -, hcut⟩ := slices_select_exactly .text ['n', 'a', 'ï', 'v', 'e']
  have hchosen : IntRange.chosen ⟨-4, 9223372036854775807, 2⟩ ['n', 'a', 'ï', 'v', 'e'] =
      ['a', 'v'] := by
    decide
  refine ⟨.text, ?_, hcut 1 2 4 (by decide) (by decide) (by decide)⟩
  have hslice := (hranges ⟨-4, 9223372036854775807, 2⟩).2
  rwa [hchosen] at hslice

end Value

end TextTemplate
