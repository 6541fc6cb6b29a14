import Mathlib.Algebra.Group.Int.Defs
import Mathlib.Algebra.Group.Nat.Defs
import TextTemplate.Value.Range

/-!
# The members of a range

Walking a range meets the integers that lie at whole strides from its start, as many as `count`
says, and none behind its end (`IntRange.take_eq`). No bound of a range is too far for this, as all
members fit into 64 bits.
-/

namespace TextTemplate.IntRange

variable (range : IntRange)

/-- The distance between the bounds. -/
def span : Nat :=
  (range.start.toInt - range.stop.toInt).natAbs

/-- The member at an index, as the word that the walk meets. -/
def member (index : Nat) : Int64 :=
  Int64.ofInt (range.memberAt index)

theorem stride_pos : 0 < range.stride := by
  unfold stride
  omega

theorem stride_to_nat : (range.stride.toNat : Int) = range.stride :=
  Int.toNat_of_nonneg (Int.le_of_lt range.stride_pos)

theorem offset_nonneg (strides : Nat) : 0 ≤ (strides : Int) * range.stride :=
  Int.mul_nonneg (Int.natCast_nonneg strides) (Int.le_of_lt range.stride_pos)

theorem count_pos : 0 < range.count :=
  Nat.succ_pos _

/-- An index belongs to a member if the strides before it fit between the bounds. -/
theorem lt_count_iff (index : Nat) :
    index < range.count ↔ (index : Int) * range.stride ≤ range.span := by
  have hpos := range.stride_pos
  show index < range.span / range.stride.toNat + 1 ↔ _
  rw [Nat.lt_succ_iff, Nat.le_div_iff_mul_le (by omega), ← stride_to_nat]
  exact_mod_cast Iff.rfl

/-- One index further is one stride further towards the end. -/
theorem member_at_succ (index : Nat) :
    range.memberAt (index + 1) =
      if range.isDescending then range.memberAt index - range.stride
      else range.memberAt index + range.stride := by
  have hstep : ((index + 1 : Nat) : Int) * range.stride = index * range.stride + range.stride := by
    rw [Int.natCast_succ, Int.add_mul, Int.one_mul]
  unfold memberAt
  rw [hstep]
  split <;> omega

/-- An integer at whole strides from the start is a member if it has not passed the end. -/
theorem lt_count_iff_not_passed (index : Nat) :
    index < range.count ↔
      if range.isDescending then range.stop.toInt ≤ range.memberAt index
      else range.memberAt index ≤ range.stop.toInt := by
  rw [lt_count_iff]
  unfold span memberAt isDescending
  generalize (index : Int) * range.stride = offset
  by_cases hdown : range.stop.toInt < range.start.toInt
  · simp only [hdown, decide_true, if_true]
    omega
  · simp only [hdown, decide_false, Bool.false_eq_true, if_false]
    omega

/-- The members lie between the bounds. -/
theorem member_at_between {index : Nat} (h : index < range.count) :
    min range.start.toInt range.stop.toInt ≤ range.memberAt index ∧
      range.memberAt index ≤ max range.start.toInt range.stop.toInt := by
  have hoffset := range.offset_nonneg index
  rw [lt_count_iff_not_passed] at h
  unfold memberAt at h ⊢
  split at h
  · next hdown =>
      rw [if_pos hdown]
      omega
  · next hup =>
      rw [if_neg hup]
      omega

/-- A member fits into 64 bits, since the bounds do. -/
theorem member_at_fits {index : Nat} (h : index < range.count) :
    -2 ^ 63 ≤ range.memberAt index ∧ range.memberAt index < 2 ^ 63 := by
  obtain ⟨hlow, hhigh⟩ := range.member_at_between h
  have hstart := And.intro range.start.le_toInt range.start.toInt_lt
  have hstop := And.intro range.stop.le_toInt range.stop.toInt_lt
  omega

theorem int64?_member_at {index : Nat} (h : index < range.count) :
    Number.int64? (range.memberAt index) = some (range.member index) :=
  if_pos (range.member_at_fits h)

theorem to_int_member {index : Nat} (h : index < range.count) :
    (range.member index).toInt = range.memberAt index := by
  obtain ⟨hlow, hhigh⟩ := range.member_at_fits h
  exact Int64.toInt_ofInt_of_le hlow hhigh

/-- The first member is the start. -/
theorem member_zero : range.member 0 = range.start := by
  have hzero : range.memberAt 0 = range.start.toInt := by
    unfold memberAt
    split <;> simp
  rw [member, hzero, Int64.ofInt_toInt]

/-- A distance of whole strides is a number of strides. -/
theorem exists_strides {distance : Int} (h : 0 ≤ distance) (hstrides : range.stride ∣ distance) :
    ∃ strides : Nat, distance = strides * range.stride := by
  obtain ⟨strides, rfl⟩ := hstrides
  have hsign : 0 ≤ strides := Int.not_lt.mp fun hneg =>
    absurd h (Int.not_le.mpr (Int.mul_neg_of_pos_of_neg range.stride_pos hneg))
  refine ⟨strides.toNat, ?_⟩
  rw [Int.toNat_of_nonneg hsign, Int.mul_comm]

/-! ## Walking -/

/-- Behind a member comes the member at the next index, if there is one. -/
theorem next?_member {index : Nat} (h : index < range.count) :
    range.next? (range.member index) =
      if index + 1 < range.count then some (range.member (index + 1)) else none := by
  have hnext : range.next? (range.member index) =
      if (if range.isDescending then range.stop.toInt ≤ range.memberAt (index + 1)
        else range.memberAt (index + 1) ≤ range.stop.toInt)
      then Number.int64? (range.memberAt (index + 1)) else none := by
    rw [next?, range.to_int_member h, member_at_succ]
    split <;> rfl
  rw [hnext]
  simp only [← lt_count_iff_not_passed]
  split
  · next hlt => exact range.int64?_member_at hlt
  · rfl

/-- From a member on, a walk meets the members at the following indices. -/
theorem walk_member (limit : Nat) {index : Nat} (h : index < range.count) :
    range.walk limit (some (range.member index)) =
      (List.range' index (min limit (range.count - index))).map range.member := by
  induction limit generalizing index with
  | zero => simp [walk]
  | succ limit ih =>
      rw [walk, next?_member range h]
      by_cases hnext : index + 1 < range.count
      · have hmin : min (limit + 1) (range.count - index) =
            min limit (range.count - (index + 1)) + 1 := by omega
        rw [if_pos hnext, ih hnext, hmin, List.range'_succ, List.map_cons]
      · have hlast : min (limit + 1) (range.count - index) = 1 := by omega
        have hend : range.walk limit none = [] := by cases limit <;> rfl
        rw [if_neg hnext, hend, hlast]
        rfl

/-- The first members are those at the first indices, and there are no more than `count`. -/
theorem take_eq (limit : Nat) :
    range.take limit = (List.range (min limit range.count)).map range.member := by
  rw [take, ← member_zero, range.walk_member limit range.count_pos, Nat.sub_zero,
    List.range_eq_range']

/-- However far a walk goes, it meets as many members as there are. -/
theorem length_take (limit : Nat) : (range.take limit).length = min limit range.count := by
  rw [take_eq, List.length_map, List.length_range]

/-- All members are those at the indices below the count. -/
theorem members_eq : range.members = (List.range range.count).map range.member := by
  rw [members, take_eq, Nat.min_self]

theorem length_members : range.members.length = range.count := by
  rw [members, length_take, Nat.min_self]

end TextTemplate.IntRange
