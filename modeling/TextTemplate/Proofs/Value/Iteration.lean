import Mathlib
import TextTemplate.Proofs.Value.Access

/-!
# Iterating over a range

`IntRange.Meets` is iteration as it goes on from member to member until there is no next one.
`IntRange.count` and `IntRange.get?` do without iterating, and
`IntRange.iteration_size_and_index_agree` says that all of them agree: iterating ends, it goes from
the start towards the end by the stride without passing the end or leaving out a member, there are
as many members as `count` says, and `get?` finds the one that an index counts to. The next member,
the number of members and a member by its index are computed in words of 64 and 128 bits
(`nextInWords?`, `countInWords?`, `getInWords?`), and what they compute does not overflow.
-/

namespace TextTemplate.IntRange

/-- Iterating meets these members from a place on and then ends. There is no place behind the last
member. -/
inductive Meets (range : IntRange) : Option Int64 → List Int64 → Prop where
  | finished : Meets range none []
  | member (current : Int64) {rest : List Int64} :
      Meets range (range.next? current) rest → Meets range (some current) (current :: rest)

variable {range : IntRange}

/-- Iterating from a place on meets the same members every time. -/
theorem Meets.unique {place : Option Int64} {members others : List Int64}
    (h : range.Meets place members) (hothers : range.Meets place others) : members = others := by
  induction h generalizing others with
  | finished =>
      cases hothers
      rfl
  | member current _ ih =>
      cases hothers with
      | member _ hrest => rw [ih hrest]

/-- From a member on, iterating meets the members at the following indices. -/
theorem meets_from_member (rest : Nat) {index : Nat} (h : index + rest + 1 = range.count) :
    range.Meets (some (range.member index))
      ((List.range' index (rest + 1)).map range.member) := by
  induction rest generalizing index with
  | zero =>
      have hnext : range.next? (range.member index) = none := by
        rw [range.next?_member (by omega), if_neg (by omega)]
      exact .member _ (hnext ▸ .finished)
  | succ rest ih =>
      have hnext : range.next? (range.member index) = some (range.member (index + 1)) := by
        rw [range.next?_member (by omega), if_pos (by omega)]
      rw [List.range'_succ, List.map_cons]
      exact .member _ (hnext ▸ ih (by omega))

/-- Iterating from the start on ends, and what it meets are the members. -/
theorem meets_members (range : IntRange) : range.Meets (some range.start) range.members := by
  have hcount : 0 + (range.count - 1) + 1 = range.count := by
    have hpos := range.count_pos
    omega
  have hmeets := meets_from_member (range.count - 1) hcount
  rwa [range.member_zero, ← List.range_eq_range', show range.count - 1 + 1 = range.count by omega,
    ← range.members_eq] at hmeets

/-! ## The way from the start to the end -/

/-- How far and in which direction the next member lies. -/
def stepTowardsStop (range : IntRange) : Int :=
  if range.stop < range.start then -range.stride else range.stride

/-- The members lead from the start towards the end. They begin with the start, each lies one step
behind the one before it, so that they ascend or descend strictly, and they are the integers
between the bounds that whole strides reach from the start. -/
structure LeadsToStop (range : IntRange) (members : List Int64) : Prop where
  starts : members.head? = some range.start
  steps : members.IsChain fun current next =>
    next.toInt = current.toInt + range.stepTowardsStop
  monotone : if range.stop < range.start then members.Pairwise (· > ·)
    else members.Pairwise (· < ·)
  mem_iff : ∀ n : Int64, n ∈ members ↔
    min range.start.toInt range.stop.toInt ≤ n.toInt ∧
      n.toInt ≤ max range.start.toInt range.stop.toInt ∧
      range.stride ∣ n.toInt - range.start.toInt

/-- The member at an index lies as many steps from the start. -/
theorem member_at_eq (range : IntRange) (index : Nat) :
    range.memberAt index = range.start.toInt + index * range.stepTowardsStop := by
  unfold memberAt isDescending stepTowardsStop
  simp only [decide_eq_true_eq, ← Int64.lt_iff_toInt_lt]
  split
  · rw [Int.mul_neg, Int.sub_eq_add_neg]
  · rfl

theorem length_members_pos (range : IntRange) : 0 < range.members.length := by
  rw [range.length_members]
  exact range.count_pos

/-- The member at an index of all members. -/
theorem to_int_get_elem_members {index : Nat} (h : index < range.members.length) :
    range.members[index].toInt = range.start.toInt + index * range.stepTowardsStop := by
  have hindex : index < range.count := range.length_members ▸ h
  simp only [range.members_eq, List.getElem_map, List.getElem_range]
  rw [range.to_int_member hindex, member_at_eq]

theorem stride_dvd_step_towards_stop (range : IntRange) :
    range.stride ∣ range.stepTowardsStop := by
  unfold stepTowardsStop
  split
  · exact Int.dvd_neg.mpr (Int.dvd_refl _)
  · exact Int.dvd_refl _

/-- An integer between the bounds that whole strides reach from the start lies at an index. -/
theorem exists_index_of_dvd (range : IntRange) {n : Int}
    (hlow : min range.start.toInt range.stop.toInt ≤ n)
    (hhigh : n ≤ max range.start.toInt range.stop.toInt)
    (hstrides : range.stride ∣ n - range.start.toInt) : ∃ index, range.memberAt index = n := by
  simp only [member_at_eq, stepTowardsStop, Int64.lt_iff_toInt_lt]
  by_cases hdown : range.stop.toInt < range.start.toInt
  · have hback : range.stride ∣ range.start.toInt - n := by
      rw [← Int.neg_sub]
      exact Int.dvd_neg.mpr hstrides
    obtain ⟨index, hindex⟩ := range.exists_strides (by omega) hback
    refine ⟨index, ?_⟩
    rw [if_pos hdown, Int.mul_neg]
    omega
  · obtain ⟨index, hindex⟩ := range.exists_strides (by omega) hstrides
    refine ⟨index, ?_⟩
    rw [if_neg hdown]
    omega

/-- Neighbours lie one step apart. -/
theorem chain_members (range : IntRange) :
    range.members.IsChain fun current next =>
      next.toInt = current.toInt + range.stepTowardsStop := by
  rw [List.isChain_iff_getElem]
  intro index hindex
  rw [to_int_get_elem_members, to_int_get_elem_members, Int.natCast_succ, Int.add_mul,
    Int.one_mul, Int.add_assoc]

/-- The members lead from the start to the end. -/
theorem members_lead_to_stop (range : IntRange) : range.LeadsToStop range.members where
  starts := by
    rw [List.head?_eq_getElem?, List.getElem?_eq_getElem range.length_members_pos,
      Option.some_inj, ← Int64.toInt_inj, to_int_get_elem_members]
    simp
  steps := range.chain_members
  monotone := by
    have hpos := range.stride_pos
    have hsteps := range.chain_members
    unfold stepTowardsStop at hsteps
    by_cases hdown : range.stop < range.start
    · rw [if_pos hdown] at hsteps ⊢
      refine List.isChain_iff_pairwise.mp (hsteps.imp fun current next hstep => ?_)
      rw [gt_iff_lt, Int64.lt_iff_toInt_lt]
      omega
    · rw [if_neg hdown] at hsteps ⊢
      refine List.isChain_iff_pairwise.mp (hsteps.imp fun current next hstep => ?_)
      rw [Int64.lt_iff_toInt_lt]
      omega
  mem_iff n := by
    constructor
    · intro hmem
      rw [range.members_eq, List.mem_map] at hmem
      obtain ⟨index, hindex, rfl⟩ := hmem
      have hlt := List.mem_range.mp hindex
      obtain ⟨hlow, hhigh⟩ := range.member_at_between hlt
      rw [range.to_int_member hlt]
      refine ⟨hlow, hhigh, ?_⟩
      have hoffset : range.memberAt index - range.start.toInt = index * range.stepTowardsStop := by
        rw [member_at_eq]
        omega
      rw [hoffset]
      exact Dvd.dvd.mul_left range.stride_dvd_step_towards_stop _
    · rintro ⟨hlow, hhigh, hstrides⟩
      obtain ⟨index, hindex⟩ := range.exists_index_of_dvd hlow hhigh hstrides
      have hlt : index < range.count := by
        rw [lt_count_iff_not_passed, hindex]
        simp only [isDescending, decide_eq_true_eq]
        split <;> omega
      rw [range.members_eq, List.mem_map]
      refine ⟨index, List.mem_range.mpr hlt, ?_⟩
      rw [member, hindex, Int64.ofInt_toInt]

/-! ## Words -/

/-- The integer, if a word of so many bits with a sign holds it. -/
def signedWord? (bits : Nat) (n : Int) : Option Int :=
  if -2 ^ (bits - 1) ≤ n ∧ n < 2 ^ (bits - 1) then some n else none

/-- The integer, if a word of so many bits without a sign holds it. -/
def unsignedWord? (bits : Nat) (n : Int) : Option Int :=
  if 0 ≤ n ∧ n < 2 ^ bits then some n else none

/-- The next member as it is computed in words. A sum that overflows has passed the end. -/
def nextInWords? (range : IntRange) (current : Int64) : Option Int64 :=
  (Number.int64? (current.toInt + range.stepTowardsStop)).filter fun next =>
    if range.isDescending then range.stop ≤ next else next ≤ range.stop

/-- The number of members as it is computed in words, unless one of them overflows: 64 bits for the
distance of the bounds and the strides in it, and 128 bits for the number. -/
def countInWords? (range : IntRange) : Option Int := do
  let span ← unsignedWord? 64 range.span
  let stride ← unsignedWord? 64 range.stride
  let strides ← unsignedWord? 64 (span / stride)
  signedWord? 128 (strides + 1)

/-- The place that an index counts to, unless a word of 128 bits overflows. -/
def placeInWords? (count : Int) (index : Int64) : Option Int :=
  if index.toInt < 0 then signedWord? 128 (count + index.toInt) else some index.toInt

/-- The member at a place, unless a word overflows: 128 bits for the way there, and 64 bits for the
member. -/
def memberInWords? (range : IntRange) (place : Int) : Option Int64 := do
  let offset ← signedWord? 128 (place * range.stride)
  let value ← signedWord? 128
    (if range.isDescending then range.start.toInt - offset else range.start.toInt + offset)
  Number.int64? value

/-- The member at an index as it is computed in words, unless one of them overflows. -/
def getInWords? (range : IntRange) (index : Int64) : Option (Option Int64) := do
  let count ← range.countInWords?
  let place ← placeInWords? count index
  if 0 ≤ place ∧ place < count then (range.memberInWords? place).map some else some none

theorem span_lt (range : IntRange) : range.span < 2 ^ 64 := by
  have hstart := And.intro range.start.le_toInt range.start.toInt_lt
  have hstop := And.intro range.stop.le_toInt range.stop.toInt_lt
  unfold span
  omega

theorem stride_lt (range : IntRange) : range.stride < 2 ^ 63 := by
  have hstep := range.step.toInt_lt
  unfold stride
  omega

/-- There are at most as many members as there are words. -/
theorem count_le (range : IntRange) : range.count ≤ 2 ^ 64 := by
  have hstrides : range.span / range.stride.toNat ≤ range.span := Nat.div_le_self _ _
  have hspan := range.span_lt
  show range.span / range.stride.toNat + 1 ≤ _
  omega

/-- A word is tested as the integer that it holds, if the integers that pass have a word. -/
theorem filter_int64? {n : Int} {test : Int64 → Bool} {passes : Prop} [Decidable passes]
    (htest : ∀ word : Int64, word.toInt = n → (test word ↔ passes))
    (hfits : passes → -2 ^ 63 ≤ n ∧ n < 2 ^ 63) :
    (Number.int64? n).filter test = if passes then Number.int64? n else none := by
  by_cases hword : -2 ^ 63 ≤ n ∧ n < 2 ^ 63
  · have hsome : Number.int64? n = some (Int64.ofInt n) := if_pos hword
    rw [hsome, Option.filter_some]
    simp only [htest _ (Int64.toInt_ofInt_of_le hword.1 hword.2)]
  · have hnone : Number.int64? n = none := if_neg hword
    rw [hnone, if_neg fun hpasses => hword (hfits hpasses)]
    rfl

/-- A sum that overflows would not be a member. -/
theorem next_in_words?_eq (range : IntRange) (current : Int64) :
    range.nextInWords? current = range.next? current := by
  have hstop := And.intro range.stop.le_toInt range.stop.toInt_lt
  have hcurrent := And.intro current.le_toInt current.toInt_lt
  have hpos := range.stride_pos
  unfold nextInWords? next? stepTowardsStop isDescending
  simp only [Int64.lt_iff_toInt_lt, decide_eq_true_eq]
  split
  · refine filter_int64? (fun word hword => ?_) fun _ => by omega
    rw [decide_eq_true_iff, Int64.le_iff_toInt_le, hword, Int.sub_eq_add_neg]
  · refine filter_int64? (fun word hword => ?_) fun _ => by omega
    rw [decide_eq_true_iff, Int64.le_iff_toInt_le, hword]

/-- Computing the number of members does not overflow. -/
theorem count_in_words?_eq (range : IntRange) :
    range.countInWords? = some (range.count : Int) := by
  have hpos := range.stride_pos
  have hcount := range.count_le
  have hstrides : (range.span : Int) / range.stride + 1 = range.count := by
    show _ = ((range.span / range.stride.toNat + 1 : Nat) : Int)
    rw [Int.natCast_succ, Int.natCast_ediv, stride_to_nat]
  have hspan : unsignedWord? 64 range.span = some (range.span : Int) := by
    have := range.span_lt
    exact if_pos (by omega)
  have hstride : unsignedWord? 64 range.stride = some range.stride := by
    have := range.stride_lt
    exact if_pos (by omega)
  have hquotient : unsignedWord? 64 (range.span / range.stride) =
      some (range.span / range.stride : Int) := by
    have : 0 ≤ (range.span : Int) / range.stride := Int.ediv_nonneg (by omega) (by omega)
    exact if_pos (by omega)
  have hnumber : signedWord? 128 (range.span / range.stride + 1) = some (range.count : Int) := by
    rw [hstrides]
    exact if_pos (by omega)
  rw [countInWords?, hspan, hstride]
  show (unsignedWord? 64 (range.span / range.stride)).bind _ = _
  rw [hquotient]
  exact hnumber

/-- Counting from the end does not overflow. -/
theorem place_in_words?_eq (range : IntRange) (index : Int64) :
    placeInWords? range.count index = some (fromEnd range.count index.toInt) := by
  have hlow := index.le_toInt
  have hhigh := index.toInt_lt
  have hcount := range.count_le
  unfold placeInWords? fromEnd
  split
  · exact if_pos (by omega)
  · rfl

/-- Going to a member does not overflow. -/
theorem member_in_words?_eq {range : IntRange} {position : Nat} (h : position < range.count) :
    range.memberInWords? position = some (range.member position) := by
  have hoffset : signedWord? 128 (position * range.stride) =
      some (position * range.stride : Int) := by
    have hlow := range.offset_nonneg position
    have hhigh := (range.lt_count_iff position).mp h
    have hspan := range.span_lt
    exact if_pos (by omega)
  have hvalue : signedWord? 128 (range.memberAt position) = some (range.memberAt position) := by
    have hfits := range.member_at_fits h
    exact if_pos (by omega)
  rw [memberInWords?, hoffset]
  show (signedWord? 128 (range.memberAt position)).bind _ = _
  rw [hvalue]
  exact range.int64?_member_at h

/-- Finding a member by its index does not overflow. -/
theorem get_in_words?_eq (range : IntRange) (index : Int64) :
    range.getInWords? index = some (range.get? index) := by
  rw [getInWords?, count_in_words?_eq]
  show (placeInWords? range.count index).bind _ =
    some (if 0 ≤ fromEnd range.count index.toInt ∧ fromEnd range.count index.toInt < range.count
      then Number.int64? (range.memberAt (fromEnd range.count index.toInt).toNat) else none)
  rw [place_in_words?_eq, Option.bind_some]
  generalize fromEnd range.count index.toInt = place
  split
  · next hplace =>
      obtain ⟨position, rfl⟩ := Int.eq_ofNat_of_zero_le hplace.1
      have hposition : position < range.count := Int.ofNat_lt.mp hplace.2
      rw [member_in_words?_eq hposition, Int.toNat_natCast, range.int64?_member_at hposition]
      rfl
  · rfl

/-! ## Iterating, counting and indexing -/

/-- Iterating over a range ends. It leads from the start towards the end, with as many members as
`count` says, a number that `length` cuts off at the greatest word. A member is found by its index,
which counts from the first member on or back from behind the last one; any other index finds none.
In words, the next member, the number of members and a member by its index are the same. -/
theorem iteration_size_and_index_agree (range : IntRange) :
    range.Meets (some range.start) range.members ∧
      range.LeadsToStop range.members ∧
      range.count = range.members.length ∧
      range.length.toNat = min range.members.length (2 ^ 64 - 1) ∧
      (∀ current : Int64, range.nextInWords? current = range.next? current) ∧
      range.countInWords? = some (range.members.length : Int) ∧
      ∀ index : Int64,
        range.getInWords? index = some (range.get? index) ∧
        (∀ position : Nat, position < range.members.length →
          index.toInt = position ∨ index.toInt = position - range.members.length →
          range.get? index = range.members[position]?) ∧
        (¬ Selects range.members.length index → range.get? index = none) := by
  refine ⟨range.meets_members, range.members_lead_to_stop, range.length_members.symm, ?_,
    range.next_in_words?_eq, ?_, fun index => ⟨range.get_in_words?_eq index,
      fun position hposition hindex => ?_, fun hselects => ?_⟩⟩
  · rw [length, range.length_members, UInt64.toNat_ofNat']
    omega
  · rw [count_in_words?_eq, range.length_members]
  · have hplace : fromEnd range.members.length index.toInt = position := by
      unfold fromEnd
      split <;> omega
    rw [range.get?_eq_element_at, elementAt?, hplace, if_pos (Int.natCast_nonneg position),
      Int.toNat_natCast]
  · rw [range.get?_eq_element_at, element_at?_of_not_selects hselects]

end TextTemplate.IntRange
