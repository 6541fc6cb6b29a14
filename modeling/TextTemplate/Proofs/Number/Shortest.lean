import Mathlib.Algebra.Order.Ring.Nat
import TextTemplate.Number.FloatText
import TextTemplate.Proofs.Number.Digits

/-!
# The shortest decimal of a double

The search for the shortest decimal ends on a grid: what it finds rounds to the double
(`is_rounded_from_shortest`). Forty grids are enough, since on the last of them the points are
closer together than a quarter unit in the last place. Hence a double that is not zero has digits
without leading zeros, and every finite double is laid out as a number (`is_number_layout`).
-/

namespace TextTemplate.Number

/-! ## Powers -/

theorem two_pow_pos (exponent : Nat) : 0 < twoPow exponent :=
  Nat.pow_pos (by decide)

theorem ten_pow_pos (exponent : Nat) : 0 < tenPow exponent :=
  Nat.pow_pos (by decide)

/-- Ten to the third is less than two to the tenth. -/
theorem ten_pow_le_two_pow {tens twos : Nat} (h : 10 * tens ≤ 3 * twos) :
    tenPow tens ≤ twoPow twos := by
  have hcubes : (10 ^ tens) ^ 3 ≤ (2 ^ twos) ^ 3 :=
    calc (10 ^ tens) ^ 3 = (10 ^ 3) ^ tens := by rw [← Nat.pow_mul, ← Nat.pow_mul, Nat.mul_comm]
      _ ≤ (2 ^ 10) ^ tens := Nat.pow_le_pow_left (by decide) tens
      _ = 2 ^ (10 * tens) := (Nat.pow_mul 2 10 tens).symm
      _ ≤ 2 ^ (3 * twos) := Nat.pow_le_pow_right (by decide) h
      _ = (2 ^ twos) ^ 3 := by rw [← Nat.pow_mul, Nat.mul_comm]
  exact (Nat.pow_le_pow_iff_left (by decide)).mp hcubes

/-- Two to the thirteenth is less than ten to the fourth. -/
theorem two_pow_le_ten_pow {twos tens : Nat} (h : 4 * twos ≤ 13 * tens) :
    twoPow twos ≤ tenPow tens := by
  have hfourths : (2 ^ twos) ^ 4 ≤ (10 ^ tens) ^ 4 :=
    calc (2 ^ twos) ^ 4 = 2 ^ (4 * twos) := by rw [← Nat.pow_mul, Nat.mul_comm]
      _ ≤ 2 ^ (13 * tens) := Nat.pow_le_pow_right (by decide) h
      _ = (2 ^ 13) ^ tens := Nat.pow_mul 2 13 tens
      _ ≤ (10 ^ 4) ^ tens := Nat.pow_le_pow_left (by decide) tens
      _ = (10 ^ tens) ^ 4 := by rw [← Nat.pow_mul, ← Nat.pow_mul, Nat.mul_comm]
  exact (Nat.pow_le_pow_iff_left (by decide)).mp hfourths

/-! ## Grids -/

namespace Binary

/-- How many times as fine the units are in which a grid is compared with the rounding interval. -/
def gridScale (x : Binary) (exponent : Int) : Nat :=
  twoPow (x.exponent - 2).toNat * tenPow (-exponent).toNat

/-- The distance between two points of a grid, in those units. -/
def gridStep (x : Binary) (exponent : Int) : Nat :=
  twoPow (-(x.exponent - 2)).toNat * tenPow exponent.toNat

/-- The decimal rounds to the magnitude. -/
def IsRoundedFrom (x : Binary) (decimal : Scientific) : Prop :=
  x.rounding.contains (x.gridScale decimal.exponent)
    (decimal.digits * x.gridStep decimal.exponent)

theorem grid_scale_pos (x : Binary) (exponent : Int) : 0 < x.gridScale exponent :=
  Nat.mul_pos (two_pow_pos _) (ten_pow_pos _)

theorem grid_step_pos (x : Binary) (exponent : Int) : 0 < x.gridStep exponent :=
  Nat.mul_pos (two_pow_pos _) (ten_pow_pos _)

/-- Whatever point of a grid is chosen rounds to the magnitude. -/
theorem is_rounded_from_of_on_grid? {x : Binary} {exponent : Int} {digits : Nat}
    (h : x.onGrid? exponent = some digits) : x.IsRoundedFrom ⟨digits, exponent⟩ := by
  rw [onGrid?] at h
  simp only at h
  split at h
  · next hboth =>
      obtain ⟨hbelow, habove⟩ := Bool.and_eq_true_iff.mp hboth
      split at h
      · exact Option.some.inj h ▸ hbelow
      · exact Option.some.inj h ▸ habove
  · split at h
    · next hbelow => exact Option.some.inj h ▸ hbelow
    · split at h
      · next habove => exact Option.some.inj h ▸ habove
      · cases h

/-- The rounding interval begins at least one unit below the magnitude and is not at zero. -/
theorem low_bounds {x : Binary} (h : x.significand ≠ 0) :
    0 < x.rounding.low ∧ x.rounding.low + 1 ≤ x.rounding.middle := by
  simp only [rounding]
  split <;> omega

/-- A grid that is fine enough has a point that rounds to the magnitude. -/
theorem on_grid?_ne_none {x : Binary} (h : x.significand ≠ 0) {exponent : Int}
    (hfine : x.gridStep exponent ≤ x.gridScale exponent) : x.onGrid? exponent ≠ none := by
  let scale := x.gridScale exponent
  let step := x.gridStep exponent
  let below := x.rounding.middle * scale / step
  have hstep : 0 < step := x.grid_step_pos exponent
  -- The point just below the magnitude is less than one step away from it.
  have hle : below * step ≤ x.rounding.middle * scale := Nat.div_mul_le_self _ _
  have hlt : x.rounding.middle * scale < below * step + step := by
    rw [← Nat.succ_mul]
    exact Nat.lt_mul_of_div_lt (Nat.lt_succ_self _) hstep
  have hlow : x.rounding.low * scale + scale ≤ x.rounding.middle * scale := by
    rw [← Nat.succ_mul]
    exact Nat.mul_le_mul_right _ (low_bounds h).2
  have hhigh : x.rounding.middle * scale < x.rounding.high * scale :=
    Nat.mul_lt_mul_of_pos_right (by simp [rounding]) (x.grid_scale_pos exponent)
  have hcontains : x.rounding.contains scale (below * step) := by
    have hfine : step ≤ scale := hfine
    rw [Rounding.contains]
    split <;> simp only [Bool.and_eq_true, decide_eq_true_eq] <;> omega
  rw [onGrid?]
  simp only
  split
  · split <;> exact Option.some_ne_none _
  · split
    · exact Option.some_ne_none _
    · next hnot => exact absurd hcontains hnot

/-- A search that comes to a grid that is fine enough finds a decimal that rounds to the
magnitude. -/
theorem is_rounded_from_search_grids {x : Binary} (h : x.significand ≠ 0) {steps : Nat}
    {exponent : Int}
    (hfine : x.gridStep (exponent - steps) ≤ x.gridScale (exponent - steps)) :
    x.IsRoundedFrom (x.searchGrids (steps + 1) exponent) := by
  induction steps generalizing exponent with
  | zero =>
      rw [searchGrids]
      split
      · next digits hdigits => exact is_rounded_from_of_on_grid? hdigits
      · next hnone => exact absurd hnone (on_grid?_ne_none h (by simpa using hfine))
  | succ steps ih =>
      rw [searchGrids]
      split
      · next digits hdigits => exact is_rounded_from_of_on_grid? hdigits
      · have hnext : exponent - 1 - steps = exponent - (steps + 1 : Nat) := by omega
        exact ih (hnext ▸ hfine)

/-! ## Doubles -/

/-- The magnitude is one of a finite double. -/
structure IsDouble (x : Binary) : Prop where
  significand : x.significand < twoPow 53
  exponent : -1074 ≤ x.exponent ∧ x.exponent ≤ 971

/-- A finite double has the magnitude of one. -/
theorem is_double_of_finite {x : Float} {negative : Bool} {magnitude : Binary}
    (h : FloatShape.of x = .finite negative magnitude) : magnitude.IsDouble := by
  have hfraction : x.toBits.toNat % twoPow 52 < twoPow 52 := Nat.mod_lt _ (two_pow_pos 52)
  have hbiased : x.toBits.toNat / twoPow 52 % twoPow 11 < 2048 := Nat.mod_lt _ (two_pow_pos 11)
  have htwice : twoPow 53 = twoPow 52 + twoPow 52 := by decide
  rw [FloatShape.of] at h
  split at h
  · split at h <;> cases h
  · split at h
    · obtain ⟨-, rfl⟩ := FloatShape.finite.inj h
      exact ⟨by simp only; omega, by simp only; omega⟩
    · obtain ⟨-, rfl⟩ := FloatShape.finite.inj h
      exact ⟨by simp only; omega, by simp only; omega⟩

/-- The last of forty grids is fine enough. -/
theorem is_fine_last_grid {x : Binary} (h : x.IsDouble) (hzero : x.significand ≠ 0) {last : Int}
    (hlast : last = (x.exponent + Nat.log2 x.significand + 1) * 30103 / 100000 + 1 - 39) :
    x.gridStep last ≤ x.gridScale last := by
  have hlog : Nat.log2 x.significand < 53 := (Nat.log2_lt hzero).mpr h.significand
  obtain ⟨hlow, hhigh⟩ := h.exponent
  rw [gridStep, gridScale]
  by_cases hsign : 0 ≤ last
  · have htens : tenPow last.toNat ≤ twoPow (x.exponent - 2).toNat :=
      ten_pow_le_two_pow (by omega)
    have htwos : (-(x.exponent - 2)).toNat = 0 := by omega
    rw [htwos]
    calc twoPow 0 * tenPow last.toNat = tenPow last.toNat := Nat.one_mul _
      _ ≤ twoPow (x.exponent - 2).toNat := htens
      _ ≤ twoPow (x.exponent - 2).toNat * tenPow (-last).toNat :=
          Nat.le_mul_of_pos_right _ (ten_pow_pos _)
  · have htwos : twoPow (-(x.exponent - 2)).toNat ≤ tenPow (-last).toNat :=
      two_pow_le_ten_pow (by omega)
    have htens : last.toNat = 0 := by omega
    rw [htens]
    calc twoPow (-(x.exponent - 2)).toNat * tenPow 0 = twoPow (-(x.exponent - 2)).toNat :=
          Nat.mul_one _
      _ ≤ tenPow (-last).toNat := htwos
      _ ≤ twoPow (x.exponent - 2).toNat * tenPow (-last).toNat :=
          Nat.le_mul_of_pos_left _ (two_pow_pos _)

/-- What the search for the shortest decimal finds rounds to the double. -/
theorem is_rounded_from_shortest {x : Binary} (h : x.IsDouble) (hzero : x.significand ≠ 0) :
    x.IsRoundedFrom x.shortest := by
  rw [shortest, if_neg hzero]
  exact is_rounded_from_search_grids hzero (is_fine_last_grid h hzero rfl)

/-- A decimal that rounds to a magnitude that is not zero is not zero. -/
theorem digits_pos_of_is_rounded_from {x : Binary} (hzero : x.significand ≠ 0)
    {decimal : Scientific} (h : x.IsRoundedFrom decimal) : 0 < decimal.digits := by
  have hlow : 0 < x.rounding.low * x.gridScale decimal.exponent :=
    Nat.mul_pos (low_bounds hzero).1 (x.grid_scale_pos _)
  have hpoint : 0 < decimal.digits * x.gridStep decimal.exponent := by
    rw [IsRoundedFrom, Rounding.contains] at h
    split at h <;> simp only [Bool.and_eq_true, decide_eq_true_eq] at h <;> omega
  exact Nat.pos_of_mul_pos_right hpoint

end Binary

/-! ## Layouts -/

/-- The layout is that of a number: there are digits before the point, which begin with zero only
when there is no other. -/
structure DecimalLayout.IsNumber (layout : DecimalLayout) : Prop where
  isDigit_whole : ∀ c ∈ layout.whole, c.isDigit
  whole_ne_nil : layout.whole ≠ []
  noLeadingZero : ∀ more, layout.whole = '0' :: more → more = []
  isDigit_fraction : ∀ c ∈ layout.fraction, c.isDigit

/-- Digits of a positive number are laid out with a point. -/
theorem is_number_with_point {digits : Nat} (h : 0 < digits) (order : Int) :
    (DecimalLayout.withPoint (decimalDigits digits) order).IsNumber := by
  have hdigits : ∀ c ∈ decimalDigits digits, c.isDigit := is_digit_of_mem_decimal_digits
  have hzeros : ∀ {count : Nat}, ∀ c ∈ List.replicate count '0', c.isDigit := by
    intro count c hc
    rw [List.eq_of_mem_replicate hc]
    rfl
  rw [DecimalLayout.withPoint]
  split
  · constructor
    · simp
    · simp
    · exact fun more hmore => (List.cons.inj hmore).2.symm
    · exact fun c hc => (List.mem_append.mp hc).elim (hzeros c) (hdigits c)
  · obtain ⟨c, more, hcons, hc⟩ := exists_decimal_digits_eq h
    have hpadded : ∀ {count : Nat}, ∀ d ∈ decimalDigits digits ++ List.replicate count '0',
        d.isDigit := fun d hd => (List.mem_append.mp hd).elim (hdigits d) (hzeros d)
    constructor
    · exact fun d hd => hpadded d (List.mem_of_mem_take hd)
    · simp [hcons]
    · intro after hafter
      simp only [hcons, List.cons_append, List.take_succ_cons] at hafter
      exact absurd (List.cons.inj hafter).1 hc
    · exact fun d hd => hpadded d (List.mem_of_mem_drop hd)

/-- Digits of a number are laid out with an exponent. -/
theorem is_number_with_exponent (digits : Nat) (order : Int) :
    (DecimalLayout.withExponent (decimalDigits digits) order).IsNumber := by
  have hdigits : ∀ c ∈ decimalDigits digits, c.isDigit := is_digit_of_mem_decimal_digits
  obtain ⟨c, more, hcons⟩ := List.exists_cons_of_ne_nil (decimal_digits_ne_nil digits)
  rw [hcons] at hdigits ⊢
  constructor
  · exact fun d hd => hdigits d (List.mem_of_mem_take hd)
  · exact List.cons_ne_nil _ _
  · exact fun after hafter => (List.cons.inj hafter).2.symm
  · exact fun d hd => hdigits d (List.mem_of_mem_drop hd)

/-- A finite double is laid out as a number. -/
theorem is_number_layout {x : Binary} (h : x.IsDouble) (range : PointRange) :
    (x.layout range).IsNumber := by
  rw [Binary.layout]
  split
  · have hzero : ∀ c ∈ ['0'], c.isDigit := fun c hc => by
      rw [List.mem_singleton.mp hc]
      rfl
    exact ⟨hzero, List.cons_ne_nil _ _, fun more hmore => (List.cons.inj hmore).2.symm, hzero⟩
  · next hzero =>
      have hpos := Binary.digits_pos_of_is_rounded_from hzero
        (Binary.is_rounded_from_shortest h hzero)
      rw [Scientific.layout]
      split
      · exact is_number_with_point hpos _
      · exact is_number_with_exponent _ _

end TextTemplate.Number
