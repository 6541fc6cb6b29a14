import Mathlib.Data.Nat.Bitwise
import TextTemplate.Text.Case

/-!
# Lower case is final

No image of a lower-case mapping has another image, so that lower-casing a text twice is
lower-casing it once (`lower_lower`). The table is searched by masks: a set of code points is a
number whose bits are set at its members, and two sets are apart when no bit is set in both.
-/

namespace TextTemplate.Text

/-- Lower-casing leaves the character as it is, wherever it stands. -/
def Settled (c : Char) : Prop :=
  c ≠ 'Σ' ∧ lowerChar c = [c]

instance (c : Char) : Decidable (Settled c) :=
  inferInstanceAs (Decidable (_ ∧ _))

/-- The code points that a run maps. -/
def CaseRun.codes (run : CaseRun) : List Nat :=
  (List.range ((run.last - run.first) / run.stride + 1)).map fun step =>
    run.first + run.stride * step

/-- The number whose bits are set at the code points. -/
def mask (codes : List Nat) : Nat :=
  codes.foldr (fun code others => others ||| 1 <<< code) 0

/-- The bit of a member is set. -/
theorem test_bit_mask {code : Nat} {codes : List Nat} (h : code ∈ codes) :
    (mask codes).testBit code = true := by
  induction codes with
  | nil => cases h
  | cons first rest ih =>
      rw [mask, List.foldr_cons, Nat.testBit_or]
      rcases List.mem_cons.mp h with rfl | hrest
      · simp [Nat.testBit_shiftLeft]
      · have hbit := ih hrest
        rw [mask] at hbit
        rw [hbit, Bool.true_or]

/-- Lists whose masks share no bit share no member. -/
theorem not_mem_of_masks {first second : List Nat} (h : mask first &&& mask second = 0)
    {code : Nat} (hcode : code ∈ first) : code ∉ second := by
  intro hsecond
  have hbit := Nat.testBit_and (mask first) (mask second) code
  rw [h, test_bit_mask hcode, test_bit_mask hsecond] at hbit
  simp at hbit

/-- A run only maps its own code points, each by its shift. -/
theorem CaseRun.image?_eq_some {run : CaseRun} {code image : Nat}
    (h : run.image? code = some image) :
    code ∈ run.codes ∧
      image ∈ run.codes.map fun code : Nat => ((code : Int) + run.shift).toNat := by
  rw [CaseRun.image?] at h
  split at h
  · next hreach =>
      obtain ⟨hfirst, hlast, hstride⟩ := hreach
      have hcode : code ∈ run.codes := by
        refine List.mem_map.mpr ⟨(code - run.first) / run.stride, ?_, ?_⟩
        · have hle : (code - run.first) / run.stride ≤ (run.last - run.first) / run.stride :=
            Nat.div_le_div_right (by omega)
          exact List.mem_range.mpr (by omega)
        · have hdiv := Nat.div_add_mod (code - run.first) run.stride
          omega
      exact ⟨hcode, List.mem_map.mpr ⟨code, hcode, Option.some.inj h⟩⟩
  · cases h

/-- All code points that the table maps, with the one that has two images. -/
def mappedCodes : List Nat :=
  0x130 :: lowerRuns.flatMap CaseRun.codes

/-- All images of the table. -/
def imageCodes : List Nat :=
  lowerRuns.flatMap fun run => run.codes.map fun code : Nat => ((code : Int) + run.shift).toNat

/-- No image is mapped. -/
theorem image_masks : mask imageCodes &&& mask mappedCodes = 0 := by
  decide +kernel

/-- A character that the table does not map is settled, unless it is an ASCII character. -/
theorem settled_of_not_mapped {c : Char} (hascii : ¬ c.toNat < 128)
    (h : c.toNat ∉ mappedCodes) : Settled c := by
  have hsigma : c ≠ 'Σ' := by
    rintro rfl
    exact h (by decide +kernel)
  have hspecial : c.toNat ≠ 0x130 := fun heq => h (heq ▸ List.mem_cons_self)
  have hnone : CaseRun.firstImage? lowerRuns c.toNat = none := by
    refine List.findSome?_eq_none_iff.mpr fun run hrun => ?_
    cases himage : run.image? c.toNat with
    | none => rfl
    | some image =>
        have hcode := (CaseRun.image?_eq_some himage).1
        exact absurd (List.mem_cons_of_mem _ (List.mem_flatMap.mpr ⟨run, hrun, hcode⟩)) h
  refine ⟨hsigma, ?_⟩
  rw [lowerChar, if_neg hascii, if_neg hspecial, hnone]

/-- The ASCII characters that are no capital letters are settled. -/
theorem settled_ascii {code : Nat} (h : code < 128) (hcapital : code < 65 ∨ 90 < code) :
    Settled (Char.ofNat code) := by
  revert code
  decide +kernel

/-- The lower-case forms of ASCII characters are settled. -/
theorem settled_to_lower {code : Nat} (h : code < 128) : Settled (Char.ofNat code).toLower := by
  revert code
  decide +kernel

/-- The images of the table are settled. -/
theorem settled_of_image {code image : Nat}
    (h : CaseRun.firstImage? lowerRuns code = some image) : Settled (Char.ofNat image) := by
  obtain ⟨run, hrun, himage⟩ := List.exists_of_findSome?_eq_some h
  have himages : image ∈ imageCodes :=
    List.mem_flatMap.mpr ⟨run, hrun, (CaseRun.image?_eq_some himage).2⟩
  have hmapped := not_mem_of_masks image_masks himages
  by_cases hvalid : image.isValidChar
  · have hnat : (Char.ofNat image).toNat = image := by
      rw [Char.ofNat, dif_pos hvalid]
      rfl
    by_cases hascii : image < 128
    · -- Capital letters are mapped themselves, so none of them is an image.
      refine settled_ascii hascii ?_
      by_contra hcapital
      have hrange : image ∈ List.range' 65 26 := List.mem_range'_1.mpr (by omega)
      have hall : ∀ code ∈ List.range' 65 26, code ∈ mappedCodes := by decide +kernel
      exact hmapped (hall image hrange)
    · exact settled_of_not_mapped (hnat.symm ▸ hascii) (hnat.symm ▸ hmapped)
  · -- What is no code point would stand for the character zero.
    have hzero : Char.ofNat image = Char.ofNat 0 := by
      rw [Char.ofNat, dif_neg hvalid]
      rfl
    rw [hzero]
    decide

/-- The lower-case form of a character other than a capital sigma is settled. -/
theorem settled_lower_char {c : Char} (hsigma : c ≠ 'Σ') : ∀ d ∈ lowerChar c, Settled d := by
  intro d hd
  rw [lowerChar.eq_def] at hd
  split at hd
  · next hascii =>
      rw [List.mem_singleton.mp hd, ← Char.ofNat_toNat c]
      exact settled_to_lower hascii
  · split at hd
    · rcases List.mem_cons.mp hd with rfl | hd
      · decide +kernel
      · rw [List.mem_singleton.mp hd]
        decide +kernel
    · next hascii hspecial =>
        split at hd
        · next image himage =>
            rw [List.mem_singleton.mp hd]
            exact settled_of_image himage
        · next hnone =>
            rw [List.mem_singleton.mp hd]
            refine ⟨hsigma, ?_⟩
            rw [lowerChar, if_neg hascii, if_neg hspecial, hnone]

/-- The lower-case form of a text is settled. -/
theorem settled_lower_after (before cs : List Char) :
    ∀ d ∈ lowerAfter before cs, Settled d := by
  induction cs generalizing before with
  | nil => exact fun _ h => nomatch h
  | cons c rest ih =>
      intro d hd
      rw [lowerAfter] at hd
      rcases List.mem_append.mp hd with hd | hd
      · split at hd
        · rw [List.mem_singleton.mp hd, lowerSigma]
          split <;> decide +kernel
        · next hsigma => exact settled_lower_char hsigma d hd
      · exact ih _ d hd

/-- Lower-casing leaves settled characters as they are. -/
theorem lower_after_of_settled {cs : List Char} (h : ∀ c ∈ cs, Settled c) (before : List Char) :
    lowerAfter before cs = cs := by
  induction cs generalizing before with
  | nil => rfl
  | cons c rest ih =>
      obtain ⟨hsigma, hlower⟩ := h c List.mem_cons_self
      rw [lowerAfter, if_neg hsigma, hlower, ih fun c hc => h c (List.mem_cons_of_mem _ hc)]
      rfl

/-- Lower-casing twice is lower-casing once. -/
theorem lower_lower (text : String) : lower (lower text) = lower text := by
  rw [lower, lower, String.toList_ofList, lower_after_of_settled (settled_lower_after _ _)]

end TextTemplate.Text
