import Mathlib
import TextTemplate.Library.Standard
import TextTemplate.Proofs.Value.Access

/-!
# Lengths

The library function `len` counts the elements of a value, as long as a signed word holds their
number: for a range with 2 ^ 63 or more members another number is answered
(`StandardFunction.len_counts_elements`). Access by index is not limited in this way. The indices
that select an element are the ones from minus the number of elements up to the number of elements,
and the elements are the members of a range or the items of a list.
-/

namespace TextTemplate

/-! ## Elements and their indices -/

/-- The value has that many elements: characters of a text, items of a list, members of a range that
a walk meets, however far it goes, or entries of a map. -/
inductive Value.HasCount : Value → Nat → Prop where
  | str (text : String) : HasCount (.str text) text.length
  | list (items : List Value) : HasCount (.list items) items.length
  | range {range : IntRange} {count : Nat}
      (h : ∀ limit, (range.take limit).length = min limit count) : HasCount (.range range) count
  | map (context : Context) : HasCount (.map context) context.keys.length

/-- A length that is the count wherever a signed word holds the count selects the same indices as
the count only there: to a larger count every index selects an element, but a length is never an
index that it selects itself. -/
theorem selects_to_int_iff {length : Int64} {count : Nat}
    (h : count < 2 ^ 63 → length.toInt = count) :
    (∀ index, Selects length.toInt index ↔ Selects count index) ↔ count < 2 ^ 63 := by
  constructor
  · intro hselects
    have hlow := length.le_toInt
    have hhigh := length.toInt_lt
    have hself : ¬ Selects count length := fun h => Int.lt_irrefl _ ((hselects length).mpr h).2
    unfold Selects at hself
    omega
  · intro hlt index
    rw [h hlt]

namespace StandardFunction

/-- The elements are as many as the value has. -/
theorem length_elements_of_count {value : Value} {count : Nat} (hcount : value.HasCount count)
    {elements : List Value} (h : elementsOf? value = some elements) : elements.length = count := by
  cases hcount with
  | str text => cases h
  | list items =>
      cases h
      rfl
  | @range range _ htake =>
      cases h
      have hall := htake (max count range.count)
      rw [range.length_take] at hall
      rw [List.length_map, range.length_members]
      omega
  | map context => cases h

/-- What is measured has a number of elements, and it is the length if a signed word holds it. -/
theorem count_of_length {value : Value} {length : Int64} (h : lengthOf? value = some length) :
    ∃ count, value.HasCount count ∧ (count < 2 ^ 63 → length.toInt = count) := by
  unfold lengthOf? at h
  split at h
  · next text =>
      cases h
      rw [String.length_toList]
      exact ⟨_, .str text, Int64.toInt_ofNat_of_lt⟩
  · next items =>
      cases h
      exact ⟨_, .list items, Int64.toInt_ofNat_of_lt⟩
  · next range =>
      cases h
      refine ⟨_, .range range.length_take, fun hlt => ?_⟩
      have hmin : min range.count 18446744073709551615 = range.count := by omega
      rw [IntRange.length, hmin, UInt64.toInt64_ofNat']
      exact Int64.toInt_ofNat_of_lt hlt
  · next context =>
      cases h
      refine ⟨_, .map context, ?_⟩
      rw [Context.keys, List.length_map]
      exact Int64.toInt_ofNat_of_lt
  · cases h

/-- What `len` answers is the length of its only argument. -/
theorem length_of_answer {invoke : Invoke} {call : Call} {value result : Value}
    (hargs : call.args = [value]) (h : answer invoke call .len = .ok result) :
    ∃ length, lengthOf? value = some length ∧ result = .int length := by
  rw [answer, hargs] at h
  dsimp only at h
  split at h
  · next length hlength =>
      cases h
      exact ⟨length, hlength, rfl⟩
  · cases h

/-- If the library function `len` succeeds on a value, the value has a number of elements. The
answer is this number exactly if it is below 2 ^ 63, and only then are the indices that the answer
promises those that select an element. For a list or a range these are the indices from minus the
number of elements up to the number of elements, each of which selects the element that it counts
to, from the first one on or back from behind the last one; any other index selects null. -/
theorem len_counts_elements {invoke : Invoke} {call : Call} {value result : Value}
    (hname : ofName? call.name = some .len) (hargs : call.args = [value])
    (h : Library.standard invoke call = .ok result) :
    ∃ (count : Nat) (length : Int64), value.HasCount count ∧ result = .int length ∧
      (length.toInt = count ↔ count < 2 ^ 63) ∧
      ((∀ index, Selects length.toInt index ↔ Selects count index) ↔ count < 2 ^ 63) ∧
      ∀ elements, elementsOf? value = some elements → elements.length = count ∧
        ∀ index : Int64,
          (Selects count index → ∃ position : Nat,
            (position : Int) = fromEnd count index.toInt ∧
              elements[position]? = some (value.access (.int index))) ∧
          (¬ Selects count index → value.access (.int index) = .null) := by
  rw [Library.standard, hname] at h
  obtain ⟨length, hlength, rfl⟩ := length_of_answer hargs h
  obtain ⟨count, hcount, hword⟩ := count_of_length hlength
  have hexact : length.toInt = count ↔ count < 2 ^ 63 := by
    have hhigh := length.toInt_lt
    exact ⟨fun heq => by omega, hword⟩
  refine ⟨count, length, hcount, rfl, hexact, selects_to_int_iff hword, ?_⟩
  intro elements helements
  obtain rfl := length_elements_of_count hcount helements
  refine ⟨rfl, fun index => ⟨fun hselects => ?_, fun hselects => ?_⟩⟩
  · obtain ⟨position, hposition, hlt, hat⟩ := element_at?_of_selects hselects
    refine ⟨position, hposition, ?_⟩
    rw [Value.access_int_of_elements helements, hat, List.getElem?_eq_getElem hlt, Option.getD_some]
  · rw [Value.access_int_of_elements helements, element_at?_of_not_selects hselects,
      Option.getD_none]

/-- The range from zero to the greatest word has one member more than a signed word can count, and
its length is said to be the least word. -/
theorem len_counts_elements_of_wide_range :
    let wide : Value := .range ⟨0, 9223372036854775807, 1⟩
    let call : Call := ⟨"Len", [wide], .empty, []⟩
    let invoke : Invoke := fun _ _ _ => .ok .null
    Library.standard invoke call = .ok (.int (-9223372036854775808)) ∧
      ∃ count, wide.HasCount count ∧ ¬ count < 2 ^ 63 := by
  intro wide call invoke
  have hlen : Library.standard invoke call = .ok (.int (-9223372036854775808)) := by cbv
  obtain ⟨count, length, hcount, hresult, hexact, -⟩ :=
    @len_counts_elements invoke call wide _ (by cbv) rfl hlen
  cases hresult
  refine ⟨hlen, count, hcount, fun hlt => ?_⟩
  have hnegative : ((-9223372036854775808 : Int64).toInt) < 0 := by decide
  have heq := hexact.mpr hlt
  omega

end StandardFunction

end TextTemplate
