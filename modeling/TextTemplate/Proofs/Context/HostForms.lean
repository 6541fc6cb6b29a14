import TextTemplate.Proofs.Context.Built

/-!
# Host data and host values

Data that a host holds in JSON form and the same data as host values make the same context, although
objects are normalized member by member and only then collected, while maps are collected before
their values are normalized (`Context.normalize_context_of_pairs`). For the same reason it makes no
difference to normalize a value twice. The main statement is `host_forms_normalize_alike`.
-/

namespace TextTemplate

namespace Context

variable {options : ContextOptions}

/-! ## Contexts of pairs -/

/-- A context is normalized by collecting its normalized entries. -/
theorem normalize_context_eq (context : Context) :
    Value.normalizeContext options context =
      ofPairs (Value.normalizeEntries options context.entries) := by
  cases context
  rfl

/-- Normalizing the context of pairs is collecting the normalized pairs, also where the keys of
several pairs have one lower-case form. -/
theorem normalize_context_of_pairs (pairs : List (String × Value)) :
    Value.normalizeContext options (ofPairs pairs) =
      ofPairs (Value.normalizeEntries options pairs) := by
  -- The normalized entries are those of the right-hand side, which is the context of its entries.
  have hentries : Value.normalizeEntries options (ofPairs pairs).entries =
      (ofPairs (Value.normalizeEntries options pairs)).entries := by
    rw [Value.normalize_entries_eq, Value.normalize_entries_eq, entries_of_pairs_map]
  rw [normalize_context_eq, hentries]
  exact (has_lower_keys_of_pairs _).of_pairs_entries (ascending_of_pairs _)

end Context

namespace Value

variable (options : ContextOptions)

/-! ## Host values in place of host data -/

/-- The value of an integer of JSON data is normalized to itself. -/
theorem normalize_of_json_integer (value : Json.Integer) :
    normalize options (ofJsonInteger value) = ofJsonInteger value := by
  rw [ofJsonInteger]
  cases value.int64? <;> rfl

mutual
/-- The value that a host holds for data is normalized to what the data is normalized to. -/
theorem normalize_of_json : (data : Json) →
    normalize options (ofJson data) = ofHostJson options data
  | .null | .boolean _ | .float _ | .string _ => rfl
  | .integer value => normalize_of_json_integer options value
  | .array items => by
      rw [ofJson, normalize, normalize_items_of_json items, ofHostJson]
  | .object members => by
      rw [ofJson, normalize, Context.normalize_context_of_pairs,
        normalize_pairs_of_json members, ofHostJson]

/-- The values that a host holds for items are normalized to what the items are normalized to. -/
theorem normalize_items_of_json : (items : List Json) →
    normalizeAll options (itemsOfJson items) = ofHostItems options items
  | [] => rfl
  | item :: items => by
      rw [itemsOfJson, normalizeAll, normalize_of_json item, normalize_items_of_json items,
        ofHostItems]

/-- The values that a host holds for members are normalized to what the members are normalized
to. -/
theorem normalize_pairs_of_json : (members : List (String × Json)) →
    normalizeEntries options (pairsOfJson members) = ofHostMembers options members
  | [] => rfl
  | (_, value) :: members => by
      rw [pairsOfJson, normalizeEntries, normalize_of_json value,
        normalize_pairs_of_json members, ofHostMembers]
end

/-! ## Normalizing twice -/

/-- The value of a host string is normalized to itself: it is no string, unless the string is kept
as it is. -/
theorem normalize_of_host_text (text : String) :
    normalize options (ofHostText options text) = ofHostText options text := by
  have hkept : ofHostText options text = str text →
      normalize options (ofHostText options text) = ofHostText options text := by
    intro heq
    rw [heq]
    exact heq
  by_cases hread : options.skipEvaluation || hasLeadingZero text
  · exact hkept (by rw [ofHostText, if_pos hread])
  · cases hparse : Literal.parse text with
    | error error => exact hkept (by rw [ofHostText, if_neg hread, hparse])
    | ok literal =>
        have hvalue : ofHostText options text = literal.value := by
          rw [ofHostText, if_neg hread, hparse]
        rw [hvalue]
        cases is_scalar_of_parse hparse <;> rfl

mutual
/-- Normalizing a value twice is normalizing it once. -/
theorem normalize_normalize : (value : Value) →
    normalize options (normalize options value) = normalize options value
  | null | bool _ | int _ | float _ | decimal _ | dateTime _ | range _ | closure _ => rfl
  | str text => normalize_of_host_text options text
  | list items => by rw [normalize, normalize, normalize_normalize_all items]
  | map context => by rw [normalize, normalize, normalize_normalize_context context]

/-- Normalizing a map twice is normalizing it once. -/
theorem normalize_normalize_context : (context : Context) →
    normalizeContext options (normalizeContext options context) = normalizeContext options context
  | ⟨entries⟩ => by
      rw [normalizeContext, Context.normalize_context_of_pairs,
        normalize_normalize_entries entries]

/-- Normalizing items twice is normalizing them once. -/
theorem normalize_normalize_all : (items : List Value) →
    normalizeAll options (normalizeAll options items) = normalizeAll options items
  | [] => rfl
  | item :: items => by
      rw [normalizeAll, normalizeAll, normalize_normalize item, normalize_normalize_all items]

/-- Normalizing entries twice is normalizing them once. -/
theorem normalize_normalize_entries : (entries : List (String × Value)) →
    normalizeEntries options (normalizeEntries options entries) = normalizeEntries options entries
  | [] => rfl
  | (_, value) :: entries => by
      rw [normalizeEntries, normalizeEntries, normalize_normalize value,
        normalize_normalize_entries entries]
end

end Value

/-- Data in JSON form is normalized to what the value that a host holds for it is normalized to, so
that pairs of data make the same context as the same pairs of host values; and normalizing any value
twice is normalizing it once. -/
theorem host_forms_normalize_alike (options : ContextOptions) :
    (∀ data : Json, Value.ofHostJson options data = Value.normalize options (.ofJson data)) ∧
    (∀ pairs : List (String × Json),
      Context.ofHostPairs options pairs = Context.ofHostValues options (Value.pairsOfJson pairs)) ∧
    ∀ value : Value,
      Value.normalize options (Value.normalize options value) = Value.normalize options value := by
  refine ⟨fun data => (Value.normalize_of_json options data).symm, fun pairs => ?_,
    Value.normalize_normalize options⟩
  rw [Context.ofHostPairs, Context.ofHostValues, Value.normalize_pairs_of_json]

end TextTemplate
