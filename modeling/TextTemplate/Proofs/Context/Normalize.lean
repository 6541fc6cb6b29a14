import TextTemplate.Context.Normalize
import TextTemplate.Proofs.Context.Keys
import TextTemplate.Proofs.Expr.Literal
import TextTemplate.Proofs.Number.Overflow

/-!
# Normalization is idempotent

A context of host data that leaves as JSON and comes back is the same context: strings that were
read as literals come back as these literals, and keys in lower case stay as they are.
-/

namespace TextTemplate

open TextTemplate.Time

/-- The doubles of the data are finite, as all numbers of JSON are. -/
inductive Json.IsFinite : Json → Prop where
  | null : IsFinite .null
  | boolean (value : Bool) : IsFinite (.boolean value)
  | integer (value : Json.Integer) : IsFinite (.integer value)
  | float {value : Float} (h : value.isFinite) : IsFinite (.float value)
  | string (text : String) : IsFinite (.string text)
  | array {items : List Json} (h : ∀ item ∈ items, item.IsFinite) : IsFinite (.array items)
  | object {members : List (String × Json)} (h : ∀ member ∈ members, member.2.IsFinite) :
      IsFinite (.object members)

namespace Value

/-- The value comes back from its plain JSON form. -/
def ComesBack (options : ContextOptions) (value : Value) : Prop :=
  ofHostJson options value.toJson = value

variable {options : ContextOptions}

/-! ## Integers -/

/-- A 64-bit word with a sign is the value of its integer. -/
theorem of_json_integer_of_int64 (word : Int64) : ofJsonInteger (.ofInt64 word) = int word := by
  have hword : (Json.Integer.ofInt64 word).int64? = some word := Number.int64?_to_int word
  rw [ofJsonInteger, hword]

/-- An integer that a word with a sign does not hold has a finite double. -/
theorem is_finite_to_float {n : Json.Integer} (h : n.int64? = none) : n.toFloat.isFinite := by
  obtain ⟨toInt, hlower, hupper⟩ := n
  have hlarge : 9223372036854775808 ≤ toInt := by
    by_contra hless
    have hword : Number.int64? toInt ≠ none := by
      rw [Number.int64?, if_pos (by omega)]
      exact Option.some_ne_none _
    exact hword h
  obtain ⟨n, rfl⟩ : ∃ n : Nat, toInt = n := ⟨toInt.toNat, by omega⟩
  have hdigits : 2 ^ 53 ≤ n := by omega
  have hlimit : 2 ^ 64 ≤ Number.doubleLimit := Number.le_double_limit (by decide)
  exact (Number.is_finite_of_nat_iff hdigits).mpr (by omega)

/-- What an integer of JSON data is read as comes back. -/
theorem of_json_integer_comes_back (n : Json.Integer) : ComesBack options (ofJsonInteger n) := by
  rw [ofJsonInteger]
  split
  · next word hword => exact of_json_integer_of_int64 word
  · next hword => rw [ComesBack, toJson, if_pos (is_finite_to_float hword), ofHostJson]

/-! ## Strings -/

/-- A text with a dash is no postal code. -/
theorem has_leading_zero_of_dash {text : String} (h : '-' ∈ text.toList) :
    hasLeadingZero text = false := by
  rw [hasLeadingZero]
  split
  · next following rest heq =>
      rw [heq, List.mem_cons] at h
      have hdash : '-' ∈ following :: rest := h.resolve_left (by decide)
      rw [List.all_eq_false]
      exact ⟨'-', hdash, by decide⟩
  · rfl

/-- The text of a timestamp is read as the timestamp again. -/
theorem of_host_text_timestamp (hskip : options.skipEvaluation = false) {t : Timestamp}
    (h : t.IsWritten) : ofHostText options t.text = dateTime t := by
  have hdash : '-' ∈ t.text.toList := by
    rw [Timestamp.text, String.toList_ofList, Timestamp.digits]
    simp
  rw [ofHostText, hskip, has_leading_zero_of_dash hdash, parse_timestamp_text h]
  rfl

/-- What a host string is read as comes back. -/
theorem of_host_text_comes_back (text : String) :
    ComesBack options (ofHostText options text) := by
  have hkept : ofHostText options text = str text →
      ComesBack options (ofHostText options text) := by
    intro heq
    rw [heq]
    exact heq
  by_cases hskip : options.skipEvaluation || hasLeadingZero text
  · exact hkept (by rw [ofHostText, if_pos hskip])
  · cases hparse : Literal.parse text with
    | error error => exact hkept (by rw [ofHostText, if_neg hskip, hparse])
    | ok literal =>
        have hvalue : ofHostText options text = literal.value := by
          rw [ofHostText, if_neg hskip, hparse]
        rw [hvalue]
        cases is_scalar_of_parse hparse with
        | int value => exact of_json_integer_of_int64 value
        | float hfinite =>
            rw [ComesBack, Literal.value, toJson, if_pos hfinite, ofHostJson]
        | bool value => rfl
        | dateTime hwritten =>
            -- Only a timestamp leaves as a string, and it was read because strings are evaluated.
            rw [Bool.or_eq_true, not_or, Bool.not_eq_true] at hskip
            rw [ComesBack, Literal.value, toJson, ofHostJson,
              of_host_text_timestamp hskip.1 hwritten]

/-! ## Lists and maps -/

theorem of_host_items_eq (items : List Json) :
    ofHostItems options items = items.map (ofHostJson options) := by
  induction items with
  | nil => rfl
  | cons item items ih => rw [ofHostItems, ih, List.map_cons]

theorem items_to_json_eq (items : List Value) : itemsToJson items = items.map toJson := by
  induction items with
  | nil => rfl
  | cons item items ih => rw [itemsToJson, ih, List.map_cons]

theorem of_host_members_eq (members : List (String × Json)) :
    ofHostMembers options members =
      members.map fun (key, value) => (key, ofHostJson options value) := by
  induction members with
  | nil => rfl
  | cons member members ih =>
      obtain ⟨key, value⟩ := member
      rw [ofHostMembers, ih, List.map_cons]

/-- A list comes back if its items do. -/
theorem ComesBack.list {items : List Value} (h : ∀ item ∈ items, ComesBack options item) :
    ComesBack options (list items) := by
  have hitems : (items.map toJson).map (ofHostJson options) = items := by
    rw [List.map_map]
    exact (List.map_congr_left h).trans (List.map_id items)
  rw [ComesBack, toJson, ofHostJson, items_to_json_eq, of_host_items_eq, hitems]

/-- Entries come back if their values do. -/
theorem of_host_members_entries_to_json {entries : List (String × Value)}
    (h : ∀ entry ∈ entries, ComesBack options entry.2) :
    ofHostMembers options (entriesToJson entries) = entries := by
  induction entries with
  | nil => rfl
  | cons entry entries ih =>
      obtain ⟨hentry, hentries⟩ := List.forall_mem_cons.mp h
      obtain ⟨key, value⟩ := entry
      rw [entriesToJson, ofHostMembers, ih hentries, hentry]

end Value

namespace Context

variable {options : ContextOptions}

/-- A context as normalization leaves it: ascending, with keys in lower case and values that come
back. -/
structure Normal (options : ContextOptions) (context : Context) : Prop where
  ascending : Keyed.Ascending context.entries
  lower : ∀ entry ∈ context.entries, Text.lower entry.1 = entry.1
  comesBack : ∀ entry ∈ context.entries, Value.ComesBack options entry.2

/-- The context without entries is normal. -/
theorem normal_empty : empty.Normal options :=
  ⟨List.Pairwise.nil, List.forall_mem_nil _, List.forall_mem_nil _⟩

/-- Inserting a value that comes back keeps a context normal. -/
theorem Normal.insert {context : Context} (h : context.Normal options) (key : String)
    {value : Value} (hvalue : value.ComesBack options) :
    (context.insert key value).Normal options where
  ascending := h.ascending.insert
  lower := by
    intro entry hentry
    rcases Keyed.mem_insert hentry with rfl | hentry
    · exact Text.lower_lower key
    · exact h.lower entry hentry
  comesBack := by
    intro entry hentry
    rcases Keyed.mem_insert hentry with rfl | hentry
    · exact hvalue
    · exact h.comesBack entry hentry

/-- A context of values that come back is normal. -/
theorem normal_of_pairs {pairs : List (String × Value)}
    (h : ∀ pair ∈ pairs, pair.2.ComesBack options) : (ofPairs pairs).Normal options := by
  have hfold : ∀ start : Context, start.Normal options →
      (pairs.foldl (fun context pair => context.insert pair.1 pair.2) start).Normal options := by
    induction pairs with
    | nil => exact fun _ hstart => hstart
    | cons pair pairs ih =>
        obtain ⟨hpair, hpairs⟩ := List.forall_mem_cons.mp h
        exact fun start hstart => ih hpairs _ (hstart.insert pair.1 hpair)
  exact hfold empty normal_empty

/-- A normal context is the context of its own entries. -/
theorem Normal.of_pairs_entries {context : Context} (h : context.Normal options) :
    ofPairs context.entries = context :=
  HasLowerKeys.of_pairs_entries h.lower h.ascending

/-- A normal context comes back from its object. -/
theorem Normal.of_host_json_to_json {context : Context} (h : context.Normal options) :
    ofHostJson options context.toJson = context := by
  obtain ⟨entries⟩ := context
  rw [toJson, Value.contextToJson, ofHostJson, ofHostPairs,
    Value.of_host_members_entries_to_json h.comesBack]
  exact h.of_pairs_entries

end Context

/-! ## Data -/

variable {options : ContextOptions}

/-- A map of a normal context comes back. -/
theorem Value.ComesBack.map {context : Context} (h : context.Normal options) :
    ComesBack options (map context) := by
  obtain ⟨entries⟩ := context
  rw [ComesBack, toJson, contextToJson, Value.ofHostJson,
    of_host_members_entries_to_json h.comesBack, h.of_pairs_entries]

/-- Whatever data is read as comes back. -/
theorem Json.IsFinite.comes_back {json : Json} (h : json.IsFinite) :
    Value.ComesBack options (.ofHostJson options json) := by
  induction h with
  | null => rfl
  | boolean value => rfl
  | integer value => exact Value.of_json_integer_comes_back value
  | float hfinite =>
      rw [Value.ofHostJson, Value.ComesBack, Value.toJson, if_pos hfinite, Value.ofHostJson]
  | string text => exact Value.of_host_text_comes_back text
  | array _ ih =>
      rw [Value.ofHostJson, Value.of_host_items_eq]
      exact .list (List.forall_mem_map.mpr ih)
  | object _ ih =>
      rw [Value.ofHostJson, Value.of_host_members_eq]
      exact .map (Context.normal_of_pairs (List.forall_mem_map.mpr ih))

/-- Normalization is idempotent through plain JSON: the context of any data, read once more from its
own object, is the same context. -/
theorem of_host_json_idempotent (options : ContextOptions) {raw : Json} (h : raw.IsFinite) :
    Context.ofHostJson options (Context.ofHostJson options raw).toJson =
      Context.ofHostJson options raw := by
  have hnormal : (Context.ofHostJson options raw).Normal options := by
    cases h with
    | object hmembers =>
        rw [Context.ofHostJson, Context.ofHostPairs, Value.of_host_members_eq]
        exact Context.normal_of_pairs
          (List.forall_mem_map.mpr fun member hmember => (hmembers member hmember).comes_back)
    | _ => exact Context.normal_empty
  exact hnormal.of_host_json_to_json

/-- An order as a host may hold it: a timestamp, and two spellings of one key. -/
def sampleOrder : Json :=
  .object [("At", .string "2024-02-29T12:30:00.250+0530"), ("Zip", .string "00501"),
    ("zip", .array [.float 1.5, .string "-7"])]

/-- The context of an order comes back. -/
theorem of_host_json_idempotent_of_order :
    sampleOrder.IsFinite ∧
      Context.ofHostJson {} (Context.ofHostJson {} sampleOrder).toJson =
        Context.ofHostJson {} sampleOrder := by
  have hfinite : sampleOrder.IsFinite := by
    refine .object ?_
    simp only [List.forall_mem_cons, List.not_mem_nil, false_implies, implies_true, and_true]
    refine ⟨.string _, .string _, .array ?_⟩
    simp only [List.forall_mem_cons, List.not_mem_nil, false_implies, implies_true, and_true]
    exact ⟨.float (by decide +kernel), .string _⟩
  exact ⟨hfinite, of_host_json_idempotent {} hfinite⟩

end TextTemplate
