import TextTemplate.Proofs.Context.Keys
import TextTemplate.Proofs.Context.Normalize

/-!
# Contexts that hosts build

A host builds contexts from data in JSON form, from pairs of keys and values, and by putting values
into contexts that it has; the values may hold contexts that were built in the same way. The keys of
all maps within such a context are in lower case, however deep the maps are, so that look-ups ignore
the case of keys (`Context.Built.ignores_case`). Of pairs whose keys have one lower-case form the
last one counts, whatever the pairs are made of (`Context.get?_of_pairs`).
-/

namespace TextTemplate

/-- The value is the map, or a list or a map that the map is within. What closures keep is not
within them. -/
inductive Value.HasMap (inner : Context) : Value → Prop where
  | here : HasMap inner (.map inner)
  | item {items : List Value} {item : Value} (hitem : item ∈ items) (h : HasMap inner item) :
      HasMap inner (.list items)
  | entry {context : Context} {entry : String × Value} (hentry : entry ∈ context.entries)
      (h : HasMap inner entry.2) : HasMap inner (.map context)

/-- The empty context has the property, and putting a value under a key keeps it. -/
structure Context.Kept (P : Context → Prop) : Prop where
  empty : P .empty
  insert : ∀ {context : Context}, P context → ∀ key value, P (context.insert key value)

namespace Value

/-! ## Properties of the maps at every depth -/

/-- The maps within the value have the property. -/
def Throughout (P : Context → Prop) (value : Value) : Prop :=
  ∀ inner, value.HasMap inner → P inner

/-- The maps within the value have their keys in lower case. -/
def LowerThroughout (value : Value) : Prop :=
  ∀ inner, value.HasMap inner → inner.HasLowerKeys

variable {P : Context → Prop}

/-- The maps within a list are those within its items. -/
theorem throughout_list {items : List Value} :
    (list items).Throughout P ↔ ∀ item ∈ items, item.Throughout P := by
  constructor
  · exact fun h item hitem inner hinner => h inner (.item hitem hinner)
  · intro h inner hinner
    cases hinner with
    | item hitem hinner => exact h _ hitem inner hinner

/-- The maps within a map are itself and those within its values. -/
theorem throughout_map {context : Context} :
    (map context).Throughout P ↔ P context ∧ ∀ entry ∈ context.entries, entry.2.Throughout P := by
  constructor
  · exact fun h =>
      ⟨h context .here, fun entry hentry inner hinner => h inner (.entry hentry hinner)⟩
  · rintro ⟨hcontext, hentries⟩ inner hinner
    cases hinner with
    | here => exact hcontext
    | entry hentry hinner => exact hentries _ hentry inner hinner

/-- Literals have no maps within them. -/
theorem throughout_literal (literal : Literal) : literal.value.Throughout P := by
  intro inner hinner
  cases literal <;> cases hinner

/-- An integer of JSON data has no maps within it. -/
theorem throughout_of_json_integer (value : Json.Integer) :
    (ofJsonInteger value).Throughout P := by
  intro inner hinner
  rw [ofJsonInteger] at hinner
  cases hint : value.int64? <;> rw [hint] at hinner <;> cases hinner

/-- A host string has no maps within it. -/
theorem throughout_of_host_text (options : ContextOptions) (text : String) :
    (ofHostText options text).Throughout P := by
  have htext : (str text).Throughout P := throughout_literal (.str text)
  rw [ofHostText]
  split
  · exact htext
  · split
    · exact throughout_literal _
    · exact htext

/-- Putting a value into a map keeps the property at every depth. -/
theorem throughout_insert (hP : Context.Kept P) {context : Context}
    (h : (map context).Throughout P) (key : String) {value : Value} (hvalue : value.Throughout P) :
    (map (context.insert key value)).Throughout P := by
  obtain ⟨hcontext, hentries⟩ := throughout_map.mp h
  refine throughout_map.mpr ⟨hP.insert hcontext key value, fun entry hentry => ?_⟩
  rcases Keyed.mem_insert hentry with rfl | hentry
  · exact hvalue
  · exact hentries entry hentry

/-- A map of pairs has the property at every depth if the values of the pairs do. -/
theorem throughout_of_pairs (hP : Context.Kept P) {pairs : List (String × Value)}
    (h : ∀ pair ∈ pairs, pair.2.Throughout P) : (map (.ofPairs pairs)).Throughout P := by
  induction pairs using List.reverseRecOn with
  | nil => exact throughout_map.mpr ⟨hP.empty, List.forall_mem_nil _⟩
  | append_singleton pairs pair ih =>
      obtain ⟨hpairs, hpair⟩ := List.forall_mem_append.mp h
      rw [Context.of_pairs_concat]
      exact throughout_insert hP (ih hpairs) pair.1 (hpair pair List.mem_cons_self)

variable (options : ContextOptions)

mutual
/-- Host data in JSON form has the property at every depth. -/
theorem of_host_json_keeps (hP : Context.Kept P) : (data : Json) →
    (ofHostJson options data).Throughout P
  | .null | .boolean _ | .float _ => fun _ hinner => nomatch hinner
  | .integer value => throughout_of_json_integer value
  | .string text => throughout_of_host_text options text
  | .array items => throughout_list.mpr (of_host_items_keeps hP items)
  | .object members => throughout_of_pairs hP (of_host_members_keeps hP members)

/-- The items of an array have the property at every depth. -/
theorem of_host_items_keeps (hP : Context.Kept P) : (items : List Json) →
    ∀ value ∈ ofHostItems options items, value.Throughout P
  | [] => List.forall_mem_nil _
  | item :: items =>
    List.forall_mem_cons.mpr ⟨of_host_json_keeps hP item, of_host_items_keeps hP items⟩

/-- The members of an object have the property at every depth. -/
theorem of_host_members_keeps (hP : Context.Kept P) : (members : List (String × Json)) →
    ∀ pair ∈ ofHostMembers options members, pair.2.Throughout P
  | [] => List.forall_mem_nil _
  | (_, data) :: members =>
    List.forall_mem_cons.mpr ⟨of_host_json_keeps hP data, of_host_members_keeps hP members⟩
end

mutual
/-- Normalized host values have the property at every depth. -/
theorem normalize_keeps (hP : Context.Kept P) : (value : Value) →
    (normalize options value).Throughout P
  | null | bool _ | int _ | float _ | decimal _ | dateTime _ | range _ | closure _ =>
    fun _ hinner => nomatch hinner
  | str text => throughout_of_host_text options text
  | list items => throughout_list.mpr (normalize_all_keeps hP items)
  | map context => normalize_context_keeps hP context

/-- Normalized maps have the property at every depth. -/
theorem normalize_context_keeps (hP : Context.Kept P) : (context : Context) →
    (map (normalizeContext options context)).Throughout P
  | ⟨entries⟩ => throughout_of_pairs hP (normalize_entries_keeps hP entries)

/-- Normalized items have the property at every depth. -/
theorem normalize_all_keeps (hP : Context.Kept P) : (items : List Value) →
    ∀ value ∈ normalizeAll options items, value.Throughout P
  | [] => List.forall_mem_nil _
  | item :: items =>
    List.forall_mem_cons.mpr ⟨normalize_keeps hP item, normalize_all_keeps hP items⟩

/-- The values of normalized entries have the property at every depth. -/
theorem normalize_entries_keeps (hP : Context.Kept P) : (entries : List (String × Value)) →
    ∀ pair ∈ normalizeEntries options entries, pair.2.Throughout P
  | [] => List.forall_mem_nil _
  | (_, value) :: entries =>
    List.forall_mem_cons.mpr ⟨normalize_keeps hP value, normalize_entries_keeps hP entries⟩
end

/-- Normalized entries are the entries with their values normalized. -/
theorem normalize_entries_eq (entries : List (String × Value)) :
    normalizeEntries options entries =
      entries.map fun entry => (entry.1, normalize options entry.2) := by
  induction entries with
  | nil => rfl
  | cons entry entries ih =>
      obtain ⟨key, value⟩ := entry
      rw [normalizeEntries, ih, List.map_cons]

end Value

namespace Context

/-! ## What hosts can build -/

/-- A host can build the context. The values that it hands in may be any, but for the maps within
them, which it has to build first. -/
inductive Built : Context → Prop where
  | ofHostJson (options : ContextOptions) (data : Json) : Built (.ofHostJson options data)
  | ofHostPairs (options : ContextOptions) (pairs : List (String × Json)) :
      Built (.ofHostPairs options pairs)
  | ofHostValues (options : ContextOptions) {pairs : List (String × Value)}
      (h : ∀ pair ∈ pairs, ∀ inner, pair.2.HasMap inner → Built inner) :
      Built (.ofHostValues options pairs)
  | ofPairs {pairs : List (String × Value)}
      (h : ∀ pair ∈ pairs, ∀ inner, pair.2.HasMap inner → Built inner) : Built (.ofPairs pairs)
  | insert {context : Context} (h : Built context) (key : String) {value : Value}
      (hvalue : ∀ inner, value.HasMap inner → Built inner) : Built (context.insert key value)
  | withCaptures {context : Context} (h : Built context) {args : List Value}
      (hargs : ∀ arg ∈ args, ∀ inner, arg.HasMap inner → Built inner) :
      Built (context.withCaptures args)

/-- What insertions keep holds of all maps within a context that a host can build. -/
theorem Built.throughout {P : Context → Prop} (hP : Kept P) {context : Context}
    (h : context.Built) : (Value.map context).Throughout P := by
  induction h with
  | ofHostJson options data =>
      cases data with
      | object members =>
          exact Value.throughout_of_pairs hP (Value.of_host_members_keeps options hP members)
      | _ => exact Value.throughout_of_pairs hP (List.forall_mem_nil _)
  | ofHostPairs options pairs =>
      exact Value.throughout_of_pairs hP (Value.of_host_members_keeps options hP pairs)
  | @ofHostValues options pairs _ _ =>
      exact Value.throughout_of_pairs hP (Value.normalize_entries_keeps options hP pairs)
  | ofPairs _ ih =>
      exact Value.throughout_of_pairs hP
        fun pair hpair inner hinner => ih pair hpair inner hinner inner .here
  | insert _ key _ ih ihvalue =>
      exact Value.throughout_insert hP ih key
        fun inner hinner => ihvalue inner hinner inner .here
  | withCaptures _ _ ih ihargs =>
      exact Value.throughout_insert hP ih capturesKey (Value.throughout_list.mpr
        fun arg harg inner hinner => ihargs arg harg inner hinner inner .here)

/-- The keys of all maps within a context that a host can build are in lower case. -/
theorem Built.lower_throughout {context : Context} (h : context.Built) :
    (Value.map context).LowerThroughout :=
  h.throughout ⟨has_lower_keys_empty, fun hcontext => hcontext.insert⟩

/-- The keys of the context are in lower case and ascend. -/
structure IsOrdered (context : Context) : Prop where
  lower : context.HasLowerKeys
  ascending : Keyed.Ascending context.entries

/-- A look-up of a key in lower case finds the entries with the key. -/
theorem IsOrdered.get?_eq_some_iff {context : Context} (h : context.IsOrdered) {key : String}
    {value : Value} (hkey : Text.lower key = key) :
    context.get? key = some value ↔ (key, value) ∈ context.entries := by
  rw [h.lower.get?_eq, hkey, h.ascending.get?_eq_some_iff]

/-- Insertions keep the keys of a context in lower case and ascending. -/
theorem is_ordered_kept : Kept IsOrdered where
  empty := ⟨has_lower_keys_empty, List.Pairwise.nil⟩
  insert hcontext key value :=
    ⟨hcontext.lower.insert key value, hcontext.ascending.insert⟩

/-- The keys of all maps within a context that a host can build are in lower case and ascend. -/
theorem Built.ordered_throughout {context : Context} (h : context.Built) :
    (Value.map context).Throughout IsOrdered :=
  h.throughout is_ordered_kept

/-- The case of keys does not matter in the context: the keys of all maps within it are in lower
case, look-ups in these maps depend on the lower-case form of the key only, and putting a value
under a key changes exactly the look-ups of keys with the same lower-case form. -/
structure IgnoresCase (context : Context) : Prop where
  keys_lower : ∀ inner, (Value.map context).HasMap inner →
    ∀ key ∈ inner.keys, Text.lower key = key
  get?_congr : ∀ inner, (Value.map context).HasMap inner →
    ∀ key other, Text.lower key = Text.lower other → inner.get? key = inner.get? other
  get?_insert : ∀ key value other,
    (context.insert key value).get? other =
      if Text.lower other = Text.lower key then some value else context.get? other

/-- The case of keys does not matter in a context that a host can build. -/
theorem Built.ignores_case {context : Context} (h : context.Built) : context.IgnoresCase where
  keys_lower inner hinner key hkey := by
    obtain ⟨entry, hentry, rfl⟩ := List.mem_map.mp hkey
    exact h.lower_throughout inner hinner entry hentry
  get?_congr inner hinner key other heq := by
    have hkeys := h.lower_throughout inner hinner
    rw [hkeys.get?_eq, hkeys.get?_eq, heq]
  get?_insert key value other :=
    (h.lower_throughout context .here).get?_insert key other value

/-! ## The last pair counts -/

/-- The value of the last pair whose key has the same lower-case form as the key. -/
def lastUnder {α : Type} (key : String) (pairs : List (String × α)) : Option α :=
  Keyed.last? (fun other => Text.lower other == Text.lower key) pairs

/-- A look-up in a context of pairs finds the value of the last pair that is under the key. -/
theorem get?_of_pairs (pairs : List (String × Value)) (key : String) :
    (ofPairs pairs).get? key = lastUnder key pairs := by
  induction pairs using List.reverseRecOn with
  | nil => rfl
  | append_singleton pairs pair ih =>
      rw [of_pairs_concat, (has_lower_keys_of_pairs pairs).get?_insert, ih, lastUnder, lastUnder,
        Keyed.last?_concat, BEq.comm]
      simp only [beq_iff_eq]

/-- A look-up in a context of pairs of host data finds the value of the last pair that is under the
key, normalized. -/
theorem get?_of_host_pairs (options : ContextOptions) (pairs : List (String × Json))
    (key : String) :
    (ofHostPairs options pairs).get? key =
      (lastUnder key pairs).map (Value.ofHostJson options) := by
  rw [ofHostPairs, get?_of_pairs, Value.of_host_members_eq]
  exact Keyed.last?_map _ _ _

/-- A look-up in a context of pairs of host values finds the value of the last pair that is under
the key, normalized. -/
theorem get?_of_host_values (options : ContextOptions) (pairs : List (String × Value))
    (key : String) :
    (ofHostValues options pairs).get? key =
      (lastUnder key pairs).map (Value.normalize options) := by
  rw [ofHostValues, get?_of_pairs, Value.normalize_entries_eq]
  exact Keyed.last?_map _ _ _

/-- The case of keys does not matter in the contexts that hosts can build. In particular, a context
of pairs has under a key what the last pair under the key has, normalized if it is host data, and
nothing if no pair is under the key; the maps within host data are themselves contexts of pairs. -/
theorem look_ups_ignore_case :
    (∀ context : Context, context.Built → context.IgnoresCase) ∧
    ∀ (options : ContextOptions) (key : String),
      (∀ pairs, (ofPairs pairs).get? key = lastUnder key pairs) ∧
      (∀ pairs, (ofHostPairs options pairs).get? key =
        (lastUnder key pairs).map (Value.ofHostJson options)) ∧
      (∀ members, (ofHostJson options (.object members)).get? key =
        (lastUnder key members).map (Value.ofHostJson options)) ∧
      (∀ pairs, (ofHostValues options pairs).get? key =
        (lastUnder key pairs).map (Value.normalize options)) ∧
      (∀ members, Value.ofHostJson options (.object members) =
        .map (ofHostPairs options members)) ∧
      ∀ context : Context, Value.normalize options (.map context) =
        .map (ofHostValues options context.entries) :=
  ⟨fun _ hbuilt => hbuilt.ignores_case, fun options key =>
    ⟨fun pairs => get?_of_pairs pairs key, fun pairs => get?_of_host_pairs options pairs key,
      fun members => get?_of_host_pairs options members key,
      fun pairs => get?_of_host_values options pairs key, fun _ => rfl, fun ⟨_⟩ => rfl⟩⟩

/-- An order in which two keys differ in their case only, as do two keys of one of its items. -/
def orderInAnyCase : Context :=
  .insert (.ofHostPairs {} [("Paid", .boolean false), ("PAID", .boolean true),
    ("Items", .array [.object [("Gift", .null), ("GIFT", .boolean true)]])])
    "Total" (.map (.ofPairs [("Sum", .null)]))

/-- A host can build the order, whose total is a map that a host can build. -/
theorem order_in_any_case_built : orderInAnyCase.Built := by
  have hentries : (ofPairs [("Sum", .null)]).entries = [("sum", .null)] := rfl
  have htotal : (ofPairs [("Sum", .null)]).Built := by
    refine .ofPairs fun pair hpair inner hinner => ?_
    obtain rfl := List.mem_singleton.mp hpair
    cases hinner
  refine (Built.ofHostPairs {} _).insert "Total" fun inner hinner => ?_
  cases hinner with
  | here => exact htotal
  | entry hentry hinner =>
      rw [hentries] at hentry
      obtain rfl := List.mem_singleton.mp hentry
      cases hinner

/-- The case of keys does not matter in the order, and the later one of its two keys counts. -/
theorem order_in_any_case_ignores_case :
    orderInAnyCase.Built ∧ orderInAnyCase.IgnoresCase ∧
      orderInAnyCase.get? "paid" = some (.bool true) ∧
      orderInAnyCase.get? "pAID" = orderInAnyCase.get? "paid" := by
  have hcase := look_ups_ignore_case.1 orderInAnyCase order_in_any_case_built
  exact ⟨order_in_any_case_built, hcase, rfl, hcase.get?_congr _ .here _ _ (by decide)⟩

end Context

end TextTemplate
