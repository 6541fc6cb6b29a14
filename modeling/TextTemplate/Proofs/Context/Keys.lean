import TextTemplate.Proofs.Keyed
import TextTemplate.Proofs.Text.Case
import TextTemplate.Value.Basic

/-!
# Keys in lower case

Every way to build a context leaves its keys in lower case. In such a context a look-up depends on
the lower-case form of the key only, and an insertion changes exactly the look-ups of keys with the
same lower-case form (`HasLowerKeys.get?_insert`). A context that is built from pairs has, moreover,
its keys in ascending order, and is the context of its own entries
(`HasLowerKeys.of_pairs_entries`).
-/

namespace TextTemplate.Context

/-- What a look-up finds is the value of an entry. -/
theorem exists_entry_of_get? {context : Context} {key : String} {value : Value}
    (h : context.get? key = some value) : ∃ entry ∈ context.entries, entry.2 = value := by
  rw [get?] at h
  split at h
  · next hfound =>
      obtain rfl := Option.some.inj h
      exact ⟨_, Keyed.mem_of_get?_eq_some hfound, rfl⟩
  · exact ⟨_, Keyed.mem_of_get?_eq_some h, rfl⟩

/-- Every key of the context is in lower case. -/
def HasLowerKeys (context : Context) : Prop :=
  ∀ entry ∈ context.entries, Text.lower entry.1 = entry.1

/-- The context without entries has its keys in lower case. -/
theorem has_lower_keys_empty : empty.HasLowerKeys :=
  List.forall_mem_nil _

/-- An insertion puts the key in lower case. -/
theorem HasLowerKeys.insert {context : Context} (h : context.HasLowerKeys) (key : String)
    (value : Value) : (context.insert key value).HasLowerKeys := by
  intro entry hentry
  rcases Keyed.mem_insert hentry with rfl | hentry
  · exact Text.lower_lower key
  · exact h entry hentry

/-- The captures are put under a key in lower case. -/
theorem HasLowerKeys.with_captures {context : Context} (h : context.HasLowerKeys)
    (args : List Value) : (context.withCaptures args).HasLowerKeys :=
  h.insert _ _

/-- A look-up depends on the lower-case form of the key only. -/
theorem HasLowerKeys.get?_eq {context : Context} (h : context.HasLowerKeys) (key : String) :
    context.get? key = Keyed.get? (Text.lower key) context.entries := by
  rw [get?]
  split
  · next value hvalue =>
      -- The key is there as it is written, so it is in lower case.
      have hkey : Text.lower key = key := h _ (Keyed.mem_of_get?_eq_some hvalue)
      rw [hkey, hvalue]
  · rfl

/-- An insertion changes the look-ups of the keys with the same lower-case form, and no others. -/
theorem HasLowerKeys.get?_insert {context : Context} (h : context.HasLowerKeys)
    (key other : String) (value : Value) :
    (context.insert key value).get? other =
      if Text.lower other = Text.lower key then some value else context.get? other := by
  rw [(h.insert key value).get?_eq, h.get?_eq, Context.insert]
  split
  · next heq => rw [heq, Keyed.get?_insert_self]
  · next hne => rw [Keyed.get?_insert_of_ne hne]

/-! ## Captures -/

/-- The key of the captures is in lower case. -/
theorem lower_captures_key : Text.lower capturesKey = capturesKey := by
  decide +kernel

/-- The captures are found under their key. -/
theorem get?_with_captures_self (context : Context) (args : List Value) :
    (context.withCaptures args).get? capturesKey = some (.list args) := by
  rw [get?, withCaptures, insert, lower_captures_key, Keyed.get?_insert_self]

/-- The captures are found under no key but those that are theirs in lower case. -/
theorem get?_with_captures_of_ne {name : String} (hname : Text.lower name ≠ capturesKey)
    (context : Context) (args : List Value) :
    (context.withCaptures args).get? name = context.get? name := by
  have hwritten : name ≠ capturesKey := fun heq => hname (heq ▸ lower_captures_key)
  rw [get?, get?, withCaptures, insert, lower_captures_key, Keyed.get?_insert_of_ne hwritten,
    Keyed.get?_insert_of_ne hname]

/-! ## Contexts of pairs -/

/-- One more pair at the end is inserted last. -/
theorem of_pairs_concat (pairs : List (String × Value)) (pair : String × Value) :
    ofPairs (pairs ++ [pair]) = (ofPairs pairs).insert pair.1 pair.2 := by
  rw [ofPairs, List.foldl_append]
  rfl

/-- The context of pairs has its keys in lower case. -/
theorem has_lower_keys_of_pairs (pairs : List (String × Value)) : (ofPairs pairs).HasLowerKeys := by
  induction pairs using List.reverseRecOn with
  | nil => exact has_lower_keys_empty
  | append_singleton pairs pair ih =>
      rw [of_pairs_concat]
      exact ih.insert pair.1 pair.2

/-- The entries of a context of pairs ascend by key. -/
theorem ascending_of_pairs (pairs : List (String × Value)) :
    Keyed.Ascending (ofPairs pairs).entries := by
  induction pairs using List.reverseRecOn with
  | nil => exact List.Pairwise.nil
  | append_singleton pairs pair ih =>
      rw [of_pairs_concat]
      exact ih.insert

/-- Changing all values of pairs in one way changes so the values of their context. -/
theorem entries_of_pairs_map (change : Value → Value) (pairs : List (String × Value)) :
    (ofPairs (pairs.map fun pair => (pair.1, change pair.2))).entries =
      (ofPairs pairs).entries.map fun entry => (entry.1, change entry.2) := by
  induction pairs using List.reverseRecOn with
  | nil => rfl
  | append_singleton pairs pair ih =>
      rw [List.map_append, List.map_singleton, of_pairs_concat, of_pairs_concat, insert, insert, ih]
      exact Keyed.insert_map change _ _ _

/-- Pairs whose keys are in lower case are inserted under their keys. -/
theorem foldl_insert_of_lower {pairs : List (String × Value)}
    (h : ∀ pair ∈ pairs, Text.lower pair.1 = pair.1) (start : List (String × Value)) :
    pairs.foldl (fun context (key, value) => context.insert key value) (Context.mk start) =
      ⟨pairs.foldl (fun kept (key, value) => Keyed.insert key value kept) start⟩ := by
  induction pairs generalizing start with
  | nil => rfl
  | cons pair pairs ih =>
      obtain ⟨hpair, hpairs⟩ := List.forall_mem_cons.mp h
      obtain ⟨key, value⟩ := pair
      have hinsert : (Context.mk start).insert key value = ⟨Keyed.insert key value start⟩ := by
        rw [Context.insert, show Text.lower key = key from hpair]
      rw [List.foldl_cons, List.foldl_cons, ← ih hpairs, ← hinsert]

/-- A context with ascending keys in lower case is the context of its own entries. -/
theorem HasLowerKeys.of_pairs_entries {context : Context} (hlower : context.HasLowerKeys)
    (hascending : Keyed.Ascending context.entries) : ofPairs context.entries = context := by
  obtain ⟨entries⟩ := context
  have happend : Keyed.Ascending ([] ++ entries) := hascending
  rw [ofPairs, empty, foldl_insert_of_lower hlower, Keyed.foldl_insert_eq_append happend,
    List.nil_append]

end TextTemplate.Context
