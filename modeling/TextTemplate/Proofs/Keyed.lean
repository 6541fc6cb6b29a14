import Mathlib.Data.List.Induction
import Mathlib.Data.List.Perm.Subperm
import Mathlib.Data.String.Basic
import TextTemplate.Keyed

/-!
# Laws of keyed lists

What `Keyed.insert` and `Keyed.get?` say about each other, and that insertion keeps the keys of a
list ascending. An ascending list is the result of inserting its own entries one by one, and what is
found in it are its entries. Of several pairs with one key the last one counts (`last?`).
-/

namespace TextTemplate.Keyed

variable {α β : Type}

/-- The keys ascend strictly, so that none occurs twice. -/
def Ascending (entries : List (String × α)) : Prop :=
  entries.Pairwise fun earlier later => earlier.1 < later.1

/-- What is found under a key is an entry with that key. -/
theorem mem_of_get?_eq_some {key : String} {value : α} {entries : List (String × α)}
    (h : get? key entries = some value) : (key, value) ∈ entries := by
  induction entries with
  | nil => cases h
  | cons entry rest ih =>
      obtain ⟨other, kept⟩ := entry
      rw [get?] at h
      split at h
      · next heq =>
          cases h
          rw [heq]
          exact List.mem_cons_self
      · exact List.mem_cons_of_mem _ (ih h)

/-- The entries after an insertion are the inserted one and earlier ones. -/
theorem mem_insert {key : String} {value : α} {entry : String × α}
    {entries : List (String × α)} (h : entry ∈ insert key value entries) :
    entry = (key, value) ∨ entry ∈ entries := by
  induction entries with
  | nil => exact Or.inl (List.mem_singleton.mp h)
  | cons head rest ih =>
      obtain ⟨other, kept⟩ := head
      rw [insert] at h
      split at h
      · simpa using h
      · split at h
        · rcases List.mem_cons.mp h with h | h
          · exact Or.inl h
          · exact Or.inr (List.mem_cons_of_mem _ h)
        · rcases List.mem_cons.mp h with h | h
          · exact Or.inr (h ▸ List.mem_cons_self)
          · exact (ih h).imp_right (List.mem_cons_of_mem _)

/-- An inserted value is found under its key. -/
theorem get?_insert_self (key : String) (value : α) (entries : List (String × α)) :
    get? key (insert key value entries) = some value := by
  induction entries with
  | nil => simp [insert, get?]
  | cons head rest ih =>
      obtain ⟨other, kept⟩ := head
      rw [insert]
      split
      · simp [get?]
      · split
        · simp [get?]
        · next hne => rw [get?, if_neg hne, ih]

/-- An insertion does not touch what is found under other keys. -/
theorem get?_insert_of_ne {key other : String} (hne : other ≠ key) (value : α)
    (entries : List (String × α)) :
    get? other (insert key value entries) = get? other entries := by
  induction entries with
  | nil => simp [insert, get?, hne]
  | cons head rest ih =>
      obtain ⟨first, kept⟩ := head
      rw [insert]
      split
      · rw [get?, if_neg hne]
      · split
        · next heq =>
            have hfirst : other ≠ first := heq ▸ hne
            rw [get?, if_neg hne, get?, if_neg hfirst]
        · rw [get?, get?, ih]

/-- Changing all values in one way can be done before an insertion or after it. -/
theorem insert_map (change : α → β) (key : String) (value : α) (entries : List (String × α)) :
    insert key (change value) (entries.map fun entry => (entry.1, change entry.2)) =
      (insert key value entries).map fun entry => (entry.1, change entry.2) := by
  induction entries with
  | nil => rfl
  | cons entry rest ih =>
      obtain ⟨other, kept⟩ := entry
      rw [List.map_cons, insert, insert]
      split
      · rfl
      · split
        · rfl
        · rw [ih, List.map_cons]

/-- Of two insertions under one key the second one stays. -/
theorem insert_insert_self (key : String) (first second : α) (entries : List (String × α)) :
    insert key second (insert key first entries) = insert key second entries := by
  induction entries with
  | nil => simp [insert]
  | cons head rest ih =>
      obtain ⟨other, kept⟩ := head
      rw [insert, insert]
      split
      · simp [insert]
      · split
        · simp [insert]
        · next hlt hne => rw [insert, if_neg hlt, if_neg hne, ih]

/-- Insertion keeps the keys ascending. -/
theorem Ascending.insert {key : String} {value : α} {entries : List (String × α)}
    (h : Ascending entries) : Ascending (insert key value entries) := by
  induction entries with
  | nil => exact List.pairwise_singleton _ _
  | cons head rest ih =>
      obtain ⟨other, kept⟩ := head
      have hrest := List.pairwise_cons.mp h
      rw [Keyed.insert]
      -- The key goes in front, stands there already, or belongs further back.
      split
      · next hlt =>
          refine List.pairwise_cons.mpr ⟨fun entry hentry => ?_, h⟩
          rcases List.mem_cons.mp hentry with rfl | hmem
          · exact hlt
          · exact hlt.trans (hrest.1 entry hmem)
      · split
        · next heq =>
            subst heq
            exact List.pairwise_cons.mpr ⟨hrest.1, hrest.2⟩
        · next hlt hne =>
            refine List.pairwise_cons.mpr ⟨fun entry hentry => ?_, ih hrest.2⟩
            rcases mem_insert hentry with rfl | hmem
            · exact lt_of_le_of_ne (not_lt.mp hlt) (Ne.symm hne)
            · exact hrest.1 entry hmem

/-- A greater key than all others is inserted at the end. -/
theorem insert_eq_append {key : String} {value : α} {entries : List (String × α)}
    (h : ∀ entry ∈ entries, entry.1 < key) :
    insert key value entries = entries ++ [(key, value)] := by
  induction entries with
  | nil => rfl
  | cons head rest ih =>
      obtain ⟨other, kept⟩ := head
      have hlt : other < key := h _ List.mem_cons_self
      rw [insert, if_neg (lt_asymm hlt), if_neg (ne_of_gt hlt),
        ih fun entry hentry => h entry (List.mem_cons_of_mem _ hentry)]
      rfl

/-- Inserting ascending entries behind lesser ones appends them. -/
theorem foldl_insert_eq_append {before entries : List (String × α)}
    (h : Ascending (before ++ entries)) :
    entries.foldl (fun kept (key, value) => insert key value kept) before = before ++ entries := by
  induction entries generalizing before with
  | nil => simp
  | cons entry rest ih =>
      obtain ⟨key, value⟩ := entry
      have hlt : ∀ earlier ∈ before, earlier.1 < key := fun earlier hmem =>
        (List.pairwise_append.mp h).2.2 earlier hmem _ List.mem_cons_self
      simp only [List.foldl_cons, insert_eq_append hlt]
      rw [ih (by simpa using h)]
      simp

/-! ## Ascending lists -/

/-- What is found in an ascending list are its entries. -/
theorem Ascending.get?_eq_some_iff {key : String} {value : α} {entries : List (String × α)}
    (h : Ascending entries) : get? key entries = some value ↔ (key, value) ∈ entries := by
  refine ⟨mem_of_get?_eq_some, fun hentry => ?_⟩
  induction entries with
  | nil => cases hentry
  | cons head rest ih =>
      obtain ⟨hhead, hrest⟩ := List.pairwise_cons.mp h
      obtain ⟨other, kept⟩ := head
      rw [get?]
      rcases List.mem_cons.mp hentry with heq | hmem
      · obtain ⟨rfl, rfl⟩ := Prod.mk.inj heq
        rw [if_pos rfl]
      · have hlt : other < key := hhead _ hmem
        rw [if_neg (ne_of_gt hlt), ih hrest hmem]

/-- Of two ascending lists with as many entries, one has the keys of the other if each of its keys
is found there. -/
theorem Ascending.keys_eq {first : List (String × α)} {second : List (String × β)}
    (hfirst : Ascending first) (hsecond : Ascending second) (hlength : first.length = second.length)
    (h : ∀ entry ∈ first, ∃ value, (entry.1, value) ∈ second) :
    first.map (·.1) = second.map (·.1) := by
  have hkeys : (first.map (·.1)).Pairwise (· < ·) := List.pairwise_map.mpr hfirst
  have hothers : (second.map (·.1)).Pairwise (· < ·) := List.pairwise_map.mpr hsecond
  have hsubset : first.map (·.1) ⊆ second.map (·.1) := by
    intro key hkey
    obtain ⟨entry, hentry, rfl⟩ := List.mem_map.mp hkey
    obtain ⟨value, hvalue⟩ := h entry hentry
    exact List.mem_map.mpr ⟨_, hvalue, rfl⟩
  have hnodup : (first.map (·.1)).Nodup := hkeys.imp ne_of_lt
  have hperm := (List.subperm_of_subset hnodup hsubset).perm_of_length_le (by simp [hlength])
  exact hperm.eq_of_pairwise (fun _ _ _ _ hlt hgt => absurd hgt (lt_asymm hlt)) hkeys hothers

/-! ## The last of several pairs -/

/-- The value of the last pair whose key is one of those asked for. -/
def last? (asked : String → Bool) (pairs : List (String × α)) : Option α :=
  ((pairs.filter fun pair => asked pair.1).getLast?).map (·.2)

/-- A pair at the end counts if its key is asked for, and the pairs before it do otherwise. -/
theorem last?_concat (asked : String → Bool) (pairs : List (String × α)) (pair : String × α) :
    last? asked (pairs ++ [pair]) = if asked pair.1 then some pair.2 else last? asked pairs := by
  rw [last?, last?, List.filter_append]
  by_cases hasked : asked pair.1
  · simp [hasked]
  · simp [hasked]

/-- Mapping the values maps the one that counts. -/
theorem last?_map (asked : String → Bool) (f : α → β) (pairs : List (String × α)) :
    last? asked (pairs.map fun pair => (pair.1, f pair.2)) = (last? asked pairs).map f := by
  induction pairs using List.reverseRecOn with
  | nil => rfl
  | append_singleton pairs pair ih =>
      rw [List.map_append, List.map_singleton, last?_concat, last?_concat, ih]
      split <;> rfl

end TextTemplate.Keyed
