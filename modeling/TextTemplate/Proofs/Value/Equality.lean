import TextTemplate.Proofs.Context.Built
import TextTemplate.Proofs.Number.Whole

/-!
# Equality of values

Loose equality compares numbers by what they denote, lists item by item and maps entry by entry. A
comparison with a double converts the other number to a double first, so that it is a comparison by
value only where that number's double is exact (`Value.IsExact`). Where it is, two values are equal
just if they have the same content, whatever the types of the numbers in them, and hence loose
equality is an equivalence there (`Value.loose_eq_is_equivalence`).
-/

namespace TextTemplate

open TextTemplate.Number

/-- What a value is when all types of numbers are one: numbers are what they denote, timestamps are
instants, and closures are told apart by their origins. -/
inductive Content where
  | null
  | bool (value : Bool)
  | number (amount : Amount)
  | str (text : String)
  | instant (seconds : Int) (nanos : Nat)
  | range (value : IntRange)
  | list (items : List Content)
  | map (entries : List (String × Content))
  | closure (origin : Origin)

namespace Value

/-! ## Values and their parts -/

/-- Whether the value is neither a list nor a map. -/
def isLeaf : Value → Bool
  | list _ | map _ => false
  | _ => true

/-- What holds of a value if it holds of the values in it holds of every value. -/
@[elab_as_elim]
theorem induction_on_parts {P : Value → Prop} (leaf : ∀ value, value.isLeaf → P value)
    (list : ∀ items, (∀ item ∈ items, P item) → P (.list items))
    (map : ∀ context : Context, (∀ entry ∈ context.entries, P entry.2) → P (.map context))
    (value : Value) : P value :=
  @Value.rec P (fun context => ∀ entry ∈ context.entries, P entry.2) (fun _ => True)
    (fun items => ∀ item ∈ items, P item) (fun entries => ∀ entry ∈ entries, P entry.2)
    (fun entry => P entry.2) (leaf _ rfl) (fun _ => leaf _ rfl) (fun _ => leaf _ rfl)
    (fun _ => leaf _ rfl) (fun _ => leaf _ rfl) (fun _ => leaf _ rfl) (fun _ => leaf _ rfl)
    (fun _ => leaf _ rfl) list map (fun _ _ => leaf _ rfl) (fun _ h => h)
    (fun _ _ _ _ _ _ => trivial) (List.forall_mem_nil _)
    (fun _ _ hhead htail => List.forall_mem_cons.mpr ⟨hhead, htail⟩) (List.forall_mem_nil _)
    (fun _ _ hhead htail => List.forall_mem_cons.mpr ⟨hhead, htail⟩) (fun _ _ h => h) value

mutual
/-- The content of a value. -/
def content : Value → Content
  | null => .null
  | bool value => .bool value
  | int value => .number (.finite value.toInt)
  | float value => .number (floatAmount value)
  | decimal value => .number (.finite value.value)
  | str text => .str text
  | dateTime value => .instant value.seconds value.nanos
  | range value => .range value
  | list items => .list (contents items)
  | map context => .map (contextContents context)
  | closure kept => .closure kept.origin

/-- The contents of the entries of a context. -/
def contextContents : Context → List (String × Content)
  | ⟨entries⟩ => entryContents entries

/-- The contents of values. -/
def contents : List Value → List Content
  | [] => []
  | item :: items => content item :: contents items

/-- The contents of entries. -/
def entryContents : List (String × Value) → List (String × Content)
  | [] => []
  | (key, value) :: rest => (key, content value) :: entryContents rest
end

theorem contents_eq (items : List Value) : contents items = items.map content := by
  induction items with
  | nil => rfl
  | cons item items ih => rw [contents, ih, List.map_cons]

theorem context_contents_eq (context : Context) :
    contextContents context = context.entries.map fun entry => (entry.1, content entry.2) := by
  obtain ⟨entries⟩ := context
  rw [contextContents]
  induction entries with
  | nil => rfl
  | cons entry entries ih =>
      obtain ⟨key, value⟩ := entry
      rw [entryContents, ih, List.map_cons]

/-- The part is the value or stands within it. What closures keep is not within them. -/
inductive Holds (part : Value) : Value → Prop where
  | here : Holds part part
  | item {items : List Value} {item : Value} (hitem : item ∈ items) (h : Holds part item) :
      Holds part (list items)
  | entry {context : Context} {entry : String × Value} (hentry : entry ∈ context.entries)
      (h : Holds part entry.2) : Holds part (map context)

/-- All doubles within the value are numbers. -/
def HasNoNaN (value : Value) : Prop :=
  ∀ double, Holds (float double) value → double.isNaN = false

/-- One part stands where the other one does in two values: the values are the parts, or the parts
stand at one place in items at one place of two lists, or in values under one key of two maps. -/
inductive Faces (part other : Value) : Value → Value → Prop where
  | here : Faces part other part other
  | item {xs ys : List Value} {place : Nat} {x y : Value} (hx : xs[place]? = some x)
      (hy : ys[place]? = some y) (h : Faces part other x y) : Faces part other (list xs) (list ys)
  | entry {first second : Context} {key : String} {x y : Value} (hx : first.get? key = some x)
      (hy : second.get? key = some y) (h : Faces part other x y) :
      Faces part other (map first) (map second)

/-- The double that the number is converted to denotes the number. -/
def IsExact (number : Value) : Prop :=
  (float number.toFloat).content = number.content

/-- Wherever a double stands in one of two values and a number in the other, the number's double is
exact. -/
def ComparesExactly (x y : Value) : Prop :=
  ∀ number double, number.isNumeric →
    Faces number (float double) x y ∨ Faces (float double) number x y → number.IsExact

variable {x y : Value}

/-- Only a value itself stands in a place of it that faces the same place. -/
theorem Faces.eq {part other : Value} (h : Faces part other x y) (hxy : x = y) : part = other := by
  induction h with
  | here => exact hxy
  | item hx hy _ ih =>
      rw [list.inj hxy, hy] at hx
      exact ih (Option.some.inj hx).symm
  | entry hx hy _ ih =>
      rw [map.inj hxy, hy] at hx
      exact ih (Option.some.inj hx).symm

/-- Doubles are exact. -/
theorem is_exact_float (double : Float) : (float double).IsExact :=
  rfl

/-- Integers up to two to the power of 53 are exact. -/
theorem is_exact_int {value : Int64} (h : value.toInt.natAbs ≤ 2 ^ 53) : (int value).IsExact := by
  show Content.number (floatAmount (Float.ofInt value.toInt)) = _
  rw [float_amount_of_int h, content]

/-- A comparison of a value with itself is exact. -/
theorem compares_exactly_self (x : Value) : x.ComparesExactly x := by
  intro number double _ hfaces
  have heq : number = float double := by
    rcases hfaces with hfaces | hfaces
    · exact hfaces.eq rfl
    · exact (hfaces.eq rfl).symm
  exact heq ▸ is_exact_float double

/-! ## Numbers -/

/-- A number other than a double denotes the decimal that it is converted to. -/
theorem content_eq_of_not_float (hnumeric : x.isNumeric) (hx : ∀ double, x ≠ float double) :
    x.content = .number (.finite x.toDecimal.value) := by
  cases x with
  | int value => rw [content, toDecimal, Decimal.value_of_int]
  | float value => exact absurd rfl (hx value)
  | decimal value => rfl
  | _ => cases hnumeric

/-- A number other than a double compares with another one as a decimal. -/
theorem compare_eq_iff_of_not_float (hxnumeric : x.isNumeric) (hynumeric : y.isNumeric)
    (hx : ∀ double, x ≠ float double) (hy : ∀ double, y ≠ float double) :
    x.compare y = some .eq ↔ x.toDecimal.value = y.toDecimal.value := by
  cases x with
  | int first =>
      cases y with
      | int second =>
          rw [compare, Option.some.injEq, compare_eq_iff_eq, toDecimal, toDecimal,
            Decimal.value_of_int, Decimal.value_of_int, Int.cast_inj]
      | float second => exact absurd rfl (hy second)
      | decimal second => rw [compare, Option.some.injEq, Decimal.compare_eq_iff] <;> simp
      | _ => cases hynumeric
  | float first => exact absurd rfl (hx first)
  | decimal first =>
      cases y with
      | float second => exact absurd rfl (hy second)
      | int second => rw [compare, Option.some.injEq, Decimal.compare_eq_iff] <;> simp
      | decimal second => rw [compare, Option.some.injEq, Decimal.compare_eq_iff] <;> simp
      | _ => cases hynumeric
  | _ => cases hxnumeric

/-- A double compares with a number as with the number's double. -/
theorem float_compare_eq_iff {double : Float} :
    (float double).compare y = some .eq ↔ (double == y.toFloat) = true := by
  rw [← compare_floats_eq_iff]
  cases y <;> rfl

/-- A number compares with a double as the number's double does. -/
theorem compare_float_eq_iff {double : Float} :
    x.compare (float double) = some .eq ↔ (x.toFloat == double) = true := by
  rw [← compare_floats_eq_iff]
  cases x <;> rfl

/-- Numbers are equal in either order. -/
theorem compare_eq_comm (hx : x.isNumeric) (hy : y.isNumeric) :
    x.compare y = some .eq ↔ y.compare x = some .eq := by
  by_cases hfloat : ∃ double, x = float double
  · obtain ⟨double, rfl⟩ := hfloat
    rw [float_compare_eq_iff, compare_float_eq_iff, BEq.comm]
  · by_cases hfloat' : ∃ double, y = float double
    · obtain ⟨double, rfl⟩ := hfloat'
      rw [float_compare_eq_iff, compare_float_eq_iff, BEq.comm]
    · rw [compare_eq_iff_of_not_float hx hy (not_exists.mp hfloat) (not_exists.mp hfloat'),
        compare_eq_iff_of_not_float hy hx (not_exists.mp hfloat') (not_exists.mp hfloat), eq_comm]

/-- What a double denotes is defined unless it is no number. -/
theorem content_float_ne_undefined_iff {double : Float} :
    (float double).content ≠ .number .undefined ↔ double.isNaN = false := by
  rw [content, Ne, Content.number.injEq, float_amount_eq_undefined_iff, Bool.not_eq_true]

/-- A double that is a number is equal to a number just if both denote the same, provided that the
number's double denotes what the number does. -/
theorem beq_to_float_iff {double : Float} (hdouble : double.isNaN = false)
    (hdefined : y.content ≠ .number .undefined) (hexact : y.IsExact) :
    (double == y.toFloat) = true ↔ (float double).content = y.content := by
  have hnumber : y.toFloat.isNaN = false := by
    rw [← content_float_ne_undefined_iff, hexact]
    exact hdefined
  rw [beq_iff_amount_eq hdouble hnumber, ← hexact, content, content, Content.number.injEq]

/-- Numbers are equal just if they denote the same, provided that the double of one that is compared
with a double denotes what the number does. -/
theorem compare_eq_iff (hx : x.isNumeric) (hy : y.isNumeric)
    (hxdefined : x.content ≠ .number .undefined) (hydefined : y.content ≠ .number .undefined)
    (hexact : x.ComparesExactly y) : x.compare y = some .eq ↔ x.content = y.content := by
  by_cases hfloat : ∃ double, x = float double
  · obtain ⟨double, rfl⟩ := hfloat
    rw [float_compare_eq_iff]
    exact beq_to_float_iff (content_float_ne_undefined_iff.mp hxdefined) hydefined
      (hexact y double hy (.inr .here))
  · by_cases hfloat' : ∃ double, y = float double
    · obtain ⟨double, rfl⟩ := hfloat'
      rw [compare_float_eq_iff, BEq.comm]
      exact (beq_to_float_iff (content_float_ne_undefined_iff.mp hydefined) hxdefined
        (hexact x double hx (.inl .here))).trans eq_comm
    · rw [compare_eq_iff_of_not_float hx hy (not_exists.mp hfloat) (not_exists.mp hfloat'),
        content_eq_of_not_float hx (not_exists.mp hfloat),
        content_eq_of_not_float hy (not_exists.mp hfloat'), Content.number.injEq,
        Amount.finite.injEq]

/-! ## Values that are neither lists nor maps -/

/-- Values of which one is neither a list nor a map are compared as numbers or as values of one
type. -/
theorem loose_eq_of_leaf (hx : x.isLeaf) :
    x.looseEq y = if x.isNumeric && y.isNumeric then x.compare y == some .eq else x.same y := by
  cases x with
  | list items => cases hx
  | map context => cases hx
  | _ => rw [looseEq] <;> simp

/-- Values that are not both numbers are the same just if they have one content. -/
theorem same_iff_of_not_numeric (hx : x.isLeaf) (hnumeric : (x.isNumeric && y.isNumeric) = false) :
    x.same y = true ↔ x.content = y.content := by
  cases x <;> cases y <;>
    simp_all [same, content, isLeaf, isNumeric, Time.Timestamp.sameInstant]

/-- The content of a value without a double that is no number is defined. -/
theorem HasNoNaN.content_ne_undefined (h : x.HasNoNaN) : x.content ≠ .number .undefined := by
  cases x with
  | float double => exact content_float_ne_undefined_iff.mpr (h double .here)
  | _ => simp [content]

/-- A value that is neither a list nor a map is equal to a value just if both have one content. -/
theorem loose_eq_iff_of_leaf (hx : x.isLeaf) (hxnumber : x.HasNoNaN) (hynumber : y.HasNoNaN)
    (hexact : x.ComparesExactly y) : x.looseEq y = true ↔ x.content = y.content := by
  rw [loose_eq_of_leaf hx]
  split
  · next hnumeric =>
      obtain ⟨hxnumeric, hynumeric⟩ := Bool.and_eq_true_iff.mp hnumeric
      rw [beq_iff_eq]
      exact compare_eq_iff hxnumeric hynumeric hxnumber.content_ne_undefined
        hynumber.content_ne_undefined hexact
  · next hnumeric => exact same_iff_of_not_numeric hx (Bool.not_eq_true _ ▸ hnumeric)

/-- A value that is neither a list nor a map is equal to another one in either order. -/
theorem loose_eq_comm_of_leaf (hx : x.isLeaf) : x.looseEq y = true ↔ y.looseEq x = true := by
  cases hy : y.isLeaf with
  | true =>
      rw [loose_eq_of_leaf hx, loose_eq_of_leaf hy, Bool.and_comm]
      split
      · next hnumeric =>
          obtain ⟨hynumeric, hxnumeric⟩ := Bool.and_eq_true_iff.mp hnumeric
          rw [beq_iff_eq, beq_iff_eq]
          exact compare_eq_comm hxnumeric hynumeric
      · next hnumeric =>
          rw [Bool.not_eq_true] at hnumeric
          rw [same_iff_of_not_numeric hy hnumeric,
            same_iff_of_not_numeric hx (Bool.and_comm _ _ ▸ hnumeric), eq_comm]
  | false =>
      cases y with
      | list ys => cases x <;> simp_all [looseEq, same, isLeaf, isNumeric]
      | map other => cases x <;> simp_all [looseEq, same, isLeaf, isNumeric]
      | _ => cases hy

/-! ## Lists -/

theorem loose_eq_all_iff {xs ys : List Value} :
    looseEqAll xs ys = true ↔ List.Forall₂ (fun x y => x.looseEq y = true) xs ys := by
  induction xs generalizing ys with
  | nil => cases ys <;> simp [looseEqAll]
  | cons x xs ih =>
      cases ys with
      | nil => simp [looseEqAll]
      | cons y ys => rw [looseEqAll, Bool.and_eq_true, ih, List.forall₂_cons]

/-- Lists are equal just if they have equal items at all places. -/
theorem loose_eq_list_iff {xs ys : List Value} :
    (list xs).looseEq (list ys) = true ↔ List.Forall₂ (fun x y => x.looseEq y = true) xs ys := by
  rw [looseEq, loose_eq_all_iff]

/-- A relation that says the same as another one wherever two lists face each other relates the
lists just if the other one does. -/
theorem forall₂_congr_places {α β : Type} {R S : α → β → Prop} {xs : List α} {ys : List β}
    (h : ∀ (place : Nat) x y, xs[place]? = some x → ys[place]? = some y → (R x y ↔ S x y)) :
    List.Forall₂ R xs ys ↔ List.Forall₂ S xs ys := by
  induction xs generalizing ys with
  | nil => cases ys <;> simp
  | cons x xs ih =>
      cases ys with
      | nil => simp
      | cons y ys =>
          rw [List.forall₂_cons, List.forall₂_cons, h 0 x y rfl rfl,
            ih fun place x y hx hy => h (place + 1) x y hx hy]

/-! ## Maps -/

theorem loose_eq_entries_iff {entries : List (String × Value)} {context : Context} :
    looseEqEntries entries context = true ↔
      ∀ entry ∈ entries, ∃ value, context.get? entry.1 = some value ∧
        entry.2.looseEq value = true := by
  induction entries with
  | nil => simp [looseEqEntries]
  | cons entry entries ih =>
      obtain ⟨key, value⟩ := entry
      rw [looseEqEntries, Bool.and_eq_true, ih, List.forall_mem_cons]
      refine and_congr_left' ?_
      cases context.get? key <;> simp

/-- Entries are equal if their keys are one and their values are equal. -/
def EntriesEqual (x y : String × Value) : Prop :=
  x.1 = y.1 ∧ x.2.looseEq y.2 = true

/-- Maps whose keys ascend are equal just if they have equal entries at all places. -/
theorem loose_eq_map_iff {first second : Context} (hfirst : first.IsOrdered)
    (hsecond : second.IsOrdered) :
    (map first).looseEq (map second) = true ↔
      List.Forall₂ EntriesEqual first.entries second.entries := by
  have hcontext : (map first).looseEq (map second) = true ↔
      first.entries.length = second.entries.length ∧
        ∀ entry ∈ first.entries, ∃ value, second.get? entry.1 = some value ∧
          entry.2.looseEq value = true := by
    obtain ⟨entries⟩ := first
    rw [looseEq, looseEqContext, Bool.and_eq_true, beq_iff_eq, loose_eq_entries_iff, Context.size]
  have hget : ∀ entry ∈ first.entries, ∀ value,
      second.get? entry.1 = some value ↔ (entry.1, value) ∈ second.entries :=
    fun entry hentry value => hsecond.get?_eq_some_iff (hfirst.lower entry hentry)
  rw [hcontext]
  constructor
  · rintro ⟨hlength, h⟩
    have hkeys : first.entries.map (·.1) = second.entries.map (·.1) := by
      refine hfirst.ascending.keys_eq hsecond.ascending hlength fun entry hentry => ?_
      obtain ⟨value, hvalue, -⟩ := h entry hentry
      exact ⟨value, (hget entry hentry value).mp hvalue⟩
    have hfacing : List.Forall₂ (fun x y : String × Value => x.1 = y.1) first.entries
        second.entries := by
      rw [← List.forall₂_eq_eq_eq, List.forall₂_map_left_iff, List.forall₂_map_right_iff] at hkeys
      exact hkeys
    rw [List.forall₂_iff_zip] at hfacing ⊢
    refine ⟨hlength, fun {entry other} hzip => ?_⟩
    have hkey : entry.1 = other.1 := hfacing.2 hzip
    obtain ⟨hentry, hother⟩ := List.of_mem_zip hzip
    obtain ⟨value, hvalue, hequal⟩ := h entry hentry
    have hfound : second.get? entry.1 = some other.2 := by
      rw [hget entry hentry, hkey]
      exact hother
    rw [hfound] at hvalue
    exact ⟨hkey, Option.some.inj hvalue ▸ hequal⟩
  · intro h
    refine ⟨h.length_eq, fun entry hentry => ?_⟩
    obtain ⟨place, hplace, rfl⟩ := List.mem_iff_getElem.mp hentry
    have hplace' : place < second.entries.length := h.length_eq ▸ hplace
    obtain ⟨hkey, hequal⟩ := h.get hplace hplace'
    refine ⟨second.entries[place].2, (hget _ hentry _).mpr ?_, hequal⟩
    have hkey : first.entries[place].1 = second.entries[place].1 := hkey
    rw [hkey]
    exact List.getElem_mem hplace'

/-! ## Values at every nesting -/

theorem HasNoNaN.item {items : List Value} (h : (list items).HasNoNaN) {item : Value}
    (hitem : item ∈ items) : item.HasNoNaN :=
  fun double hdouble => h double (.item hitem hdouble)

theorem HasNoNaN.entry {context : Context} (h : (map context).HasNoNaN) {entry : String × Value}
    (hentry : entry ∈ context.entries) : entry.2.HasNoNaN :=
  fun double hdouble => h double (.entry hentry hdouble)

theorem ComparesExactly.item {xs ys : List Value} (h : (list xs).ComparesExactly (list ys))
    {place : Nat} (hx : xs[place]? = some x) (hy : ys[place]? = some y) : x.ComparesExactly y :=
  fun number double hnumeric hfaces =>
    h number double hnumeric (hfaces.imp (.item hx hy) (.item hx hy))

theorem ComparesExactly.entry {first second : Context}
    (h : (map first).ComparesExactly (map second)) {key : String} (hx : first.get? key = some x)
    (hy : second.get? key = some y) : x.ComparesExactly y :=
  fun number double hnumeric hfaces =>
    h number double hnumeric (hfaces.imp (.entry hx hy) (.entry hx hy))

/-- Values with ordered maps are equal in either order. -/
theorem loose_eq_comm (hx : x.Throughout Context.IsOrdered) (hy : y.Throughout Context.IsOrdered) :
    x.looseEq y = true ↔ y.looseEq x = true := by
  induction x using induction_on_parts generalizing y with
  | leaf x hleaf => exact loose_eq_comm_of_leaf hleaf
  | list items ih =>
      cases y with
      | list others =>
          rw [throughout_list] at hx hy
          rw [loose_eq_list_iff, loose_eq_list_iff]
          refine Iff.trans (forall₂_congr_places fun place x y hplace hplace' => ?_)
            ⟨List.Forall₂.flip, List.Forall₂.flip⟩
          have hitem := List.mem_of_getElem? hplace
          exact ih x hitem (hx x hitem) (hy y (List.mem_of_getElem? hplace'))
      | _ => simp [looseEq, same, isNumeric]
  | map context ih =>
      cases y with
      | map other =>
          rw [throughout_map] at hx hy
          rw [loose_eq_map_iff hx.1 hy.1, loose_eq_map_iff hy.1 hx.1]
          refine Iff.trans (forall₂_congr_places fun place x y hplace hplace' => ?_)
            ⟨List.Forall₂.flip, List.Forall₂.flip⟩
          have hentry := List.mem_of_getElem? hplace
          exact and_congr eq_comm
            (ih x hentry (hx.2 x hentry) (hy.2 y (List.mem_of_getElem? hplace')))
      | _ => simp [looseEq, same, isNumeric]

/-- Values whose comparison is exact are equal just if they have one content. -/
theorem loose_eq_iff_content_eq (hx : x.Throughout Context.IsOrdered)
    (hy : y.Throughout Context.IsOrdered) (hxnumber : x.HasNoNaN) (hynumber : y.HasNoNaN)
    (hexact : x.ComparesExactly y) : x.looseEq y = true ↔ x.content = y.content := by
  induction x using induction_on_parts generalizing y with
  | leaf x hleaf => exact loose_eq_iff_of_leaf hleaf hxnumber hynumber hexact
  | list items ih =>
      cases y with
      | list others =>
          rw [throughout_list] at hx hy
          rw [loose_eq_list_iff, content, content, Content.list.injEq, contents_eq, contents_eq,
            ← List.forall₂_eq_eq_eq, List.forall₂_map_left_iff, List.forall₂_map_right_iff]
          refine forall₂_congr_places fun place x y hplace hplace' => ?_
          have hitem := List.mem_of_getElem? hplace
          have hother := List.mem_of_getElem? hplace'
          exact ih x hitem (hx x hitem) (hy y hother) (hxnumber.item hitem) (hynumber.item hother)
            (hexact.item hplace hplace')
      | _ => simp [looseEq, same, isNumeric, content]
  | map context ih =>
      cases y with
      | map other =>
          rw [throughout_map] at hx hy
          rw [loose_eq_map_iff hx.1 hy.1, content, content, Content.map.injEq,
            context_contents_eq, context_contents_eq, ← List.forall₂_eq_eq_eq,
            List.forall₂_map_left_iff, List.forall₂_map_right_iff]
          refine forall₂_congr_places fun place x y hplace hplace' => ?_
          have hentry := List.mem_of_getElem? hplace
          have hother := List.mem_of_getElem? hplace'
          rw [EntriesEqual, Prod.mk.injEq]
          refine and_congr_right fun hkey => ?_
          have hlower : Text.lower x.1 = x.1 := hx.1.lower x hentry
          exact ih x hentry (hx.2 x hentry) (hy.2 y hother) (hxnumber.entry hentry)
            (hynumber.entry hother) (hexact.entry ((hx.1.get?_eq_some_iff hlower).mpr hentry)
              ((hy.1.get?_eq_some_iff hlower).mpr (hkey ▸ hother)))
      | _ => simp [looseEq, same, isNumeric, content]

/-! ## Loose equality as an equivalence -/

/-- What stands in facing places is within the values. -/
theorem Faces.holds {part other : Value} (h : Faces part other x y) :
    Holds part x ∧ Holds other y := by
  induction h with
  | here => exact ⟨.here, .here⟩
  | item hx hy _ ih =>
      exact ⟨.item (List.mem_of_getElem? hx) ih.1, .item (List.mem_of_getElem? hy) ih.2⟩
  | entry hx hy _ ih =>
      obtain ⟨entry, hentry, rfl⟩ := Context.exists_entry_of_get? hx
      obtain ⟨other, hother, rfl⟩ := Context.exists_entry_of_get? hy
      exact ⟨.entry hentry ih.1, .entry hother ih.2⟩

/-- All numbers within the value are exact. -/
def HasExactNumbers (value : Value) : Prop :=
  ∀ number, Holds number value → number.isNumeric → number.IsExact

/-- Values whose numbers are exact compare exactly. -/
theorem HasExactNumbers.compares_exactly (hx : x.HasExactNumbers) (hy : y.HasExactNumbers) :
    x.ComparesExactly y := by
  intro number double hnumeric hfaces
  rcases hfaces with hfaces | hfaces
  · exact hx number hfaces.holds.1 hnumeric
  · exact hy number hfaces.holds.2 hnumeric

/-- The maps within the value are ordered, and its doubles are numbers. -/
structure IsRegular (value : Value) : Prop where
  ordered : value.Throughout Context.IsOrdered
  numbers : value.HasNoNaN

/-- What a host can build is regular if its doubles are numbers. -/
theorem is_regular_of_built {context : Context} (h : context.Built)
    (hnumbers : (map context).HasNoNaN) : (map context).IsRegular :=
  ⟨h.ordered_throughout, hnumbers⟩

/-- Comparisons of a number with doubles are by value just if the number's double is exact:
otherwise it is equal to its double, which denotes something else. -/
theorem is_exact_iff {number : Value} (hnumeric : number.isNumeric)
    (hdefined : number.HasNoNaN) (hfloat : number.toFloat.isNaN = false) :
    number.IsExact ↔ ∀ double : Float, double.isNaN = false →
      (number.looseEq (float double) = true ↔ number.content = (float double).content) := by
  have hleaf : number.isLeaf := by
    cases number with
    | list items => cases hnumeric
    | map context => cases hnumeric
    | _ => rfl
  have hequal : ∀ double, number.looseEq (float double) = true ↔
      (double == number.toFloat) = true := by
    intro double
    rw [loose_eq_of_leaf hleaf, if_pos (by rw [hnumeric]; rfl), beq_iff_eq, compare_float_eq_iff,
      BEq.comm]
  constructor
  · intro hexact double hdouble
    rw [hequal, beq_to_float_iff hdouble hdefined.content_ne_undefined hexact, eq_comm]
  · intro h
    exact ((h _ hfloat).mp ((hequal _).mpr ((beq_iff_amount_eq hfloat hfloat).mpr rfl))).symm

/-- Loose equality is an equivalence of values without a double that is no number, as far as doubles
in them are compared with numbers whose own doubles are exact. It is reflexive and symmetric in any
case. Where comparisons are exact, equal values are those of one content, so that equality is
transitive and no value is equal to two values of different contents. A number whose double is not
exact is not compared with doubles by value: it is equal to a double that denotes something else.
The doubles of integers up to two to the power of 53 are exact. -/
theorem loose_eq_is_equivalence {x y z : Value} (hx : x.IsRegular) (hy : y.IsRegular)
    (hz : z.IsRegular) :
    x.looseEq x = true ∧ x.looseEq y = y.looseEq x ∧
    (x.ComparesExactly y → (x.looseEq y = true ↔ x.content = y.content)) ∧
    (x.ComparesExactly y → y.ComparesExactly z → x.ComparesExactly z →
      x.looseEq y = true → y.looseEq z = true → x.looseEq z = true) ∧
    (x.ComparesExactly z → y.ComparesExactly z → x.content ≠ y.content →
      ¬ (x.looseEq z = true ∧ y.looseEq z = true)) ∧
    (x.isNumeric → x.toFloat.isNaN = false →
      (x.IsExact ↔ ∀ double : Float, double.isNaN = false →
        (x.looseEq (float double) = true ↔ x.content = (float double).content))) ∧
    ∀ value : Int64, x = int value → value.toInt.natAbs ≤ 2 ^ 53 → x.IsExact := by
  have hcontent : ∀ {x y : Value}, x.IsRegular → y.IsRegular → x.ComparesExactly y →
      (x.looseEq y = true ↔ x.content = y.content) := fun hx hy =>
    loose_eq_iff_content_eq hx.ordered hy.ordered hx.numbers hy.numbers
  refine ⟨?reflexive, ?symmetric, hcontent hx hy, ?transitive, ?distinct, ?exact, ?integers⟩
  case reflexive => exact (hcontent hx hx (compares_exactly_self x)).mpr rfl
  case symmetric => exact Bool.eq_iff_iff.mpr (loose_eq_comm hx.ordered hy.ordered)
  case transitive =>
    intro hxy hyz hxz hequal hequal'
    rw [hcontent hx hy hxy] at hequal
    rw [hcontent hy hz hyz] at hequal'
    exact (hcontent hx hz hxz).mpr (hequal.trans hequal')
  case distinct =>
    rintro hxz hyz hdiffer ⟨hequal, hequal'⟩
    rw [hcontent hx hz hxz] at hequal
    rw [hcontent hy hz hyz] at hequal'
    exact hdiffer (hequal.trans hequal'.symm)
  case exact => exact fun hnumeric hfloat => is_exact_iff hnumeric hx.numbers hfloat
  case integers =>
    rintro value rfl hvalue
    exact is_exact_int hvalue

/-- A price, and a map with the price of a gift. -/
def prices (price gift : Value) : Value :=
  list [price, map (.ofPairs [("Gift", gift)])]

/-- The numbers within prices are the two prices, if these are numbers. -/
theorem eq_of_holds_prices {price gift number : Value} (hprice : price.isNumeric)
    (hgift : gift.isNumeric) (hnumeric : number.isNumeric) (h : Holds number (prices price gift)) :
    number = price ∨ number = gift := by
  have hleaf : ∀ {value : Value}, value.isNumeric → Holds number value → number = value := by
    intro value hvalue hholds
    cases hholds with
    | here => rfl
    | item _ _ => cases hvalue
    | entry _ _ => cases hvalue
  have hentries : (Context.ofPairs [("Gift", gift)]).entries = [("gift", gift)] := rfl
  cases h with
  | here => cases hnumeric
  | item hitem hholds =>
      rcases List.mem_pair.mp hitem with rfl | rfl
      · exact .inl (hleaf hprice hholds)
      · cases hholds with
        | here => cases hnumeric
        | entry hentry hholds =>
            rw [hentries] at hentry
            obtain rfl := List.mem_singleton.mp hentry
            exact .inr (hleaf hgift hholds)

/-- Prices are regular values with exact numbers if they are exact numbers themselves. -/
theorem prices_regular {price gift : Value} (hprice : price.isNumeric ∧ price.IsExact)
    (hgift : gift.isNumeric ∧ gift.IsExact) (hnumbers : price.HasNoNaN ∧ gift.HasNoNaN) :
    (prices price gift).IsRegular ∧ (prices price gift).HasExactNumbers := by
  have hmaps : ∀ {value : Value}, value.isNumeric → value.Throughout Context.IsOrdered := by
    intro value hvalue inner hinner
    cases hinner <;> cases hvalue
  have hordered : (prices price gift).Throughout Context.IsOrdered :=
    throughout_list.mpr (List.forall_mem_cons.mpr ⟨hmaps hprice.1, List.forall_mem_singleton.mpr
      (throughout_of_pairs Context.is_ordered_kept
        (List.forall_mem_singleton.mpr (hmaps hgift.1)))⟩)
  refine ⟨⟨hordered, fun double h => ?_⟩, fun number h hnumeric => ?_⟩
  · rcases eq_of_holds_prices hprice.1 hgift.1 rfl h with rfl | rfl
    · exact hnumbers.1 double .here
    · exact hnumbers.2 double .here
  · rcases eq_of_holds_prices hprice.1 hgift.1 hnumeric h with rfl | rfl
    · exact hprice.2
    · exact hgift.2

theorem content_prices (price gift : Value) :
    (prices price gift).content = .list [price.content, .map [("gift", gift.content)]] :=
  rfl

/-- The doubles of one and two as decimals are exact. -/
theorem decimals_exact :
    (decimal ⟨false, 10, 1⟩).IsExact ∧ (decimal ⟨false, 200, 2⟩).IsExact := by
  have hvalues : (1 : Int64).toInt = 1 ∧ (2 : Int64).toInt = 2 := ⟨rfl, rfl⟩
  have hone : (decimal ⟨false, 10, 1⟩).toFloat = (int 1).toFloat := rfl
  have htwo : (decimal ⟨false, 200, 2⟩).toFloat = (int 2).toFloat := rfl
  constructor
  · rw [IsExact, hone, is_exact_int (by decide)]
    norm_num [content, Decimal.value, Decimal.signedCoefficient, hvalues]
  · rw [IsExact, htwo, is_exact_int (by decide)]
    norm_num [content, Decimal.value, Decimal.signedCoefficient, hvalues]

/-- Prices of one and two are equal as integers, as doubles and as decimals. The double of
9007199254740993 is not exact: the number is equal to a double that is equal to another integer. -/
theorem prices_equal_in_all_types :
    ((prices (int 1) (int 2)).looseEq (prices (float 1) (float 2)) = true ∧
      (prices (float 1) (float 2)).looseEq (prices (decimal ⟨false, 10, 1⟩)
        (decimal ⟨false, 200, 2⟩)) = true ∧
      (prices (int 1) (int 2)).looseEq (prices (decimal ⟨false, 10, 1⟩)
        (decimal ⟨false, 200, 2⟩)) = true) ∧
    ((int 9007199254740993).looseEq (float 9007199254740992) = true ∧
      (float 9007199254740992).looseEq (int 9007199254740992) = true ∧
      (int 9007199254740993).looseEq (int 9007199254740992) = false ∧
      ¬ (int 9007199254740993).IsExact) := by
  constructor
  · have hone : (int 1).IsExact := is_exact_int (by decide)
    have htwo : (int 2).IsExact := is_exact_int (by decide)
    obtain ⟨hone', htwo'⟩ := decimals_exact
    obtain ⟨hints, hintsExact⟩ := prices_regular ⟨rfl, hone⟩ ⟨rfl, htwo⟩ ⟨nofun, nofun⟩
    have hdoubles : (float 1).HasNoNaN ∧ (float 2).HasNoNaN := by
      constructor
      · rintro double ⟨⟩
        decide +kernel
      · rintro double ⟨⟩
        decide +kernel
    obtain ⟨hfloats, hfloatsExact⟩ :=
      prices_regular ⟨rfl, is_exact_float 1⟩ ⟨rfl, is_exact_float 2⟩ hdoubles
    obtain ⟨hdecimals, hdecimalsExact⟩ :=
      prices_regular ⟨rfl, hone'⟩ ⟨rfl, htwo'⟩ ⟨nofun, nofun⟩
    have hfirst := hintsExact.compares_exactly hfloatsExact
    have hsecond := hfloatsExact.compares_exactly hdecimalsExact
    obtain ⟨-, -, hcontent, htrans, -⟩ := loose_eq_is_equivalence hints hfloats hdecimals
    obtain ⟨-, -, hcontent', -⟩ := loose_eq_is_equivalence hfloats hdecimals hints
    have hequal : (prices (int 1) (int 2)).looseEq (prices (float 1) (float 2)) = true := by
      rw [hcontent hfirst, content_prices, content_prices, ← hone, ← htwo]
      rfl
    have hequal' : (prices (float 1) (float 2)).looseEq
        (prices (decimal ⟨false, 10, 1⟩) (decimal ⟨false, 200, 2⟩)) = true := by
      rw [hcontent' hsecond, content_prices, content_prices, ← hone', ← htwo']
      rfl
    exact ⟨hequal, hequal', htrans hfirst hsecond (hintsExact.compares_exactly hdecimalsExact)
      hequal hequal'⟩
  · have hequal : (int 9007199254740993).looseEq (float 9007199254740992) = true := by
      decide +kernel
    have hregular : (int 9007199254740993).IsRegular := ⟨nofun, nofun⟩
    obtain ⟨-, -, -, -, -, hexact, -⟩ := loose_eq_is_equivalence hregular hregular hregular
    refine ⟨hequal, by decide +kernel, by decide +kernel, fun h => ?_⟩
    have hbyvalue := (hexact rfl (by decide +kernel)).mp h
    have hsame := (hbyvalue 9007199254740992 (by decide +kernel)).mp hequal
    have hdouble : (9007199254740992 : Float) = Float.ofInt 9007199254740992 := rfl
    have hamount : floatAmount (Float.ofInt 9007199254740992) = .finite (9007199254740992 : Int) :=
      float_amount_of_int (by norm_num)
    have hint : (9007199254740993 : Int64).toInt = 9007199254740993 := rfl
    rw [content, content, hdouble, hamount, hint] at hsame
    norm_num at hsame

end Value

end TextTemplate
