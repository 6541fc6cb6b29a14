import Mathlib
import TextTemplate.Eval.Evaluator
import TextTemplate.Proofs.Value.Iteration

/-!
# Mapping

The library function `map` calls a closure on each element of a list or a range, one after the
other. `Scope.maps_each_element_in_order` says that it succeeds exactly if all these calls do, that
it has their values in the order of the elements, and that the first call without a value ends the
whole evaluation otherwise.
-/

namespace TextTemplate

/-- The elements that can be walked through, in their order: the items of a list, or the members
that iterating over a range meets. -/
inductive Value.HasElements : Value → List Value → Prop where
  | list (items : List Value) : HasElements (.list items) items
  | range {range : IntRange} {members : List Int64}
      (h : range.Meets (some range.start) members) :
      HasElements (.range range) (members.map .int)

/-- The library walks through the elements. -/
theorem Value.HasElements.elements_of?_eq {collection : Value} {elements : List Value}
    (h : collection.HasElements elements) :
    StandardFunction.elementsOf? collection = some elements := by
  cases h with
  | list items => rfl
  | @range range members h =>
      rw [h.unique range.meets_members]
      rfl

/-! ## Answers to elements -/

/-- The answers to the elements, each at its place among them, are these values. -/
structure AnswersEach (answer : Nat → Value → Except Halt Value) (elements values : List Value) :
    Prop where
  length_eq : values.length = elements.length
  answer_eq : ∀ (i : Nat) (helement : i < elements.length) (hvalue : i < values.length),
    answer i elements[i] = .ok values[i]

/-- The answer to the element at the place is a halt, and it is the first one. -/
structure HaltsFirst (answer : Nat → Value → Except Halt Value) (elements : List Value)
    (halt : Halt) (place : Nat) : Prop where
  lt : place < elements.length
  answer_eq : answer place elements[place] = .error halt
  before : ∀ (i : Nat) (hi : i < place), ∃ value, answer i elements[i] = .ok value

variable {answer : Nat → Value → Except Halt Value} {element value : Value}
  {elements values : List Value} {halt : Halt} {place : Nat}

/-- An element with an answer in front of answered ones. -/
theorem AnswersEach.cons (hfirst : answer 0 element = .ok value)
    (h : AnswersEach (fun i => answer (i + 1)) elements values) :
    AnswersEach answer (element :: elements) (value :: values) where
  length_eq := congrArg (· + 1) h.length_eq
  answer_eq i helement hvalue := by
    cases i with
    | zero => exact hfirst
    | succ i =>
        exact h.answer_eq i (Nat.lt_of_succ_lt_succ helement) (Nat.lt_of_succ_lt_succ hvalue)

/-- An element with an answer in front of those among which one halts. -/
theorem HaltsFirst.cons (hfirst : answer 0 element = .ok value)
    (h : HaltsFirst (fun i => answer (i + 1)) elements halt place) :
    HaltsFirst answer (element :: elements) halt (place + 1) where
  lt := Nat.succ_lt_succ h.lt
  answer_eq := h.answer_eq
  before i hi := by
    cases i with
    | zero => exact ⟨value, hfirst⟩
    | succ i => exact h.before i (Nat.lt_of_succ_lt_succ hi)

/-- There is one first halt. -/
theorem HaltsFirst.unique {other : Halt} {later : Nat} (h : HaltsFirst answer elements halt place)
    (hother : HaltsFirst answer elements other later) : halt = other := by
  rcases Nat.lt_trichotomy place later with hlt | rfl | hlt
  · obtain ⟨value, hvalue⟩ := hother.before place hlt
    cases h.answer_eq.symm.trans hvalue
  · cases h.answer_eq.symm.trans hother.answer_eq
    rfl
  · obtain ⟨value, hvalue⟩ := h.before later hlt
    cases hother.answer_eq.symm.trans hvalue

/-- Where all elements are answered, none halts. -/
theorem AnswersEach.not_halts (h : AnswersEach answer elements values) :
    ¬ HaltsFirst answer elements halt place := by
  intro hhalts
  have hvalue := h.answer_eq place hhalts.lt (h.length_eq ▸ hhalts.lt)
  cases hhalts.answer_eq.symm.trans hvalue

/-- The answers are the same values every time. -/
theorem AnswersEach.unique {others : List Value} (h : AnswersEach answer elements values)
    (hothers : AnswersEach answer elements others) : values = others := by
  refine List.ext_getElem (h.length_eq.trans hothers.length_eq.symm) fun i hvalue hother => ?_
  have helement : i < elements.length := h.length_eq ▸ hvalue
  exact Except.ok.inj ((h.answer_eq i helement hvalue).symm.trans
    (hothers.answer_eq i helement hother))

/-- An index that selects an element selects the answer to it from the list of the answers. -/
theorem AnswersEach.answer_at (h : AnswersEach answer elements values) {collection : Value}
    (hwalked : StandardFunction.elementsOf? collection = some elements) {index : Int64}
    (hselects : Selects elements.length index) :
    ∃ position : Nat, (position : Int) = fromEnd elements.length index.toInt ∧
      answer position (collection.access (.int index)) =
        .ok ((Value.list values).access (.int index)) := by
  obtain ⟨position, hposition, hlt, helement⟩ := element_at?_of_selects hselects
  obtain ⟨other, hother, hvalue, hanswer⟩ := element_at?_of_selects (h.length_eq.symm ▸ hselects)
  -- Elements and answers are as many, so the index counts to the same position among them.
  obtain rfl : position = other := by
    rw [h.length_eq] at hother
    omega
  refine ⟨position, hposition, ?_⟩
  rw [Value.access_int_of_elements hwalked, helement, List.getElem?_eq_getElem hlt, Value.access,
    hanswer, List.getElem?_eq_getElem hvalue]
  exact h.answer_eq position hlt hvalue

/-- What mapping the elements comes to: the list of their answers, or the first halt. -/
inductive Mapped (answer : Nat → Value → Except Halt Value) (elements : List Value) :
    Except Halt Value → Prop where
  | answered {values : List Value} (h : AnswersEach answer elements values) :
      Mapped answer elements (.ok (.list values))
  | halted {halt : Halt} {place : Nat} (h : HaltsFirst answer elements halt place) :
      Mapped answer elements (.error halt)

/-- Mapping comes to the same every time. -/
theorem Mapped.unique {outcome other : Except Halt Value} (h : Mapped answer elements outcome)
    (hother : Mapped answer elements other) : outcome = other := by
  cases h with
  | answered hanswers =>
      cases hother with
      | answered hothers => rw [hanswers.unique hothers]
      | halted hhalts => exact absurd hhalts hanswers.not_halts
  | halted hhalts =>
      cases hother with
      | answered hanswers => exact absurd hhalts hanswers.not_halts
      | halted hothers => rw [hhalts.unique hothers]

/-! ## Calls of `map` -/

/-- Walking through items calls the closure on each of them, until a call halts. -/
theorem map_items_outcome (invoke : Invoke) (call : Call) (closure : Closure) (step : Nat)
    (items : List Value) :
    let answer : Nat → Value → Except Halt Value :=
      fun i item => invoke closure [item] ((step + i) :: call.origin)
    (∃ values, StandardFunction.mapItems invoke call closure step items = .ok values ∧
        AnswersEach answer items values) ∨
      ∃ halt place, StandardFunction.mapItems invoke call closure step items =
          .error (.halted halt) ∧ HaltsFirst answer items halt place := by
  intro answer
  induction items generalizing step with
  | nil => exact .inl ⟨[], rfl, rfl, fun i helement => absurd helement (Nat.not_lt_zero i)⟩
  | cons item items ih =>
      have hshift : (fun i => answer (i + 1)) =
          fun i item => invoke closure [item] ((step + 1 + i) :: call.origin) := by
        funext i item
        rw [Nat.add_right_comm]
        rfl
      rw [StandardFunction.mapItems, Call.invoke]
      cases hfirst : invoke closure [item] (step :: call.origin) with
      | error halt =>
          exact .inr ⟨halt, 0, rfl, Nat.succ_pos _, hfirst,
            fun i hi => absurd hi (Nat.not_lt_zero i)⟩
      | ok value =>
          rcases ih (step + 1) with ⟨values, hvalues, hanswers⟩ | ⟨halt, place, hhalt, hfirsts⟩
          · refine .inl ⟨value :: values, ?_, .cons hfirst (hshift ▸ hanswers)⟩
            rw [hvalues]
            rfl
          · refine .inr ⟨halt, place + 1, ?_, .cons hfirst (hshift ▸ hfirsts)⟩
            rw [hhalt]
            rfl

namespace Scope

variable {scope : Scope} {calls : Calls} {origin : Origin} {name : String} {collection : Value}
  {closure : Closure}

/-- A call of `map` comes to the list of the answers to the elements, or the first halt among
them ends the evaluation. -/
theorem call_mapped (hstandard : scope.resolver = .standard)
    (hname : StandardFunction.ofName? name = some .map)
    (helements : StandardFunction.elementsOf? collection = some elements) :
    Mapped (fun step element => calls.invoke closure [element] (step :: origin)) elements
      (scope.call calls origin name [collection, .closure closure]) := by
  have hitems := map_items_outcome calls.invoke
    ⟨name, [collection, .closure closure], scope.context, origin⟩ closure 0 elements
  simp only [Nat.zero_add] at hitems
  simp only [call, hstandard, Resolver.library, Library.standard, hname, StandardFunction.answer,
    helements]
  rcases hitems with ⟨values, hvalues, hanswers⟩ | ⟨halt, place, hhalt, hfirst⟩
  · rw [hvalues]
    exact .answered hanswers
  · rw [hhalt]
    exact .halted hfirst

/-- A call of `map` on a list or a range succeeds exactly if the closure, called on each element,
always does. Its value is then the list of the answers in the order of the elements, so that an
index that selects an element selects the answer to that element. Otherwise the first answer
without a value ends the evaluation. A range is mapped as the list of its members. The call on an
element is a step of its own, by its place, since closures that it makes are told apart by it. -/
theorem maps_each_element_in_order (hstandard : scope.resolver = .standard)
    (hname : StandardFunction.ofName? name = some .map)
    (helements : collection.HasElements elements) :
    let answer : Nat → Value → Except Halt Value :=
      fun step element => calls.invoke closure [element] (step :: origin)
    let mapped := scope.call calls origin name [collection, .closure closure]
    ((∃ value, mapped = .ok value) ↔
      ∀ (i : Nat) (hi : i < elements.length), ∃ value, answer i elements[i] = .ok value) ∧
    (∀ value, mapped = .ok value → ∃ values, value = .list values ∧
      AnswersEach answer elements values ∧
      ∀ index : Int64, Selects elements.length index →
        ∃ position : Nat, (position : Int) = fromEnd elements.length index.toInt ∧
          answer position (collection.access (.int index)) =
            .ok ((Value.list values).access (.int index))) ∧
    (∀ halt, mapped = .error halt ↔ ∃ place, HaltsFirst answer elements halt place) ∧
    mapped = scope.call calls origin name [.list elements, .closure closure] := by
  intro answer mapped
  have hwalked := helements.elements_of?_eq
  have hmapped : Mapped answer elements mapped := call_mapped hstandard hname hwalked
  have hlist : mapped = scope.call calls origin name [.list elements, .closure closure] :=
    hmapped.unique (call_mapped hstandard hname rfl)
  clear_value mapped
  cases hmapped with
  | @answered values hanswers =>
      refine ⟨⟨fun _ i hi => ⟨_, hanswers.answer_eq i hi (hanswers.length_eq ▸ hi)⟩,
        fun _ => ⟨_, rfl⟩⟩, fun value hvalue => ?_, fun halt => ⟨nofun, ?_⟩, hlist⟩
      · exact ⟨values, (Except.ok.inj hvalue).symm, hanswers, fun _ => hanswers.answer_at hwalked⟩
      · rintro ⟨place, hhalts⟩
        exact absurd hhalts hanswers.not_halts
  | @halted halt place hhalts =>
      refine ⟨⟨nofun, fun hanswered => ?_⟩, nofun, fun other => ⟨?_, ?_⟩, hlist⟩
      · obtain ⟨value, hvalue⟩ := hanswered place hhalts.lt
        cases hhalts.answer_eq.symm.trans hvalue
      · rintro ⟨⟩
        exact ⟨place, hhalts⟩
      · rintro ⟨later, hothers⟩
        rw [hhalts.unique hothers]

/-- The lambda that multiplies its argument by ten, mapped over five, three and one. -/
theorem maps_each_element_in_order_of_odd_numbers :
    let scope : Scope := ⟨.empty, .standard, 9⟩
    let calls : Calls := .within (fun _ => .standard) 1
    let closure : Closure :=
      ⟨.empty, [.binary .mul (.capture 1) (.literal (.int 10))], .standard, 9, [1]⟩
    let odd : Value := .range ⟨5, 1, 2⟩
    odd.HasElements [.int 5, .int 3, .int 1] ∧
      ∃ values, scope.call calls [] "Map" [odd, .closure closure] = .ok (.list values) ∧
        values.length = 3 ∧ (Value.list values).access (.int (-1)) = .int 10 := by
  intro scope calls closure odd
  have htimes : ∀ (n : Int64) (step : Nat),
      calls.invoke closure [.int n] [step] = .ok (.int (n * 10)) := by
    intro n step
    cbv
  have hodd : odd.HasElements [.int 5, .int 3, .int 1] :=
    .range (IntRange.meets_members ⟨5, 1, 2⟩)
  have hname : StandardFunction.ofName? "Map" = some .map := by cbv
  obtain ⟨hsucceeds, hvalues, -⟩ :=
    @maps_each_element_in_order _ scope calls [] "Map" odd closure rfl hname hodd
  obtain ⟨value, hvalue⟩ := hsucceeds.mpr fun i hi => by
    rcases i with _ | _ | _ | i
    · exact ⟨_, htimes 5 0⟩
    · exact ⟨_, htimes 3 1⟩
    · exact ⟨_, htimes 1 2⟩
    · exact absurd hi (by simp)
  obtain ⟨values, rfl, hanswers, hindex⟩ := hvalues value hvalue
  refine ⟨hodd, values, hvalue, hanswers.length_eq, ?_⟩
  obtain ⟨position, -, hanswer⟩ := hindex (-1) (by decide)
  exact (Except.ok.inj ((htimes 1 position).symm.trans hanswer)).symm

end Scope

end TextTemplate
