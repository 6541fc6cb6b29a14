import TextTemplate.Json.Parser
import TextTemplate.Json.Printer
import TextTemplate.Proofs.Grammar.Tokens

/-!
# JSON text

A document whose numbers have the form that JSON asks for and whose strings are texts is read back
from its compact text: `parse?_print`. Every reader is shown to take exactly what the printer put
in front of the rest.
-/

namespace TextTemplate.Json

open TextTemplate.Grammar (Stops)

/-! ## Numbers -/

/-- A number has the form that JSON asks for: the digits before the point begin with zero only for
zero itself, and an exponent has digits. -/
structure Numeral.WellFormed (n : Numeral) : Prop where
  isDigit_whole : ∀ c ∈ n.whole, c.isDigit
  whole_ne_nil : n.whole ≠ []
  noLeadingZero : ∀ more, n.whole = '0' :: more → more = []
  isDigit_fraction : ∀ c ∈ n.fraction, c.isDigit
  exponent : ∀ negative digits, n.exponent = some (negative, digits) →
    digits ≠ [] ∧ ∀ c ∈ digits, c.isDigit

/-- Whether the character may continue a number. -/
def continuesNumber (c : Char) : Bool :=
  c.isDigit || c == '.' || c == 'e' || c == 'E'

/-- What cannot continue a number is no digit. -/
theorem stops_digits {rest : List Char} (h : Stops continuesNumber rest) :
    Stops Char.isDigit rest :=
  h.mono fun c hc => by simp [continuesNumber, hc]

/-- Digits are taken up to what is none. -/
theorem take_digits_append {digits rest : List Char} (hdigits : ∀ c ∈ digits, c.isDigit)
    (hrest : Stops Char.isDigit rest) : takeDigits (digits ++ rest) = (digits, rest) := by
  rw [takeDigits, hrest.take_while_append hdigits, hrest.drop_while_append hdigits]

/-- The digits before the point are read. -/
theorem take_whole_append {n : Numeral} (h : n.WellFormed) {rest : List Char}
    (hrest : Stops Char.isDigit rest) : takeWhole (n.whole ++ rest) = some (n.whole, rest) := by
  rw [takeWhole.eq_def, take_digits_append h.isDigit_whole hrest]
  split
  · next heq => exact absurd (Prod.mk.inj heq).1 h.whole_ne_nil
  · next heq => cases h.noLeadingZero _ (Prod.mk.inj heq).1
  · next heq =>
      obtain ⟨hdigits, hafter⟩ := Prod.mk.inj heq
      rw [hdigits, hafter]

/-- A point with the digits behind it is read, or nothing where there are none. -/
theorem take_fraction_append {fraction rest : List Char} (hdigits : ∀ c ∈ fraction, c.isDigit)
    (hrest : Stops Char.isDigit rest) (hpoint : Stops (· == '.') rest) :
    takeFraction ((if fraction.isEmpty then [] else '.' :: fraction) ++ rest) =
      some (fraction, rest) := by
  cases fraction with
  | nil =>
      rw [List.isEmpty_nil, if_pos rfl, List.nil_append, takeFraction.eq_def]
      split
      · exact absurd hpoint.of_cons (by decide)
      · rfl
  | cons c more =>
      rw [List.isEmpty_cons, if_neg Bool.false_ne_true, List.cons_append, takeFraction,
        take_digits_append hdigits hrest]

/-- The digits of an exponent are read. -/
theorem take_exponent_digits_append {digits rest : List Char} (hne : digits ≠ [])
    (hdigits : ∀ c ∈ digits, c.isDigit) (hrest : Stops Char.isDigit rest) (negative : Bool) :
    takeExponentDigits negative (digits ++ rest) = some (some (negative, digits), rest) := by
  rw [takeExponentDigits, take_digits_append hdigits hrest]
  cases digits with
  | nil => exact absurd rfl hne
  | cons c more => rfl

/-- The text of an exponent. -/
def exponentText : Option (Bool × List Char) → List Char
  | some (negative, digits) => 'e' :: ((if negative then ['-'] else []) ++ digits)
  | none => []

/-- An exponent is read, or nothing where there is none. -/
theorem take_exponent_append {n : Numeral} (h : n.WellFormed) {rest : List Char}
    (hrest : Stops continuesNumber rest) :
    takeExponent (exponentText n.exponent ++ rest) = some (n.exponent, rest) := by
  cases hexponent : n.exponent with
  | none =>
      cases rest with
      | nil => rfl
      | cons c rest =>
          have hc := hrest.of_cons
          simp only [continuesNumber, Bool.or_eq_false_iff, beq_eq_false_iff_ne] at hc
          rw [exponentText, List.nil_append, takeExponent.eq_def]
          exact if_neg (not_or.mpr ⟨hc.1.2, hc.2⟩)
  | some exponent =>
      obtain ⟨negative, digits⟩ := exponent
      obtain ⟨hne, hdigits⟩ := h.exponent negative digits hexponent
      have htake := take_exponent_digits_append hne hdigits (stops_digits hrest)
      cases negative with
      | true => exact htake true
      | false =>
          obtain ⟨c, more, rfl⟩ := List.exists_cons_of_ne_nil hne
          have hc : c.isDigit := hdigits c List.mem_cons_self
          rw [exponentText, List.cons_append, takeExponent.eq_def]
          simp only [true_or, if_true, Bool.false_eq_true, if_false, List.nil_append,
            List.cons_append]
          -- A digit is neither of the two signs.
          split
          · next heq =>
              obtain rfl : c = '+' := (List.cons.inj heq).1
              simp at hc
          · next heq =>
              obtain rfl : c = '-' := (List.cons.inj heq).1
              simp at hc
          · exact htake false

/-- The text of a number is its sign, its digits and its exponent. -/
theorem digits_eq (n : Numeral) (rest : List Char) :
    n.digits ++ rest = (if n.negative then ['-'] else []) ++ (n.whole ++
      ((if n.fraction.isEmpty then [] else '.' :: n.fraction) ++
        (exponentText n.exponent ++ rest))) := by
  rw [Numeral.digits, List.append_assoc, List.append_assoc, List.append_assoc]
  rfl

/-- A number without its sign is read. -/
theorem take_magnitude_append {n : Numeral} (h : n.WellFormed) {rest : List Char}
    (hrest : Stops continuesNumber rest) :
    takeMagnitude n.negative (n.whole ++
      ((if n.fraction.isEmpty then [] else '.' :: n.fraction) ++
        (exponentText n.exponent ++ rest))) = some (n, rest) := by
  -- An exponent begins with a letter, and so does not continue the digits in front of it.
  have hexponent : Stops Char.isDigit (exponentText n.exponent ++ rest) ∧
      Stops (· == '.') (exponentText n.exponent ++ rest) := by
    cases n.exponent with
    | none => exact ⟨stops_digits hrest, hrest.mono fun c hc => by simp_all [continuesNumber]⟩
    | some exponent => exact ⟨.cons rfl _, .cons rfl _⟩
  have hfraction : Stops Char.isDigit ((if n.fraction.isEmpty then [] else '.' :: n.fraction) ++
      (exponentText n.exponent ++ rest)) := by
    split
    · exact hexponent.1
    · exact .cons rfl _
  simp only [takeMagnitude, take_whole_append h hfraction,
    take_fraction_append h.isDigit_fraction hexponent.1 hexponent.2, take_exponent_append h hrest,
    Option.bind_eq_bind, Option.bind_some]
  rfl

/-- A number begins with its sign or with a digit. -/
theorem exists_digits_eq_cons {n : Numeral} (h : n.WellFormed) :
    ∃ c more, n.digits = c :: more ∧ (c = '-' ∨ c.isDigit) := by
  obtain ⟨c, more, hwhole⟩ := List.exists_cons_of_ne_nil h.whole_ne_nil
  have hdigits := digits_eq n []
  rw [List.append_nil, hwhole] at hdigits
  rw [hdigits]
  cases n.negative with
  | true => exact ⟨'-', _, rfl, .inl rfl⟩
  | false => exact ⟨c, _, rfl, .inr (h.isDigit_whole c (hwhole ▸ List.mem_cons_self))⟩

/-- A number is read back from its text, up to what cannot continue it. -/
theorem take_numeral_append {n : Numeral} (h : n.WellFormed) {rest : List Char}
    (hrest : Stops continuesNumber rest) : takeNumeral (n.digits ++ rest) = some (n, rest) := by
  have hmagnitude := take_magnitude_append h hrest
  rw [digits_eq]
  cases hnegative : n.negative with
  | true =>
      rw [hnegative] at hmagnitude
      exact hmagnitude
  | false =>
      rw [hnegative] at hmagnitude
      obtain ⟨c, more, hwhole⟩ := List.exists_cons_of_ne_nil h.whole_ne_nil
      have hc : c.isDigit := h.isDigit_whole c (hwhole ▸ List.mem_cons_self)
      rw [if_neg Bool.false_ne_true, List.nil_append, takeNumeral.eq_def]
      split
      · next heq =>
          rw [hwhole] at heq
          obtain rfl : c = '-' := (List.cons.inj heq).1
          simp at hc
      · exact hmagnitude

/-! ## Strings -/

/-- A hexadecimal digit has its value. -/
theorem hex_value?_digit_char {value : Nat} (h : value < 16) :
    hexValue? (Number.digitChar value) = some value := by
  revert value
  decide

/-- A control character is read from its numeric escape. -/
theorem take_escape_control {c : Char} (h : c.toNat < 0x20) (rest : List Char) :
    takeEscape ('u' :: '0' :: '0' :: Number.digitChar (c.toNat / 16) ::
      Number.digitChar (c.toNat % 16) :: rest) = some (.char c, rest) := by
  have hzero : hexValue? '0' = some 0 := rfl
  have hhigh := hex_value?_digit_char (show c.toNat / 16 < 16 by omega)
  have hlow := hex_value?_digit_char (show c.toNat % 16 < 16 by omega)
  have hvalue : ((0 * 16 + 0) * 16 + c.toNat / 16) * 16 + c.toNat % 16 = c.toNat := by omega
  have hunit : takeUnit ('0' :: '0' :: Number.digitChar (c.toNat / 16) ::
      Number.digitChar (c.toNat % 16) :: rest) = some (c.toNat, rest) := by
    simp only [takeUnit, hzero, hhigh, hlow, hvalue, Option.bind_eq_bind, Option.bind_some]
    rfl
  have hopens : opensPair c.toNat = false := by simp [opensPair]; omega
  have hcloses : closesPair c.toNat = false := by simp [closesPair]; omega
  simp only [takeEscape, takeNumericEscape, hunit, hopens, hcloses, Bool.false_eq_true, if_false,
    Char.ofNat_toNat]

/-- The forms of a character within a string. -/
inductive IsEscaped (c : Char) : List Char → Prop where
  | short {letter : Char} (h : shortEscape? letter = some c) : IsEscaped c ['\\', letter]
  | numeric (h : c.toNat < 0x20) :
    IsEscaped c ['\\', 'u', '0', '0', Number.digitChar (c.toNat / 16),
      Number.digitChar (c.toNat % 16)]
  | plain (hquote : c ≠ '"') (hslash : c ≠ '\\') (hcontrol : ¬ c.toNat < 0x20) :
    IsEscaped c [c]

/-- A character is written in one of its forms. -/
theorem is_escaped_escaped_char (c : Char) : IsEscaped c (escapedChar c) := by
  have hback (h : c.toNat = 0x08) : c = '\x08' := Char.toNat_inj.mp h
  have hfeed (h : c.toNat = 0x0c) : c = '\x0c' := Char.toNat_inj.mp h
  unfold escapedChar
  split
  · next h =>
      subst h
      exact .short rfl
  split
  · next h =>
      subst h
      exact .short rfl
  split
  · next h =>
      subst h
      exact .short rfl
  split
  · next h =>
      subst h
      exact .short rfl
  split
  · next h =>
      subst h
      exact .short rfl
  split
  · next h =>
      obtain rfl := hback h
      exact .short rfl
  split
  · next h =>
      obtain rfl := hfeed h
      exact .short rfl
  split
  · next h => exact .numeric h
  · next hquote hslash _ _ _ _ _ hcontrol => exact .plain hquote hslash hcontrol

/-- A letter after a backslash is read as the character that it stands for. -/
theorem take_escape_short {letter c : Char} (h : shortEscape? letter = some c) (rest : List Char) :
    takeEscape (letter :: rest) = some (.char c, rest) := by
  have hletter : letter ≠ 'u' := by
    rintro rfl
    cases h
  rw [takeEscape.eq_def]
  split
  · next heq => exact absurd (List.cons.inj heq).1 hletter
  · next heq =>
      obtain ⟨rfl, rfl⟩ := List.cons.inj heq
      rw [h]
      rfl
  · next heq => cases heq

/-- One character is read from its form within a string. -/
theorem take_string_escaped_char (c : Char) (before : List Char) (fuel : Nat) (rest : List Char) :
    takeString (some before) (fuel + 1) (escapedChar c ++ rest) =
      takeString (some (c :: before)) fuel rest := by
  have hform := is_escaped_escaped_char c
  generalize escapedChar c = form at hform ⊢
  cases hform with
  | short h =>
      simp only [List.cons_append, List.nil_append, takeString, take_escape_short h]
      rfl
  | numeric h =>
      simp only [List.cons_append, List.nil_append, takeString, take_escape_control h]
      rfl
  | plain hquote hslash hcontrol =>
      rw [List.cons_append, List.nil_append, takeString, if_neg hcontrol]
      · rfl
      · exact hquote
      · exact hslash

/-- Each character takes at least one. -/
theorem length_le_length_escaped_onto (later chars : List Char) :
    chars.length + later.length ≤ (escapedOnto later chars).length := by
  induction chars with
  | nil => simp [escapedOnto]
  | cons c chars ih =>
      have hform : 1 ≤ (escapedChar c).length := by
        have hform := is_escaped_escaped_char c
        generalize escapedChar c = form at hform ⊢
        cases hform <;> simp
      rw [escapedOnto, List.length_append, List.length_cons]
      omega

/-- Characters are read back from their forms within a string, up to the closing quote. -/
theorem take_string_escaped_onto {chars : List Char} {fuel : Nat} (h : chars.length < fuel)
    (before later : List Char) :
    takeString (some before) fuel (escapedOnto ('"' :: later) chars) =
      some (some (String.ofList (before.reverse ++ chars)), later) := by
  induction chars generalizing fuel before with
  | nil =>
      cases fuel with
      | zero => exact absurd h (Nat.not_lt_zero _)
      | succ fuel => rw [escapedOnto, takeString, List.append_nil]; rfl
  | cons c chars ih =>
      cases fuel with
      | zero => exact absurd h (Nat.not_lt_zero _)
      | succ fuel =>
          have hchars : chars.length < fuel := Nat.lt_of_succ_lt_succ h
          rw [escapedOnto, take_string_escaped_char, ih hchars, List.reverse_cons,
            List.append_assoc, List.singleton_append]

/-- A text is read back after its opening quote. -/
theorem take_string_text {text : String} {fuel : Nat} (h : text.toList.length < fuel)
    (later : List Char) :
    takeString (some []) fuel (escapedOnto ('"' :: later) text.toList) =
      some (some text, later) := by
  rw [take_string_escaped_onto h, List.reverse_nil, List.nil_append, String.ofList_toList]

/-! ## What the printer puts in front -/

/-- The forms of characters are put in front of whatever is later. -/
theorem escaped_onto_eq (later chars : List Char) :
    escapedOnto later chars = escapedOnto [] chars ++ later := by
  induction chars with
  | nil => rfl
  | cons c chars ih => rw [escapedOnto, escapedOnto, ih, List.append_assoc]

/-- A string is put in front of whatever is later. -/
theorem string_onto_append (text : Option String) (first later : List Char) :
    stringOnto text (first ++ later) = stringOnto text first ++ later := by
  rw [stringOnto, stringOnto, escaped_onto_eq, escaped_onto_eq ('"' :: first), List.cons_append,
    List.append_assoc, List.cons_append]

mutual
/-- A document is put in front of whatever is later. -/
theorem onto_append (first later : List Char) : (document : Document) →
    document.onto (first ++ later) = document.onto first ++ later
  | .null | .boolean true | .boolean false => rfl
  | .number numeral => (List.append_assoc _ _ _).symm
  | .string text => string_onto_append text first later
  | .array items => by
      rw [Document.onto, ← List.cons_append, items_onto_append _ later false items]
      rfl
  | .object members => by
      rw [Document.onto, ← List.cons_append, members_onto_append _ later false members]
      rfl

/-- Items are put in front of whatever is later. -/
theorem items_onto_append (first later : List Char) (more : Bool) : (items : List Document) →
    itemsOnto (first ++ later) more items = itemsOnto first more items ++ later
  | [] => rfl
  | item :: items => by
      rw [itemsOnto, items_onto_append first later true items, onto_append _ later item,
        ← List.append_assoc]
      rfl

/-- Members are put in front of whatever is later. -/
theorem members_onto_append (first later : List Char) (more : Bool) :
    (members : List (Option String × Document)) →
    membersOnto (first ++ later) more members = membersOnto first more members ++ later
  | [] => rfl
  | (key, value) :: members => by
      rw [membersOnto, members_onto_append first later true members, onto_append _ later value,
        ← List.cons_append, string_onto_append, ← List.append_assoc]
      rfl
end

/-- The text of a document is put in front of whatever is later. -/
theorem onto_eq (document : Document) (later : List Char) :
    document.onto later = document.chars ++ later :=
  onto_append [] later document

/-! ## Documents -/

/-- A document has a text of its own: its numbers have the form that JSON asks for, and its strings
and keys are texts. -/
inductive Document.WellFormed : Document → Prop where
  | null : WellFormed .null
  | boolean (value : Bool) : WellFormed (.boolean value)
  | number {numeral : Numeral} (h : numeral.WellFormed) : WellFormed (.number numeral)
  | string (text : String) : WellFormed (.string (some text))
  | array {items : List Document} (h : ∀ item ∈ items, WellFormed item) :
    WellFormed (.array items)
  | object {members : List (Option String × Document)}
    (hkeys : ∀ member ∈ members, member.1.isSome)
    (h : ∀ member ∈ members, WellFormed member.2) : WellFormed (.object members)

/-- No blank stands in front of the character. -/
theorem skip_blanks_cons {c : Char} (h : isBlank c = false) (rest : List Char) :
    skipBlanks (c :: rest) = c :: rest := by
  rw [skipBlanks, List.dropWhile_cons_of_neg (Bool.eq_false_iff.mp h)]

/-- What opens a number is neither a mark nor a letter. -/
theorem ne_of_opens_number {c d : Char} (h : c = '-' ∨ c.isDigit) (hd : d.isDigit = false)
    (hminus : '-' ≠ d) : c ≠ d := by
  rcases h with rfl | h
  · exact hminus
  · rintro rfl
    exact absurd h (Bool.eq_false_iff.mp hd)

/-- What opens a number is no blank. -/
theorem is_blank_of_opens_number {c : Char} (h : c = '-' ∨ c.isDigit) : isBlank c = false := by
  simp only [isBlank, Bool.or_eq_false_iff, beq_eq_false_iff_ne]
  exact ⟨⟨⟨ne_of_opens_number h rfl (by decide), ne_of_opens_number h rfl (by decide)⟩,
    ne_of_opens_number h rfl (by decide)⟩, ne_of_opens_number h rfl (by decide)⟩

/-- The text of a document begins with no blank and with no closing bracket. -/
theorem exists_onto_eq_cons {document : Document} (h : document.WellFormed) (later : List Char) :
    ∃ c more, document.onto later = c :: more ∧ isBlank c = false ∧ c ≠ ']' := by
  cases h with
  | null => exact ⟨_, _, rfl, rfl, by decide⟩
  | boolean value => cases value <;> exact ⟨_, _, rfl, rfl, by decide⟩
  | string text => exact ⟨_, _, rfl, rfl, by decide⟩
  | array h => exact ⟨_, _, rfl, rfl, by decide⟩
  | object hkeys h => exact ⟨_, _, rfl, rfl, by decide⟩
  | number h =>
      obtain ⟨c, more, hdigits, hc⟩ := exists_digits_eq_cons h
      exact ⟨c, more ++ later, by rw [Document.onto, hdigits, List.cons_append],
        is_blank_of_opens_number hc, ne_of_opens_number hc rfl (by decide)⟩

/-- The document is taken from its text, in front of whatever cannot continue a number. -/
def Document.IsReadBack (document : Document) : Prop :=
  ∀ {fuel : Nat} {later : List Char}, document.chars.length ≤ fuel →
    Stops continuesNumber later → takeValue fuel (document.onto later) = some (document, later)

/-- Items that are read back one by one are read back together. -/
theorem take_items_onto {items : List Document} (hne : items ≠ [])
    (h : ∀ item ∈ items, item.IsReadBack) {fuel : Nat}
    (hfuel : (itemsOnto [] false items).length < fuel) (later : List Char) :
    takeItems fuel (itemsOnto (']' :: later) false items) = some (items, later) := by
  induction items generalizing fuel with
  | nil => exact absurd rfl hne
  | cons item items ih =>
      obtain ⟨hitem, hitems⟩ := List.forall_mem_cons.mp h
      cases fuel with
      | zero => exact absurd hfuel (Nat.not_lt_zero _)
      | succ fuel =>
          have hlength : (itemsOnto [] false (item :: items)).length =
              item.chars.length + (itemsOnto [] true items).length := by
            rw [itemsOnto, onto_eq]
            simp
          rw [itemsOnto, if_neg Bool.false_ne_true, List.nil_append, takeItems]
          cases items with
          | nil =>
              rw [itemsOnto, hitem (by omega) (.cons rfl later)]
              rfl
          | cons next more =>
              have hrest : (itemsOnto [] true (next :: more)).length =
                  (itemsOnto [] false (next :: more)).length + 1 := rfl
              have hcomma : itemsOnto (']' :: later) true (next :: more) =
                ',' :: itemsOnto (']' :: later) false (next :: more) := rfl
              have hmore := ih (List.cons_ne_nil _ _) hitems
                (show (itemsOnto [] false (next :: more)).length < fuel by omega)
              rw [hcomma, hitem (by omega) (.cons rfl _)]
              simp only [skip_blanks_cons (show isBlank ',' = false from rfl), hmore,
                Option.map_some]

/-- Members that are read back one by one are read back together. -/
theorem take_members_onto {members : List (Option String × Document)} (hne : members ≠ [])
    (hkeys : ∀ member ∈ members, member.1.isSome)
    (h : ∀ member ∈ members, member.2.IsReadBack) {fuel : Nat}
    (hfuel : (membersOnto [] false members).length < fuel) (later : List Char) :
    takeMembers fuel (membersOnto ('\x7d' :: later) false members) = some (members, later) := by
  induction members generalizing fuel with
  | nil => exact absurd rfl hne
  | cons member members ih =>
      obtain ⟨key, value⟩ := member
      obtain ⟨hkey, hmoreKeys⟩ := List.forall_mem_cons.mp hkeys
      obtain ⟨hvalue, hmoreValues⟩ := List.forall_mem_cons.mp h
      change value.IsReadBack at hvalue
      obtain ⟨text, rfl⟩ : ∃ text, key = some text := Option.isSome_iff_exists.mp hkey
      cases fuel with
      | zero => exact absurd hfuel (Nat.not_lt_zero _)
      | succ fuel =>
          have hescaped := length_le_length_escaped_onto [] text.toList
          have hlength : (membersOnto [] false ((some text, value) :: members)).length =
              (escapedOnto [] text.toList).length + value.chars.length +
                (membersOnto [] true members).length + 3 := by
            rw [membersOnto, stringOnto, escaped_onto_eq, onto_eq]
            simp
            omega
          have htext := take_string_text (show text.toList.length < fuel by omega)
          rw [membersOnto, if_neg Bool.false_ne_true, List.nil_append, takeMembers, stringOnto]
          simp only [skip_blanks_cons (show isBlank '"' = false from rfl), Option.getD_some, htext,
            skip_blanks_cons (show isBlank ':' = false from rfl)]
          cases members with
          | nil =>
              rw [membersOnto, hvalue (by omega) (.cons rfl later)]
              rfl
          | cons next more =>
              have hrest : (membersOnto [] true (next :: more)).length =
                  (membersOnto [] false (next :: more)).length + 1 := rfl
              have hcomma : membersOnto ('\x7d' :: later) true (next :: more) =
                ',' :: membersOnto ('\x7d' :: later) false (next :: more) := rfl
              have hmore := ih (List.cons_ne_nil _ _) hmoreKeys hmoreValues
                (show (membersOnto [] false (next :: more)).length < fuel by omega)
              rw [hcomma, hvalue (by omega) (.cons rfl _)]
              simp only [skip_blanks_cons (show isBlank ',' = false from rfl), hmore,
                Option.map_some]

/-- A value that begins with neither a letter of a keyword nor a mark is a number. -/
theorem take_value_number {numeral : Numeral} (h : numeral.WellFormed) {later : List Char}
    (hlater : Stops continuesNumber later) (fuel : Nat) :
    takeValue (fuel + 1) (numeral.digits ++ later) = some (.number numeral, later) := by
  have htake := take_numeral_append h hlater
  obtain ⟨c, more, hdigits, hc⟩ := exists_digits_eq_cons h
  rw [hdigits, List.cons_append] at htake ⊢
  have hne {d : Char} (hd : d.isDigit = false) (hminus : '-' ≠ d) : c ≠ d :=
    ne_of_opens_number hc hd hminus
  rw [takeValue, skip_blanks_cons (is_blank_of_opens_number hc)]
  simp only [hne (show 'n'.isDigit = false from rfl) (by decide),
    hne (show 't'.isDigit = false from rfl) (by decide),
    hne (show 'f'.isDigit = false from rfl) (by decide),
    hne (show '"'.isDigit = false from rfl) (by decide),
    hne (show '['.isDigit = false from rfl) (by decide),
    hne (show '\x7b'.isDigit = false from rfl) (by decide), if_false, htake, Option.map_some]

/-- As much fuel as there are characters is some. -/
theorem exists_fuel {document : Document} (h : document.WellFormed) {fuel : Nat}
    (hfuel : document.chars.length ≤ fuel) : ∃ less, fuel = less + 1 := by
  obtain ⟨c, more, hchars, -⟩ := exists_onto_eq_cons h []
  rw [Document.chars, hchars] at hfuel
  exact Nat.exists_eq_succ_of_ne_zero (Nat.ne_of_gt (Nat.lt_of_lt_of_le (Nat.succ_pos _) hfuel))

/-- An array of well-formed items that are read back is read back. -/
theorem is_read_back_array {items : List Document} (h : ∀ item ∈ items, item.WellFormed)
    (hitems : ∀ item ∈ items, item.IsReadBack) : (Document.array items).IsReadBack := by
  intro fuel later hfuel _
  obtain ⟨fuel, rfl⟩ := exists_fuel (.array h) hfuel
  cases items with
  | nil => rfl
  | cons item more =>
      have hlength : (Document.array (item :: more)).chars.length =
          (itemsOnto [] false (item :: more)).length + 2 := by
        have happend := items_onto_append [] [']'] false (item :: more)
        rw [List.nil_append] at happend
        simp [Document.chars, Document.onto, happend]
      have htake := take_items_onto (List.cons_ne_nil _ _) hitems (show _ < fuel by omega) later
      -- The first item does not begin as if the array were empty.
      obtain ⟨c, rest, htext, hblank, hbracket⟩ := exists_onto_eq_cons
        (h item List.mem_cons_self) (itemsOnto (']' :: later) true more)
      have honto : itemsOnto (']' :: later) false (item :: more) = c :: rest := htext
      rw [honto] at htake
      rw [Document.onto, honto, takeValue, skip_blanks_cons rfl]
      simp only [Char.reduceEq, if_true, if_false, skip_blanks_cons hblank]
      split
      · next heq => exact absurd (List.cons.inj heq).1 hbracket
      · rw [htake]
        rfl

/-- An object with text keys whose values are read back is read back. -/
theorem is_read_back_object {members : List (Option String × Document)}
    (hkeys : ∀ member ∈ members, member.1.isSome) (h : ∀ member ∈ members, member.2.WellFormed)
    (hvalues : ∀ member ∈ members, member.2.IsReadBack) :
    (Document.object members).IsReadBack := by
  intro fuel later hfuel _
  obtain ⟨fuel, rfl⟩ := exists_fuel (.object hkeys h) hfuel
  cases members with
  | nil => rfl
  | cons member more =>
      have hlength : (Document.object (member :: more)).chars.length =
          (membersOnto [] false (member :: more)).length + 2 := by
        have happend := members_onto_append [] ['\x7d'] false (member :: more)
        rw [List.nil_append] at happend
        simp [Document.chars, Document.onto, happend]
      have htake := take_members_onto (List.cons_ne_nil _ _) hkeys hvalues (show _ < fuel by omega)
        later
      obtain ⟨rest, honto⟩ : ∃ rest, membersOnto ('\x7d' :: later) false (member :: more) =
        '"' :: rest := ⟨_, rfl⟩
      rw [honto] at htake
      rw [Document.onto, honto, takeValue, skip_blanks_cons rfl]
      simp [skip_blanks_cons (show isBlank '"' = false from rfl), htake]

/-- A well-formed document is read back. -/
theorem is_read_back {document : Document} (h : document.WellFormed) : document.IsReadBack := by
  induction h with
  | null =>
      intro fuel later hfuel _
      obtain ⟨fuel, rfl⟩ := exists_fuel .null hfuel
      rfl
  | boolean value =>
      intro fuel later hfuel _
      obtain ⟨fuel, rfl⟩ := exists_fuel (.boolean value) hfuel
      cases value <;> rfl
  | number h =>
      intro fuel later hfuel hlater
      obtain ⟨fuel, rfl⟩ := exists_fuel (.number h) hfuel
      exact take_value_number h hlater fuel
  | string text =>
      intro fuel later hfuel _
      obtain ⟨fuel, rfl⟩ := exists_fuel (.string text) hfuel
      have hescaped : text.toList.length + 1 ≤ (escapedOnto ['"'] text.toList).length :=
        length_le_length_escaped_onto ['"'] text.toList
      have hlength : (Document.string (some text)).chars.length =
          (escapedOnto ['"'] text.toList).length + 1 := rfl
      have htext := take_string_text (show text.toList.length < fuel by omega) later
      rw [Document.onto, stringOnto, takeValue, skip_blanks_cons rfl]
      simp [htext]
  | array h ih => exact is_read_back_array h ih
  | object hkeys h ih => exact is_read_back_object hkeys h ih

/-- A well-formed document is read back from its text. -/
theorem parse?_print {document : Document} (h : document.WellFormed) :
    Document.parse? document.print = some document := by
  have hread := is_read_back h (Nat.le_succ _) (Stops.nil continuesNumber)
  rw [← Document.chars] at hread
  rw [Document.parse?, Document.print, String.toList_ofList, Document.parseChars?, hread]
  rfl

end TextTemplate.Json
