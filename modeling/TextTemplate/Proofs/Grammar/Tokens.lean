import TextTemplate.Proofs.Grammar.Recognizer
import TextTemplate.Proofs.Number.Digits

/-!
# What stands for itself

Names, integers, strings, captures and operators are read back from the way they are written,
whatever follows, as long as it cannot be taken for a part of them. A literal that begins otherwise
is not read at all.
-/

namespace TextTemplate

/-- The ways in which an operator is written. -/
def BinaryOp.spellings (op : BinaryOp) : List (List Char) :=
  match op with
  | .ne => [['!', '='], ['<', '>']]
  | op => [op.symbol.toList]

namespace Grammar

open TextTemplate.Grammar.Parser TextTemplate.Number

/-! ## What follows -/

/-- The next character, if there is one, does not have the property. -/
def Stops (p : Char → Bool) (rest : List Char) : Prop :=
  ∀ c ∈ rest.head?, p c = false

theorem Stops.nil (p : Char → Bool) : Stops p [] :=
  fun _ hc => by cases hc

theorem Stops.cons {p : Char → Bool} {c : Char} (h : p c = false) (rest : List Char) :
    Stops p (c :: rest) :=
  fun _ hd => Option.some.inj hd ▸ h

theorem Stops.of_cons {p : Char → Bool} {c : Char} {rest : List Char} (h : Stops p (c :: rest)) :
    p c = false :=
  h c rfl

/-- A character with the property is none without it. -/
theorem Stops.of_true {p : Char → Bool} {c d : Char} {rest : List Char} (h : p c)
    (hd : p d = false) : Stops (· == d) (c :: rest) := by
  have hne : c ≠ d := by
    rintro rfl
    exact absurd h (Bool.eq_false_iff.mp hd)
  refine .cons ?_ rest
  exact beq_eq_false_iff_ne.mpr hne

/-- A weaker property also stops what a stronger one stops. -/
theorem Stops.mono {p q : Char → Bool} {rest : List Char} (h : Stops q rest)
    (hpq : ∀ c, p c → q c) : Stops p rest := by
  intro c hc
  rw [Bool.eq_false_iff]
  intro hp
  have hq : q c = false := h c hc
  exact absurd (hpq c hp) (Bool.eq_false_iff.mp hq)

/-- Nothing is taken where the next character does not have the property. -/
theorem Stops.take_while {p : Char → Bool} {rest : List Char} (h : Stops p rest) :
    rest.takeWhile p = [] := by
  cases rest with
  | nil => rfl
  | cons c rest => rw [List.takeWhile_cons_of_neg (Bool.eq_false_iff.mp h.of_cons)]

/-- Nothing is dropped where the next character does not have the property. -/
theorem Stops.drop_while {p : Char → Bool} {rest : List Char} (h : Stops p rest) :
    rest.dropWhile p = rest := by
  cases rest with
  | nil => rfl
  | cons c rest => rw [List.dropWhile_cons_of_neg (Bool.eq_false_iff.mp h.of_cons)]

/-- Exactly the characters in front are taken. -/
theorem Stops.take_while_append {p : Char → Bool} {first rest : List Char} (h : Stops p rest)
    (hfirst : ∀ c ∈ first, p c) : (first ++ rest).takeWhile p = first := by
  rw [List.takeWhile_append_of_pos hfirst, h.take_while, List.append_nil]

/-- Exactly the characters in front are dropped. -/
theorem Stops.drop_while_append {p : Char → Bool} {first rest : List Char} (h : Stops p rest)
    (hfirst : ∀ c ∈ first, p c) : (first ++ rest).dropWhile p = rest := by
  rw [List.dropWhile_append_of_pos hfirst, h.drop_while]

/-- All leading characters with the property are dropped. -/
theorem stops_drop_while (p : Char → Bool) (cs : List Char) : Stops p (cs.dropWhile p) := by
  intro c hc
  have hhead := List.head?_dropWhile_not p cs
  rw [Option.mem_def.mp hc] at hhead
  exact hhead

/-- The characters have the property none of them. -/
theorem not_of_mem {p : Char → Bool} {chars : List Char} (hp : chars.all (!p ·)) {c : Char}
    (h : c ∈ chars) : p c = false := by
  simpa using List.all_eq_true.mp hp c h

/-- The blanks. -/
def blankChars : List Char :=
  [' ', '\t', '\r', '\n']

/-- A property that none of the four blanks has. -/
theorem not_of_is_blank {p : Char → Bool} (hp : blankChars.all (!p ·)) {c : Char}
    (h : isBlank c) : p c = false := by
  simp only [isBlank, Bool.or_eq_true, beq_iff_eq, or_assoc] at h
  exact not_of_mem hp (by simpa [blankChars] using h)

/-- A character with a property that no blank has is none. -/
theorem is_blank_eq_false {p : Char → Bool} (hp : blankChars.all (!p ·)) {c : Char} (h : p c) :
    isBlank c = false := by
  rw [Bool.eq_false_iff]
  intro hblank
  exact absurd h (Bool.eq_false_iff.mp (not_of_is_blank hp hblank))

/-- Blanks may come first when they do not have the property. -/
theorem Stops.blanks_append {p : Char → Bool} {ws rest : List Char} (hws : ∀ c ∈ ws, isBlank c)
    (hp : ∀ c, isBlank c → p c = false) (h : Stops p rest) : Stops p (ws ++ rest) := by
  cases ws with
  | nil => exact h
  | cons c ws => exact .cons (hp c (hws c List.mem_cons_self)) _

/-- A character is not read where another one comes next. -/
theorem reads?_char_eq_none {expected : Char} {rest : List Char}
    (h : Stops (· == expected) rest) : (char expected).reads? rest = none := by
  cases rest with
  | nil => rfl
  | cons c rest => simp [beq_eq_false_iff_ne.mp h.of_cons]

/-- A character that is read comes first. -/
theorem eq_cons_of_char {expected c : Char} {cs rest : List Char}
    (h : (char expected).reads? cs = some (c, rest)) :
    cs = expected :: rest := by
  cases cs with
  | nil => cases h
  | cons d cs =>
      rw [reads?_char_cons] at h
      split at h
      · next hd =>
          obtain ⟨-, rfl⟩ := Prod.mk.inj (Option.some.inj h)
          rw [hd]
      · cases h

/-! ## Names -/

/-- Whether the characters are a name. -/
def isName : List Char → Bool
  | [] => false
  | first :: more => beginsName first && more.all continuesName

/-- Whether the characters are one of the words for truth values, in any case. -/
def isTruthWord (name : List Char) : Bool :=
  name.map Char.toLower == ['t', 'r', 'u', 'e'] ||
    name.map Char.toLower == ['f', 'a', 'l', 's', 'e']

/-- A name that is no word for a truth value. -/
structure IsVariable (name : String) : Prop where
  isName : isName name.toList
  isNoTruthWord : isTruthWord name.toList = false

theorem continues_name_of_begins_name {c : Char} (h : beginsName c) : continuesName c := by
  simp only [beginsName, Bool.or_eq_true] at h
  rcases h with h | h <;> simp [continuesName, h]

/-- All characters of a name may continue one. -/
theorem continues_name_of_is_name {name : List Char} (h : isName name) :
    ∀ c ∈ name, continuesName c := by
  cases name with
  | nil => exact fun _ hc => by cases hc
  | cons first more =>
      simp only [isName, Bool.and_eq_true, List.all_eq_true] at h
      exact List.forall_mem_cons.mpr ⟨continues_name_of_begins_name h.1, h.2⟩

/-- A name has a first character. -/
theorem exists_cons_of_is_name {name : List Char} (h : isName name) :
    ∃ first more, name = first :: more ∧ beginsName first := by
  cases name with
  | nil => cases h
  | cons first more => exact ⟨first, more, rfl, (Bool.and_eq_true_iff.mp h).1⟩

/-- A property that no name begins with stops at a name. -/
theorem Stops.of_name {p : Char → Bool} {name : List Char} (h : isName name)
    (hp : ∀ c, beginsName c → p c = false) (rest : List Char) : Stops p (name ++ rest) := by
  obtain ⟨first, more, rfl, hfirst⟩ := exists_cons_of_is_name h
  exact .cons (hp first hfirst) _

/-- A character that no name begins with does not come next where a name does. -/
theorem Stops.of_name_char {name : List Char} (h : isName name) {d : Char}
    (hd : beginsName d = false) (rest : List Char) : Stops (· == d) (name ++ rest) := by
  obtain ⟨first, more, rfl, hfirst⟩ := exists_cons_of_is_name h
  exact .of_true hfirst hd

/-- A name is read up to where it cannot go on. -/
theorem reads?_ident {name rest : List Char} (h : isName name) (hrest : Stops continuesName rest) :
    ident.reads? (name ++ rest) = some (name, rest) := by
  cases name with
  | nil => cases h
  | cons first more =>
      simp only [isName, Bool.and_eq_true, List.all_eq_true] at h
      simp [ident, h.1, hrest.take_while_append h.2, hrest.drop_while_append h.2]

/-- Nothing but a name can be read as a name. -/
theorem reads?_ident_eq_none {rest : List Char} (h : Stops beginsName rest) :
    ident.reads? rest = none := by
  cases rest with
  | nil => rfl
  | cons c rest => simp [ident, h.of_cons]

/-- What is read as a name is a name, and takes all of it. -/
theorem exists_name_of_ident {name cs rest : List Char}
    (h : ident.reads? cs = some (name, rest)) :
    cs = name ++ rest ∧ isName name ∧ Stops continuesName rest := by
  cases cs with
  | nil => cases h
  | cons c cs =>
      rw [ident, reads?_bind, reads?_satisfy_cons] at h
      split at h
      · next hc =>
          simp only [Option.bind_some, reads?_bind, reads?_take_while, reads?_pure] at h
          obtain ⟨rfl, rfl⟩ := Prod.mk.inj (Option.some.inj h)
          refine ⟨?_, ?_, stops_drop_while continuesName cs⟩
          · rw [List.cons_append, List.takeWhile_append_dropWhile]
          · rw [isName, hc, Bool.true_and]
            exact List.all_takeWhile
      · cases h

theorem reads?_atom {name rest : List Char} (h : isName name) (hrest : Stops continuesName rest) :
    atom.reads? (name ++ rest) = some (.atom name, rest) := by
  simp [atom, reads?_ident h hrest]

theorem reads?_atom_eq_none {rest : List Char} (h : Stops beginsName rest) :
    atom.reads? rest = none := by
  simp [atom, reads?_ident_eq_none h]

/-! ## Truth values -/

/-- Only letters become small letters. -/
theorem is_letter_of_to_lower {c : Char} (h : isLetter c.toLower) : isLetter c := by
  by_cases hupper : 'A' ≤ c ∧ c ≤ 'Z'
  · simp only [isLetter, Bool.or_eq_true, Bool.and_eq_true, decide_eq_true_eq]
    exact .inr hupper
  · have hlower : c.toLower = c := dif_neg hupper
    rwa [hlower] at h

/-- A longer or a different name is not read as the word. -/
theorem reads?_word_name {letters name rest : List Char} (hletters : letters.all isLetter)
    (hname : ∀ c ∈ name, continuesName c) (hne : name.map Char.toLower ≠ letters)
    (hrest : Stops continuesName rest) :
    ((word letters).reads? (name ++ rest)).bind
      (fun (_, after) => (absent (satisfy continuesName)).reads? after) = none := by
  -- The first difference decides: a letter that is another one, a name that ends within the word,
  -- or one that goes on behind it.
  induction letters generalizing name with
  | nil =>
      cases name with
      | nil => exact absurd rfl hne
      | cons c name => simp [word, reads?_absent, hname c List.mem_cons_self]
  | cons letter letters ih =>
      obtain ⟨hletter, hletters⟩ := Bool.and_eq_true_iff.mp hletters
      cases name with
      | nil =>
          cases rest with
          | nil => rfl
          | cons c rest =>
              have hc : c.toLower ≠ letter := by
                intro heq
                have hcontinues : continuesName c := by
                  simp [continuesName, is_letter_of_to_lower (heq ▸ hletter)]
                exact absurd hcontinues (Bool.eq_false_iff.mp hrest.of_cons)
              simp [word, hc]
      | cons c name =>
          by_cases hc : c.toLower = letter
          · have hmore : name.map Char.toLower ≠ letters := fun heq => by simp [hc, heq] at hne
            simpa [word, hc] using ih hletters (List.forall_mem_cons.mp hname).2 hmore
          · simp [word, hc]

/-- A name other than the words for truth values is not read as a truth value. -/
theorem reads?_boolean_name {name rest : List Char} (h : isName name)
    (hword : isTruthWord name = false) (hrest : Stops continuesName rest) :
    boolean.reads? (name ++ rest) = none := by
  simp only [isTruthWord, Bool.or_eq_false_iff, beq_eq_false_iff_ne] at hword
  have htrue := reads?_word_name rfl (continues_name_of_is_name h) hword.1 hrest
  have hfalse := reads?_word_name rfl (continues_name_of_is_name h) hword.2 hrest
  simp only [boolean, reads?_rule, reads?_bind, reads?_or_else, reads?_pure] at htrue hfalse ⊢
  cases hfirst : (word ['t', 'r', 'u', 'e']).reads? (name ++ rest) with
  | some result =>
      rw [hfirst, Option.bind_some] at htrue
      simp [htrue]
  | none =>
      cases hsecond : (word ['f', 'a', 'l', 's', 'e']).reads? (name ++ rest) with
      | some result =>
          rw [hsecond, Option.bind_some] at hfalse
          simp [hfalse]
      | none => rfl

/-- Only a letter can begin a truth value. -/
theorem reads?_boolean_eq_none {rest : List Char} (h : Stops beginsName rest) :
    boolean.reads? rest = none := by
  cases rest with
  | nil => rfl
  | cons c rest =>
      have hletter : ∀ l, isLetter l → c.toLower ≠ l := by
        intro l hl heq
        have hbegins : beginsName c := by simp [beginsName, is_letter_of_to_lower (heq ▸ hl)]
        exact absurd hbegins (Bool.eq_false_iff.mp h.of_cons)
      simp [boolean, word, hletter 't' rfl, hletter 'f' rfl]

/-- The word for a truth value. -/
def truthWord (value : Bool) : List Char :=
  if value then ['t', 'r', 'u', 'e'] else ['f', 'a', 'l', 's', 'e']

theorem is_name_truth_word (value : Bool) : isName (truthWord value) := by
  cases value <;> rfl

/-- A truth value is read from its word. -/
theorem reads?_boolean_truth_word (value : Bool) {rest : List Char}
    (hrest : Stops continuesName rest) :
    boolean.reads? (truthWord value ++ rest) = some (.boolean value, rest) := by
  have habsent : (absent (satisfy continuesName)).reads? rest = some ((), rest) := by
    cases rest with
    | nil => rfl
    | cons c rest => simp [reads?_absent, hrest.of_cons]
  cases value <;> simp [boolean, truthWord, word, habsent]

/-! ## Numbers -/

/-- The characters of a number with what may stand around them in a timestamp. -/
def continuesNumber (c : Char) : Bool :=
  c.isDigit || c == '-' || c == '.'

theorem Stops.digit {rest : List Char} (h : Stops continuesNumber rest) :
    Stops Char.isDigit rest :=
  h.mono fun c hc => by simp [continuesNumber, hc]

theorem Stops.dash {rest : List Char} (h : Stops continuesNumber rest) : Stops (· == '-') rest :=
  h.mono fun c hc => by simp [continuesNumber, beq_iff_eq.mp hc]

theorem Stops.point {rest : List Char} (h : Stops continuesNumber rest) : Stops (· == '.') rest :=
  h.mono fun c hc => by simp [continuesNumber, beq_iff_eq.mp hc]

/-- A name does not begin like a number. -/
theorem not_continues_number_of_begins_name {c : Char} (h : beginsName c) :
    continuesNumber c = false := by
  rw [Bool.eq_false_iff]
  intro hnumber
  simp only [continuesNumber, Bool.or_eq_true, beq_iff_eq] at hnumber
  rcases hnumber with (hdigit | rfl) | rfl
  · simp only [Char.isDigit, Bool.and_eq_true, decide_eq_true_eq] at hdigit
    simp only [beginsName, isLetter, Bool.or_eq_true, Bool.and_eq_true, decide_eq_true_eq,
      beq_iff_eq, Char.le_def] at h
    have hnine : c.val ≤ 57 := hdigit.2
    rcases h with (h | h) | rfl
    · exact absurd (UInt32.le_trans h.1 hnine) (by decide)
    · exact absurd (UInt32.le_trans h.1 hnine) (by decide)
    · exact absurd hnine (by decide)
  · cases h
  · cases h

/-- A run of digits is read up to where it ends. -/
theorem reads?_digits {digits rest : List Char} (hne : digits ≠ [])
    (hdigits : ∀ c ∈ digits, c.isDigit) (hrest : Stops Char.isDigit rest) :
    Grammar.digits.reads? (digits ++ rest) = some ((), rest) := by
  cases digits with
  | nil => exact absurd rfl hne
  | cons c digits =>
      obtain ⟨hc, hdigits⟩ := List.forall_mem_cons.mp hdigits
      simp [Grammar.digits, hc, hrest.drop_while_append hdigits]

theorem reads?_digits_eq_none {rest : List Char} (h : Stops Char.isDigit rest) :
    digits.reads? rest = none := by
  cases rest with
  | nil => rfl
  | cons c rest => simp [digits, h.of_cons]

/-- Whether the characters are digits, with a minus sign in front or not. -/
def IsIntegerText (text : List Char) : Prop :=
  ∃ digits, digits ≠ [] ∧ (∀ c ∈ digits, c.isDigit) ∧ (text = digits ∨ text = '-' :: digits)

theorem is_integer_text_integer_digits (n : Int) : IsIntegerText (integerDigits n) := by
  cases n with
  | ofNat magnitude =>
      exact ⟨_, decimal_digits_ne_nil magnitude, is_digit_of_mem_decimal_digits, .inl rfl⟩
  | negSucc magnitude =>
      exact ⟨_, decimal_digits_ne_nil (magnitude + 1), is_digit_of_mem_decimal_digits, .inr rfl⟩

variable {text : List Char}

/-- What a sign leaves of an integer are its digits. -/
theorem IsIntegerText.exists_sign (h : IsIntegerText text) (rest : List Char) :
    ∃ digits, digits ≠ [] ∧ (∀ c ∈ digits, c.isDigit) ∧ (text = digits ∨ text = '-' :: digits) ∧
      sign.reads? (text ++ rest) = some ((), digits ++ rest) := by
  obtain ⟨digits, hne, hdigits, htext⟩ := h
  refine ⟨digits, hne, hdigits, htext, ?_⟩
  rcases htext with rfl | rfl
  · cases text with
    | nil => exact absurd rfl hne
    | cons c digits =>
        have hc : c.isDigit := hdigits c List.mem_cons_self
        have hminus : c ≠ '-' := fun heq => by simp [heq] at hc
        simp [sign, hminus]
  · simp [sign]

/-- A property of neither digits nor the sign stops at an integer. -/
theorem Stops.of_integer_digits {p : Char → Bool} (hminus : p '-' = false)
    (hdigit : ∀ c, c.isDigit → p c = false) (n : Int) (rest : List Char) :
    Stops p (integerDigits n ++ rest) := by
  obtain ⟨digits, hne, hdigits, htext⟩ := is_integer_text_integer_digits n
  rcases htext with htext | htext
  · rw [htext]
    cases digits with
    | nil => exact absurd rfl hne
    | cons c digits => exact .cons (hdigit c (hdigits c List.mem_cons_self)) _
  · rw [htext]
    exact .cons hminus _

/-- A character that is neither a digit nor the sign does not come next where an integer does. -/
theorem Stops.of_integer_digits_char {d : Char} (hd : continuesNumber d = false) (n : Int)
    (rest : List Char) : Stops (· == d) (integerDigits n ++ rest) := by
  have hne : ∀ c, continuesNumber c → (c == d) = false := by
    intro c hc
    rw [beq_eq_false_iff_ne]
    rintro rfl
    exact absurd hc (Bool.eq_false_iff.mp hd)
  exact .of_integer_digits (hne '-' rfl) (fun c hc => hne c (by simp [continuesNumber, hc])) n rest

/-- No integer begins with a blank. -/
theorem Stops.of_integer_digits_blank (n : Int) (rest : List Char) :
    Stops isBlank (integerDigits n ++ rest) :=
  .of_integer_digits rfl (fun _ => is_blank_eq_false rfl) n rest

/-- An integer is read up to where its digits end. -/
theorem reads?_integer (h : IsIntegerText text) {rest : List Char}
    (hrest : Stops Char.isDigit rest) :
    integer.reads? (text ++ rest) =
      some (.integer ⟨text, byteCount (text ++ rest), byteCount rest⟩, rest) := by
  obtain ⟨digits, hne, hdigits, -, hsign⟩ := h.exists_sign rest
  have hreads : (sign >>= fun _ => Grammar.digits).reads? (text ++ rest) = some ((), rest) := by
    simp [hsign, reads?_digits hne hdigits hrest]
  rw [integer, reads?_rule, reads?_bind, reads?_lexeme hreads]
  rfl

/-- An integer is not read as a decimal, since no point follows its digits. -/
theorem reads?_decimal_integer_text (h : IsIntegerText text) {rest : List Char}
    (hrest : Stops continuesNumber rest) : decimal.reads? (text ++ rest) = none := by
  obtain ⟨digits, hne, hdigits, -, hsign⟩ := h.exists_sign rest
  rw [decimal, reads?_rule, reads?_bind, reads?_lexeme_eq_none, Option.bind_none]
  simp [hsign, reads?_digits hne hdigits hrest.digit, reads?_char_eq_none hrest.point]

/-- No dash follows digits that are taken from a number. -/
theorem reads?_char_of_digit_count {digits rest after : List Char} {count : Nat} {read : Unit}
    (hdigits : ∀ c ∈ digits, c.isDigit) (hrest : Stops continuesNumber rest)
    (h : (digitCount count).reads? (digits ++ rest) = some (read, after)) :
    (char '-').reads? after = none := by
  -- The count ends within the digits, where a digit follows, or just behind them.
  induction count generalizing digits with
  | zero =>
      obtain ⟨-, rfl⟩ := Prod.mk.inj (Option.some.inj h)
      cases digits with
      | nil => exact reads?_char_eq_none hrest.dash
      | cons c digits =>
          have hc : c ≠ '-' := fun heq => by simp [heq] at hdigits
          simp [hc]
  | succ count ih =>
      cases digits with
      | nil =>
          cases rest with
          | nil => cases h
          | cons c rest => simp [digitCount, exactly, hrest.digit.of_cons] at h
      | cons c digits =>
          obtain ⟨hc, hdigits⟩ := List.forall_mem_cons.mp hdigits
          simp only [digitCount, exactly, reads?_and_then, List.cons_append, reads?_satisfy_cons,
            hc, if_true, Option.bind_some] at h
          exact ih hdigits h

/-- An integer is not read as a timestamp, since no dash follows its digits. -/
theorem reads?_timestamp_integer_text (h : IsIntegerText text) {rest : List Char}
    (hrest : Stops continuesNumber rest) : timestamp.reads? (text ++ rest) = none := by
  obtain ⟨digits, -, hdigits, htext⟩ := h
  rw [timestamp, reads?_rule, reads?_bind, reads?_lexeme_eq_none, Option.bind_none]
  rcases htext with rfl | rfl
  · cases hyear : (digitCount 4).reads? (text ++ rest) with
    | none => simp [date, hyear]
    | some result =>
        have hdash := reads?_char_of_digit_count hdigits hrest hyear
        simp [date, hyear, hdash]
  · simp [date, digitCount, exactly]

/-- Only a digit or a sign can begin an integer. -/
theorem reads?_integer_eq_none {rest : List Char} (h : Stops continuesNumber rest) :
    integer.reads? rest = none := by
  rw [integer, reads?_rule, reads?_bind, reads?_lexeme_eq_none, Option.bind_none]
  have hsign : sign.reads? rest = some ((), rest) := by
    simp [sign, reads?_char_eq_none h.dash]
  simp [hsign, reads?_digits_eq_none h.digit]

/-- Only a digit or a sign can begin a decimal. -/
theorem reads?_decimal_eq_none {rest : List Char} (h : Stops continuesNumber rest) :
    decimal.reads? rest = none := by
  rw [decimal, reads?_rule, reads?_bind, reads?_lexeme_eq_none, Option.bind_none]
  have hsign : sign.reads? rest = some ((), rest) := by
    simp [sign, reads?_char_eq_none h.dash]
  simp [hsign, reads?_digits_eq_none h.digit]

/-- Only a digit can begin a timestamp. -/
theorem reads?_timestamp_eq_none {rest : List Char} (h : Stops Char.isDigit rest) :
    timestamp.reads? rest = none := by
  rw [timestamp, reads?_rule, reads?_bind, reads?_lexeme_eq_none, Option.bind_none]
  cases rest with
  | nil => rfl
  | cons c rest => simp [date, digitCount, exactly, h.of_cons]

/-! ## Captures -/

/-- A capture is read up to where the digits of its index end. -/
theorem reads?_capture (index : Nat) {rest : List Char} (hrest : Stops Char.isDigit rest) :
    ∃ lexeme : Lexeme, lexeme.text = decimalDigits index ∧
      capture.reads? ('&' :: decimalDigits index ++ rest) = some (.capture lexeme, rest) := by
  let text := '&' :: decimalDigits index
  have hreads : (char '&' >>= fun _ => rule .captureIndex digits).reads? (text ++ rest) =
      some ((), rest) := by
    simp [text, reads?_digits (decimal_digits_ne_nil index) is_digit_of_mem_decimal_digits hrest]
  refine ⟨⟨decimalDigits index, byteCount (text ++ rest), byteCount rest⟩, rfl, ?_⟩
  rw [capture, reads?_rule, reads?_bind, reads?_lexeme hreads]
  rfl

/-- An ampersand without digits behind it is no capture. -/
theorem reads?_capture_ampersand {rest : List Char} (h : Stops Char.isDigit rest) :
    capture.reads? ('&' :: rest) = none := by
  rw [capture, reads?_rule, reads?_bind, reads?_lexeme_eq_none, Option.bind_none]
  simp [reads?_digits_eq_none h]

/-- Only an ampersand can begin a capture. -/
theorem reads?_capture_eq_none {rest : List Char} (h : Stops (· == '&') rest) :
    capture.reads? rest = none := by
  rw [capture, reads?_rule, reads?_bind, reads?_lexeme_eq_none, Option.bind_none]
  simp [reads?_char_eq_none h]

/-! ## Strings -/

/-- What is written stands for the character in a string. -/
inductive StandsFor : List Char → Char → Prop where
  | plain {c : Char} (hquote : c ≠ '"') (hslash : c ≠ '\\') : StandsFor [c] c
  | escape (c : Char) : StandsFor ['\\', c] (unescapedChar c)

theorem StandsFor.length_pos {written : List Char} {c : Char} (h : StandsFor written c) :
    0 < written.length := by
  cases h <;> simp

/-- Escapes are resolved to the text that they were made of. -/
theorem unescaped_flat_map {write : Char → List Char} {text : List Char}
    (h : ∀ c ∈ text, StandsFor (write c) c) : unescaped (text.flatMap write) = text := by
  induction text with
  | nil => rfl
  | cons c text ih =>
      obtain ⟨hc, htext⟩ := List.forall_mem_cons.mp h
      rw [List.flatMap_cons]
      generalize write c = written at hc
      cases hc with
      | plain hquote hslash =>
          rw [List.cons_append, List.nil_append,
            unescaped.eq_3 _ _ fun d _ hd => absurd hd hslash, ih htext]
      | escape d => rw [List.cons_append, List.cons_append, List.nil_append, unescaped, ih htext]

/-- What stands for a character is one part of a string. -/
theorem reads?_string_part {written : List Char} {c : Char} (h : StandsFor written c)
    (rest : List Char) : stringPart.reads? (written ++ rest) = some (written, rest) := by
  cases h with
  | plain hquote hslash => simp [stringPart, hquote, hslash]
  | escape d => simp [stringPart]

/-- The parts of a string end at a quote. -/
theorem reads_many_string_part {write : Char → List Char} {text : List Char}
    (h : ∀ c ∈ text, StandsFor (write c) c) (rest : List Char) :
    ReadsMany stringPart (text.flatMap write ++ '"' :: rest) (text.map write) ('"' :: rest) := by
  induction text with
  | nil => exact .stop (by simp [stringPart])
  | cons c text ih =>
      obtain ⟨hc, htext⟩ := List.forall_mem_cons.mp h
      rw [List.flatMap_cons, List.append_assoc]
      refine .step (reads?_string_part hc _) ?_ (ih htext)
      have hone := hc.length_pos
      simp only [List.length_append]
      omega

/-- A string in quotes is read, whatever follows. -/
theorem reads?_string {write : Char → List Char} {text : List Char}
    (h : ∀ c ∈ text, StandsFor (write c) c) (rest : List Char) :
    string.reads? ('"' :: text.flatMap write ++ '"' :: rest) = some (.string text, rest) := by
  simp [string, stringContent, reads?_many (reads_many_string_part h rest), ← List.flatMap_def,
    unescaped_flat_map h]

/-- A character as it is written in a string. -/
def escapedChar (c : Char) : List Char :=
  if c = '"' ∨ c = '\\' then ['\\', c] else [c]

/-- A text as it is written in a string. -/
def escaped (text : List Char) : List Char :=
  text.flatMap escapedChar

/-- A character stands for itself, with a backslash before a quote and a backslash. -/
theorem stands_for_escaped_char (c : Char) : StandsFor (escapedChar c) c := by
  rw [escapedChar]
  split
  · next h =>
      rcases h with rfl | rfl
      · exact .escape '"'
      · exact .escape '\\'
  · next h =>
      obtain ⟨hquote, hslash⟩ := not_or.mp h
      exact .plain hquote hslash

/-- Only a quote can begin a string. -/
theorem reads?_string_eq_none {rest : List Char} (h : Stops (· == '"') rest) :
    string.reads? rest = none := by
  simp [string, reads?_char_eq_none h]

/-! ## Operators -/

/-- Whether an operator goes on with the character. -/
def continuesOperator (c : Char) : Bool :=
  c == '=' || c == '>'

/-- An operator is read from each of the ways in which it is written. -/
theorem reads?_binary_op {op : BinaryOp} {spelling rest : List Char} (h : spelling ∈ op.spellings)
    (hrest : Stops continuesOperator rest) :
    binaryOp.reads? (spelling ++ rest) = some (op, rest) := by
  have hequals : (char '=').reads? rest = none :=
    reads?_char_eq_none (hrest.mono fun c hc => by simp [continuesOperator, beq_iff_eq.mp hc])
  have hangle : (char '>').reads? rest = none :=
    reads?_char_eq_none (hrest.mono fun c hc => by simp [continuesOperator, beq_iff_eq.mp hc])
  cases op with
  | ne =>
      have hspelling : spelling = ['!', '='] ∨ spelling = ['<', '>'] := by
        simpa [BinaryOp.spellings] using h
      rcases hspelling with rfl | rfl <;> simp [binaryOp, operator]
  | _ =>
      -- The first character leaves only the longer symbols that it begins.
      obtain rfl := List.mem_singleton.mp h
      simp [binaryOp, operator, BinaryOp.symbol, hequals, hangle]

/-- The characters that operators begin with. -/
def operatorChars : List Char :=
  ['=', '!', '>', '<', '+', '-', '*', '/', '^', '&']

/-- A property that no operator begins with stops at an operator. -/
theorem Stops.of_spelling {p : Char → Bool} {op : BinaryOp} {spelling : List Char}
    (h : spelling ∈ op.spellings) (hp : operatorChars.all (!p ·)) (rest : List Char) :
    Stops p (spelling ++ rest) := by
  cases op with
  | ne =>
      have hspelling : spelling = ['!', '='] ∨ spelling = ['<', '>'] := by
        simpa [BinaryOp.spellings] using h
      rcases hspelling with rfl | rfl <;> exact .cons (not_of_mem hp (by decide)) _
  | _ =>
      obtain rfl := List.mem_singleton.mp h
      exact .cons (not_of_mem hp (by decide)) _

/-- Whether an operator begins with the character. -/
def beginsOperator (c : Char) : Bool :=
  operatorChars.contains c

/-- Only a character of a symbol can begin an operator. -/
theorem reads?_binary_op_eq_none {rest : List Char} (h : Stops beginsOperator rest) :
    binaryOp.reads? rest = none := by
  cases rest with
  | nil => rfl
  | cons c rest =>
      have hc := h.of_cons
      simp [beginsOperator, operatorChars] at hc
      simp [binaryOp, operator, hc]

end Grammar

end TextTemplate
