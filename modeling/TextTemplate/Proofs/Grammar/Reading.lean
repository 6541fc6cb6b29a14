import TextTemplate.Grammar.Parser

/-!
# What parsers read

`Parser.reads? p cs` is the outcome of a parser on characters: its value and the characters that it
leaves. A cursor is determined by its characters, and no outcome depends on the attempts, so that
each combinator has an equation in terms of `reads?`; with these nothing needs to be unfolded.
-/

namespace TextTemplate.Grammar

/-- A cursor is determined by the characters still to be read. -/
theorem cursor_eq_of_chars (c : Cursor) : c = .ofChars c.rest := by
  obtain ⟨rest, bytesLeft, agrees⟩ := c
  subst agrees
  rfl

@[simp] theorem rest_of_chars (cs : List Char) : (Cursor.ofChars cs).rest = cs :=
  rfl

@[simp] theorem bytes_left_of_chars (cs : List Char) :
    (Cursor.ofChars cs).bytesLeft = byteCount cs :=
  rfl

/-- Skipping from a place leads behind the leading characters with the property. -/
theorem rest_skip_from (p : Char → Bool) (cs : List Char) (bytesLeft : Nat)
    (agrees : bytesLeft = byteCount cs) :
    (Cursor.skipFrom p cs bytesLeft agrees).rest = cs.dropWhile p := by
  induction cs generalizing bytesLeft with
  | nil => rfl
  | cons c cs ih =>
      rw [Cursor.skipFrom, List.dropWhile_cons]
      split
      · exact ih _ _
      · rfl

@[simp] theorem rest_drop_while (p : Char → Bool) (c : Cursor) :
    (c.dropWhile p).rest = c.rest.dropWhile p :=
  rest_skip_from p c.rest c.bytesLeft c.agrees

/-- The bytes of two stretches add up. -/
@[simp] theorem byte_count_append (first second : List Char) :
    byteCount (first ++ second) = byteCount first + byteCount second := by
  induction first with
  | nil => simp [byteCount]
  | cons c first ih => rw [List.cons_append, byteCount, byteCount, ih, Nat.add_assoc]

/-- Each character takes a byte at least. -/
theorem length_le_byte_count (cs : List Char) : cs.length ≤ byteCount cs := by
  induction cs with
  | nil => exact Nat.le_refl _
  | cons c cs ih =>
      have hone : 0 < c.utf8Size := c.utf8Size_pos
      rw [List.length_cons, byteCount]
      omega

/-- The bytes of a stretch are those of its characters. -/
theorem take_bytes_append (first second : List Char) :
    takeBytes (byteCount first) (first ++ second) = first := by
  induction first with
  | nil => exact takeBytes.eq_1 _
  | cons c first ih =>
      have hone : 0 < c.utf8Size := c.utf8Size_pos
      obtain ⟨size, hsize⟩ : ∃ size, byteCount (c :: first) = size + 1 :=
        ⟨byteCount (c :: first) - 1, by rw [byteCount]; omega⟩
      have hrest : size + 1 - c.utf8Size = byteCount first := by
        rw [← hsize, byteCount]
        omega
      rw [hsize, List.cons_append, takeBytes, hrest, ih]

namespace Parser

variable {α β : Type}

/-- The value that the parser reads from the characters, with the characters that it leaves. -/
def reads? (p : Parser α) (cs : List Char) : Option (α × List Char) :=
  (p (.ofChars cs)).outcome.map fun (value, after) => (value, after.rest)

@[simp] theorem reads?_succeed (value : α) (cs : List Char) :
    (succeed value).reads? cs = some (value, cs) :=
  rfl

@[simp] theorem reads?_pure (value : α) (cs : List Char) :
    (pure value : Parser α).reads? cs = some (value, cs) :=
  rfl

@[simp] theorem reads?_fail (cs : List Char) : (fail : Parser α).reads? cs = none :=
  rfl

@[simp] theorem reads?_bind (p : Parser α) (next : α → Parser β) (cs : List Char) :
    (p >>= next).reads? cs = (p.reads? cs).bind fun (value, rest) => (next value).reads? rest := by
  change ((andThen p next) (.ofChars cs)).outcome.map _ = _
  rw [andThen, reads?]
  split
  · next attempts heq =>
      rw [heq]
      rfl
  · next value after attempts heq =>
      rw [heq, cursor_eq_of_chars after]
      rfl

@[simp] theorem reads?_and_then (p : Parser α) (next : α → Parser β) (cs : List Char) :
    (andThen p next).reads? cs =
      (p.reads? cs).bind fun (value, rest) => (next value).reads? rest :=
  reads?_bind p next cs

@[simp] theorem reads?_or_else (p q : Parser α) (cs : List Char) :
    (orElse p q).reads? cs = (p.reads? cs).or (q.reads? cs) := by
  rw [reads?, reads?, orElse]
  split
  · next result attempts heq =>
      rw [heq]
      rfl
  · next attempts heq =>
      rw [heq]
      rfl

@[simp] theorem reads?_one_of_nil (cs : List Char) : (oneOf [] : Parser α).reads? cs = none :=
  rfl

@[simp] theorem reads?_one_of_cons (p : Parser α) (parsers : List (Parser α)) (cs : List Char) :
    (oneOf (p :: parsers)).reads? cs = (p.reads? cs).or ((oneOf parsers).reads? cs) := by
  rw [← reads?_or_else]
  rfl

@[simp] theorem reads?_optional (p : Parser α) (cs : List Char) :
    (optional p).reads? cs =
      some (((p.reads? cs).map fun (value, rest) => (some value, rest)).getD (none, cs)) := by
  rw [optional, reads?_or_else, reads?_and_then]
  cases p.reads? cs <;> rfl

@[simp] theorem reads?_rule (goal : Goal) (p : Parser α) (cs : List Char) :
    (rule goal p).reads? cs = p.reads? cs := by
  rw [reads?, reads?, rule]
  split
  · next result attempts heq => rw [heq]
  · next attempts heq => rw [heq]

theorem reads?_absent (p : Parser α) (cs : List Char) :
    (absent p).reads? cs = if (p.reads? cs).isSome then none else some ((), cs) := by
  rw [reads?, reads?, absent]
  split
  · next result attempts heq =>
      rw [heq]
      rfl
  · next attempts heq =>
      rw [heq]
      rfl

@[simp] theorem reads?_satisfy_nil (p : Char → Bool) : (satisfy p).reads? [] = none :=
  rfl

@[simp] theorem reads?_satisfy_cons (p : Char → Bool) (c : Char) (cs : List Char) :
    (satisfy p).reads? (c :: cs) = if p c then some (c, cs) else none := by
  rw [reads?, satisfy]
  simp only [Cursor.ofChars, Cursor.next?]
  split <;> rfl

@[simp] theorem reads?_char_nil (expected : Char) : (char expected).reads? [] = none :=
  rfl

@[simp] theorem reads?_char_cons (expected c : Char) (cs : List Char) :
    (char expected).reads? (c :: cs) = if c = expected then some (c, cs) else none := by
  simp [char]

@[simp] theorem reads?_chars_nil (cs : List Char) : (chars []).reads? cs = some ((), cs) :=
  rfl

@[simp] theorem reads?_chars_cons (expected : Char) (more cs : List Char) :
    (chars (expected :: more)).reads? cs =
      ((char expected).reads? cs).bind fun (_, rest) => (chars more).reads? rest := by
  rw [chars, reads?_and_then]

@[simp] theorem reads?_take_while (p : Char → Bool) (cs : List Char) :
    (takeWhile p).reads? cs = some (cs.takeWhile p, cs.dropWhile p) := by
  simp only [reads?, takeWhile, Option.map_some, rest_drop_while, rest_of_chars]

@[simp] theorem reads?_take_while1_nil (p : Char → Bool) : (takeWhile1 p).reads? [] = none :=
  rfl

@[simp] theorem reads?_take_while1_cons (p : Char → Bool) (c : Char) (cs : List Char) :
    (takeWhile1 p).reads? (c :: cs) =
      if p c then some (c :: cs.takeWhile p, cs.dropWhile p) else none := by
  rw [takeWhile1, reads?_and_then, reads?_satisfy_cons]
  split
  · simp
  · rfl

@[simp] theorem reads?_end_of_input (cs : List Char) :
    endOfInput.reads? cs = if cs.isEmpty then some ((), cs) else none := by
  rw [reads?, endOfInput, rest_of_chars]
  split <;> rfl

@[simp] theorem reads?_blanks (cs : List Char) :
    blanks.reads? cs = some ((), cs.dropWhile isBlank) := by
  rw [blanks, reads?_and_then, reads?_take_while]
  rfl

/-- Exactly as many digits as are there can be read, or fewer. -/
theorem reads?_exactly {p : Char → Bool} {first : List Char} (h : ∀ c ∈ first, p c)
    (rest : List Char) : (exactly first.length p).reads? (first ++ rest) = some ((), rest) := by
  induction first with
  | nil => rfl
  | cons c first ih =>
      rw [List.length_cons, exactly, reads?_and_then, List.cons_append, reads?_satisfy_cons,
        if_pos (h c List.mem_cons_self)]
      exact ih fun d hd => h d (List.mem_cons_of_mem _ hd)

/-- Reads with `p` and keeps the stretch that it reads. -/
def lexeme (p : Parser α) : Parser Lexeme := fun c =>
  match p c with
  | ⟨some (_, after), attempts⟩ =>
    ⟨some (⟨takeBytes (c.bytesLeft - after.bytesLeft) c.rest, c.bytesLeft, after.bytesLeft⟩, after),
      attempts⟩
  | ⟨none, attempts⟩ => ⟨none, attempts⟩

/-- A lexeme has the text that is read, and knows where it begins and ends. -/
theorem reads?_lexeme {p : Parser α} {first rest : List Char} {value : α}
    (h : p.reads? (first ++ rest) = some (value, rest)) :
    (lexeme p).reads? (first ++ rest) =
      some (⟨first, byteCount (first ++ rest), byteCount rest⟩, rest) := by
  rw [reads?] at h
  obtain ⟨⟨value', after⟩, hafter, heq⟩ := Option.map_eq_some_iff.mp h
  obtain ⟨rfl, rfl⟩ := Prod.mk.inj heq
  rw [reads?, lexeme]
  cases hreply : p (.ofChars (first ++ after.rest)) with
  | mk outcome attempts =>
      rw [hreply] at hafter
      cases hafter
      simp only [bytes_left_of_chars, after.agrees, byte_count_append, Nat.add_sub_cancel,
        rest_of_chars, take_bytes_append, Option.map_some]

/-- A parser that fails leaves a lexeme to fail. -/
theorem reads?_lexeme_eq_none {p : Parser α} {cs : List Char} (h : p.reads? cs = none) :
    (lexeme p).reads? cs = none := by
  rw [reads?, Option.map_eq_none_iff] at h
  rw [reads?, lexeme]
  cases hreply : p (.ofChars cs) with
  | mk outcome attempts =>
      rw [hreply] at h
      cases h
      rfl

/-- Reading with `p` again and again gives the values; what is left makes `p` fail. -/
inductive ReadsMany (p : Parser α) : List Char → List α → List Char → Prop where
  | stop {cs : List Char} (h : p.reads? cs = none) : ReadsMany p cs [] cs
  | step {cs rest last : List Char} {value : α} {values : List α}
      (h : p.reads? cs = some (value, rest)) (hless : rest.length < cs.length)
      (hmore : ReadsMany p rest values last) : ReadsMany p cs (value :: values) last

/-- A limit above the number of characters is never reached. -/
theorem reads?_many_up_to {p : Parser α} {cs last : List Char} {values : List α}
    (h : ReadsMany p cs values last) {limit : Nat} (hlimit : cs.length < limit) :
    (manyUpTo p limit).reads? cs = some (values, last) := by
  induction h generalizing limit with
  | stop h =>
      obtain ⟨limit, rfl⟩ : ∃ more, limit = more + 1 := ⟨limit - 1, by omega⟩
      simp [manyUpTo, h]
  | step h hless hmore ih =>
      obtain ⟨limit, rfl⟩ : ∃ more, limit = more + 1 := ⟨limit - 1, by omega⟩
      simp [manyUpTo, h, ih (show _ < limit by omega)]

/-- Reading as often as possible reads what can be read again and again. -/
theorem reads?_many {p : Parser α} {cs last : List Char} {values : List α}
    (h : ReadsMany p cs values last) : (many p).reads? cs = some (values, last) :=
  reads?_many_up_to h (Nat.lt_succ_of_le (length_le_byte_count cs))

/-- Nothing is read where the first of several things cannot be read. -/
theorem reads?_many_spaced_nil {p : Parser α} {cs : List Char} (h : p.reads? cs = none) :
    (manySpaced p).reads? cs = some ([], cs) := by
  simp [manySpaced, h]

/-- Several things with blanks between them are read one by one. -/
theorem reads?_many_spaced_cons {p : Parser α} {cs rest last : List Char} {value : α}
    {values : List α} (h : p.reads? cs = some (value, rest))
    (hmore : ReadsMany (andThen blanks fun _ => p) rest values last) :
    (manySpaced p).reads? cs = some (value :: values, last) := by
  simp [manySpaced, h, reads?_many hmore]

/-- Where no blanks come first, reading with blanks between is reading with blanks before. -/
theorem reads?_many_spaced {p : Parser α} {cs last : List Char} {values : List α}
    (h : ReadsMany (andThen blanks fun _ => p) cs values last)
    (hcs : cs.dropWhile isBlank = cs) : (manySpaced p).reads? cs = some (values, last) := by
  cases h with
  | stop h =>
      rw [reads?_and_then, reads?_blanks, Option.bind_some, hcs] at h
      exact reads?_many_spaced_nil h
  | step h hless hmore =>
      rw [reads?_and_then, reads?_blanks, Option.bind_some, hcs] at h
      exact reads?_many_spaced_cons h hmore

/-- Nothing more is read where something else follows the blanks. -/
theorem ReadsMany.blanks_stop {p : Parser α} {cs rest : List Char}
    (hrest : cs.dropWhile isBlank = rest) (h : p.reads? rest = none) :
    ReadsMany (andThen blanks fun _ => p) cs [] cs :=
  .stop (by simp [hrest, h])

/-- Blanks may stand before each further thing. -/
theorem ReadsMany.blanks_step {p : Parser α} {cs rest after last : List Char} {value : α}
    {values : List α} (hrest : cs.dropWhile isBlank = rest)
    (h : p.reads? rest = some (value, after)) (hless : after.length < rest.length)
    (hmore : ReadsMany (andThen blanks fun _ => p) after values last) :
    ReadsMany (andThen blanks fun _ => p) cs (value :: values) last := by
  have hread : (andThen blanks fun _ => p).reads? cs = some (value, after) := by
    simp [hrest, h]
  refine .step hread ?_ hmore
  have hdrop : (cs.dropWhile isBlank).length ≤ cs.length :=
    (List.dropWhile_sublist isBlank).length_le
  rw [hrest] at hdrop
  omega

end Parser

end TextTemplate.Grammar
