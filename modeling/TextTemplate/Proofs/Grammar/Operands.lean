import TextTemplate.Proofs.Expr.Parsing

/-!
# What operands are read as

The grammar of operands tries a range before everything else, and reads the first bound of one
wherever a number, a capture, a name or a parenthesis stands. The equations here say for each
beginning which alternative succeeds in the end, for any way `inner` of reading what is nested.
Phrases hold the places of their literals, so that a reading is stated by the tree of its phrase.
-/

namespace TextTemplate.Grammar

open TextTemplate.Grammar.Parser TextTemplate.Number

/-- From the characters the parser reads a phrase with the tree, and leaves the rest. -/
def Parser.Yields (p : Parser Phrase) (cs : List Char) (expr : Expr) (rest : List Char) : Prop :=
  ∃ phrase, p.reads? cs = some (phrase, rest) ∧ phrase.toExpr = .ok expr

/-- From the characters the parser reads phrases with the trees, and leaves the rest. -/
def Parser.YieldsAll (p : Parser (List Phrase)) (cs : List Char) (exprs : List Expr)
    (rest : List Char) : Prop :=
  ∃ phrases, p.reads? cs = some (phrases, rest) ∧ Phrase.allToExpr phrases = .ok exprs

variable {inner : Parser Phrase} {cs rest : List Char} {expr : Expr}

/-- Behind the blanks that come next there are no two points, so that no range goes on. -/
def NoDots (rest : List Char) : Prop :=
  (chars ['.', '.']).reads? (rest.dropWhile isBlank) = none

/-- Something else behind the blanks leaves no room for the points. -/
theorem no_dots_of_stops {after : List Char} (hrest : rest.dropWhile isBlank = after)
    (h : Stops (· == '.') after) : NoDots rest := by
  rw [NoDots, hrest, reads?_chars_cons, reads?_char_eq_none h, Option.bind_none]

/-! ## What cannot be read -/

/-- Only a name can begin a function call. -/
theorem reads?_function_call_eq_none (h : Stops beginsName cs) :
    (functionCall inner).reads? cs = none := by
  simp [functionCall, functionName, reads?_ident_eq_none h]

/-- A name without a parenthesis behind it is no function call. -/
theorem reads?_function_call_name {name : List Char} (h : isName name)
    (hrest : Stops continuesName rest) (hparen : Stops (· == '(') rest) :
    (functionCall inner).reads? (name ++ rest) = none := by
  simp [functionCall, functionName, callArguments, reads?_ident h hrest,
    reads?_char_eq_none hparen]

/-- Only a parenthesis can begin a group. -/
theorem reads?_grouped_eq_none (h : Stops (· == '(') cs) : (grouped inner).reads? cs = none := by
  simp [grouped, reads?_char_eq_none h]

/-- Only a bracket can begin a list. -/
theorem reads?_list_eq_none (h : Stops (· == '[') cs) : (list inner).reads? cs = none := by
  simp [list, reads?_char_eq_none h]

/-- Only an ampersand can begin a lambda. -/
theorem reads?_lambda_eq_none (h : Stops (· == '&') cs) : (lambda inner).reads? cs = none := by
  simp [lambda, reads?_char_eq_none h]

/-- Whether a literal can begin with the character. -/
def beginsLiteral (c : Char) : Bool :=
  c == '"' || continuesNumber c || beginsName c

/-- Where none of its kinds begins there is no literal. -/
theorem reads?_literal_eq_none (h : Stops beginsLiteral cs) : literal.reads? cs = none := by
  have hquote : Stops (· == '"') cs := h.mono fun c hc => by simp [beginsLiteral, beq_iff_eq.mp hc]
  have hnumber : Stops continuesNumber cs := h.mono fun c hc => by simp [beginsLiteral, hc]
  have hname : Stops beginsName cs := h.mono fun c hc => by simp [beginsLiteral, hc]
  simp [literal, scalar, reads?_string_eq_none hquote, reads?_timestamp_eq_none hnumber.digit,
    reads?_decimal_eq_none hnumber, reads?_integer_eq_none hnumber, reads?_boolean_eq_none hname]

/-- A name that is no word for a truth value is no literal. -/
theorem reads?_literal_name {name : List Char} (h : isName name) (hword : isTruthWord name = false)
    (hrest : Stops continuesName rest) : literal.reads? (name ++ rest) = none := by
  have hquote : Stops (· == '"') (name ++ rest) := .of_name_char h rfl rest
  have hnumber : Stops continuesNumber (name ++ rest) :=
    .of_name h (fun _ => not_continues_number_of_begins_name) rest
  simp [literal, scalar, reads?_string_eq_none hquote, reads?_timestamp_eq_none hnumber.digit,
    reads?_decimal_eq_none hnumber, reads?_integer_eq_none hnumber,
    reads?_boolean_name h hword hrest]

/-! ## Alternatives of an operand -/

/-- A shared parser reads what it would read alone. -/
theorem reads?_primary (inner : Parser Phrase) (cs : List Char) :
    (primary inner).reads? cs =
      (oneOf [range inner (functionCall inner) (grouped inner), capture, lambda inner, list inner,
        grouped inner, literal, functionCall inner, atom]).reads? cs :=
  rfl

/-- A bound that no two points follow is no range. -/
theorem reads?_range_of_bound {start : Phrase}
    (hbound : (bound (functionCall inner) (grouped inner)).reads? cs = some (start, rest))
    (hdots : NoDots rest) :
    (range inner (functionCall inner) (grouped inner)).reads? cs = none := by
  rw [NoDots] at hdots
  simp only [range, reads?_rule, reads?_bind, hbound, Option.bind_some, reads?_blanks, hdots,
    Option.bind_none]

/-- A range begins with a number, a name, an ampersand or a parenthesis. -/
theorem reads?_range_of_stops (hnumber : Stops continuesNumber cs) (hname : Stops beginsName cs)
    (hampersand : Stops (· == '&') cs) (hparen : Stops (· == '(') cs) :
    (range inner (functionCall inner) (grouped inner)).reads? cs = none := by
  simp [range, bound, reads?_integer_eq_none hnumber, reads?_capture_eq_none hampersand,
    reads?_function_call_eq_none hname, reads?_atom_eq_none hname, reads?_grouped_eq_none hparen]

/-! ## Operands by their beginning -/

/-- At a name that begins no range an operand is a literal, a function call or a variable. -/
theorem reads?_primary_name {name : List Char} (h : isName name)
    (hrange : (range inner (functionCall inner) (grouped inner)).reads? (name ++ rest) = none) :
    (primary inner).reads? (name ++ rest) =
      (oneOf [literal, functionCall inner, atom]).reads? (name ++ rest) := by
  have hampersand : Stops (· == '&') (name ++ rest) := .of_name_char h rfl rest
  have hbracket : Stops (· == '[') (name ++ rest) := .of_name_char h rfl rest
  have hparen : Stops (· == '(') (name ++ rest) := .of_name_char h rfl rest
  simp [reads?_primary, hrange, reads?_capture_eq_none hampersand,
    reads?_lambda_eq_none hampersand, reads?_list_eq_none hbracket, reads?_grouped_eq_none hparen]

/-- At a name a bound is a function call or a variable. -/
theorem reads?_bound_name {name : List Char} (h : isName name) :
    (bound (functionCall inner) (grouped inner)).reads? (name ++ rest) =
      (oneOf [functionCall inner, atom]).reads? (name ++ rest) := by
  have hnumber : Stops continuesNumber (name ++ rest) :=
    .of_name h (fun _ => not_continues_number_of_begins_name) rest
  have hampersand : Stops (· == '&') (name ++ rest) := .of_name_char h rfl rest
  have hparen : Stops (· == '(') (name ++ rest) := .of_name_char h rfl rest
  simp [bound, reads?_integer_eq_none hnumber, reads?_capture_eq_none hampersand,
    reads?_grouped_eq_none hparen]

/-- A name alone is read as a variable. -/
theorem reads?_primary_atom {name : List Char} (h : isName name) (hword : isTruthWord name = false)
    (hrest : Stops continuesName rest) (hparen : Stops (· == '(') rest)
    (hdots : NoDots rest) :
    (primary inner).reads? (name ++ rest) = some (.atom name, rest) := by
  have hcall : (functionCall inner).reads? (name ++ rest) = none :=
    reads?_function_call_name h hrest hparen
  have hbound : (bound (functionCall inner) (grouped inner)).reads? (name ++ rest) =
      some (.atom name, rest) := by
    rw [reads?_bound_name h]
    simp [hcall, reads?_atom h hrest]
  rw [reads?_primary_name h (reads?_range_of_bound hbound hdots)]
  simp [hcall, reads?_literal_name h hword hrest, reads?_atom h hrest]

/-- A function call is read as one. -/
theorem yields_primary_call {name : List Char} {args : List Expr} (h : isName name)
    (hword : isTruthWord name = false)
    (hargs : (callArguments inner).YieldsAll ('(' :: cs) args rest)
    (hdots : NoDots rest) :
    (primary inner).Yields (name ++ '(' :: cs) (.function (String.ofList name) args) rest := by
  obtain ⟨phrases, hreads, hexprs⟩ := hargs
  have hparen : Stops continuesName ('(' :: cs) := .cons rfl cs
  have hcall : (functionCall inner).reads? (name ++ '(' :: cs) =
      some (.call name phrases, rest) := by
    simp [functionCall, functionName, reads?_ident h hparen, hreads]
  have hbound : (bound (functionCall inner) (grouped inner)).reads? (name ++ '(' :: cs) =
      some (.call name phrases, rest) := by
    rw [reads?_bound_name h]
    simp [hcall]
  refine ⟨.call name phrases, ?_, by rw [Phrase.toExpr, hexprs]; rfl⟩
  rw [reads?_primary_name h (reads?_range_of_bound hbound hdots)]
  simp [hcall, reads?_literal_name h hword hparen]

/-- The word for a truth value is read as a literal. -/
theorem yields_primary_bool (value : Bool) (hrest : Stops continuesName rest)
    (hparen : Stops (· == '(') rest)
    (hdots : NoDots rest) :
    (primary inner).Yields (truthWord value ++ rest) (.literal (.bool value)) rest := by
  have hname := is_name_truth_word value
  have hcall : (functionCall inner).reads? (truthWord value ++ rest) = none :=
    reads?_function_call_name hname hrest hparen
  -- As a bound the word would be a variable, so that only the missing points rule out a range.
  have hbound : (bound (functionCall inner) (grouped inner)).reads? (truthWord value ++ rest) =
      some (.atom (truthWord value), rest) := by
    rw [reads?_bound_name hname]
    simp [hcall, reads?_atom hname hrest]
  have hquote : Stops (· == '"') (truthWord value ++ rest) := .of_name_char hname rfl rest
  have hnumber : Stops continuesNumber (truthWord value ++ rest) :=
    .of_name hname (fun _ => not_continues_number_of_begins_name) rest
  refine ⟨.boolean value, ?_, rfl⟩
  rw [reads?_primary_name hname (reads?_range_of_bound hbound hdots)]
  simp [literal, scalar, reads?_string_eq_none hquote, reads?_timestamp_eq_none hnumber.digit,
    reads?_decimal_eq_none hnumber, reads?_integer_eq_none hnumber,
    reads?_boolean_truth_word value hrest]

/-- As a bound an integer is read up to where its digits end. -/
theorem reads?_bound_integer {text : List Char} (h : IsIntegerText text)
    (hrest : Stops Char.isDigit rest) :
    (bound (functionCall inner) (grouped inner)).reads? (text ++ rest) =
      some (.integer ⟨text, byteCount (text ++ rest), byteCount rest⟩, rest) := by
  simp [bound, reads?_integer h hrest]

/-- The digits of an integer are the literal of the integer. -/
theorem to_expr_integer (value : Int64) {lexeme : Lexeme}
    (h : lexeme.text = integerDigits value.toInt) :
    (Phrase.integer lexeme).toExpr = .ok (.literal (.int value)) := by
  rw [Phrase.toExpr, Lexeme.int64?, h, read_integer_integer_digits, int64?_to_int]
  rfl

/-- An integer is a bound of a range. -/
theorem yields_bound_int (value : Int64) (hrest : Stops Char.isDigit rest) :
    (bound (functionCall inner) (grouped inner)).Yields (integerDigits value.toInt ++ rest)
      (.literal (.int value)) rest := by
  refine ⟨_, reads?_bound_integer (is_integer_text_integer_digits _) hrest, ?_⟩
  exact to_expr_integer value rfl

/-- An integer is read as a literal. -/
theorem yields_primary_int (value : Int64) (hrest : Stops continuesNumber rest)
    (hdots : NoDots rest) :
    (primary inner).Yields (integerDigits value.toInt ++ rest) (.literal (.int value)) rest := by
  have hinteger := is_integer_text_integer_digits value.toInt
  have hchar : ∀ d, continuesNumber d = false →
      Stops (· == d) (integerDigits value.toInt ++ rest) :=
    fun d hd => .of_integer_digits_char hd value.toInt rest
  let lexeme : Lexeme := ⟨integerDigits value.toInt,
    byteCount (integerDigits value.toInt ++ rest), byteCount rest⟩
  refine ⟨.integer lexeme, ?_, to_expr_integer value rfl⟩
  -- Timestamps and decimals are tried first, and begin with the same digits.
  simp [reads?_primary, reads?_range_of_bound (reads?_bound_integer hinteger hrest.digit) hdots,
    reads?_capture_eq_none (hchar '&' rfl), reads?_lambda_eq_none (hchar '&' rfl),
    reads?_list_eq_none (hchar '[' rfl), reads?_grouped_eq_none (hchar '(' rfl), literal, scalar,
    reads?_string_eq_none (hchar '"' rfl), reads?_timestamp_integer_text hinteger hrest,
    reads?_decimal_integer_text hinteger hrest, reads?_integer hinteger hrest.digit, lexeme]

/-- A string in quotes is read as a literal. -/
theorem yields_primary_string {write : Char → List Char} {text : List Char}
    (h : ∀ c ∈ text, StandsFor (write c) c) (rest : List Char) :
    (primary inner).Yields ('"' :: text.flatMap write ++ '"' :: rest)
      (.literal (.str (String.ofList text))) rest := by
  have hreads := reads?_string h rest
  rw [List.cons_append] at hreads ⊢
  generalize text.flatMap write ++ '"' :: rest = cs at hreads ⊢
  have hrange : (range inner (functionCall inner) (grouped inner)).reads? ('"' :: cs) = none :=
    reads?_range_of_stops (.cons rfl cs) (.cons rfl cs) (.cons rfl cs) (.cons rfl cs)
  have hampersand : Stops (· == '&') ('"' :: cs) := .cons rfl cs
  have hbracket : Stops (· == '[') ('"' :: cs) := .cons rfl cs
  have hparen : Stops (· == '(') ('"' :: cs) := .cons rfl cs
  refine ⟨.string text, ?_, rfl⟩
  simp [reads?_primary, hrange, reads?_capture_eq_none hampersand,
    reads?_lambda_eq_none hampersand, reads?_list_eq_none hbracket, reads?_grouped_eq_none hparen,
    literal, hreads]

/-- A capture is read as one. -/
theorem yields_primary_capture (index : UInt64) (hrest : Stops Char.isDigit rest)
    (hdots : NoDots rest) :
    (primary inner).Yields ('&' :: decimalDigits index.toNat ++ rest) (.capture index) rest := by
  obtain ⟨lexeme, htext, hreads⟩ := reads?_capture index.toNat hrest
  rw [List.cons_append] at hreads ⊢
  have hnumber : Stops continuesNumber ('&' :: (decimalDigits index.toNat ++ rest)) := .cons rfl _
  have hbound : (bound (functionCall inner) (grouped inner)).reads?
      ('&' :: (decimalDigits index.toNat ++ rest)) = some (.capture lexeme, rest) := by
    simp [bound, reads?_integer_eq_none hnumber, hreads]
  refine ⟨.capture lexeme, ?_, ?_⟩
  · simp [reads?_primary, reads?_range_of_bound hbound hdots, hreads]
  · rw [Phrase.toExpr, Lexeme.uint64?, htext, of_digits_decimal_digits, uint64?_to_nat]
    rfl

/-- An ampersand before a group begins a lambda. -/
theorem yields_primary_lambda (h : (grouped inner).Yields ('(' :: cs) expr rest) :
    (primary inner).Yields ('&' :: '(' :: cs) (.lambda [expr]) rest := by
  obtain ⟨phrase, hreads, hexpr⟩ := h
  have hnumber : Stops continuesNumber ('&' :: '(' :: cs) := .cons rfl _
  have hname : Stops beginsName ('&' :: '(' :: cs) := .cons rfl _
  have hparen : Stops (· == '(') ('&' :: '(' :: cs) := .cons rfl _
  have hcapture : capture.reads? ('&' :: '(' :: cs) = none :=
    reads?_capture_ampersand (.cons rfl cs)
  have hrange :
      (range inner (functionCall inner) (grouped inner)).reads? ('&' :: '(' :: cs) = none := by
    simp [range, bound, reads?_integer_eq_none hnumber, hcapture,
      reads?_function_call_eq_none hname, reads?_atom_eq_none hname, reads?_grouped_eq_none hparen]
  refine ⟨.lambda phrase, ?_, by rw [Phrase.toExpr, hexpr]; rfl⟩
  simp [reads?_primary, hrange, hcapture, lambda, hreads]

/-- A bracket begins a list. -/
theorem yields_primary_list (h : (list inner).Yields ('[' :: cs) expr rest) :
    (primary inner).Yields ('[' :: cs) expr rest := by
  obtain ⟨phrase, hreads, hexpr⟩ := h
  have hrange : (range inner (functionCall inner) (grouped inner)).reads? ('[' :: cs) = none :=
    reads?_range_of_stops (.cons rfl cs) (.cons rfl cs) (.cons rfl cs) (.cons rfl cs)
  have hampersand : Stops (· == '&') ('[' :: cs) := .cons rfl cs
  refine ⟨phrase, ?_, hexpr⟩
  simp [reads?_primary, hrange, reads?_capture_eq_none hampersand,
    reads?_lambda_eq_none hampersand, hreads]

/-- At a parenthesis a bound is a group. -/
theorem reads?_bound_paren {call : Parser Phrase} (hcall : call.reads? ('(' :: cs) = none) :
    (bound call (grouped inner)).reads? ('(' :: cs) = (grouped inner).reads? ('(' :: cs) := by
  have hnumber : Stops continuesNumber ('(' :: cs) := .cons rfl cs
  have hname : Stops beginsName ('(' :: cs) := .cons rfl cs
  have hampersand : Stops (· == '&') ('(' :: cs) := .cons rfl cs
  simp [bound, reads?_integer_eq_none hnumber, reads?_capture_eq_none hampersand, hcall,
    reads?_atom_eq_none hname]

/-- A group that no two points follow is read as itself. -/
theorem reads?_primary_group {phrase : Phrase}
    (h : (grouped inner).reads? ('(' :: cs) = some (phrase, rest)) (hdots : NoDots rest) :
    (primary inner).reads? ('(' :: cs) = some (phrase, rest) := by
  have hname : Stops beginsName ('(' :: cs) := .cons rfl cs
  have hampersand : Stops (· == '&') ('(' :: cs) := .cons rfl cs
  have hbracket : Stops (· == '[') ('(' :: cs) := .cons rfl cs
  have hbound : (bound (functionCall inner) (grouped inner)).reads? ('(' :: cs) =
      some (phrase, rest) := by
    rw [reads?_bound_paren (reads?_function_call_eq_none hname), h]
  simp [reads?_primary, reads?_range_of_bound hbound hdots, reads?_capture_eq_none hampersand,
    reads?_lambda_eq_none hampersand, reads?_list_eq_none hbracket, h]

theorem yields_primary_group (h : (grouped inner).Yields ('(' :: cs) expr rest)
    (hdots : NoDots rest) : (primary inner).Yields ('(' :: cs) expr rest := by
  obtain ⟨phrase, hreads, hexpr⟩ := h
  exact ⟨phrase, reads?_primary_group hreads hdots, hexpr⟩

/-- Where no alternative begins there is no operand. -/
theorem reads?_primary_eq_none (hliteral : Stops beginsLiteral cs)
    (hampersand : Stops (· == '&') cs) (hparen : Stops (· == '(') cs)
    (hbracket : Stops (· == '[') cs) : (primary inner).reads? cs = none := by
  have hnumber : Stops continuesNumber cs := hliteral.mono fun c hc => by simp [beginsLiteral, hc]
  have hname : Stops beginsName cs := hliteral.mono fun c hc => by simp [beginsLiteral, hc]
  simp [reads?_primary, reads?_range_of_stops hnumber hname hampersand hparen,
    reads?_capture_eq_none hampersand, reads?_lambda_eq_none hampersand,
    reads?_list_eq_none hbracket, reads?_grouped_eq_none hparen, reads?_literal_eq_none hliteral,
    reads?_function_call_eq_none hname, reads?_atom_eq_none hname]

/-! ## Operands and expressions -/

/-- Whether something that follows an operand can begin with the character. -/
def beginsSuffix (c : Char) : Bool :=
  c == '.' || c == '['

/-- Only a point or a bracket goes on with an operand. -/
theorem reads?_suffix_eq_none (h : Stops beginsSuffix cs) : (suffix inner).reads? cs = none := by
  have hpoint : Stops (· == '.') cs :=
    h.mono fun c hc => by simp [beginsSuffix, beq_iff_eq.mp hc]
  have hbracket : Stops (· == '[') cs :=
    h.mono fun c hc => by simp [beginsSuffix, beq_iff_eq.mp hc]
  simp [suffix, property, index, reads?_char_eq_none hpoint, reads?_char_eq_none hbracket]

/-- An operand that nothing belongs to takes the blanks behind it. -/
theorem reads?_operand {phrase : Phrase} {after : List Char}
    (h : (primary inner).reads? cs = some (phrase, after))
    (hafter : after.dropWhile isBlank = rest) (hrest : Stops beginsSuffix rest) :
    (operand inner).reads? cs = some (phrase, rest) := by
  simp [operand, h, hafter, reads?_many_spaced_nil (reads?_suffix_eq_none hrest)]

theorem yields_operand {after : List Char} (h : (primary inner).Yields cs expr after)
    (hafter : after.dropWhile isBlank = rest) (hrest : Stops beginsSuffix rest) :
    (operand inner).Yields cs expr rest := by
  obtain ⟨phrase, hreads, hexpr⟩ := h
  exact ⟨phrase, reads?_operand hreads hafter hrest, hexpr⟩

/-- An operand with one thing behind it leaves the blanks that follow. -/
theorem yields_operand_suffix {subject attached : Expr} {read : Suffix} {after more : List Char}
    (h : (primary inner).Yields cs subject after) (hafter : Stops isBlank after)
    (hsuffix : (suffix inner).reads? after = some (read, rest))
    (hexpr : ∀ phrase, phrase.toExpr = .ok subject →
      (read.attach phrase).toExpr = .ok attached)
    (hrest : rest.dropWhile isBlank = more) (hmore : Stops beginsSuffix more) :
    (operand inner).Yields cs attached rest := by
  obtain ⟨phrase, hreads, hsubject⟩ := h
  have hstop : ReadsMany (andThen blanks fun _ => suffix inner) rest [] rest :=
    .blanks_stop hrest (reads?_suffix_eq_none hmore)
  refine ⟨read.attach phrase, ?_, hexpr phrase hsubject⟩
  simp [operand, hreads, hafter.drop_while, reads?_many_spaced_cons hsuffix hstop]

/-- The property of a phrase is read from its name. -/
theorem reads?_suffix_property {key : List Char} (h : isName key)
    (hrest : Stops continuesName rest) :
    (suffix inner).reads? ('.' :: key ++ rest) = some (.property key, rest) := by
  simp [suffix, property, propertyName, reads?_ident h hrest]

/-- Only an operator begins an operation. -/
theorem reads?_operation_eq_none (h : Stops beginsOperator cs) :
    (operation inner).reads? cs = none := by
  simp [operation, reads?_binary_op_eq_none h]

/-- An operator is read with the operand behind it. -/
theorem reads?_operation {op : BinaryOp} {spelling behind more : List Char} {right : Phrase}
    (hspelling : spelling ∈ op.spellings) (hbehind : Stops continuesOperator behind)
    (hmore : behind.dropWhile isBlank = more)
    (hright : (operand inner).reads? more = some (right, rest)) :
    (operation inner).reads? (spelling ++ behind) = some ((op, right), rest) := by
  simp [operation, reads?_binary_op hspelling hbehind, hmore, hright]

/-- An operand alone is an expression. -/
theorem reads?_expression_over {phrase : Phrase} {after : List Char}
    (h : (operand inner).reads? cs = some (phrase, after))
    (hafter : after.dropWhile isBlank = rest) (hrest : Stops beginsOperator rest) :
    (expressionOver inner).reads? cs = some (.chain phrase [], rest) := by
  simp [expressionOver, h, hafter, reads?_many_spaced_nil (reads?_operation_eq_none hrest)]

theorem yields_expression_over {after : List Char} (h : (operand inner).Yields cs expr after)
    (hafter : after.dropWhile isBlank = rest) (hrest : Stops beginsOperator rest) :
    (expressionOver inner).Yields cs expr rest := by
  obtain ⟨phrase, hreads, hexpr⟩ := h
  exact ⟨.chain phrase [], reads?_expression_over hreads hafter hrest,
    by rw [Phrase.toExpr, hexpr]; rfl⟩

/-- What closes or separates expressions. -/
def closingChars : List Char :=
  [')', ']', ',']

/-- Nothing that ends an expression begins one. -/
theorem reads?_expression_within_eq_none {closing : Char} (h : closing ∈ closingChars)
    (depth : Nat) (cs : List Char) : (expressionWithin depth).reads? (closing :: cs) = none := by
  cases depth with
  | zero => rfl
  | succ depth =>
      have hstops : ∀ p : Char → Bool, closingChars.all (!p ·) → Stops p (closing :: cs) :=
        fun p hp => .cons (not_of_mem hp h) cs
      have hprimary : (primary (expressionWithin depth)).reads? (closing :: cs) = none :=
        reads?_primary_eq_none (hstops _ rfl) (hstops _ rfl) (hstops _ rfl) (hstops _ rfl)
      change (expressionOver (expressionWithin depth)).reads? (closing :: cs) = none
      simp [expressionOver, operand, hprimary]

/-! ## Whole sources -/

/-- A parser that reads something of the source gives its value. -/
theorem run_eq_ok {α : Type} {p : Parser α} {cs rest : List Char} {value : α}
    (h : p.reads? cs = some (value, rest)) : p.run (String.ofList cs) = .ok value := by
  obtain ⟨⟨value', after⟩, hafter, heq⟩ := Option.map_eq_some_iff.mp h
  obtain ⟨rfl, -⟩ := Prod.mk.inj heq
  rw [Parser.run, String.toList_ofList]
  cases hreply : p (.ofChars cs) with
  | mk outcome attempts =>
      rw [hreply] at hafter
      cases hafter
      rfl

/-- The levels of nesting of an expression are bounded by the bytes of the source. -/
theorem reads?_expression (cs : List Char) :
    expression.reads? cs = (expressionWithin (byteCount cs + 1)).reads? cs := by
  rw [reads?, reads?, expression, bytes_left_of_chars]

/-- A source that an expression takes as a whole is parsed to its tree. -/
theorem parse_eq_ok (hblank : cs.dropWhile isBlank = cs)
    (h : (expressionWithin (byteCount cs + 1)).Yields cs expr []) :
    Expr.parse (String.ofList cs) = .ok expr := by
  obtain ⟨phrase, hreads, hexpr⟩ := h
  have hwhole : wholeExpression.reads? cs = some (phrase, []) := by
    rw [← reads?_expression] at hreads
    simp only [wholeExpression, theEnd, hblank, hreads, reads?_rule, reads?_bind, reads?_blanks,
      Option.bind_some, reads?_end_of_input, reads?_pure, List.dropWhile_nil, List.isEmpty_nil,
      if_true]
  have hread : phrase.read (String.ofList cs) = .ok expr := by rw [Phrase.read, hexpr]
  rw [Expr.parse_eq, run_eq_ok hwhole, ← hread]
  rfl

end TextTemplate.Grammar
