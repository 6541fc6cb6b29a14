import TextTemplate.Proofs.Grammar.Items

/-!
# The surface form of expression trees

Every tree that can be written down has a surface form: operands, subjects and bounds stand in
parentheses, and one run of blanks stands around operators, commas and the points and slashes of
ranges, and just inside every bracket. `parse_surface` says that the surface form is parsed back to
the tree.
-/

namespace TextTemplate

open TextTemplate.Grammar TextTemplate.Grammar.Parser TextTemplate.Number

/-! ## Trees and their surface form -/

/-- The trees that can be written down: integers, truth values, strings, and what is built of
them. -/
inductive Writable : Expr → Prop where
  | int (value : Int64) : Writable (.literal (.int value))
  | bool (value : Bool) : Writable (.literal (.bool value))
  | str (text : String) : Writable (.literal (.str text))
  | atom {name : String} (hname : IsVariable name) : Writable (.atom name)
  | property {subject : Expr} {key : String} (hsubject : Writable subject)
      (hkey : isName key.toList) : Writable (.property subject key)
  | access {subject index : Expr} (hsubject : Writable subject) (hindex : Writable index) :
      Writable (.access subject index)
  | function {name : String} {args : List Expr} (hname : IsVariable name)
      (hargs : ∀ arg ∈ args, Writable arg) : Writable (.function name args)
  | lambda {body : Expr} (hbody : Writable body) : Writable (.lambda [body])
  | capture (index : UInt64) : Writable (.capture index)
  | range {start stop : Expr} (hstart : Writable start) (hstop : Writable stop) :
      Writable (.range start stop none)
  | steppedRange {start stop step : Expr} (hstart : Writable start) (hstop : Writable stop)
      (hstep : Writable step) : Writable (.range start stop (some step))
  | list {items : List Expr} (hitems : ∀ item ∈ items, Writable item) : Writable (.list items)
  | binary (op : BinaryOp) {left right : Expr} (hleft : Writable left) (hright : Writable right) :
      Writable (.binary op left right)

/-- A symbol with blanks around it. -/
def spaced (ws symbol : List Char) : List Char :=
  ws ++ symbol ++ ws

mutual
/-- The surface form of a tree, with the given blanks. -/
def surface (ws : List Char) : Expr → List Char
  | .literal (.int value) => integerDigits value.toInt
  | .literal (.bool value) => truthWord value
  | .literal (.str text) => '"' :: escaped text.toList ++ ['"']
  | .atom name => name.toList
  | .property subject key => enclosed ws '(' (surface ws subject) ')' ++ '.' :: key.toList
  | .access subject index =>
    enclosed ws '(' (surface ws subject) ')' ++ enclosed ws '[' (surface ws index) ']'
  | .function name args => name.toList ++ enclosed ws '(' (surfaceAll ws args) ')'
  | .lambda [body] => '&' :: enclosed ws '(' (surface ws body) ')'
  | .capture index => '&' :: decimalDigits index.toNat
  | .range start stop step =>
    enclosed ws '(' (surface ws start) ')' ++ spaced ws ['.', '.'] ++
      enclosed ws '(' (surface ws stop) ')' ++ surfaceStep ws step
  | .list items => enclosed ws '[' (surfaceAll ws items) ']'
  | .binary op left right =>
    enclosed ws '(' (surface ws left) ')' ++ spaced ws op.symbol.toList ++
      enclosed ws '(' (surface ws right) ')'
  | _ => []

/-- The surface forms of trees with commas between them. -/
def surfaceAll (ws : List Char) : List Expr → List Char
  | [] => []
  | item :: items => surface ws item ++ surfaceMore ws items

/-- The surface forms of trees with a comma before each. -/
def surfaceMore (ws : List Char) : List Expr → List Char
  | [] => []
  | item :: items => spaced ws [','] ++ surface ws item ++ surfaceMore ws items

/-- The surface form of the step of a range, if it has one. -/
def surfaceStep (ws : List Char) : Option Expr → List Char
  | none => []
  | some step => spaced ws ['/', '/'] ++ enclosed ws '(' (surface ws step) ')'
end

variable {ws : List Char}

/-- No surface form begins with a blank. -/
theorem surface_begins {expr : Expr} (h : Writable expr) (rest : List Char) :
    Stops isBlank (surface ws expr ++ rest) := by
  have hname : ∀ c, beginsName c → isBlank c = false := fun c => is_blank_eq_false rfl
  cases h with
  | int value =>
      rw [surface]
      exact .of_integer_digits_blank _ rest
  | bool value =>
      rw [surface]
      exact .of_name (is_name_truth_word value) hname rest
  | atom h =>
      rw [surface]
      exact .of_name h.isName hname rest
  | function h hargs =>
      rw [surface, List.append_assoc]
      exact .of_name h.isName hname _
  | _ =>
      rw [surface]
      exact .cons rfl _

/-! ## Reading surface forms -/

/-- `inner` reads the surface form of the tree, wherever it ends, with the blanks behind it. -/
def Recognizes (ws : List Char) (inner : Parser Phrase) (expr : Expr) : Prop :=
  ∀ ⦃rest tail : List Char⦄, Ends rest tail → inner.Yields (surface ws expr ++ rest) expr tail

variable {inner : Parser Phrase} {rest tail : List Char} {expr : Expr}

/-- Between brackets a surface form is read up to the closing one. -/
theorem yields_grouped (hws : ∀ c ∈ ws, isBlank c) (hexpr : Writable expr)
    (h : Recognizes ws inner expr) (rest : List Char) :
    (grouped inner).Yields (enclosed ws '(' (surface ws expr) ')' ++ rest) expr rest := by
  have hends : Ends (ws ++ ')' :: rest) (')' :: rest) := .of_closing hws (by decide) rest
  obtain ⟨phrase, hreads, hphrase⟩ := h hends
  have hblank : Stops isBlank (')' :: rest) := .cons rfl rest
  refine ⟨phrase, ?_, hphrase⟩
  simp [grouped, enclosed, (surface_begins hexpr _).drop_while_append hws, hreads,
    hblank.drop_while]

/-- An index in brackets is read behind a subject. -/
theorem yields_operand_index (hws : ∀ c ∈ ws, isBlank c) {subject index : Expr} {cs : List Char}
    (hindex : Writable index) (h : Recognizes ws inner index) (hrest : Ends rest tail)
    (hsubject : (primary inner).Yields cs subject
      (enclosed ws '[' (surface ws index) ']' ++ rest)) :
    (operand inner).Yields cs (.access subject index) rest := by
  have hends : Ends (ws ++ ']' :: rest) (']' :: rest) := .of_closing hws (by decide) rest
  obtain ⟨phrase, hreads, hphrase⟩ := h hends
  have hblank : Stops isBlank (']' :: rest) := .cons rfl rest
  have hsuffix : (suffix inner).reads? (enclosed ws '[' (surface ws index) ']' ++ rest) =
      some (.access phrase, rest) := by
    simp [suffix, property, Grammar.index, enclosed,
      (surface_begins hindex _).drop_while_append hws, hreads, hblank.drop_while]
  refine yields_operand_suffix hsubject (.cons rfl _) hsuffix ?_ hrest.blanks
    (hrest.tail rfl)
  intro subject hexpr
  rw [Suffix.attach, Phrase.toExpr, hexpr, hphrase]
  rfl

/-- Surface forms that are read are items of a list. -/
theorem understands_surface {items : List Expr}
    (hitems : ∀ item ∈ items, Writable item ∧ Recognizes ws inner item) :
    List.Forall₂ (Understands inner) (items.map (surface ws)) items := by
  rw [List.forall₂_map_left_iff, List.forall₂_same]
  intro item hitem
  obtain ⟨hwritable, hrecognizes⟩ := hitems item hitem
  exact ⟨surface_begins hwritable, hrecognizes⟩

/-- The surface forms of trees are texts with commas between them. -/
theorem surface_all_eq (items : List Expr) :
    surfaceAll ws items = commaSeparated ws ws (items.map (surface ws)) := by
  have hmore : ∀ items : List Expr, surfaceMore ws items =
      (items.map (surface ws)).flatMap (behindComma ws ws) := by
    intro items
    induction items with
    | nil => rfl
    | cons item items ih => simp [surfaceMore, spaced, behindComma, ih]
  cases items with
  | nil => rfl
  | cons item items => rw [surfaceAll, hmore, List.map_cons, commaSeparated]

/-- Blanks before a parenthesis are read. -/
theorem drop_blanks_paren (hws : ∀ c ∈ ws, isBlank c) (text rest : List Char) :
    (ws ++ (enclosed ws '(' text ')' ++ rest)).dropWhile isBlank =
      enclosed ws '(' text ')' ++ rest :=
  Stops.drop_while_append (.cons rfl _) hws

/-- A bound in parentheses is read as what stands in them. -/
theorem yields_bound (hws : ∀ c ∈ ws, isBlank c) (hexpr : Writable expr)
    (h : Recognizes ws inner expr) (rest : List Char) :
    (bound (functionCall inner) (grouped inner)).Yields
      (enclosed ws '(' (surface ws expr) ')' ++ rest) expr rest := by
  obtain ⟨phrase, hreads, hphrase⟩ := yields_grouped hws hexpr h rest
  refine ⟨phrase, ?_, hphrase⟩
  rw [enclosed, List.cons_append] at hreads ⊢
  rw [reads?_bound_paren (reads?_function_call_eq_none (.cons rfl _)), hreads]

/-- A range is read from its two bounds on, whatever its step is. -/
theorem yields_surface_range_of_step (hws : ∀ c ∈ ws, isBlank c) {start stop : Expr}
    (hstart : Writable start ∧ Recognizes ws inner start)
    (hstop : Writable stop ∧ Recognizes ws inner stop) {step : Option Expr} {after : List Char}
    (hstep : YieldsStep inner (after.dropWhile isBlank) step rest) :
    (primary inner).Yields
      (enclosed ws '(' (surface ws start) ')' ++ spaced ws ['.', '.'] ++
        enclosed ws '(' (surface ws stop) ')' ++ after)
      (.range start stop step) rest := by
  let behind := ws ++ (enclosed ws '(' (surface ws stop) ')' ++ after)
  have hdots : (ws ++ '.' :: '.' :: behind).dropWhile isBlank = '.' :: '.' :: behind :=
    Stops.drop_while_append (.cons rfl _) hws
  have hbehind : behind.dropWhile isBlank = enclosed ws '(' (surface ws stop) ')' ++ after :=
    drop_blanks_paren hws _ after
  have htext : enclosed ws '(' (surface ws start) ')' ++ spaced ws ['.', '.'] ++
      enclosed ws '(' (surface ws stop) ')' ++ after =
        enclosed ws '(' (surface ws start) ')' ++ (ws ++ '.' :: '.' :: behind) := by
    simp [spaced, behind]
  rw [htext]
  exact yields_primary_range (yields_bound hws hstart.1 hstart.2 _) hdots
    (hbehind ▸ yields_bound hws hstop.1 hstop.2 after) hstep

/-- A range without a step is read with the blanks behind it. -/
theorem yields_surface_range (hws : ∀ c ∈ ws, isBlank c) {start stop : Expr}
    (hstart : Writable start ∧ Recognizes ws inner start)
    (hstop : Writable stop ∧ Recognizes ws inner stop) (hrest : Ends rest tail) :
    (primary inner).Yields (surface ws (.range start stop none) ++ rest)
      (.range start stop none) tail := by
  rw [surface, surfaceStep, List.append_nil]
  exact yields_surface_range_of_step hws hstart hstop (yields_no_step hrest)

/-- A range with a step is read up to the end of the step. -/
theorem yields_surface_stepped_range (hws : ∀ c ∈ ws, isBlank c) {start stop step : Expr}
    (hstart : Writable start ∧ Recognizes ws inner start)
    (hstop : Writable stop ∧ Recognizes ws inner stop)
    (hstep : Writable step ∧ Recognizes ws inner step) (rest : List Char) :
    (primary inner).Yields (surface ws (.range start stop (some step)) ++ rest)
      (.range start stop (some step)) rest := by
  let after := ws ++ (enclosed ws '(' (surface ws step) ')' ++ rest)
  have hslashes : (ws ++ '/' :: '/' :: after).dropWhile isBlank = '/' :: '/' :: after :=
    Stops.drop_while_append (.cons rfl _) hws
  have hafter : after.dropWhile isBlank = enclosed ws '(' (surface ws step) ')' ++ rest :=
    drop_blanks_paren hws _ rest
  have htext : surfaceStep ws (some step) ++ rest = ws ++ '/' :: '/' :: after := by
    simp [surfaceStep, spaced, after]
  rw [surface, List.append_assoc, htext]
  refine yields_surface_range_of_step hws hstart hstop ?_
  rw [hslashes]
  exact yields_step (hafter ▸ yields_bound hws hstep.1 hstep.2 rest)

/-- A group that nothing belongs to is an operand. -/
theorem yields_operand_group (hws : ∀ c ∈ ws, isBlank c) (hexpr : Writable expr)
    (h : Recognizes ws inner expr) {after : List Char} (hafter : after.dropWhile isBlank = rest)
    (hrest : Stops beginsSuffix rest) :
    (operand inner).Yields (enclosed ws '(' (surface ws expr) ')' ++ after) expr rest := by
  have hpoint : Stops (· == '.') rest :=
    hrest.mono fun c hc => by simp [beginsSuffix, beq_iff_eq.mp hc]
  have hgroup := yields_primary_group (yields_grouped hws hexpr h after)
    (no_dots_of_stops hafter hpoint)
  exact yields_operand hgroup hafter hrest

/-- Both operands of an operator stand in parentheses. -/
theorem yields_binary (hws : ∀ c ∈ ws, isBlank c) (op : BinaryOp) {left right : Expr}
    (hleft : Writable left ∧ Recognizes ws inner left)
    (hright : Writable right ∧ Recognizes ws inner right) (hrest : Ends rest tail) :
    (expressionOver inner).Yields (surface ws (.binary op left right) ++ rest)
      (.binary op left right) tail := by
  have hspelling : op.symbol.toList ∈ op.spellings := by cases op <;> decide
  obtain ⟨rightPhrase, hrightReads, hrightExpr⟩ :=
    yields_operand_group hws hright.1 hright.2 hrest.blanks (hrest.tail rfl)
  let behind := ws ++ (enclosed ws '(' (surface ws right) ')' ++ rest)
  have hbehind : Stops continuesOperator behind :=
    .blanks_append hws (fun _ => not_of_is_blank rfl) (.cons rfl _)
  have hoperation := reads?_operation hspelling hbehind (drop_blanks_paren hws _ rest) hrightReads
  have hsymbol : (ws ++ (op.symbol.toList ++ behind)).dropWhile isBlank =
      op.symbol.toList ++ behind :=
    (Stops.of_spelling hspelling rfl behind).drop_while_append hws
  obtain ⟨leftPhrase, hleftReads, hleftExpr⟩ :=
    yields_operand_group hws hleft.1 hleft.2 hsymbol (.of_spelling hspelling rfl behind)
  have hstop : ReadsMany (andThen blanks fun _ => operation inner) tail [] tail :=
    .blanks_stop hrest.tail_blanks (reads?_operation_eq_none (hrest.tail rfl))
  refine ⟨.chain leftPhrase [(op, rightPhrase)], ?_, ?_⟩
  · have htext : surface ws (.binary op left right) ++ rest =
        enclosed ws '(' (surface ws left) ')' ++ (ws ++ (op.symbol.toList ++ behind)) := by
      simp [surface, spaced, behind]
    have hblank : Stops isBlank (op.symbol.toList ++ behind) :=
      .of_spelling hspelling rfl behind
    rw [htext]
    simp [expressionOver, hleftReads, hblank.drop_while, reads?_many_spaced_cons hoperation hstop]
  · rw [Phrase.toExpr, hleftExpr, Phrase.chainToExpr, hrightExpr]
    rfl

/-! ## The whole form -/

/-- An item takes no more than all items with their commas. -/
theorem length_surface_le {items : List Expr} {item : Expr} (h : item ∈ items) :
    (surface ws item).length ≤ (surfaceAll ws items).length := by
  rw [surface_all_eq]
  exact length_le_comma_separated ws ws (List.mem_map_of_mem h)

/-- What `inner` reads one level below is read by an expression. -/
theorem recognizes_expression_over (hws : ∀ c ∈ ws, isBlank c)
    (hnone : ∀ closing ∈ closingChars, ∀ cs, inner.reads? (closing :: cs) = none)
    (h : Writable expr)
    (hinner : ∀ nested, Writable nested →
      (surface ws nested).length < (surface ws expr).length → Recognizes ws inner nested) :
    Recognizes ws (expressionOver inner) expr := by
  intro rest tail hrest
  have hnested : ∀ {nested : Expr}, Writable nested →
      (surface ws nested).length < (surface ws expr).length →
        Writable nested ∧ Recognizes ws inner nested :=
    fun h hless => ⟨h, hinner _ h hless⟩
  -- Only an operator's form holds more than one operand.
  have hexpression : ∀ {after cs : List Char}, (operand inner).Yields cs expr after →
      after.dropWhile isBlank = tail → (expressionOver inner).Yields cs expr tail :=
    fun hoperand hafter => yields_expression_over hoperand hafter (hrest.tail rfl)
  have hprimary : ∀ {after cs : List Char}, (primary inner).Yields cs expr after →
      after.dropWhile isBlank = tail → (expressionOver inner).Yields cs expr tail :=
    fun hprimary hafter => hexpression (yields_operand hprimary hafter (hrest.tail rfl))
      hrest.tail_blanks
  cases h with
  | int value =>
      exact hprimary (yields_primary_int value (hrest.rest rfl rfl) hrest.dots)
        hrest.blanks
  | bool value =>
      exact hprimary (yields_primary_bool value (hrest.rest rfl rfl)
        (hrest.rest rfl rfl) hrest.dots) hrest.blanks
  | str text =>
      have hwritten : ∀ c ∈ text.toList, StandsFor (escapedChar c) c :=
        fun c _ => stands_for_escaped_char c
      have hstring : (primary inner).Yields _ _ rest := yields_primary_string hwritten rest
      rw [String.ofList_toList] at hstring
      have htext : surface ws (.literal (.str text)) ++ rest =
          '"' :: escaped text.toList ++ '"' :: rest := by simp [surface]
      rw [htext]
      exact hprimary hstring hrest.blanks
  | @atom name hname =>
      have hatom : (primary inner).reads? (name.toList ++ rest) = some (.atom name.toList, rest) :=
        reads?_primary_atom hname.isName hname.isNoTruthWord (hrest.rest rfl rfl)
          (hrest.rest rfl rfl) hrest.dots
      have hexpr : (Phrase.atom name.toList).toExpr = .ok (.atom name) := by
        rw [Phrase.toExpr, String.ofList_toList]
      exact hprimary ⟨_, hatom, hexpr⟩ hrest.blanks
  | @property subject key hsubject hkey =>
      obtain ⟨hsubject, hrecognizes⟩ := hnested hsubject (by simp [surface]; omega)
      have hgroup := yields_grouped hws hsubject hrecognizes ('.' :: key.toList ++ rest)
      -- The point before the key could begin a range, but no second one follows.
      have hdots : NoDots ('.' :: key.toList ++ rest) := by
        have hpoint : Stops (· == '.') (key.toList ++ rest) := .of_name_char hkey rfl rest
        have hblank : Stops isBlank ('.' :: key.toList ++ rest) := .cons rfl _
        rw [NoDots, hblank.drop_while]
        simp [reads?_char_eq_none hpoint]
      have hsuffix : (suffix inner).reads? ('.' :: key.toList ++ rest) =
          some (.property key.toList, rest) :=
        reads?_suffix_property hkey (hrest.rest rfl rfl)
      rw [surface, List.append_assoc]
      refine hexpression (yields_operand_suffix (yields_primary_group hgroup hdots) (.cons rfl _)
        hsuffix ?_ hrest.blanks (hrest.tail rfl)) hrest.blanks
      intro phrase hphrase
      rw [Suffix.attach, Phrase.toExpr, hphrase, String.ofList_toList]
      rfl
  | @access subject index hsubject hindex =>
      obtain ⟨hsubject, hsubjectRecognized⟩ := hnested hsubject (by simp [surface]; omega)
      obtain ⟨hindex, hindexRecognized⟩ := hnested hindex (by simp [surface]; omega)
      have hgroup := yields_grouped hws hsubject hsubjectRecognized
        (enclosed ws '[' (surface ws index) ']' ++ rest)
      rw [surface, List.append_assoc]
      exact hexpression (yields_operand_index hws hindex hindexRecognized hrest
        (yields_primary_group hgroup rfl)) hrest.blanks
  | @function name args hname hargs =>
      have hrecognized : ∀ arg ∈ args, Writable arg ∧ Recognizes ws inner arg := by
        intro arg harg
        have hle : (surface ws arg).length ≤ (surfaceAll ws args).length :=
          length_surface_le harg
        exact hnested (hargs arg harg) (by simp [surface]; omega)
      have hcall := yields_call_arguments hws hws hws (understands_surface hrecognized)
        (hnone ')' (by decide) rest)
      rw [← surface_all_eq] at hcall
      have hfunction := yields_primary_call hname.isName hname.isNoTruthWord hcall hrest.dots
      rw [String.ofList_toList] at hfunction
      rw [surface, List.append_assoc]
      exact hprimary hfunction hrest.blanks
  | lambda hbody =>
      obtain ⟨hbody, hrecognizes⟩ := hnested hbody (by simp [surface]; omega)
      rw [surface]
      exact hprimary (yields_primary_lambda (yields_grouped hws hbody hrecognizes rest))
        hrest.blanks
  | capture index =>
      exact hprimary (yields_primary_capture index (hrest.rest rfl rfl) hrest.dots)
        hrest.blanks
  | range hstart hstop =>
      have hstart := hnested hstart (by simp [surface]; omega)
      have hstop := hnested hstop (by simp [surface]; omega)
      exact hprimary (yields_surface_range hws hstart hstop hrest) hrest.tail_blanks
  | steppedRange hstart hstop hstep =>
      have hstart := hnested hstart (by simp [surface]; omega)
      have hstop := hnested hstop (by simp [surface]; omega)
      have hstep := hnested hstep (by simp [surface, surfaceStep]; omega)
      exact hprimary (yields_surface_stepped_range hws hstart hstop hstep rest) hrest.blanks
  | @list items hitems =>
      have hrecognized : ∀ item ∈ items, Writable item ∧ Recognizes ws inner item := by
        intro item hitem
        have hle : (surface ws item).length ≤ (surfaceAll ws items).length :=
          length_surface_le hitem
        exact hnested (hitems item hitem) (by simp [surface]; omega)
      have hlist := yields_list hws hws hws (understands_surface hrecognized)
        (hnone ']' (by decide) rest)
      rw [surface, surface_all_eq]
      exact hprimary (yields_primary_list hlist) hrest.blanks
  | binary op hleft hright =>
      have hleft := hnested hleft (by simp [surface]; omega)
      have hright := hnested hright (by simp [surface]; omega)
      exact yields_binary hws op hleft hright hrest

/-- With more levels of nesting than characters, every surface form is read. -/
theorem recognizes_expression_within (hws : ∀ c ∈ ws, isBlank c) {depth : Nat}
    (h : Writable expr) (hdepth : (surface ws expr).length < depth) :
    Recognizes ws (expressionWithin depth) expr := by
  -- The brackets around a nested form make it shorter, as each level of nesting needs.
  induction depth generalizing expr with
  | zero => exact absurd hdepth (Nat.not_lt_zero _)
  | succ depth ih =>
      exact recognizes_expression_over hws
        (fun closing hclosing => reads?_expression_within_eq_none hclosing depth) h
        fun nested hnested hless => ih hnested (by omega)

/-- The surface form of a tree is parsed back to the tree, whatever blanks are chosen. -/
theorem parse_surface (hws : ∀ c ∈ ws, isBlank c) (h : Writable expr) :
    Expr.parse (String.ofList (surface ws expr)) = .ok expr := by
  have hdepth : (surface ws expr).length < byteCount (surface ws expr) + 1 :=
    Nat.lt_succ_of_le (length_le_byte_count _)
  have hyields := recognizes_expression_within hws h hdepth .nil
  have hblank : (surface ws expr ++ []).dropWhile isBlank = _ := (surface_begins h []).drop_while
  rw [List.append_nil] at hyields hblank
  exact parse_eq_ok hblank hyields

/-- A sum of an integer and a list of a lambda and a string, written with spaces. -/
theorem parse_surface_of_sum :
    Expr.parse "( -1 ) + ( [ &( x ) , \"\\\"\" ] )" = .ok (.binary .add (.literal (.int (-1)))
      (.list [.lambda [.atom "x"], .literal (.str "\"")])) := by
  have hwritable : Writable (.binary .add (.literal (.int (-1)))
      (.list [.lambda [.atom "x"], .literal (.str "\"")])) := by
    refine .binary .add (.int (-1)) (.list ?_)
    simp only [List.forall_mem_cons, List.not_mem_nil, false_implies, implies_true, and_true]
    exact ⟨.lambda (.atom ⟨by decide, by decide⟩), .str _⟩
  have htext : surface [' '] (.binary .add (.literal (.int (-1)))
      (.list [.lambda [.atom "x"], .literal (.str "\"")])) =
        "( -1 ) + ( [ &( x ) , \"\\\"\" ] )".toList := by decide +kernel
  have hparse := parse_surface (List.forall_mem_singleton.mpr (rfl : isBlank ' ')) hwritable
  rwa [htext, String.ofList_toList] at hparse

end TextTemplate
