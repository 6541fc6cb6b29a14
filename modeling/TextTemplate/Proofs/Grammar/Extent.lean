import TextTemplate.Proofs.Grammar.Places
import TextTemplate.Proofs.Grammar.Shapes

/-!
# What the grammar reads of a source

Every rule of the grammar stays in the source, and recognises phrases with whatever property the
grammar hands on from the parts of a phrase to the whole (`Phrase.Inherited`, `expression_stays`,
`segment_stays`). In particular the literals of the phrases are stretches of the source and have the
shape of their kind (`Phrase.is_literal_inherited`).
-/

namespace TextTemplate.Grammar

open TextTemplate.Grammar.Parser

/-! ## Literals -/

namespace Phrase

/-- The literal is the stretch of the source that its places tell; the text of a capture is what
stands behind the ampersand. -/
def IsWrittenIn (source : List Char) : LiteralKind × Lexeme → Prop
  | (.captureIndex, lexeme) => Lexeme.IsIn source { lexeme with text := '&' :: lexeme.text }
  | (_, lexeme) => lexeme.IsIn source

/-- The literals of the phrase are stretches of the source. -/
def IsIn (source : List Char) (phrase : Phrase) : Prop :=
  ∀ literal ∈ phrase.literals, IsWrittenIn source literal

/-- The literal is a stretch of the source and has the shape of its kind. -/
structure IsLiteral (source : List Char) (literal : LiteralKind × Lexeme) : Prop where
  written : IsWrittenIn source literal
  shaped : literal.1.IsText literal.2.text

variable {source : List Char}

/-- The property holds of every phrase that the grammar builds from literals of the source, from
names, and from phrases that it holds of. -/
structure Inherited (source : List Char) (Q : Phrase → Prop) : Prop where
  integer : ∀ lexeme, IsLiteral source (.integer, lexeme) → Q (integer lexeme)
  decimal : ∀ lexeme, IsLiteral source (.decimal, lexeme) → Q (decimal lexeme)
  timestamp : ∀ lexeme, IsLiteral source (.timestamp, lexeme) → Q (timestamp lexeme)
  boolean : ∀ value, Q (boolean value)
  string : ∀ text, Q (string text)
  atom : ∀ name, isName name → Q (atom name)
  property : ∀ subject key, Q subject → isName key → Q (property subject key)
  access : ∀ subject index, Q subject → Q index → Q (access subject index)
  call : ∀ name args, isName name → (∀ arg ∈ args, Q arg) → Q (call name args)
  lambda : ∀ body, Q body → Q (lambda body)
  capture : ∀ lexeme, IsLiteral source (.captureIndex, lexeme) → Q (capture lexeme)
  range : ∀ start stop step, Q start → Q stop → (∀ stride ∈ step, Q stride) →
    Q (range start stop step)
  list : ∀ items, (∀ item ∈ items, Q item) → Q (list items)
  chain : ∀ first more, Q first → (∀ operation ∈ more, Q operation.2) → Q (chain first more)

section

variable {R : LiteralKind × Lexeme → Prop}

/-- What holds of the literals of each phrase holds of all their literals. -/
theorem forall_literals_of_all {phrases : List Phrase}
    (h : ∀ phrase ∈ phrases, ∀ literal ∈ phrase.literals, R literal) :
    ∀ literal ∈ literalsOfAll phrases, R literal := by
  induction phrases with
  | nil => exact List.forall_mem_nil _
  | cons phrase phrases ih =>
      obtain ⟨hphrase, hphrases⟩ := List.forall_mem_cons.mp h
      exact List.forall_mem_append.mpr ⟨hphrase, ih hphrases⟩

/-- The literals of a range are those of its bounds and its step. -/
theorem forall_literals_of_range {start stop : Phrase} {step : Option Phrase}
    (hstart : ∀ literal ∈ start.literals, R literal)
    (hstop : ∀ literal ∈ stop.literals, R literal)
    (hstep : ∀ stride ∈ step, ∀ literal ∈ stride.literals, R literal) :
    ∀ literal ∈ (Phrase.range start stop step).literals, R literal := by
  refine List.forall_mem_append.mpr ⟨hstart, List.forall_mem_append.mpr ⟨hstop, ?_⟩⟩
  cases step with
  | none => exact List.forall_mem_nil _
  | some stride => exact hstep stride rfl

/-- The literals of a chain are those of its operands. -/
theorem forall_literals_of_chain {first : Phrase} (hfirst : ∀ literal ∈ first.literals, R literal)
    {more : List (BinaryOp × Phrase)}
    (h : ∀ operation ∈ more, ∀ literal ∈ operation.2.literals, R literal) :
    ∀ literal ∈ (Phrase.chain first more).literals, R literal := by
  refine List.forall_mem_append.mpr ⟨hfirst, ?_⟩
  induction more with
  | nil => exact List.forall_mem_nil _
  | cons operation more ih =>
      obtain ⟨hoperation, hmore⟩ := List.forall_mem_cons.mp h
      exact List.forall_mem_append.mpr ⟨hoperation, ih hmore⟩

/-- What holds of the literals of the source holds of those of a phrase. -/
theorem forall_literals_inherited (h : ∀ literal, IsLiteral source literal → R literal) :
    Inherited source fun phrase => ∀ literal ∈ phrase.literals, R literal where
  integer _ hliteral := List.forall_mem_singleton.mpr (h _ hliteral)
  decimal _ hliteral := List.forall_mem_singleton.mpr (h _ hliteral)
  timestamp _ hliteral := List.forall_mem_singleton.mpr (h _ hliteral)
  boolean _ := List.forall_mem_nil _
  string _ := List.forall_mem_nil _
  atom _ _ := List.forall_mem_nil _
  property _ _ hsubject _ := hsubject
  access _ _ hsubject hindex := List.forall_mem_append.mpr ⟨hsubject, hindex⟩
  call _ _ _ hargs := forall_literals_of_all hargs
  lambda _ hbody := hbody
  capture _ hliteral := List.forall_mem_singleton.mpr (h _ hliteral)
  range _ _ _ hstart hstop hstep := forall_literals_of_range hstart hstop hstep
  list _ hitems := forall_literals_of_all hitems
  chain _ _ hfirst hmore := forall_literals_of_chain hfirst hmore

end

/-- The literals of a phrase are literals of the source. -/
theorem is_literal_inherited :
    Inherited source fun phrase => ∀ literal ∈ phrase.literals, IsLiteral source literal :=
  forall_literals_inherited fun _ h => h

/-- The literals of a phrase are stretches of the source. -/
theorem is_in_inherited : Inherited source (IsIn source) :=
  forall_literals_inherited fun _ h => h.written

end Phrase

/-! ## Names, literals and operators -/

variable {source : List Char} {Q : Phrase → Prop}

theorem ident_stays : ident.StaysIn source fun name => isName name :=
  (StaysIn.satisfy _).bind fun _ hfirst => (StaysIn.take_while _).bind fun _ hmore =>
    .pure (Bool.and_eq_true_iff.mpr ⟨hfirst, hmore⟩)

theorem atom_stays (hQ : Phrase.Inherited source Q) : atom.StaysIn source Q :=
  (ident_stays.bind fun name hname => .pure (hQ.atom name hname)).rule _

theorem digits_advance : digits.Advances :=
  fun _ => (StaysIn.take_while1 _).bind fun _ _ => .pure trivial

theorem sign_advances : sign.Advances :=
  fun _ => (StaysIn.char _).optional.bind fun _ _ => .pure trivial

theorem integer_stays (hQ : Phrase.Inherited source Q) : integer.StaysIn source Q := by
  have hbody : Parser.Advances (do sign; digits) :=
    fun source => (sign_advances source).bind fun _ _ => digits_advance source
  exact ((StaysIn.lexeme_of_spells hbody integer_spells).bind fun lexeme hlexeme =>
    .pure (hQ.integer lexeme ⟨hlexeme.1, hlexeme.2⟩)).rule _

theorem decimal_stays (hQ : Phrase.Inherited source Q) : decimal.StaysIn source Q := by
  have hbody : Parser.Advances (do sign; digits; let _ ← char '.'; digits) :=
    fun source => (sign_advances source).bind fun _ _ => (digits_advance source).bind fun _ _ =>
      (StaysIn.char _).bind fun _ _ => digits_advance source
  exact ((StaysIn.lexeme_of_spells hbody decimal_spells).bind fun lexeme hlexeme =>
    .pure (hQ.decimal lexeme ⟨hlexeme.1, hlexeme.2⟩)).rule _

theorem date_advances : date.Advances :=
  fun _ => (StaysIn.exactly _ _).bind fun _ _ => (StaysIn.char _).bind fun _ _ =>
    (StaysIn.exactly _ _).bind fun _ _ => (StaysIn.char _).bind fun _ _ => StaysIn.exactly _ _

theorem second_advances : second.Advances := by
  intro source
  have hfraction : secondFraction.StaysIn source fun _ => True :=
    (StaysIn.char _).bind fun _ _ => digits_advance source
  exact (StaysIn.char _).bind fun _ _ => (StaysIn.exactly _ _).bind fun _ _ =>
    hfraction.optional.bind fun _ _ => .pure trivial

theorem time_advances : time.Advances :=
  fun source => (StaysIn.exactly _ _).bind fun _ _ => (StaysIn.char _).bind fun _ _ =>
    (StaysIn.exactly _ _).bind fun _ _ => (second_advances source).optional.bind fun _ _ =>
      .pure trivial

theorem offset_advances : offset.Advances := by
  intro source
  have hnumeric : numericOffset.StaysIn source fun _ => True :=
    (StaysIn.satisfy _).bind fun _ _ => (StaysIn.exactly _ _).bind fun _ _ =>
      (StaysIn.char _).optional.bind fun _ _ => StaysIn.exactly _ _
  exact ((StaysIn.satisfy _).bind fun _ _ => .pure trivial).or_else hnumeric

theorem timestamp_stays (hQ : Phrase.Inherited source Q) : timestamp.StaysIn source Q := by
  have hbody : Parser.Advances (do date; let _ ← char 'T'; time; optional offset) :=
    fun source => (date_advances source).bind fun _ _ => (StaysIn.char _).bind fun _ _ =>
      (time_advances source).bind fun _ _ => (offset_advances source).optional.mono
        fun _ _ => trivial
  exact ((StaysIn.lexeme_of_spells hbody timestamp_spells).bind fun lexeme hlexeme =>
    .pure (hQ.timestamp lexeme ⟨hlexeme.1, hlexeme.2⟩)).rule _

theorem word_stays (letters : List Char) : (word letters).StaysIn source fun _ => True := by
  induction letters with
  | nil => exact .pure trivial
  | cons letter letters ih => exact (StaysIn.satisfy _).bind fun _ _ => ih

theorem boolean_stays (hQ : Phrase.Inherited source Q) : boolean.StaysIn source Q := by
  have hword : ∀ letters value, Parser.StaysIn source (fun _ => True)
      (do word letters; return value : Parser Bool) :=
    fun letters value => (word_stays letters).bind fun _ _ => .pure trivial
  exact (((hword _ _).or_else (hword _ _)).bind fun value _ => (StaysIn.absent _).bind fun _ _ =>
    .pure (hQ.boolean value)).rule _

theorem string_stays (hQ : Phrase.Inherited source Q) : string.StaysIn source Q := by
  have hpart : stringPart.StaysIn source fun _ => True :=
    StaysIn.or_else ((StaysIn.satisfy _).bind fun _ _ => .pure trivial)
      ((StaysIn.char _).bind fun _ _ => (StaysIn.satisfy _).bind fun _ _ => .pure trivial)
  have hcontent : stringContent.StaysIn source fun _ => True :=
    (hpart.many.bind fun _ _ => .pure trivial).rule _
  exact ((StaysIn.char _).bind fun _ _ => hcontent.bind fun content _ =>
    (StaysIn.char _).bind fun _ _ => .pure (hQ.string (unescaped content))).rule _

theorem literal_stays (hQ : Phrase.Inherited source Q) : literal.StaysIn source Q := by
  refine (string_stays hQ).or_else (StaysIn.one_of ?_)
  simp only [List.forall_mem_cons]
  exact ⟨timestamp_stays hQ, decimal_stays hQ, integer_stays hQ, boolean_stays hQ,
    List.forall_mem_nil _⟩

/-- The lexeme of a capture is the ampersand with the index behind it. -/
theorem capture_stays (hQ : Phrase.Inherited source Q) : capture.StaysIn source Q := by
  have hbody : Parser.Advances (do let _ ← char '&'; rule .captureIndex digits) :=
    fun source => (StaysIn.char '&').bind fun _ _ => (digits_advance source).rule _
  refine ((StaysIn.lexeme_of_spells hbody capture_spells).bind fun lexeme hlexeme =>
    .pure (hQ.capture _ ?_)).rule _
  obtain ⟨hin, index, htext, hindex⟩ := hlexeme
  have hdrop : lexeme.text.drop 1 = index := by rw [htext, List.drop_succ_cons, List.drop_zero]
  refine ⟨?_, ?_⟩
  · change Lexeme.IsIn source { lexeme with text := '&' :: lexeme.text.drop 1 }
    rw [hdrop, ← htext]
    exact hin
  · rw [hdrop]
    exact hindex

theorem binary_op_stays : binaryOp.StaysIn source fun _ => True := by
  have hoperator : ∀ goal op symbol, (operator goal op symbol).StaysIn source fun _ => True :=
    fun _ _ _ => ((StaysIn.chars _).bind fun _ _ => .pure trivial).rule _
  have hnotEqual : Parser.StaysIn source (fun _ => True) (rule .notEqual do
      orElse (chars ['!', '=']) (chars ['<', '>'])
      return BinaryOp.ne) :=
    (((StaysIn.chars _).or_else (StaysIn.chars _)).bind fun _ _ => .pure trivial).rule _
  refine StaysIn.one_of ?_
  simp only [List.forall_mem_cons, hoperator, hnotEqual, true_and]
  exact List.forall_mem_nil _

/-! ## Expressions -/

section

variable {inner call group : Parser Phrase} (hQ : Phrase.Inherited source Q)
  (hinner : inner.StaysIn source Q)

include hinner

theorem grouped_stays : (grouped inner).StaysIn source Q :=
  (StaysIn.char _).bind fun _ _ => StaysIn.blanks.bind fun _ _ => hinner.bind fun _ hphrase =>
    StaysIn.blanks.bind fun _ _ => (StaysIn.char _).bind fun _ _ => .pure hphrase

theorem separated_stays :
    (separated inner).StaysIn source fun phrases => ∀ phrase ∈ phrases, Q phrase := by
  have hmore : Parser.StaysIn source Q (do let _ ← char ','; blanks; inner) :=
    (StaysIn.char _).bind fun _ _ => StaysIn.blanks.bind fun _ _ => hinner
  have hphrases : Parser.StaysIn source (fun phrases => ∀ phrase ∈ phrases, Q phrase) (do
      let first ← inner
      blanks
      let more ← manySpaced do
        let _ ← char ','
        blanks
        inner
      return first :: more) :=
    hinner.bind fun first hfirst => StaysIn.blanks.bind fun _ _ => hmore.many_spaced.bind
      fun more hphrases => .pure (List.forall_mem_cons.mpr ⟨hfirst, hphrases⟩)
  refine hphrases.optional.bind fun found hfound => .pure ?_
  cases found with
  | none => exact List.forall_mem_nil _
  | some phrases => exact hfound phrases rfl

include hQ

theorem list_stays : (list inner).StaysIn source Q :=
  ((StaysIn.char _).bind fun _ _ => StaysIn.blanks.bind fun _ _ =>
    (separated_stays hinner).bind fun items hitems => StaysIn.blanks.bind fun _ _ =>
      (StaysIn.char _).bind fun _ _ => .pure (hQ.list items hitems)).rule _

theorem function_call_stays : (functionCall inner).StaysIn source Q := by
  have harguments : (callArguments inner).StaysIn source
      fun phrases => ∀ phrase ∈ phrases, Q phrase :=
    ((StaysIn.char _).bind fun _ _ => StaysIn.blanks.bind fun _ _ =>
      (separated_stays hinner).bind fun _ hargs => StaysIn.blanks.bind fun _ _ =>
        (StaysIn.char _).bind fun _ _ => .pure hargs).rule _
  exact ((ident_stays.rule _).bind fun name hname => harguments.bind fun args hargs =>
    .pure (hQ.call name args hname hargs)).rule _

theorem lambda_stays : (lambda inner).StaysIn source Q :=
  ((StaysIn.char _).bind fun _ _ =>
    (((grouped_stays hinner).or_else (list_stays hQ hinner)).rule _).bind fun body hbody =>
      .pure (hQ.lambda body hbody)).rule _

omit hinner in
theorem bound_stays (hcall : call.StaysIn source Q) (hgroup : group.StaysIn source Q) :
    (bound call group).StaysIn source Q := by
  refine StaysIn.one_of ?_
  simp only [List.forall_mem_cons]
  exact ⟨integer_stays hQ, capture_stays hQ, hcall, atom_stays hQ, hgroup, List.forall_mem_nil _⟩

theorem range_stays (hcall : call.StaysIn source Q) (hgroup : group.StaysIn source Q) :
    (range inner call group).StaysIn source Q := by
  have hbound : (bound (functionCall inner) (grouped inner)).StaysIn source Q :=
    bound_stays hQ (function_call_stays hQ hinner) (grouped_stays hinner)
  have hstep : Parser.StaysIn source Q (do
      chars ['/', '/']
      blanks
      bound (functionCall inner) (grouped inner)) :=
    (StaysIn.chars _).bind fun _ _ => StaysIn.blanks.bind fun _ _ => hbound
  exact ((bound_stays hQ hcall hgroup).bind fun start hstart => StaysIn.blanks.bind fun _ _ =>
    (StaysIn.chars _).bind fun _ _ => StaysIn.blanks.bind fun _ _ =>
      hbound.bind fun stop hstop => StaysIn.blanks.bind fun _ _ =>
        hstep.optional.bind fun step hstep =>
          .pure (hQ.range start stop step hstart hstop hstep)).rule _

theorem primary_stays : (primary inner).StaysIn source Q := by
  refine (function_call_stays hQ hinner).sharing fun call hcall => ?_
  refine (grouped_stays hinner).sharing fun group hgroup => StaysIn.one_of ?_
  simp only [List.forall_mem_cons]
  exact ⟨range_stays hQ hinner hcall hgroup, capture_stays hQ, lambda_stays hQ hinner,
    list_stays hQ hinner, hgroup, literal_stays hQ, hcall, atom_stays hQ, List.forall_mem_nil _⟩

end

/-- The property holds of what an index stands for, and the key of a property is a name. -/
def Suffix.Holds (Q : Phrase → Prop) : Suffix → Prop
  | .property key => isName key
  | .access index => Q index

/-- The property holds of an operand with what follows it. -/
theorem attach_all_holds (hQ : Phrase.Inherited source Q) {suffixes : List Suffix}
    (h : ∀ suffix ∈ suffixes, suffix.Holds Q) {subject : Phrase} (hsubject : Q subject) :
    Q (suffixes.foldl Suffix.attach subject) := by
  induction suffixes generalizing subject with
  | nil => exact hsubject
  | cons suffix suffixes ih =>
      obtain ⟨hsuffix, hsuffixes⟩ := List.forall_mem_cons.mp h
      refine ih hsuffixes ?_
      cases suffix with
      | property key => exact hQ.property subject key hsubject hsuffix
      | access index => exact hQ.access subject index hsubject hsuffix

section

variable {inner : Parser Phrase} (hQ : Phrase.Inherited source Q) (hinner : inner.StaysIn source Q)

include hinner

theorem suffix_stays : (suffix inner).StaysIn source (Suffix.Holds Q) := by
  have hproperty : property.StaysIn source (Suffix.Holds Q) := by
    refine ((StaysIn.char _).bind fun _ _ => (ident_stays.rule _).bind fun _ hkey =>
      .pure ?_).rule _
    exact hkey
  refine hproperty.or_else (((StaysIn.char _).bind fun _ _ => StaysIn.blanks.bind fun _ _ =>
    hinner.bind fun _ hindex => StaysIn.blanks.bind fun _ _ => (StaysIn.char _).bind fun _ _ =>
      .pure ?_).rule _)
  exact hindex

include hQ

theorem operand_stays : (operand inner).StaysIn source Q :=
  (primary_stays hQ hinner).bind fun _ hsubject => StaysIn.blanks.bind fun _ _ =>
    (suffix_stays hinner).many_spaced.bind fun _ hsuffixes =>
      .pure (attach_all_holds hQ hsuffixes hsubject)

theorem expression_over_stays : (expressionOver inner).StaysIn source Q := by
  have hoperation : (operation inner).StaysIn source fun operation => Q operation.2 :=
    binary_op_stays.bind fun _ _ => StaysIn.blanks.bind fun _ _ =>
      (operand_stays hQ hinner).bind fun _ hright => .pure hright
  exact ((operand_stays hQ hinner).bind fun first hfirst => StaysIn.blanks.bind fun _ _ =>
    hoperation.many_spaced.bind fun more hmore => .pure (hQ.chain first more hfirst hmore)).rule _

end

theorem expression_within_stays (hQ : Phrase.Inherited source Q) (depth : Nat) :
    (expressionWithin depth).StaysIn source Q := by
  induction depth with
  | zero => exact StaysIn.fail
  | succ depth ih => exact expression_over_stays hQ ih

/-- An expression stays in the source, and what the grammar hands on holds of its phrase. -/
theorem expression_stays (hQ : Phrase.Inherited source Q) : expression.StaysIn source Q :=
  fun c hc => expression_within_stays hQ _ c hc

/-! ## Templates -/

/-- The text of the segment is not empty, or the property holds of its phrase. -/
def Segment.Holds (Q : Phrase → Prop) : Segment → Prop
  | .text chars => chars ≠ []
  | .expression phrase => Q phrase

/-- A segment stays in the source, and what the grammar hands on holds of its phrase. -/
theorem segment_stays (hQ : Phrase.Inherited source Q) :
    segment.StaysIn source (Segment.Holds Q) := by
  have hescaped : escapedAt.StaysIn source (Segment.Holds Q) := by
    refine ((StaysIn.chars _).bind fun _ _ => .pure ?_).rule _
    exact List.cons_ne_nil _ _
  have hblock : expressionBlock.StaysIn source (Segment.Holds Q) := by
    refine ((StaysIn.chars _).bind fun _ _ => StaysIn.blanks.bind fun _ _ =>
      (expression_stays hQ).bind fun _ hphrase => StaysIn.blanks.bind fun _ _ =>
        (StaysIn.char _).bind fun _ _ => .pure ?_).rule _
    exact hphrase
  have hbare : bareExpression.StaysIn source (Segment.Holds Q) := by
    refine ((StaysIn.char _).bind fun _ _ =>
      ((function_call_stays hQ (expression_stays hQ)).or_else (atom_stays hQ)).bind
        fun _ hhead => (suffix_stays (expression_stays hQ)).many.bind fun _ hsuffixes =>
          .pure ?_).rule _
    exact attach_all_holds hQ hsuffixes hhead
  have hlone : Parser.StaysIn source (· ≠ []) (do
      let c ← char '@'
      absent (char '(')
      return [c]) :=
    (StaysIn.char _).bind fun _ _ => (StaysIn.absent _).bind fun _ _ =>
      .pure (List.cons_ne_nil _ _)
  have hplain : plainText.StaysIn source (Segment.Holds Q) := by
    refine (((StaysIn.take_while1 _).or_else hlone).bind fun _ htext => .pure ?_).rule _
    exact htext
  refine StaysIn.one_of ?_
  simp only [List.forall_mem_cons]
  exact ⟨hescaped, hblock, hbare, hplain, List.forall_mem_nil _⟩

theorem segment_advances : segment.Advances :=
  fun _ => (segment_stays Phrase.is_in_inherited).mono fun _ _ => trivial

/-- A whole template stays in the source, and what the grammar hands on holds of its phrases. -/
theorem whole_template_stays (hQ : Phrase.Inherited source Q) :
    wholeTemplate.StaysIn source fun segments => ∀ segment ∈ segments, segment.Holds Q :=
  ((segment_stays hQ).many.bind fun _ hsegments => (StaysIn.end_of_input.rule _).bind fun _ _ =>
    .pure hsegments).rule _

/-- A whole expression stays in the source, and what the grammar hands on holds of its phrase. -/
theorem whole_expression_stays (hQ : Phrase.Inherited source Q) :
    wholeExpression.StaysIn source Q :=
  (StaysIn.blanks.bind fun _ _ => (expression_stays hQ).bind fun _ hphrase =>
    StaysIn.blanks.bind fun _ _ => (StaysIn.end_of_input.rule _).bind fun _ _ =>
      .pure hphrase).rule _

end TextTemplate.Grammar
