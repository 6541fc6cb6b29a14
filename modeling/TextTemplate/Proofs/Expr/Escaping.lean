import TextTemplate.Proofs.Expr.Parsing
import TextTemplate.Proofs.Grammar.Refusals
import TextTemplate.Proofs.Grammar.Segments

/-!
# Escaped text

Text in which every `@` is doubled is read back as it is, whatever template follows it: the
template is parsed as it is on its own, with the text in front; and if it is not parsed, the error
is the same, further on (`parse_escaped_append`). To see this, what is made of the characters of a
template is kept apart from the source that an error refers to (`readTemplate`).
-/

namespace TextTemplate

namespace Grammar

/-! ## Reading without a source -/

/-- Why the characters of a template are not parsed. -/
inductive Failure where
  /-- The grammar does not admit the characters. -/
  | unread (attempts : Attempts)
  | literal (bad : BadLiteral)

/-- The failure as an error about a source. -/
def Failure.toError (source : String) : Failure → ParseError
  | .unread attempts => Attempts.toError source (some attempts)
  | .literal bad => bad.toError source

/-- What the characters of a template are parsed to. -/
def readTemplate (cs : List Char) : Except Failure Template := do
  let segments ← (segmentation cs).mapError .unread
  let exprs ← (Segment.allToExpr segments).mapError .literal
  pure (Template.join exprs)

/-- A template whose segments are read is the trees of the segments. -/
theorem read_template_of_ok {cs : List Char} {segments : List Segment}
    (h : segmentation cs = .ok segments) :
    readTemplate cs = ((Segment.allToExpr segments).map Template.join).mapError .literal := by
  rw [readTemplate, h]
  change ((Segment.allToExpr segments).mapError Failure.literal).bind _ = _
  cases Segment.allToExpr segments <;> rfl

/-- A template whose segments are not read is none. -/
theorem read_template_of_error {cs : List Char} {attempts : Attempts}
    (h : segmentation cs = .error attempts) : readTemplate cs = .error (.unread attempts) := by
  rw [readTemplate, h]
  rfl

/-- A template is parsed from its characters; the source only shows in errors. -/
theorem parse_eq_read_template (source : String) :
    Template.parse source = (readTemplate source.toList).mapError (·.toError source) := by
  rw [Template.parse_eq, run_whole_template]
  cases hsegments : segmentation source.toList with
  | error attempts =>
      rw [read_template_of_error hsegments]
      rfl
  | ok segments =>
      rw [read_template_of_ok hsegments]
      change (Segment.readAll source segments).bind _ = _
      rw [read_all_eq]
      cases Segment.allToExpr segments <;> rfl

/-! ## Text in front -/

/-- The character as it is written in a template for its own sake. -/
def doubledChar (c : Char) : List Char :=
  if c = '@' then ['@', '@'] else [c]

/-- Text in front of text is joined with it, whatever follows. -/
theorem cons_text_cons_text (first second : String) (template : Template) :
    Template.cons (.text first) (Template.cons (.text second) template) =
      Template.cons (.text (first ++ second)) template := by
  cases template with
  | nil => rfl
  | cons expr rest => cases expr <;> simp [Template.cons, String.append_assoc]

/-- A segment of text in front of others is text in front of their template. -/
theorem read_of_text_segment {cs rest : List Char} {text : List Char}
    (h : segmentation cs = (segmentation rest).map (.text text :: ·)) :
    readTemplate cs = (readTemplate rest).map (Template.cons (.text (String.ofList text))) := by
  cases hrest : segmentation rest with
  | error attempts =>
      rw [hrest] at h
      rw [read_template_of_error h, read_template_of_error hrest]
      rfl
  | ok segments =>
      rw [hrest] at h
      rw [read_template_of_ok h, read_template_of_ok hrest, Segment.allToExpr, Segment.toExpr]
      cases Segment.allToExpr segments <;> rfl

/-- A character in front of a template is text in front of it. -/
theorem read_template_of_char (c : Char) (cs : List Char) :
    readTemplate (doubledChar c ++ cs) =
      (readTemplate cs).map (Template.cons (.text (String.ofList [c]))) := by
  by_cases hc : c = '@'
  · subst hc
    exact read_of_text_segment (segmentation_of_escaped cs)
  · rw [doubledChar, if_neg hc, List.singleton_append]
    cases cs with
    | nil => exact read_of_text_segment (segmentation_of_text hc [])
    | cons d cs =>
        by_cases hd : d = '@'
        · subst hd
          exact read_of_text_segment (segmentation_of_text hc ('@' :: cs))
        · -- The character is read together with the text that follows it.
          have hrun : (d :: cs).takeWhile (· != '@') = d :: cs.takeWhile (· != '@') :=
            List.takeWhile_cons_of_pos (by simpa using hd)
          have hrest : (d :: cs).dropWhile (· != '@') = cs.dropWhile (· != '@') :=
            List.dropWhile_cons_of_pos (by simpa using hd)
          have hboth := segmentation_of_text hc (d :: cs)
          rw [hrun, hrest] at hboth
          rw [read_of_text_segment hboth, read_of_text_segment (segmentation_of_text hd cs)]
          cases readTemplate (cs.dropWhile (· != '@')) with
          | error failure => rfl
          | ok template =>
              simp only [Except.map, cons_text_cons_text, ← String.ofList_append,
                List.singleton_append]

end Grammar

namespace Template

/-- Text with every `@` doubled. -/
def escape (text : String) : String :=
  .ofList (text.toList.flatMap Grammar.doubledChar)

/-- The template with text in front of it, which joins the text that it begins with. -/
def behind (text : String) (template : Template) : Template :=
  if text = "" then template else cons (.text text) template

end Template

namespace Grammar

/-- Escaped text in front of a template is text in front of it. -/
theorem read_template_of_escaped (text cs : List Char) :
    readTemplate (text.flatMap doubledChar ++ cs) =
      (readTemplate cs).map (Template.behind (.ofList text)) := by
  induction text with
  | nil =>
      rw [List.flatMap_nil, List.nil_append]
      cases readTemplate cs <;> rfl
  | cons c text ih =>
      rw [List.flatMap_cons, List.append_assoc, read_template_of_char, ih]
      cases readTemplate cs with
      | error failure => rfl
      | ok template =>
          have hne : String.ofList (c :: text) ≠ "" := by simp
          simp only [Except.map, Template.behind, hne, if_false]
          split
          · next hempty =>
              obtain rfl : text = [] := by simpa using hempty
              rfl
          · rw [cons_text_cons_text, ← String.ofList_append, List.singleton_append]

/-! ## Errors further on -/

/-- The failure is about places in the source. -/
def Failure.IsIn (source : List Char) : Failure → Prop
  | .unread attempts => IsPlace source attempts.bytesLeft
  | .literal bad => Phrase.IsLiteral source (bad.kind, bad.lexeme)

/-- What fails to be parsed is in the template. -/
theorem is_in_of_read_template {cs : List Char} {failure : Failure}
    (h : readTemplate cs = .error failure) : failure.IsIn cs := by
  cases hsegments : segmentation cs with
  | error attempts =>
      rw [read_template_of_error hsegments] at h
      cases h
      exact is_place_of_segmentation hsegments
  | ok segments =>
      rw [read_template_of_ok hsegments] at h
      cases hexprs : Segment.allToExpr segments with
      | ok exprs =>
          rw [hexprs] at h
          cases h
      | error bad =>
          rw [hexprs] at h
          cases h
          obtain ⟨phrase, hphrase, hbad⟩ := exists_phrase_of_all_to_expr hexprs
          have hliterals : ∀ literal ∈ phrase.literals, Phrase.IsLiteral cs literal :=
            holds_of_segmentation Phrase.is_literal_inherited hsegments _ hphrase
          exact hliterals _ (Phrase.of_to_expr_eq_error hbad).1

/-- Behind more characters, the same is dropped. -/
theorem drop_bytes_append (first rest : List Char) (count : Nat) :
    dropBytes (byteCount first + count) (first ++ rest) = dropBytes count rest := by
  induction first with
  | nil => rw [byteCount, Nat.zero_add, List.nil_append]
  | cons c first ih =>
      have hone : 0 < c.utf8Size := c.utf8Size_pos
      obtain ⟨more, hmore⟩ : ∃ more, byteCount (c :: first) + count = more + 1 :=
        ⟨byteCount (c :: first) + count - 1, by rw [byteCount]; omega⟩
      have hrest : more + 1 - c.utf8Size = byteCount first + count := by
        rw [← hmore, byteCount]
        omega
      rw [hmore, List.cons_append, dropBytes, hrest, ih]

/-- The places of a literal are places in the source. -/
theorem places_of_is_written_in {source : List Char} {kind : LiteralKind} {lexeme : Lexeme}
    (h : Phrase.IsWrittenIn source (kind, lexeme)) :
    lexeme.bytesLeft ≤ byteCount source ∧ lexeme.bytesAfter ≤ byteCount source := by
  have hplaces : ∀ written : Lexeme, written.IsIn source →
      written.bytesLeft ≤ byteCount source ∧ written.bytesAfter ≤ byteCount source := by
    rintro written ⟨rest, hsuffix, hleft, hafter⟩
    refine ⟨(IsPlace.le ⟨_, hsuffix, hleft⟩), IsPlace.le ⟨rest, ?_, hafter⟩⟩
    exact (List.suffix_append _ _).trans hsuffix
  cases kind with
  | captureIndex => exact hplaces { lexeme with text := '&' :: lexeme.text } h
  | _ => exact hplaces lexeme h

end Grammar

/-- The error, further on in a source with more text in front. -/
def ParseError.behind (text : String) (error : ParseError) : ParseError where
  kind := error.kind
  source := text ++ error.source
  span := ⟨error.span.start + Grammar.byteCount text.toList,
    error.span.stop + Grammar.byteCount text.toList⟩

/-- With more text in front of the source, the same failure is the same error, further on. -/
theorem Grammar.to_error_behind {failure : Failure} {source : String}
    (h : failure.IsIn source.toList) (text : String) :
    failure.toError (text ++ source) = (failure.toError source).behind text := by
  have hshift : ∀ bytesLeft, bytesLeft ≤ byteCount source.toList →
      byteCount (text ++ source).toList - bytesLeft =
        byteCount source.toList - bytesLeft + byteCount text.toList := by
    intro bytesLeft hle
    rw [String.toList_append, byte_count_append]
    omega
  cases failure with
  | unread attempts =>
      obtain ⟨bytesLeft, goals⟩ := attempts
      have hle : bytesLeft ≤ byteCount source.toList := h.le
      have hfound : foundAt (text ++ source).toList bytesLeft =
          foundAt source.toList bytesLeft := by
        rw [foundAt, foundAt, hshift bytesLeft hle, Nat.add_comm, String.toList_append,
          drop_bytes_append]
      simp only [Failure.toError, Attempts.toError, ParseError.behind, hfound, hshift bytesLeft hle]
  | literal bad =>
      obtain ⟨hstart, hstop⟩ := places_of_is_written_in h.written
      simp only [Failure.toError, BadLiteral.toError, Lexeme.span, ParseError.behind,
        hshift _ hstart, hshift _ hstop]

/-- Escaped text is faithful in front of any template: the template is parsed as it is on its own,
with the text in front, and if it is not parsed, the error is the same, further on by the bytes of
the escaped text. Escaped text alone is parsed to the text. -/
theorem parse_escaped_append (text source : String) :
    Template.parse (Template.escape text ++ source) =
      ((Template.parse source).map (Template.behind text)).mapError
        (ParseError.behind (Template.escape text)) ∧
    Template.parse (Template.escape text) = .ok (if text = "" then [] else [.text text]) := by
  have hboth : ∀ source : String, Template.parse (Template.escape text ++ source) =
      ((Template.parse source).map (Template.behind text)).mapError
        (ParseError.behind (Template.escape text)) := by
    intro source
    have hchars : (Template.escape text ++ source).toList =
        text.toList.flatMap Grammar.doubledChar ++ source.toList := by
      rw [String.toList_append, Template.escape, String.toList_ofList]
    rw [Grammar.parse_eq_read_template, Grammar.parse_eq_read_template, hchars,
      Grammar.read_template_of_escaped, String.ofList_toList]
    cases hfailure : Grammar.readTemplate source.toList with
    | ok template => rfl
    | error failure =>
        have herror := Grammar.to_error_behind (Grammar.is_in_of_read_template hfailure)
          (Template.escape text)
        exact congrArg Except.error herror
  have hempty : Template.parse "" = .ok [] := by cbv
  refine ⟨hboth source, ?_⟩
  have halone := hboth ""
  rw [String.append_empty, hempty] at halone
  exact halone

end TextTemplate
