import TextTemplate.Grammar.Cursor
import TextTemplate.Grammar.Goal

/-!
# Parsers

A parser tries to read something at a cursor. Choice is ordered: an alternative that succeeds is
never given up. Beside its outcome a parser reports the goals that failed furthest into the source;
they only serve messages, and no outcome depends on them.
-/

namespace TextTemplate.Grammar

/-- The goals that failed furthest into the source, and the number of bytes left there. -/
structure Attempts where
  bytesLeft : Nat
  goals : List Goal
deriving DecidableEq, Repr

/-- Keeps the attempts that came further, or all of them when both came equally far. -/
def Attempts.merge : Option Attempts → Option Attempts → Option Attempts
  | none, later => later
  | earlier, none => earlier
  | some earlier, some later =>
    if later.bytesLeft < earlier.bytesLeft then some later
    else if earlier.bytesLeft < later.bytesLeft then some earlier
    else some ⟨earlier.bytesLeft, earlier.goals ++ later.goals⟩

/-- The attempts of a rule that failed, with `bytesLeft` bytes left where it began. The rule stands
for several goals that failed at its own beginning; a single one, or any further on, stays. -/
def Attempts.ofRule (goal : Goal) (bytesLeft : Nat) : Option Attempts → Option Attempts
  | none => some ⟨bytesLeft, [goal]⟩
  | some inner =>
    if inner.bytesLeft < bytesLeft ∨ inner.goals.length = 1 then some inner
    else some ⟨bytesLeft, [goal]⟩

/-- What a parser answers: what it read with the place behind it, if it succeeds, and the goals
that failed furthest. -/
structure Reply (α : Type) where
  outcome : Option (α × Cursor)
  attempts : Option Attempts

/-- Tries to read a value at a cursor. -/
def Parser (α : Type) : Type :=
  Cursor → Reply α

namespace Parser

variable {α β : Type}

/-- Succeeds without reading anything. -/
def succeed (value : α) : Parser α := fun c =>
  ⟨some (value, c), none⟩

/-- Reads with `p`, then with what `next` makes of its value. -/
def andThen (p : Parser α) (next : α → Parser β) : Parser β := fun c =>
  match p c with
  | ⟨none, attempts⟩ => ⟨none, attempts⟩
  | ⟨some (value, c), earlier⟩ =>
    match next value c with
    | ⟨outcome, later⟩ => ⟨outcome, Attempts.merge earlier later⟩

instance : Monad Parser where
  pure := succeed
  bind := andThen

/-- Fails without naming a goal. -/
def fail : Parser α := fun _ =>
  ⟨none, none⟩

/-- Reads with `p` or, if that fails, with `q` at the same place. -/
def orElse (p q : Parser α) : Parser α := fun c =>
  match p c with
  | ⟨some result, attempts⟩ => ⟨some result, attempts⟩
  | ⟨none, earlier⟩ =>
    match q c with
    | ⟨outcome, later⟩ => ⟨outcome, Attempts.merge earlier later⟩

/-- Reads with the first of the parsers that succeeds. -/
def oneOf (parsers : List (Parser α)) : Parser α :=
  parsers.foldr orElse fail

/-- Reads with `p` if it succeeds and reads nothing otherwise. -/
def optional (p : Parser α) : Parser (Option α) :=
  orElse (andThen p fun value => succeed (some value)) (succeed none)

/-- Reads with `p` up to `limit` times, as often as it succeeds. -/
def manyUpTo (p : Parser α) : Nat → Parser (List α)
  | 0 => succeed []
  | limit + 1 =>
    orElse
      (andThen p fun value => andThen (manyUpTo p limit) fun more => succeed (value :: more))
      (succeed [])

/-- Reads with `p` as often as it succeeds. Since `p` reads something each time, the bytes that are
left bound the number of times; one more leaves room for the attempt that fails at the end. -/
def many (p : Parser α) : Parser (List α) := fun c =>
  manyUpTo p (c.bytesLeft + 1) c

/-- Reads a rule of the grammar, which is a goal of its own. -/
def rule (goal : Goal) (p : Parser α) : Parser α := fun c =>
  match p c with
  | ⟨some result, attempts⟩ => ⟨some result, attempts⟩
  | ⟨none, attempts⟩ => ⟨none, Attempts.ofRule goal c.bytesLeft attempts⟩

/-- Lets `use` read with `p` at this place as often as it likes, while `p` itself runs once. -/
def sharing (p : Parser α) (use : Parser α → Parser β) : Parser β := fun c =>
  let reply := p c
  use (fun _ => reply) c

/-- Succeeds, reading nothing, where `p` fails. -/
def absent (p : Parser α) : Parser Unit := fun c =>
  match p c with
  | ⟨some _, _⟩ => ⟨none, none⟩
  | ⟨none, _⟩ => ⟨some ((), c), none⟩

/-- Reads one character with the property. -/
def satisfy (p : Char → Bool) : Parser Char := fun c =>
  match c.next? with
  | some (char, after) => if p char then ⟨some (char, after), none⟩ else ⟨none, none⟩
  | none => ⟨none, none⟩

/-- Reads the given character. -/
def char (expected : Char) : Parser Char :=
  satisfy (· == expected)

/-- Reads the given characters. -/
def chars : List Char → Parser Unit
  | [] => succeed ()
  | expected :: more => andThen (char expected) fun _ => chars more

/-- Reads all leading characters with the property. -/
def takeWhile (p : Char → Bool) : Parser (List Char) := fun c =>
  ⟨some (c.rest.takeWhile p, c.dropWhile p), none⟩

/-- Reads all leading characters with the property, of which there must be one. -/
def takeWhile1 (p : Char → Bool) : Parser (List Char) :=
  andThen (satisfy p) fun first => andThen (takeWhile p) fun more => succeed (first :: more)

/-- Reads exactly `count` characters with the property. -/
def exactly (count : Nat) (p : Char → Bool) : Parser Unit :=
  match count with
  | 0 => succeed ()
  | count + 1 => andThen (satisfy p) fun _ => exactly count p

/-- Succeeds at the end of the source. -/
def endOfInput : Parser Unit := fun c =>
  if c.rest.isEmpty then ⟨some ((), c), none⟩ else ⟨none, none⟩

/-- Whether blanks may hold the character. -/
def isBlank (c : Char) : Bool :=
  c == ' ' || c == '\t' || c == '\r' || c == '\n'

/-- Reads blanks, if there are any. -/
def blanks : Parser Unit :=
  andThen (takeWhile isBlank) fun _ => succeed ()

/-- Reads with `p` as often as it succeeds, with blanks between. Blanks that nothing follows are
left unread. -/
def manySpaced (p : Parser α) : Parser (List α) :=
  orElse
    (andThen p fun first =>
      andThen (many (andThen blanks fun _ => p)) fun more => succeed (first :: more))
    (succeed [])

end Parser

/-- A stretch of the source, located by the bytes left at its start and at its end. -/
structure Lexeme where
  text : List Char
  bytesLeft : Nat
  bytesAfter : Nat
deriving DecidableEq, Repr

end TextTemplate.Grammar
