import Mathlib.Data.List.Forall2
import TextTemplate.Proofs.Grammar.Moved
import TextTemplate.Proofs.Grammar.Tokens

/-!
# Reading in front of a closing parenthesis

Characters that close every bracket which they open (`openings`) are read in the same way whether a
parenthesis stands behind them or not. `Parser.Follows` compares two readings of this kind, and each
combinator keeps it. The parenthesis could only be taken by a bracket that is still open at the end
of the characters; `Fits` counts the brackets that have been opened on the way, so that there is
none.
-/

namespace TextTemplate.Grammar

open TextTemplate.Grammar.Parser

/-! ## Open brackets -/

/-- What a character outside of strings adds to the number of open brackets. -/
def bracketStep (c : Char) : Int :=
  if c = '(' ∨ c = '[' then 1 else if c = ')' ∨ c = ']' then -1 else 0

mutual
/-- The number of brackets that the characters open, less the number of those that they close.
Brackets in strings do not count. -/
def openings : List Char → Int
  | [] => 0
  | c :: cs => if c = '"' then openingsInString cs else bracketStep c + openings cs

/-- The same number for characters that begin within a string. -/
def openingsInString : List Char → Int
  | [] => 0
  | '\\' :: _ :: cs => openingsInString cs
  | c :: cs => if c = '"' then openings cs else openingsInString cs
end

/-- The characters that open or close something. -/
def bracketChars : List Char :=
  ['(', ')', '[', ']', '"']

/-- Whether the character neither opens nor closes anything. -/
def isPlain (c : Char) : Bool :=
  !bracketChars.contains c

/-- What no bracket and no quote has, plain characters have. -/
theorem is_plain_of {p : Char → Bool} (hp : bracketChars.all (!p ·)) {c : Char} (h : p c) :
    isPlain c := by
  rw [isPlain, Bool.not_eq_true', Bool.eq_false_iff]
  intro hmem
  have hnot : p c = false := not_of_mem hp (List.contains_iff_mem.mp hmem)
  exact absurd h (Bool.eq_false_iff.mp hnot)

/-- Plain characters do not count. -/
theorem openings_of_plain {c : Char} (h : isPlain c) (cs : List Char) :
    openings (c :: cs) = openings cs := by
  simp only [isPlain, bracketChars, List.contains_cons, List.contains_nil, Bool.or_false,
    Bool.not_eq_true', Bool.or_eq_false_iff, beq_eq_false_iff_ne] at h
  obtain ⟨hopen, hclose, hleft, hright, hquote⟩ := h
  rw [openings, if_neg hquote, bracketStep, if_neg (not_or.mpr ⟨hopen, hleft⟩),
    if_neg (not_or.mpr ⟨hclose, hright⟩), Int.zero_add]

/-- Leading plain characters do not count. -/
theorem openings_drop_while {p : Char → Bool} (hp : ∀ c, p c → isPlain c) (cs : List Char) :
    openings (cs.dropWhile p) = openings cs := by
  induction cs with
  | nil => rfl
  | cons c cs ih =>
      rw [List.dropWhile_cons]
      split
      · next hc => rw [ih, openings_of_plain (hp c hc)]
      · rfl

/-- What stops is not taken with the characters in front of it. -/
theorem Stops.take_while_of_append {p : Char → Bool} {tail : List Char} (h : Stops p tail)
    (cs : List Char) : (cs ++ tail).takeWhile p = cs.takeWhile p := by
  induction cs with
  | nil => exact h.take_while
  | cons c cs ih => rw [List.cons_append, List.takeWhile_cons, List.takeWhile_cons, ih]

/-- What stops is left with the characters in front of it. -/
theorem Stops.drop_while_of_append {p : Char → Bool} {tail : List Char} (h : Stops p tail)
    (cs : List Char) : (cs ++ tail).dropWhile p = cs.dropWhile p ++ tail := by
  induction cs with
  | nil => exact h.drop_while
  | cons c cs ih =>
      rw [List.cons_append, List.dropWhile_cons, List.dropWhile_cons, ih]
      split <;> rfl

/-- Another character comes next. -/
theorem Stops.of_ne {c d : Char} (h : c ≠ d) (rest : List Char) : Stops (· == d) (c :: rest) := by
  intro first hfirst
  obtain rfl := Option.some.inj hfirst
  exact beq_eq_false_iff_ne.mpr h

/-- What stands behind the characters that are read: nothing, or a parenthesis. The parenthesis may
only stand behind characters that leave no bracket open. -/
structure Ending where
  tail : List Char
  /-- What the characters in front of the tail add to the number of open brackets. -/
  balance : Int
  closes : tail = [] ∨ tail = [')'] ∧ balance ≤ 0

variable {e : Ending} {n depth : Nat}

/-- Only a parenthesis can begin the tail. -/
theorem Ending.stops (e : Ending) {p : Char → Bool} (hp : p ')' = false) : Stops p e.tail := by
  obtain htail | ⟨htail, -⟩ := e.closes
  · exact htail ▸ .nil p
  · exact htail ▸ .cons hp []

/-- What no bracket has, the beginning of the tail has not either. -/
theorem Ending.stops_plain (e : Ending) {p : Char → Bool} (hp : bracketChars.all (!p ·)) :
    Stops p e.tail :=
  e.stops (not_of_mem hp (by decide))

/-- Less than `size` characters are left in front of the tail, and `depth` brackets that they may
close have been opened before them. -/
structure Fits (e : Ending) (size depth : Nat) (cs : List Char) : Prop where
  length : cs.length < size
  balance : openings cs + depth = e.balance

/-- There may always be less than more characters. -/
theorem Fits.mono {size : Nat} {cs : List Char} (h : Fits e n depth cs) (hsize : n ≤ size) :
    Fits e size depth cs :=
  ⟨Nat.lt_of_lt_of_le h.length hsize, h.balance⟩

/-- Nothing stands behind the characters. -/
def Ending.ofChars (cs : List Char) : Ending :=
  ⟨[], openings cs, .inl rfl⟩

theorem Fits.of_chars (cs : List Char) : Fits (.ofChars cs) (cs.length + 1) 0 cs :=
  ⟨Nat.lt_succ_self _, Int.add_zero _⟩

/-! ## Two readings -/

variable {α β γ δ : Type} {P Q R : List Char → Prop} {f : α → β} {g : γ → δ} {p : Parser α}
  {q : Parser β}

/-- From characters with `P`, `q` reads in front of the tail what `p` reads without it, up to `f`;
what is left of them has `Q`. -/
structure Parser.Follows (e : Ending) (P Q : List Char → Prop) (f : α → β) (p : Parser α)
    (q : Parser β) : Prop where
  reads : ∀ cs, P cs → q.reads? (cs ++ e.tail) =
    (p.reads? cs).map fun (value, rest) => (f value, rest ++ e.tail)
  leaves : ∀ cs value rest, P cs → p.reads? cs = some (value, rest) → Q rest

namespace Parser.Follows

/-- With nothing behind the characters the same is read up to `f`. -/
theorem reads_of_chars {cs : List Char}
    (h : Follows (.ofChars cs) (Fits (.ofChars cs) (cs.length + 1) 0) Q f p q) :
    q.reads? cs = (p.reads? cs).map fun (value, rest) => (f value, rest) := by
  have hreads := h.reads cs (.of_chars cs)
  rw [Ending.ofChars, List.append_nil] at hreads
  rw [hreads]
  cases p.reads? cs <;> simp

/-- Only what the parsers read matters. -/
theorem of_reads?_eq {p' : Parser α} {q' : Parser β} (h : Follows e P Q f p q)
    (hp : ∀ cs, p'.reads? cs = p.reads? cs) (hq : ∀ cs, q'.reads? cs = q.reads? cs) :
    Follows e P Q f p' q' where
  reads := by
    intro cs hcs
    rw [hp, hq, h.reads cs hcs]
  leaves := by
    intro cs value rest hcs heq
    rw [hp] at heq
    exact h.leaves cs value rest hcs heq

theorem pure {value : α} {other : β} (h : other = f value) :
    Follows e P P f (pure value) (pure other) where
  reads := by
    intro cs _
    rw [h]
    rfl
  leaves := by
    intro cs _ rest hcs heq
    obtain ⟨-, rfl⟩ := Prod.mk.inj (Option.some.inj heq)
    exact hcs

theorem fail : Follows e P Q f fail fail :=
  ⟨fun _ _ => rfl, fun _ _ _ _ heq => nomatch heq⟩

theorem bind {next : α → Parser γ} {other : β → Parser δ} (h : Follows e P Q f p q)
    (hnext : ∀ value, Follows e Q R g (next value) (other (f value))) :
    Follows e P R g (p >>= next) (q >>= other) where
  reads := by
    intro cs hcs
    rw [reads?_bind, reads?_bind, h.reads cs hcs]
    cases hp : p.reads? cs with
    | none => rfl
    | some result => exact (hnext result.1).reads _ (h.leaves cs _ _ hcs hp)
  leaves := by
    intro cs value rest hcs heq
    rw [reads?_bind] at heq
    obtain ⟨⟨first, middle⟩, hp, heq⟩ := Option.bind_eq_some_iff.mp heq
    exact (hnext first).leaves middle value rest (h.leaves cs _ _ hcs hp) heq

theorem or_else {p' : Parser α} {q' : Parser β} (h : Follows e P Q f p q)
    (h' : Follows e P Q f p' q') : Follows e P Q f (orElse p p') (orElse q q') where
  reads := by
    intro cs hcs
    rw [reads?_or_else, reads?_or_else, h.reads cs hcs, h'.reads cs hcs]
    cases p.reads? cs <;> rfl
  leaves := by
    intro cs value rest hcs heq
    rw [reads?_or_else] at heq
    rcases Option.or_eq_some_iff.mp heq with heq | ⟨-, heq⟩
    · exact h.leaves cs value rest hcs heq
    · exact h'.leaves cs value rest hcs heq

theorem one_of {ps : List (Parser α)} {qs : List (Parser β)}
    (h : List.Forall₂ (Follows e P Q f) ps qs) : Follows e P Q f (oneOf ps) (oneOf qs) := by
  induction h with
  | nil => exact fail
  | cons h _ ih => exact h.or_else ih

theorem rule {goal : Goal} (h : Follows e P Q f p q) :
    Follows e P Q f (rule goal p) (rule goal q) where
  reads := by
    intro cs hcs
    rw [reads?_rule, reads?_rule, h.reads cs hcs]
  leaves := by
    intro cs value rest hcs heq
    rw [reads?_rule] at heq
    exact h.leaves cs value rest hcs heq

theorem optional (h : Follows e P P f p q) :
    Follows e P P (Option.map f) (Parser.optional p) (Parser.optional q) := by
  have hsome : Follows e P P (Option.map f) (p >>= fun value => Pure.pure (some value))
      (q >>= fun value => Pure.pure (some value)) := h.bind fun _ => pure rfl
  have hnone : Follows e P P (Option.map f) (Pure.pure none) (Pure.pure none) := pure rfl
  exact hsome.or_else hnone

/-- A single character is compared by what it does to the brackets, unless the tail may follow at
once. -/
theorem satisfy {test : Char → Bool} (hstep : ∀ c cs, test c → P (c :: cs) → Q cs)
    (hend : P [] → Stops test e.tail) : Follows e P Q id (satisfy test) (satisfy test) where
  reads := by
    intro cs hcs
    cases cs with
    | nil =>
        have hstops : Stops test e.tail := hend hcs
        cases htail : e.tail with
        | nil => rfl
        | cons c tail =>
            rw [htail] at hstops
            simp [hstops.of_cons]
    | cons c cs =>
        rw [List.cons_append, reads?_satisfy_cons, reads?_satisfy_cons]
        split <;> rfl
  leaves := by
    intro cs value rest hcs heq
    cases cs with
    | nil => cases heq
    | cons c cs =>
        rw [reads?_satisfy_cons] at heq
        split at heq
        · next hc =>
            obtain ⟨-, rfl⟩ := Prod.mk.inj (Option.some.inj heq)
            exact hstep c cs hc hcs
        · cases heq

/-- What takes a character at least keeps to any number of characters. -/
theorem of_consuming {after : Nat}
    (h : ∀ m < n, Follows e (Fits e (m + 1) depth) (Fits e m after) f p q) :
    Follows e (Fits e n depth) (Fits e n after) f p q where
  reads := by
    intro cs hcs
    exact (h cs.length hcs.length).reads cs ⟨Nat.lt_succ_self _, hcs.balance⟩
  leaves := by
    intro cs value rest hcs heq
    have hrest := (h cs.length hcs.length).leaves cs value rest
      ⟨Nat.lt_succ_self _, hcs.balance⟩ heq
    exact hrest.mono (Nat.le_of_lt hcs.length)

/-! ### Characters -/

theorem satisfy_plain {test : Char → Bool} (h : bracketChars.all (!test ·)) :
    Follows e (Fits e (n + 1) depth) (Fits e n depth) id (Parser.satisfy test)
      (Parser.satisfy test) := by
  refine satisfy (fun c cs hc hcs => ?_) fun _ => e.stops_plain h
  have hbalance := hcs.balance
  rw [openings_of_plain (is_plain_of h hc)] at hbalance
  exact ⟨Nat.lt_of_succ_lt_succ hcs.length, hbalance⟩

theorem char_plain {c : Char} (h : isPlain c) :
    Follows e (Fits e (n + 1) depth) (Fits e n depth) id (char c) (char c) := by
  refine satisfy_plain (List.all_eq_true.mpr fun d hd => ?_)
  rw [Bool.not_eq_true', beq_eq_false_iff_ne]
  rintro rfl
  rw [isPlain, List.contains_iff_mem.mpr hd] at h
  cases h

/-- An opening bracket is one more that may be closed. -/
theorem char_opening {c : Char} (h : c = '(' ∨ c = '[') :
    Follows e (Fits e (n + 1) depth) (Fits e n (depth + 1)) id (char c) (char c) := by
  refine satisfy (fun d cs hd hcs => ?_) fun _ => ?_
  · obtain rfl := beq_iff_eq.mp hd
    have hbalance := hcs.balance
    have hquote : d ≠ '"' := by rcases h with rfl | rfl <;> decide
    rw [openings, if_neg hquote, bracketStep, if_pos h] at hbalance
    exact ⟨Nat.lt_of_succ_lt_succ hcs.length, by omega⟩
  · obtain htail | ⟨htail, -⟩ := e.closes
    · exact htail ▸ .nil _
    · refine htail ▸ .cons ?_ []
      rcases h with rfl | rfl <;> rfl

/-- A closing bracket is not sought at the end, where every bracket has been closed. -/
theorem char_closing {c : Char} (h : c = ')' ∨ c = ']') :
    Follows e (Fits e n (depth + 1)) (Fits e n depth) id (char c) (char c) := by
  refine satisfy (fun d cs hd hcs => ?_) fun hcs => ?_
  · obtain rfl := beq_iff_eq.mp hd
    have hbalance := hcs.balance
    have hlength := hcs.length
    have hquote : d ≠ '"' := by rcases h with rfl | rfl <;> decide
    have hopening : ¬ (d = '(' ∨ d = '[') := by rcases h with rfl | rfl <;> decide
    rw [openings, if_neg hquote, bracketStep, if_neg hopening, if_pos h] at hbalance
    rw [List.length_cons] at hlength
    exact ⟨by omega, by omega⟩
  · obtain htail | ⟨-, hclosed⟩ := e.closes
    · exact htail ▸ .nil _
    · have hbalance : (0 : Int) + (depth + 1 : Nat) = e.balance := hcs.balance
      omega

theorem chars_plain {c : Char} {more : List Char} (h : (c :: more).all isPlain) :
    Follows e (Fits e (n + 1) depth) (Fits e n depth) id (chars (c :: more))
      (chars (c :: more)) := by
  obtain ⟨hc, hmore⟩ := Bool.and_eq_true_iff.mp h
  refine (char_plain hc).bind fun _ => ?_
  clear h hc
  induction more generalizing n with
  | nil => exact pure rfl
  | cons d more ih =>
      obtain ⟨hd, hmore⟩ := Bool.and_eq_true_iff.mp hmore
      exact of_consuming fun m _ => (char_plain hd).bind fun _ => ih hmore

theorem take_while {test : Char → Bool} (h : bracketChars.all (!test ·)) :
    Follows e (Fits e n depth) (Fits e n depth) id (takeWhile test) (takeWhile test) where
  reads := by
    intro cs _
    have hstops : Stops test e.tail := e.stops_plain h
    rw [reads?_take_while, reads?_take_while, hstops.take_while_of_append,
      hstops.drop_while_of_append]
    rfl
  leaves := by
    intro cs value rest hcs heq
    rw [reads?_take_while] at heq
    obtain ⟨-, rfl⟩ := Prod.mk.inj (Option.some.inj heq)
    refine ⟨Nat.lt_of_le_of_lt (List.dropWhile_suffix test).length_le hcs.length, ?_⟩
    rw [openings_drop_while fun c hc => is_plain_of h hc]
    exact hcs.balance

theorem take_while1 {test : Char → Bool} (h : bracketChars.all (!test ·)) :
    Follows e (Fits e n depth) (Fits e n depth) id (takeWhile1 test) (takeWhile1 test) :=
  of_consuming fun _ _ => (satisfy_plain h).bind fun _ => (take_while h).bind fun _ => pure rfl

theorem exactly {test : Char → Bool} (h : bracketChars.all (!test ·)) (count : Nat) :
    Follows e (Fits e n depth) (Fits e n depth) id (Parser.exactly count test)
      (Parser.exactly count test) := by
  induction count generalizing n with
  | zero => exact pure rfl
  | succ count ih => exact of_consuming fun _ _ => (satisfy_plain h).bind fun _ => ih

theorem absent {test : Char → Bool} (h : bracketChars.all (!test ·)) :
    Follows e P P id (Parser.absent (Parser.satisfy test))
      (Parser.absent (Parser.satisfy test)) where
  reads := by
    intro cs _
    have hsatisfy : Follows e (fun _ => True) (fun _ => True) id (Parser.satisfy test)
        (Parser.satisfy test) := satisfy (fun _ _ _ _ => trivial) fun _ => e.stops_plain h
    rw [reads?_absent, reads?_absent, hsatisfy.reads cs trivial, Option.isSome_map]
    split <;> rfl
  leaves := by
    intro cs value rest hcs heq
    rw [reads?_absent] at heq
    split at heq
    · cases heq
    · obtain ⟨-, rfl⟩ := Prod.mk.inj (Option.some.inj heq)
      exact hcs

theorem blanks : Follows e (Fits e n depth) (Fits e n depth) id Parser.blanks Parser.blanks :=
  (take_while rfl).bind fun _ => pure rfl

/-! ### Repetition -/

/-- Where both readings follow one another each time, so do the repeated ones. -/
theorem exists_reads_many
    (h : ∀ m < n, Follows e (Fits e (m + 1) depth) (Fits e m depth) f p q) {cs : List Char}
    (hcs : Fits e n depth cs) :
    ∃ values last, ReadsMany p cs values last ∧
      ReadsMany q (cs ++ e.tail) (values.map f) (last ++ e.tail) ∧ Fits e n depth last := by
  induction hsize : cs.length using Nat.strongRecOn generalizing cs with
  | ind size ih =>
      have hfits : Fits e (cs.length + 1) depth cs := ⟨Nat.lt_succ_self _, hcs.balance⟩
      have hreads := (h cs.length hcs.length).reads cs hfits
      cases hp : p.reads? cs with
      | none =>
          rw [hp] at hreads
          exact ⟨[], cs, .stop hp, .stop hreads, hcs⟩
      | some result =>
          obtain ⟨value, rest⟩ := result
          have hrest := (h cs.length hcs.length).leaves cs value rest hfits hp
          rw [hp] at hreads
          obtain ⟨values, last, hmany, hfollows, hlast⟩ := ih rest.length (hsize ▸ hrest.length)
            (hrest.mono (Nat.le_of_lt hcs.length)) rfl
          refine ⟨value :: values, last, .step hp hrest.length hmany, ?_, hlast⟩
          refine .step hreads ?_ hfollows
          rw [List.length_append, List.length_append]
          exact Nat.add_lt_add_right hrest.length _

theorem many (h : ∀ m < n, Follows e (Fits e (m + 1) depth) (Fits e m depth) f p q) :
    Follows e (Fits e n depth) (Fits e n depth) (List.map f) (Parser.many p) (Parser.many q) where
  reads := by
    intro cs hcs
    obtain ⟨values, last, hmany, hfollows, -⟩ := exists_reads_many h hcs
    rw [reads?_many hmany, reads?_many hfollows]
    rfl
  leaves := by
    intro cs found rest hcs heq
    obtain ⟨values, last, hmany, -, hlast⟩ := exists_reads_many h hcs
    rw [reads?_many hmany] at heq
    obtain ⟨-, rfl⟩ := Prod.mk.inj (Option.some.inj heq)
    exact hlast

theorem many_spaced (h : ∀ m < n, Follows e (Fits e (m + 1) depth) (Fits e m depth) f p q) :
    Follows e (Fits e n depth) (Fits e n depth) (List.map f) (manySpaced p) (manySpaced q) := by
  have hspaced : ∀ m < n, Follows e (Fits e (m + 1) depth) (Fits e m depth) f
      (andThen Parser.blanks fun _ => p) (andThen Parser.blanks fun _ => q) :=
    fun m hm => blanks.bind fun _ => h m hm
  have hsome : Follows e (Fits e n depth) (Fits e n depth) (List.map f)
      (p >>= fun first => Parser.many (andThen Parser.blanks fun _ => p) >>= fun more =>
        Pure.pure (first :: more))
      (q >>= fun first => Parser.many (andThen Parser.blanks fun _ => q) >>= fun more =>
        Pure.pure (first :: more)) :=
    (of_consuming h).bind fun _ => (many hspaced).bind fun _ => pure rfl
  have hnone : Follows e (Fits e n depth) (Fits e n depth) (List.map f) (Pure.pure [])
      (Pure.pure []) := pure rfl
  exact hsome.or_else hnone

/-! ### Lexemes -/

/-- A lexeme is the stretch between the place where a parser begins and the one where it stops. -/
theorem reads?_lexeme_eq (p : Parser α) (cs : List Char) :
    (Parser.lexeme p).reads? cs = (p.reads? cs).map fun (_, rest) =>
      (⟨takeBytes (byteCount cs - byteCount rest) cs, byteCount cs, byteCount rest⟩, rest) := by
  rw [reads?, reads?, Parser.lexeme]
  cases p (.ofChars cs) with
  | mk outcome attempts =>
      cases outcome with
      | none => rfl
      | some result => simp [result.2.agrees]

/-- The first characters are the same whatever stands behind all of them. -/
theorem take_bytes_append_of_le {count : Nat} {cs : List Char} (h : count ≤ byteCount cs)
    (tail : List Char) : takeBytes count (cs ++ tail) = takeBytes count cs := by
  induction cs generalizing count with
  | nil =>
      obtain rfl : count = 0 := Nat.le_zero.mp h
      rw [takeBytes.eq_1, takeBytes.eq_1]
  | cons c cs ih =>
      cases count with
      | zero => rw [takeBytes.eq_1, takeBytes.eq_1]
      | succ count =>
          rw [byteCount] at h
          rw [List.cons_append, takeBytes, takeBytes, ih (by omega)]

theorem lexeme (h : Follows e P Q f p q) :
    Follows e P Q (Lexeme.moved (byteCount e.tail)) (Parser.lexeme p) (Parser.lexeme q) where
  reads := by
    intro cs hcs
    rw [reads?_lexeme_eq, reads?_lexeme_eq, h.reads cs hcs, Option.map_map, Option.map_map]
    congr 1
    funext result
    have hplaces : byteCount (cs ++ e.tail) - byteCount (result.2 ++ e.tail) =
        byteCount cs - byteCount result.2 := by
      rw [byte_count_append, byte_count_append]
      omega
    simp only [Function.comp_apply, hplaces, take_bytes_append_of_le (Nat.sub_le _ _)]
    simp only [Lexeme.moved, byte_count_append]
  leaves := by
    intro cs value rest hcs heq
    rw [reads?_lexeme_eq] at heq
    obtain ⟨⟨found, after⟩, hp, heq⟩ := Option.map_eq_some_iff.mp heq
    obtain ⟨-, rfl⟩ := Prod.mk.inj heq
    exact h.leaves cs found after hcs hp

end Parser.Follows

end TextTemplate.Grammar
