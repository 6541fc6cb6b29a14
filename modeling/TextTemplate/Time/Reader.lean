import TextTemplate.Text.CodeRange
import TextTemplate.Time.Timestamp

/-!
# Reading timestamps

A format is a list of directives, each of which takes its part of a text and sets a field. A literal
is tried by one format after another (`Timestamp.ofLiteral?`): by that of RFC 3339, by formats with
an offset, and, when the letter of UTC is cut off, by formats without one. Interchange text has a
single format that is more lenient (`Timestamp.ofInterchange?`). What is read must be a time that
calendar and clock have.
-/

namespace TextTemplate.Time

/-! ## Fields -/

/-- What a text says of a timestamp. What it leaves out is zero. -/
structure WrittenTime where
  clock : ClockTime
  /-- The offset in seconds. -/
  offset : Int
deriving DecidableEq, Repr

/-- What an empty text says. -/
def WrittenTime.unset : WrittenTime :=
  ⟨⟨⟨0, 0, 0⟩, 0, 0, 0, 0⟩, 0⟩

/-- The numbers of a date and a time of day. -/
inductive Field where
  | year
  | month
  | day
  | hour
  | minute
  | second
deriving DecidableEq, Repr

namespace Field

/-- With how many digits the number is written. -/
def width : Field → Nat
  | year => 4
  | _ => 2

/-- Sets the field to a number. -/
def set (written : WrittenTime) (value : Int) : Field → WrittenTime
  | year => { written with clock.date.year := value }
  | month => { written with clock.date.month := value.toNat }
  | day => { written with clock.date.day := value.toNat }
  | hour => { written with clock.hour := value.toNat }
  | minute => { written with clock.minute := value.toNat }
  | second => { written with clock.second := value.toNat }

end Field

/-! ## Parts of a text -/

/-- The code points of white space. -/
def whitespaceRanges : List Text.CodeRange :=
  [⟨0x9, 0xD⟩, ⟨0x20, 0x20⟩, ⟨0x85, 0x85⟩, ⟨0xA0, 0xA0⟩, ⟨0x1680, 0x1680⟩, ⟨0x2000, 0x200A⟩,
    ⟨0x2028, 0x2029⟩, ⟨0x202F, 0x202F⟩, ⟨0x205F, 0x205F⟩, ⟨0x3000, 0x3000⟩]

/-- Whether the character is white space. -/
def isWhitespace (c : Char) : Bool :=
  Text.CodeRange.covers whitespaceRanges c

/-- Takes a number of at least `least` and at most `most` decimal digits. -/
def takeNumber (least most : Nat) (cs : List Char) : Option (Nat × List Char) :=
  let digits := (cs.take most).takeWhile Char.isDigit
  if least ≤ digits.length then some (Number.ofDigits digits, cs.drop digits.length) else none

/-- Takes a year of at most four digits, or one of any length with a sign. -/
def takeYear : List Char → Option (Int × List Char)
  | '-' :: cs => (takeNumber 1 cs.length cs).map fun (year, cs) => (-(year : Int), cs)
  | '+' :: cs => (takeNumber 1 cs.length cs).map fun (year, cs) => (year, cs)
  | cs => (takeNumber 1 4 cs).map fun (year, cs) => (year, cs)

/-- Takes the number of a field with all its digits. -/
def takeDigits (field : Field) (cs : List Char) : Option (Int × List Char) :=
  (takeNumber field.width field.width cs).map fun (value, cs) => (value, cs)

/-- Takes the number of a field, perhaps without leading zeros. -/
def takeNumeral (field : Field) (cs : List Char) : Option (Int × List Char) :=
  match field with
  | .year => takeYear cs
  | _ => (takeNumber 1 field.width cs).map fun (value, cs) => (value, cs)

/-- Takes the given character. -/
def takeChar (expected : Char) : List Char → Option (List Char)
  | c :: cs => if c = expected then some cs else none
  | [] => none

/-- Takes what stands between date and time: `T` or `t` or a blank. -/
def takeSeparator : List Char → Option (List Char)
  | c :: cs => if c = 'T' ∨ c = 't' ∨ c = ' ' then some cs else none
  | [] => none

/-- Takes the fraction behind a second, if there is a point, and returns its digits. -/
def takeFraction : List Char → Option (List Char × List Char)
  | '.' :: cs =>
    let digits := cs.takeWhile Char.isDigit
    if digits.isEmpty then none else some (digits, cs.dropWhile Char.isDigit)
  | cs => some ([], cs)

/-- The nanoseconds of a fraction, of which nine digits count. -/
def nanosOfFraction (digits : List Char) : Nat :=
  let kept := digits.take 9
  Number.ofDigits kept * Number.tenPow (9 - kept.length)

/-- Takes hours and minutes behind the sign of an offset; `between` takes what stands between
them. -/
def takeOffsetDigits (between : List Char → Option (List Char)) (sign : Int) (cs : List Char) :
    Option (Int × List Char) := do
  let (hours, cs) ← takeNumber 2 2 cs
  let cs ← between cs
  let (minutes, cs) ← takeNumber 2 2 cs
  if minutes < 60 then some (sign * (hours * 3600 + minutes * 60 : Nat), cs) else none

/-- Takes an offset of hours and minutes. The minus sign of typography is one as well. -/
def takeOffset (between : List Char → Option (List Char)) : List Char → Option (Int × List Char)
  | '+' :: cs => takeOffsetDigits between 1 cs
  | '-' :: cs => takeOffsetDigits between (-1) cs
  | '−' :: cs => takeOffsetDigits between (-1) cs
  | _ => none

/-- Takes the letter of UTC or an offset. -/
def takeZone (between : List Char → Option (List Char)) : List Char → Option (Int × List Char)
  | 'Z' :: cs => some (0, cs)
  | 'z' :: cs => some (0, cs)
  | cs => takeOffset between cs

/-- Takes colons and white space, if there are any. -/
def takeGap (cs : List Char) : Option (List Char) :=
  some (cs.dropWhile fun c => c == ':' || isWhitespace c)

/-- Takes the word `UTC` in any case, the letter of UTC, or an offset. -/
def takeZoneName (cs : List Char) : Option (Int × List Char) :=
  if (cs.take 3).map Char.toLower = ['u', 't', 'c'] then some (0, cs.drop 3)
  else takeZone takeGap cs

/-! ## Formats -/

/-- What a format asks for next. -/
inductive Directive where
  /-- A number with all its digits. -/
  | digits (field : Field)
  /-- A number behind white space; leading zeros may be missing, and a year may have a sign. -/
  | number (field : Field)
  | literal (c : Char)
  | separator
  | whitespace
  /-- The fraction of a second, which may be missing. -/
  | fraction
  /-- An offset with a colon, or the letter of UTC. -/
  | zone
  /-- An offset with a colon, which may be missing. -/
  | colonOffset
  /-- An offset without a colon, which may be there. -/
  | offset
  /-- An offset, the letter of UTC, or the word `UTC` in any case. -/
  | zoneName
deriving DecidableEq, Repr

namespace Directive

/-- Sets the field to a number that is taken. -/
def setField (field : Field) (written : WrittenTime) (taken : Option (Int × List Char)) :
    Option (WrittenTime × List Char) :=
  taken.map fun (value, cs) => (field.set written value, cs)

/-- Sets the offset to one that is taken. -/
def setOffset (written : WrittenTime) (taken : Option (Int × List Char)) :
    Option (WrittenTime × List Char) :=
  taken.map fun (seconds, cs) => ({ written with offset := seconds }, cs)

/-- Takes what the directive asks for. -/
def take (state : WrittenTime × List Char) (directive : Directive) :
    Option (WrittenTime × List Char) :=
  let (written, cs) := state
  match directive with
  | .digits field => setField field written (takeDigits field cs)
  | .number field => setField field written (takeNumeral field (cs.dropWhile isWhitespace))
  | .literal c => (takeChar c cs).map fun cs => (written, cs)
  | .separator => (takeSeparator cs).map fun cs => (written, cs)
  | .whitespace => some (written, cs.dropWhile isWhitespace)
  | .fraction =>
    (takeFraction cs).map fun (places, cs) =>
      ({ written with clock.nanos := nanosOfFraction places }, cs)
  | .zone => setOffset written (takeZone (takeChar ':') cs)
  | .colonOffset | .offset =>
    setOffset written (takeOffset takeGap (cs.dropWhile isWhitespace))
  | .zoneName => setOffset written (takeZoneName cs)

end Directive

/-- A way to write timestamps. -/
abbrev Format :=
  List Directive

/-- What a text says that the format takes as a whole. -/
def Format.read? (format : Format) (cs : List Char) : Option WrittenTime :=
  match format.foldlM Directive.take (.unset, cs) with
  | some (written, []) => some written
  | _ => none

/-- The day numbers of the years that timestamps reach, -262143 to 262142. -/
def isReached (day : Int) : Bool :=
  decide (Date.dayNumber ⟨-262143, 1, 1⟩ ≤ day) && decide (day ≤ Date.dayNumber ⟨262142, 12, 31⟩)

/-- The timestamp that is written, provided that calendar and clock have it, that its offset is less
than a day, and that timestamps reach its date, on the clock and in UTC. -/
def WrittenTime.timestamp? (written : WrittenTime) : Option Timestamp :=
  let timestamp := Timestamp.ofClock written.clock written.offset
  if written.clock.isReal && decide (written.offset.natAbs < 86400) &&
      isReached written.clock.date.dayNumber && isReached (timestamp.seconds / 86400) then
    some timestamp
  else none

/-- The timestamp that a text in the format denotes. -/
def Format.timestamp? (format : Format) (cs : List Char) : Option Timestamp :=
  (format.read? cs).bind WrittenTime.timestamp?

namespace Format

/-- The format of RFC 3339. -/
def rfc3339 : Format :=
  [.digits .year, .literal '-', .digits .month, .literal '-', .digits .day, .separator,
    .digits .hour, .literal ':', .digits .minute, .literal ':', .digits .second, .fraction, .zone]

/-- A date and a time without seconds, `%Y-%m-%dT%H:%M`. -/
def toMinute : Format :=
  [.number .year, .literal '-', .number .month, .literal '-', .number .day, .literal 'T',
    .number .hour, .literal ':', .number .minute]

/-- A date and a time with seconds, `%Y-%m-%dT%H:%M:%S%.f`. -/
def toSecond : Format :=
  toMinute ++ [.literal ':', .number .second, .fraction]

/-- The formats with an offset. -/
def withOffset : List Format :=
  [toSecond ++ [.colonOffset], toSecond ++ [.offset]]

/-- The formats without an offset. -/
def withoutOffset : List Format :=
  [toSecond, toMinute]

/-- The format of interchange text. -/
def interchange : Format :=
  [.number .year, .whitespace, .literal '-', .number .month, .whitespace, .literal '-',
    .number .day, .separator, .number .hour, .whitespace, .literal ':', .number .minute,
    .whitespace, .literal ':', .number .second, .fraction, .whitespace, .zoneName, .whitespace]

end Format

/-- The text without the letters of UTC at its end. -/
def trimZone (cs : List Char) : List Char :=
  (cs.reverse.dropWhile fun c => c == 'Z' || c == 'z').reverse

namespace Timestamp

/-- Reads a timestamp literal. A time without an offset is taken to be UTC. -/
def ofLiteral? (cs : List Char) : Option Timestamp :=
  (Format.rfc3339.timestamp? cs).or <|
    (Format.withOffset.findSome? (·.timestamp? cs)).or <|
      Format.withoutOffset.findSome? (·.timestamp? (trimZone cs))

/-- Reads the interchange text of a timestamp. -/
def ofInterchange? (cs : List Char) : Option Timestamp :=
  Format.interchange.timestamp? cs

end Timestamp

end TextTemplate.Time
