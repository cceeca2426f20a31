import Cutscene.Blank
import Cutscene.Document
import Cutscene.Weight

/-!
# Instants

A point in time is a day of the Gregorian calendar, counted from 1 January 1970, a second of
that day and a fraction in nanoseconds. The fraction may run on for one second beyond a full
one, which is how a leap second is held.

Instants are written in the profile of ISO 8601 that the Internet uses, in universal time and
with as many groups of three fraction digits as are needed. They are read in a relaxed form of
it: blanks may stand between the parts, a blank may stand for the `T`, numbers may lack leading
zeros, and any offset may be given. Both the day as written and the day in universal time have
to be in the calendar.
-/

namespace Cutscene

/-- A point in time. -/
structure Instant where
  day : Int
  second : Nat
  nanos : Nat
deriving DecidableEq, Inhabited

namespace Instant

/-! ### The calendar -/

/-- The days before a year of the Gregorian calendar, counted from 1 January of the year 1. -/
def daysBeforeYear (year : Int) : Int :=
  let past := year - 1
  past * 365 + past / 4 - past / 100 + past / 400

/-- The years with a 29 February. -/
def isLeapYear (year : Int) : Bool :=
  year % 4 = 0 && (year % 100 != 0 || year % 400 = 0)

/-- The lengths of the months of a year. -/
def monthLengths (year : Int) : List Nat :=
  [31, if isLeapYear year then 29 else 28, 31, 30, 31, 30, 31, 31, 30, 31, 30, 31]

/-- The day number of 1 January 1970, counted from 1 January of the year 1. -/
def epoch : Int := 719162

/-- The days of the calendar, from the first one of the year -262143 to the last one of the
year 262142. -/
def InCalendar (day : Int) : Prop :=
  daysBeforeYear (-262143) - epoch ≤ day ∧ day < daysBeforeYear 262143 - epoch

instance (day : Int) : Decidable (InCalendar day) := by
  unfold InCalendar; infer_instance

/-- The day with a given date, if there is one. -/
def ofDate? (year : Int) (month day : Nat) : Option Int :=
  let lengths := monthLengths year
  if 1 ≤ month ∧ 1 ≤ day then
    match lengths[month - 1]? with
    | some length =>
      if day ≤ length then
        some (daysBeforeYear year + (weigh id (lengths.take (month - 1)) : Nat) + day - 1 - epoch)
      else none
    | none => none
  else none

/-- The month and the day in it of a day of the year, counted from 0. -/
def monthOf (month : Nat) : List Nat → Nat → Nat × Nat
  | [], rest => (month, rest + 1)
  | length :: more, rest => if rest < length then (month, rest + 1) else
    monthOf (month + 1) more (rest - length)

/-- The date of a day. The estimate of the year may be one too high. -/
def date (day : Int) : Int × Nat × Nat :=
  let n := day + epoch
  let estimate := n * 400 / 146097 + 1
  let year :=
    if n < daysBeforeYear estimate then estimate - 1
    else if daysBeforeYear (estimate + 1) ≤ n then estimate + 1
    else estimate
  let (month, dayOfMonth) := monthOf 1 (monthLengths year) (n - daysBeforeYear year).toNat
  (year, month, dayOfMonth)

/-! ### Milliseconds -/

/-- The milliseconds since the beginning of 1970, fractions cut off. -/
def millis (t : Instant) : Int :=
  (t.day * 86400 + t.second) * 1000 + (t.nanos / 1000000 : Nat)

/-- The milliseconds since the beginning of 1970, as they are kept in records. -/
def stamp (t : Instant) : Int64 := Int64.ofInt t.millis

/-- The instant so many milliseconds after the beginning of 1970. -/
def ofMillis (ms : Int) : Instant :=
  let seconds := ms / 1000
  ⟨seconds / 86400, (seconds % 86400).toNat, (ms % 1000).toNat * 1000000⟩

/-! ### Writing -/

/-- Decimal digits, filled up with zeros in front. -/
def padded (width n : Nat) : List Char :=
  let digits := Nat.toDigits 10 n
  List.replicate (width - digits.length) '0' ++ digits

/-- A year: four digits, or a sign and at least four digits. -/
def yearText (year : Int) : List Char :=
  if 0 ≤ year ∧ year ≤ 9999 then padded 4 year.toNat
  else (if year < 0 then '-' else '+') :: padded 4 year.natAbs

/-- A fraction of a second in groups of three digits. -/
def fractionText (nanos : Nat) : List Char :=
  if nanos = 0 then []
  else if nanos % 1000000 = 0 then '.' :: padded 3 (nanos / 1000000)
  else if nanos % 1000 = 0 then '.' :: padded 6 (nanos / 1000)
  else '.' :: padded 9 nanos

/-- The text of an instant. -/
def text (t : Instant) : String :=
  let (year, month, day) := date t.day
  let (leap, nanos) := if 1000000000 ≤ t.nanos then (1, t.nanos - 1000000000) else (0, t.nanos)
  String.ofList <|
    yearText year ++ '-' :: padded 2 month ++ '-' :: padded 2 day ++ 'T' ::
      padded 2 (t.second / 3600) ++ ':' :: padded 2 (t.second / 60 % 60) ++ ':' ::
      padded 2 (t.second % 60 + leap) ++ fractionText nanos ++ ['Z']

/-! ### Reading -/

/-- The text less the blanks before it. -/
def skipBlanks (text : List Char) : List Char := text.dropWhile Blank.isBlank

/-- A number of one to `width` digits. -/
def number? (width : Nat) (text : List Char) : Option (Nat × List Char) :=
  let digits := (text.take width).takeWhile Char.isDigit
  if digits = [] then none
  else some (Nat.ofDigitChars 10 digits 0, text.drop digits.length)

/-- A number of one to `width` digits, after blanks. -/
def blankNumber? (width : Nat) (text : List Char) : Option (Nat × List Char) :=
  number? width (skipBlanks text)

/-- A year, after blanks: up to four digits, or a sign and any number of digits. -/
def year? (text : List Char) : Option (Int × List Char) :=
  match skipBlanks text with
  | '-' :: rest => (number? rest.length rest).map fun (n, rest) => (-(n : Int), rest)
  | '+' :: rest => (number? rest.length rest).map fun (n, rest) => ((n : Int), rest)
  | rest => (number? 4 rest).map fun (n, rest) => ((n : Int), rest)

/-- One given character, after blanks. -/
def mark? (c : Char) (text : List Char) : Option (List Char) :=
  match skipBlanks text with
  | d :: rest => if d = c then some rest else none
  | [] => none

/-- The nanoseconds of an optional fraction. Digits after the ninth are cut off. -/
def fraction? : List Char → Option (Nat × List Char)
  | '.' :: rest =>
    let digits := rest.takeWhile Char.isDigit
    if digits = [] then none
    else
      let kept := digits.take 9
      some (Nat.ofDigitChars 10 kept 0 * Nat.pow 10 (9 - kept.length), rest.dropWhile Char.isDigit)
  | text => some (0, text)

/-- Two digits. -/
def twoDigits? : List Char → Option (Nat × List Char)
  | a :: b :: rest =>
    if a.isDigit ∧ b.isDigit then some (Nat.ofDigitChars 10 [a, b] 0, rest) else none
  | _ => none

/-- The seconds by which a place is ahead of universal time. -/
def offset? (text : List Char) : Option (Int × List Char) :=
  match text with
  | 'Z' :: rest | 'z' :: rest => some (0, rest)
  | sign :: rest =>
    if (text.take 3).map Char.toLower = ['u', 't', 'c'] then some (0, text.drop 3)
    else if sign = '+' ∨ sign = '-' ∨ sign = '−' then do
      let (hours, rest) ← twoDigits? rest
      let (minutes, rest) ←
        twoDigits? (rest.dropWhile fun c => c = ':' ∨ Blank.isBlank c)
      let seconds : Int := hours * 3600 + minutes * 60
      if minutes < 60 ∧ hours < 24 then
        some (if sign = '+' then seconds else -seconds, rest)
      else none
    else none
  | [] => none

/-- Reads an instant. -/
def ofChars? (text : List Char) : Option Instant := do
  let (year, text) ← year? text
  let text ← mark? '-' text
  let (month, text) ← blankNumber? 2 text
  let text ← mark? '-' text
  let (dayOfMonth, text) ← blankNumber? 2 text
  let text ← match text with
    | 'T' :: rest | 't' :: rest | ' ' :: rest => some rest
    | _ => none
  let (hour, text) ← blankNumber? 2 text
  let text ← mark? ':' text
  let (minute, text) ← blankNumber? 2 text
  let text ← mark? ':' text
  let (second, text) ← blankNumber? 2 text
  let (nanos, text) ← fraction? text
  let (offset, text) ← offset? (skipBlanks text)
  let day ← ofDate? year month dayOfMonth
  if hour < 24 ∧ minute < 60 ∧ second ≤ 60 ∧ skipBlanks text = [] then
    let (second, nanos) := if second = 60 then (59, nanos + 1000000000) else (second, nanos)
    let total : Int := hour * 3600 + minute * 60 + second - offset
    let universalDay := day + total / 86400
    if InCalendar day ∧ InCalendar universalDay then
      some ⟨universalDay, (total % 86400).toNat, nanos⟩
    else none
  else none

/-- An instant as a value. -/
def toJson (t : Instant) : Json := .string t.text

/-- An instant out of a string. -/
def ofJson? (j : Json) : Option Instant := j.text?.bind fun s => ofChars? s.toList

end Instant

end Cutscene
