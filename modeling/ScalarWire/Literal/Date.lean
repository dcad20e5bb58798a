import ScalarWire.Calendar.Date
import ScalarWire.Error
import ScalarWire.Number.Numeral
import ScalarWire.Text.Digit
import ScalarWire.Text.Word

/-!
# Date literals

The four spellings of a date at the start of a text: year, month and day as numbers, day or
month first with the year last, month name first, and month name in the middle. A spelling is
recognised by its shape alone, with digits of any script; its fields then have to be numbers in
ASCII digits, and only after that a day of the calendar.
-/

namespace ScalarWire

/-- The order in which day and month are read where both are numbers and the year comes last. -/
inductive DateOrder where
  | mdy | dmy | ymd
  deriving DecidableEq, Repr

namespace Literal

open Text

/-- Year, month and day as written, the year counted within its era. -/
structure DateFields where
  year : Nat
  month : Nat
  day : Nat
  deriving DecidableEq, Repr

/-- At most `n` digits from the start of a text, and what follows. -/
def splitDigits (n : Nat) (s : List Char) : List Char × List Char :=
  let digits := (s.take n).takeWhile isDecimalDigit
  (digits, s.drop digits.length)

/-- All digits from the start of a text, and what follows. -/
def splitDigitRun (s : List Char) : List Char × List Char :=
  (s.takeWhile isDecimalDigit, s.dropWhile isDecimalDigit)

def isSeparator (c : Char) : Bool :=
  c == '-' || c == '/' || c == '.'

/-- Three fields of digits with the same separator twice, and what follows them. -/
structure NumericDate where
  first : List Char
  second : List Char
  third : List Char
  rest : List Char
  deriving DecidableEq, Repr

/-- A year of four digits or more, then month and day of one or two. -/
def yearFirst? (s : List Char) : Option NumericDate :=
  let (year, s) := splitDigitRun s
  match s with
  | sep :: s =>
    let (month, s) := splitDigits 2 s
    match s with
    | sep' :: s =>
      let (day, s) := splitDigits 2 s
      if 4 ≤ year.length ∧ isSeparator sep ∧ month ≠ [] ∧ sep' = sep ∧ day ≠ [] then
        some ⟨year, month, day, s⟩
      else none
    | [] => none
  | [] => none

/-- Two fields of one or two digits, then a year of two digits, or of four or more, that ends its
word. -/
def yearLast? (s : List Char) : Option NumericDate :=
  let (first, s) := splitDigits 2 s
  match s with
  | sep :: s =>
    let (second, s) := splitDigits 2 s
    match s with
    | sep' :: s =>
      let (year, s) := splitDigitRun s
      if first ≠ [] ∧ isSeparator sep ∧ second ≠ [] ∧ sep' = sep ∧
          (year.length = 2 ∨ 4 ≤ year.length) ∧ endsWord s then
        some ⟨first, second, year, s⟩
      else none
    | [] => none
  | [] => none

/-- A day and a year of digits around or behind the name of a month, and what follows them. -/
structure NamedDate where
  name : List Char
  day : List Char
  year : List Char
  rest : List Char
  deriving DecidableEq, Repr

/-- Three to nine letters from the start of a text, with a full stop that may follow them. -/
def splitName? (s : List Char) : Option (List Char × List Char) :=
  let name := s.takeWhile foldsToLetter
  let s := s.dropWhile foldsToLetter
  if 3 ≤ name.length ∧ name.length ≤ 9 then
    some (name, match s with
      | '.' :: s => s
      | s => s)
  else none

def ordinalEndings : List (List Char) :=
  ["st".toList, "nd".toList, "rd".toList, "th".toList]

def dropOrdinal (s : List Char) : List Char :=
  if ordinalEndings.contains ((s.take 2).map foldLetter) then s.drop 2 else s

def dropComma : List Char → List Char
  | ',' :: s => s
  | s => s

/-- Month name, day and year. A run of five digits is a day of one and a year of four, and a
longer run a day of two and the year. -/
def monthFirst? (s : List Char) : Option NamedDate :=
  (splitName? s).bind fun (name, s) =>
    let (digits, s) := splitDigitRun (trimStart s)
    if digits = [] ∨ digits.length = 3 ∨ digits.length = 4 then none
    else if digits.length ≤ 2 then
      let (year, s) := splitDigitRun (trimStart (dropComma (trimStart (dropOrdinal s))))
      if 4 ≤ year.length then some ⟨name, digits, year, s⟩ else none
    else
      let width := if digits.length = 5 then 1 else 2
      some ⟨name, digits.take width, digits.drop width, s⟩

/-- Drops a run of blanks, hyphens and, if they are let through, commas; it must not be empty. -/
def dropGap? (commas : Bool) (s : List Char) : Option (List Char) :=
  let inGap (c : Char) : Bool := isBlank c || c == '-' || commas && c == ','
  if (s.takeWhile inGap).isEmpty then none else some (s.dropWhile inGap)

/-- Day, month name and year, with gaps between them. -/
def dayFirst? (s : List Char) : Option NamedDate := do
  let (day, s) := splitDigits 2 s
  if day = [] then none
  let (name, s) ← splitName? (← dropGap? false s)
  let (year, s) := splitDigitRun (← dropGap? true s)
  if 4 ≤ year.length then some ⟨name, day, year, s⟩ else none

def monthNames : List (List Char) :=
  ["january".toList, "february".toList, "march".toList, "april".toList, "may".toList,
    "june".toList, "july".toList, "august".toList, "september".toList, "october".toList,
    "november".toList, "december".toList]

/-- The number of the first month whose name starts like this, in at least three letters. -/
def monthOfName? (name : List Char) : Option Nat :=
  if name.length < 3 then none
  else (monthNames.findIdx? fun full => (lower name).isPrefixOf full).map (· + 1)

/-- A year has to fit a signed 32-bit word. -/
def readYear? (s : List Char) : Option Nat :=
  (Numeral.read? s).filter (· < 0x80000000)

/-- Years of two digits lie between 1970 and 2069. -/
def pivotYear (year : Nat) : Nat :=
  if year < 70 then 2000 + year else 1900 + year

def yearFirstFields? (d : NumericDate) : Option DateFields := do
  return ⟨← readYear? d.first, ← Numeral.read? d.second, ← Numeral.read? d.third⟩

/-- Under `ymd` the year comes first where all three fields have two digits. -/
def yearLastFields? (order : DateOrder) (d : NumericDate) : Option DateFields := do
  let first ← Numeral.read? d.first
  let second ← Numeral.read? d.second
  let third ← readYear? d.third
  let year := if d.third.length = 2 then pivotYear third else third
  match order with
  | .dmy => return ⟨year, second, first⟩
  | .mdy => return ⟨year, first, second⟩
  | .ymd =>
    if d.third.length = 2 ∧ d.first.length = 2 then return ⟨pivotYear first, second, third⟩
    else return ⟨year, first, second⟩

def namedFields? (month : Nat) (d : NamedDate) : Option DateFields := do
  return ⟨← readYear? d.year, month, ← Numeral.read? d.day⟩

/-- The part of a text that was read before `rest`. -/
def consumed (s rest : List Char) : List Char :=
  s.take (s.length - rest.length)

/-- The fields of a recognised spelling, unless one of them cannot be read. -/
def complete (type : WireType) (s rest : List Char) (fields : Option DateFields) :
    Except CodecError (DateFields × List Char) :=
  match fields with
  | some fields => pure (fields, rest)
  | none => throw (.outOfRange type (String.ofList (consumed s rest)))

/-- A spelling with a month name, once that name is known. -/
def named? (date : Option NamedDate) : Option (NamedDate × Nat) :=
  date.bind fun d => (monthOfName? d.name).map fun month => (d, month)

/-- Reads a date at the start of a text; the first spelling that fits decides. -/
def readDate (type : WireType) (order : DateOrder) (s : List Char) :
    Except CodecError (DateFields × List Char) :=
  match yearFirst? s with
  | some d => complete type s d.rest (yearFirstFields? d)
  | none =>
    match yearLast? s with
    | some d => complete type s d.rest (yearLastFields? order d)
    | none =>
      match named? (monthFirst? s) <|> named? (dayFirst? s) with
      | some (d, month) => complete type s d.rest (namedFields? month d)
      | none => throw (.malformed type (String.ofList s))

/-- The day that the fields name; there is no year 0 in either era. -/
def DateFields.toDate? (bc : Bool) (d : DateFields) : Option Date :=
  if d.year = 0 then none
  else Date.ofFields? (if bc then 1 - d.year else d.year) d.month d.day

end Literal

end ScalarWire
