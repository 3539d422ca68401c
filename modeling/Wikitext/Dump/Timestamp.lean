import Wikitext.Calendar
import Wikitext.Text.Number

/-!
# Times of revisions

A time is written with or without marks between its parts. Leading zeros may
be missing, and white space may stand before every number. A minute may have a
leap second.
-/

namespace Wikitext

structure Timestamp where
  year : Int
  month : Nat
  day : Nat
  hour : Nat
  minute : Nat
  second : Nat
  deriving DecidableEq, Repr

namespace Timestamp

/-- The years that can be represented. -/
def leastYear : Int := -262143

def mostYear : Int := 262142

def isValid (t : Timestamp) : Bool :=
  leastYear ≤ t.year && t.year ≤ mostYear && isCalendarDate t.year t.month t.day &&
    t.hour ≤ 23 && t.minute ≤ 59 && t.second ≤ 60

/-- A number of at most `width` digits, and the text after it. -/
def readNumber? (width : Nat) (t : Text) : Option (Nat × Text) :=
  let t := Text.trimStart t
  let digits := (t.take width).takeWhile Chars.isAsciiDigit
  if digits.isEmpty then none else some (Text.numberOfDigits 10 digits, t.drop digits.length)

/-- A year has four digits at most, but with a sign any number of them. -/
def readYear? (t : Text) : Option (Int × Text) :=
  match Text.trimStart t with
  | '-' :: t => (signed? t).map fun (n, rest) => (-(n : Int), rest)
  | '+' :: t => (signed? t).map fun (n, rest) => ((n : Int), rest)
  | t => (readNumber? 4 t).map fun (n, rest) => ((n : Int), rest)
where
  signed? (t : Text) : Option (Nat × Text) :=
    let digits := t.takeWhile Chars.isAsciiDigit
    if digits.isEmpty then none else some (Text.numberOfDigits 10 digits, t.drop digits.length)

/-- The marks after each of the six parts. -/
structure Notation where
  afterYear : Text := []
  afterMonth : Text := []
  afterDay : Text := []
  afterHour : Text := []
  afterMinute : Text := []
  afterSecond : Text := []

def marked : Notation where
  afterYear := "-".toList
  afterMonth := "-".toList
  afterDay := "T".toList
  afterHour := ":".toList
  afterMinute := ":".toList
  afterSecond := "Z".toList

def unmarked : Notation := {}

def readAs? (n : Notation) (t : Text) : Option Timestamp := do
  let (year, t) ← readYear? t
  let (month, t) ← readNumber? 2 (← Text.dropPrefix? n.afterYear t)
  let (day, t) ← readNumber? 2 (← Text.dropPrefix? n.afterMonth t)
  let (hour, t) ← readNumber? 2 (← Text.dropPrefix? n.afterDay t)
  let (minute, t) ← readNumber? 2 (← Text.dropPrefix? n.afterHour t)
  let (second, t) ← readNumber? 2 (← Text.dropPrefix? n.afterMinute t)
  let rest ← Text.dropPrefix? n.afterSecond t
  let time : Timestamp := { year, month, day, hour, minute, second }
  if rest.isEmpty && time.isValid then some time else none

/-- The time that a text gives in one notation or the other. -/
def read? (t : Text) : Option Timestamp :=
  let t := Text.trim t
  (readAs? marked t).or (readAs? unmarked t)

/-- Years of more than four digits have a sign, and so have those before the year zero. -/
def yearText (year : Int) : Text :=
  let digits := Text.padded 4 year.natAbs
  if year < 0 then '-' :: digits else if year > 9999 then '+' :: digits else digits

/-- The time in the notation with marks. -/
def text (t : Timestamp) : Text :=
  yearText t.year ++ marked.afterYear ++ Text.padded 2 t.month ++ marked.afterMonth ++
    Text.padded 2 t.day ++ marked.afterDay ++ Text.padded 2 t.hour ++ marked.afterHour ++
    Text.padded 2 t.minute ++ marked.afterMinute ++ Text.padded 2 t.second ++ marked.afterSecond

end Timestamp

end Wikitext
