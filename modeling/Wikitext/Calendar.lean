/-!
# Calendar dates

The Gregorian calendar, extended to all years before and after.
-/

namespace Wikitext

def isLeapYear (year : Int) : Bool := year % 4 == 0 && (year % 100 != 0 || year % 400 == 0)

/-- The length of a month, zero if there is no such month. -/
def daysInMonth (year : Int) (month : Nat) : Nat :=
  if month == 2 then if isLeapYear year then 29 else 28
  else if [4, 6, 9, 11].contains month then 30
  else if 1 ≤ month && month ≤ 12 then 31
  else 0

def isCalendarDate (year : Int) (month day : Nat) : Bool :=
  1 ≤ day && day ≤ daysInMonth year month

end Wikitext
