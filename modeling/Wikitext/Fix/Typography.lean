import Wikitext.Fix.Basic

/-!
# Typography

Temperatures, non-breaking spaces, dashes, line breaks and white space.
-/

namespace Wikitext.Fix

open Pattern

def temperature : Replacement :=
  .of (group 1 digit ++ blanks ++ firstOf [lit "º", lit "°", lit "&deg;", lit "&ordm;"] ++
      blanks ++ group 2 (oneOf "CcFf") ++ boundary)
    fun m => m.group 1 ++ "°".toList ++ (m.group 2).map Char.toUpper

def temperatures (t : Text) : Text := temperature.apply t

def spaceEntity : Replacement := .of (lit "&nbsp;").caseless fun _ => "&nbsp;".toList

def units : Pattern :=
  firstOf (["km", "kg", "cm", "mm", "m", "mi", "ft", "lb", "kW", "MW", "mph", "km/h", "km²",
    "m²"].map lit)

def numberAndUnit : Replacement :=
  .of (boundary ++ group 1 (many1 digit ++ opt (lit "." ++ many1 digit)) ++ lit " " ++
      group 2 units ++ boundary)
    fun m => m.group 1 ++ "&nbsp;".toList ++ m.group 2

/-- Binds numbers to their units. -/
def nonBreakingSpaces (t : Text) : Text := numberAndUnit.apply (spaceEntity.apply t)

def dashTable : List Replacement := [
  .of (group 1 word ++ many1 (lit " ") ++ lit "--" ++ many1 (lit " ") ++ group 2 word)
    fun m => m.group 1 ++ "—".toList ++ m.group 2,
  .of (boundary ++ group 1 (lit "p" ++ opt (lit "p") ++ lit "." ++ blanks) ++
      group 2 (many1 digit) ++ blanks ++ lit "-" ++ blanks ++ group 3 (many1 digit) ++ boundary)
    fun m => m.group 1 ++ m.group 2 ++ "–".toList ++ m.group 3,
  .of (lit "(" ++ group 1 (exactly 4 digit) ++ blanks ++ lit "-" ++ blanks ++
      group 2 (exactly 4 digit) ++ lit ")")
    fun m => "(".toList ++ m.group 1 ++ "–".toList ++ m.group 2 ++ ")".toList]

/-- Double hyphens become em dashes, hyphens in page and year ranges en dashes. -/
def dashes (t : Text) : Text := replaceUntilStable dashTable t

-- -----------------------------------------------------------------------------------------
-- White space
-- -----------------------------------------------------------------------------------------

def breakTag : Pattern :=
  (lit "<" ++ blanks ++ opt (lit "/") ++ blanks ++ lit "br" ++ blanks ++ opt (lit "/") ++ blanks ++
    lit ">").caseless

def breakRun : Regex := (breakTag ++ many1 (blanks ++ breakTag)).compile

/-- A run of line break tags becomes one line break, or nothing at either end of the text. -/
def lineBreakRuns (t : Text) : Text :=
  breakRun.replaceAll
    (fun m =>
      if Text.isBlankText (t.take (m.offset t.length)) || Text.isBlankText m.after then []
      else "\r\n".toList)
    t

def trailingGap : Replacement :=
  .of (someGap ++ group 1 (opt (lit "\r")) ++ lineEnd) fun m => m.group 1

def blankLines : Replacement :=
  .of (lit "\n" ++ atLeast 2 (gap ++ opt (lit "\r") ++ lit "\n")) fun _ => "\n\n".toList

/-- Strips the ends of lines, joins runs of blank lines and trims the text. -/
def whiteSpace (t : Text) : Text := Text.trim (blankLines.apply (trailingGap.apply t))

end Wikitext.Fix
