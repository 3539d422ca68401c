import Wikitext.Calendar
import Wikitext.Fix.Dates
import Wikitext.Text.Number

/-!
# Citation templates

Unpadded dates, a single page that is a range, hyphens in page ranges,
addresses without a scheme and empty parameters, inside citation templates
only.
-/

namespace Wikitext.Fix

open Pattern

def citationTemplate : Regex :=
  (lit "\x7b\x7b" ++ gap ++
    (lit "cite" ++ oneOf " _" ++ many (noneOf "|\x7b\x7d") <|> lit "citation") ++ gap ++
    lit "|" ++ many (noneOf "\x7b\x7d") ++ lit "\x7d\x7d").caseless.compile

def isoDateParameter : Regex :=
  (group 1 (lit "|" ++ gap ++
      firstOf [lit "access" ++ opt (lit "-") ++ lit "date", lit "date",
        lit "archive" ++ opt (lit "-") ++ lit "date"] ++ gap ++ lit "=" ++ gap) ++
    group 2 (exactly 4 digit) ++ lit "-" ++ group 3 (between 1 2 digit) ++ lit "-" ++
    group 4 (between 1 2 digit) ++ boundary).caseless.compile

def citationTable : List Replacement := [
  .of (group 1 (lit "|" ++ gap) ++ lit "page" ++
      group 2 (gap ++ lit "=" ++ gap ++ many1 digit ++ gap ++ dash ++ gap ++ many1 digit))
    fun m => m.group 1 ++ "pages".toList ++ m.group 2,
  .of (group 1 (lit "|" ++ gap ++ lit "pages" ++ gap ++ lit "=" ++ gap) ++
      group 2 (many1 digit) ++ gap ++ lit "-" ++ gap ++ group 3 (many1 digit) ++ boundary)
    fun m => m.group 1 ++ m.group 2 ++ "–".toList ++ m.group 3,
  .of (group 1 (lit "|" ++ gap ++ lit "url" ++ gap ++ lit "=" ++ gap) ++ group 2 (lit "www."))
    fun m => m.group 1 ++ "http://".toList ++ m.group 2,
  .of (lit "|" ++ gap ++ lit "|") fun _ => "|".toList]

/-- Dates that do not exist stay as they are. -/
def padDate (m : Match) : Text :=
  match Text.number? 10 (m.group 2), Text.number? 10 (m.group 3), Text.number? 10 (m.group 4) with
  | some year, some month, some day =>
    if isCalendarDate year month day then
      m.group 1 ++ Text.padded 4 year ++ "-".toList ++ Text.padded 2 month ++ "-".toList ++
        Text.padded 2 day
    else m.text
  | _, _, _ => m.text

def repairCitation (m : Match) : Text :=
  isoDateParameter.replaceAll padDate (replaceUntilStable citationTable m.text)

def citations (t : Text) : Text := untilStable (citationTemplate.replaceAll repairCitation) t

end Wikitext.Fix
