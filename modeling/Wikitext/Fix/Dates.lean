import Wikitext.Fix.Basic

/-!
# Dates

Punctuation and ranges of dates, ordinals and the word "of". Only separators
are touched.
-/

namespace Wikitext.Fix

open Pattern

def dash : Pattern := oneOf "-–"

def dateTable : List Replacement := [
  -- May, 2009
  .of (boundary ++ group 1 months ++ lit "," ++ someGap ++ group 2 (exactly 4 digit) ++ boundary)
    fun m => m.group 1 ++ " ".toList ++ m.group 2,
  -- 1990's
  .of (boundary ++ group 1 (lit "1" ++ digit <|> lit "20") ++ group 2 (digit ++ lit "0") ++
      lit "'s" ++ boundary)
    fun m => m.group 1 ++ m.group 2 ++ "s".toList,
  -- 5-10 May
  .of (boundary ++ group 1 (between 1 2 digit) ++ gap ++ dash ++ gap ++
      group 2 (between 1 2 digit) ++ someGap ++ group 3 months ++ boundary)
    fun m => m.group 1 ++ "–".toList ++ m.group 2 ++ " ".toList ++ m.group 3,
  -- May 5-10
  .of (boundary ++ group 1 months ++ someGap ++ group 2 (between 1 2 digit) ++ gap ++ dash ++
      gap ++ group 3 (between 1 2 digit) ++ boundary)
    fun m => m.group 1 ++ " ".toList ++ m.group 2 ++ "–".toList ++ m.group 3]

def dates (t : Text) : Text := replaceUntilStable dateTable t

def ordinalSuffix : Pattern := firstOf [lit "st", lit "nd", lit "rd", lit "th"]

def ordinalTable : List Replacement := [
  -- May of 2009
  .of (boundary ++ group 1 months ++ someGap ++ lit "of" ++ someGap ++
      group 2 (between 3 4 digit) ++ boundary)
    fun m => m.group 1 ++ " ".toList ++ m.group 2,
  -- 5th of May
  .of (boundary ++ group 1 (between 1 2 digit) ++ opt ordinalSuffix ++ someGap ++ lit "of" ++
      someGap ++ group 2 months ++ boundary)
    fun m => m.group 1 ++ " ".toList ++ m.group 2,
  -- May 5th, 2009
  .of (boundary ++ group 1 months ++ someGap ++ group 2 (between 1 2 digit) ++ ordinalSuffix ++
      opt (lit ",") ++ someGap ++ group 3 (exactly 4 digit) ++ boundary)
    fun m => m.group 1 ++ " ".toList ++ m.group 2 ++ ", ".toList ++ m.group 3,
  -- 5th May 2009
  .of (boundary ++ group 1 (between 1 2 digit) ++ ordinalSuffix ++ someGap ++ group 2 months ++
      opt (lit ",") ++ someGap ++ group 3 (exactly 4 digit) ++ boundary)
    fun m => m.group 1 ++ " ".toList ++ m.group 2 ++ " ".toList ++ m.group 3]

def monthInTitle : Regex := (boundary ++ months ++ boundary).compile

/-- An article whose title names a month may mean what it writes. -/
def dateOrdinals (title t : Text) : Text :=
  if monthInTitle.isMatch title then t else replaceUntilStable ordinalTable t

end Wikitext.Fix
