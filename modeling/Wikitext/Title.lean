import Wikitext.Pattern.Written
import Wikitext.Pattern.Search
import Wikitext.Profile

/-!
# Page names

Page names do not distinguish the case of their first letter. The same notion
appears as a comparison, as a pattern and as the written form of that pattern.
-/

namespace Wikitext.Title

def upperFirst : Text → Text
  | [] => []
  | c :: cs => Chars.toUpper c ++ cs

def sameName (a b : Text) : Bool := upperFirst a == upperFirst b

/-- The name with its first letter in either case, its other characters as `one` says. -/
def patternWith (one : Char → Pattern) : Text → Pattern
  | [] => .empty
  | c :: cs =>
    let upper := Chars.toUpper c
    let lower := Chars.toLower c
    let spell (t : Text) := Pattern.inOrder (t.map one)
    if upper == lower then spell (c :: cs) else (spell upper <|> spell lower) ++ spell cs

def pattern (name : Text) : Pattern := patternWith Pattern.single name

/-- The written form of `pattern`. -/
def patternText : Text → Text
  | [] => []
  | c :: cs =>
    let literally := Pattern.escape Pattern.reservedPlain
    let upper := Chars.toUpper c
    let lower := Chars.toLower c
    if upper == lower then literally (c :: cs)
    else "(?:".toList ++ literally upper ++ ['|'] ++ literally lower ++ [')'] ++ literally cs

end Wikitext.Title
