import Wikitext.Vocabulary

/-!
# Malformed markup

External links in double brackets, doubled pipes, bold and italic tags, broken
line break tags, overlong rules, book numbers and redundant template prefixes.
-/

namespace Wikitext.Fix

open Pattern

/-- A web address up to white space, a bracket or a pipe. -/
def address : Pattern := scheme ++ many1 (noneOfOrBlank "[]|")

def label : Pattern := many1 (noneOf "[]")

def externalLink (m : Match) : Text :=
  "[".toList ++ m.group 1 ++ " ".toList ++ m.group 2 ++ "]".toList

def markupTable : List Replacement := [
  .of (lit "[[" ++ group 1 address ++ blanks ++ lit "|" ++ blanks ++ group 2 label ++ lit "]]")
    externalLink,
  .of (lit "[[" ++ group 1 address ++ many1 blank ++ group 2 label ++ lit "]]") externalLink,
  .of (lit "[[" ++ group 1 address ++ lit "]]")
    fun m => "[".toList ++ m.group 1 ++ "]".toList,
  .of (lit "[" ++ group 1 address ++ blanks ++ lit "|" ++ blanks ++ group 2 label ++ lit "]")
    externalLink,
  .of (lit "[[" ++ group 1 (many1 (noneOf "[]|")) ++ lit "||" ++ group 2 label ++ lit "]]")
    fun m => "[[".toList ++ m.group 1 ++ "|".toList ++ m.group 2 ++ "]]".toList,
  .of (lit "<b>" ++ group 1 (many (noneOf "<>\n")) ++ lit "</b>").caseless
    fun m => "'''".toList ++ m.group 1 ++ "'''".toList,
  .of (lit "<i>" ++ group 1 (many (noneOf "<>\n")) ++ lit "</i>").caseless
    fun m => "''".toList ++ m.group 1 ++ "''".toList,
  .of (firstOf [lit "</br" ++ blanks ++ lit ">",
      lit "<br" ++ blanks ++ oneOf "\\." ++ blanks ++ lit ">",
      lit "<\\br" ++ blanks ++ lit ">"]).caseless
    fun _ => "<br />".toList,
  .of (lineStart ++ atLeast 5 (lit "-") ++ gap ++ lineEnd) fun _ => "----".toList,
  .of (boundary ++ lit "ISBN" ++ opt (lit "-1" ++ oneOf "03") ++ blanks ++ lit ":" ++ blanks ++
      group 1 digit)
    fun m => "ISBN ".toList ++ m.group 1]

def markup (v : Vocabulary) (t : Text) : Text :=
  untilStable
    (fun t => v.templatePrefix.replaceAll (fun _ => "\x7b\x7b".toList)
      (replaceUntilStable markupTable t)) t

end Wikitext.Fix
