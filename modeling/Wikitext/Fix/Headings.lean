import Wikitext.Fix.Basic
import Wikitext.Title

/-!
# Headings

The form of section headings. A heading that repeats the title of the article
at its very start is dropped.
-/

namespace Wikitext.Fix

open Pattern

def heading : Regex :=
  (lineStart ++ group 1 (many1 (lit "=")) ++
    group 2 (noneOf "=\n" ++ manyLazy (.char inLine)) ++ group 3 (many1 (lit "=")) ++ gap ++
    lineEnd).compile

/-- Standard section names and the spellings they replace, compared without ASCII case. -/
def standardNames : List (String × String) := [
  ("see also", "See also"),
  ("external links", "External links"),
  ("external link", "External links"),
  ("further reading", "Further reading"),
  ("references", "References"),
  ("notes", "Notes")]

def boldMark : Text := "'''".toList

/-- The name without bold marks around it, unless there are others inside. -/
def withoutBold (name : Text) : Text :=
  if 6 < name.length && Text.startsWith name boldMark && Text.endsWith name boldMark then
    let inner := Text.slice name 3 (name.length - 3)
    if Text.includes inner boldMark then name else Text.trim inner
  else name

def standardName (name : Text) : Text :=
  match standardNames.find? fun (spelling, _) => Text.eqAsciiCase name spelling.toList with
  | some (_, proper) => proper.toList
  | none => name

/-- Marks of unequal length are left for a human, and so is a name that would end in a mark. -/
def normalHeading (m : Match) : Text :=
  let marks := m.group 1
  let inner := m.group 2
  if marks.length != (m.group 3).length then m.text
  else
    let name := withoutBold (Text.trim inner)
    let name := Text.trimEnd ((Text.dropSuffix? ":".toList name).getD name)
    if name.getLast? == some '=' then m.text
    else
      let marks := List.replicate (max marks.length 2) '='
      let space := if inner.head?.any (" \t".toList.contains ·) then " ".toList else []
      marks ++ space ++ standardName name ++ space ++ marks

def dropTitleHeading (title t : Text) : Text :=
  let body := Text.trimStart t
  match heading.find? body with
  | some m =>
    if m.offset body.length == 0 && Title.sameName (Text.trim (m.group 2)) title then
      Text.trim m.after
    else t
  | none => t

def headings (title t : Text) : Text :=
  untilStable (fun t => dropTitleHeading title (heading.replaceAll normalHeading t)) t

end Wikitext.Fix
