import Wikitext.Fix.Headings

/-!
# The title in bold

A lead section without bold text gets its title emboldened: a link of the
article to itself, or else the first mention in the first line of prose.
-/

namespace Wikitext.Fix

open Pattern

def firstHeading : Regex := (lineStart ++ lit "==").compile

/-- How lines begin that are no prose. -/
def notProse : List Text :=
  ["\x7b\x7b", "\x7d\x7d", "\x7b|", "|", "!", "[[File:", "[[Image:", ":", "*", "#", ";", "<",
    "⌊"].map String.toList

def isProse (line : Text) : Bool :=
  let line := Text.trim line
  !line.isEmpty && !notProse.any (Text.startsWith line ·)

/-- The lines of a text, each with the line feed that ends it. -/
def linesOf : Text → List Text
  | [] => []
  | c :: cs =>
    if c == '\n' then [c] :: linesOf cs
    else match linesOf cs with
      | [] => [[c]]
      | line :: lines => (c :: line) :: lines

def selfLink (title : Text) : Regex :=
  let name := Title.pattern title
  (lit "[[" ++ blanks ++ group 1 name ++ blanks ++ lit "]]" <|>
    lit "[[" ++ blanks ++ name ++ blanks ++ lit "|" ++ group 2 (many1 (noneOf "[]|")) ++
      lit "]]").compile

/-- The title as a word of its own, at the ends that are letters or digits. -/
def mention (title : Text) : Regex :=
  let edge (c : Option Char) := if c.any Chars.isAlphanumeric then boundary else .empty
  (edge title.head? ++ Title.pattern title ++ edge title.getLast?).compile

def isOpen (opening closing : String) (t : Text) : Bool :=
  Text.occurrences closing.toList t < Text.occurrences opening.toList t

/-- The part of a line before a place is outside links and templates. -/
def isOutside (before : Text) : Bool :=
  !isOpen "[[" "]]" before && !isOpen "\x7b\x7b" "\x7d\x7d" before

def bold (t : Text) : Text := boldMark ++ t ++ boldMark

def boldMention? (title line : Text) : Option Text :=
  let outside := (mention title).matches' line |>.find? fun m =>
    isOutside (line.take (m.offset line.length))
  outside.map fun m => line.take (m.offset line.length) ++ bold m.text ++ m.after

/-- The lines with a mention in the first line of prose made bold. -/
def boldInLines? (title : Text) : List Text → Option (List Text)
  | [] => none
  | line :: lines =>
    if isProse line then (boldMention? title line).map (· :: lines)
    else (boldInLines? title lines).map (line :: ·)

def boldTitle (title t : Text) : Text :=
  let title := Text.trim title
  if title.isEmpty then t
  else
    let leadLength := match firstHeading.find? t with
      | some m => m.offset t.length
      | none => t.length
    let lead := t.take leadLength
    let body := t.drop leadLength
    if Text.includes lead boldMark then t
    else match (selfLink title).find? lead with
      | some m =>
        let shown := ((m.group? 1).orElse fun _ => m.group? 2).getD []
        lead.take (m.offset lead.length) ++ bold shown ++ m.after ++ body
      | none =>
        match boldInLines? title (linesOf lead) with
        | some lines => lines.flatten ++ body
        | none => t

end Wikitext.Fix
