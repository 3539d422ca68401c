import Wikitext.Pattern.Search
import Wikitext.Text.Number

/-!
# Replacement templates

A template is a text in which a dollar sign with a name in braces, or with a
name right after it, stands for what a group matched; two dollar signs stand
for one. A name is that of a group or its number. Groups that do not exist or
took no part stand for nothing, and a dollar sign that begins nothing of this
kind stands for itself.
-/

namespace Wikitext

/-- What a match provides to a template: the text of a group by its name. -/
abbrev GroupText := Text → Option Text

namespace Template

def isNameChar (c : Char) : Bool := Chars.isAlphanumeric c || c == '_'

/-- The group of a match that a name stands for: the one of that name, or else, if it does not
exist or took no part, the one of that number. -/
def groupText (names : List (Text × Nat)) (m : Match) : GroupText := fun name =>
  ((names.lookup name).bind m.group?).or ((Text.number? 10 name).bind m.group?)

/-- The name in braces at the start of a text, and the text after the closing brace. -/
def bracedName? : Text → Option (Text × Text)
  | '\x7b' :: t =>
    let name := t.takeWhile isNameChar
    match t.drop name.length with
    | '\x7d' :: rest => if name.isEmpty then none else some (name, rest)
    | _ => none
  | _ => none

/-- The name right at the start of a text, and the text after it. -/
def plainName? (t : Text) : Option (Text × Text) :=
  let name := t.takeWhile isNameChar
  if name.isEmpty then none else some (name, t.drop name.length)

/-- Fills in a template; the first argument bounds the number of its characters. -/
def expandAux (groups : GroupText) : Nat → Text → Text
  | 0, t => t
  | _ + 1, [] => []
  | n + 1, '$' :: t =>
    match t with
    | '$' :: rest => '$' :: expandAux groups n rest
    | t =>
      match (bracedName? t).orElse fun _ => plainName? t with
      | some (name, rest) => (groups name).getD [] ++ expandAux groups n rest
      | none => '$' :: expandAux groups n t
  | n + 1, c :: t => c :: expandAux groups n t

def expand (groups : GroupText) (t : Text) : Text := expandAux groups t.length t

/-- The template that stands for a plain text. -/
def literally (t : Text) : Text := t.flatMap fun c => if c == '$' then ['$', '$'] else [c]

/-- Puts braces around the numbers of groups, so that what follows them is not taken for a
part of the number, and doubles dollar signs that begin no reference. -/
def unambiguousAux : Nat → Text → Text
  | 0, t => t
  | _ + 1, [] => []
  | n + 1, '$' :: t =>
    let digits := t.takeWhile Chars.isAsciiDigit
    if !digits.isEmpty then
      "$\x7b".toList ++ digits ++ "\x7d".toList ++ unambiguousAux n (t.drop digits.length)
    else if t.head? == some '\x7b' && t.contains '\x7d' then '$' :: unambiguousAux n t
    else "$$".toList ++ unambiguousAux n (if t.head? == some '$' then t.drop 1 else t)
  | n + 1, c :: t => c :: unambiguousAux n t

def unambiguous (t : Text) : Text := unambiguousAux t.length t

end Template

end Wikitext
