import Wikitext.Chars.Base
import Wikitext.Pattern.Search

/-!
# Sort keys

Titles are sorted without accents, biographies by family name.
-/

namespace Wikitext.SortKey

open Pattern

/-- Letters that have no canonical decomposition but sort like others. -/
def plainLetters (c : Char) : Text :=
  match c with
  | 'ø' => ['o']
  | 'Ø' => ['O']
  | 'ł' => ['l']
  | 'Ł' => ['L']
  | 'đ' => ['d']
  | 'Đ' => ['D']
  | 'ß' => ['s', 's']
  | 'æ' => ['a', 'e']
  | 'Æ' => ['A', 'e']
  | 'œ' => ['o', 'e']
  | 'Œ' => ['O', 'e']
  | 'þ' => ['t', 'h']
  | 'Þ' => ['T', 'h']
  | 'ı' => ['i']
  | c => [c]

def withoutDiacritics (t : Text) : Text := (t.flatMap Chars.baseLetters).flatMap plainLetters

/-- A parenthesis at the end of a title. -/
def disambiguator : Regex :=
  (blanks ++ lit "(" ++ many (noneOf "()") ++ lit ")" ++ blanks ++ textEnd).compile

/-- A generational suffix at the end of a name. -/
def generation : Regex :=
  (opt (lit ",") ++ many1 blank ++
    group 1 (oneOf "JS" ++ lit "r" ++ opt (lit ".") <|>
      firstOf [between 1 3 (lit "I"), lit "IV", lit "V" ++ between 0 3 (lit "I")]) ++
    textEnd).compile

/-- Family name first, given names after a comma, a generational suffix last. -/
def ofPerson (name : Text) : Text :=
  let name := withoutDiacritics (Text.trim (disambiguator.replaceFirst (fun _ => []) name))
  let suffix := generation.find? name
  if name.contains ',' && suffix.isNone then name
  else
    let plain := match suffix with
      | some m => name.take (m.offset name.length)
      | none => name
    let key := match Text.splitLast? ' ' plain with
      | some (given, family) => family ++ ", ".toList ++ Text.trim given
      | none => plain
    match suffix with
    | some m => key ++ ", ".toList ++ m.group 1
    | none => key

end Wikitext.SortKey
