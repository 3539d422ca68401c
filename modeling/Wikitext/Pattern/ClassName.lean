import Wikitext.Chars.GeneralCategory
import Wikitext.Chars.Script
import Wikitext.Chars.Word
import Wikitext.Text.Basic

/-!
# Classes by name

The ASCII classes that are written between colons, and the classes of Unicode
properties: general categories, scripts and a few properties that are true or
false of a character. In the names of properties neither case nor spaces,
hyphens and underscores count, nor does "is" at the start.
-/

namespace Wikitext.Pattern

def asciiClass? (name : String) : Option (Char → Bool) :=
  let isGraph (c : Char) := '!' ≤ c && c ≤ '~'
  match name with
  | "alnum" => some Chars.isAsciiAlphanumeric
  | "alpha" => some Chars.isAsciiLetter
  | "ascii" => some fun c => c.toNat < 0x80
  | "blank" => some fun c => c == '\t' || c == ' '
  | "cntrl" => some fun c => c.toNat < 0x20 || c.toNat == 0x7F
  | "digit" => some Chars.isAsciiDigit
  | "graph" => some isGraph
  | "lower" => some fun c => 'a' ≤ c && c ≤ 'z'
  | "print" => some fun c => c == ' ' || isGraph c
  | "punct" => some fun c => isGraph c && !Chars.isAsciiAlphanumeric c
  | "space" => some fun c => c == ' ' || (0x09 ≤ c.toNat && c.toNat ≤ 0x0D)
  | "upper" => some fun c => 'A' ≤ c && c ≤ 'Z'
  | "word" => some fun c => Chars.isAsciiAlphanumeric c || c == '_'
  | "xdigit" => some Chars.isHexDigit
  | _ => none

-- -----------------------------------------------------------------------------------------
-- Properties
-- -----------------------------------------------------------------------------------------

/-- The characters of a name that count. -/
def normalName (name : Text) : String :=
  let lower := name.map Char.toLower
  let kept (t : Text) : Text := t.filter fun c => !(" _-".toList.contains c) && c.toNat < 0x80
  let rest := kept ((Text.dropPrefix? "is".toList lower).getD lower)
  -- The short name of the other characters is not "isc".
  String.ofList (if Text.startsWith lower "is".toList && rest == ['c'] then "isc".toList else rest)

/-- The long names of categories and groups of categories, each with the short ones. -/
def longCategoryNames : List (String × List String) := [
  ("unassigned", ["Cn"]), ("control", ["Cc"]), ("cntrl", ["Cc"]), ("format", ["Cf"]),
  ("privateuse", ["Co"]), ("surrogate", ["Cs"]), ("lowercaseletter", ["Ll"]),
  ("modifierletter", ["Lm"]), ("otherletter", ["Lo"]), ("titlecaseletter", ["Lt"]),
  ("uppercaseletter", ["Lu"]), ("spacingmark", ["Mc"]), ("enclosingmark", ["Me"]),
  ("nonspacingmark", ["Mn"]), ("decimalnumber", ["Nd"]), ("digit", ["Nd"]),
  ("letternumber", ["Nl"]), ("othernumber", ["No"]), ("connectorpunctuation", ["Pc"]),
  ("dashpunctuation", ["Pd"]), ("closepunctuation", ["Pe"]), ("finalpunctuation", ["Pf"]),
  ("initialpunctuation", ["Pi"]), ("otherpunctuation", ["Po"]), ("openpunctuation", ["Ps"]),
  ("currencysymbol", ["Sc"]), ("modifiersymbol", ["Sk"]), ("mathsymbol", ["Sm"]),
  ("othersymbol", ["So"]), ("lineseparator", ["Zl"]), ("paragraphseparator", ["Zp"]),
  ("spaceseparator", ["Zs"]), ("lc", ["Ll", "Lt", "Lu"]), ("casedletter", ["Ll", "Lt", "Lu"]),
  ("c", ["Cc", "Cf", "Cn", "Co", "Cs"]), ("other", ["Cc", "Cf", "Cn", "Co", "Cs"]),
  ("l", ["Ll", "Lm", "Lo", "Lt", "Lu"]), ("letter", ["Ll", "Lm", "Lo", "Lt", "Lu"]),
  ("m", ["Mc", "Me", "Mn"]), ("mark", ["Mc", "Me", "Mn"]), ("combiningmark", ["Mc", "Me", "Mn"]),
  ("n", ["Nd", "Nl", "No"]), ("number", ["Nd", "Nl", "No"]),
  ("p", ["Pc", "Pd", "Pe", "Pf", "Pi", "Po", "Ps"]),
  ("punct", ["Pc", "Pd", "Pe", "Pf", "Pi", "Po", "Ps"]),
  ("punctuation", ["Pc", "Pd", "Pe", "Pf", "Pi", "Po", "Ps"]),
  ("s", ["Sc", "Sk", "Sm", "So"]), ("symbol", ["Sc", "Sk", "Sm", "So"]),
  ("z", ["Zl", "Zp", "Zs"]), ("separator", ["Zl", "Zp", "Zs"])]

def categoryClass? (name : String) : Option (Char → Bool) :=
  match name with
  | "any" => some fun _ => true
  | "assigned" => some fun c => Chars.category c != "Cn"
  | "ascii" => some fun c => c.toNat < 0x80
  | _ =>
    let short := Chars.categoryNames.toList.find? (·.toLower == name)
    ((short.map ([·])).or (longCategoryNames.lookup name)).map fun names c =>
      names.contains (Chars.category c)

def scriptClass? (name : String) : Option (Char → Bool) := (Chars.script? name).map (·.contains)

def binaryProperty? (name : String) : Option (Char → Bool) :=
  match name with
  | "whitespace" | "wspace" | "space" => some Chars.isBlank
  | "alphabetic" | "alpha" => some Chars.isAlphabetic
  | "lowercase" | "lower" => some Chars.isLowercase
  | "uppercase" | "upper" => some Chars.isUppercase
  | "hexdigit" | "hex" => some fun c =>
    Chars.isHexDigit c ||
      (0xFF00 ≤ c.toNat && c.toNat < 0xFF80 && Chars.isHexDigit (Char.ofNat (c.toNat - 0xFEE0)))
  | "asciihexdigit" | "ahex" => some Chars.isHexDigit
  | _ => none

/-- The class of a name on its own. -/
def property? (name : Text) : Option (Char → Bool) :=
  let name := normalName name
  (binaryProperty? name).or ((categoryClass? name).or (scriptClass? name))

/-- The class of the characters that have a value of a property. -/
def propertyValue? (property value : Text) : Option (Char → Bool) :=
  let value := normalName value
  match normalName property with
  | "gc" | "generalcategory" => categoryClass? value
  | "sc" | "script" => scriptClass? value
  | _ => none

/-- The class that stands in the braces after `\p`; an exclamation mark before the equals sign
takes the opposite. -/
def namedClass? (t : Text) : Option (Char → Bool) :=
  let valued (separator : String) : Option (Text × Text) :=
    match Text.cut separator.toList t with
    | name :: value@(_ :: _) => some (name, Text.join separator.toList value)
    | _ => none
  match valued "!=", valued ":", valued "=" with
  | some (name, value), _, _ => (propertyValue? name value).map fun accepts c => !accepts c
  | none, some (name, value), _ => propertyValue? name value
  | none, none, some (name, value) => propertyValue? name value
  | none, none, none => property? t

end Wikitext.Pattern
