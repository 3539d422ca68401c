import Wikitext.Chars.Entity
import Wikitext.Fix.Basic
import Wikitext.Text.Number

/-!
# Character references

References are replaced by the characters they stand for, unless the character
would be read as markup or could not be seen.
-/

namespace Wikitext.Fix

open Pattern

def asciiDigit : Pattern := .char Chars.isAsciiDigit

def hexDigit : Pattern := .char Chars.isHexDigit

def characterReference : Regex :=
  (lit "&" ++ firstOf [
      lit "#" ++ between 1 7 asciiDigit,
      lit "#" ++ oneOf "xX" ++ between 1 6 hexDigit,
      .char Chars.isAsciiLetter ++ between 1 31 (.char Chars.isAsciiAlphanumeric)] ++
    lit ";").compile

/-- The character that the inside of a reference stands for. -/
def referenced? : Text → Option Char
  | '#' :: 'x' :: digits => (Text.number? 16 digits).bind Chars.scalar?
  | '#' :: 'X' :: digits => (Text.number? 16 digits).bind Chars.scalar?
  | '#' :: digits => (Text.number? 10 digits).bind Chars.scalar?
  | name => Chars.namedCharacter? name

def isInvisible (c : Char) : Bool :=
  let n := c.toNat
  n == 0xAD || (0x200B ≤ n && n ≤ 0x200F) || (0x2028 ≤ n && n ≤ 0x202E) ||
    (0x2060 ≤ n && n ≤ 0x206F) || (0xFE00 ≤ n && n ≤ 0xFE0F) || n == 0xFEFF

/-- Markup and what cannot be seen. -/
def staysEncoded (c : Char) : Bool :=
  Chars.isBlank c || Chars.isControl c ||
    "[]\x7b\x7d|<>&'\"=*#:;~_".toList.contains c || isInvisible c

def decodeReference (m : Match) : Text :=
  match referenced? ((m.text.drop 1).dropLast) with
  | some c => if staysEncoded c then m.text else [c]
  | none => m.text

def characters (t : Text) : Text := characterReference.replaceAll decodeReference t

end Wikitext.Fix
