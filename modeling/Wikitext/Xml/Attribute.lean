import Wikitext.Chars.Entity
import Wikitext.Text.Basic
import Wikitext.Text.Number

/-!
# References and attributes

An ampersand begins a reference, which a semicolon ends. Five names are known;
a reference by number stands for the character with that code point, which must
not be zero.

Attributes are read from the text of a tag behind its name: a key, an equals
sign and a value in quotes, with white space between them as one likes. Reading
stops at the first fault, and a key that comes again is one.
-/

namespace Wikitext.Xml

-- -----------------------------------------------------------------------------------------
-- References
-- -----------------------------------------------------------------------------------------

def predefined? (name : Text) : Option Char :=
  match String.ofList name with
  | "lt" => some '<'
  | "gt" => some '>'
  | "amp" => some '&'
  | "apos" => some '\x27'
  | "quot" => some '\x22'
  | _ => none

def numbered? (t : Text) : Option Char := do
  let n ← match t with
    | 'x' :: digits => Text.number? 16 digits
    | digits => Text.number? 10 digits
  if n == 0 then none else Chars.scalar? n

/-- The character that the inside of a reference stands for. -/
def referenced? : Text → Option Char
  | '#' :: number => numbered? number
  | name => predefined? name

/-- The text with its references replaced, if all of them are sound. -/
def unescape? (t : Text) : Option Text :=
  let front := t.takeWhile (· != '&')
  match _h : t.drop front.length with
  | [] => some front
  | _ :: t =>
    let inside := t.takeWhile fun c => c != '&' && c != ';'
    match _h' : t.drop inside.length with
    | ';' :: rest => do
      let c ← referenced? inside
      return front ++ c :: (← unescape? rest)
    | _ => none
termination_by t.length
decreasing_by
  have h := congrArg List.length _h
  have h' := congrArg List.length _h'
  simp only [List.length_drop, List.length_cons] at h h'
  omega

-- -----------------------------------------------------------------------------------------
-- Attributes
-- -----------------------------------------------------------------------------------------

def isSpace (b : UInt8) : Bool := b == 0x20 || b == 0x09 || b == 0x0A || b == 0x0D

def quotes : List UInt8 := [0x22, 0x27]

def equalsSign : UInt8 := 0x3D

structure Attribute where
  key : Bytes
  value : Bytes
  deriving DecidableEq, Repr

/-- The attributes read, and whether the text ends with them. -/
structure Attributes where
  read : List Attribute
  complete : Bool
  deriving DecidableEq, Repr

/-- The attribute at the start of a text without space in front, and the text after it. The
key has at least one character, which may be anything. -/
def attribute? : Bytes → Option (Attribute × Bytes)
  | [] => none
  | b :: t =>
    let key := b :: t.takeWhile fun b => !(b == equalsSign || isSpace b)
    match (t.drop (key.length - 1)).dropWhile isSpace with
    | sign :: t =>
      if sign == equalsSign then
        match t.dropWhile isSpace with
        | quote :: t =>
          let value := t.takeWhile (· != quote)
          match t.drop value.length with
          | _ :: rest => if quotes.contains quote then some (⟨key, value⟩, rest) else none
          | [] => none
        | [] => none
      else none
    | [] => none

/-- Reads attributes, at most as many as the first argument says. -/
def attributesFrom : Nat → (seen : List Bytes) → Bytes → Attributes
  | 0, _, t => ⟨[], t.all isSpace⟩
  | n + 1, seen, t =>
    match t.dropWhile isSpace with
    | [] => ⟨[], true⟩
    | t =>
      match attribute? t with
      | none => ⟨[], false⟩
      | some (a, rest) =>
        if seen.contains a.key then ⟨[], false⟩
        else
          let others := attributesFrom n (a.key :: seen) rest
          { others with read := a :: others.read }

def attributes (t : Bytes) : Attributes := attributesFrom t.length [] t

/-- The value as a text, if it is one. -/
def Attribute.text? (a : Attribute) : Option Text := (Text.ofBytes? a.value).bind unescape?

end Wikitext.Xml
