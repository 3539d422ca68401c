import Wikitext.Chars.Basic

/-!
# Texts

A text is a list of characters. This module has the operations on plain texts
that need no pattern: trimming, searching for a fixed piece, cutting at a
character, joining, and the UTF-8 form of a text. Positions count characters;
only `byteSize` counts the bytes of the UTF-8 form.
-/

namespace Wikitext

abbrev Text := List Char

abbrev Bytes := List UInt8

namespace Text

open Chars (isBlank)

-- -----------------------------------------------------------------------------------------
-- Trimming
-- -----------------------------------------------------------------------------------------

def trimStart (t : Text) : Text := t.dropWhile isBlank

def trimEnd (t : Text) : Text := (t.reverse.dropWhile isBlank).reverse

def trim (t : Text) : Text := trimEnd (trimStart t)

def isBlankText (t : Text) : Bool := t.all isBlank

-- -----------------------------------------------------------------------------------------
-- Fixed pieces
-- -----------------------------------------------------------------------------------------

def dropPrefix? : Text → Text → Option Text
  | [], t => some t
  | _ :: _, [] => none
  | p :: ps, c :: cs => if p == c then dropPrefix? ps cs else none

theorem dropPrefix?_eq_some {p t rest : Text} : dropPrefix? p t = some rest ↔ t = p ++ rest := by
  induction p generalizing t with
  | nil => simp [dropPrefix?]
  | cons x p ih =>
    cases t with
    | nil => simp [dropPrefix?]
    | cons c t =>
      by_cases hx : x = c
      · simp [dropPrefix?, hx, ih]
      · simp [dropPrefix?, hx, Ne.symm hx]

def startsWith (t p : Text) : Bool := (dropPrefix? p t).isSome

def endsWith (t p : Text) : Bool := startsWith t.reverse p.reverse

def dropSuffix? (p t : Text) : Option Text := (dropPrefix? p.reverse t.reverse).map List.reverse

def includes (t piece : Text) : Bool :=
  match t with
  | [] => piece.isEmpty
  | c :: cs => startsWith (c :: cs) piece || includes cs piece

/-- The parts of `t` between the non-overlapping occurrences of `piece`, found from left to
right. The first argument counts the characters of an occurrence still to be passed over. -/
def cutAux (piece : Text) : Nat → Text → Text × List Text
  | _, [] => ([], [])
  | skip + 1, _ :: cs => cutAux piece skip cs
  | 0, c :: cs =>
    if startsWith (c :: cs) piece then
      let (part, parts) := cutAux piece (piece.length - 1) cs
      ([], part :: parts)
    else
      let (part, parts) := cutAux piece 0 cs
      (c :: part, parts)

/-- An empty `piece` stands before every character and at the end of a text that has any. -/
def cut (piece t : Text) : List Text :=
  match piece, t with
  | [], [] => [[]]
  | [], t => [] :: (t.map fun c => [c]) ++ [[]]
  | piece, t =>
    let (part, parts) := cutAux piece 0 t
    part :: parts

def join (separator : Text) : List Text → Text
  | [] => []
  | [t] => t
  | t :: ts => t ++ separator ++ join separator ts

def occurrences (piece t : Text) : Nat := (cut piece t).length - 1

def replace (piece by' t : Text) : Text := join by' (cut piece t)

def replaceFirst (piece by' t : Text) : Text :=
  match cut piece t with
  | part :: rest@(_ :: _) => part ++ by' ++ join piece rest
  | _ => t

-- -----------------------------------------------------------------------------------------
-- Cutting at a character
-- -----------------------------------------------------------------------------------------

/-- The parts before and after the first `c`. -/
def splitFirst? (c : Char) : Text → Option (Text × Text)
  | [] => none
  | x :: xs =>
    if x == c then some ([], xs) else (splitFirst? c xs).map fun (a, b) => (x :: a, b)

/-- The parts before and after the last `c`. -/
def splitLast? (c : Char) (t : Text) : Option (Text × Text) :=
  (splitFirst? c t.reverse).map fun (b, a) => (a.reverse, b.reverse)

def splitOn (c : Char) (t : Text) : List Text := cut [c] t

/-- The maximal runs of characters that are not white space. -/
def words : Text → List Text
  | [] => []
  | c :: cs =>
    if isBlank c then words cs
    else match cs, words cs with
      | [], _ => [[c]]
      | d :: _, w :: ws => if isBlank d then [c] :: w :: ws else (c :: w) :: ws
      | _ :: _, [] => [[c]]

-- -----------------------------------------------------------------------------------------
-- Comparing and measuring
-- -----------------------------------------------------------------------------------------

/-- Equality up to the case of ASCII letters. -/
def eqAsciiCase (a b : Text) : Bool := a.map Char.toLower == b.map Char.toLower

def byteSize (t : Text) : Nat := t.foldl (fun n c => n + c.utf8Size) 0

def slice (t : Text) (start stop : Nat) : Text := (t.drop start).take (stop - start)

/-- Where the line that holds position `i` begins. -/
def lineStart (t : Text) (i : Nat) : Nat :=
  i - ((t.take i).reverse.takeWhile (· != '\n')).length

-- -----------------------------------------------------------------------------------------
-- The UTF-8 form
-- -----------------------------------------------------------------------------------------

def toBytes (t : Text) : Bytes := t.flatMap String.utf8EncodeChar

/-- The text whose form the bytes are, if there is one. -/
def ofBytes? (b : Bytes) : Option Text := b.toByteArray.utf8Decode?.map Array.toList

theorem toByteArray_toBytes (t : Text) : (toBytes t).toByteArray = List.utf8Encode t := rfl

theorem ofBytes?_toBytes (t : Text) : ofBytes? (toBytes t) = some t := by
  rw [ofBytes?, toByteArray_toBytes, List.utf8Decode?_utf8Encode]
  rfl

end Text

end Wikitext
