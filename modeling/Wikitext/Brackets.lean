import Wikitext.Text.Basic

/-!
# Unbalanced brackets

Double square, double curly and single square brackets are read from left to
right; single curly braces are ignored, as tables and template parameters use
them. Positions count bytes of the UTF-8 form.
-/

namespace Wikitext

inductive Bracket
  | doubleSquare
  | doubleCurly
  | square
  deriving DecidableEq

def Bracket.length : Bracket → Nat
  | .square => 1
  | _ => 2

/-- Where a bracket without a partner begins and how long it is. -/
structure UnbalancedBracket where
  position : Nat
  length : Nat
  deriving DecidableEq, Repr

namespace Bracket

/-- The brackets that are open, the innermost first, with their positions. -/
abbrev Opened := List (Bracket × Nat)

def report (opened : Opened) (position length : Nat) : UnbalancedBracket :=
  match opened with
  | (bracket, start) :: _ => ⟨start, bracket.length⟩
  | [] => ⟨position, length⟩

def scan : Text → Nat → Opened → Option UnbalancedBracket
  | [], _, opened =>
    match opened with
    | [] => none
    | (bracket, start) :: _ => some ⟨start, bracket.length⟩
  | '[' :: '[' :: rest, i, opened => scan rest (i + 2) ((.doubleSquare, i) :: opened)
  | '\x7b' :: '\x7b' :: rest, i, opened => scan rest (i + 2) ((.doubleCurly, i) :: opened)
  | ']' :: ']' :: rest, i, (.doubleSquare, _) :: opened => scan rest (i + 2) opened
  | '\x7d' :: '\x7d' :: rest, i, opened =>
    match opened with
    | (.doubleCurly, _) :: opened => scan rest (i + 2) opened
    | opened => some (report opened i 2)
  | '[' :: rest, i, opened => scan rest (i + 1) ((.square, i) :: opened)
  | ']' :: rest, i, opened =>
    match opened with
    | (.square, _) :: opened => scan rest (i + 1) opened
    | opened => some (report opened i 1)
  | c :: rest, i, opened => scan rest (i + c.utf8Size) opened

end Bracket

/-- The first bracket found to have no partner; of those open at the end, the innermost. -/
def unbalancedBracket? (t : Text) : Option UnbalancedBracket := Bracket.scan t 0 []

end Wikitext
