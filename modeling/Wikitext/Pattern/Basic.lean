import Wikitext.Chars.Case
import Wikitext.Text.Basic

/-!
# Patterns

A pattern describes pieces of text: single characters of a class, places
between characters, sequences, alternatives in order of preference, captures
and repetition. Of several matches at one place the first in the order of
preference counts: the left alternative before the right, one more round
before stopping if a repetition is greedy, stopping first if it is lazy.

A class of characters is its acceptance test, so complement, union and closure
under letter case are the operations on tests.
-/

namespace Wikitext

/-- A condition on the place between two characters. -/
inductive Anchor
  | textStart
  | textEnd
  | lineStart
  | lineEnd
  | wordBoundary
  | insideWord
  | wordStart
  | wordEnd
  deriving DecidableEq

inductive Pattern
  | empty
  | char (accepts : Char → Bool)
  | anchor (a : Anchor)
  | seq (a b : Pattern)
  | alt (a b : Pattern)
  | capture (index : Nat) (a : Pattern)
  | times (least : Nat) (most : Option Nat) (greedy : Bool) (a : Pattern)

namespace Pattern

-- -----------------------------------------------------------------------------------------
-- Classes
-- -----------------------------------------------------------------------------------------

def anyChar : Pattern := .char fun _ => true

def notLineFeed (c : Char) : Bool := c != '\n'

def oneOf (chars : String) : Pattern :=
  let cs := chars.toList
  .char fun c => cs.contains c

def noneOf (chars : String) : Pattern :=
  let cs := chars.toList
  .char fun c => !cs.contains c

def single (x : Char) : Pattern := .char (· == x)

def blank : Pattern := .char Chars.isBlank

def digit : Pattern := .char Chars.isDigit

def word : Pattern := .char Chars.isWord

/-- The closure of a class under differences of letter case. -/
def anyCase (accepts : Char → Bool) (c : Char) : Bool :=
  accepts c || (Chars.variants c).any accepts

-- -----------------------------------------------------------------------------------------
-- Building patterns
-- -----------------------------------------------------------------------------------------

instance : Append Pattern := ⟨.seq⟩

instance : OrElse Pattern := ⟨fun a b => .alt a (b ())⟩

def never : Pattern := .char fun _ => false

def inOrder : List Pattern → Pattern
  | [] => .empty
  | [p] => p
  | p :: ps => p ++ inOrder ps

def ofText (t : Text) : Pattern := inOrder (t.map single)

def lit (s : String) : Pattern := ofText s.toList

/-- The first of the patterns that leads to a match; none of them, never. -/
def firstOf : List Pattern → Pattern
  | [] => never
  | [p] => p
  | p :: ps => .alt p (firstOf ps)

def many (p : Pattern) : Pattern := .times 0 none true p

def many1 (p : Pattern) : Pattern := .times 1 none true p

def manyLazy (p : Pattern) : Pattern := .times 0 none false p

def many1Lazy (p : Pattern) : Pattern := .times 1 none false p

def opt (p : Pattern) : Pattern := .times 0 (some 1) true p

def between (least most : Nat) (p : Pattern) : Pattern := .times least (some most) true p

def exactly (n : Nat) (p : Pattern) : Pattern := between n n p

def atLeast (n : Nat) (p : Pattern) : Pattern := .times n none true p

/-- The same pattern with every class closed under letter case. Classes given by exclusion
are to be free of letters. -/
def caseless : Pattern → Pattern
  | .char accepts => .char (anyCase accepts)
  | .seq a b => .seq a.caseless b.caseless
  | .alt a b => .alt a.caseless b.caseless
  | .capture i a => .capture i a.caseless
  | .times least most greedy a => .times least most greedy a.caseless
  | p => p

/-- Spaces and tabs, in any number. -/
def gap : Pattern := many (oneOf " \t")

def someGap : Pattern := many1 (oneOf " \t")

/-- White space of any kind, in any number. -/
def blanks : Pattern := many blank

def boundary : Pattern := .anchor .wordBoundary

def lineStart : Pattern := .anchor .lineStart

def lineEnd : Pattern := .anchor .lineEnd

def textEnd : Pattern := .anchor .textEnd

def group (index : Nat) (p : Pattern) : Pattern := .capture index p

-- -----------------------------------------------------------------------------------------
-- Properties that steer the search
-- -----------------------------------------------------------------------------------------

/-- Whether a match may be empty. -/
def nullable : Pattern → Bool
  | .empty | .anchor _ => true
  | .char _ => false
  | .seq a b => a.nullable && b.nullable
  | .alt a b => a.nullable || b.nullable
  | .capture _ a => a.nullable
  | .times least _ _ a => least == 0 || a.nullable

/-- Whether there can be more than one match at a place. -/
def branches : Pattern → Bool
  | .empty | .anchor _ | .char _ => false
  | .seq a b => a.branches || b.branches
  | .alt _ _ => true
  | .capture _ a => a.branches
  | .times least most _ a => most != some least || a.branches

end Pattern

end Wikitext
