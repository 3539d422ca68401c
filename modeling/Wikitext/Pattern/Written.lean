import Wikitext.Pattern.Search

/-!
# Written patterns

What a pattern in its written form says. Beyond the patterns of the plain
search it can look ahead and behind, commit to the first match of a part and
refer back to a group. A written pattern without these extras is a pattern.

A backslash in front of every character that could mean something else makes a
text describe itself. The two notations for patterns reserve different
characters.
-/

namespace Wikitext.Pattern

/-- What the notation without look-around reserves. -/
def reservedPlain : List Char := "\\.+*?()|[]\x7b\x7d^$#&-~".toList

/-- What the notation with look-around reserves. -/
def reservedExtended : List Char := "\\.+*?()|[]\x7b\x7d^$#".toList

def escape (reserved : List Char) (t : Text) : Text :=
  t.flatMap fun c => if reserved.contains c then ['\\', c] else [c]

end Wikitext.Pattern

namespace Wikitext

inductive Written
  | empty
  | char (accepts : Char → Bool)
  | anchor (a : Anchor)
  | seq (a b : Written)
  | alt (a b : Written)
  | capture (index : Nat) (a : Written)
  | times (least : Nat) (most : Option Nat) (greedy : Bool) (a : Written)
  | look (ahead positive : Bool) (a : Written)
  /-- Only the first match of `a` counts. -/
  | commit (a : Written)
  | backReference (index : Nat)

namespace Written

/-- Whether an extra occurs. -/
def isExtended : Written → Bool
  | .empty | .char _ | .anchor _ => false
  | .seq a b | .alt a b => a.isExtended || b.isExtended
  | .capture _ a | .times _ _ _ a => a.isExtended
  | .look .. | .commit _ | .backReference _ => true

/-- The pattern, if no extra occurs. -/
def pattern? : Written → Option Pattern
  | .empty => some .empty
  | .char accepts => some (.char accepts)
  | .anchor a => some (.anchor a)
  | .seq a b => do return .seq (← a.pattern?) (← b.pattern?)
  | .alt a b => do return .alt (← a.pattern?) (← b.pattern?)
  | .capture i a => do return .capture i (← a.pattern?)
  | .times least most greedy a => do return .times least most greedy (← a.pattern?)
  | .look .. | .commit _ | .backReference _ => none

/-- The least number of characters of a match. -/
def leastLength : Written → Nat
  | .empty | .anchor _ | .look .. | .backReference _ => 0
  | .char _ => 1
  | .seq a b => a.leastLength + b.leastLength
  | .alt a b => min a.leastLength b.leastLength
  | .capture _ a | .commit a => a.leastLength
  | .times least _ _ a => least * a.leastLength

/-- Whether all matches are seen at once to have the same number of characters. -/
def hasFixedLength : Written → Bool
  | .empty | .anchor _ | .look .. | .char _ => true
  | .seq a b => a.hasFixedLength && b.hasFixedLength
  | .alt a b => a.hasFixedLength && b.hasFixedLength && a.leastLength == b.leastLength
  | .capture _ a | .commit a => a.hasFixedLength
  | .times least most _ a => a.hasFixedLength && most == some least
  | .backReference _ => false

/-- The parts of a sequence, in order. -/
def parts : Written → List Written
  | .seq a b => a.parts ++ b.parts
  | .empty => []
  | w => [w]

/-- The alternatives, in order. -/
def choices : Written → List Written
  | .alt a b => a.choices ++ b.choices
  | w => [w]

def inSequence : List Written → Written
  | [] => .empty
  | [w] => w
  | w :: ws => .seq w (inSequence ws)

/-- A sequence without empty parts. -/
def followedBy (a b : Written) : Written :=
  match a, b with
  | .empty, b => b
  | a, .empty => a
  | a, b => .seq a b

end Written

end Wikitext
