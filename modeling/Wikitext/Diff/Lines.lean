import Wikitext.Diff.Hunk
import Wikitext.Text.Basic

/-!
# Comparing texts line by line

Lines are numbered before they are compared, equal lines with equal numbers, so
that a comparison does not read them again.
-/

namespace Wikitext

namespace Diff

/-- The lines of a text; line ends may have a carriage return. -/
def splitLines (t : Text) : List Text :=
  (Text.splitOn '\n' t).map fun line => (Text.dropSuffix? ['\r'] line).getD line

/-- The number of `a` among those met so far, and all met now. A new one comes last. -/
def number {α : Type} [DecidableEq α] (met : Array α) (a : α) : Nat × Array α :=
  match met.findIdx? (· == a) with
  | some i => (i, met)
  | none => (met.size, met.push a)

def numberAll {α : Type} [DecidableEq α] (met : Array α) : List α → List Nat × Array α
  | [] => ([], met)
  | a :: as =>
    let (i, met) := number met a
    let (is, met) := numberAll met as
    (i :: is, met)

def lineHunks (left right : List Text) : List Hunk :=
  let (left, met) := numberAll #[] left
  let (right, _) := numberAll met right
  hunks left right

end Diff

/-- Two texts compared line by line. `context` is the number of unchanged lines to show before
and after a change. -/
structure TextDiff where
  left : Array Text
  right : Array Text
  hunks : List Hunk
  context : Nat
  deriving DecidableEq, Repr

namespace TextDiff

def ofTexts (left right : Text) (context : Nat) : TextDiff :=
  let left := Diff.splitLines left
  let right := Diff.splitLines right
  { left := left.toArray, right := right.toArray, hunks := Diff.lineHunks left right, context }

def hasChanges (d : TextDiff) : Bool := d.hunks.any (!·.same)

def leftLine (d : TextDiff) (i : Nat) : Text := d.left.getD i []

def rightLine (d : TextDiff) (i : Nat) : Text := d.right.getD i []

end TextDiff

end Wikitext
