import Wikitext.Diff.Lines

/-!
# Undoing single changes

Each operation takes back one row of the view and gives the right text without
that change, with carriage return and line feed between its lines.
-/

namespace Wikitext

inductive UndoError
  | leftOutOfRange (index length : Nat)
  | rightOutOfRange (index length : Nat)
  deriving DecidableEq, Repr

def UndoError.message : UndoError → String
  | .leftOutOfRange index length =>
    "left line " ++ toString index ++ " is out of range (left side has " ++ toString length ++
      " lines)"
  | .rightOutOfRange index length =>
    "right line " ++ toString index ++ " is out of range (right side has " ++ toString length ++
      " lines)"

namespace TextDiff

def joinLines (lines : List Text) : Text := Text.join "\r\n".toList lines

def checkLeft (d : TextDiff) (i : Nat) : Except UndoError Unit :=
  if i < d.left.size then .ok () else .error (.leftOutOfRange i d.left.size)

/-- Fails unless the position is one of the first `limit` ones. -/
def checkRight (d : TextDiff) (i limit : Nat) : Except UndoError Unit :=
  if i < limit then .ok () else .error (.rightOutOfRange i d.right.size)

/-- The right lines with one of them replaced by a left line. -/
def undoChange (d : TextDiff) (left right : Nat) : Except UndoError Text := do
  d.checkLeft left
  d.checkRight right d.right.size
  return joinLines (d.right.toList.set right (d.leftLine left))

/-- The right lines without one of them. -/
def undoAddition (d : TextDiff) (right : Nat) : Except UndoError Text := do
  d.checkRight right d.right.size
  return joinLines (d.right.toList.eraseIdx right)

/-- The right lines with a left line in front of one of them, or at the end. -/
def undoDeletion (d : TextDiff) (left right : Nat) : Except UndoError Text := do
  d.checkLeft left
  d.checkRight right (d.right.size + 1)
  return joinLines (d.right.toList.insertIdx right (d.leftLine left))

end TextDiff

end Wikitext
