import Wikitext.Diff.Lines
import Wikitext.Text.Number

/-!
# Rows of a side-by-side view

Changes are shown in full, with some of the unchanged lines around them. A
header stands where a block of rows begins after lines that are not shown.

In plain text a minus sign stands before the lines of the left text, a plus sign before those
of the right text and a space before common lines, which are shown as they are
on the right.
-/

namespace Wikitext

-- -----------------------------------------------------------------------------------------
-- The rows
-- -----------------------------------------------------------------------------------------

/-- A row with its line positions, counted from zero. -/
inductive Row
  | header (left right : Nat)
  | context (left right : Nat)
  | changed (left right : Nat)
  | deleted (left : Nat)
  | added (right : Nat)
  deriving DecidableEq, Repr

namespace Row

def contextRows (h : Hunk) (first count : Nat) : List Row :=
  (List.range' first count).map fun k => .context (h.leftStart + k) (h.rightStart + k)

/-- Lines of both sides are paired as far as they go. -/
def changeRows (h : Hunk) : List Row :=
  let paired := min h.leftLength h.rightLength
  (List.range paired).map (fun k => .changed (h.leftStart + k) (h.rightStart + k)) ++
    (List.range' (h.leftStart + paired) (h.leftLength - paired)).map .deleted ++
    (List.range' (h.rightStart + paired) (h.rightLength - paired)).map .added

/-- The rows of the hunks from one on. `isFirst` says that no hunk stands before them, and
`pending` that a header has to come before the next row. -/
def ofHunks (context : Nat) (isFirst pending : Bool) : List Hunk → List Row
  | [] => []
  | h :: rest =>
    if h.same then
      let length := h.leftLength
      let lead := if isFirst then 0 else min context length
      let trail := if rest.isEmpty then 0 else min context (length - lead)
      let pending := pending || lead + trail < length
      contextRows h 0 lead ++
        if trail = 0 then ofHunks context false pending rest
        else
          (if pending then [.header (h.leftStop - trail) (h.rightStop - trail)] else []) ++
            contextRows h (length - trail) trail ++ ofHunks context false false rest
    else
      (if pending then [.header h.leftStart h.rightStart] else []) ++ changeRows h ++
        ofHunks context false false rest

end Row

def TextDiff.rows (d : TextDiff) : List Row := Row.ofHunks d.context true true d.hunks

-- -----------------------------------------------------------------------------------------
-- Rows as plain text
-- -----------------------------------------------------------------------------------------

namespace PlainDiff

def header (left right : Nat) : Text :=
  "@@ line ".toList ++ Text.ofNat (left + 1) ++ " / ".toList ++ Text.ofNat (right + 1) ++
    " @@".toList

def lines (d : TextDiff) : Row → List Text
  | .header left right => [header left right]
  | .context _ right => [' ' :: d.rightLine right]
  | .changed left right => ['-' :: d.leftLine left, '+' :: d.rightLine right]
  | .deleted left => ['-' :: d.leftLine left]
  | .added right => ['+' :: d.rightLine right]

end PlainDiff

def TextDiff.plain (d : TextDiff) : Text :=
  (d.rows.flatMap (PlainDiff.lines d)).flatMap (· ++ ['\n'])

end Wikitext
