import Wikitext.Diff.Row
import Wikitext.Diff.Word
import Wikitext.Text.Number

/-!
# The view as a table

One table row for each row of the view, each on a line of its own. In a pair of
changed lines the words that differ are marked. All text of the article is
escaped.
-/

namespace Wikitext

namespace Html

def escape (t : Text) : Text :=
  t.flatMap fun
    | '&' => "&amp;".toList
    | '<' => "&lt;".toList
    | '>' => "&gt;".toList
    | c => [c]

def markStart : Text := "<span class='diffchange diffchange-inline'>".toList

def markStop : Text := "</span>".toList

/-- The words from one position up to another, marked if they differ from the other side. -/
def wordRange (words : List Word) (start stop : Nat) (same : Bool) : Text :=
  if stop ≤ start then []
  else
    let shown := ((words.drop start).take (stop - start)).flatMap fun w =>
      escape w.body ++ escape w.trailing
    if same then shown else markStart ++ shown ++ markStop

def leftWords (d : WordDiff) : Text :=
  d.hunks.flatMap fun h => wordRange d.left h.leftStart h.leftStop h.same

def rightWords (d : WordDiff) : Text :=
  d.hunks.flatMap fun h => wordRange d.right h.rightStart h.rightStop h.same

def cell (attributes : String) (content : Text) : Text :=
  "<td ".toList ++ attributes.toList ++ ">".toList ++ content ++ "</td>".toList

def marker (sign : String) : Text := cell "class='diff-marker'" sign.toList

def lineNumber (i : Nat) : Text :=
  cell "colspan='2' class='diff-lineno'" ("Line ".toList ++ Text.ofNat (i + 1) ++ ":".toList)

def contextCell (line : Text) : Text := marker "&#160;" ++ cell "class='diff-context'" (escape line)

def deletedCell (content : Text) : Text := marker "−" ++ cell "class='diff-deletedline'" content

def addedCell (content : Text) : Text := marker "+" ++ cell "class='diff-addedline'" content

def emptyCell : Text := cell "colspan='2' class='diff-empty'" "&#160;".toList

def cells (d : TextDiff) : Row → Text
  | .header left right => lineNumber left ++ lineNumber right
  | .context left right => contextCell (d.leftLine left) ++ contextCell (d.rightLine right)
  | .changed left right =>
    let words := WordDiff.ofLines (d.leftLine left) (d.rightLine right)
    deletedCell (leftWords words) ++ addedCell (rightWords words)
  | .deleted left => deletedCell (escape (d.leftLine left)) ++ emptyCell
  | .added right => emptyCell ++ addedCell (escape (d.rightLine right))

def row (d : TextDiff) (r : Row) : Text := "<tr>".toList ++ cells d r ++ "</tr>\n".toList

end Html

def TextDiff.html (d : TextDiff) : Text := d.rows.flatMap (Html.row d)

end Wikitext
