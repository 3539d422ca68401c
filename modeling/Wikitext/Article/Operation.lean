import Wikitext.Article.Basic
import Wikitext.Category
import Wikitext.Image

/-!
# Operations on categories and images

What an operator asks for outright. An operation that changes the text is a
major change and is named in the edit summary.
-/

namespace Wikitext

inductive CategoryOperation
  | add (name : Text)
  | remove (name : Text)
  | replace (old new : Text)
  deriving DecidableEq, Repr

namespace CategoryOperation

def apply (v : Vocabulary) : CategoryOperation → Text → Text
  | .add name => Category.add v name
  | .remove name => Category.remove v name
  | .replace old new => Category.replace v old new

def describe (v : Vocabulary) (op : CategoryOperation) : Text :=
  let link := Category.link v.profile.categoryNamespace
  match op with
  | .add name => "added ".toList ++ link name
  | .remove name => "removed ".toList ++ link name
  | .replace old new => link old ++ EditSummary.arrow ++ link new

end CategoryOperation

inductive ImageOperation
  | replace (old new : Text)
  | remove (name : Text)
  | commentOut (name comment : Text)
  deriving DecidableEq, Repr

namespace ImageOperation

def apply (v : Vocabulary) : ImageOperation → Text → Text
  | .replace old new => Image.replace v old new
  | .remove name => Image.remove v name
  | .commentOut name comment => Image.commentOut v name comment

def describe : ImageOperation → Text
  | .replace old new => "replaced image ".toList ++ old ++ EditSummary.arrow ++ new
  | .remove name => "removed image ".toList ++ name
  | .commentOut name _ => "commented out image ".toList ++ name

end ImageOperation

namespace Article

/-- Does what an operator asked for, unless it leaves the text as it is. -/
def operate (a : Article) (t description : Text) (actor : Actor) : Article :=
  if t == a.text then a
  else
    let a := a.changeText t description actor
    { a with summary := a.summary.push description, majorChange := true }

def changeCategory (a : Article) (v : Vocabulary) (op : CategoryOperation)
    (skipIfUnchanged : Bool) : Article :=
  let t := op.apply v a.text
  (a.operate t (op.describe v) .categories).skipIf (skipIfUnchanged && t == a.text)
    "no category changed"

def changeImage (a : Article) (v : Vocabulary) (op : ImageOperation)
    (skipIfUnchanged : Bool) : Article :=
  let t := op.apply v a.text
  (a.operate t op.describe .images).skipIf (skipIfUnchanged && t == a.text) "no image changed"

end Article

end Wikitext
