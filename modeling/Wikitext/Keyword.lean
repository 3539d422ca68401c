import Wikitext.Pattern.Written
import Wikitext.Profile
import Wikitext.SortKey

/-!
# Title keywords

Words between double percent signs stand for parts of the title of the page at
hand. They are replaced one after the other, in a fixed order.
-/

namespace Wikitext.Keyword

def values (p : Profile) (title : Text) : List (Text × Text) :=
  let name := p.pageName title
  [("%%title%%".toList, title),
    ("%%fullpagename%%".toList, title),
    ("%%pagename%%".toList, name),
    ("%%basepagename%%".toList, p.basePageName title),
    ("%%subpagename%%".toList, p.subPageName title),
    ("%%namespace%%".toList, (p.namespaceOf? title).getD []),
    ("%%key%%".toList, SortKey.ofPerson name)]

/-- The text with its keywords replaced; `literally` makes the values fit for a pattern. -/
def expand (p : Profile) (title : Text) (literally : Bool) (t : Text) : Text :=
  if Text.includes t "%%".toList then
    (values p title).foldl
      (fun t (keyword, value) =>
        let value := if literally then Pattern.escape Pattern.reservedExtended value else value
        Text.replace keyword value t)
      t
  else t

end Wikitext.Keyword
