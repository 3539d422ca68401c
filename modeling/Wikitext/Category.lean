import Wikitext.Stretch
import Wikitext.Vocabulary

/-!
# Categories

Category links in their canonical spelling, and adding, removing and replacing
a category. Two links belong to one category if their names agree after
normalisation.
-/

namespace Wikitext.Category

/-- Underscores and runs of white space become single spaces, the first letter upper case. -/
def normalName (name : Text) : Text :=
  Title.upperFirst
    (Text.join [' '] (Text.words (name.map fun c => if c == '_' then ' ' else c)))

def nameOf (m : Match) : Text := normalName (m.group 1)

/-- The sort key of a category link, without its pipe. -/
def keyOf? (m : Match) : Option Text := (m.group? 2).map (·.drop 1)

def link (namespaceName name : Text) : Text :=
  "[[".toList ++ namespaceName ++ ":".toList ++ name ++ "]]".toList

def linkWithKey (namespaceName name key : Text) : Text :=
  link namespaceName (name ++ "|".toList ++ key)

/-- A key of white space alone is kept as it is; an empty key is none. -/
def canonical (v : Vocabulary) (m : Match) : Text :=
  let name := nameOf m
  let here := v.profile.categoryNamespace
  if name.isEmpty then m.text
  else match keyOf? m with
    | none | some [] => link here name
    | some key =>
      linkWithKey here name (if Text.isBlankText key then key else Text.trimEnd key)

/-- Canonical spelling of the category links of a text. -/
def fixAll (v : Vocabulary) (t : Text) : Text := v.category.replaceAll (canonical v) t

def stretches (v : Vocabulary) (t name : Text) : List Stretch :=
  let name := normalName name
  ((v.category.matches' t).filter fun m => nameOf m == name).map (Stretch.ofMatch t)

/-- Adds a link after the last category, or at the end, unless there is one already. -/
def add (v : Vocabulary) (name t : Text) : Text :=
  let name := normalName name
  if name.isEmpty || !(stretches v t name).isEmpty then t
  else
    let link := link v.profile.categoryNamespace name
    match (v.category.matches' t).getLast? with
    | some last => t.take (t.length - last.stop.left) ++ "\n".toList ++ link ++ last.after
    | none => Text.trimEnd t ++ "\n\n".toList ++ link

def remove (v : Vocabulary) (name t : Text) : Text := Stretch.removeAll t (stretches v t name)

/-- Puts one category in the place of another and keeps the sort key. -/
def replace (v : Vocabulary) (old new t : Text) : Text :=
  let new := normalName new
  if !(stretches v t new).isEmpty then remove v old t
  else
    let old := normalName old
    v.category.replaceAll
      (fun m =>
        if nameOf m == old then link v.profile.categoryNamespace (new ++ m.group 2) else m.text)
      t

/-- Whether a category is present, up to the case of the first letter. -/
def isPresent (v : Vocabulary) (name t : Text) : Bool :=
  (v.category.matches' t).any fun m => Title.sameName (nameOf m) (normalName name)

end Wikitext.Category
