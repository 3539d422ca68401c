import Wikitext.Stretch
import Wikitext.Vocabulary

/-!
# Images

The prefix of file links, and replacing, removing and commenting out an image.
In the name of a file, spaces and underscores are the same and the case of the
first letter does not count.
-/

namespace Wikitext.Image

open Pattern

/-- The known spelling of a namespace, if there is one. -/
def canonicalPrefix (v : Vocabulary) (m : Match) : Text :=
  let written := m.group 1
  let known := (v.profile.fileNamespaces.find? (Text.eqAsciiCase · written)).getD written
  "[[".toList ++ known ++ ":".toList

def fixPrefixes (v : Vocabulary) (t : Text) : Text := v.filePrefix.replaceAll (canonicalPrefix v) t

def namePattern (name : Text) : Pattern :=
  Title.patternWith (fun c => if c == ' ' then many1 (oneOf " _") else single c)
    (Text.trim (name.map fun c => if c == '_' then ' ' else c))

def fileNamespace (v : Vocabulary) : Pattern := v.profile.fileNamespace.caseless

/-- A link to the file, with a caption that may hold links. -/
def linkTo (v : Vocabulary) (name : Text) : Regex :=
  (lit "[[" ++ gap ++ fileNamespace v ++ gap ++ lit ":" ++ gap ++ namePattern name ++ gap ++
    opt (lit "|" ++ many (noneOf "[]") ++
      many (lit "[[" ++ many (noneOf "[]") ++ lit "]]" ++ many (noneOf "[]"))) ++
    lit "]]").compile

/-- A mention of the file in a link, a gallery or a parameter. -/
def mentionOf (v : Vocabulary) (name : Text) : Regex :=
  (group 1 (firstOf [fileNamespace v ++ gap ++ lit ":" ++ gap, lit "=" ++ gap,
      lineStart ++ gap]) ++
    group 2 (namePattern name) ++ group 3 (gap ++ (oneOf "|]\x7d\n<" <|> lineEnd))).compile

def replace (v : Vocabulary) (old new t : Text) : Text :=
  let new := new.map fun c => if c == '_' then ' ' else c
  (mentionOf v old).replaceAll (fun m => m.group 1 ++ new ++ m.group 3) t

/-- The file as the value of a parameter. -/
def parameterWith (name : Text) : Regex :=
  (group 1 (lit "=" ++ gap) ++ namePattern name ++ group 2 (gap ++ oneOf "|\x7d\n")).compile

/-- Links to the file go, and parameters that hold it are emptied. -/
def remove (v : Vocabulary) (name t : Text) : Text :=
  let links := ((linkTo v name).matches' t).map (Stretch.ofMatch t)
  (parameterWith name).replaceAll (fun m => m.group 1 ++ m.group 2) (Stretch.removeAll t links)

def commentOut (v : Vocabulary) (name comment t : Text) : Text :=
  let comment := Text.trim comment
  let opening := if comment.isEmpty then "<!-- ".toList
    else "<!-- ".toList ++ comment ++ " ".toList
  (linkTo v name).replaceAll (fun m => opening ++ m.text ++ " -->".toList) t

end Wikitext.Image
