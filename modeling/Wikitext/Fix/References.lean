import Wikitext.Fix.Basic

/-!
# References

The spelling of reference tags, references that occur more than once, and
punctuation after references.
-/

namespace Wikitext.Fix

open Pattern

-- -----------------------------------------------------------------------------------------
-- Tags
-- -----------------------------------------------------------------------------------------

def closingRef : Pattern := lit "</ref" ++ blanks ++ lit ">"

def nameAttribute : Pattern := many1 blank ++ lit "name" ++ blanks ++ lit "=" ++ blanks

def refTagTable : List Replacement := [
  .of (lit "<" ++ blanks ++ lit "ref" ++ blanks ++ lit ">").caseless fun _ => "<ref>".toList,
  .of (lit "<" ++ blanks ++ lit "/" ++ blanks ++ lit "ref" ++ blanks ++ lit ">").caseless
    fun _ => "</ref>".toList,
  .of (lit "<" ++ blanks ++ lit "ref" ++ nameAttribute).caseless
    fun _ => "<ref name=".toList,
  .of (lit "<ref name=\"" ++ blanks ++ group 1 (manyLazy (noneOf "\"<>")) ++ blanks ++ lit "\"")
    fun m => "<ref name=\"".toList ++ m.group 1 ++ "\"".toList,
  -- white space in front of a reference
  .of (group 1 notBlank ++ someGap ++ group 2 (lit "<ref" ++ oneOf " >"))
    fun m => m.group 1 ++ m.group 2]

def bareName : Replacement :=
  .of (lit "<ref name=" ++ group 1 (noneOfOrBlank "\"'>/" ++ manyLazy (noneOf "\"'>/")) ++ blanks ++
      group 2 (opt (lit "/")) ++ lit ">")
    fun m =>
      let name := m.group 1
      if name.any Chars.isBlank then
        "<ref name=\"".toList ++ name ++ "\"".toList ++
          (if (m.group 2).isEmpty then ">" else " />").toList
      else m.text

/-- One spelling of reference tags; names of several words are quoted. -/
def referenceTags (t : Text) : Text :=
  untilStable (fun t => bareName.apply (replaceUntilStable refTagTable t)) t

/-- The name is not to end in a slash, which would make the tag stand alone already. -/
def emptyNamedRef : Replacement :=
  .of (lit "<ref" ++ group 1 (nameAttribute ++ many (noneOf "<>") ++ noneOfOrBlank "<>/") ++
      blanks ++ lit ">" ++ blanks ++ closingRef).caseless
    fun m => "<ref".toList ++ m.group 1 ++ " />".toList

def emptyRef : Replacement :=
  .of (lit "<ref" ++ blanks ++ lit ">" ++ blanks ++ closingRef).caseless fun _ => []

def simplifiedTags (t : Text) : Text :=
  untilStable (fun t => emptyRef.apply (emptyNamedRef.apply t)) t

-- -----------------------------------------------------------------------------------------
-- Repeated references
-- -----------------------------------------------------------------------------------------

def unnamedRef : Regex :=
  (lit "<ref>" ++ group 1 (many1Lazy anyChar) ++ closingRef).caseless.compile

/-- A name, with or without double quotes around it. -/
def refName : Pattern := opt (lit "\"") ++ group 1 (many1Lazy (noneOf "\"<>/")) ++ opt (lit "\"")

def namedRef : Regex :=
  (lit "<ref" ++ nameAttribute ++ refName ++ blanks ++ lit ">" ++
    group 2 (many1Lazy anyChar) ++ closingRef).caseless.compile

def namedTag : Regex :=
  (lit "<ref" ++ nameAttribute ++ refName ++ blanks ++ opt (lit "/") ++ lit ">").caseless.compile

/-- The names given to merged references, in order. -/
def mergedNames : List Text :=
  "ABCDEFGHIJKLMNOPQRSTUVWXYZ".toList.map fun c => "Reference".toList ++ [c]

def reuseTag (name : Text) : Text := "<ref name=\"".toList ++ name ++ "\" />".toList

/-- The names that are left, and the contents met so far with the name each was given, if
there was one. -/
structure Naming where
  free : List Text
  given : List (Text × Option Text)

/-- Names the first of several equal references and refers to it from the others. -/
def nameOne (contents : List Text) (m : Match) (s : Naming) : Text × Naming :=
  let key := Text.trim (m.group 1)
  if contents.count key < 2 then (m.text, s)
  else match s.given.lookup key with
    | some (some name) => (reuseTag name, s)
    | some none => (m.text, s)
    | none =>
      match s.free with
      | [] => (m.text, { s with given := (key, none) :: s.given })
      | name :: free =>
        ("<ref name=\"".toList ++ name ++ "\">".toList ++ m.group 1 ++ "</ref>".toList,
          { free, given := (key, some name) :: s.given })

def nameRepeated (t : Text) : Text :=
  let contents := (unnamedRef.matches' t).map fun m => Text.trim (m.group 1)
  let used := (namedTag.matches' t).map (·.group 1)
  let free := mergedNames.filter (!used.contains ·)
  (unnamedRef.replaceWith (nameOne contents) { free, given := [] } t).1

/-- Equal references without a name get one, and all but the first refer to it. -/
def mergeUnnamed (t : Text) : Text := untilStable nameRepeated t

/-- The first content seen for each name. -/
abbrev Definitions := List (Text × Text)

def reuseOne (m : Match) (seen : Definitions) : Text × Definitions :=
  let name := Text.trim (m.group 1)
  let content := Text.trim (m.group 2)
  match seen.lookup name with
  | some first => (if first == content then reuseTag name else m.text, seen)
  | none => (m.text, (name, content) :: seen)

/-- A definition of a name that repeats the first one refers to it instead. -/
def mergeNamed (t : Text) : Text := untilStable (fun t => (namedRef.replaceWith reuseOne [] t).1) t

-- -----------------------------------------------------------------------------------------
-- Punctuation
-- -----------------------------------------------------------------------------------------

def refsThenPunctuation : Regex :=
  (group 1 (many1 (
      lit "<ref" ++ boundary ++ many (noneOf ">/") ++ lit "/>" <|>
      lit "<ref" ++ opt (blank ++ many (noneOf ">")) ++ lit ">" ++ manyLazy anyChar ++
        closingRef)) ++
    gap ++ group 2 (oneOf ".,;:")).caseless.compile

/-- Punctuation that is there already is not repeated. -/
def punctuationFirst (m : Match) : Text :=
  let mark := m.group 2
  if m.before.any (mark.contains ·) then m.group 1 else mark ++ m.group 1

def punctuationBeforeRefs (t : Text) : Text :=
  untilStable (refsThenPunctuation.replaceAll punctuationFirst) t

end Wikitext.Fix
