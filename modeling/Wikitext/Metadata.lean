import Wikitext.Category
import Wikitext.SortKey

/-!
# Metadata at the end of an article

The default sort key, and the order of sort key, categories, stub templates
and interwiki links.
-/

namespace Wikitext.Metadata

open Pattern

/-- The default sort key under any of its names. -/
def defaultSortVariants : Regex :=
  (lit "\x7b\x7b" ++ blanks ++
    (lit "DEFAULTSORT" ++ opt (lit "KEY") <|> lit "DEFAULTCATEGORYSORT") ++ blanks ++
    oneOf ":|" ++ blanks ++ group 1 (manyLazy (noneOf "\x7b\x7d")) ++ blanks ++
    lit "\x7d\x7d").caseless.compile

def defaultSort : Regex :=
  (lit "\x7b\x7bDEFAULTSORT:" ++ group 1 (many (noneOf "\x7b\x7d")) ++ lit "\x7d\x7d").compile

def bareTemplate : Regex :=
  (lit "\x7b\x7b" ++ group 1 (many (noneOf "\x7b\x7d|")) ++ lit "\x7d\x7d").compile

def lowerLetter : Pattern := .char fun c => 'a' ≤ c && c ≤ 'z'

def interwikiLink : Regex :=
  (lit "[[" ++
    group 1 (between 2 3 lowerLetter ++ many (lit "-" ++ many1 lowerLetter) <|> lit "simple") ++
    gap ++ lit ":" ++ gap ++ group 2 (many1 (noneOf "[]|")) ++ lit "]]").compile

def excessBlankLines : Fix.Replacement :=
  .of (lit "\n" ++ gap ++ atLeast 2 (opt (lit "\r") ++ lit "\n" ++ gap)) fun _ => "\n\n".toList

def isStub (v : Vocabulary) (m : Match) : Bool := v.stub.isMatch (Text.trim (m.group 1))

def stubs (v : Vocabulary) (t : Text) : List Match := (bareTemplate.matches' t).filter (isStub v)

/-- The start of the line with the first category, default sort key or stub template. -/
def firstLine? (v : Vocabulary) (t : Text) : Option Nat :=
  let firsts := [v.category.find? t, defaultSortVariants.find? t, (stubs v t).head?]
  ((firsts.filterMap id).map fun m => m.offset t.length).min?.map (Text.lineStart t)

-- -----------------------------------------------------------------------------------------
-- The default sort key
-- -----------------------------------------------------------------------------------------

def sortKeyTemplate (key : Text) : Text := "\x7b\x7bDEFAULTSORT:".toList ++ key ++ "\x7d\x7d".toList

/-- The key that all categories of the text have in common, where there are several. -/
def commonKey? : List (Option Text) → Option Text
  | some key :: others@(_ :: _) =>
    let usable := !Text.isBlankText key && !key.head?.any (" *".toList.contains ·)
    if usable && others.all (· == some key) then some (Text.trimEnd key) else none
  | _ => none

/-- The key to add to a text without one. `restricted` leaves articles alone that are not
about a person. -/
def keyToAdd? (v : Vocabulary) (title : Text) (restricted : Bool) (t : Text) : Option Text :=
  let keys := (v.category.matches' t).map Category.keyOf?
  if !v.profile.isMainspace title || keys.isEmpty then none
  else match commonKey? keys with
    | some key => some key
    | none =>
      let name := v.profile.pageName title
      let person := v.biography.isMatch t
      if restricted && !person then none
      else
        let key := if person then SortKey.ofPerson name else SortKey.withoutDiacritics name
        if key != name then some key else none

/-- Category sort keys that repeat the default one are dropped. -/
def dropKeys (v : Vocabulary) (key t : Text) : Text :=
  v.category.replaceAll
    (fun m =>
      match m.group? 2 with
      | none => m.text
      | some own =>
        if Text.trim (own.drop 1) != Text.trim key then m.text
        else Text.trimEnd (m.text.take (m.text.length - own.length - 2)) ++ "]]".toList)
    t

/-- A text with its default sort key put right, and whether one was added. -/
structure SortKeyChange where
  text : Text
  added : Bool

def fixDefaultSort (v : Vocabulary) (title : Text) (restricted : Bool) (t : Text) :
    SortKeyChange :=
  let t := defaultSortVariants.replaceAll (fun m => sortKeyTemplate (m.group 1)) t
  match (defaultSort.matches' t).map (·.group 1) with
  | [] =>
    match keyToAdd? v title restricted t with
    | some key =>
      let position := match v.category.find? t with
        | some m => Text.lineStart t (m.offset t.length)
        | none => t.length
      let t := t.take position ++ sortKeyTemplate key ++ "\n".toList ++ t.drop position
      { text := dropKeys v key t, added := true }
    | none => { text := t, added := false }
  | [key] => { text := dropKeys v key t, added := false }
  -- Keys that contradict each other are left for a human.
  | _ => { text := t, added := false }

-- -----------------------------------------------------------------------------------------
-- Order
-- -----------------------------------------------------------------------------------------

/-- The first link of each category. -/
def distinctCategories (ms : List Match) : List Text :=
  (ms.foldl
    (fun (names, links) m =>
      let name := Category.nameOf m
      if names.contains name then (names, links) else (name :: names, links ++ [m.text]))
    (([] : List Text), ([] : List Text))).2

def interwikis (v : Vocabulary) (t : Text) : List Match :=
  (interwikiLink.matches' t).filter fun m => v.profile.isInterwikiCode (m.group 1)

/-- Moves the metadata to the end, in a fixed order and without repeated categories. Pages
that are to be included elsewhere, and texts with contradicting keys, stay as they are. -/
def sort (v : Vocabulary) (title t : Text) : Text :=
  let keys := defaultSortVariants.matches' t
  if !v.profile.isMainspace title || Text.includes t "<noinclude".toList ||
      Text.includes t "<includeonly".toList then t
  else if keys.any fun m => some m.text != (keys.head?.map (·.text)) then t
  else
    let categories := v.category.matches' t
    let stubs := stubs v t
    let interwikis := interwikis v t
    let stretches := (keys ++ categories ++ stubs ++ interwikis).map (Stretch.ofMatch t)
    if stretches.isEmpty then t
    else
      let body := Stretch.removeAll t (Stretch.sorted stretches)
      let body := Text.trimEnd (excessBlankLines.apply body)
      let blocks := [(keys.take 1).map (·.text) ++ distinctCategories categories,
        stubs.map (·.text), interwikis.map (·.text)]
      let metadata := (blocks.filter (!·.isEmpty)).map (Text.join "\n".toList)
      Text.join "\n\n".toList ((if body.isEmpty then [] else [body]) ++ metadata)

end Wikitext.Metadata
