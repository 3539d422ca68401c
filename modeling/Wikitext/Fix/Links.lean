import Wikitext.Fix.Basic
import Wikitext.Title

/-!
# Links

White space around and inside links, their targets and labels, links of an
article to itself, and hand-written hatnotes.
-/

namespace Wikitext.Fix

open Pattern

-- -----------------------------------------------------------------------------------------
-- White space
-- -----------------------------------------------------------------------------------------

def spaceBeforeEnd : Replacement :=
  .of (lit "[[" ++ group 1 (opt (many (noneOf "[]|") ++ lit "|") ++ manyLazy (noneOf "[]") ++
      noneOfOrBlank "[]") ++ many1 (lit " ") ++ lit "]]" ++ opt (lit " "))
    fun m => "[[".toList ++ m.group 1 ++ "]] ".toList

def spaceAfterStart : Replacement :=
  .of (opt (lit " ") ++ lit "[[" ++ many1 (lit " ") ++ group 1 (manyLazy (noneOf "[]")) ++
      lit "]]")
    fun m =>
      let link := "[[".toList ++ m.group 1 ++ "]]".toList
      -- A space at the start of a line would make the line preformatted.
      if m.before.all (· == '\n') && m.text.head? != some ' ' then link else ' ' :: link

def spaceRun : Replacement := .of (atLeast 2 (lit " ")) fun _ => " ".toList

def doubleSpaceInTarget : Replacement :=
  .of (lit "[[" ++ many (noneOf "[]|\n") ++ lit "  " ++ many (noneOf "[]|\n") ++ oneOf "|]")
    fun m => spaceRun.apply m.text

def linkEdges (t : Text) : Text :=
  doubleSpaceInTarget.apply (spaceAfterStart.apply (spaceBeforeEnd.apply t))

/-- A link from the article of the given title to a section of its own. -/
def ownSection (title : Text) : Replacement :=
  .of (lit "[[" ++ blanks ++ Title.pattern title ++ blanks ++
      group 1 (lit "#" ++ many1 (noneOf "[]|")) ++ opt (group 2 (lit "|" ++ many (noneOf "[]"))) ++
      lit "]]")
    fun m => "[[".toList ++ m.group 1 ++ m.group 2 ++ "]]".toList

/-- Moves spaces at the edges of a link out of it and joins spaces inside targets. -/
def linkSpaces (title t : Text) : Text :=
  if title.isEmpty then untilStable linkEdges t
  else
    let ownSection := ownSection title
    untilStable (fun t => ownSection.apply (linkEdges t)) t

-- -----------------------------------------------------------------------------------------
-- Targets
-- -----------------------------------------------------------------------------------------

def targetWith (piece : String) : Pattern :=
  lit "[[" ++ group 1 (many (noneOf "[]|\x7b\x7d") ++ lit piece ++ many (noneOf "[]|\x7b\x7d")) ++
    group 2 (lit "|" <|> lit "]]")

def underscores : Replacement :=
  .of (targetWith "_") fun m =>
    if Text.includes (m.group 1) "://".toList then m.text
    else "[[".toList ++ Text.replace "_".toList " ".toList (m.group 1) ++ m.group 2

def encodedSpaces : Replacement :=
  .of (targetWith "%20") fun m =>
    "[[".toList ++ Text.replace "%20".toList " ".toList (m.group 1) ++ m.group 2

def linkToSelf (title : Text) : Regex :=
  (lit "[[" ++ blanks ++ Title.pattern title ++ blanks ++
    opt (lit "|" ++ group 1 (many (noneOf "[]|"))) ++ lit "]]").compile

/-- All copies of `piece` at the start taken away. -/
def dropAllPrefix (piece : Text) : Nat → Text → Text
  | 0, t => t
  | n + 1, t =>
    match Text.dropPrefix? piece t with
    | some rest => dropAllPrefix piece n rest
    | none => t

def unlink (m : Match) : Text :=
  match m.group? 1 with
  | some label => label
  | none =>
    let opened := dropAllPrefix "[[".toList m.text.length m.text
    let closed := (dropAllPrefix "]]".toList opened.length opened.reverse).reverse
    Text.trim closed

/-- Underscores and encoded spaces in targets become spaces, and links of the article to
itself lose their brackets. -/
def links (title t : Text) : Text :=
  let targets t := encodedSpaces.apply (underscores.apply t)
  if title.isEmpty then untilStable targets t
  else
    let linkToSelf := linkToSelf title
    untilStable (fun t => linkToSelf.replaceAll unlink (targets t)) t

-- -----------------------------------------------------------------------------------------
-- Labels
-- -----------------------------------------------------------------------------------------

def pipedLink : Pattern :=
  lit "[[" ++ group 1 (many1 (noneOf "[]|:#")) ++ lit "|" ++ group 2 (many1 (noneOf "[]|")) ++
    lit "]]"

/-- A label that is the target, or the target and more lower case letters, needs no pipe. -/
def simplerLink (m : Match) : Text :=
  let target := m.group 1
  let label := m.group 2
  if Text.trim target != target || Text.trim label != label then m.text
  else if Title.sameName target label then "[[".toList ++ label ++ "]]".toList
  else
    let front := label.take target.length
    let ending := label.drop target.length
    if !ending.isEmpty && Title.sameName front target &&
        ending.all (fun c => 'a' ≤ c && c ≤ 'z') then
      "[[".toList ++ front ++ "]]".toList ++ ending
    else m.text

def simplifiedLinks : Regex := pipedLink.compile

def simplifyLinks (t : Text) : Text := simplifiedLinks.replaceAll simplerLink t

def linkAndWord : Regex :=
  (pipedLink ++ lit " " ++ group 3 (many1 (noneOfOrBlank "[]\x7b\x7d<>|.,;:!?'"))).compile

/-- A link whose target is its label and the word after it takes the word in. -/
def stickyLinks (t : Text) : Text :=
  linkAndWord.replaceAll
    (fun m =>
      let joined := m.group 2 ++ " ".toList ++ m.group 3
      if Title.sameName (m.group 1) joined then "[[".toList ++ joined ++ "]]".toList else m.text)
    t

-- -----------------------------------------------------------------------------------------
-- Empty constructs, lists and hatnotes
-- -----------------------------------------------------------------------------------------

def emptyConstruct : Replacement :=
  .of (lit "[[" ++ gap ++ opt (lit "|") ++ gap ++ lit "]]" <|>
      lit "\x7b\x7b" ++ gap ++ opt (lit "|") ++ gap ++ lit "\x7d\x7d")
    fun _ => []

def emptyConstructs (t : Text) : Text := untilStable emptyConstruct.apply t

def headingMarks : Pattern := lit "=" ++ many1 (lit "=")

def externalLinksHeading : Regex :=
  (lineStart ++ headingMarks ++ gap ++ lit "External" ++ someGap ++ lit "link" ++ opt (lit "s") ++
    gap ++ headingMarks ++ gap ++ opt (lit "\r") ++ lineEnd).caseless.compile

def anyHeading : Regex := (lineStart ++ lit "==").compile

def bareExternalLink : Replacement :=
  .of (lineStart ++ gap ++ group 1 (lit "[" ++ scheme)).caseless
    fun m => "* ".toList ++ m.group 1

/-- Bare external links in the section for them become list items. -/
def bulletedLinks (t : Text) : Text :=
  match externalLinksHeading.find? t with
  | none => t
  | some m =>
    let start := t.length - m.stop.left
    let stop := match anyHeading.findFrom? m.stop with
      | some next => next.offset t.length
      | none => t.length
    t.take start ++ bareExternalLink.apply (Text.slice t start stop) ++ t.drop stop

def hatnote (first second : String) : Pattern :=
  (lineStart ++ opt (lit ":") ++ gap ++ opt (lit "''") ++ gap ++ lit first ++ someGap ++
    lit second ++ lit ":" ++ gap ++ lit "[[" ++ group 1 (many1 (noneOf "[]|")) ++ lit "]]" ++
    opt (lit ".") ++ gap ++ opt (lit "''") ++ gap ++ lineEnd).caseless

def mainArticle : Replacement :=
  .of (hatnote "Main" "article") fun m =>
    "\x7b\x7bMain|".toList ++ m.group 1 ++ "\x7d\x7d".toList

def furtherInformation : Replacement :=
  .of (hatnote "Further" "information") fun m =>
    "\x7b\x7bFurther|".toList ++ m.group 1 ++ "\x7d\x7d".toList

def hatnotes (t : Text) : Text := furtherInformation.apply (mainArticle.apply t)

end Wikitext.Fix
