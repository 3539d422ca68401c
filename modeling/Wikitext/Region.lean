import Wikitext.Fix.Basic
import Wikitext.Vocabulary

/-!
# Regions that a mask can hide

Comments and elements whose content is no wikitext, references, images with
their captions, web addresses, templates, headings and links.
-/

namespace Wikitext.Region

open Pattern

/-- Elements whose content is never changed. -/
def unformattedTags : List String :=
  ["nowiki", "pre", "math", "source", "syntaxhighlight", "code", "timeline", "score", "chem",
    "ce", "graph", "templatedata"]

/-- An element that is empty or goes up to its first closing tag. -/
def element (name : String) : Pattern :=
  lit "<" ++ lit name ++ boundary ++ manyLazy (noneOf ">") ++ lit "/>" <|>
    lit "<" ++ lit name ++ boundary ++ many (noneOf ">") ++ lit ">" ++ manyLazy anyChar ++
      lit "</" ++ lit name ++ blanks ++ lit ">"

def unformatted : Regex :=
  (firstOf ((lit "<!--" ++ manyLazy anyChar ++ lit "-->") ::
    unformattedTags.map element)).caseless.compile

def references : Regex :=
  (lit "<ref" ++ boundary ++ many (noneOf ">/") ++ lit "/>" <|>
    lit "<ref" ++ boundary ++ many (noneOf ">") ++ lit ">" ++ manyLazy anyChar ++
      lit "</ref" ++ blanks ++ lit ">").caseless.compile

def externalLinks : Regex :=
  (lit "[" ++ Fix.scheme ++ many (noneOf "]\n") ++ lit "]" <|>
    Fix.scheme ++ many1 (Fix.noneOfOrBlank "<>[]\x7b\x7d|\"")).caseless.compile

def innermostTemplate : Regex :=
  (lit "\x7b\x7b" ++ many (noneOf "\x7b\x7d") ++ lit "\x7d\x7d").compile

def headings : Regex :=
  (lineStart ++ many1 (lit "=") ++ noneOf "=\n" ++ manyLazy (.char notLineFeed) ++
    many1 (lit "=") ++ gap ++ lineEnd).compile

def links : Regex := (lit "[[" ++ many (noneOf "[]") ++ lit "]]").compile

/-- A piped link up to its pipe, or a whole link without one. -/
def linkTargets : Regex :=
  (lit "[[" ++ many (noneOf "[]|") ++ lit "|" <|>
    lit "[[" ++ many (noneOf "[]|") ++ lit "]]").compile

/-- File links, whose captions may hold links. -/
def images (p : Profile) : Regex :=
  (lit "[[" ++ blanks ++ p.fileNamespace ++ blanks ++ lit ":" ++ many (noneOf "[]") ++
    many (lit "[[" ++ many (noneOf "[]") ++ lit "]]" ++ many (noneOf "[]")) ++
    lit "]]").caseless.compile

end Wikitext.Region
