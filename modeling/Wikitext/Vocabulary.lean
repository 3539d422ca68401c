import Wikitext.Fix.Basic
import Wikitext.Pattern.Reader
import Wikitext.Profile
import Wikitext.Title

/-!
# The names of a wiki as patterns

A vocabulary holds a profile and the patterns built from it, so that they are
compiled once. Names from the profile stand for themselves, whatever
characters they have; only the pattern of stub names is read as a pattern, and
it alone can be wrong.
-/

namespace Wikitext

open Pattern

/-- Why a configuration cannot be used. -/
inductive ConfigError
  | unreadable (path : Text)
  | badProfile (path : Text)
  | badRules (path : Text)
  | badStubPattern (pattern : Text)
  deriving DecidableEq, Repr

def ConfigError.message : ConfigError → String
  | .unreadable path => "failed to read config file at " ++ String.ofList path
  | .badProfile path => "failed to parse profile at " ++ String.ofList path
  | .badRules path => "failed to parse rule list at " ++ String.ofList path
  | .badStubPattern pattern => "invalid stub pattern `" ++ String.ofList pattern ++ "`"

structure Vocabulary where
  profile : Profile
  stub : Regex
  /-- A category link; group 1 is the name, group 2 the sort key with its pipe. -/
  category : Regex
  /-- The start of a file link up to the name; group 1 is the namespace. -/
  filePrefix : Regex
  /-- The start of a template with a redundant namespace. -/
  templatePrefix : Regex
  /-- Any template or tag that displays the reference list. -/
  referenceDisplay : Regex
  /-- Signs that the article is about a person. -/
  biography : Regex

/-- One of several names; no names at all leave nothing to match. -/
def nameAmong : List Pattern → Pattern
  | [] => .empty
  | ps => firstOf ps

namespace Profile

def fileNamespace (p : Profile) : Pattern := nameAmong (p.fileNamespaces.map ofText)

/-- The written form of `fileNamespace`. -/
def fileNamespaceText (p : Profile) : Text :=
  Text.join ['|'] (p.fileNamespaces.map (escape reservedPlain))

def stub (p : Profile) : Except ConfigError Regex :=
  match readPlain p.stubPattern with
  | .ok r => .ok r
  | .error _ => .error (.badStubPattern p.stubPattern)

end Profile

/-- A name in which each space may be written as an underscore. -/
def spaceOrUnderscore (name : Text) : Pattern :=
  Pattern.inOrder (name.map fun c => if c == ' ' then oneOf " _" else single c)

def professions : Pattern :=
  firstOf (["person", "officeholder", "football biography", "musical artist", "writer",
    "scientist", "sportsperson"].map lit)

namespace Vocabulary

def ofProfile (p : Profile) : Except ConfigError Vocabulary := do
  let stub ← p.stub
  let category := ofText p.categoryNamespace
  let template := ofText p.templateNamespace
  let reflists := nameAmong (p.reflistTemplates.map spaceOrUnderscore)
  return {
    profile := p
    stub
    category :=
      (lit "[[" ++ gap ++ category ++ gap ++ lit ":" ++ gap ++
        group 1 (manyLazy (noneOf "[]|\n")) ++ gap ++
        opt (group 2 (lit "|" ++ many (noneOf "[]\n"))) ++ lit "]]").caseless.compile
    filePrefix :=
      (lit "[[" ++ gap ++ group 1 p.fileNamespace ++ gap ++ lit ":" ++ gap).caseless.compile
    templatePrefix :=
      (lit "\x7b\x7b" ++ gap ++ template ++ gap ++ lit ":" ++ gap).caseless.compile
    referenceDisplay :=
      (lit "<references" ++ boundary <|>
        lit "\x7b\x7b" ++ blanks ++ opt (template ++ blanks ++ lit ":" ++ blanks) ++ reflists ++
          blanks ++ oneOf "|\x7d").caseless.compile
    biography :=
      (lit "[[" ++ blanks ++ category ++ blanks ++ lit ":" ++ blanks ++
          (between 1 4 digit ++ opt (lit "s") ++ many1 blank ++ opt (lit "BC" ++ many1 blank) ++
              (lit "births" <|> lit "deaths") <|>
            lit "Living people") ++
          blanks ++ oneOf "|]" <|>
        lit "\x7b\x7b" ++ blanks ++
          (lit "Persondata" <|> lit "Infobox" ++ oneOf " _" ++ professions) ++
          boundary).caseless.compile }

end Vocabulary

end Wikitext
